/-
When the publish stage is entered.

Publishing is off when a run begins, and only a publishing gate switches it. A gate that finds its
variable and succeeds switches it by what the variable says, whatever was there before, so what
counts is the last gate that found its variable (`publish_contextAfter`, by induction over the
turns). Variables are only ever added, which is why a variable that is set when the run begins is
found by every gate with the value it then had.
-/
import ReleasePipeline.CommandLine
import ReleasePipeline.Proofs.BuiltIn.Stages
import ReleasePipeline.Proofs.Pipeline.Outcomes

set_option autoImplicit false

namespace ReleasePipeline

/-! ## The gate

There are three ways through the gate, and each has its lemma: the variable is not there, it is no
truth value, or it is one. Only the last changes anything. -/

namespace Setup.PublishGate

open Effect

variable {s : Settings} {ctx : Context} {h : Host} {value : String}

/-- Without its variable the gate does nothing and succeeds. -/
theorem run_module_of_none (hnone : ctx.environment.get? s.variableName = none) :
    (module s).run ctx h = ⟨.ok (), ctx, h⟩ := by
  unfold module run
  rw [Module.run_ofSteps, RunM.run_context_bind]
  dsimp only
  rw [hnone]
  rfl

/-- A variable that spells no truth value fails the gate, and nothing is changed. -/
theorem run_module_of_notBoolean (hsome : ctx.environment.get? s.variableName = some value)
    (hparse : parseBool? value = none) :
    (module s).run ctx h = ⟨.error (.because (.notBoolean s.variableName value)), ctx, h⟩ := by
  unfold module run
  rw [Module.run_ofSteps, RunM.run_context_bind]
  dsimp only
  rw [hsome]
  dsimp only
  rw [hparse]
  rfl

/-- A truth value switches publishing to its negation, for it is about skipping. -/
theorem context_module_of_parseBool? (hsome : ctx.environment.get? s.variableName = some value)
    {skip : Bool} (hparse : parseBool? value = some skip) :
    ((module s).run ctx h).context = { ctx with publish := !skip } := by
  unfold module run
  rw [Module.run_ofSteps, RunM.run_context_bind]
  dsimp only
  rw [hsome]
  dsimp only
  rw [hparse]
  rfl

/-- A text is read as false exactly if it is one of the spellings of false. -/
theorem parseBool?_eq_some_false_iff : parseBool? value = some false ↔ value ∈ falseNames := by
  rw [parseBool?]
  constructor
  · intro h
    split at h
    · cases h
    · split at h
      · assumption
      · cases h
  · intro h
    -- no spelling is one of both
    have hnot : value ∉ trueNames := by
      revert value
      decide
    rw [if_neg hnot, if_pos h]

/-- A gate that finds its variable and succeeds publishes exactly if that is false. -/
theorem publish_module (hsome : ctx.environment.get? s.variableName = some value)
    (hok : ((module s).run ctx h).result = .ok ()) :
    ((module s).run ctx h).context.publish = true ↔ value ∈ falseNames := by
  rw [← parseBool?_eq_some_false_iff]
  cases hparse : parseBool? value with
  | none =>
    rw [run_module_of_notBoolean hsome hparse] at hok
    cases hok
  | some skip =>
    rw [context_module_of_parseBool? hsome hparse]
    cases skip <;> simp

/-- A gate decides whether to publish, and nothing else. -/
theorem exists_publish_module (s : Settings) (ctx : Context) (h : Host) :
    ∃ publish, ((module s).run ctx h).context = { ctx with publish } := by
  cases hvar : ctx.environment.get? s.variableName with
  | none =>
    rw [run_module_of_none hvar]
    exact ⟨ctx.publish, rfl⟩
  | some value =>
    cases hparse : parseBool? value with
    | none =>
      rw [run_module_of_notBoolean hvar hparse]
      exact ⟨ctx.publish, rfl⟩
    | some skip =>
      rw [context_module_of_parseBool? hvar hparse]
      exact ⟨!skip, rfl⟩

/-- A gate leaves the variables as they are. -/
theorem environment_module (s : Settings) (ctx : Context) (h : Host) :
    ((module s).run ctx h).context.environment = ctx.environment := by
  obtain ⟨publish, hpublish⟩ := exists_publish_module s ctx h
  rw [hpublish]

/-- Gates for different variables are different modules. -/
theorem module_injective : Function.Injective module := by
  intro s t hmodule
  -- a context that tells them apart: only the variable of the one gate is set, to no truth value
  let ctx : Context := { environment := Environment.empty.set s.variableName "?" }
  have hset : ctx.environment.get? s.variableName = some "?" := by
    rw [Environment.get?_set, if_pos rfl]
  have hs : (module s).run ctx {} = ⟨.error (.because (.notBoolean s.variableName "?")), ctx, {}⟩ :=
    run_module_of_notBoolean hset (by decide)
  rw [hmodule] at hs
  cases hvar : ctx.environment.get? t.variableName with
  | none =>
    rw [run_module_of_none hvar] at hs
    cases hs
  | some value =>
    rw [Environment.get?_set] at hvar
    split at hvar
    · rename_i hname
      cases s
      cases t
      exact congrArg _ hname.symm
    · cases hvar

end Setup.PublishGate

/-! ## What gates read -/

namespace Turn

/-- The module is a publishing gate, and it finds its variable with this value. -/
def Reads (t : Turn) (value : String) : Prop :=
  t.module.key = BuiltInModule.gate.key ∧ ∃ s : Setup.PublishGate.Settings,
    t.module.module = Setup.PublishGate.module s ∧
      t.state.context.environment.get? s.variableName = some value

/-- The module finds no variable, or is no gate. -/
def ReadsNothing (t : Turn) : Prop := ∀ value, ¬t.Reads value

/-- Of these turns the last one that reads anything reads this value. -/
def LastReads (ts : List Turn) (value : String) : Prop :=
  ∃ before t after, ts = before ++ t :: after ∧ t.Reads value ∧ ∀ x ∈ after, x.ReadsNothing

/-- The module is one of the built-in ones. -/
def IsBuiltIn (t : Turn) : Prop := ∃ b settings, BuiltInModule.Is b settings t.module

/-- The last reading is among the later turns, or it is the first turn and nothing is read later. -/
theorem lastReads_cons_iff {t : Turn} {ts : List Turn} {value : String} :
    LastReads (t :: ts) value
      ↔ LastReads ts value ∨ (t.Reads value ∧ ∀ x ∈ ts, x.ReadsNothing) := by
  constructor
  · rintro ⟨before, x, after, hsplit, hreads, hlater⟩
    cases before with
    | nil =>
      obtain ⟨rfl, rfl⟩ := List.cons.inj hsplit
      exact .inr ⟨hreads, hlater⟩
    | cons y before =>
      exact .inl ⟨before, x, after, (List.cons.inj hsplit).2, hreads, hlater⟩
  · rintro (⟨before, x, after, rfl, hreads, hlater⟩ | ⟨hreads, hlater⟩)
    · exact ⟨t :: before, x, after, rfl, hreads, hlater⟩
    · exact ⟨[], t, ts, rfl, hreads, hlater⟩

/-- The last reading is a reading. -/
theorem LastReads.exists_reads {ts : List Turn} {value : String} (h : LastReads ts value) :
    ∃ t ∈ ts, t.Reads value := by
  obtain ⟨before, t, after, rfl, hreads, -⟩ := h
  exact ⟨t, List.mem_append_right _ List.mem_cons_self, hreads⟩

/-- Where there is a reading, there is a last one. -/
theorem exists_lastReads {ts : List Turn} {t : Turn} {value : String} (ht : t ∈ ts)
    (hreads : t.Reads value) : ∃ last, LastReads ts last := by
  induction ts generalizing t value with
  | nil => cases ht
  | cons x ts ih =>
    by_cases hlater : ∃ y ∈ ts, ∃ v, y.Reads v
    · obtain ⟨y, hy, v, hv⟩ := hlater
      obtain ⟨last, hlast⟩ := ih hy hv
      exact ⟨last, lastReads_cons_iff.mpr (.inl hlast)⟩
    · have hnothing : ∀ y ∈ ts, y.ReadsNothing := fun y hy v hv => hlater ⟨y, hy, v, hv⟩
      rcases List.mem_cons.mp ht with rfl | ht
      · exact ⟨value, lastReads_cons_iff.mpr (.inr ⟨hreads, hnothing⟩)⟩
      · exact absurd hreads (hnothing t ht value)

/-- Turns that read nothing make no difference. -/
theorem lastReads_append_iff {ts later : List Turn} (hlater : ∀ x ∈ later, x.ReadsNothing)
    {value : String} : LastReads (ts ++ later) value ↔ LastReads ts value := by
  induction ts with
  | nil =>
    constructor
    · rintro ⟨before, x, after, hsplit, hreads, -⟩
      rw [List.nil_append] at hsplit
      exact absurd hreads
        (hlater x (hsplit ▸ List.mem_append_right before List.mem_cons_self) value)
    · rintro ⟨before, x, after, hsplit, -⟩
      exact absurd hsplit.symm (List.append_ne_nil_of_right_ne_nil _ (List.cons_ne_nil x after))
  | cons t ts ih =>
    rw [List.cons_append, lastReads_cons_iff, lastReads_cons_iff, ih, List.forall_mem_append,
      and_iff_left hlater]

/-- A gate reads the variable that its settings name. -/
theorem reads_iff_of_gate {t : Turn} {s : Setup.PublishGate.Settings}
    (h : BuiltInModule.Is .gate s t.module) {value : String} :
    t.Reads value ↔ t.state.context.environment.get? s.variableName = some value := by
  constructor
  · rintro ⟨-, s', hmodule, hvar⟩
    obtain rfl := Setup.PublishGate.module_injective (h.module.symm.trans hmodule)
    exact hvar
  · exact fun hvar => ⟨h.key, s, h.module, hvar⟩

/-- Other modules read nothing. -/
theorem readsNothing_of_ne_gate {t : Turn} {b : BuiltInModule} {settings : b.Settings}
    (h : BuiltInModule.Is b settings t.module) (hb : b ≠ .gate) : t.ReadsNothing :=
  fun _ hreads => hb (BuiltInModule.eq_gate_of_key (h.key.symm.trans hreads.1))

/-- What a turn leaves of the decision: what it reads decides, and else it stays. -/
theorem publish_outcome {t : Turn} (hbuiltIn : t.IsBuiltIn) (hok : t.outcome.result = .ok ()) :
    t.outcome.context.publish = true
      ↔ (∃ value ∈ Setup.PublishGate.falseNames, t.Reads value)
        ∨ (t.ReadsNothing ∧ t.state.context.publish = true) := by
  obtain ⟨b, settings, his⟩ := hbuiltIn
  have hmodule := his.module
  rw [outcome, hmodule] at hok ⊢
  by_cases hb : b = .gate
  · subst hb
    have hreads : ∀ value, t.Reads value ↔ _ := fun value => reads_iff_of_gate his
    cases hvar :
        t.state.context.environment.get? (Setup.PublishGate.Settings.variableName settings) with
    -- the gate is passed without effect, and the decision stays
    | none =>
      have hnothing : t.ReadsNothing := fun value h => by
        rw [hreads, hvar] at h
        cases h
      have hrun := Setup.PublishGate.run_module_of_none hvar
        (h := (t.state.say ("----> " ++ t.module.kind)).host)
      simp only [BuiltInModule.module, hrun]
      simp only [hnothing, true_and, iff_or_self]
      rintro ⟨value, -, h⟩
      exact absurd h (hnothing value)
    | some value =>
      have hread : t.Reads value := (hreads value).mpr hvar
      refine (Setup.PublishGate.publish_module hvar hok).trans ?_
      constructor
      · exact fun hfalse => .inl ⟨value, hfalse, hread⟩
      · rintro (⟨other, hfalse, hother⟩ | ⟨hnothing, -⟩)
        · rw [hreads, hvar] at hother
          cases hother
          exact hfalse
        · exact absurd hread (hnothing value)
  · have hnothing := readsNothing_of_ne_gate his hb
    rw [(b.changes hb settings _ _).publish_eq]
    constructor
    · exact fun h => .inr ⟨hnothing, h⟩
    · rintro (⟨value, -, h⟩ | ⟨-, h⟩)
      · exact absurd h (hnothing value)
      · exact h

/-- **The last reading decides.** After built-in modules that all succeed, each on the context of
its predecessor, the decision is what the last of them read that read anything, and the one they
started with if none did. -/
theorem publish_contextAfter {ctx : Context} {ts : List Turn} (hthreaded : Threaded ctx ts)
    (hbuiltIn : ∀ t ∈ ts, t.IsBuiltIn) (hok : ∀ t ∈ ts, t.outcome.result = .ok ()) :
    (contextAfter ctx ts).publish = true
      ↔ (∃ value ∈ Setup.PublishGate.falseNames, LastReads ts value)
        ∨ ((∀ t ∈ ts, t.ReadsNothing) ∧ ctx.publish = true) := by
  induction ts generalizing ctx with
  | nil =>
    have hnone : ∀ value, ¬LastReads [] value := by
      rintro value ⟨before, t, after, hsplit, -⟩
      exact absurd hsplit.symm (List.append_ne_nil_of_right_ne_nil _ (List.cons_ne_nil t after))
    simp [contextAfter, hnone]
  | cons t ts ih =>
    obtain ⟨rfl, hthreaded⟩ := hthreaded
    rw [List.forall_mem_cons] at hbuiltIn hok
    rw [contextAfter, ih hthreaded hbuiltIn.2 hok.2, publish_outcome hbuiltIn.1 hok.1]
    simp only [lastReads_cons_iff, List.forall_mem_cons]
    -- the later turns decide if they read anything, and otherwise this one does if it reads
    -- anything
    constructor
    · rintro (⟨value, hfalse, hlast⟩ | ⟨hlater, ⟨value, hfalse, hreads⟩ | ⟨hnothing, hctx⟩⟩)
      · exact .inl ⟨value, hfalse, .inl hlast⟩
      · exact .inl ⟨value, hfalse, .inr ⟨hreads, hlater⟩⟩
      · exact .inr ⟨⟨hnothing, hlater⟩, hctx⟩
    · rintro (⟨value, hfalse, hlast | ⟨hreads, hlater⟩⟩ | ⟨⟨hnothing, hlater⟩, hctx⟩)
      · exact .inl ⟨value, hfalse, hlast⟩
      · exact .inr ⟨hlater, .inl ⟨value, hfalse, hreads⟩⟩
      · exact .inr ⟨hlater, .inr ⟨hnothing, hctx⟩⟩

/-! ### Variables

No module of the program takes a variable away or gives it another value. The gate does not touch
them at all, and of the others it is one of the things that a `Change` keeps. -/

/-- A module leaves a variable that is there as it is. -/
theorem get?_outcome {t : Turn} (hbuiltIn : t.IsBuiltIn) {name value : String}
    (h : t.state.context.environment.get? name = some value) :
    t.outcome.context.environment.get? name = some value := by
  obtain ⟨b, settings, his⟩ := hbuiltIn
  rw [outcome, his.module]
  by_cases hb : b = .gate
  · subst hb
    have hsame := Setup.PublishGate.environment_module settings t.state.context
      (t.state.say ("----> " ++ t.module.kind)).host
    exact (congrArg (fun env => env.get? name) hsame).trans h
  · exact (b.changes hb settings _ _).get?_of_some h

/-- A variable that is there at first is there with the same value in every turn. -/
theorem get?_given {ctx : Context} {ts : List Turn} (hthreaded : Threaded ctx ts)
    (hbuiltIn : ∀ t ∈ ts, t.IsBuiltIn) {name value : String}
    (h : ctx.environment.get? name = some value) :
    ∀ t ∈ ts, t.state.context.environment.get? name = some value := by
  induction ts generalizing ctx with
  | nil => exact nofun
  | cons t ts ih =>
    obtain ⟨rfl, hthreaded⟩ := hthreaded
    rw [List.forall_mem_cons] at hbuiltIn ⊢
    exact ⟨h, ih hthreaded hbuiltIn.2 (get?_outcome hbuiltIn.1 h)⟩

/-! ### Programs -/

/-- The command is one that the settings of a module ask for: a hook of a build, or the program
that is to compress. -/
def Names (t : Turn) (c : Command) : Prop :=
  (t.module.key = BuiltInModule.go.key ∧ ∃ s : Build.Go.Settings,
    t.module.module = Build.Go.module s ∧
      ∃ hook ∈ s.before ++ s.after,
        Build.Go.hookCommand? t.state.context.environment hook = some c) ∨
  (t.module.key = BuiltInModule.upx.key ∧ ∃ s : Build.Upx.Settings,
    t.module.module = Build.Upx.module s ∧ c.program = s.program)

/-- Before the publish stage, a module sends no request and starts `scp` only if its settings
ask for it. -/
theorem onlyStarts {t : Turn} {b : BuiltInModule} {settings : b.Settings}
    (his : BuiltInModule.Is b settings t.module) (hcopy : b ≠ .copy) (hrelease : b ≠ .release)
    {P : Command → Prop} (hnames : ∀ c, t.Names c → P c) (hother : ∀ c, c.program ≠ "scp" → P c)
    (host : Host) :
    Host.OnlyStarts P host (t.module.module.run t.state.context host).host := by
  rw [his.module]
  refine b.host settings _ (fun c hc => Host.starts_onlyStarts ?_)
    (fun h => absurd h hrelease) host
  -- of the modules before the publish stage, three start programs: two by names that are fixed or
  -- come from settings, and `git`
  cases b with
  | git =>
    have hgit : c.program = "git" := hc
    exact hother c (by rw [hgit]; decide)
  | go =>
    rcases hc with hgo | ⟨hook, hmem, hcommand⟩
    · exact hother c (by rw [hgo]; decide)
    · exact hnames c (.inl ⟨his.key, settings, his.module, hook, hmem, hcommand⟩)
  | upx => exact hnames c (.inr ⟨his.key, settings, his.module, hc⟩)
  | copy => exact absurd rfl hcopy
  | _ => exact absurd hc id

end Turn

end ReleasePipeline
