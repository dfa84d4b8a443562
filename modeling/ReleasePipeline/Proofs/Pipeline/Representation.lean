/-
What a pipeline keeps, whatever is loaded into it.

There are five ways to load something: a module is added to a stage, an item or a section is
loaded into a stage, a document is loaded into all of them, or a default module is added. Any
sequence of them, with or without faults, is a sequence of appends (`afterCalls_grows`), and so
the statements about appends carry over: the set of loaded keys is that of the modules, each
module has the key that its type is found under, and nothing is taken away or moved.

What an append does not decide is which calls are refused. That is said of a single call, in a
stage that may hold anything.
-/
import ReleasePipeline.BuiltIn
import ReleasePipeline.Proofs.Pipeline.Additions

set_option autoImplicit false

namespace ReleasePipeline

/-! ## Looking up -/

/-- The key that a module is found under: its own for the stage if that is registered, and else
the one for every stage. -/
theorem Registry.key_of_lookup? {r : Registry} {stage kind : String} {key : ModuleKey}
    {registration : Registration} (h : r.lookup? stage kind = some (key, registration)) :
    key =
      if r.entries.contains ⟨stage, kind⟩ then ⟨stage, kind⟩
      else ⟨ModuleKey.anyStage, kind⟩ := by
  rw [lookup?, List.findSome?_cons] at h
  rw [Table.contains]
  -- the stage itself is asked first, so its own registration hides the one for every stage
  cases hstage : r.entries.find? ⟨stage, kind⟩ with
  | some found =>
    rw [hstage] at h
    cases h
    rfl
  | none =>
    rw [hstage, Option.map_none] at h
    dsimp only at h
    rw [List.findSome?_cons] at h
    cases hany : r.entries.find? ⟨ModuleKey.anyStage, kind⟩ with
    | some found =>
      rw [hany] at h
      cases h
      rfl
    | none =>
      rw [hany] at h
      cases h

namespace Stage

/-! ## Stages -/

/-- Each module has the key that its type is found under. -/
def KeepsFoundKeys (registry : Registry) (s : Stage) : Prop :=
  ∀ m ∈ s.modules, ∃ registration,
    (s.source registry).lookup? s.name m.kind = some (m.key, registration)

variable {registry : Registry} {s t : Stage}

/-- In a stage without modules there is nothing to be found. -/
theorem IsNew.keepsFoundKeys (h : s.IsNew) : s.KeepsFoundKeys registry := by
  intro m hm
  rw [h.1] at hm
  cases hm

/-- An append adds the key of the module to the set, so the two stay together. -/
theorem Grows.loadsItsKeys (h : Grows registry s t) (hs : s.LoadsItsKeys) : t.LoadsItsKeys :=
  h.keeps (P := LoadsItsKeys) (fun _ m hu => hu.append m) hs

/-- A module is appended under the key that it was just found under. -/
theorem Grows.keepsFoundKeys (h : Grows registry s t) (hs : s.KeepsFoundKeys registry) :
    t.KeepsFoundKeys registry := by
  induction h with
  | refl => exact hs
  | tail _ hadd ih =>
    obtain ⟨kind, key, registration, params, module, hlookup, -, rfl⟩ := hadd
    intro m hm
    rcases List.mem_append.mp hm with hm | hm
    · exact ih m hm
    · rw [List.mem_singleton.mp hm]
      exact ⟨registration, hlookup⟩

/-- A module that may be there only once is refused when it is there. -/
theorem error?_add_once {kind : String} {params : Option Yaml.Entries} {key : ModuleKey}
    {registration : Registration}
    (hlookup : (s.source registry).lookup? s.name kind = some (key, registration))
    (hloaded : s.loaded.contains key = true) :
    (s.add registry kind params true).error? = some (.duplicateModule key) := by
  rw [add, resolve, hlookup]
  simp only [hloaded, Bool.and_self, if_true]

end Stage

/-! ## Calls

A failing call is not undone by anybody, so what it left counts. `afterCalls` goes on from there,
and a statement about it is one about a program that ignores every fault. -/

/-- A call that loads something into a pipeline. Stages are counted from zero. -/
inductive LoadCall where
  | add (position : Nat) (kind : String) (params : Option Yaml.Entries) (once : Bool)
  | loadItem (position index : Nat) (item : Yaml.Value)
  | loadSection (position : Nat) (section_ : Yaml.Value)
  | load (document : Yaml.Value)
  | loadDefault (kind : String)

/-- The call asks for one module in one stage. -/
def LoadCall.IsSingle : LoadCall → Prop
  | .add .. => True
  | .loadItem .. => True
  | _ => False

namespace Pipeline

/-- Takes a loading step in the stage at a position; where there is none nothing happens. -/
def atStage (p : Pipeline) (position : Nat) (step : Stage → Loaded Stage) : Loaded Pipeline :=
  match p.stages[position]? with
  | none => { value := p }
  | some s => (step s).map fun t => { p with stages := p.stages.set position t }

end Pipeline

/-- What a call does to a pipeline. -/
def LoadCall.apply (p : Pipeline) : LoadCall → Loaded Pipeline
  | .add position kind params once =>
    p.atStage position fun s => s.add p.registry kind params once
  | .loadItem position index item => p.atStage position fun s => s.loadItem p.registry index item
  | .loadSection position section_ => p.atStage position fun s => s.loadSection p.registry section_
  | .load document => p.load document
  | .loadDefault kind => p.loadDefault kind

namespace Pipeline

/-- The pipeline after some calls, whether they succeeded or not. -/
def afterCalls (p : Pipeline) (calls : List LoadCall) : Pipeline :=
  calls.foldl (fun q call => (call.apply q).value) p

/-- Calls can be made in two parts. -/
theorem afterCalls_append (p : Pipeline) (before after : List LoadCall) :
    p.afterCalls (before ++ after) = (p.afterCalls before).afterCalls after :=
  List.foldl_append

variable {p : Pipeline} {position : Nat} {step : Stage → Loaded Stage}

/-- The other stages stay as they were. -/
theorem forall₂_set {R : Stage → Stage → Prop} (hrefl : ∀ s, R s s) {ss : List Stage} {s t : Stage}
    (hs : ss[position]? = some s) (ht : R s t) : List.Forall₂ R ss (ss.set position t) := by
  induction ss generalizing position with
  | nil => cases hs
  | cons s' rest ih =>
    cases position with
    | zero =>
      cases hs
      exact .cons ht (List.forall₂_same.mpr fun s _ => hrefl s)
    | succ position => exact .cons (hrefl s') (ih hs)

/-- What a step does to its stage by appending, it does to the pipeline. -/
theorem atStage_grows (hstep : ∀ s, Stage.Grows p.registry s (step s).value) :
    Grows p (p.atStage position step).value := by
  unfold atStage
  split
  · exact .refl p
  -- the step is taken, and the stages beside it stay
  next s hs => exact ⟨rfl, forall₂_set Stage.Grows.refl hs (hstep s)⟩

/-- A step that leaves its stage alone when it fails leaves the pipeline alone. -/
theorem value_atStage_of_error
    (hstep : ∀ s e, (step s).error? = some e → (step s).value = s) {e : LoadError}
    (h : (p.atStage position step).error? = some e) : (p.atStage position step).value = p := by
  unfold atStage at h ⊢
  split
  · rfl
  next s hs =>
    rw [hs] at h
    obtain ⟨hlt, hget⟩ := List.getElem?_eq_some_iff.mp hs
    have hset : p.stages.set position (step s).value = p.stages := by
      rw [hstep s e h, ← hget, List.set_getElem_self]
    exact congrArg (Pipeline.mk p.registry) hset

/-- One call appends modules, or does nothing. -/
theorem apply_grows (p : Pipeline) (call : LoadCall) : Grows p (call.apply p).value := by
  cases call with
  | add position kind params once =>
    exact atStage_grows fun s => s.add_grows p.registry kind params once
  | loadItem position index item =>
    exact atStage_grows fun s => s.loadItem_grows p.registry index item
  | loadSection position section_ =>
    exact atStage_grows fun s => s.loadSection_grows p.registry section_
  | load document => exact p.load_grows document
  | loadDefault kind => exact p.loadDefault_grows kind

/-- So do several calls. -/
theorem afterCalls_grows (p : Pipeline) (calls : List LoadCall) : Grows p (p.afterCalls calls) := by
  induction calls generalizing p with
  | nil => exact .refl p
  | cons call rest ih => exact (p.apply_grows call).trans (ih _)

/-- A call for one module that fails does nothing. -/
theorem value_apply_of_error {call : LoadCall} (hsingle : call.IsSingle) {e : LoadError}
    (h : (call.apply p).error? = some e) : (call.apply p).value = p := by
  cases call with
  | add position kind params once =>
    exact value_atStage_of_error (fun s e he => Stage.value_add_of_error he) h
  | loadItem position index item =>
    exact value_atStage_of_error (fun s e he => Stage.value_loadItem_of_error he) h
  -- a section or a document may have been loaded in part before its fault
  | _ => exact hsingle.elim

/-- **What every pipeline keeps.** Start from stages that nothing has been loaded into and make
any calls, whether they succeed or not. In every stage the set of loaded keys is that of the keys
of the modules, and each module has the key that its type is found under, which is the one for
the stage if that is registered and the one for every stage otherwise. Compared with any earlier
point, each stage has at most some modules more at its end. A call for one module that fails
leaves everything as it was, and a module that may be there only once is refused where its key
is already present. -/
theorem representation_after_calls (p : Pipeline) (hnew : ∀ s ∈ p.stages, s.IsNew)
    (calls : List LoadCall) :
    (∀ s ∈ (p.afterCalls calls).stages,
      (∀ key, s.loaded.contains key = true ↔ ∃ m ∈ s.modules, m.key = key) ∧
      ∀ m ∈ s.modules,
        (∃ registration,
          (s.source p.registry).lookup? s.name m.kind = some (m.key, registration)) ∧
        m.key = if (s.source p.registry).entries.contains ⟨s.name, m.kind⟩ then ⟨s.name, m.kind⟩
          else ⟨ModuleKey.anyStage, m.kind⟩) ∧
    (∀ before after, calls = before ++ after →
      List.Forall₂ (fun s t => ∃ more, t = s.appendAll more ∧ t.modules = s.modules ++ more)
        (p.afterCalls before).stages (p.afterCalls calls).stages) ∧
    (∀ (call : LoadCall) (e : LoadError), call.IsSingle →
      (call.apply (p.afterCalls calls)).error? = some e →
      (call.apply (p.afterCalls calls)).value = p.afterCalls calls) ∧
    ∀ position s kind params key registration,
      (p.afterCalls calls).stages[position]? = some s →
      (s.source p.registry).lookup? s.name kind = some (key, registration) →
      (∃ m ∈ s.modules, m.key = key) →
      ((LoadCall.add position kind params true).apply (p.afterCalls calls)).error?
        = some (.duplicateModule key) := by
  -- whatever was called, each stage has grown from one into which nothing was loaded
  have hgrows := (p.afterCalls_grows calls).stages
  have hloads : ∀ s ∈ (p.afterCalls calls).stages, s.LoadsItsKeys :=
    Stage.Grows.forall_of_keeps Stage.Grows.loadsItsKeys hgrows
      fun s hs => (hnew s hs).loadsItsKeys
  have hfound : ∀ s ∈ (p.afterCalls calls).stages, s.KeepsFoundKeys p.registry :=
    Stage.Grows.forall_of_keeps Stage.Grows.keepsFoundKeys hgrows
      fun s hs => (hnew s hs).keepsFoundKeys
  refine ⟨fun s hs => ⟨fun key => ?_, fun m hm => ?_⟩, fun before after hcalls => ?_,
    fun call e hsingle he => value_apply_of_error hsingle he,
    fun position s kind params key registration hs hlookup hkey => ?_⟩
  · rw [hloads s hs key, Stage.keys, List.mem_map]
  · obtain ⟨registration, hlookup⟩ := hfound s hs m hm
    exact ⟨⟨registration, hlookup⟩, Registry.key_of_lookup? hlookup⟩
  · rw [hcalls, afterCalls_append]
    refine ((p.afterCalls before).afterCalls_grows after).stages.imp fun s t hst => ?_
    obtain ⟨more, rfl⟩ := hst.exists_appendAll
    exact ⟨more, rfl, Stage.modules_appendAll s more⟩
  -- the refusal looks at the set of loaded keys and not at the modules
  · have hloaded : s.loaded.contains key = true := by
      rw [hloads s (List.mem_of_getElem? hs) key, Stage.keys, List.mem_map]
      exact hkey
    have hregistry : (p.afterCalls calls).registry = p.registry :=
      (p.afterCalls_grows calls).registry_eq
    rw [LoadCall.apply, atStage, hs, hregistry]
    exact Stage.error?_add_once hlookup hloaded

/-- In the standard pipeline over the built-in registry, a default module that was added is
refused a second time. -/
theorem default_refused_after_default :
    (∀ s ∈ (standard (.builtIn "demo")).stages, s.IsNew) ∧
    ((LoadCall.add 0 "env" none true).apply
      ((standard (.builtIn "demo")).afterCalls [.loadDefault "setup:env"])).error?
        = some (.duplicateModule ⟨"setup", "env"⟩) := by
  have hnew : ∀ s ∈ (standard (.builtIn "demo")).stages, s.IsNew := fun s hs =>
    (isNew_standard (.builtIn "demo") s hs).1
  obtain ⟨-, -, -, hrefused⟩ :=
    representation_after_calls (standard (.builtIn "demo")) hnew [.loadDefault "setup:env"]
  exact ⟨hnew, hrefused 0 _ "env" none _ _ rfl rfl ⟨_, List.mem_cons_self, rfl⟩⟩

end Pipeline

end ReleasePipeline
