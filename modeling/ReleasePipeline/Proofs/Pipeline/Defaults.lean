/-
The modules of a loaded pipeline: where they come from, and that the default ones are there.

Every module of a stage was looked up for its stage and made from some parameters (`Made`), and
when a document is loaded without a fault, each default module that somebody registered is held
by its stage, be it that the document lists it or that it was added.
-/
import ReleasePipeline.Proofs.Pipeline.Growth

set_option autoImplicit false

namespace ReleasePipeline

/-! ## Where modules come from -/

/-- The module was looked up for a stage of the given name and made from some parameters. -/
def StageModule.Made (registry : Registry) (stage : String) (m : StageModule) : Prop :=
  ∃ registration params, registry.lookup? stage m.kind = some (m.key, registration) ∧
    registration.create params = .ok m.module

/-- A stage without a registry of its own, all of whose modules were looked up and made. -/
structure Stage.AllMade (registry : Registry) (s : Stage) : Prop where
  registry?_eq : s.registry? = none
  modules : ∀ m ∈ s.modules, m.Made registry s.name

/-- What is added was looked up and made. -/
theorem Stage.Grows.allMade {registry : Registry} {s t : Stage} (h : Stage.Grows registry s t)
    (hs : s.AllMade registry) : t.AllMade registry := by
  induction h with
  | refl => exact hs
  | tail _ hadd ih =>
    obtain ⟨kind, key, registration, params, module, hlookup, hcreate, rfl⟩ := hadd
    refine ⟨ih.registry?_eq, fun m hm => ?_⟩
    rcases List.mem_append.mp hm with hm | hm
    · exact ih.modules m hm
    · rw [Stage.source, ih.registry?_eq] at hlookup
      rw [List.mem_singleton.mp hm]
      exact ⟨registration, params, hlookup, hcreate⟩

/-- What holds of one stage that grows holds of stages in a row. -/
theorem Stage.Grows.forall_allMade {registry : Registry} {ss ts : List Stage}
    (h : List.Forall₂ (Stage.Grows registry) ss ts) (hss : ∀ s ∈ ss, s.AllMade registry) :
    ∀ t ∈ ts, t.AllMade registry :=
  Stage.Grows.forall_of_keeps Stage.Grows.allMade h hss

/-- What a stage holds is held by the stage that it grows to. -/
theorem Stage.Grows.contains {registry : Registry} {s t : Stage} (h : Stage.Grows registry s t)
    {key : ModuleKey} (hs : s.loaded.contains key = true) : t.loaded.contains key = true :=
  h.keeps (P := fun s => s.loaded.contains key = true)
    (fun _ _ hs => KeySet.contains_add.mpr (.inr hs)) hs

/-- A stage is found again among the stages that came from them. -/
theorem Stage.Grows.exists_of_mem {registry : Registry} {ss ts : List Stage}
    (h : List.Forall₂ (Stage.Grows registry) ss ts) {s : Stage} (hs : s ∈ ss) :
    ∃ t ∈ ts, Stage.Grows registry s t := by
  induction h with
  | nil => cases hs
  | cons hgrows _ ih =>
    rcases List.mem_cons.mp hs with rfl | hs
    · exact ⟨_, List.mem_cons_self, hgrows⟩
    · obtain ⟨t, ht, hgrows⟩ := ih hs
      exact ⟨t, List.mem_cons_of_mem _ ht, hgrows⟩

namespace Pipeline

/-- The standard stages hold nothing yet, so there is nothing in them that was not made. -/
theorem allMade_standard (registry : Registry) :
    ∀ s ∈ (standard registry).stages, s.AllMade registry := by
  intro s hs
  obtain ⟨hnew, hshared⟩ := isNew_standard registry s hs
  refine ⟨hshared, fun m hm => ?_⟩
  rw [hnew.1] at hm
  cases hm

/-- Everything in the pipeline of a document was looked up and made. -/
theorem allMade_ofDocument (registry : Registry) (document : Yaml.Value) :
    ∀ s ∈ (ofDocument registry document).value.stages, s.AllMade registry :=
  Stage.Grows.forall_allMade (ofDocument_grows registry document).stages (allMade_standard registry)

end Pipeline

/-! ## Default modules

A default module that its stage has already is refused as a `duplicateModule`, and one that nobody
registered as an `unknownModule`. Neither is a reason to give up. In the first case the module is
there; the second one is excluded below, where the look-up of the module is assumed to succeed. -/

/-- The fault does not keep a default module from being there. -/
def LoadError.IsTolerable : LoadError → Prop
  | .duplicateModule _ => True
  | .unknownModule _ _ => True
  | _ => False

/-- Some stage of the name holds the key. -/
def Pipeline.Holds (p : Pipeline) (stage : String) (key : ModuleKey) : Prop :=
  ∃ s ∈ p.stages, s.name = stage ∧ s.loaded.contains key = true

/-- A registered module that is added at most once is there after that, unless it cannot be made. -/
theorem Stage.contains_add {registry : Registry} {s : Stage} {kind : String}
    {params : Option Yaml.Entries} {key : ModuleKey} {registration : Registration}
    (hlookup : (s.source registry).lookup? s.name kind = some (key, registration))
    (htolerable : ∀ e, (s.add registry kind params true).error? = some e → e.IsTolerable) :
    (s.add registry kind params true).value.loaded.contains key = true := by
  rw [add, resolve, hlookup] at htolerable ⊢
  dsimp only at htolerable ⊢
  -- it is there already, or it is made now
  cases hdup : s.loaded.contains key with
  | true => simp [hdup]
  | false =>
    simp only [hdup, Bool.true_and, Bool.false_eq_true, if_false] at htolerable ⊢
    cases hcreate : registration.create params with
    | error e =>
      rw [hcreate] at htolerable
      exact absurd (htolerable _ rfl) id
    | ok module => exact KeySet.contains_add.mpr (.inl rfl)

namespace Pipeline

/-- A step in the first stage of a name is taken in some stage of the name. -/
theorem exists_stepIn (step : Stage → Loaded Stage) {name : String} {stages : List Stage}
    (h : ∃ s ∈ stages, s.name = name) :
    ∃ s ∈ stages, s.name = name ∧ (step s).value ∈ (stepIn (·.name == name) step stages).value ∧
      (stepIn (·.name == name) step stages).error? = (step s).error? := by
  induction stages with
  | nil =>
    obtain ⟨s, hs, -⟩ := h
    cases hs
  | cons s rest ih =>
    rw [stepIn]
    by_cases hname : s.name = name
    · rw [if_pos (beq_iff_eq.mpr hname)]
      exact ⟨s, List.mem_cons_self, hname, List.mem_cons_self, rfl⟩
    · rw [if_neg (by simpa using hname)]
      obtain ⟨t, ht, htname⟩ := h
      -- this is not the stage, so one of the later ones is
      have hrest : ∃ t ∈ rest, t.name = name := by
        rcases List.mem_cons.mp ht with rfl | ht
        · exact absurd htname hname
        · exact ⟨t, ht, htname⟩
      obtain ⟨t, ht, htname, hmem, herror⟩ := ih hrest
      exact ⟨t, List.mem_cons_of_mem _ ht, htname, List.mem_cons_of_mem _ hmem, herror⟩

/-- What is held stays held. -/
theorem Grows.holds {p q : Pipeline} (h : Grows p q) {stage : String} {key : ModuleKey}
    (hp : p.Holds stage key) : q.Holds stage key := by
  obtain ⟨s, hs, hname, hcontains⟩ := hp
  obtain ⟨t, ht, hgrows⟩ := Stage.Grows.exists_of_mem h.stages hs
  exact ⟨t, ht, hgrows.name_eq.trans hname, hgrows.contains hcontains⟩

/-- Only a fault that is tolerable is tolerated. -/
theorem isTolerable_of_tolerate {r : Loaded Pipeline} (h : (tolerate r).error? = none)
    {e : LoadError} (he : r.error? = some e) : e.IsTolerable := by
  unfold tolerate at h
  split at h
  · rename_i hdup
    obtain rfl := Option.some.inj (he.symm.trans hdup)
    exact True.intro
  · rename_i hunknown
    obtain rfl := Option.some.inj (he.symm.trans hunknown)
    exact True.intro
  · rw [he] at h
    cases h

variable {p : Pipeline} {kind : String} {key found : ModuleKey} {registration : Registration}

/-- Loading a default module leaves its stage with it, if the fault of it, should it have one, is
tolerated. -/
theorem holds_loadDefault (hmade : ∀ s ∈ p.stages, s.AllMade p.registry)
    (hparse : ModuleKey.parse? kind = some key) (hstage : ∃ s ∈ p.stages, s.name = key.stage)
    (hlookup : p.registry.lookup? key.stage key.kind = some (found, registration))
    (hok : (tolerate (p.loadDefault kind)).error? = none) :
    (p.loadDefault kind).value.Holds key.stage found := by
  have htolerable := fun e => isTolerable_of_tolerate hok (e := e)
  rw [loadDefault, hparse] at htolerable ⊢
  obtain ⟨s, hs, hname, hmem, herror⟩ :=
    exists_stepIn (fun s => s.add p.registry key.kind none true) hstage
  have hfound : (s.source p.registry).lookup? s.name key.kind = some (found, registration) := by
    rw [Stage.source, (hmade s hs).registry?_eq, hname]
    exact hlookup
  exact ⟨_, hmem, (s.add_grows p.registry key.kind none true).name_eq.trans hname,
    Stage.contains_add hfound fun e he => htolerable e (herror.trans he)⟩

/-- Each of the modules to be added that is registered is there after that, unless there was a
fault. -/
theorem holds_injectAll {kinds : List String} (hmade : ∀ s ∈ p.stages, s.AllMade p.registry)
    (hkind : kind ∈ kinds) (hparse : ModuleKey.parse? kind = some key)
    (hstage : ∃ s ∈ p.stages, s.name = key.stage)
    (hlookup : p.registry.lookup? key.stage key.kind = some (found, registration))
    (hok : (p.injectAll kinds).error? = none) :
    (p.injectAll kinds).value.Holds key.stage found := by
  induction kinds generalizing p with
  | nil => cases hkind
  | cons first rest ih =>
    -- what was added before takes nothing away and leaves stages and registry as they have to be
    have hfirst : Grows p (tolerate (p.loadDefault first)).value := by
      rw [value_tolerate]
      exact p.loadDefault_grows first
    rw [injectAll, Loaded.andThen] at hok ⊢
    cases herror : (tolerate (p.loadDefault first)).error? with
    | some e =>
      rw [herror] at hok
      cases herror.symm.trans hok
    | none =>
      rw [herror] at hok
      dsimp only at hok ⊢
      rcases List.mem_cons.mp hkind with rfl | hkind
      -- it is added first, and what is added after it takes nothing away
      · have hholds := holds_loadDefault hmade hparse hstage hlookup herror
        rw [← value_tolerate] at hholds
        exact (injectAll_grows _ rest).holds hholds
      · refine ih ?_ hkind ?_ ?_ hok
        · rw [hfirst.registry_eq]
          exact Stage.Grows.forall_allMade hfirst.stages hmade
        · obtain ⟨s, hs, hname⟩ := hstage
          obtain ⟨t, ht, hgrows⟩ := Stage.Grows.exists_of_mem hfirst.stages hs
          exact ⟨t, ht, hgrows.name_eq.trans hname⟩
        · rw [hfirst.registry_eq]
          exact hlookup

/-- A pipeline that is loaded without a fault holds the default modules that are registered. -/
theorem holds_ofDocument {registry : Registry} {document : Yaml.Value}
    (hload : (ofDocument registry document).error? = none) (hkind : kind ∈ defaultModules)
    (hparse : ModuleKey.parse? kind = some key)
    (hstage : ∃ s ∈ standardStages, s.name = key.stage)
    (hlookup : registry.lookup? key.stage key.kind = some (found, registration)) :
    (ofDocument registry document).value.Holds key.stage found := by
  have hgrows := load_grows (standard registry) document
  rw [ofDocument, Loaded.andThen] at hload ⊢
  cases herror : ((standard registry).load document).error? with
  | some e =>
    rw [herror] at hload
    cases herror.symm.trans hload
  | none =>
    rw [herror] at hload
    dsimp only at hload ⊢
    have hfound : ((standard registry).load document).value.registry.lookup? key.stage key.kind
        = some (found, registration) := by
      rw [hgrows.registry_eq]
      exact hlookup
    refine holds_injectAll ?_ hkind hparse ?_ hfound hload
    · rw [hgrows.registry_eq]
      exact Stage.Grows.forall_allMade hgrows.stages (allMade_standard registry)
    · obtain ⟨s, hs, hname⟩ := hstage
      obtain ⟨t, ht, hgrows⟩ := Stage.Grows.exists_of_mem hgrows.stages hs
      exact ⟨t, ht, hgrows.name_eq.trans hname⟩

end Pipeline

end ReleasePipeline
