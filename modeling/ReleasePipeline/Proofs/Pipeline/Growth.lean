/-
Loading only ever appends modules.

Whatever is loaded into a pipeline, from one item to a whole document, with or without
faults, each stage changes by appends alone, and each appended module was found in the
registry and made by its constructor (`Adds`). This is all a loading step can do, so what an
append keeps is kept by loading: the name, the label and the skip condition of a stage, and
that the set of loaded keys is the set of the keys of the modules.

Later statements take the facts of the last section and do not look into loading again.
-/
import Mathlib.Data.List.Forall2
import Mathlib.Logic.Relation
import ReleasePipeline.Pipeline
import ReleasePipeline.Proofs.Sorted

set_option autoImplicit false

namespace ReleasePipeline

namespace Loaded

variable {α : Type}

/-- What each of two steps does to the value, one after the other, the two do together. -/
theorem andThen_rel {R : α → α → Prop} (trans : ∀ {a b c}, R a b → R b c → R a c)
    {a : α} {r : Loaded α} {step : α → Loaded α} (h : R a r.value)
    (hstep : ∀ b, R b (step b).value) : R a (r.andThen step).value := by
  rw [andThen]
  split
  · exact h
  · exact trans h (hstep r.value)

end Loaded

namespace Stage

/-! ## Stages -/

/-- One module more, found in the registry and made from some parameters. -/
def Adds (registry : Registry) (s t : Stage) : Prop :=
  ∃ kind key registration params module,
    (s.source registry).lookup? s.name kind = some (key, registration) ∧
      registration.create params = .ok module ∧ t = s.append ⟨kind, key, module⟩

/-- Some modules more, each added to what was there before. -/
def Grows (registry : Registry) : Stage → Stage → Prop := Relation.ReflTransGen (Adds registry)

namespace Grows

variable {registry : Registry} {s t u : Stage}

/-- Adding nothing is growing. -/
theorem refl (s : Stage) : Grows registry s s := Relation.ReflTransGen.refl

/-- Growing twice is growing. -/
theorem trans (h₁ : Grows registry s t) (h₂ : Grows registry t u) : Grows registry s u :=
  Relation.ReflTransGen.trans h₁ h₂

/-- What an append keeps is kept. -/
theorem keeps {P : Stage → Prop} (happend : ∀ s m, P s → P (s.append m))
    (h : Grows registry s t) (hs : P s) : P t := by
  induction h with
  | refl => exact hs
  | tail _ hadd ih =>
    obtain ⟨kind, key, registration, params, module, -, -, rfl⟩ := hadd
    exact happend _ _ ih

/-- What growing keeps is kept of stages in a row. -/
theorem forall_of_keeps {P : Stage → Prop} (hkeeps : ∀ {s t}, Grows registry s t → P s → P t)
    {ss ts : List Stage} (h : List.Forall₂ (Grows registry) ss ts) (hss : ∀ s ∈ ss, P s) :
    ∀ t ∈ ts, P t := by
  induction h with
  | nil => exact nofun
  | cons hgrows _ ih =>
    rw [List.forall_mem_cons] at hss ⊢
    exact ⟨hkeeps hgrows hss.1, ih hss.2⟩

/-- The same of what an append keeps. -/
theorem forall_mem {P : Stage → Prop} (happend : ∀ s m, P s → P (s.append m)) {ss ts : List Stage}
    (h : List.Forall₂ (Grows registry) ss ts) (hss : ∀ s ∈ ss, P s) : ∀ t ∈ ts, P t :=
  forall_of_keeps (fun hgrows hs => hgrows.keeps happend hs) h hss

/-- Growing does not rename a stage. -/
theorem name_eq (h : Grows registry s t) : t.name = s.name :=
  h.keeps (P := fun u => u.name = s.name) (fun _ _ hu => hu) rfl

/-- Nor does it change when the stage is skipped. -/
theorem skip_eq (h : Grows registry s t) : t.skip = s.skip :=
  h.keeps (P := fun u => u.skip = s.skip) (fun _ _ hu => hu) rfl

end Grows

/-- The set of loaded keys is the set of the keys of the modules. -/
def LoadsItsKeys (s : Stage) : Prop := ∀ key, s.loaded.contains key = true ↔ key ∈ s.keys

/-- Nothing has been loaded into the stage. -/
def IsNew (s : Stage) : Prop := s.modules = [] ∧ s.loaded = .empty

/-- Without modules there are no keys. -/
theorem IsNew.loadsItsKeys {s : Stage} (h : s.IsNew) : s.LoadsItsKeys := by
  intro key
  rw [keys, h.1, h.2]
  exact iff_of_false Bool.false_ne_true List.not_mem_nil

/-- An append enters the key of the new module into the set. -/
theorem LoadsItsKeys.append {s : Stage} (m : StageModule) (h : s.LoadsItsKeys) :
    (s.append m).LoadsItsKeys := by
  intro key
  have hkeys : (s.append m).keys = s.keys ++ [m.key] := List.map_append
  rw [hkeys, List.mem_append, List.mem_singleton, ← h key, or_comm]
  exact KeySet.contains_add

/-- An added module was looked up and made; one that is refused changes nothing. -/
theorem add_grows (registry : Registry) (s : Stage) (kind : String) (params : Option Yaml.Entries)
    (once : Bool) : Grows registry s (s.add registry kind params once).value := by
  rw [add, resolve]
  cases hlookup : (s.source registry).lookup? s.name kind with
  | none => exact .refl s
  | some found =>
    obtain ⟨key, registration⟩ := found
    dsimp only
    -- a module that may be there once and is there changes nothing
    by_cases hdup : (once && s.loaded.contains key) = true
    · rw [if_pos hdup]
      exact .refl s
    · rw [if_neg hdup]
      cases hcreate : registration.create params with
      | error e => simp only [hcreate]; exact .refl s
      | ok module =>
        simp only [hcreate]
        exact Relation.ReflTransGen.single
          ⟨kind, key, registration, params, module, hlookup, hcreate, rfl⟩

/-- An item adds one module at most. -/
theorem loadItem_grows (registry : Registry) (s : Stage) (index : Nat) (item : Yaml.Value) :
    Grows registry s (s.loadItem registry index item).value := by
  unfold loadItem
  split
  · split
    · exact .refl s
    · exact s.add_grows registry _ _ false
  · exact .refl s

/-- Items are added one after the other, up to the first with a fault. -/
theorem loadItems_grows (registry : Registry) (s : Stage) (index : Nat) (items : List Yaml.Value) :
    Grows registry s (s.loadItems registry index items).value := by
  induction items generalizing s index with
  | nil => exact .refl s
  | cons item rest ih =>
    exact Loaded.andThen_rel (R := Grows registry) Grows.trans
      (s.loadItem_grows registry index item) fun t => ih t (index + 1)

/-- A section that is no sequence adds nothing. -/
theorem loadSection_grows (registry : Registry) (s : Stage) (section_ : Yaml.Value) :
    Grows registry s (s.loadSection registry section_).value := by
  unfold loadSection
  split
  · exact s.loadItems_grows registry 1 _
  · exact .refl s

end Stage

namespace Pipeline

/-! ## Pipelines -/

/-- The same stages in the same order, each with some modules more. -/
structure Grows (p q : Pipeline) : Prop where
  registry_eq : q.registry = p.registry
  stages : List.Forall₂ (Stage.Grows p.registry) p.stages q.stages

namespace Grows

variable {p q r : Pipeline}

/-- Loading nothing leaves a pipeline as it was. -/
theorem refl (p : Pipeline) : Grows p p :=
  ⟨rfl, List.forall₂_same.mpr fun s _ => .refl s⟩

/-- Stage by stage, growth is transitive. -/
theorem trans_stages {registry : Registry} {ss ts us : List Stage}
    (h₁ : List.Forall₂ (Stage.Grows registry) ss ts)
    (h₂ : List.Forall₂ (Stage.Grows registry) ts us) :
    List.Forall₂ (Stage.Grows registry) ss us := by
  induction h₁ generalizing us with
  | nil => exact h₂
  | cons h _ ih =>
    cases h₂ with
    | cons h' hrest => exact .cons (h.trans h') (ih hrest)

/-- Loading twice is growing, too: the registry is the same both times. -/
theorem trans (h₁ : Grows p q) (h₂ : Grows q r) : Grows p r := by
  have h := h₂.stages
  rw [h₁.registry_eq] at h
  exact ⟨h₂.registry_eq.trans h₁.registry_eq, trans_stages h₁.stages h⟩

end Grows

/-- A step in one stage leaves the others alone. -/
theorem stepIn_grows {registry : Registry} {condition : Stage → Bool} {step : Stage → Loaded Stage}
    (hstep : ∀ s, Stage.Grows registry s (step s).value) (stages : List Stage) :
    List.Forall₂ (Stage.Grows registry) stages (stepIn condition step stages).value := by
  induction stages with
  | nil => exact .nil
  | cons s rest ih =>
    have hrefl : List.Forall₂ (Stage.Grows registry) rest rest :=
      List.forall₂_same.mpr fun s _ => .refl s
    rw [stepIn]
    split
    · exact .cons (hstep s) hrefl
    · exact .cons (.refl s) ih

/-- A step in one stage of a pipeline leaves it with the same stages. -/
theorem inStage_grows (p : Pipeline) {condition : Stage → Bool} {step : Stage → Loaded Stage}
    (hstep : ∀ s, Stage.Grows p.registry s (step s).value) :
    Grows p (p.inStage condition step).value :=
  ⟨rfl, stepIn_grows hstep p.stages⟩

/-- Sections are loaded one after the other, up to the first with a fault. -/
theorem loadSections_grows (p : Pipeline) (sections : Yaml.Entries) :
    Grows p (p.loadSections sections).value := by
  induction sections generalizing p with
  | nil => exact .refl p
  | cons entry rest ih =>
    obtain ⟨label, section_⟩ := entry
    rw [loadSections]
    split
    · exact ih p
    · exact Loaded.andThen_rel (R := Grows) Grows.trans
        (p.inStage_grows fun s => s.loadSection_grows p.registry section_) ih

/-- A document is no more than its sections. One that is neither a mapping nor empty loads nothing.
-/
theorem load_grows (p : Pipeline) (document : Yaml.Value) :
    Grows p (p.load document).value := by
  unfold load
  split
  · exact .refl p
  · exact p.loadSections_grows _
  · exact .refl p

/-- A default module is added to its stage at most. -/
theorem loadDefault_grows (p : Pipeline) (kind : String) :
    Grows p (p.loadDefault kind).value := by
  rw [loadDefault]
  split
  · exact .refl p
  · exact p.inStage_grows fun s => s.add_grows p.registry _ none true

/-- Tolerating a fault is a matter of the fault alone. -/
theorem value_tolerate (r : Loaded Pipeline) : (tolerate r).value = r.value := by
  unfold tolerate
  split <;> rfl

/-- Default modules are added one after the other. -/
theorem injectAll_grows (p : Pipeline) (kinds : List String) :
    Grows p (p.injectAll kinds).value := by
  induction kinds generalizing p with
  | nil => exact .refl p
  | cons kind rest ih =>
    have hfirst : Grows p (tolerate (p.loadDefault kind)).value := by
      rw [value_tolerate]
      exact p.loadDefault_grows kind
    exact Loaded.andThen_rel (R := Grows) Grows.trans hfirst ih

/-- The pipeline of a document is the standard one with modules added to its stages. -/
theorem ofDocument_grows (registry : Registry) (document : Yaml.Value) :
    Grows (standard registry) (ofDocument registry document).value :=
  Loaded.andThen_rel (R := Grows) Grows.trans (load_grows _ document)
    fun p => p.injectAll_grows defaultModules

/-! ## The pipeline of a document -/

/-- Nothing has been loaded into the standard stages, and they share the registry of the
pipeline. -/
theorem isNew_standard (registry : Registry) :
    ∀ s ∈ (standard registry).stages, s.IsNew ∧ s.registry? = none := by
  intro s hs
  simp only [standard, standardStages, List.mem_cons, List.not_mem_nil, or_false] at hs
  rcases hs with rfl | rfl | rfl <;> exact ⟨⟨rfl, rfl⟩, rfl⟩

/-- The registry of the pipeline is the one it was made for. -/
theorem registry_ofDocument (registry : Registry) (document : Yaml.Value) :
    (ofDocument registry document).value.registry = registry :=
  (ofDocument_grows registry document).registry_eq

/-- What all standard stages have and an append keeps, all stages of a loaded pipeline have. -/
theorem forall_stages_ofDocument {P : Stage → Prop} (registry : Registry) (document : Yaml.Value)
    (happend : ∀ s m, P s → P (s.append m)) (hstandard : ∀ s ∈ standardStages, P s) :
    ∀ s ∈ (ofDocument registry document).value.stages, P s :=
  Stage.Grows.forall_mem happend (ofDocument_grows registry document).stages hstandard

/-- The three stages, of which the first two are never skipped and the last one is unless the
context asks for it. -/
theorem stages_ofDocument (registry : Registry) (document : Yaml.Value) :
    ∃ setup build publish, (ofDocument registry document).value.stages = [setup, build, publish] ∧
      setup.name = "setup" ∧ build.name = "build" ∧ publish.name = "publish" ∧
      (∀ ctx, setup.shouldSkip ctx = false) ∧ (∀ ctx, build.shouldSkip ctx = false) ∧
      ∀ ctx, publish.shouldSkip ctx = !ctx.publish := by
  have h := (ofDocument_grows registry document).stages
  simp only [standard, standardStages, List.forall₂_cons_left_iff, List.forall₂_nil_left_iff] at h
  obtain ⟨setup, _, hsetup, ⟨build, _, hbuild, ⟨publish, _, hpublish, rfl, rfl⟩, rfl⟩, hstages⟩ := h
  refine ⟨setup, build, publish, hstages, hsetup.name_eq, hbuild.name_eq, hpublish.name_eq,
    fun ctx => ?_, fun ctx => ?_, fun ctx => ?_⟩
  · rw [Stage.shouldSkip, hsetup.skip_eq]
  · rw [Stage.shouldSkip, hbuild.skip_eq]
  · rw [Stage.shouldSkip, hpublish.skip_eq]

/-- The loaded keys of a pipeline are the keys of its modules, if that is so of each stage. -/
theorem contains_loaded_iff {p : Pipeline} (h : ∀ s ∈ p.stages, s.LoadsItsKeys)
    {key : ModuleKey} : p.loaded.contains key = true ↔ key ∈ p.keys := by
  rw [loaded, KeySet.contains_ofMembers, keys, List.mem_flatMap, List.mem_flatMap]
  refine exists_congr fun s => and_congr_right fun hs => ?_
  rw [Table.mem_keys_iff_contains]
  exact h s hs key

/-- The stages of a loaded pipeline share its registry. -/
theorem source_ofDocument {registry : Registry} {document : Yaml.Value} {s : Stage}
    (h : s ∈ (ofDocument registry document).value.stages) : s.source registry = registry := by
  -- no standard stage has a registry of its own, and loading gives it none
  have hnone : ∀ t ∈ (ofDocument registry document).value.stages, t.registry? = none :=
    forall_stages_ofDocument registry document (fun _ _ hs => hs) fun s hs =>
      (isNew_standard registry s hs).2
  rw [Stage.source, hnone s h]
  rfl

/-- The stages of a loaded pipeline load the keys of their modules. -/
theorem loadsItsKeys_ofDocument (registry : Registry) (document : Yaml.Value) :
    ∀ s ∈ (ofDocument registry document).value.stages, s.LoadsItsKeys :=
  forall_stages_ofDocument registry document (fun _ m h => h.append m) fun s hs =>
    (isNew_standard registry s hs).1.loadsItsKeys

/-- A key counts as loaded exactly when a stage of the pipeline has a module with it. -/
theorem contains_loaded_ofDocument {registry : Registry} {document : Yaml.Value}
    {key : ModuleKey} : (ofDocument registry document).value.loaded.contains key = true ↔
      key ∈ (ofDocument registry document).value.keys :=
  contains_loaded_iff (loadsItsKeys_ofDocument registry document)

end Pipeline

end ReleasePipeline
