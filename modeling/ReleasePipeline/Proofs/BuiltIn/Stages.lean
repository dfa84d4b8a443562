/-
The built-in modules in the stages of a pipeline.

In a pipeline that is loaded from a document over the built-in registry every module is one of the
thirteen, made from some settings, and stands in the stage that it is registered for, or is the
listing (`type: show`), which may stand in all of them. So a statement about the modules of such a
pipeline is a statement about thirteen cases, of which the stage leaves a few: among the `setups`
there are four modules and the listing, and none of these starts a compiler or sends a request.

The way there goes from the document to the registry. A module of a stage was made from a
registration (`StageModule.Made`), what is registered is a built-in module, and what it makes from
parameters it makes from settings (`Registration.exists_settings`).
-/
import ReleasePipeline.Proofs.BuiltIn.Effects
import ReleasePipeline.Proofs.Pipeline.Defaults

set_option autoImplicit false

namespace ReleasePipeline

/-- What is found in a registry is registered for the stage, or else for every stage. -/
theorem Registry.of_lookup?_eq_some {r : Registry} {stage kind : String} {key : ModuleKey}
    {registration : Registration} (h : r.lookup? stage kind = some (key, registration)) :
    r.entries.find? key = some registration ∧
      (key.stage = stage ∨ key.stage = ModuleKey.anyStage) := by
  have hfind : ∀ s, (r.entries.find? ⟨s, kind⟩).map (fun found => ((⟨s, kind⟩ : ModuleKey), found))
      = some (key, registration) → r.entries.find? key = some registration ∧ key.stage = s := by
    intro s hs
    obtain ⟨found, hfound, heq⟩ := Option.map_eq_some_iff.mp hs
    obtain ⟨rfl, rfl⟩ := Prod.mk.inj heq
    exact ⟨hfound, rfl⟩
  -- the stage itself is asked first, and then what is registered for any stage
  obtain ⟨s, hs, hfound⟩ := List.exists_of_findSome?_eq_some h
  simp only [List.mem_cons, List.not_mem_nil, or_false] at hs
  rcases hs with rfl | rfl
  · exact ⟨(hfind _ hfound).1, .inl (hfind _ hfound).2⟩
  · exact ⟨(hfind _ hfound).1, .inr (hfind _ hfound).2⟩

/-- What is registered for a stage is found for it. -/
theorem Registry.lookup?_of_find?_eq_some {r : Registry} {key : ModuleKey}
    {registration : Registration} (h : r.entries.find? key = some registration) :
    r.lookup? key.stage key.kind = some (key, registration) := by
  rw [lookup?, List.findSome?_cons, h]
  rfl

/-- A module with a schema is made from settings. -/
theorem Registration.exists_settings {σ : Type} {schema : Schema σ} {module : σ → Module}
    {dependencies : List ModuleKey} {params : Option Yaml.Entries} {m : Module}
    (h : (Registration.ofSchema schema module dependencies).create params = .ok m) :
    ∃ settings, schema.configure params = .ok settings ∧ m = module settings := by
  change ((schema.configure params).mapError RegistryError.decode).map module = .ok m at h
  cases hconfigure : schema.configure params with
  | error e =>
    rw [hconfigure] at h
    cases h
  | ok settings =>
    rw [hconfigure] at h
    cases h
    exact ⟨settings, rfl, rfl⟩

namespace BuiltInModule

/-- The built-in module with some settings is what stands there. -/
structure Is (b : BuiltInModule) (settings : b.Settings) (m : StageModule) : Prop where
  key : m.key = b.key
  module : m.module = b.module settings

/-- The gate is the only module with its key. -/
theorem eq_gate_of_key {b : BuiltInModule} (h : b.key = gate.key) : b = gate := by
  cases b <;> first | rfl | exact absurd h (by decide)

/-- A module that is not for every stage is known by its stage. -/
theorem eq_listing_of_key_stage {b : BuiltInModule} (h : b.key.stage = ModuleKey.anyStage) :
    b = listing := by
  cases b <;> first | rfl | exact absurd h (by decide)

/-- What was looked up in the built-in registry and made is a built-in module. -/
theorem exists_is_of_made {directoryName stage : String} {m : StageModule}
    (h : m.Made (.builtIn directoryName) stage) :
    ∃ b settings, Is b settings m ∧ (b.key.stage = stage ∨ b = listing) := by
  obtain ⟨registration, params, hlookup, hcreate⟩ := h
  obtain ⟨hfind, hstage⟩ := Registry.of_lookup?_eq_some hlookup
  obtain ⟨b, hkey, rfl⟩ := Registry.find?_builtIn_eq_some_iff.mp hfind
  obtain ⟨settings, -, hmodule⟩ := Registration.exists_settings hcreate
  refine ⟨b, settings, ⟨hkey.symm, hmodule⟩, ?_⟩
  rw [← hkey] at hstage
  exact hstage.imp_right eq_listing_of_key_stage

/-- All modules of a loaded pipeline are built-in ones. -/
theorem exists_is_of_mem {directoryName : String} {document : Yaml.Value} {s : Stage}
    (hs : s ∈ (Pipeline.ofDocument (.builtIn directoryName) document).value.stages)
    {m : StageModule} (hm : m ∈ s.modules) :
    ∃ b settings, Is b settings m ∧ (b.key.stage = s.name ∨ b = listing) :=
  exists_is_of_made ((Pipeline.allMade_ofDocument _ document s hs).modules m hm)

end BuiltInModule

end ReleasePipeline
