/-
Checking a document and loading it agree.

Loading stops at the first fault; checking goes on, on whatever could be loaded, and reports
every fault. They are two traversals with one thing in common, the loading of a single item.
`Agrees` says what keeps them in step: as long as loading has not stopped, checking has the
same value in hand and has reported no error; once it has stopped, the first reported error
is the one it stopped with, whatever else is reported later. `Agrees.andThen` is the step of
every induction here, one for each level: items, stages, sections.

A check that reports nothing has therefore loaded what a run would load, and has looked up
the dependencies of each of its modules, so a run of it never refuses one.
-/
import ReleasePipeline.Proofs.Pipeline.Growth
import ReleasePipeline.Proofs.Pipeline.Schedule
import ReleasePipeline.Validation

set_option autoImplicit false

namespace ReleasePipeline

/-! ## Two traversals in step -/

/-- The check `c` agrees with the loading step `r`. -/
def Agrees {α : Type} (r : Loaded α) (c : α × ValidationReport) : Prop :=
  match r.error? with
  | none => c.1 = r.value ∧ c.2.errors = []
  | some e => c.2.errors.head? = some e.message

namespace Agrees

variable {α β : Type} {r : Loaded α} {c : α × ValidationReport}

/-- A step without a fault agrees with a check that has the same value and reports nothing. -/
theorem of_ok (herror : r.error? = none) (hvalue : c.1 = r.value) (hreport : c.2.errors = []) :
    Agrees r c := by
  rw [Agrees, herror]
  exact ⟨hvalue, hreport⟩

/-- A step with a fault agrees with a check that reports this fault first. -/
theorem of_error {e : LoadError} (herror : r.error? = some e)
    (hreport : c.2.errors.head? = some e.message) : Agrees r c := by
  rw [Agrees, herror]
  exact hreport

/-- As long as loading goes on, the check has the same in hand. -/
theorem ok (h : Agrees r c) (herror : r.error? = none) : c.1 = r.value ∧ c.2.errors = [] := by
  rwa [Agrees, herror] at h

/-- Where loading stopped, the check has reported the reason first. -/
theorem error (h : Agrees r c) {e : LoadError} (herror : r.error? = some e) :
    c.2.errors.head? = some e.message := by
  rwa [Agrees, herror] at h

/-- A second step. Where loading stopped at the first one, the check takes the second on what
it has, but what that adds comes after the error that counts. -/
theorem andThen {f : α → Loaded α} {g : α → α × ValidationReport} (h : Agrees r c)
    (hstep : ∀ a, Agrees (f a) (g a)) : Agrees (r.andThen f) ((g c.1).1, c.2.merge (g c.1).2) := by
  rw [Loaded.andThen]
  cases herror : r.error? with
  | some e =>
    refine of_error herror ?_
    -- later errors stand behind the one that loading stopped at
    rw [ValidationReport.merge, List.head?_append, h.error herror]
    rfl
  | none =>
    obtain ⟨hvalue, hreport⟩ := h.ok herror
    have hnext := hstep r.value
    rw [Agrees, ValidationReport.merge, hreport, List.nil_append, hvalue]
    exact hnext

/-- The same step and the same check seen from outside. -/
theorem map (f : α → β) (h : Agrees r c) : Agrees (r.map f) (f c.1, c.2) := by
  cases herror : r.error? with
  | some e => exact of_error herror (h.error herror)
  | none =>
    obtain ⟨hvalue, hreport⟩ := h.ok herror
    exact of_ok herror (congrArg f hvalue) hreport

/-- Warnings are of no account. -/
theorem of_errors_eq {c' : α × ValidationReport} (h : Agrees r c) (hvalue : c'.1 = c.1)
    (herrors : c'.2.errors = c.2.errors) : Agrees r c' := by
  rw [Agrees, hvalue, herrors]
  exact h

/-- A step that is taken once and whose fault is reported. -/
theorem reported (r : Loaded α) : Agrees r (r.value, match r.error? with
    | some e => .error e.message
    | none => {}) := by
  cases herror : r.error? with
  | some e => exact of_error herror rfl
  | none => exact of_ok herror rfl rfl

end Agrees

/-! ## Stages -/

namespace Stage

/-- Item by item. -/
theorem checkItems_agrees (registry : Registry) (s : Stage) (index : Nat)
    (items : List Yaml.Value) :
    Agrees (s.loadItems registry index items) (s.checkItems registry index items) := by
  induction items generalizing s index with
  | nil => exact .of_ok rfl rfl rfl
  | cons item rest ih =>
    exact (Agrees.reported (s.loadItem registry index item)).andThen fun t => ih t (index + 1)

/-- A section is checked as it is loaded. That it has no items is a warning and no more. -/
theorem checkSection_agrees (registry : Registry) (s : Stage) (section_ : Yaml.Value) :
    Agrees (s.loadSection registry section_) (s.checkSection registry section_) := by
  cases section_ with
  | list items =>
    refine (s.checkItems_agrees registry 1 items).of_errors_eq rfl ?_
    rw [checkSection]
    dsimp only
    split
    · exact List.append_nil _
    · rfl
  | _ => exact .of_error rfl rfl

end Stage

namespace Pipeline

/-! ## Documents -/

/-- In the first stage with the label; a section that no stage has is a warning. -/
theorem checkIn_agrees (registry : Registry) (label : String) (section_ : Yaml.Value)
    (stages : List Stage) :
    Agrees (stepIn (·.plural == label) (fun s => s.loadSection registry section_) stages)
      (checkIn registry label section_ stages) := by
  induction stages with
  | nil => exact .of_ok rfl rfl rfl
  | cons s rest ih =>
    rw [stepIn, checkIn]
    split
    · exact (s.checkSection_agrees registry section_).map (· :: rest)
    · exact ih.map (s :: ·)

/-- Section by section. -/
theorem checkSections_agrees (p : Pipeline) (sections : Yaml.Entries) :
    Agrees (p.loadSections sections) (p.checkSections sections) := by
  induction sections generalizing p with
  | nil => exact .of_ok rfl rfl rfl
  | cons entry rest ih =>
    obtain ⟨label, section_⟩ := entry
    rw [loadSections, checkSections]
    -- a label that is no text is passed over by both
    cases label.asText? with
    | none => exact (ih p).of_errors_eq rfl rfl
    | some label =>
      have hfirst := (checkIn_agrees p.registry label section_ p.stages).map
        fun stages => { p with stages }
      exact hfirst.andThen ih

/-- No module misses a dependency exactly when the check of the dependencies reports none. -/
theorem errors_checkDependencies_eq_nil_iff {p : Pipeline} :
    p.checkDependencies.errors = [] ↔ ∀ key ∈ p.keys, p.registry.missing key p.loaded = [] := by
  rw [checkDependencies, List.filterMap_eq_nil_iff]
  refine forall₂_congr fun key _ => ?_
  split
  next h => exact ⟨fun _ => h, fun _ => rfl⟩
  next h => exact ⟨nofun, fun hnil => absurd hnil h⟩

/-- The rest of a check: the default modules, which loading adds last, and then the
dependencies, which loading does not look at. -/
theorem checkRest_agrees {r : Loaded Pipeline} {c : Pipeline × ValidationReport}
    (h : Agrees r c) : ∃ c', Agrees (r.andThen injectDefaults) c' ∧
      (c.2.merge c.1.checkRest).errors = c'.2.errors ++ c'.1.checkDependencies.errors :=
  ⟨_, h.andThen fun p => .reported p.injectDefaults, (List.append_assoc _ _ _).symm⟩

/-- What a check reports about a document, by how loading it ends. A document that is neither
empty nor a mapping is left out of `checkRest_agrees`: its check stops at once. -/
theorem errors_validate (registry : Registry) (document : Yaml.Value) :
    match (ofDocument registry document).error? with
    | some e => (validate registry document).errors.head? = some e.message
    | none => (validate registry document).errors =
        (ofDocument registry document).value.checkDependencies.errors := by
  -- the empty document and a mapping differ only in what is loaded first
  have hrest : ∀ {c : Pipeline × ValidationReport},
      Agrees ((standard registry).load document) c →
      (validate registry document).errors = (c.2.merge c.1.checkRest).errors →
      match (ofDocument registry document).error? with
      | some e => (validate registry document).errors.head? = some e.message
      | none => (validate registry document).errors =
          (ofDocument registry document).value.checkDependencies.errors := by
    intro c hc herrors
    obtain ⟨c', hc', hmerged⟩ := checkRest_agrees hc
    rw [herrors, hmerged, ofDocument]
    split
    next e herror => rw [List.head?_append, hc'.error herror]; rfl
    next herror =>
      obtain ⟨hvalue, hnone⟩ := hc'.ok herror
      rw [hnone, hvalue, List.nil_append]
  cases document with
  | null => exact hrest (.of_ok rfl rfl rfl : Agrees _ (standard registry, {})) rfl
  | map sections => exact hrest ((standard registry).checkSections_agrees sections) rfl
  | _ => rfl

/-- A run never refuses a module when no module of the pipeline misses a dependency. -/
theorem run_ne_missingDependencies {p : Pipeline}
    (h : ∀ s ∈ p.stages, ∀ key ∈ s.keys, (s.source p.registry).missing key p.loaded = [])
    (now : String) (st : RunState) (stage kind : String) (missing : List ModuleKey) :
    (p.run now st).2 ≠ some (.missingDependencies stage kind missing) := by
  intro herror
  obtain ⟨done, hends, -, -⟩ := p.run_ends now st
  rw [herror] at hends
  generalize hts : p.schedule now st = ts at hends
  cases hends with
  | refused passed lacks =>
    have hlisted := p.listed_schedule now st
    rw [hts] at hlisted
    obtain ⟨hstage, hmodule⟩ := hlisted.mem (List.mem_append_right _ List.mem_cons_self)
    exact lacks (h _ hstage _ (List.mem_map_of_mem hmodule))

/-- **Checking and loading agree.** A check reports no error exactly when the document loads
and no module of the pipeline misses a dependency; when it does not load, the first error of
the report is the reason; and a document without errors gives a pipeline whose runs, from any
state and whatever its modules do, never refuse a module. -/
theorem validate_agrees_with_loading (registry : Registry) (document : Yaml.Value) :
    ((validate registry document).errors = [] ↔
      (ofDocument registry document).error? = none ∧
        ∀ key ∈ (ofDocument registry document).value.keys,
          registry.missing key (ofDocument registry document).value.loaded = []) ∧
    (∀ e, (ofDocument registry document).error? = some e →
      (validate registry document).errors.head? = some e.message) ∧
    ((validate registry document).errors = [] →
      ∀ (now : String) (st : RunState) (stage kind : String) (missing : List ModuleKey),
        ((ofDocument registry document).value.run now st).2
          ≠ some (.missingDependencies stage kind missing)) := by
  have hspec := errors_validate registry document
  have hregistry := registry_ofDocument registry document
  have hdeps := errors_checkDependencies_eq_nil_iff (p := (ofDocument registry document).value)
  rw [hregistry] at hdeps
  have hiff : (validate registry document).errors = [] ↔
      (ofDocument registry document).error? = none ∧
        ∀ key ∈ (ofDocument registry document).value.keys,
          registry.missing key (ofDocument registry document).value.loaded = [] := by
    cases herror : (ofDocument registry document).error? with
    | some e =>
      rw [herror] at hspec
      refine ⟨fun hnil => ?_, nofun⟩
      rw [hnil] at hspec
      cases hspec
    | none =>
      rw [herror] at hspec
      rw [hspec, hdeps]
      exact ⟨fun h => ⟨rfl, h⟩, fun h => h.2⟩
  refine ⟨hiff, fun e herror => ?_, fun hnil now st => ?_⟩
  · rw [herror] at hspec
    exact hspec
  -- all stages share the registry of the pipeline, so asking it is asking each of them
  · refine run_ne_missingDependencies (fun s hs key hkey => ?_) now st
    rw [hregistry, source_ofDocument hs]
    exact (hiff.mp hnil).2 key (List.mem_flatMap.mpr ⟨s, hs, hkey⟩)

end Pipeline

end ReleasePipeline
