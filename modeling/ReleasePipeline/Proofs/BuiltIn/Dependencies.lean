/-
What the built-in modules depend on is always there.

Three of the built-in modules depend on others: the gate on `setup:env`, `build:go` on
`setup:project` and `setup:git`, and `publish:artifact` on `setup:git`. All three that are needed
are among the ones that every pipeline gets (`exists_default_of_mem_dependencies`), and adding those
cannot fail, as a built-in module can always be made with its default settings (`error?_injected`).
So the dependencies are met when a document is loaded (`missing_eq_nil`), and also when it is
checked: the check passes over items that are refused, but whatever they were, it ends with the
default modules that the others lack, and so finds each of them under its key
(`requirements_eq_nil`).

To say that a message about a missing dependency is never in the report it takes one thing more: no
other message reads like it. They differ in their first letter, which is `M` for `Module build:go
requires …` and small in `definition build, item #1: …` and `item #1 of …`.
-/
import ReleasePipeline.Proofs.BuiltIn.Stages
import ReleasePipeline.Proofs.Pipeline.Checking
import ReleasePipeline.Proofs.Pipeline.Report

set_option autoImplicit false

namespace ReleasePipeline

namespace BuiltInModule

/-! ## The modules that every pipeline has -/

/-- The modules that every pipeline has. -/
def defaults : List BuiltInModule := [capture, project, git, gate]

/-- They are asked for by their keys, which are those of setup modules. -/
theorem asked_for_by_key : ∀ b ∈ defaults,
    b.key.display ∈ Pipeline.defaultModules ∧ ModuleKey.parse? b.key.display = some b.key ∧
      b.key.stage = "setup" ∧ b.key.kind ∈ Pipeline.defaultKinds := by
  decide

/-- No built-in module depends on others than those. -/
theorem exists_default_of_mem_dependencies {b : BuiltInModule} {dependency : ModuleKey}
    (h : dependency ∈ b.dependencies) : ∃ needed ∈ defaults, needed.key = dependency := by
  cases b <;> revert dependency <;> decide

variable (directoryName : String)

/-- A built-in module is found for its stage. -/
theorem lookup?_key (b : BuiltInModule) :
    (Registry.builtIn directoryName).lookup? b.key.stage b.key.kind
      = some (b.key, b.registration directoryName) :=
  Registry.lookup?_of_find?_eq_some (Registry.find?_builtIn_eq_some_iff.mpr ⟨b, rfl, rfl⟩)

/-- A built-in module can be made without parameters. -/
theorem create_none (b : BuiltInModule) :
    (b.registration directoryName).create none = .ok (b.module (b.schema directoryName).defaults) :=
  rfl

end BuiltInModule

namespace Registry

variable {directoryName : String}

/-- What is registered depends on modules that every pipeline has. -/
theorem exists_default_of_mem_dependencies {key dependency : ModuleKey}
    (h : dependency ∈ (builtIn directoryName).dependencies key) :
    ∃ needed ∈ BuiltInModule.defaults, needed.key = dependency := by
  rw [dependencies] at h
  split at h
  next registration hfind =>
    obtain ⟨b, -, rfl⟩ := find?_builtIn_eq_some_iff.mp hfind
    exact BuiltInModule.exists_default_of_mem_dependencies h
  next => cases h

end Registry

namespace Pipeline

variable {directoryName : String}

/-! ## Loading

A loaded pipeline holds each default module in its first stage, under the key that was looked up for
it. That is the key that the dependencies name. -/

/-- What a stage holds is loaded. -/
theorem Holds.contains_loaded {registry : Registry} {document : Yaml.Value} {stage : String}
    {key : ModuleKey} (h : (ofDocument registry document).value.Holds stage key) :
    (ofDocument registry document).value.loaded.contains key = true := by
  obtain ⟨s, hs, -, hcontains⟩ := h
  have hkey : key ∈ s.keys := (loadsItsKeys_ofDocument registry document s hs key).mp hcontains
  exact contains_loaded_ofDocument.mpr (List.mem_flatMap.mpr ⟨s, hs, hkey⟩)

/-- In a pipeline that is loaded, no module misses anything. -/
theorem missing_eq_nil {document : Yaml.Value}
    (hload : (ofDocument (.builtIn directoryName) document).error? = none) (key : ModuleKey) :
    (Registry.builtIn directoryName).missing key
      (ofDocument (.builtIn directoryName) document).value.loaded = [] := by
  refine List.filter_eq_nil_iff.mpr fun dependency hdependency => ?_
  obtain ⟨needed, hneeded, rfl⟩ := Registry.exists_default_of_mem_dependencies hdependency
  obtain ⟨hname, hparse, hstage, -⟩ := BuiltInModule.asked_for_by_key needed hneeded
  -- all default modules are for the first of the standard stages
  have hsetup : ∃ s ∈ standardStages, s.name = needed.key.stage := by
    rw [hstage]
    exact ⟨_, List.mem_cons_self, rfl⟩
  have hholds := holds_ofDocument hload hname hparse hsetup (needed.lookup?_key directoryName)
  rw [hholds.contains_loaded]
  decide

/-! ## Checking

The check does not stop at a fault, so it cannot be said of it that all modules of the document are
there. What can be said is that the default ones are, because they are added after all sections were
gone through. -/

/-- Lacking modules that can be made without parameters are made without a fault. -/
theorem error?_makeAll_eq_none {ls : List Lack}
    (h : ∀ l ∈ ls, ∃ m, l.registration.create none = .ok m) : (Lack.makeAll ls).error? = none := by
  induction ls with
  | nil => rfl
  | cons l rest ih =>
    obtain ⟨⟨m, hm⟩, hrest⟩ := List.forall_mem_cons.mp h
    rw [Lack.makeAll, hm]
    exact ih hrest

/-- Whatever modules there are, adding the default ones does not fail. -/
theorem error?_injected (directoryName : String) (setup : List StageModule) :
    (injected (.builtIn directoryName) setup).error? = none := by
  refine error?_makeAll_eq_none fun l hl => ?_
  -- what is lacking was found in the registry, and so it is a built-in module
  obtain ⟨-, hlookup, -⟩ := Registry.mem_lacking hl
  obtain ⟨b, -, hb⟩ :=
    Registry.find?_builtIn_eq_some_iff.mp (Registry.of_lookup?_eq_some hlookup).1
  rw [← hb]
  exact ⟨_, b.create_none directoryName⟩

/-- Then each of them is there under its key. -/
theorem key_mem_of_injected (setup : List StageModule) {needed : BuiltInModule}
    (hneeded : needed ∈ BuiltInModule.defaults) :
    needed.key ∈ (setup ++ (injected (.builtIn directoryName) setup).value).map (·.key) := by
  obtain ⟨-, -, hstage, hkind⟩ := BuiltInModule.asked_for_by_key needed hneeded
  have hlookup := needed.lookup?_key directoryName
  rw [hstage] at hlookup
  have hmakes := Lack.makes_makeAll (error?_injected directoryName setup)
  rw [List.map_append]
  exact Registry.lacking_eq_nil_iff.mp (Lack.lacking_after_makes hmakes) _ hkind _ _ hlookup

/-- So nothing is required that is not there, whatever else is. -/
theorem requirements_eq_nil (setup others : List StageModule) :
    requirements (.builtIn directoryName)
      ((setup ++ (injected (.builtIn directoryName) setup).value ++ others).map (·.key)) = [] := by
  refine List.filterMap_eq_nil_iff.mpr fun key _ => ?_
  have hmet : ((Registry.builtIn directoryName).dependencies key).filter
      (· ∉ (setup ++ (injected (.builtIn directoryName) setup).value ++ others).map (·.key))
        = [] := by
    refine List.filter_eq_nil_iff.mpr fun dependency hdependency => ?_
    obtain ⟨needed, hneeded, rfl⟩ := Registry.exists_default_of_mem_dependencies hdependency
    rw [List.map_append, decide_eq_true_iff, not_not]
    exact List.mem_append_left _ (key_mem_of_injected setup hneeded)
  rw [hmet]
  rfl

/-- The errors in the report on a mapping are those of its sections. -/
theorem errors_validate_map (sections : Yaml.Entries) :
    (validate (.builtIn directoryName) (.map sections)).errors
      = sections.flatMap fun entry =>
          (reportOn (.builtIn directoryName) standardStages entry).errors := by
  obtain ⟨setup, build, publish, hstarts⟩ :=
    exists_startsWithSetup_standard (.builtIn directoryName)
  -- what comes after the sections: no fault in adding the default modules, and no requirement
  have hrest := checkRest_extend hstarts (fun s hs => (isNew_standard _ s hs).1) fun s =>
    s.acceptedOf (.builtIn directoryName) sections
  have hregistry : (standard (.builtIn directoryName)).registry = .builtIn directoryName := rfl
  rw [hregistry, error?_injected, requirements_eq_nil] at hrest
  rw [validate_map_eq, hrest]
  exact List.append_nil _

/-! ## Messages

A message is a text that is put together from its front: the constant words come first, and whatever
names are filled in follow. So its first letter is known. -/

/-- A fault of an item is told with the place of the item. -/
theorem error?_loadItem_cases {registry : Registry} {s : Stage} {index : Nat} {item : Yaml.Value}
    {e : LoadError} (h : (s.loadItem registry index item).error? = some e) :
    e = .notAMapping s.name index ∨ ∃ reason, e = .definition s.name index reason := by
  unfold Stage.loadItem at h
  split at h
  · split at h
    · exact .inr ⟨_, (Option.some.inj h).symm⟩
    · obtain ⟨reason, -, rfl⟩ := Option.map_eq_some_iff.mp h
      exact .inr ⟨reason, rfl⟩
  · exact .inl (Option.some.inj h).symm

/-- What follows a text does not change how it begins. -/
theorem head?_toList_append {a : String} {c : Char} (h : a.toList.head? = some c) (b : String) :
    (a ++ b).toList.head? = some c := by
  rw [String.toList_append, List.head?_append, h, Option.some_or]

/-- What is said of a missing dependency begins with the word for a module. -/
theorem head?_requiresMessage (key : ModuleKey) (missing : List ModuleKey) :
    (requiresMessage key missing).toList.head? = some 'M' :=
  head?_toList_append (head?_toList_append (head?_toList_append
    (head?_toList_append (by decide) _) _) _) _

/-- The messages about a section begin with another letter. -/
theorem head?_message_of_mem_rejections {registry : Registry} {s : Stage} {section_ : Yaml.Value}
    {e : LoadError} (he : e ∈ s.rejections registry section_) :
    e.message.toList.head? = some 'd' ∨ e.message.toList.head? = some 'i' := by
  unfold Stage.rejections at he
  split at he
  · obtain ⟨⟨item, index⟩, -, hitem⟩ := List.mem_filterMap.mp he
    obtain rfl | ⟨reason, rfl⟩ := error?_loadItem_cases hitem
    · exact .inr (head?_toList_append (head?_toList_append (head?_toList_append
        (head?_toList_append (by decide) _) _) _) _)
    · exact .inl (head?_toList_append (head?_toList_append (head?_toList_append
        (head?_toList_append (head?_toList_append (by decide) _) _) _) _) _)
  · rw [List.mem_singleton.mp he]
    exact .inl (head?_toList_append (head?_toList_append (by decide) _) _)

/-- So what is found about a section is not that something is required. -/
theorem requiresMessage_notMem_reportOn (registry : Registry) (stages : List Stage)
    (entry : Yaml.Value × Yaml.Value) (key : ModuleKey) (missing : List ModuleKey) :
    requiresMessage key missing ∉ (reportOn registry stages entry).errors := by
  intro hmem
  unfold reportOn at hmem
  split at hmem
  · cases hmem
  · split at hmem
    · cases hmem
    · obtain ⟨e, he, hmessage⟩ := List.mem_map.mp hmem
      have hfirst := head?_message_of_mem_rejections he
      rw [hmessage, head?_requiresMessage] at hfirst
      exact absurd hfirst (by decide)

/-- An empty document is checked like one without sections. -/
theorem validate_null_eq (registry : Registry) :
    validate registry .null = validate registry (.map []) := rfl

/-- A document that is neither empty nor a mapping is reported as such, and that is all. -/
theorem validate_eq_of_not_map (registry : Registry) {document : Yaml.Value}
    (hnull : document ≠ .null) (hmap : ∀ sections, document ≠ .map sections) :
    validate registry document = .error LoadError.notAMap.message := by
  unfold validate
  split
  · exact absurd rfl hnull
  · exact absurd rfl (hmap _)
  · rfl

/-- No document gets such a message, be it a mapping or not. -/
theorem requiresMessage_notMem_validate (document : Yaml.Value) (key : ModuleKey)
    (missing : List ModuleKey) :
    requiresMessage key missing ∉ (validate (.builtIn directoryName) document).errors := by
  have hsections (sections : Yaml.Entries) : requiresMessage key missing ∉
      (validate (.builtIn directoryName) (.map sections)).errors := by
    rw [errors_validate_map, List.mem_flatMap]
    rintro ⟨entry, -, hmem⟩
    exact requiresMessage_notMem_reportOn _ _ entry key missing hmem
  -- a mapping, nothing at all, or neither
  by_cases hnull : document = .null
  · rw [hnull, validate_null_eq]
    exact hsections []
  · by_cases hmap : ∃ sections, document = .map sections
    · obtain ⟨sections, rfl⟩ := hmap
      exact hsections sections
    · rw [validate_eq_of_not_map _ hnull fun sections h => hmap ⟨sections, h⟩]
      intro hmem
      have hfirst := head?_requiresMessage key missing
      rw [List.mem_singleton.mp hmem] at hfirst
      exact absurd hfirst (by decide)

/-- **What built-in modules depend on is always there.** If a document loads over the built-in
registry, no run of its pipeline refuses a module for a missing dependency, whatever the state it
starts from. The check of any document never reports that a module requires something: what it
reports on a mapping is what it finds about the sections, however many of their items are refused,
and nothing after that. -/
theorem dependencies_always_met (directoryName : String) (document : Yaml.Value) :
    ((ofDocument (.builtIn directoryName) document).error? = none →
      ∀ (now : String) (st : RunState) (stage kind : String) (missing : List ModuleKey),
        ((ofDocument (.builtIn directoryName) document).value.run now st).2
          ≠ some (.missingDependencies stage kind missing)) ∧
    (∀ (key : ModuleKey) (missing : List ModuleKey),
      requiresMessage key missing ∉ (validate (.builtIn directoryName) document).errors) ∧
    ∀ sections, document = .map sections →
      (validate (.builtIn directoryName) document).errors
        = sections.flatMap fun entry =>
            (reportOn (.builtIn directoryName) standardStages entry).errors := by
  refine ⟨fun hload now st stage kind missing => ?_, fun key missing => ?_, ?_⟩
  · refine run_ne_missingDependencies (fun s hs key _ => ?_) now st stage kind missing
    rw [registry_ofDocument, source_ofDocument hs]
    exact missing_eq_nil hload key
  · exact requiresMessage_notMem_validate document key missing
  · rintro sections rfl
    exact errors_validate_map sections

/-- A document that builds and publishes, with the given setup items. -/
def publishing (setups : List Yaml.Value) : Yaml.Value :=
  .map [(.text "publishes", .list [.map [(.text "type", .text "artifact")]]),
    (.text "setups", .list setups),
    (.text "builds", .list [.map [(.text "type", .text "go")]])]

/-- Without setup items it loads, and its modules are not refused. With items of which one has a
type that nobody registered and one is no mapping, the report names these two and nothing else. -/
theorem publishing_lacks_nothing :
    (ofDocument (.builtIn "app") (publishing [])).error? = none ∧
      (∀ (now : String) (st : RunState),
        ((ofDocument (.builtIn "app") (publishing [])).value.run now st).2
          ≠ some (.missingDependencies "build" "go" [⟨"setup", "project"⟩])) ∧
      (validate (.builtIn "app")
          (publishing [.map [(.text "type", .text "gti")], .text "project"])).errors
        = ["definition setup, item #1: unknown module setup:gti",
          "item #2 of `setup` definition is not a map"] := by
  have hload : (ofDocument (.builtIn "app") (publishing [])).error? = none := by decide +kernel
  have hruns := (dependencies_always_met "app" (publishing [])).1 hload
  have hreport := (dependencies_always_met "app"
    (publishing [.map [(.text "type", .text "gti")], .text "project"])).2.2 _ rfl
  refine ⟨hload, fun now st => hruns now st _ _ _, hreport.trans ?_⟩
  decide +kernel

end Pipeline

end ReleasePipeline
