/-
What a document means, whatever the order of its sections.

A section is loaded into the one stage with its label, and what it adds there does not depend on
what any stage holds. So if no two stages and no two sections have the same label, the meaning of a
document can be read off section by section: a stage gets one module for each item of its section,
in the order of the items (`Stage.Resolves`), and a stage without a section gets none.

That loading does this is not proved by going through the sections again. The check of a document
goes through them without stopping and has been described entry by entry; as long as it finds no
fault it has what loading has (`checkSections_agrees`). What is left is that both the faults and the
modules are determined by which entries there are, and that is not changed by a reordering.
-/
import ReleasePipeline.Proofs.Pipeline.Checking
import ReleasePipeline.Proofs.Pipeline.Report
import ReleasePipeline.Recipe

set_option autoImplicit false

namespace ReleasePipeline

namespace Stage

/-! ## Items

`Resolves` says what an item means without a word about loading, so it can be read by somebody who
knows the registry and the document only. -/

/-- The module is what an item of the stage's section asks for: the item is a mapping that names a
type, this type is found for the stage under the key of the module, and the module was made from
the mapping. -/
def Resolves (registry : Registry) (s : Stage) (item : Yaml.Value) (m : StageModule) : Prop :=
  ∃ params registration, item = .map params ∧ itemType params = .ok m.kind ∧
    (s.source registry).lookup? s.name m.kind = some (m.key, registration) ∧
    registration.create (some params) = .ok m.module

/-- A section resolves to modules: it is a list, and each of its items asks for one of them, in
order. -/
def ResolvesTo (registry : Registry) (s : Stage) (section_ : Yaml.Value)
    (ms : List StageModule) : Prop :=
  ∃ items, section_ = .list items ∧ List.Forall₂ (s.Resolves registry) items ms

variable {registry : Registry} {s : Stage} {item section_ : Yaml.Value} {m : StageModule}
  {ms : List StageModule}

/-- What an item asks for is what it adds to a new stage. -/
theorem loadItem_blank_of_resolves (h : s.Resolves registry item m) (index : Nat) :
    (s.blank.loadItem registry index item).error? = none ∧
      (s.blank.loadItem registry index item).value.modules = [m] := by
  obtain ⟨params, registration, hitem, hkind, hlookup, hcreate⟩ := h
  have hresolve : s.blank.resolve registry m.kind false = .ok (m.key, registration) := by
    have hfound : (s.blank.source registry).lookup? s.blank.name m.kind
        = some (m.key, registration) := hlookup
    rw [resolve, hfound]
    simp only [Bool.false_and, Bool.false_eq_true, if_false]
  have hadd : s.blank.add registry m.kind (some params) false
      = { value := s.blank.append m, created := [⟨m.key, some params⟩] } := by
    simp only [add, hresolve, hcreate]
  have hload : s.blank.loadItem registry index item
      = { value := s.blank.append m, created := [⟨m.key, some params⟩] } := by
    simp only [hitem, loadItem, hkind, hadd, Option.map_none]
  rw [hload]
  exact ⟨rfl, rfl⟩

/-- An item that is loaded asks for something. -/
theorem exists_resolves_of_loadItem {index : Nat}
    (h : (s.blank.loadItem registry index item).error? = none) :
    ∃ m, s.Resolves registry item m := by
  cases item with
  | map params =>
    rw [loadItem] at h
    cases hkind : itemType params with
    | error e => simp only [hkind, reduceCtorEq] at h
    | ok kind =>
      simp only [hkind, Option.map_eq_none_iff, add, resolve, Bool.false_and, Bool.false_eq_true,
        if_false] at h
      have hsource : (s.blank.source registry).lookup? s.blank.name kind
          = (s.source registry).lookup? s.name kind := rfl
      rw [hsource] at h
      cases hlookup : (s.source registry).lookup? s.name kind with
      | none => simp only [hlookup, reduceCtorEq] at h
      | some found =>
        obtain ⟨key, registration⟩ := found
        -- the type is known, so it is the parameters that decide
        cases hcreate : registration.create (some params) with
        | error e => simp only [hlookup, hcreate, reduceCtorEq] at h
        | ok module =>
          exact ⟨⟨kind, key, module⟩, params, registration, rfl, hkind, hlookup, hcreate⟩
  | _ => simp only [loadItem, reduceCtorEq] at h

/-! ## Sections -/

/-- Items that resolve are all accepted, and give the modules that they resolve to. -/
theorem loadItems_blank_of_resolves {items : List Yaml.Value}
    (h : List.Forall₂ (s.Resolves registry) items ms) (index : Nat) :
    ((items.zipIdx index).flatMap fun (item, i) =>
        (s.blank.loadItem registry i item).value.modules) = ms ∧
      ((items.zipIdx index).filterMap fun (item, i) =>
        (s.blank.loadItem registry i item).error?) = [] := by
  induction h generalizing index with
  | nil => exact ⟨rfl, rfl⟩
  | cons hitem _ ih =>
    obtain ⟨herror, hmodules⟩ := loadItem_blank_of_resolves hitem index
    obtain ⟨hrest, hnone⟩ := ih (index + 1)
    rw [List.zipIdx_cons, List.flatMap_cons, List.filterMap_cons]
    dsimp only
    -- one module and no fault for this item, and by induction the same for each of the others
    rw [hmodules, hrest, herror, hnone]
    exact ⟨rfl, rfl⟩

/-- If none of the items is refused, they resolve. -/
theorem exists_resolves_of_loadItems {items : List Yaml.Value} {index : Nat}
    (h : ((items.zipIdx index).filterMap fun (item, i) =>
      (s.blank.loadItem registry i item).error?) = []) :
    ∃ ms, List.Forall₂ (s.Resolves registry) items ms := by
  induction items generalizing index with
  | nil => exact ⟨[], .nil⟩
  | cons item rest ih =>
    rw [List.zipIdx_cons, List.filterMap_eq_nil_iff, List.forall_mem_cons] at h
    obtain ⟨m, hm⟩ := exists_resolves_of_loadItem h.1
    obtain ⟨ms, hms⟩ := ih (List.filterMap_eq_nil_iff.mpr h.2)
    exact ⟨m :: ms, .cons hm hms⟩

/-- A section resolves to the modules that are accepted of it. -/
theorem accepted_of_resolvesTo (h : s.ResolvesTo registry section_ ms) :
    s.accepted registry section_ = ms := by
  obtain ⟨items, rfl, hitems⟩ := h
  exact (loadItems_blank_of_resolves hitems 1).1

/-- It resolves exactly if there is nothing wrong with it. -/
theorem exists_resolvesTo_iff :
    (∃ ms, s.ResolvesTo registry section_ ms) ↔ s.rejections registry section_ = [] := by
  constructor
  · rintro ⟨ms, items, rfl, hitems⟩
    exact (loadItems_blank_of_resolves hitems 1).2
  · intro h
    cases section_ with
    | list items =>
      obtain ⟨ms, hms⟩ := exists_resolves_of_loadItems h
      exact ⟨ms, items, rfl, hms⟩
    | _ => exact absurd h (List.cons_ne_nil _ _)

/-! ## The section of a stage

A label counts as a text with its tags taken away. Two labels that differ in a tag only are the same
label here, as they are for loading. -/

/-- The section is that of the stage: it has its label. -/
def IsLabelledBy (s : Stage) (entry : Yaml.Value × Yaml.Value) : Prop :=
  entry.1.asText? = some s.plural

/-- A stage without a section gets nothing. -/
theorem acceptedOf_of_unlabelled {sections : Yaml.Entries}
    (h : ∀ entry ∈ sections, ¬ s.IsLabelledBy entry) : s.acceptedOf registry sections = [] := by
  refine List.flatMap_eq_nil_iff.mpr fun entry hentry => ?_
  exact if_neg (h entry hentry)

/-- A stage gets what its section gives, if no two sections have the same label. -/
theorem acceptedOf_of_labelled {sections : Yaml.Entries} {entry : Yaml.Value × Yaml.Value}
    (hlabels : (Recipe.labels (.map sections)).Nodup)
    (hentry : entry ∈ sections) (hlabel : s.IsLabelledBy entry) :
    s.acceptedOf registry sections = s.accepted registry entry.2 := by
  induction sections with
  | nil => cases hentry
  | cons first rest ih =>
    rw [acceptedOf_cons]
    by_cases hfirst : first.1.asText? = some s.plural
    · -- no other section has the label, so the entry is this one
      have hnodup : (s.plural :: Recipe.labels (.map rest)).Nodup := by
        simp only [Recipe.labels, List.filterMap_cons, hfirst] at hlabels
        exact hlabels
      have hrest : ∀ other ∈ rest, ¬ s.IsLabelledBy other := fun other hother hother' =>
        (List.nodup_cons.mp hnodup).1 (List.mem_filterMap.mpr ⟨other, hother, hother'⟩)
      have heq : entry = first := by
        rcases List.mem_cons.mp hentry with heq | hmem
        · exact heq
        · exact absurd hlabel (hrest entry hmem)
      rw [if_pos hfirst, acceptedOf_of_unlabelled hrest, List.append_nil, heq]
    · have hmem : entry ∈ rest := by
        rcases List.mem_cons.mp hentry with rfl | hmem
        · exact absurd hlabel hfirst
        · exact hmem
      have hnodup : (Recipe.labels (.map rest)).Nodup :=
        hlabels.sublist ((List.sublist_cons_self first rest).filterMap _)
      rw [if_neg hfirst, List.nil_append, ih hnodup hmem]

/-- What a stage gets does not depend on the order of the sections. -/
theorem acceptedOf_of_perm {sections sections' : Yaml.Entries} (hperm : sections'.Perm sections)
    (hlabels : (Recipe.labels (.map sections)).Nodup) :
    s.acceptedOf registry sections' = s.acceptedOf registry sections := by
  have hlabels' : (Recipe.labels (.map sections')).Nodup :=
    (hperm.filterMap _).nodup_iff.mpr hlabels
  by_cases h : ∃ entry ∈ sections, s.IsLabelledBy entry
  · obtain ⟨entry, hentry, hlabel⟩ := h
    rw [acceptedOf_of_labelled hlabels hentry hlabel,
      acceptedOf_of_labelled hlabels' (hperm.mem_iff.mpr hentry) hlabel]
  · have hnone : ∀ entry ∈ sections, ¬ s.IsLabelledBy entry := fun entry hentry hlabel =>
      h ⟨entry, hentry, hlabel⟩
    rw [acceptedOf_of_unlabelled hnone, acceptedOf_of_unlabelled fun entry hentry =>
      hnone entry (hperm.mem_iff.mp hentry)]

end Stage

namespace Pipeline

variable {p : Pipeline} {sections : Yaml.Entries}

/-! ## Documents -/

/-- Where no two stages have the same label, a label finds the stage that has it. -/
theorem find?_plural_eq_some_iff {stages : List Stage} (hdistinct : (stages.map Stage.plural).Nodup)
    {label : String} {s : Stage} :
    stages.find? (·.plural == label) = some s ↔ s ∈ stages ∧ s.plural = label := by
  constructor
  · intro h
    have hlabel := List.find?_some h
    exact ⟨List.mem_of_find?_eq_some h, beq_iff_eq.mp hlabel⟩
  · rintro ⟨hs, hlabel⟩
    obtain ⟨before, after, rfl⟩ := List.append_of_mem hs
    rw [List.map_append, List.map_cons, List.nodup_append] at hdistinct
    refine List.find?_eq_some_iff_append.mpr ⟨beq_iff_eq.mpr hlabel, before, after, rfl, ?_⟩
    intro other hother
    -- another stage with this label would make two of them
    have hne := hdistinct.2.2 _ (List.mem_map_of_mem hother) _ List.mem_cons_self
    rw [← hlabel, Bool.not_eq_true', beq_eq_false_iff_ne]
    exact hne

/-- An entry is without fault exactly if it resolves in the stage that it is labelled by, if there
is one. -/
theorem errors_reportOn_eq_nil_iff {registry : Registry} {stages : List Stage}
    (hdistinct : (stages.map Stage.plural).Nodup) (entry : Yaml.Value × Yaml.Value) :
    (reportOn registry stages entry).errors = [] ↔
      ∀ s ∈ stages, s.IsLabelledBy entry → ∃ ms, s.ResolvesTo registry entry.2 ms := by
  rw [reportOn]
  -- a section whose label is no text, or no stage's, is passed over, and nothing is asked of it
  cases hlabel : entry.1.asText? with
  | none =>
    refine ⟨fun _ s _ hs => ?_, fun _ => rfl⟩
    rw [Stage.IsLabelledBy, hlabel] at hs
    cases hs
  | some label =>
    have hlabelled : ∀ s : Stage, s.IsLabelledBy entry ↔ s.plural = label := by
      intro s
      rw [Stage.IsLabelledBy, hlabel, Option.some.injEq, eq_comm]
    simp only [hlabelled]
    cases hfind : stages.find? (·.plural == label) with
    | none =>
      refine ⟨fun _ s hs hplural => ?_, fun _ => rfl⟩
      have hsome := (find?_plural_eq_some_iff hdistinct).mpr ⟨hs, hplural⟩
      rw [hfind] at hsome
      cases hsome
    | some s =>
      -- the stage that is found is the only one with this label
      have hfound := (find?_plural_eq_some_iff hdistinct).mp hfind
      dsimp only
      rw [List.map_eq_nil_iff, ← Stage.exists_resolvesTo_iff]
      refine ⟨fun h t ht hplural => ?_, fun h => h s hfound.1 hfound.2⟩
      have hsame := (find?_plural_eq_some_iff hdistinct).mpr ⟨ht, hplural⟩
      rw [hfind] at hsame
      cases hsame
      exact h

/-- A document can be loaded exactly if each section that is the section of a stage resolves
there. -/
theorem error?_load_eq_none_iff (hdistinct : (p.stages.map Stage.plural).Nodup) :
    (p.load (.map sections)).error? = none ↔
      ∀ entry ∈ sections, ∀ s ∈ p.stages, s.IsLabelledBy entry →
        ∃ ms, s.ResolvesTo p.registry entry.2 ms := by
  have hagrees := p.checkSections_agrees sections
  -- the check names every fault, in whichever section it is, so it is the better one to ask
  have hcheck : (p.checkSections sections).2.errors = [] ↔
      ∀ entry ∈ sections, ∀ s ∈ p.stages, s.IsLabelledBy entry →
        ∃ ms, s.ResolvesTo p.registry entry.2 ms := by
    rw [p.checkSections_eq hdistinct, List.flatMap_eq_nil_iff]
    exact forall₂_congr fun entry _ => errors_reportOn_eq_nil_iff hdistinct entry
  rw [← hcheck]
  have hload : p.load (.map sections) = p.loadSections sections := rfl
  rw [hload]
  cases herror : (p.loadSections sections).error? with
  | none => exact ⟨fun _ => (hagrees.ok herror).2, fun _ => rfl⟩
  | some e =>
    refine ⟨nofun, fun hnil => ?_⟩
    have hhead := hagrees.error herror
    rw [hnil] at hhead
    cases hhead

/-- Then it adds to each stage what its section gives. -/
theorem value_load_of_ok (hdistinct : (p.stages.map Stage.plural).Nodup)
    (hok : (p.load (.map sections)).error? = none) :
    (p.load (.map sections)).value = p.extend fun s => s.acceptedOf p.registry sections := by
  have hvalue := ((p.checkSections_agrees sections).ok hok).1
  rw [p.checkSections_eq hdistinct] at hvalue
  exact hvalue.symm

/-- **What a document means does not depend on the order of its sections.** Let no two stages and no
two sections have the same label; tags are of no account, and sections that no stage has, or whose
label is no text, may be among them. The document can be loaded exactly if the section of each stage
resolves to modules, item by item. Then each stage is what it was with the modules of its section at
its end, and a stage without a section is what it was. With its sections in any other order the
document can be loaded or not just as well, and gives the same pipeline. -/
theorem load_by_labels (p : Pipeline) (sections : Yaml.Entries)
    (hstages : (p.stages.map Stage.plural).Nodup)
    (hlabels : (Recipe.labels (.map sections)).Nodup) :
    ((p.load (.map sections)).error? = none ↔
      ∀ entry ∈ sections, ∀ s ∈ p.stages, s.IsLabelledBy entry →
        ∃ ms, s.ResolvesTo p.registry entry.2 ms) ∧
    ((p.load (.map sections)).error? = none →
      List.Forall₂ (fun s t =>
          (∀ entry ∈ sections, s.IsLabelledBy entry →
            ∃ ms, s.ResolvesTo p.registry entry.2 ms ∧ t = s.appendAll ms ∧
              t.modules = s.modules ++ ms) ∧
          ((∀ entry ∈ sections, ¬ s.IsLabelledBy entry) → t = s))
        p.stages (p.load (.map sections)).value.stages) ∧
    ∀ sections' : Yaml.Entries, sections'.Perm sections →
      ((p.load (.map sections')).error? = none ↔ (p.load (.map sections)).error? = none) ∧
      ((p.load (.map sections)).error? = none →
        (p.load (.map sections')).value = (p.load (.map sections)).value) := by
  refine ⟨error?_load_eq_none_iff hstages, fun hok => ?_, fun sections' hperm => ?_⟩
  · have hresolves := (error?_load_eq_none_iff hstages).mp hok
    rw [value_load_of_ok hstages hok, extend, List.forall₂_map_right_iff, List.forall₂_same]
    intro s hs
    refine ⟨fun entry hentry hlabel => ?_, fun hnone => ?_⟩
    · obtain ⟨ms, hms⟩ := hresolves entry hentry s hs hlabel
      rw [Stage.acceptedOf_of_labelled hlabels hentry hlabel, Stage.accepted_of_resolvesTo hms]
      exact ⟨ms, hms, rfl, s.modules_appendAll ms⟩
    · rw [Stage.acceptedOf_of_unlabelled hnone, Stage.appendAll_nil]
  · have hiff :
        (p.load (.map sections')).error? = none ↔ (p.load (.map sections)).error? = none := by
      rw [error?_load_eq_none_iff hstages, error?_load_eq_none_iff hstages]
      exact forall_congr' fun entry => imp_congr_left hperm.mem_iff
    refine ⟨hiff, fun hok => ?_⟩
    rw [value_load_of_ok hstages hok, value_load_of_ok hstages (hiff.mpr hok)]
    -- in either order the stage gets what its section gives
    have hsame : (fun s : Stage => s.acceptedOf p.registry sections')
        = fun s => s.acceptedOf p.registry sections :=
      funext fun s => Stage.acceptedOf_of_perm hperm hlabels
    rw [hsame]

/-- A copy is to be made, and before it the variables are captured; the document lists the stages
the other way round, with entries between that are no sections. -/
def copyAfterCapture : Yaml.Entries :=
  [(.text "publishes", .list [.map [(.text "type", .text "scp"), (.text "target", .text "host:")]]),
    (.int 1, .null), (.text "notes", .text "none"),
    (.tagged "!s" (.text "setups"), .list [.map [(.text "type", .text "env")]])]

/-- With the setup first it gives the same pipeline. -/
theorem copyAfterCapture_reversed :
    ((standard (.builtIn "demo")).stages.map Stage.plural).Nodup ∧
    (Recipe.labels (.map copyAfterCapture)).Nodup ∧
    ((standard (.builtIn "demo")).load (.map copyAfterCapture)).error? = none ∧
    ((standard (.builtIn "demo")).load (.map copyAfterCapture)).value.keys
      = [⟨"setup", "env"⟩, ⟨"publish", "scp"⟩] ∧
    ((standard (.builtIn "demo")).load (.map copyAfterCapture.reverse)).value
      = ((standard (.builtIn "demo")).load (.map copyAfterCapture)).value := by
  have hstages : ((standard (.builtIn "demo")).stages.map Stage.plural).Nodup := by decide
  have hlabels : (Recipe.labels (.map copyAfterCapture)).Nodup := by decide
  have hok : ((standard (.builtIn "demo")).load (.map copyAfterCapture)).error? = none := rfl
  obtain ⟨-, -, hreorder⟩ := load_by_labels (standard (.builtIn "demo")) copyAfterCapture hstages
    hlabels
  exact ⟨hstages, hlabels, hok, rfl, (hreorder _ (List.reverse_perm _)).2 hok⟩

end Pipeline

end ReleasePipeline
