/-
What a document that cannot be loaded leaves behind.

Loading stops at the first fault, and nothing is taken back. A refused item leaves its stage as it
was, so what is there afterwards is what the part of the document before the fault would have
loaded, had it been the whole document (`Loaded.StopsAfter`, from items over sections to
documents, by induction on each list). Where exactly a document is cut is said by `Fault`. An
item is judged by the name and the registry of its stage, which loading never changes, and so the
fault can be read off the pipeline as it was before the call.

The constructors that were called are recorded, and they account for all modules that are there
afterwards (`Loaded.Records`). So a document leaves nothing behind only if its fault comes before
the first module.
-/
import ReleasePipeline.BuiltIn
import ReleasePipeline.Proofs.Pipeline.Additions

set_option autoImplicit false

namespace ReleasePipeline

namespace Loaded

variable {α β : Type} {r sound : Loaded α} {step next : α → Loaded α} {e : LoadError}

/-! ## One step after the other

Two things are followed through all levels of loading, and each has one lemma for a second step. How
far loading came is said by a comparison with a sound document, and not by counting, since what is
there afterwards is asked for and not where it stopped. -/

/-- After a fault the next step is not taken. -/
theorem andThen_of_some (h : r.error? = some e) : r.andThen step = r := by
  rw [andThen, h]

/-- Without one it is taken, and the constructors that were called are put together. -/
theorem andThen_of_none (h : r.error? = none) :
    r.andThen step = { step r.value with created := r.created ++ (step r.value).created } := by
  rw [andThen, h]

/-- The step stopped with the fault, and left what the sound step leaves, which did not stop. -/
structure StopsAfter (r sound : Loaded α) (e : LoadError) : Prop where
  stopped : r.error? = some e
  went : sound.error? = none
  value : r.value = sound.value

namespace StopsAfter

/-- A step is seen from outside as it is from inside, and so is its fault. -/
theorem map (f : α → β) (h : r.StopsAfter sound e) : (r.map f).StopsAfter (sound.map f) e :=
  ⟨h.stopped, h.went, congrArg f h.value⟩

/-- What would have come next does not matter. -/
theorem andThen (h : r.StopsAfter sound e) :
    (r.andThen step).StopsAfter (sound.andThen fun a => { value := a }) e := by
  rw [andThen_of_some h.stopped, andThen_of_none h.went]
  exact ⟨h.stopped, rfl, h.value⟩

/-- If the first step did not stop, the fault is one of the second. -/
theorem of_next (h : r.error? = none) (hnext : (step r.value).StopsAfter (next r.value) e) :
    (r.andThen step).StopsAfter (r.andThen next) e := by
  rw [andThen_of_none h, andThen_of_none h]
  exact ⟨hnext.stopped, hnext.went, hnext.value⟩

end StopsAfter

/-- The constructors that were called account for what the step leaves: for each of them there is
one module more, and without any of them nothing changed. -/
structure Records (keys : α → List ModuleKey) (a : α) (r : Loaded α) : Prop where
  keys : r.error? = none → (keys r.value).Perm (keys a ++ r.created.map (·.key))
  unchanged : r.created = [] → r.value = a

namespace Records

variable {keys : α → List ModuleKey} {a : α}

/-- A step that calls no constructor leaves everything as it was, with or without a fault. -/
theorem of_value (keys : α → List ModuleKey) (a : α) (e? : Option LoadError) :
    Records keys a { value := a, error? := e? } := by
  refine ⟨fun _ => ?_, fun _ => rfl⟩
  rw [List.map_nil, List.append_nil]

/-- Two steps record what each of them does. -/
theorem andThen (h : r.Records keys a) (hstep : ∀ b, (step b).Records keys b) :
    (r.andThen step).Records keys a := by
  cases hr : r.error? with
  | some e =>
    rw [andThen_of_some hr]
    exact h
  | none =>
    rw [andThen_of_none hr]
    refine ⟨fun hok => ?_, fun hnone => ?_⟩
    · have hnext := (hstep r.value).keys hok
      rw [List.map_append, ← List.append_assoc]
      exact hnext.trans ((h.keys hr).append_right _)
    · obtain ⟨hfirst, hsecond⟩ := List.append_eq_nil_iff.mp hnone
      exact ((hstep r.value).unchanged hsecond).trans (h.unchanged hfirst)

end Records

end Loaded

namespace Stage

variable {registry : Registry} {s : Stage} {e : LoadError}

/-! ## Stages -/

/-- A fault of a section, and the part of the section that comes before it. Items count from
one. -/
inductive Fault (registry : Registry) (s : Stage) : Yaml.Value → Yaml.Value → LoadError → Prop
  | notASequence {section_ : Yaml.Value} (h : ∀ items, section_ ≠ .list items) :
    Fault registry s section_ (.list []) (.notASequence s.name)
  | item {good rest : List Yaml.Value} {bad : Yaml.Value} {e : LoadError}
    (h : (s.loadItem registry (good.length + 1) bad).error? = some e) :
    Fault registry s (.list (good ++ bad :: rest)) (.list good) e

/-- An item is judged without regard to the modules that are there. -/
theorem error?_loadItem_appendAll (ms : List StageModule) (index : Nat) (item : Yaml.Value) :
    ((s.appendAll ms).loadItem registry index item).error?
      = (s.loadItem registry index item).error? := by
  rw [loadItem_eq_blank (s.appendAll ms), blank_appendAll, loadItem_eq_blank s]

/-- So a section has its faults whatever the stage holds. -/
theorem fault_appendAll_iff {ms : List StageModule} {section_ part : Yaml.Value} :
    Fault registry (s.appendAll ms) section_ part e ↔ Fault registry s section_ part e := by
  constructor
  · intro h
    cases h with
    | notASequence h =>
      rw [name_appendAll]
      exact .notASequence h
    | item h =>
      rw [error?_loadItem_appendAll] at h
      exact .item h
  · intro h
    cases h with
    | notASequence h =>
      rw [← name_appendAll s ms]
      exact .notASequence h
    | item h =>
      rw [← error?_loadItem_appendAll ms] at h
      exact .item h

/-- Items are loaded up to the first that is refused. -/
theorem exists_refused_of_loadItems {index : Nat} {items : List Yaml.Value}
    (h : (s.loadItems registry index items).error? = some e) :
    ∃ good bad rest, items = good ++ bad :: rest ∧
      (s.loadItem registry (index + good.length) bad).error? = some e ∧
      (s.loadItems registry index items).StopsAfter (s.loadItems registry index good) e := by
  induction items generalizing s index with
  | nil => cases h
  | cons item rest ih =>
    cases hitem : (s.loadItem registry index item).error? with
    | some e' =>
      have hfirst : s.loadItems registry index (item :: rest) = s.loadItem registry index item := by
        rw [loadItems, Loaded.andThen_of_some hitem]
      rw [hfirst, hitem] at h
      cases h
      refine ⟨[], item, rest, rfl, hitem, ?_⟩
      rw [hfirst]
      exact ⟨hitem, rfl, value_loadItem_of_error hitem⟩
    | none =>
      rw [loadItems, Loaded.andThen_of_none hitem] at h
      obtain ⟨good, bad, rest', rfl, hbad, hstops⟩ := ih h
      refine ⟨item :: good, bad, rest', rfl, ?_, .of_next hitem hstops⟩
      -- the stage has one module more by then, which does not count
      obtain ⟨ms, hms⟩ := (s.loadItem_grows registry index item).exists_appendAll
      rw [hms, error?_loadItem_appendAll] at hbad
      rw [List.length_cons, Nat.add_comm good.length 1, ← Nat.add_assoc]
      exact hbad

/-- A section that is not loaded has a fault, and leaves what the part before the fault leaves. -/
theorem exists_fault_of_loadSection {section_ : Yaml.Value}
    (h : (s.loadSection registry section_).error? = some e) :
    ∃ part, Fault registry s section_ part e ∧
      (s.loadSection registry section_).StopsAfter (s.loadSection registry part) e := by
  cases section_ with
  | list items =>
    obtain ⟨good, bad, rest, rfl, hbad, hstops⟩ := exists_refused_of_loadItems h
    rw [Nat.add_comm 1] at hbad
    exact ⟨.list good, .item hbad, hstops⟩
  | _ =>
    cases h
    exact ⟨.list [], .notASequence nofun, rfl, rfl, rfl⟩

/-! ### What was made -/

/-- The one constructor that adding a module may call makes the one module that is added. -/
theorem add_records (kind : String) (params : Option Yaml.Entries) (once : Bool) :
    (s.add registry kind params once).Records keys s := by
  rw [add]
  cases s.resolve registry kind once with
  | error e => exact .of_value keys s _
  | ok found =>
    dsimp only
    cases found.2.create params with
    | error e =>
      -- it was called, and it failed, so there is nothing to say of either case
      exact ⟨fun h => absurd h (Option.some_ne_none _), fun h => absurd h (List.cons_ne_nil _ _)⟩
    | ok module =>
      have hkeys : (s.append ⟨kind, found.1, module⟩).keys = s.keys ++ [found.1] :=
        keys_appendAll s [⟨kind, found.1, module⟩]
      exact ⟨fun _ => .of_eq hkeys, fun h => absurd h (List.cons_ne_nil _ _)⟩

/-- An item is one module, or is refused. -/
theorem loadItem_records (index : Nat) (item : Yaml.Value) :
    (s.loadItem registry index item).Records keys s := by
  cases item with
  | map params =>
    rw [loadItem]
    cases itemType params with
    | error e => exact .of_value keys s _
    | ok kind =>
      have hadd : (s.add registry kind (some params) false).Records keys s := add_records _ _ _
      exact ⟨fun hok => hadd.keys (Option.map_eq_none_iff.mp hok), hadd.unchanged⟩
  | _ => exact .of_value keys s _

/-- Items record what each of them does. -/
theorem loadItems_records (index : Nat) (items : List Yaml.Value) :
    (s.loadItems registry index items).Records keys s := by
  induction items generalizing s index with
  | nil => exact .of_value keys s none
  | cons item rest ih => exact (loadItem_records index item).andThen fun t => ih (index + 1)

/-- A section is its items. -/
theorem loadSection_records (section_ : Yaml.Value) :
    (s.loadSection registry section_).Records keys s := by
  cases section_ with
  | list items => exact loadItems_records 1 items
  | _ => exact .of_value keys s _

end Stage

namespace Pipeline

variable {p q : Pipeline} {condition : Stage → Bool} {stages : List Stage} {e : LoadError}

/-! ## The stage of a label -/

/-- Where no stage has the label nothing happens. -/
theorem stepIn_of_find?_none (h : stages.find? condition = none) (step : Stage → Loaded Stage) :
    stepIn condition step stages = { value := stages } := by
  induction stages with
  | nil => rfl
  | cons s rest ih =>
    rw [List.find?_cons] at h
    rw [stepIn]
    by_cases hs : condition s = true
    · rw [hs] at h
      cases h
    · rw [Bool.not_eq_true] at hs
      rw [hs] at h
      rw [if_neg (Bool.not_eq_true _ ▸ hs), ih h]
      rfl

/-- The step is taken in the stage that is found, and the others stay where they are. -/
theorem stepIn_of_find? {s : Stage} (h : stages.find? condition = some s) :
    ∃ before after, stages = before ++ s :: after ∧ ∀ step : Stage → Loaded Stage,
      stepIn condition step stages = (step s).map fun t => before ++ t :: after := by
  obtain ⟨hs, before, after, rfl, hbefore⟩ := List.find?_eq_some_iff_append.mp h
  refine ⟨before, after, rfl, fun step => ?_⟩
  clear h
  induction before with
  | nil =>
    rw [List.nil_append, stepIn, if_pos hs]
    rfl
  | cons u before ih =>
    rw [List.forall_mem_cons] at hbefore
    have hu : ¬condition u = true := by simpa using hbefore.1
    rw [List.cons_append, stepIn, if_neg hu, ih hbefore.2]
    rfl

/-- What a stage records, the pipeline records: the keys of the other stages are where they were. -/
theorem inStage_records {step : Stage → Loaded Stage}
    (hstep : ∀ s, (step s).Records Stage.keys s) :
    (p.inStage condition step).Records keys p := by
  rw [inStage]
  cases hfind : p.stages.find? condition with
  | none =>
    rw [stepIn_of_find?_none hfind]
    exact .of_value keys p none
  | some s =>
    obtain ⟨before, after, hstages, hstep'⟩ := stepIn_of_find? hfind
    rw [hstep']
    refine ⟨fun hok => ?_, fun hnone => ?_⟩
    · have hkeys := (hstep s).keys hok
      simp only [keys, Loaded.map, hstages, List.flatMap_append, List.flatMap_cons,
        List.append_assoc]
      -- the new keys stand at the end of their stage, so in the row of all keys they come before
      -- those of later stages
      refine List.Perm.append_left _ ?_
      refine (hkeys.append_right _).trans ?_
      rw [List.append_assoc]
      exact List.perm_append_comm.append_left _
    · have hvalue : (step s).value = s := (hstep s).unchanged hnone
      change Pipeline.mk p.registry (before ++ (step s).value :: after) = p
      rw [hvalue, ← hstages]

/-! ## Documents -/

/-- A fault of a section in the stage that its label names, and the part of the section that comes
before it. -/
def SectionFault (p : Pipeline) (label section_ part : Yaml.Value) (e : LoadError) : Prop :=
  ∃ text s, label.asText? = some text ∧ p.stages.find? (·.plural == text) = some s ∧
    s.Fault p.registry section_ part e

/-- A fault of a document, and the part of the document that comes before it: the sections above
the one with the fault, and what comes before the fault in that section. -/
inductive Fault (p : Pipeline) : Yaml.Value → Yaml.Value → LoadError → Prop
  | notAMap {document : Yaml.Value} (hnull : document ≠ .null)
    (hmap : ∀ sections, document ≠ .map sections) : Fault p document .null .notAMap
  | inSection {before after : Yaml.Entries} {label section_ part : Yaml.Value} {e : LoadError}
    (h : p.SectionFault label section_ part e) :
    Fault p (.map (before ++ (label, section_) :: after)) (.map (before ++ [(label, part)])) e

/-- Modules that are added do not change which stage a label names. -/
theorem exists_find?_of_grows {registry : Registry} {ss ts : List Stage} {text : String}
    {t : Stage} (h : List.Forall₂ (Stage.Grows registry) ss ts)
    (ht : ts.find? (·.plural == text) = some t) :
    ∃ s ms, ss.find? (·.plural == text) = some s ∧ t = s.appendAll ms := by
  induction h with
  | nil => cases ht
  | @cons s t' ss ts hgrows _ ih =>
    obtain ⟨ms, rfl⟩ := hgrows.exists_appendAll
    rw [List.find?_cons, Stage.plural_appendAll] at ht
    rw [List.find?_cons]
    cases hs : s.plural == text with
    | true =>
      rw [hs] at ht
      cases ht
      exact ⟨s, ms, rfl, rfl⟩
    | false =>
      rw [hs] at ht
      exact ih ht

/-- So a fault after some more modules is one before. -/
theorem SectionFault.of_grows {label section_ part : Yaml.Value} (hgrows : Grows p q)
    (h : q.SectionFault label section_ part e) : p.SectionFault label section_ part e := by
  obtain ⟨text, t, htext, ht, hfault⟩ := h
  obtain ⟨s, ms, hs, rfl⟩ := exists_find?_of_grows hgrows.stages ht
  rw [hgrows.registry_eq, Stage.fault_appendAll_iff] at hfault
  exact ⟨text, s, htext, hs, hfault⟩

/-- The same of a section of a document. A label that no stage has is no fault. -/
theorem exists_fault_of_loadSection {label section_ : Yaml.Value} {text : String}
    (htext : label.asText? = some text) (h : (p.loadSection text section_).error? = some e) :
    ∃ part, p.SectionFault label section_ part e ∧
      (p.loadSection text section_).StopsAfter (p.loadSection text part) e := by
  rw [loadSection, inStage] at h
  cases hfind : p.stages.find? (·.plural == text) with
  | none =>
    rw [stepIn_of_find?_none hfind] at h
    cases h
  | some s =>
    obtain ⟨before, after, -, hstep⟩ := stepIn_of_find? hfind
    rw [hstep] at h
    obtain ⟨part, hfault, hstops⟩ := Stage.exists_fault_of_loadSection h
    refine ⟨part, ⟨text, s, htext, hfind, hfault⟩, ?_⟩
    rw [loadSection, loadSection, inStage, inStage, hstep, hstep]
    exact (hstops.map _).map _

/-- A section whose label is no text is passed over. -/
theorem loadSections_cons_of_none {label : Yaml.Value} (hlabel : label.asText? = none)
    (section_ : Yaml.Value) (sections : Yaml.Entries) :
    p.loadSections ((label, section_) :: sections) = p.loadSections sections := by
  rw [loadSections, hlabel]

/-- A section whose label is a text is loaded before the others. -/
theorem loadSections_cons_of_some {label : Yaml.Value} {text : String}
    (hlabel : label.asText? = some text) (section_ : Yaml.Value) (sections : Yaml.Entries) :
    p.loadSections ((label, section_) :: sections)
      = (p.loadSection text section_).andThen fun q => q.loadSections sections := by
  rw [loadSections, hlabel]

/-- Sections that are not loaded have a first one with a fault. -/
theorem exists_fault_of_loadSections {sections : Yaml.Entries}
    (h : (p.loadSections sections).error? = some e) :
    ∃ before label section_ part after, sections = before ++ (label, section_) :: after ∧
      p.SectionFault label section_ part e ∧
      (p.loadSections sections).StopsAfter (p.loadSections (before ++ [(label, part)])) e := by
  induction sections generalizing p with
  | nil => cases h
  | cons entry rest ih =>
    obtain ⟨label, section_⟩ := entry
    cases htext : label.asText? with
    | none =>
      rw [loadSections_cons_of_none htext] at h
      obtain ⟨before, label', section_', part, after, rfl, hfault, hstops⟩ := ih h
      refine ⟨(label, section_) :: before, label', section_', part, after, rfl, hfault, ?_⟩
      rw [List.cons_append, loadSections_cons_of_none htext, loadSections_cons_of_none htext]
      exact hstops
    | some text =>
      rw [loadSections_cons_of_some htext] at h
      cases hsection : (p.loadSection text section_).error? with
      | some e' =>
        rw [Loaded.andThen_of_some hsection, hsection] at h
        cases h
        obtain ⟨part, hfault, hstops⟩ := exists_fault_of_loadSection htext hsection
        refine ⟨[], label, section_, part, rest, rfl, hfault, ?_⟩
        rw [List.nil_append, loadSections_cons_of_some htext, loadSections_cons_of_some htext]
        exact hstops.andThen
      | none =>
        rw [Loaded.andThen_of_none hsection] at h
        obtain ⟨before, label', section_', part, after, rfl, hfault, hstops⟩ := ih h
        -- the sections before it added modules, which is nothing to the fault
        have hgrows : Grows p (p.loadSection text section_).value :=
          p.inStage_grows fun s => s.loadSection_grows p.registry section_
        refine ⟨(label, section_) :: before, label', section_', part, after, rfl,
          hfault.of_grows hgrows, ?_⟩
        rw [List.cons_append, loadSections_cons_of_some htext, loadSections_cons_of_some htext]
        exact .of_next hsection hstops

/-- Sections record what each of them does. -/
theorem loadSections_records (sections : Yaml.Entries) :
    (p.loadSections sections).Records keys p := by
  induction sections generalizing p with
  | nil => exact .of_value keys p none
  | cons entry rest ih =>
    obtain ⟨label, section_⟩ := entry
    cases htext : label.asText? with
    | none =>
      rw [loadSections_cons_of_none htext]
      exact ih
    | some text =>
      rw [loadSections_cons_of_some htext]
      refine Loaded.Records.andThen (inStage_records fun s => ?_) fun q => ih
      exact Stage.loadSection_records section_

/-- A document is its sections. -/
theorem load_records (document : Yaml.Value) : (p.load document).Records keys p := by
  unfold load
  split
  · exact .of_value keys p none
  · exact loadSections_records _
  · exact .of_value keys p _

/-- A document that is not loaded has a fault, and leaves what the part before the fault leaves. -/
theorem exists_fault_of_load {document : Yaml.Value} (h : (p.load document).error? = some e) :
    ∃ part, p.Fault document part e ∧ (p.load document).StopsAfter (p.load part) e := by
  cases document with
  | null => cases h
  | map sections =>
    obtain ⟨before, label, section_, part, after, rfl, hfault, hstops⟩ :=
      exists_fault_of_loadSections h
    exact ⟨.map (before ++ [(label, part)]), .inSection hfault, hstops⟩
  | _ =>
    cases h
    exact ⟨.null, .notAMap nofun nofun, rfl, rfl, rfl⟩

/-- **What a document that cannot be loaded leaves behind.** The error is that of the first fault,
and everything before the fault stays loaded: the pipeline is left as the part of the document
before the fault leaves it, which by itself loads without an error. Each stage has what it had,
with the modules of that part at its end, and the pipeline is as it was before exactly if no
module was made in that part. -/
theorem load_keeps_part_before_fault {p : Pipeline} {document : Yaml.Value} {e : LoadError}
    (h : (p.load document).error? = some e) :
    ∃ part, p.Fault document part e ∧ (p.load part).error? = none ∧
      (p.load document).value = (p.load part).value ∧
      List.Forall₂ (fun s t => ∃ more, t = s.appendAll more ∧ t.modules = s.modules ++ more)
        p.stages (p.load document).value.stages ∧
      (p.load document).value.keys.Perm (p.keys ++ (p.load part).created.map (·.key)) ∧
      ((p.load document).value.stages = p.stages ↔ (p.load part).created = []) := by
  obtain ⟨part, hfault, hstops⟩ := exists_fault_of_load h
  have hkeys : (p.load document).value.keys.Perm (p.keys ++ (p.load part).created.map (·.key)) := by
    rw [hstops.value]
    exact (load_records part).keys hstops.went
  refine ⟨part, hfault, hstops.went, hstops.value, ?_, hkeys, fun hsame => ?_, fun hnone => ?_⟩
  · refine (p.load_grows document).stages.imp fun s t hst => ?_
    obtain ⟨more, rfl⟩ := hst.exists_appendAll
    exact ⟨more, rfl, Stage.modules_appendAll s more⟩
  -- as many keys as before means that none was added
  · have hlength := hkeys.length_eq
    rw [keys, hsame, ← keys, List.length_append, List.length_map] at hlength
    exact List.length_eq_zero_iff.mp (by omega)
  · rw [hstops.value, (load_records part).unchanged hnone]

/-- The variables are to be captured, and then there is an item whose type nobody registered; a
build would come after. -/
def envThenUnknown : Yaml.Value :=
  .map [(.text "setups", .list [.map [(.text "type", .text "env")],
      .map [(.text "type", .text "nope")], .map [(.text "type", .text "git")]]),
    (.text "builds", .list [.map [(.text "type", .text "zip")]])]

/-- Of this document the first item stays. -/
theorem env_kept_before_unknown :
    ((standard (.builtIn "work")).load envThenUnknown).error?
        = some (.definition "setup" 2 (.unknownModule "setup" "nope")) ∧
      ∃ part, (standard (.builtIn "work")).Fault envThenUnknown part
          (.definition "setup" 2 (.unknownModule "setup" "nope")) ∧
        ((standard (.builtIn "work")).load part).created.map (·.key) = [⟨"setup", "env"⟩] ∧
        ((standard (.builtIn "work")).load envThenUnknown).value
          = ((standard (.builtIn "work")).load part).value := by
  have herror : ((standard (.builtIn "work")).load envThenUnknown).error?
      = some (.definition "setup" 2 (.unknownModule "setup" "nope")) := rfl
  obtain ⟨part, hfault, -, hvalue, -, hkeys, -⟩ := load_keeps_part_before_fault herror
  have hpart : ((standard (.builtIn "work")).load part).created.map (·.key) = [⟨"setup", "env"⟩] :=
    List.perm_singleton.mp hkeys.symm
  exact ⟨herror, part, hfault, hpart, hvalue⟩

/-- So loading is not all or nothing. -/
theorem failed_load_changes_stages :
    ¬∀ (p : Pipeline) (document : Yaml.Value) (e : LoadError), (p.load document).error? = some e →
      List.Forall₂ (fun s t => t.modules = s.modules ∧ t.loaded = s.loaded) p.stages
        (p.load document).value.stages := by
  intro h
  have hsame := h (standard (.builtIn "work")) envThenUnknown _ rfl
  obtain ⟨⟨hmodules, -⟩, -⟩ := List.forall₂_cons.mp hsame
  exact List.cons_ne_nil _ _ hmodules

end Pipeline

end ReleasePipeline
