/-
What the report on a document says, item by item.

The check changes the stages as it goes, and what it finds later it finds in changed stages. Here
the report is described without that: each section is judged by itself (`reportOn`), the default
modules are those that the accepted items lack, and a module is reported when one of its
dependencies is neither the key of an accepted item nor that of a default module that was made.

That the two agree is carried by one induction over the sections (`checkSections_eq`). Its
invariant is that the stages differ from those at the start by appended modules only, and these
do not show in the report on a section.
-/
import ReleasePipeline.Proofs.Pipeline.Injection

set_option autoImplicit false

namespace ReleasePipeline

namespace Stage

variable (registry : Registry) (s : Stage)

/-- An item of its own adds one module, unless it is refused. -/
theorem length_modules_loadItem_blank (index : Nat) (item : Yaml.Value) :
    (s.blank.loadItem registry index item).value.modules.length
      = if (s.blank.loadItem registry index item).error? = none then 1 else 0 := by
  cases herror : (s.blank.loadItem registry index item).error? with
  | none =>
    obtain ⟨m, hm⟩ := exists_append_of_loadItem herror
    rw [hm]
    rfl
  | some e =>
    rw [value_loadItem_of_error herror]
    rfl

/-- The modules that the sections of a document add to a stage. -/
def acceptedOf (sections : Yaml.Entries) : List StageModule :=
  sections.flatMap fun (label, section_) =>
    if label.asText? = some s.plural then s.accepted registry section_ else []

/-- What a list of sections adds is the same for a stage to which something was appended. -/
@[simp] theorem acceptedOf_appendAll (ms : List StageModule) (sections : Yaml.Entries) :
    (s.appendAll ms).acceptedOf registry sections = s.acceptedOf registry sections := by
  unfold acceptedOf
  rw [plural_appendAll]
  simp only [accepted_appendAll]

/-- Sections with the same label add to the same stage, one after the other. -/
theorem acceptedOf_cons (entry : Yaml.Value × Yaml.Value) (rest : Yaml.Entries) :
    s.acceptedOf registry (entry :: rest)
      = (if entry.1.asText? = some s.plural then s.accepted registry entry.2 else [])
        ++ s.acceptedOf registry rest :=
  rfl

end Stage

namespace Pipeline

/-! ## Sections

A label may name a section twice, and then both are loaded into the stage. That is why what is added
is put together from all sections, while what is reported is reported for each. -/

/-- What is found about a section, in the first of some stages that has its label. -/
def reportOn (registry : Registry) (stages : List Stage) (entry : Yaml.Value × Yaml.Value) :
    ValidationReport :=
  match entry.1.asText? with
  | none => .warning "Ignoring section with a non-string label"
  | some label =>
    match stages.find? (·.plural == label) with
    | none => .warning ("Unknown section '" ++ label ++ "' is ignored")
    | some s =>
      { errors := (s.rejections registry entry.2).map LoadError.message
        warnings := s.cautions entry.2 }

/-- Modules that were appended do not show in the report. -/
theorem reportOn_map_appendAll (registry : Registry) (stages : List Stage)
    (f : Stage → List StageModule) (entry : Yaml.Value × Yaml.Value) :
    reportOn registry (stages.map fun s => s.appendAll (f s)) entry
      = reportOn registry stages entry := by
  unfold reportOn
  cases entry.1.asText? with
  | none => rfl
  | some label =>
    have hplural : ((·.plural == label) ∘ fun s : Stage => s.appendAll (f s))
        = (·.plural == label) := by
      funext s
      rw [Function.comp_apply, Stage.plural_appendAll]
    dsimp only
    rw [List.find?_map, hplural]
    cases stages.find? (·.plural == label) with
    | none => rfl
    | some s => simp only [Option.map_some, Stage.rejections_appendAll, Stage.cautions_appendAll]

/-- The labels of the stages stay what they are. -/
theorem map_plural_map_appendAll (stages : List Stage) (f : Stage → List StageModule) :
    (stages.map fun s => s.appendAll (f s)).map Stage.plural = stages.map Stage.plural := by
  rw [List.map_map]
  exact List.map_congr_left fun s _ => s.plural_appendAll (f s)

/-- Checking a section adds its accepted items to the one stage with its label. -/
theorem checkIn_eq (registry : Registry) {key : Yaml.Value} {label : String}
    (hlabel : key.asText? = some label) (section_ : Yaml.Value) {stages : List Stage}
    (hdistinct : (stages.map Stage.plural).Nodup) :
    checkIn registry label section_ stages =
      (stages.map fun s =>
          s.appendAll (if key.asText? = some s.plural then s.accepted registry section_ else []),
        reportOn registry stages (key, section_)) := by
  rw [reportOn, hlabel]
  dsimp only
  induction stages with
  | nil => rfl
  | cons s rest ih =>
    rw [List.map_cons, List.nodup_cons] at hdistinct
    rw [checkIn, List.map_cons, List.find?_cons]
    by_cases hs : s.plural = label
    · -- no later stage has the label, so all of them stay as they are
      have hrest : (rest.map fun t =>
          t.appendAll (if some label = some t.plural then t.accepted registry section_ else []))
          = rest := by
        refine (List.map_congr_left fun t ht => ?_).trans (List.map_id rest)
        have hne : some label ≠ some t.plural := by
          rw [← hs]
          exact fun heq => hdistinct.1 (List.mem_map.mpr ⟨t, ht, (Option.some.inj heq).symm⟩)
        rw [if_neg hne]
        rfl
      rw [hrest, if_pos (beq_iff_eq.mpr hs), beq_iff_eq.mpr hs, if_pos (congrArg some hs.symm),
        Stage.checkSection_eq]
    · have hne : some label ≠ some s.plural := fun heq => hs (Option.some.inj heq).symm
      rw [if_neg (fun heq => hs (beq_iff_eq.mp heq)), beq_eq_false_iff_ne.mpr hs, if_neg hne,
        ih hdistinct.2]
      rfl

/-- The pipeline with some modules appended to each stage. -/
def extend (p : Pipeline) (f : Stage → List StageModule) : Pipeline :=
  { p with stages := p.stages.map fun s => s.appendAll (f s) }

/-- Checking all sections leaves each stage with the accepted items of its sections, and reports
on one section after the other. -/
theorem checkSections_eq (p : Pipeline) (hdistinct : (p.stages.map Stage.plural).Nodup)
    (sections : Yaml.Entries) :
    p.checkSections sections =
      (p.extend fun s => s.acceptedOf p.registry sections,
        { errors := sections.flatMap fun entry => (reportOn p.registry p.stages entry).errors
          warnings := sections.flatMap fun entry =>
            (reportOn p.registry p.stages entry).warnings }) := by
  induction sections generalizing p with
  | nil =>
    have hsame : (p.stages.map fun s => s.appendAll (s.acceptedOf p.registry [])) = p.stages :=
      List.map_id p.stages
    rw [extend, hsame]
    rfl
  | cons entry rest ih =>
    obtain ⟨key, section_⟩ := entry
    rw [checkSections, List.flatMap_cons, List.flatMap_cons]
    simp only [Stage.acceptedOf_cons]
    -- a label that is no text changes no stage
    cases hlabel : key.asText? with
    | none =>
      have hreport : reportOn p.registry p.stages (key, section_)
          = .warning "Ignoring section with a non-string label" := by
        rw [reportOn, hlabel]
      rw [hreport, ih p hdistinct]
      rfl
    | some label =>
      dsimp only
      rw [checkIn_eq p.registry hlabel section_ hdistinct]
      dsimp only
      -- later sections meet stages with more modules, which does not show
      rw [ih]
      · simp only [extend, reportOn_map_appendAll, List.map_map, Function.comp_def,
          Stage.acceptedOf_appendAll, Stage.appendAll_append, hlabel]
        rfl
      · rw [map_plural_map_appendAll]
        exact hdistinct

/-- A pipeline that starts with the setup stage does so with more modules, too. -/
theorem StartsWithSetup.extend {p : Pipeline} {setup : Stage} {rest : List Stage}
    (h : StartsWithSetup p setup rest) (f : Stage → List StageModule) :
    StartsWithSetup (p.extend f) (setup.appendAll (f setup))
      (rest.map fun s => s.appendAll (f s)) where
  stages_eq := by
    rw [Pipeline.extend, h.stages_eq]
    rfl
  name_eq := (setup.name_appendAll _).trans h.name_eq
  shared := (setup.registry?_appendAll _).trans h.shared
  loadsItsKeys := h.loadsItsKeys.appendAll _

/-! ## Dependencies

Loading does not look at dependencies at all, so a document with an error of this kind loads. It is
in a run that the module would be refused. -/

/-- What is said about a module that misses some dependencies. -/
def shortage (key : ModuleKey) : List ModuleKey → Option String
  | [] => none
  | missing => some (requiresMessage key missing)

/-- What is said about modules with the given keys, when these are all there are: each one whose
dependencies are not all among them is reported with those that are not. -/
def requirements (registry : Registry) (keys : List ModuleKey) : List String :=
  keys.filterMap fun key => shortage key ((registry.dependencies key).filter (· ∉ keys))

/-- Where the stages load the keys of their modules, these keys decide on the dependencies. -/
theorem checkDependencies_eq {p : Pipeline} (h : ∀ s ∈ p.stages, s.LoadsItsKeys) :
    p.checkDependencies = { errors := requirements p.registry p.keys } := by
  have hmissing (key : ModuleKey) : p.registry.missing key p.loaded
      = (p.registry.dependencies key).filter (· ∉ p.keys) := by
    refine List.filter_congr fun dependency _ => ?_
    rw [decide_not]
    exact congrArg not
      (Bool.eq_iff_iff.mpr ((contains_loaded_iff h).trans decide_eq_true_iff.symm))
  have hcheck : p.checkDependencies
      = { errors := p.keys.filterMap fun key =>
            shortage key (p.registry.missing key p.loaded) } := rfl
  simp only [hcheck, hmissing, requirements]

/-! ## The report -/

/-- The default modules that are made when a setup stage has the given modules. -/
def injected (registry : Registry) (setup : List StageModule) : Loaded (List StageModule) :=
  Lack.makeAll (registry.lacking "setup" (setup.map (·.key)) defaultKinds)

/-- The rest of a check, when modules were appended to new stages: the fault of a default module
that cannot be made, and then what the modules require. -/
theorem checkRest_extend {p : Pipeline} {setup : Stage} {rest : List Stage}
    (h : StartsWithSetup p setup rest) (hnew : ∀ s ∈ p.stages, s.IsNew)
    (f : Stage → List StageModule) :
    (p.extend f).checkRest =
      { errors := (injected p.registry (f setup)).error?.toList.map LoadError.message
          ++ requirements p.registry
            ((f setup ++ (injected p.registry (f setup)).value ++
              rest.flatMap f).map (·.key)) } := by
  rw [h.stages_eq, List.forall_mem_cons] at hnew
  have hkeys {s : Stage} (hs : s.IsNew) : (s.appendAll (f s)).keys = (f s).map (·.key) := by
    rw [Stage.keys_appendAll, Stage.keys, hs.1]
    rfl
  have hloads : ∀ s ∈ rest, (s.appendAll (f s)).LoadsItsKeys := fun s hs =>
    (hnew.2 s hs).loadsItsKeys.appendAll (f s)
  -- default modules go into the setup stage, at its end, and only those that it lacks
  have hinject : (p.extend f).injectDefaults = (injected p.registry (f setup)).map fun ms =>
      { p with stages := (setup.appendAll (f setup)).appendAll ms
        :: rest.map fun s => s.appendAll (f s) } := by
    rw [injectDefaults_eq (h.extend f), hkeys hnew.1]
    rfl
  have hdeps (ms : List StageModule) : checkDependencies
      { p with stages := (setup.appendAll (f setup)).appendAll ms
        :: rest.map fun s => s.appendAll (f s) }
        = { errors :=
              requirements p.registry ((f setup ++ ms ++ rest.flatMap f).map (·.key)) } := by
    rw [checkDependencies_eq, keys, List.flatMap_cons, Stage.keys_appendAll, hkeys hnew.1,
      List.flatMap_map, List.flatMap_congr fun s hs => hkeys (hnew.2 s hs), List.map_append,
      List.map_append, List.map_flatMap]
    exact List.forall_mem_cons.mpr
      ⟨(h.loadsItsKeys.appendAll (f setup)).appendAll ms, List.forall_mem_map.mpr hloads⟩
  rw [checkRest, hinject, Loaded.map]
  dsimp only
  rw [hdeps]
  cases (injected p.registry (f setup)).error? with
  | none => rfl
  | some e => rfl

/-- The standard pipeline starts with the setup stage. -/
theorem exists_startsWithSetup_standard (registry : Registry) :
    ∃ setup build publish, StartsWithSetup (standard registry) setup [build, publish] :=
  ⟨_, _, _, rfl, rfl, rfl, (isNew_standard registry _ List.mem_cons_self).1.loadsItsKeys⟩

/-- The check of a mapping: its sections, and then the rest. -/
theorem validate_map_eq (registry : Registry) (sections : Yaml.Entries) :
    validate registry (.map sections) =
      ({ errors := sections.flatMap fun entry => (reportOn registry standardStages entry).errors
         warnings := sections.flatMap fun entry =>
          (reportOn registry standardStages entry).warnings } : ValidationReport).merge
        ((standard registry).extend fun s => s.acceptedOf registry sections).checkRest := by
  have hdistinct : (standardStages.map Stage.plural).Nodup := by decide
  have hvalidate : validate registry (.map sections)
      = ((standard registry).checkSections sections).2.merge
        ((standard registry).checkSections sections).1.checkRest := rfl
  rw [hvalidate, (standard registry).checkSections_eq hdistinct]
  rfl

/-- **The report is complete and exact.** The errors that the check of a mapping reports are, in
this order: for each section, in the order of the document, what is found about it; the fault of
the first default module that is lacking and cannot be made, if there is one; and for each module,
in the order in which the modules run, the dependencies that are the key neither of an accepted
item nor of a default module that was made. What is found about a section is that it is not a
sequence, or the faults of its items, where each item is loaded into a stage of its own, in which
it adds one module unless it is refused. There is one warning for each label that is no text, for
each that no stage has, and for each section of a stage that is empty. -/
theorem report_complete (registry : Registry) (sections : Yaml.Entries) :
    ∃ setup build publish,
      [setup, build, publish] = standardStages.map (fun s => s.acceptedOf registry sections) ∧
      (∀ (s : Stage) (index : Nat) (item : Yaml.Value),
        (s.blank.loadItem registry index item).value.modules.length
          = if (s.blank.loadItem registry index item).error? = none then 1 else 0) ∧
      (validate registry (.map sections)).errors =
        sections.flatMap (fun entry => (reportOn registry standardStages entry).errors)
          ++ (injected registry setup).error?.toList.map LoadError.message
          ++ requirements registry
            ((setup ++ (injected registry setup).value ++ build ++ publish).map (·.key)) ∧
      (validate registry (.map sections)).warnings =
        sections.flatMap (fun entry => (reportOn registry standardStages entry).warnings) := by
  obtain ⟨setup, build, publish, hstarts⟩ := exists_startsWithSetup_standard registry
  have hstages : standardStages = [setup, build, publish] := hstarts.stages_eq
  have hnew : ∀ s ∈ (standard registry).stages, s.IsNew := fun s hs =>
    (isNew_standard registry s hs).1
  have hrest := checkRest_extend hstarts hnew fun s => s.acceptedOf registry sections
  simp only [List.flatMap_cons, List.flatMap_nil, List.append_nil, ← List.append_assoc] at hrest
  refine ⟨setup.acceptedOf registry sections, build.acceptedOf registry sections,
    publish.acceptedOf registry sections, ?_, Stage.length_modules_loadItem_blank registry, ?_⟩
  · rw [hstages]
    rfl
  · rw [validate_map_eq, hrest]
    exact ⟨(List.append_assoc _ _ _).symm, List.append_nil _⟩

/-- One faulty item does not hide the next. -/
example : (validate (.builtIn "demo") (.map [(.text "setups",
    .list [.text "git", .map [(.text "type", .text "git")], .map [(.text "type", .null)]])])).errors
    = ["item #1 of `setup` definition is not a map",
      "definition setup, item #3: type is not a string"] := by
  decide +kernel

end Pipeline

end ReleasePipeline
