/-
When a run publishes.

A pipeline that is loaded over the built-in registry gets to its publish stage when all modules
of the two stages before it have passed, and enters it when the last publishing gate that found
its variable read that publishing is not to be skipped. Without such a reading no module of the
publish stage is executed, no request is sent, and `scp` is started only where the settings of a
build name it.

The work is in `breaksOff_or_decides`, which says what a run is up to the publish stage; the gates
themselves are the matter of `Turn.publish_contextAfter`.
-/
import ReleasePipeline.CommandLine
import ReleasePipeline.Proofs.Setup.PublishGate

set_option autoImplicit false

namespace ReleasePipeline

namespace Pipeline

section OfDocument

variable {directoryName : String} {document : Yaml.Value} {p : Pipeline} {now : String}
  {st left : RunState} {done : List Turn} {t : Turn}

/-! ## Modules of a loaded pipeline -/

/-- What is scheduled in a pipeline over the built-in registry. -/
theorem exists_is_of_mem_schedule
    (ht : t ∈ (ofDocument (.builtIn directoryName) document).value.schedule now st) :
    ∃ b settings, BuiltInModule.Is b settings t.module
      ∧ (b.key.stage = t.stage.name ∨ b = .listing) := by
  obtain ⟨hstage, hmodule⟩ :=
    ((ofDocument (.builtIn directoryName) document).value.listed_schedule now st).mem ht
  exact BuiltInModule.exists_is_of_mem hstage hmodule

/-- All of them are built-in modules. -/
theorem isBuiltIn_of_mem_schedule
    (ht : t ∈ (ofDocument (.builtIn directoryName) document).value.schedule now st) :
    t.IsBuiltIn := by
  obtain ⟨b, settings, hmodule, -⟩ := exists_is_of_mem_schedule ht
  exact ⟨b, settings, hmodule⟩

/-- The setup stage of a pipeline that is loaded without a fault has a publishing gate. -/
theorem exists_gate (hload : (ofDocument (.builtIn directoryName) document).error? = none) :
    ∃ s ∈ (ofDocument (.builtIn directoryName) document).value.stages, s.name = "setup" ∧
      ∃ m ∈ s.modules, m.key = BuiltInModule.gate.key := by
  have hfind : (Registry.builtIn directoryName).entries.find? BuiltInModule.gate.key
      = some (BuiltInModule.gate.registration directoryName) :=
    Registry.find?_builtIn_eq_some_iff.mpr ⟨.gate, rfl, rfl⟩
  have hdefault : "setup:skip_publish" ∈ defaultModules := by decide
  have hparse : ModuleKey.parse? "setup:skip_publish" = some BuiltInModule.gate.key := rfl
  have hstage : ∃ s ∈ standardStages, s.name = BuiltInModule.gate.key.stage :=
    ⟨_, List.mem_cons_self, rfl⟩
  -- a default module that is registered is there, be it from the document or not
  have hholds := holds_ofDocument hload hdefault hparse hstage
    (Registry.lookup?_of_find?_eq_some hfind)
  obtain ⟨s, hs, hname, hcontains⟩ := hholds
  rw [loadsItsKeys_ofDocument _ _ s hs, Stage.keys, List.mem_map] at hcontains
  exact ⟨s, hs, hname, hcontains⟩

/-! ## Up to the publish stage -/

-- a run of the pipeline, the stages and modules that it goes through, and how it leaves the state
variable (hp : p = (ofDocument (.builtIn directoryName) document).value)
  (hgoes : Goes p.registry p.loaded p.stages { st with metrics := .start now }
    (p.outcomes now st) done left)
  (hbegin : done <+: p.schedule now st)

include hp hgoes

/-- Before the publish stage a run is broken off, or all modules of the first two stages pass and
the context that they leave decides whether the publish stage is entered. -/
theorem breaksOff_or_decides :
    (¬p.Completed now st "build" ∧ ¬p.Entered now st "publish") ∨
    (p.Completed now st "setup" ∧ p.Completed now st "build" ∧
      ∃ before later, done = before ++ later
        ∧ (∀ t ∈ before, t.Passes p.registry p.loaded)
        ∧ Turn.Threaded st.context before
        ∧ (∀ s ∈ p.stages, s.name = "setup" → ∀ m ∈ s.modules, ∃ t ∈ before, t.module = m)
        ∧ (∀ t ∈ later, t.stage.name = "publish")
        ∧ (p.Entered now st "publish" ↔ (Turn.contextAfter st.context before).publish = true)) := by
  obtain ⟨setup, build, publish, hstages, hsetup, hbuild, hpublish, hnever, hnever', hskip⟩ :=
    stages_ofDocument (.builtIn directoryName) document
  rw [← hp] at hstages
  rw [hstages] at hgoes
  -- the setup and the build stage are never skipped, so a run breaks off in one of them or gets
  -- through
  rcases hgoes.of_three hnever hnever' with ⟨e, houtcomes⟩ |
    ⟨before, later, outcome, rfl, hpassed, hthreaded, hmodules, hlater, houtcomes, hskipped⟩
  · left
    rw [Completed, Entered, ← hbuild, ← hpublish]
    rcases houtcomes with houtcomes | houtcomes <;>
      simp [houtcomes, hsetup, hbuild, hpublish]
  · right
    rw [Completed, Completed, Entered, houtcomes, hsetup, hbuild, hpublish]
    refine ⟨List.mem_cons_self, List.mem_cons_of_mem _ List.mem_cons_self, before, later, rfl,
      hpassed, hthreaded, ?_, fun t ht => by rw [hlater t ht, hpublish], ?_⟩
    · rw [hstages]
      intro s hs hname m hm
      -- no other stage has the name
      have hs : s = setup := by
        simp only [List.mem_cons, List.not_mem_nil, or_false] at hs
        rcases hs with rfl | rfl | rfl
        · rfl
        · rw [hbuild] at hname
          exact absurd hname (by decide)
        · rw [hpublish] at hname
          exact absurd hname (by decide)
      subst hs
      have hmem : m ∈ before.map Turn.module := by
        rw [hmodules]
        exact List.mem_append_left _ hm
      obtain ⟨t, ht, hmodule⟩ := List.mem_map.mp hmem
      exact ⟨t, ht, hmodule⟩
    · rw [hskip, Bool.not_eq_true'] at hskipped
      rw [← Bool.not_eq_false, ← hskipped]
      simp

/-! ## The decision -/

include hbegin

/-- A run in which publishing is off at first enters the publish stage exactly if the stages before
it come to their end and the last reading of a gate is false. -/
theorem entered_publish_iff (hoff : st.context.publish = false) :
    p.Entered now st "publish" ↔ p.Completed now st "setup" ∧ p.Completed now st "build" ∧
      ∃ value ∈ Setup.PublishGate.falseNames, Turn.LastReads done value := by
  rcases breaksOff_or_decides hp hgoes with ⟨hbuild, hpublish⟩ |
    ⟨hsetup, hbuild, before, later, rfl, hpassed, hthreaded, -, hlater, hdecides⟩
  · exact ⟨fun h => absurd h hpublish, fun h => absurd h.2.1 hbuild⟩
  subst hp
  have hbuiltIn : ∀ t ∈ before, t.IsBuiltIn := fun t ht =>
    isBuiltIn_of_mem_schedule (hbegin.subset (List.mem_append_left _ ht))
  -- the gate is no module of the publish stage
  have hnothing : ∀ t ∈ later, t.ReadsNothing := by
    intro t ht
    obtain ⟨b, settings, hmodule, hstage⟩ :=
      exists_is_of_mem_schedule (hbegin.subset (List.mem_append_right _ ht))
    refine Turn.readsNothing_of_ne_gate hmodule ?_
    rintro rfl
    rw [hlater t ht] at hstage
    exact absurd hstage (by decide)
  have hlast := Turn.publish_contextAfter hthreaded hbuiltIn fun t ht => (hpassed t ht).2
  rw [hoff] at hlast
  simp only [Bool.false_eq_true, and_false, or_false] at hlast
  simp only [Turn.lastReads_append_iff hnothing, hdecides, hlast, hsetup, hbuild, true_and]

/-- A run whose publish stage is not entered sends nothing, and starts `scp` only where settings
name it. -/
theorem onlyStarts_of_not_entered (hnot : ¬p.Entered now st "publish") :
    (∀ t ∈ done, t.stage.name ≠ "publish") ∧
      Host.OnlyStarts (fun c => c.program = "scp" → ∃ t ∈ done, t.Names c) st.host left.host := by
  have hstage : ∀ t ∈ done, t.stage.name ≠ "publish" := by
    intro t ht hname
    have hentered := hgoes.entered_of_mem ht
    rw [hname] at hentered
    exact hnot hentered
  refine ⟨hstage, hgoes.host fun t ht => t.host_after fun host => ?_⟩
  subst hp
  obtain ⟨b, settings, hmodule, hplace⟩ := exists_is_of_mem_schedule (hbegin.subset ht)
  have hne : ∀ {m : BuiltInModule}, m.key.stage = "publish" → m ≠ .listing → b ≠ m := by
    rintro m hm hlisting rfl
    exact hplace.elim (fun h => hstage t ht (h.symm.trans hm)) hlisting
  exact Turn.onlyStarts hmodule (hne rfl nofun) (hne rfl nofun) (fun c hc _ => ⟨t, ht, hc⟩)
    (fun c hc h => absurd h hc) host

/-- Where every gate reads a variable that is set to be false at first, a run that gets through the
first two stages enters the publish stage. -/
theorem entered_publish_of_demanded
    (hload : (ofDocument (.builtIn directoryName) document).error? = none)
    {name value : String} (hvalue : value ∈ Setup.PublishGate.falseNames)
    (hset : st.context.environment.get? name = some value)
    (hgates : ∀ s ∈ p.stages, ∀ m ∈ s.modules, m.key = BuiltInModule.gate.key →
      m.module = Setup.PublishGate.module ⟨name⟩)
    (hbuild : p.Completed now st "build") :
    p.Entered now st "publish" := by
  rcases breaksOff_or_decides hp hgoes with ⟨hnot, -⟩ |
    ⟨-, -, before, later, rfl, hpassed, hthreaded, hsetup, -, hdecides⟩
  · exact absurd hbuild hnot
  subst hp
  have hbuiltIn : ∀ t ∈ before, t.IsBuiltIn := fun t ht =>
    isBuiltIn_of_mem_schedule (hbegin.subset (List.mem_append_left _ ht))
  have hgiven := Turn.get?_given hthreaded hbuiltIn hset
  -- the gates all read the one variable, which keeps its value
  have hsame : ∀ t ∈ before, ∀ v, t.Reads v → v = value := by
    rintro t ht v ⟨hkey, s, hmodule, hvar⟩
    obtain ⟨hstage, hmem⟩ := (listed_schedule _ now st).mem
      (hbegin.subset (List.mem_append_left _ ht))
    rw [hgates _ hstage _ hmem hkey] at hmodule
    obtain rfl := Setup.PublishGate.module_injective hmodule
    exact Option.some.inj (hvar.symm.trans (hgiven t ht))
  obtain ⟨s, hs, hname, m, hm, hkey⟩ := exists_gate hload
  obtain ⟨t, ht, rfl⟩ := hsetup s hs hname m hm
  have hreads : t.Reads value := ⟨hkey, ⟨name⟩, hgates s hs _ hm hkey, hgiven t ht⟩
  obtain ⟨last, hlast⟩ := Turn.exists_lastReads ht hreads
  obtain ⟨x, hx, hxreads⟩ := hlast.exists_reads
  rw [hsame x hx last hxreads] at hlast
  rw [hdecides, Turn.publish_contextAfter hthreaded hbuiltIn fun t ht => (hpassed t ht).2]
  exact .inl ⟨value, hvalue, hlast⟩

end OfDocument

/-! ## The publish gate -/

/-- **The publish gate.** A run of the program over a loaded pipeline enters its publish stage
exactly if the two stages before it come to their end and, of the gates that are executed and find
their variable, the last one reads that it is false. Without a reading of that kind no module of the
publish stage is executed and no request is sent, and `scp` is started only by a hook of a build or
as the program to compress with. When publishing is demanded and all gates read the variable that
stands for it, a run that gets through the first two stages enters the third, whatever the
surrounding process says. -/
theorem publish_stage_gated (directoryName : String) (document : Yaml.Value)
    (o : CommandLine.RunOptions) (now : String) (host : Host)
    (hload : (ofDocument (.builtIn directoryName) document).error? = none) :
    let p := (ofDocument (.builtIn directoryName) document).value
    let st : RunState := { context := CommandLine.firstContext o, host }
    ∃ done, done <+: p.schedule now st ∧ (p.run now st).1.executed = done.map Turn.record ∧
      (p.Entered now st "publish" ↔ p.Completed now st "setup" ∧ p.Completed now st "build" ∧
        ∃ value ∈ Setup.PublishGate.falseNames, Turn.LastReads done value) ∧
      ((∀ t ∈ done, ∀ value ∈ Setup.PublishGate.falseNames, ¬t.Reads value) →
        (∀ t ∈ done, t.stage.name ≠ "publish") ∧
        Host.OnlyStarts (fun c => c.program = "scp" → ∃ t ∈ done, t.Names c)
          host (p.run now st).1.host) ∧
      (o.publish = true →
        (∀ s ∈ p.stages, ∀ m ∈ s.modules, m.key = BuiltInModule.gate.key →
          m.module = Setup.PublishGate.module ⟨CommandLine.publishVariable⟩) →
        p.Completed now st "setup" → p.Completed now st "build" → p.Entered now st "publish") := by
  intro p st
  -- publishing is off at first; demanding it sets the variable and nothing else
  have hoff : st.context.publish = false := by
    change (CommandLine.firstContext o).publish = false
    rw [CommandLine.firstContext]
    split <;> rfl
  obtain ⟨done, hgoes, hbegin, hexecuted⟩ := p.run_goes now st
  have hiff := entered_publish_iff rfl hgoes hbegin hoff
  refine ⟨done, hbegin, hexecuted, hiff, fun hnone => ?_, fun hdemanded hgates _ hbuild => ?_⟩
  · have hnot : ¬p.Entered now st "publish" := by
      intro hentered
      obtain ⟨-, -, value, hvalue, hlast⟩ := hiff.mp hentered
      obtain ⟨t, ht, hreads⟩ := hlast.exists_reads
      exact hnone t ht value hvalue hreads
    exact onlyStarts_of_not_entered rfl hgoes hbegin hnot
  · have hset : st.context.environment.get? CommandLine.publishVariable = some "false" := by
      change (CommandLine.firstContext o).environment.get? _ = _
      rw [CommandLine.firstContext, if_pos hdemanded, Environment.get?_set, if_pos rfl]
    exact entered_publish_of_demanded rfl hgoes hbegin hload (by decide) hset hgates hbuild

/-- A host on which every program answers. -/
def answeringHost : Host where
  programs := fun _ _ files => .ok { status := .exited 0, stdout := Text.encode "v1", files }

/-- A host that says that publishing is to be skipped, and on which every program answers. -/
def refusingHost : Host :=
  { answeringHost with
    processVariables := [(Text.encode CommandLine.publishVariable, Text.encode "true")] }

/-- The modules of a document without sections. -/
theorem modules_ofDocument_null :
    (ofDocument (.builtIn "app") .null).value.stages.flatMap Stage.modules =
      [⟨"env", BuiltInModule.capture.key, BuiltInModule.capture.module ()⟩,
        ⟨"project", BuiltInModule.project.key,
          BuiltInModule.project.module (BuiltInModule.project.schema "app").defaults⟩,
        ⟨"git", BuiltInModule.git.key, BuiltInModule.git.module ()⟩,
        ⟨"skip_publish", BuiltInModule.gate.key,
          Setup.PublishGate.module ⟨CommandLine.publishVariable⟩⟩] := rfl

/-- A run with nothing but the default modules gets through all three stages when publishing is
demanded. -/
theorem outcomes_null_of_demand :
    (ofDocument (.builtIn "app") .null).value.outcomes ""
        { context := CommandLine.firstContext { publish := true }, host := refusingHost } =
      [("setup", .ok .completed), ("build", .ok .completed), ("publish", .ok .completed)] := by
  decide +kernel

/-- Publishing is demanded, and the publish stage is entered although the surrounding process says
that it is to be skipped. -/
theorem publish_stage_entered_on_demand :
    (ofDocument (.builtIn "app") .null).error? = none ∧
      (ofDocument (.builtIn "app") .null).value.Entered ""
        { context := CommandLine.firstContext { publish := true }, host := refusingHost }
        "publish" := by
  have hload : (ofDocument (.builtIn "app") .null).error? = none := rfl
  refine ⟨hload, ?_⟩
  obtain ⟨done, -, -, -, -, hdemanded⟩ :=
    publish_stage_gated "app" .null { publish := true } "" refusingHost hload
  refine hdemanded rfl ?_ ?_ ?_
  · intro s hs m hm hkey
    have hmem := List.mem_flatMap.mpr ⟨s, hs, hm⟩
    rw [modules_ofDocument_null] at hmem
    simp only [List.mem_cons, List.not_mem_nil, or_false] at hmem
    rcases hmem with rfl | rfl | rfl | rfl
    · exact absurd hkey (by decide)
    · exact absurd hkey (by decide)
    · exact absurd hkey (by decide)
    · rfl
  · rw [Completed, outcomes_null_of_demand]
    exact List.mem_cons_self
  · rw [Completed, outcomes_null_of_demand]
    exact List.mem_cons_of_mem _ List.mem_cons_self

/-- A document with a build whose hook copies a file. -/
def copyingHook : Yaml.Value :=
  .map [(.text "builds", .list [.map [(.text "type", .text "go"), (.text "goos", .list []),
    (.text "before", .list [.text "scp a b"])]])]

/-- The state in which a run of it ends. -/
def copyingEnd : RunState :=
  ((ofDocument (.builtIn "app") copyingHook).value.run ""
    { context := CommandLine.firstContext {}, host := answeringHost }).1

/-- No module of the run is given any variables, so no gate finds one. -/
theorem environment_of_mem_copyingEnd :
    ∀ x ∈ copyingEnd.executed, x.given.environment = {} := by decide +kernel

/-- The hook is run all the same, and it starts `scp`. -/
theorem exists_scp_copyingEnd : ∃ c ∈ copyingEnd.host.commands, c.program = "scp" := by
  decide +kernel

/-- That without such a reading `scp` is never started does not hold of all documents that load: of
`copyingHook` it is started by a build, although no gate finds its variable. -/
theorem scp_started_without_reading :
    ¬ ∀ (directoryName : String) (document : Yaml.Value) (o : CommandLine.RunOptions)
        (now : String) (host : Host),
      (ofDocument (.builtIn directoryName) document).error? = none →
      let p := (ofDocument (.builtIn directoryName) document).value
      let st : RunState := { context := CommandLine.firstContext o, host }
      ∀ done, done <+: p.schedule now st → (p.run now st).1.executed = done.map Turn.record →
        (∀ t ∈ done, ∀ value ∈ Setup.PublishGate.falseNames, ¬t.Reads value) →
        Host.OnlyStarts (fun c => c.program ≠ "scp") host (p.run now st).1.host := by
  intro h
  obtain ⟨done, -, hbegin, hexecuted⟩ := (ofDocument (.builtIn "app") copyingHook).value.run_goes ""
    { context := CommandLine.firstContext {}, host := answeringHost }
  rw [List.nil_append] at hexecuted
  -- every turn was recorded with the context it was given
  have hnone : ∀ t ∈ done, ∀ value ∈ Setup.PublishGate.falseNames, ¬t.Reads value := by
    rintro t ht value - ⟨-, s, -, hvar⟩
    have hmem : t.record ∈ copyingEnd.executed := by
      rw [copyingEnd, hexecuted]
      exact List.mem_map_of_mem ht
    have hgiven : t.state.context.environment = {} := environment_of_mem_copyingEnd _ hmem
    rw [hgiven] at hvar
    cases hvar
  have honly := h "app" copyingHook {} "" answeringHost rfl done hbegin hexecuted hnone
  obtain ⟨started, hstarted, hall⟩ := honly.commands
  obtain ⟨c, hc, hprogram⟩ := exists_scp_copyingEnd
  rw [copyingEnd, hstarted] at hc
  exact hall c hc hprogram

end Pipeline

end ReleasePipeline
