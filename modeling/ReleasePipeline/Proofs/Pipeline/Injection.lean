/-
Which default modules are added to a pipeline.

Adding a default module has three harmless ends: it is made and appended, it is there already, or
nobody registered it; only one that cannot be made is a fault. Which of them it is depends on the
keys that the stage has when its turn comes. Those change from one default module to the next, but
only by keys of other types, so all of them can be decided on what the document left
(`Registry.lacking_of_key`), and adding them is making the lacking ones in order
(`injectAll_eq`).

A stage that has been through this lacks nothing any more, so going through it again does nothing.
-/
import ReleasePipeline.BuiltIn
import ReleasePipeline.Proofs.Pipeline.Additions

set_option autoImplicit false

namespace ReleasePipeline

/-! ## Lacking modules

`lacking` is a list and not a set, because the order in which default modules are added is part of
what is said of them. A type that is registered for every stage has a key that does not name the
setup stage, and it is this key that the stage must not have yet. -/

/-- A module that a stage lacks: the type it is asked for by, and what is registered for that. -/
structure Lack where
  kind : String
  key : ModuleKey
  registration : Registration

/-- What a stage with the given keys lacks of some types. A type that nobody registered is not
lacking. -/
def Registry.lacking (r : Registry) (stage : String) (keys : List ModuleKey)
    (kinds : List String) : List Lack :=
  kinds.filterMap fun kind =>
    match r.lookup? stage kind with
    | none => none
    | some (key, registration) => if key ∈ keys then none else some ⟨kind, key, registration⟩

/-- Makes the lacking modules with their default settings, up to the first that cannot be made. -/
def Lack.makeAll : List Lack → Loaded (List StageModule)
  | [] => { value := [] }
  | l :: rest =>
    match l.registration.create none with
    | .error e => { value := [], created := [⟨l.key, none⟩], error? := some (.decode l.key e) }
    | .ok module =>
      let later := makeAll rest
      { later with
        value := ⟨l.kind, l.key, module⟩ :: later.value
        created := ⟨l.key, none⟩ :: later.created }

namespace Registry

variable {r : Registry} {stage kind : String} {keys : List ModuleKey} {kinds : List String}
  {key : ModuleKey} {registration : Registration}

/-- Under whatever key a type is found, the key has this type. -/
theorem kind_of_lookup? (h : r.lookup? stage kind = some (key, registration)) :
    key.kind = kind := by
  obtain ⟨s, -, hfound⟩ := List.exists_of_findSome?_eq_some h
  obtain ⟨found, -, heq⟩ := Option.map_eq_some_iff.mp hfound
  cases heq
  rfl

/-- A type that nobody registered is passed over. -/
theorem lacking_cons_of_none (h : r.lookup? stage kind = none) :
    r.lacking stage keys (kind :: kinds) = r.lacking stage keys kinds := by
  rw [lacking, List.filterMap_cons, h]
  rfl

/-- A type whose key is there already is passed over, too. -/
theorem lacking_cons_of_mem (h : r.lookup? stage kind = some (key, registration))
    (hkey : key ∈ keys) : r.lacking stage keys (kind :: kinds) = r.lacking stage keys kinds := by
  rw [lacking, List.filterMap_cons, h]
  dsimp only
  rw [if_pos hkey]
  rfl

/-- A registered type whose key is not there comes first among what is lacking. -/
theorem lacking_cons_of_notMem (h : r.lookup? stage kind = some (key, registration))
    (hkey : key ∉ keys) :
    r.lacking stage keys (kind :: kinds)
      = ⟨kind, key, registration⟩ :: r.lacking stage keys kinds := by
  rw [lacking, List.filterMap_cons, h]
  dsimp only
  rw [if_neg hkey]
  rfl

/-- A key of another type makes no difference. -/
theorem lacking_of_key (hkey : key.kind ∉ kinds) :
    r.lacking stage (keys ++ [key]) kinds = r.lacking stage keys kinds := by
  refine List.filterMap_congr fun kind hkind => ?_
  cases hlookup : r.lookup? stage kind with
  | none => rfl
  | some found =>
    obtain ⟨key', registration⟩ := found
    -- the two keys have different types
    have hne : key' ≠ key := by
      rintro rfl
      rw [kind_of_lookup? hlookup] at hkey
      exact hkey hkind
    simp only [List.mem_append, List.mem_singleton, hne, or_false]

/-- Nothing is lacking when every registered type has its key. -/
theorem lacking_eq_nil_iff : r.lacking stage keys kinds = [] ↔
    ∀ kind ∈ kinds, ∀ key registration, r.lookup? stage kind = some (key, registration) →
      key ∈ keys := by
  rw [lacking, List.filterMap_eq_nil_iff]
  refine forall₂_congr fun kind _ => ?_
  cases r.lookup? stage kind with
  | none => exact ⟨fun _ => nofun, fun _ => rfl⟩
  | some found =>
    obtain ⟨key, registration⟩ := found
    by_cases hkey : key ∈ keys
    · simp [hkey]
    · simp [hkey]

/-- What is registered, and whose key is not there, is lacking. -/
theorem mem_lacking_of_notMem (hkind : kind ∈ kinds)
    (h : r.lookup? stage kind = some (key, registration)) (hkey : key ∉ keys) :
    ⟨kind, key, registration⟩ ∈ r.lacking stage keys kinds := by
  refine List.mem_filterMap.mpr ⟨kind, hkind, ?_⟩
  rw [h]
  dsimp only
  rw [if_neg hkey]

/-- A lacking module is one of the types asked for, is registered, and its key is not there. -/
theorem mem_lacking {l : Lack} (h : l ∈ r.lacking stage keys kinds) :
    l.kind ∈ kinds ∧ r.lookup? stage l.kind = some (l.key, l.registration) ∧ l.key ∉ keys := by
  obtain ⟨kind, hkind, hl⟩ := List.mem_filterMap.mp h
  cases hlookup : r.lookup? stage kind with
  | none =>
    rw [hlookup] at hl
    cases hl
  | some found =>
    obtain ⟨key, registration⟩ := found
    rw [hlookup] at hl
    dsimp only at hl
    by_cases hkey : key ∈ keys
    · rw [if_pos hkey] at hl
      cases hl
    · rw [if_neg hkey] at hl
      cases hl
      exact ⟨hkind, hlookup, hkey⟩

end Registry

namespace Lack

/-- What is made of a lacking module. -/
structure Makes (l : Lack) (m : StageModule) : Prop where
  kind_eq : m.kind = l.kind
  key_eq : m.key = l.key
  created : l.registration.create none = .ok m.module

/-- Without a fault each of the lacking modules is made. -/
theorem makes_makeAll {ls : List Lack} (h : (makeAll ls).error? = none) :
    List.Forall₂ Makes ls (makeAll ls).value := by
  induction ls with
  | nil => exact .nil
  | cons l rest ih =>
    rw [makeAll] at h ⊢
    cases hcreate : l.registration.create none with
    | error e =>
      rw [hcreate] at h
      cases h
    | ok module =>
      rw [hcreate] at h
      exact .cons ⟨rfl, rfl, hcreate⟩ (ih h)

variable {r : Registry} {stage : String} {keys : List ModuleKey} {kinds : List String}
  {ms : List StageModule}

/-- The modules that are made have the keys that were lacking. -/
theorem keys_of_makes {ls : List Lack} (h : List.Forall₂ Makes ls ms) :
    ms.map (·.key) = ls.map Lack.key := by
  induction h with
  | nil => rfl
  | cons hmakes _ ih => rw [List.map_cons, List.map_cons, ih, hmakes.key_eq]

/-- With what is made of them, nothing is lacking any more. -/
theorem lacking_after_makes (h : List.Forall₂ Makes (r.lacking stage keys kinds) ms) :
    r.lacking stage (keys ++ ms.map (·.key)) kinds = [] := by
  rw [Registry.lacking_eq_nil_iff]
  intro kind hkind key registration hlookup
  rw [keys_of_makes h, List.mem_append]
  by_cases hkey : key ∈ keys
  · exact .inl hkey
  · exact .inr (List.mem_map_of_mem (Registry.mem_lacking_of_notMem hkind hlookup hkey))

/-- Nothing is made that was there. -/
theorem key_notMem_of_makes (h : List.Forall₂ Makes (r.lacking stage keys kinds) ms)
    {m : StageModule} (hm : m ∈ ms) : m.key ∉ keys := by
  have hkey : m.key ∈ ms.map (·.key) := List.mem_map_of_mem hm
  rw [keys_of_makes h, List.mem_map] at hkey
  obtain ⟨l, hl, hlkey⟩ := hkey
  rw [← hlkey]
  exact (Registry.mem_lacking hl).2.2

end Lack

namespace Pipeline

/-! ## Adding default modules -/

variable {p : Pipeline} {s : Stage} {rest : List Stage}

/-- A default module is added to the first stage when it is meant for that. -/
theorem loadDefault_eq {name stage kind : String} (hstages : p.stages = s :: rest)
    (hname : s.name = stage) (hparse : ModuleKey.parse? name = some ⟨stage, kind⟩) :
    p.loadDefault name =
      (s.add p.registry kind none true).map fun t => { p with stages := t :: rest } := by
  rw [loadDefault, hparse]
  dsimp only
  rw [add, inStage, hstages, stepIn, if_pos (beq_iff_eq.mpr hname)]
  rfl

/-- Adding default modules to the first stage is making those that it lacks. -/
theorem injectAll_eq {stage : String} {names kinds : List String} (hstages : p.stages = s :: rest)
    (hname : s.name = stage) (hloads : s.LoadsItsKeys)
    (hparse :
      List.Forall₂ (fun name kind => ModuleKey.parse? name = some ⟨stage, kind⟩) names kinds)
    (hnodup : kinds.Nodup) :
    p.injectAll names =
      (Lack.makeAll ((s.source p.registry).lacking stage s.keys kinds)).map
        fun ms => { p with stages := s.appendAll ms :: rest } := by
  induction hparse generalizing p s with
  | nil =>
    cases p
    subst hstages
    rfl
  | @cons name kind names kinds hparse _ ih =>
    rw [List.nodup_cons] at hnodup
    have hsame : { p with stages := s :: rest } = p := by
      rw [← hstages]
    rw [injectAll, loadDefault_eq hstages hname hparse, Stage.add, Stage.resolve, hname]
    cases hlookup : (s.source p.registry).lookup? stage kind with
    | none =>
      rw [Registry.lacking_cons_of_none hlookup, ← ih hstages hname hloads hnodup.2]
      simp only [Loaded.map, tolerate, Loaded.andThen, hsame, List.nil_append]
    | some found =>
      obtain ⟨key, registration⟩ := found
      by_cases hkey : key ∈ s.keys
      -- what a stage has loaded are the keys of its modules, so the one question is the other
      · have hdup : s.loaded.contains key = true := (hloads key).mpr hkey
        rw [Registry.lacking_cons_of_mem hlookup hkey, ← ih hstages hname hloads hnodup.2]
        simp only [hdup, Bool.and_self, if_true, Loaded.map, tolerate, Loaded.andThen, hsame,
          List.nil_append]
      · have hnew : ¬ (true && s.loaded.contains key) = true := by
          rw [Bool.true_and]
          exact fun hdup => hkey ((hloads key).mp hdup)
        rw [Registry.lacking_cons_of_notMem hlookup hkey, Lack.makeAll]
        dsimp only
        rw [if_neg hnew]
        dsimp only
        cases hcreate : registration.create none with
        | error e => rfl
        | ok module =>
          -- the stage has one key more, which is of none of the types to come
          have hkind : key.kind ∉ kinds := by
            rw [Registry.kind_of_lookup? hlookup]
            exact hnodup.1
          have hkeys : (s.append ⟨kind, key, module⟩).keys = s.keys ++ [key] := List.map_append
          have hsource :
              (s.append ⟨kind, key, module⟩).source p.registry = s.source p.registry := rfl
          have hlater := ih (p := { p with stages := s.append ⟨kind, key, module⟩ :: rest }) rfl
            hname (hloads.append _) hnodup.2
          rw [hkeys, hsource, Registry.lacking_of_key hkind] at hlater
          simp only [Loaded.map, tolerate, Loaded.andThen, hlater]
          rfl

/-! ## The standard pipeline -/

/-- The types of the modules that every setup stage has. -/
def defaultKinds : List String := ["env", "project", "git", "skip_publish"]

/-- All default modules are meant for the setup stage. -/
theorem parse?_defaultModules :
    List.Forall₂ (fun name kind => ModuleKey.parse? name = some ⟨"setup", kind⟩)
      defaultModules defaultKinds :=
  .cons rfl (.cons rfl (.cons rfl (.cons rfl .nil)))

/-- No default module is named twice. -/
theorem nodup_defaultKinds : defaultKinds.Nodup := by decide

/-- The first stage is a setup stage that shares the registry of the pipeline. -/
structure StartsWithSetup (p : Pipeline) (setup : Stage) (rest : List Stage) : Prop where
  stages_eq : p.stages = setup :: rest
  name_eq : setup.name = "setup"
  shared : setup.registry? = none
  loadsItsKeys : setup.LoadsItsKeys

/-- Adding the modules that every pipeline has. -/
theorem injectDefaults_eq (h : StartsWithSetup p s rest) :
    p.injectDefaults = (Lack.makeAll (p.registry.lacking "setup" s.keys defaultKinds)).map
      fun ms => { p with stages := s.appendAll ms :: rest } := by
  have hsource : s.source p.registry = p.registry := by
    rw [Stage.source, h.shared]
    rfl
  rw [injectDefaults, injectAll_eq h.stages_eq h.name_eq h.loadsItsKeys parse?_defaultModules
    nodup_defaultKinds, hsource]

/-- Where none of them is lacking, nothing is done. -/
theorem injectDefaults_of_lacking_nil (h : StartsWithSetup p s rest)
    (hnil : p.registry.lacking "setup" s.keys defaultKinds = []) :
    p.injectDefaults = { value := p } := by
  rw [injectDefaults_eq h, hnil]
  cases p
  cases h.stages_eq
  rfl

/-- Without a fault, what is lacking is added to the setup stage. -/
theorem exists_added_of_ok (h : StartsWithSetup p s rest) (hok : p.injectDefaults.error? = none) :
    ∃ added, p.injectDefaults.value = { p with stages := s.appendAll added :: rest } ∧
      List.Forall₂ Lack.Makes (p.registry.lacking "setup" s.keys defaultKinds) added := by
  rw [injectDefaults_eq h] at hok ⊢
  exact ⟨_, rfl, Lack.makes_makeAll hok⟩

/-- A setup stage to which what it lacked was added lacks nothing. -/
theorem injectDefaults_again {added : List StageModule} (h : StartsWithSetup p s rest)
    (hmakes : List.Forall₂ Lack.Makes (p.registry.lacking "setup" s.keys defaultKinds) added) :
    ({ p with stages := s.appendAll added :: rest } : Pipeline).injectDefaults
      = { value := { p with stages := s.appendAll added :: rest } } := by
  have hstarts : StartsWithSetup { p with stages := s.appendAll added :: rest } (s.appendAll added)
      rest := by
    refine ⟨rfl, ?_, ?_, h.loadsItsKeys.appendAll added⟩
    · rw [Stage.name_appendAll, h.name_eq]
    · rw [Stage.registry?_appendAll, h.shared]
  -- the stage has all the keys that it lacked, and those that it had
  apply injectDefaults_of_lacking_nil hstarts
  rw [Stage.keys_appendAll]
  exact Lack.lacking_after_makes hmakes

/-- The stages that a document alone gives. -/
theorem stages_load (registry : Registry) (document : Yaml.Value) :
    ∃ setup build publish, StartsWithSetup ((standard registry).load document).value setup
      [build, publish] ∧ build.name = "build" ∧ publish.name = "publish" := by
  have h := ((standard registry).load_grows document).stages
  simp only [standard, standardStages, List.forall₂_cons_left_iff, List.forall₂_nil_left_iff] at h
  obtain ⟨setup, _, hsetup, ⟨build, _, hbuild, ⟨publish, _, hpublish, rfl, rfl⟩, rfl⟩, hstages⟩ := h
  refine ⟨setup, build, publish, ⟨hstages, hsetup.name_eq, ?_, ?_⟩, hbuild.name_eq,
    hpublish.name_eq⟩
  · exact hsetup.keeps (P := fun u => u.registry? = none) (fun _ _ hu => hu) rfl
  · exact hsetup.keeps (P := Stage.LoadsItsKeys) (fun _ m hu => hu.append m)
      (Stage.IsNew.loadsItsKeys ⟨rfl, rfl⟩)

/-- A document that loads is loaded without a fault, and then the default modules are. -/
theorem ofDocument_of_ok {registry : Registry} {document : Yaml.Value}
    (h : (ofDocument registry document).error? = none) :
    ((standard registry).load document).error? = none ∧
      (ofDocument registry document).value
        = ((standard registry).load document).value.injectDefaults.value ∧
      ((standard registry).load document).value.injectDefaults.error? = none := by
  rw [ofDocument, Loaded.andThen] at h ⊢
  cases herror : ((standard registry).load document).error? with
  | some e =>
    rw [herror] at h
    cases herror.symm.trans h
  | none =>
    rw [herror] at h
    exact ⟨rfl, rfl, h⟩

/-- **Default modules are added exactly where they are lacking.** When a document loads, the
build and the publish stage are as the document alone leaves them. The setup stage is what the
document leaves there and then, in the order `env`, `project`, `git`, `skip_publish`, one module
with default settings for each of these types that is registered for the stage, directly or for
every stage, and whose key the stage does not have from the document. An item of another stage
does not count, even where one registration for every stage gives it the same key. So every
default module that is registered is there, none that the document lists is added again, and
adding them once more neither changes anything nor makes a module. -/
theorem defaults_added_where_lacking (registry : Registry) (document : Yaml.Value)
    (hload : (ofDocument registry document).error? = none) :
    ∃ setup build publish added,
      ((standard registry).load document).error? = none ∧
      ((standard registry).load document).value.stages = [setup, build, publish] ∧
      setup.name = "setup" ∧ build.name = "build" ∧ publish.name = "publish" ∧
      (ofDocument registry document).value.stages = [setup.appendAll added, build, publish] ∧
      (setup.appendAll added).modules = setup.modules ++ added ∧
      List.Forall₂ Lack.Makes (registry.lacking "setup" setup.keys defaultKinds) added ∧
      (∀ kind ∈ defaultKinds, ∀ key registration,
        registry.lookup? "setup" kind = some (key, registration) →
        key ∈ (setup.appendAll added).keys ∧
          (key ∈ setup.keys → ∀ m ∈ added, m.key ≠ key)) ∧
      (ofDocument registry document).value.injectDefaults
        = { value := (ofDocument registry document).value } := by
  obtain ⟨setup, build, publish, hstarts, hbuild, hpublish⟩ := stages_load registry document
  have hregistry : ((standard registry).load document).value.registry = registry :=
    ((standard registry).load_grows document).registry_eq
  obtain ⟨herror, hvalue, hok⟩ := ofDocument_of_ok hload
  obtain ⟨added, hadded, hmakes⟩ := exists_added_of_ok hstarts hok
  have hagain := injectDefaults_again hstarts hmakes
  rw [hregistry] at hmakes
  -- after the added modules nothing is lacking, which is to say that everything registered is there
  have hpresent := Registry.lacking_eq_nil_iff.mp (Lack.lacking_after_makes hmakes)
  rw [← Stage.keys_appendAll] at hpresent
  refine ⟨setup, build, publish, added, herror, hstarts.stages_eq, hstarts.name_eq, hbuild,
    hpublish, ?_, setup.modules_appendAll added, hmakes,
    fun kind hkind key registration hlookup => ?_, ?_⟩
  · rw [hvalue, hadded]
  · refine ⟨hpresent kind hkind key registration hlookup, fun hkey m hm heq => ?_⟩
    rw [← heq] at hkey
    exact Lack.key_notMem_of_makes hmakes hm hkey
  · rw [hvalue, hadded]
    exact hagain

/-- A document that lists one of the default modules twice. -/
def gitTwice : Yaml.Value :=
  .map [(.text "setups",
    .list [.map [(.text "type", .text "git")], .map [(.text "type", .text "git")]])]

/-- Over the built-in registry the other three are added to it once, behind what it lists. -/
theorem defaults_added_to_gitTwice :
    (ofDocument (.builtIn "demo") gitTwice).error? = none ∧
    (ofDocument (.builtIn "demo") gitTwice).value.keys =
      [⟨"setup", "git"⟩, ⟨"setup", "git"⟩, ⟨"setup", "env"⟩, ⟨"setup", "project"⟩,
        ⟨"setup", "skip_publish"⟩] ∧
    (ofDocument (.builtIn "demo") gitTwice).value.injectDefaults
      = { value := (ofDocument (.builtIn "demo") gitTwice).value } := by
  have hload : (ofDocument (.builtIn "demo") gitTwice).error? = none := rfl
  obtain ⟨setup, build, publish, added, -, -, -, -, -, -, -, -, -, hagain⟩ :=
    defaults_added_where_lacking (.builtIn "demo") gitTwice hload
  exact ⟨hload, rfl, hagain⟩

end Pipeline

end ReleasePipeline
