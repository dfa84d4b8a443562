/-
What the items of a document add to a stage.

Loading an item looks at the name of the stage and at its registry, never at the modules that
are there already. So every item is judged as if the stage were new, and it adds what it adds
to a new stage, whatever came before it and whether that was loaded or not
(`loadItem_eq_blank`). The check of a section is then read off item by item
(`checkSection_eq`): the modules of the accepted items are added in order, and there is one error
for each of the others.
-/
import ReleasePipeline.Proofs.Pipeline.Growth
import ReleasePipeline.Validation

set_option autoImplicit false

namespace ReleasePipeline

namespace Stage

/-! ## Several modules more

`appendAll` is a fold, because that is how modules come in. What is asked of it later is in the
lemmas that are tagged for `simp`: the list of modules and the list of keys grow at the end, and
everything else about a stage is what it was. -/

/-- Appends modules one after the other. -/
def appendAll (s : Stage) (ms : List StageModule) : Stage := ms.foldl append s

variable (s : Stage) (m : StageModule) (ms ns : List StageModule)

@[simp] theorem appendAll_nil : s.appendAll [] = s := rfl

@[simp] theorem appendAll_cons : s.appendAll (m :: ms) = (s.append m).appendAll ms := rfl

/-- Some modules and then some others are all of them together. -/
theorem appendAll_append : s.appendAll (ms ++ ns) = (s.appendAll ms).appendAll ns :=
  List.foldl_append

/-- What an append leaves alone, several of them leave alone. -/
theorem appendAll_keeps {β : Type} {f : Stage → β} (happend : ∀ s m, f (append s m) = f s) :
    f (s.appendAll ms) = f s := by
  induction ms generalizing s with
  | nil => rfl
  | cons m ms ih => rw [appendAll_cons, ih, happend]

@[simp] theorem name_appendAll : (s.appendAll ms).name = s.name :=
  s.appendAll_keeps ms fun _ _ => rfl

@[simp] theorem plural_appendAll : (s.appendAll ms).plural = s.plural :=
  s.appendAll_keeps ms fun _ _ => rfl

@[simp] theorem registry?_appendAll : Stage.registry? (s.appendAll ms) = s.registry? :=
  s.appendAll_keeps ms fun _ _ => rfl

/-- What is appended comes behind the modules that are there. -/
@[simp] theorem modules_appendAll : (s.appendAll ms).modules = s.modules ++ ms := by
  induction ms generalizing s with
  | nil => exact (List.append_nil _).symm
  | cons m ms ih =>
    rw [appendAll_cons, ih]
    exact List.append_assoc s.modules [m] ms

/-- The keys of what is appended come behind those that are there. -/
@[simp] theorem keys_appendAll : (s.appendAll ms).keys = s.keys ++ ms.map (·.key) := by
  rw [keys, modules_appendAll, List.map_append]
  rfl

/-- The set of loaded keys goes along with the modules. -/
theorem LoadsItsKeys.appendAll {s : Stage} (h : s.LoadsItsKeys) (ms : List StageModule) :
    (s.appendAll ms).LoadsItsKeys := by
  induction ms generalizing s with
  | nil => exact h
  | cons m ms ih => exact ih (h.append m)

/-- Whatever is loaded into a stage is appended to it. -/
theorem Grows.exists_appendAll {registry : Registry} {s t : Stage} (h : Grows registry s t) :
    ∃ ms, t = s.appendAll ms := by
  induction h with
  | refl => exact ⟨[], rfl⟩
  | tail _ hadd ih =>
    obtain ⟨ms, rfl⟩ := ih
    obtain ⟨kind, key, registration, params, module, -, -, rfl⟩ := hadd
    refine ⟨ms ++ [⟨kind, key, module⟩], ?_⟩
    rw [appendAll_append]
    rfl

/-! ## Items -/

section Items

variable {registry : Registry} {s : Stage} {kind : String} {params : Option Yaml.Entries}

/-- A module that is refused, or cannot be made, leaves the stage as it was. -/
theorem value_add_of_error {once : Bool} {e : LoadError}
    (h : (s.add registry kind params once).error? = some e) :
    (s.add registry kind params once).value = s := by
  rw [add] at h ⊢
  cases hresolve : s.resolve registry kind once with
  | error e' => rfl
  | ok found =>
    rw [hresolve] at h
    dsimp only at h ⊢
    cases hcreate : found.2.create params with
    | error e' => rfl
    | ok module =>
      rw [hcreate] at h
      cases h

/-- An item that is refused leaves the stage as it was. -/
theorem value_loadItem_of_error {index : Nat} {item : Yaml.Value} {e : LoadError}
    (h : (s.loadItem registry index item).error? = some e) :
    (s.loadItem registry index item).value = s := by
  cases item with
  | map params =>
    rw [loadItem] at h ⊢
    cases hkind : itemType params with
    | error e' => rfl
    | ok kind =>
      rw [hkind] at h
      obtain ⟨e', he', -⟩ := Option.map_eq_some_iff.mp h
      exact value_add_of_error he'
  | _ => rfl

/-- A module that is added is appended. -/
theorem exists_append_of_add {once : Bool} (h : (s.add registry kind params once).error? = none) :
    ∃ m, (s.add registry kind params once).value = s.append m := by
  rw [add] at h ⊢
  cases hresolve : s.resolve registry kind once with
  | error e =>
    rw [hresolve] at h
    cases h
  | ok found =>
    rw [hresolve] at h
    dsimp only at h ⊢
    cases hcreate : found.2.create params with
    | error e =>
      rw [hcreate] at h
      cases h
    | ok module => exact ⟨⟨kind, found.1, module⟩, rfl⟩

/-- An item that is loaded adds one module. -/
theorem exists_append_of_loadItem {index : Nat} {item : Yaml.Value}
    (h : (s.loadItem registry index item).error? = none) :
    ∃ m, (s.loadItem registry index item).value = s.append m := by
  -- an item that is no mapping is refused, so it is not loaded
  cases item with
  | map params =>
    rw [loadItem] at h ⊢
    cases hkind : itemType params with
    | error e =>
      rw [hkind] at h
      cases h
    | ok kind =>
      rw [hkind] at h
      exact exists_append_of_add (Option.map_eq_none_iff.mp h)
  | _ => cases h

end Items

/-! ## Items in a new stage

A stage that nothing was loaded into still has its name and may have a registry of its own. These
are all that the loading of an item reads. -/

/-- The stage as it is before anything is loaded. -/
def blank (s : Stage) : Stage := { s with modules := [], loaded := .empty }

/-- A new stage of the same kind does not show what was appended. -/
@[simp] theorem blank_appendAll : (s.appendAll ms).blank = s.blank :=
  s.appendAll_keeps ms fun _ _ => rfl

variable (registry : Registry) (kind : String) (params : Option Yaml.Entries)

/-- Unless a module may be there only once, what is there does not matter. -/
theorem add_eq_blank :
    s.add registry kind params false =
      { s.blank.add registry kind params false with
        value := s.appendAll (s.blank.add registry kind params false).value.modules } := by
  have hsource : s.blank.source registry = s.source registry := rfl
  have hname : s.blank.name = s.name := rfl
  rw [add, add, resolve, resolve, hsource, hname]
  cases (s.source registry).lookup? s.name kind with
  | none => rfl
  | some found =>
    -- the set of loaded keys is only asked when a module may be there once, as default modules may
    simp only [Bool.false_and, Bool.false_eq_true, if_false]
    cases found.2.create params with
    | error e => rfl
    | ok module => rfl

/-- An item is loaded into a stage as it is loaded into a new one. -/
theorem loadItem_eq_blank (index : Nat) (item : Yaml.Value) :
    s.loadItem registry index item =
      { s.blank.loadItem registry index item with
        value := s.appendAll (s.blank.loadItem registry index item).value.modules } := by
  have hname : s.blank.name = s.name := rfl
  cases item with
  | map params =>
    rw [loadItem, loadItem, hname]
    cases itemType params with
    | error e => rfl
    | ok kind =>
      dsimp only
      rw [add_eq_blank]
  | _ => rfl

/-! ## Sections -/

/-- The modules that the items of a section add, each item by itself. -/
def accepted (section_ : Yaml.Value) : List StageModule :=
  match section_ with
  | .list items => (items.zipIdx 1).flatMap fun (item, index) =>
      (s.blank.loadItem registry index item).value.modules
  | _ => []

/-- What is wrong with a section: the faults of its items, each item by itself. -/
def rejections (section_ : Yaml.Value) : List LoadError :=
  match section_ with
  | .list items => (items.zipIdx 1).filterMap fun (item, index) =>
      (s.blank.loadItem registry index item).error?
  | _ => [.notASequence s.name]

/-- What a section is warned of. -/
def cautions (section_ : Yaml.Value) : List String :=
  match section_ with
  | .list [] => ["Section '" ++ s.plural ++ "' has no modules"]
  | _ => []

/-- Which modules of a section are accepted does not depend on what is there. -/
@[simp] theorem accepted_appendAll (section_ : Yaml.Value) :
    (s.appendAll ms).accepted registry section_ = s.accepted registry section_ := by
  unfold accepted
  rw [blank_appendAll]

/-- Nor does it what is wrong with a section. -/
@[simp] theorem rejections_appendAll (section_ : Yaml.Value) :
    (s.appendAll ms).rejections registry section_ = s.rejections registry section_ := by
  unfold rejections
  rw [blank_appendAll, name_appendAll]

/-- Nor what it is warned of. -/
@[simp] theorem cautions_appendAll (section_ : Yaml.Value) :
    (s.appendAll ms).cautions section_ = s.cautions section_ := by
  unfold cautions
  rw [plural_appendAll]

/-- The check goes on after a fault with the stage as it was before the item. -/
theorem checkItems_eq (index : Nat) (items : List Yaml.Value) :
    s.checkItems registry index items =
      (s.appendAll ((items.zipIdx index).flatMap fun (item, i) =>
          (s.blank.loadItem registry i item).value.modules),
        { errors := ((items.zipIdx index).filterMap fun (item, i) =>
            (s.blank.loadItem registry i item).error?).map LoadError.message }) := by
  induction items generalizing s index with
  | nil => rfl
  | cons item rest ih =>
    -- whatever the item before it did, the next one is judged on the same blank stage
    rw [checkItems, loadItem_eq_blank]
    dsimp only
    rw [ih, blank_appendAll, List.zipIdx_cons, List.flatMap_cons, List.filterMap_cons,
      appendAll_append]
    cases (s.blank.loadItem registry index item).error? with
    | none => rfl
    | some e => rfl

/-- The check of a section. -/
theorem checkSection_eq (section_ : Yaml.Value) :
    s.checkSection registry section_ =
      (s.appendAll (s.accepted registry section_),
        { errors := (s.rejections registry section_).map LoadError.message
          warnings := s.cautions section_ }) := by
  cases section_ with
  | list items =>
    rw [checkSection, checkItems_eq]
    cases items with
    | nil => rfl
    | cons item rest => rfl
  | _ => rfl

end Stage

end ReleasePipeline
