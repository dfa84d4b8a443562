/-
The name of a kind of module: the stage it belongs to and its type within the stage, written
`stage:type`.

The first colon separates the two parts, so a stage never holds a colon while a type may. Keys are
ordered by stage and then by type, which is the order in which `list-modules` lists them. The key
that a module is found under need not name the stage that it is used in: `*:show` can be used in all
of them.
-/
import ReleasePipeline.Sorted
import ReleasePipeline.Text.Occurrence

set_option autoImplicit false

namespace ReleasePipeline

/-- A stage name and a module type. -/
structure ModuleKey where
  stage : String
  kind : String
  deriving DecidableEq, Inhabited, Repr

namespace ModuleKey

/-- Stands for every stage: a module registered under it can be used in all of
them. -/
def anyStage : String := "*"

/-- `stage:type`. -/
def display (key : ModuleKey) : String := key.stage ++ ":" ++ key.kind

instance : ToString ModuleKey := ⟨display⟩

/-- Reads `stage:type`; both parts have to be there. -/
def parse? (text : String) : Option ModuleKey :=
  match Text.splitOnce? ':' text.toList with
  | none => none
  | some (stage, kind) =>
    if stage.isEmpty || kind.isEmpty then none
    else some ⟨String.ofList stage, String.ofList kind⟩

/-! ## Order -/

instance : LT ModuleKey where
  lt a b := a.stage < b.stage ∨ (a.stage = b.stage ∧ a.kind < b.kind)

/-- The order of keys, spelled out. -/
theorem lt_def {a b : ModuleKey} :
    a < b ↔ a.stage < b.stage ∨ (a.stage = b.stage ∧ a.kind < b.kind) := Iff.rfl

instance : DecidableLT ModuleKey := fun a b =>
  inferInstanceAs (Decidable (a.stage < b.stage ∨ (a.stage = b.stage ∧ a.kind < b.kind)))

instance : KeyOrder ModuleKey where
  decideLt := inferInstance
  irrefl := fun a h => by
    rcases lt_def.mp h with h | h
    · exact String.lt_irrefl _ h
    · exact String.lt_irrefl _ h.2
  trans := fun {a b c} h₁ h₂ => by
    rw [lt_def] at *
    rcases h₁ with h₁ | ⟨e₁, h₁⟩ <;> rcases h₂ with h₂ | ⟨e₂, h₂⟩
    · exact Or.inl (String.lt_trans h₁ h₂)
    · exact Or.inl (e₂ ▸ h₁)
    · exact Or.inl (e₁ ▸ h₂)
    · exact Or.inr ⟨e₁.trans e₂, String.lt_trans h₁ h₂⟩
  eq_of_not_lt := fun {a b} h₁ h₂ => by
    rw [lt_def, not_or, not_and] at *
    have hs : a.stage = b.stage := KeyOrder.eq_of_not_lt h₁.1 h₂.1
    have hk : a.kind = b.kind := KeyOrder.eq_of_not_lt (h₁.2 hs) (h₂.2 hs.symm)
    cases a; cases b; simp_all

/-- Keys separated by commas. -/
def displayAll (keys : List ModuleKey) : String := ", ".intercalate (keys.map display)

end ModuleKey

end ReleasePipeline
