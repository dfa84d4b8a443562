/-
The text of a module key.

A key is written as its stage, a colon and its type. It is read by looking for the first colon, so
what was written is read back only if the stage has no colon. The type may have any number of them,
since nobody looks behind the first one. Both parts have to be there, and nothing else is asked of
them.

Every text that has a colon is the text of one key whose stage has none (`exists_display_eq`), and
reading it is looking whether both parts of this key are there (`parse?_display`). So a text that is
read is the text of the key that it is read as, and whoever names a module by a text, be it for a
default or for a dependency, names no other one.
-/
import ReleasePipeline.ModuleKey
import ReleasePipeline.Proofs.Text.Parts

set_option autoImplicit false

namespace ReleasePipeline.ModuleKey

variable {key : ModuleKey} {text : String}

/-- The text of a key is its stage, a colon and its type. -/
theorem toList_display (key : ModuleKey) :
    key.display.toList = key.stage.toList ++ ':' :: key.kind.toList := by
  rw [display, String.toList_append, String.toList_append, List.append_assoc]
  rfl

/-- If the stage has no colon, the first one in the text is the one behind it. -/
theorem parse?_display (h : ':' ∉ key.stage.toList) :
    parse? key.display = if key.stage = "" ∨ key.kind = "" then none else some key := by
  rw [parse?, Text.splitOnce?_eq_some_iff.mpr ⟨h, toList_display key⟩]
  simp only [Bool.or_eq_true, List.isEmpty_iff, String.toList_eq_nil_iff, String.ofList_toList]

/-- A text that has a colon is cut at the first one. -/
theorem exists_display_eq (h : ':' ∈ text.toList) :
    ∃ key : ModuleKey, ':' ∉ key.stage.toList ∧ key.display = text := by
  cases hparts : Text.splitOnce? ':' text.toList with
  | none => exact absurd h (Text.splitOnce?_eq_none_iff.mp hparts)
  | some parts =>
    obtain ⟨hstage, htext⟩ := Text.splitOnce?_eq_some_iff.mp hparts
    refine ⟨⟨String.ofList parts.1, String.ofList parts.2⟩, ?_, ?_⟩
    · rwa [String.toList_ofList]
    · rw [← String.toList_inj, toList_display, String.toList_ofList, String.toList_ofList, htext]

/-- A text without a colon is no key. -/
theorem parse?_of_not_mem (h : ':' ∉ text.toList) : parse? text = none := by
  rw [parse?, Text.splitOnce?_eq_none_iff.mpr h]

/-- A text is read as a key exactly if the key is whole, has no colon in its stage, and is written
so. -/
theorem parse?_eq_some_iff : parse? text = some key ↔
    (key.stage ≠ "" ∧ ':' ∉ key.stage.toList ∧ key.kind ≠ "") ∧ key.display = text := by
  constructor
  · intro h
    -- a text with a colon is written for some key, and only whether that is whole is in question
    by_cases hcolon : ':' ∈ text.toList
    · obtain ⟨written, hstage, rfl⟩ := exists_display_eq hcolon
      rw [parse?_display hstage] at h
      split at h
      · cases h
      · next hthere =>
        cases h
        obtain ⟨hfront, hbehind⟩ := not_or.mp hthere
        exact ⟨⟨hfront, hstage, hbehind⟩, rfl⟩
    · rw [parse?_of_not_mem hcolon] at h
      cases h
  · rintro ⟨⟨hfront, hstage, hbehind⟩, rfl⟩
    rw [parse?_display hstage, if_neg (not_or.mpr ⟨hfront, hbehind⟩)]

/-! ## What is refused

Refusals do not say what was missing. They are told apart here by the text, which is what a user
has: nothing in front of the first colon, or nothing behind it. -/

/-- The text of a key is refused exactly if one of the parts of the key is missing. -/
theorem parse?_display_eq_none_iff (h : ':' ∉ key.stage.toList) :
    parse? key.display = none ↔ key.stage = "" ∨ key.kind = "" := by
  rw [parse?_display h]
  split
  · next hmissing => exact iff_of_true rfl hmissing
  · next hthere => exact iff_of_false (Option.some_ne_none key) hthere

/-- Nothing stands in front of the first colon exactly if the text begins with one. -/
theorem stage_eq_empty_iff (h : ':' ∉ key.stage.toList) :
    key.stage = "" ↔ ∃ rest, key.display.toList = ':' :: rest := by
  rw [toList_display, ← String.toList_eq_nil_iff]
  constructor
  · intro hstage
    exact ⟨key.kind.toList, by rw [hstage, List.nil_append]⟩
  · rintro ⟨rest, hrest⟩
    exact (Text.append_cons_inj h List.not_mem_nil hrest).1

/-- Nothing stands behind the first colon exactly if the text ends with it. -/
theorem kind_eq_empty_iff (h : ':' ∉ key.stage.toList) :
    key.kind = "" ↔ ∃ front, ':' ∉ front ∧ key.display.toList = front ++ [':'] := by
  rw [toList_display, ← String.toList_eq_nil_iff]
  constructor
  · intro hkind
    exact ⟨key.stage.toList, h, by rw [hkind]⟩
  · rintro ⟨front, hfront, hrest⟩
    exact (Text.append_cons_inj h hfront hrest).2

/-- **Keys are read back from their texts.** A text is read as a key exactly if the stage of the key
is there and has no colon, its type is there, and the key is written as this text. So what is read
is written as it was, and what is written in such a way is read as what it was. A text is refused
exactly if it has no colon, or nothing in front of its first colon, or nothing behind it. -/
theorem read_back_from_text :
    (∀ text key, parse? text = some key ↔
      (key.stage ≠ "" ∧ ':' ∉ key.stage.toList ∧ key.kind ≠ "") ∧ key.display = text) ∧
    ∀ text, parse? text = none ↔
      ':' ∉ text.toList ∨ (∃ rest, text.toList = ':' :: rest) ∨
        ∃ front, ':' ∉ front ∧ text.toList = front ++ [':'] := by
  refine ⟨fun text key => parse?_eq_some_iff, fun text => ?_⟩
  -- with a colon the text belongs to a key, and then it is about the two parts of it
  by_cases hcolon : ':' ∈ text.toList
  · obtain ⟨key, hstage, rfl⟩ := exists_display_eq hcolon
    rw [parse?_display_eq_none_iff hstage, stage_eq_empty_iff hstage, kind_eq_empty_iff hstage,
      or_iff_right (not_not_intro hcolon)]
  · exact iff_of_true (parse?_of_not_mem hcolon) (.inl hcolon)

/-- Only the first colon counts. -/
example : parse? "build:go:arm" = some ⟨"build", "go:arm"⟩ := by decide

end ReleasePipeline.ModuleKey
