/-
Occurrences of one text inside another: the first one, the replacement of all of them, and the parts
between single separator characters.

Everything here is for lists, of characters or of bytes, and goes through them once from the front.
So a module key is cut at its first colon, and the name of an entry or a pattern at each of its
slashes.
-/

set_option autoImplicit false

namespace ReleasePipeline.Text

variable {α : Type} [BEq α]

/-! ## The first occurrence -/

/-- What stands before and after the first occurrence of `pat`. -/
def splitFirst? (pat : List α) : List α → Option (List α × List α)
  | [] => if pat.isEmpty then some ([], []) else none
  | c :: cs =>
    match pat.isPrefixOf? (c :: cs) with
    | some rest => some ([], rest)
    | none => (splitFirst? pat cs).map fun (before, after) => (c :: before, after)

/-- Whether `pat` occurs at all. -/
def occurs (pat cs : List α) : Bool := (splitFirst? pat cs).isSome

/-- The text up to the first occurrence of `pat`; the whole text if there is none. Whoever shows a
message of several parts can cut it off there. -/
def upTo (pat cs : List α) : List α :=
  match splitFirst? pat cs with
  | some (before, _) => before
  | none => cs

/-! ## All occurrences -/

/-- Every occurrence of `pat`, taken from the left without overlap, becomes `new`.
The number counts how many characters of the current occurrence are still to be
passed over. -/
def replaceFrom (pat new : List α) : Nat → List α → List α
  | _, [] => []
  | n + 1, _ :: cs => replaceFrom pat new n cs
  | 0, c :: cs =>
    if pat.isPrefixOf (c :: cs) then new ++ replaceFrom pat new (pat.length - 1) cs
    else c :: replaceFrom pat new 0 cs

/-- Every occurrence of the non-empty text `pat`, from the left, becomes `new`. -/
def replaceAll (pat new cs : List α) : List α := replaceFrom pat new 0 cs

/-! ## Parts between separators -/

/-- The parts between the separators: one more than there are separators. -/
def splitOn (sep : α) : List α → List (List α)
  | [] => [[]]
  | c :: cs =>
    if c == sep then [] :: splitOn sep cs
    else match splitOn sep cs with
      | [] => [[c]]
      | part :: parts => (c :: part) :: parts

/-- An empty text has one empty part. -/
@[simp] theorem splitOn_nil (sep : α) : splitOn sep [] = [[]] := rfl

/-- There is at least one part. -/
theorem splitOn_ne_nil (sep : α) (cs : List α) : splitOn sep cs ≠ [] := by
  induction cs with
  | nil => simp
  | cons c cs ih =>
    rw [splitOn]
    split
    · simp
    · split <;> simp

/-- What stands before and after the first separator. -/
def splitOnce? (sep : α) : List α → Option (List α × List α)
  | [] => none
  | c :: cs =>
    if c == sep then some ([], cs)
    else (splitOnce? sep cs).map fun (before, after) => (c :: before, after)

/-- What stands after a separator is shorter than the text. -/
theorem length_lt_of_splitOnce? {sep : α} {cs before after : List α}
    (h : splitOnce? sep cs = some (before, after)) : after.length < cs.length := by
  induction cs generalizing before with
  | nil => simp [splitOnce?] at h
  | cons c cs ih =>
    rw [splitOnce?] at h
    split at h
    · cases h
      simp
    · obtain ⟨⟨b, a⟩, hs, e⟩ := Option.map_eq_some_iff.mp h
      cases e
      exact Nat.lt_succ_of_lt (ih hs)

end ReleasePipeline.Text
