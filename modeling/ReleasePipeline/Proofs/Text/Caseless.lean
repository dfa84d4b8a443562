/-
Characters that are the same in every case.

Folding sends no character to one below the small letters of ASCII but that one itself: no
progression of the table leads down there (`shiftBy_eq_or`), and of the characters that are there
only the capital letters are sent elsewhere (`toLower_eq_or`). So signs, digits, brackets, blanks
and line ends are found at the same places in texts that are the same but for their case
(`eq_iff_of_sameFold`). The character zero is left out, since what is not a code point is read as
that.
-/
import ReleasePipeline.Text.Casing

set_option autoImplicit false

namespace ReleasePipeline.Text

/-- Where no progression of a table leads below a number, no character is sent there. -/
theorem shiftBy_eq_or {low : Nat} {shifts : List CodePointShift}
    (h : ∀ r ∈ shifts, (low : Int) ≤ (r.first : Int) + r.offset) (c : Char) :
    shiftBy shifts c = c ∨ (shiftBy shifts c).toNat = 0 ∨ low ≤ (shiftBy shifts c).toNat := by
  induction shifts with
  | nil => exact .inl rfl
  | cons r rest ih =>
    rw [List.forall_mem_cons] at h
    rw [shiftBy]
    split
    · next hcovers =>
      have hfirst : r.first ≤ c.toNat := by
        simp only [CodePointShift.covers, Bool.and_eq_true, decide_eq_true_eq] at hcovers
        exact hcovers.1.1
      have himage : low ≤ ((c.toNat : Int) + r.offset).toNat := by omega
      right
      by_cases hvalid : ((c.toNat : Int) + r.offset).toNat.isValidChar
      · rw [Char.ofNat, dif_pos hvalid]
        exact .inr himage
      · rw [Char.ofNat, dif_neg hvalid]
        exact .inl rfl
    · exact ih h.2

/-- No progression of the folding leads below the small letter `a`. -/
theorem le_of_mem_foldShifts :
    ∀ r ∈ foldShifts, ((97 : Nat) : Int) ≤ (r.first : Int) + r.offset := by
  decide +kernel

/-- Of the ASCII characters, too, only capital letters are sent elsewhere. -/
theorem toLower_eq_or : ∀ n < 128, (Char.ofNat n).toLower = Char.ofNat n ∨
    (Char.ofNat n).isUpper = true ∧ 97 ≤ (Char.ofNat n).toLower.toNat := by
  decide

/-- A sign, a digit or a blank, or any other character before the small letters that is no capital
one, is the fold of itself alone. -/
theorem foldCase_eq_iff {c q : Char} (hq : 0 < q.toNat ∧ q.toNat < 97 ∧ q.isUpper = false) :
    foldCase c = q ↔ c = q := by
  -- what is folded to a small letter, or to no character, is not the one that is looked for
  have hchanged : ∀ d : Char, d.toNat = 0 ∨ 97 ≤ d.toNat → d ≠ q := by
    rintro d hd rfl
    omega
  rw [foldCase]
  split
  · next hascii =>
    rcases toLower_eq_or c.toNat hascii with hsame | ⟨hupper, hlower⟩
    · rw [Char.ofNat_toNat] at hsame
      rw [hsame]
    · rw [Char.ofNat_toNat] at hupper hlower
      refine iff_of_false (hchanged _ (.inr hlower)) ?_
      rintro rfl
      rw [hq.2.2] at hupper
      cases hupper
  · next hascii =>
    have hc : c ≠ q := hchanged c (.inr (by omega))
    refine iff_of_false ?_ hc
    rcases shiftBy_eq_or le_of_mem_foldShifts c with hsame | himage
    · rwa [hsame]
    · exact hchanged _ himage

/-- Texts that are the same but for their case have these characters at the same places. -/
theorem eq_iff_of_sameFold {a b q : Char}
    (hq : 0 < q.toNat ∧ q.toNat < 97 ∧ q.isUpper = false) (h : sameFold a b = true) :
    a = q ↔ b = q := by
  rw [← foldCase_eq_iff hq, eq_of_beq h, foldCase_eq_iff hq]

end ReleasePipeline.Text
