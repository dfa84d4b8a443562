/-
The order of texts is the order of their bytes.

Texts are compared character by character, and so are the keys of every table. Whoever lists
them by their UTF-8 bytes gets the same order. The reason is in one character
(`encodeChar_append_lt`): the bytes of a smaller one are smaller at the first place where the
two differ, and that place comes before either ends, so what follows is of no account.
-/
import Mathlib.Data.List.Lex
import Mathlib.Order.Defs.LinearOrder
import ReleasePipeline.Text.Utf8

set_option autoImplicit false

namespace ReleasePipeline.Text

/-- The bytes of a text, as a list. -/
def bytes (s : String) : List UInt8 := (encode s).data.toList

/-- The bytes of a text are those of its characters, one character after the other. -/
theorem bytes_eq (s : String) : bytes s = s.toList.flatMap String.utf8EncodeChar := by
  have h : encode (String.ofList s.toList)
      = (s.toList.flatMap String.utf8EncodeChar).toByteArray := rfl
  rw [String.ofList_toList] at h
  rw [bytes, h, List.data_toByteArray]

/-- The bytes of a text spell it and no other. -/
theorem decode?_encode (s : String) : decode? (encode s) = some s := by
  unfold decode? encode String.fromUTF8?
  rw [String.toUTF8_eq_toByteArray, dif_pos s.isValidUTF8]
  rfl

/-! ## One character -/

/-- A number below 256 is what its byte counts. -/
theorem toNat_ofNat_of_lt {n : Nat} (h : n < 256) : (UInt8.ofNat n).toNat = n := by
  rw [UInt8.toNat_ofNat', Nat.mod_eq_of_lt h]

/-- A smaller character has smaller bytes, whatever follows. Where both take the same number
of bytes, the digits of their numbers in base 64 decide; where they do not, the first byte
does. -/
theorem encodeChar_append_lt {c d : Char} (h : c < d) (xs ys : List UInt8) :
    String.utf8EncodeChar c ++ xs < String.utf8EncodeChar d ++ ys := by
  have hlt : c.val.toNat < d.val.toNat := by
    rw [Char.lt_def, UInt32.lt_iff_toNat_lt] at h
    exact h
  have hd : d.val.toNat < 1114112 := by
    rcases d.valid with hlow | hhigh
    · omega
    · omega
  unfold String.utf8EncodeChar
  generalize c.val.toNat = v at hlt
  generalize d.val.toNat = w at hlt hd
  dsimp only
  -- one digit is cut off after the other
  have hthird : ∀ n : Nat, n / 4096 = n / 64 / 64 := by omega
  have hfirst : ∀ n : Nat, n / 262144 = n / 64 / 64 / 64 := by omega
  -- sixteen cases, for the numbers of bytes that either takes, and in each the first byte or the
  -- digits decide
  split_ifs <;>
    simp (disch := omega) only [List.cons_append, List.nil_append, List.cons_lt_cons_iff,
      UInt8.lt_iff_toNat_lt, ← UInt8.toNat_inj, toNat_ofNat_of_lt, hthird, hfirst] <;>
    omega

/-! ## Texts -/

/-- Both orders are lexicographic, and the first character that differs settles both. -/
theorem flatMap_encodeChar_lt {xs ys : List Char} (h : xs < ys) :
    xs.flatMap String.utf8EncodeChar < ys.flatMap String.utf8EncodeChar := by
  induction h with
  | @nil y ys =>
    obtain ⟨b, bs, hb⟩ := List.exists_cons_of_ne_nil (String.utf8EncodeChar_ne_nil (c := y))
    rw [List.flatMap_nil, List.flatMap_cons, hb]
    exact List.nil_lt_cons b _
  | rel h => exact encodeChar_append_lt h _ _
  | @cons x xs ys h ih =>
    rw [List.flatMap_cons, List.flatMap_cons]
    exact List.append_left_lt ih

/-- **Texts are ordered as their bytes are.** -/
theorem lt_iff_bytes_lt {s t : String} : s < t ↔ bytes s < bytes t := by
  have hmono : ∀ {a b : String}, a < b → bytes a < bytes b := by
    intro a b h
    rw [bytes_eq, bytes_eq]
    exact flatMap_encodeChar_lt (String.lt_iff.mp h)
  refine ⟨hmono, fun h => ?_⟩
  -- the order of texts is total, so that the way back follows from the way there
  by_contra hnot
  by_cases hgt : t < s
  · exact List.lt_asymm h (hmono hgt)
  · have heq : s = t := String.le_antisymm (String.not_lt.mp hgt) (String.not_lt.mp hnot)
    rw [heq] at h
    exact List.lt_irrefl _ h

end ReleasePipeline.Text
