/-
Percent signs with two digits, there and back.

Whatever stands for itself and whatever is written by its bytes, a text without percent signs of its
own is spelled by what it is encoded as (`percentText?_percentEncode`). So no two of these are
encoded alike. A percent sign stands for itself in every part of an address, and that is where this
ends: a text that has one may be encoded as another text is.
-/
import ReleasePipeline.Proofs.Text.ByteOrder
import ReleasePipeline.Proofs.Text.Parts
import ReleasePipeline.Url.Percent

set_option autoImplicit false

namespace ReleasePipeline

/-! ## Bytes of a text

The bytes of a text are an array here and a list there. `ByteArray.toList` goes through the array by
an index, so its loop has to be opened once. -/

/-- The loop puts the bytes from the index on behind those that were read. -/
theorem Text.toList_loop (bytes : ByteArray) (i : Nat) (read : List UInt8) :
    ByteArray.toList.loop bytes i read = read.reverse ++ bytes.data.toList.drop i := by
  fun_induction ByteArray.toList.loop bytes i read with
  | case1 i read hi ih =>
    have hlt : i < bytes.data.toList.length := by simpa using hi
    rw [ih, List.drop_eq_getElem_cons hlt]
    simp [ByteArray.get!, hi]
  | case2 i read hi =>
    rw [List.drop_eq_nil_of_le (by simpa using Nat.le_of_not_lt hi)]
    simp

/-- The encoding of a text, as a list, are the bytes of the text. -/
theorem Text.toList_encode (s : String) : (encode s).toList = bytes s := by
  rw [ByteArray.toList, toList_loop]
  rfl

namespace Url

variable {stands : Char → Bool}

/-! ## Encoding

Which characters stand for themselves depends on the part of the address. Nothing below depends on
it, so it is left open as `stands`. -/

/-- Nothing is encoded as nothing. -/
@[simp] theorem percentEncode_nil : percentEncode stands [] = [] := rfl

/-- The first character stands for itself or is written by its bytes, and the others do not matter.
-/
theorem percentEncode_cons (c : Char) (cs : List Char) :
    percentEncode stands (c :: cs)
      = (if stands c then [c] else percentChar c) ++ percentEncode stands cs := rfl

/-- Two texts behind one another are encoded one after the other. -/
theorem percentEncode_append (cs ds : List Char) :
    percentEncode stands (cs ++ ds) = percentEncode stands cs ++ percentEncode stands ds :=
  List.flatMap_append

/-- A separator that stands for itself keeps the parts of a text apart. -/
theorem percentEncode_intercalate {sep : Char} (hsep : stands sep = true)
    (parts : List (List Char)) :
    percentEncode stands ([sep].intercalate parts)
      = [sep].intercalate (parts.map (percentEncode stands)) := by
  induction parts with
  | nil => rfl
  | cons part parts ih =>
    by_cases hparts : parts = []
    · rw [hparts, List.map_singleton, List.intercalate_singleton, List.intercalate_singleton]
    · have hmap : parts.map (percentEncode stands) ≠ [] := List.map_eq_nil_iff.not.mpr hparts
      have hone : percentEncode stands [sep] = [sep] := by
        rw [percentEncode_cons, if_pos hsep, percentEncode_nil, List.append_nil]
      rw [List.map_cons, List.intercalate_cons_of_ne_nil hparts,
        List.intercalate_cons_of_ne_nil hmap, percentEncode_append, percentEncode_append, hone, ih]

/-- Whatever is written by its bytes, no slash comes of it. -/
theorem slash_not_mem_percentEncode {cs : List Char} (h : '/' ∉ cs) :
    '/' ∉ percentEncode stands cs := by
  -- a byte is written with a percent sign and digits, and neither is a slash
  have hdigit : ∀ n < 16, '/' ≠ upperDigit n := by decide
  intro hmem
  obtain ⟨c, hc, hmem⟩ := List.mem_flatMap.mp hmem
  split at hmem
  · rw [List.mem_singleton] at hmem
    exact h (hmem ▸ hc)
  · obtain ⟨b, -, hmem⟩ := List.mem_flatMap.mp hmem
    have hb := b.toNat_lt
    rw [percentByte, List.mem_cons, List.mem_cons, List.mem_singleton] at hmem
    rcases hmem with heq | heq | heq
    · exact absurd heq (by decide)
    · exact hdigit _ (by omega) heq
    · exact hdigit _ (by omega) heq

/-! ## Decoding

Decoding gives bytes and not characters, because what was written by its bytes may be a part of a
character only. They are read as a text in the end. -/

/-- A digit has the value that it was written for. -/
theorem hexValue?_upperDigit : ∀ n < 16, Text.hexValue? (upperDigit n) = some n := by decide

/-- A byte that was written with two digits is read again. -/
theorem percentDecode_percentByte_append (b : UInt8) (cs : List Char) :
    percentDecode (percentByte b ++ cs) = b :: percentDecode cs := by
  have hb := b.toNat_lt
  rw [percentByte, List.cons_append, List.cons_append, List.cons_append, List.nil_append,
    percentDecode, hexValue?_upperDigit _ (by omega), hexValue?_upperDigit _ (by omega)]
  dsimp only
  rw [Nat.div_add_mod, UInt8.ofNat_toNat]

/-- So are several bytes. -/
theorem percentDecode_percentBytes_append (bytes : List UInt8) (cs : List Char) :
    percentDecode (bytes.flatMap percentByte ++ cs) = bytes ++ percentDecode cs := by
  induction bytes with
  | nil => rfl
  | cons b bytes ih =>
    rw [List.flatMap_cons, List.append_assoc, percentDecode_percentByte_append, ih,
      List.cons_append]

/-- What is no percent sign spells its own bytes. -/
theorem percentDecode_cons {c : Char} (hc : c ≠ '%') (cs : List Char) :
    percentDecode (c :: cs)
      = (Text.encode (String.singleton c)).toList ++ percentDecode cs := by
  rw [percentDecode]
  intro a b rest heq
  exact absurd heq hc

/-- Both ways of writing a character spell its bytes. -/
theorem percentDecode_percentEncode {cs : List Char} (h : '%' ∉ cs) :
    percentDecode (percentEncode stands cs) = cs.flatMap String.utf8EncodeChar := by
  induction cs with
  | nil => rfl
  | cons c cs ih =>
    rw [List.mem_cons, not_or] at h
    have hbytes : (Text.encode (String.singleton c)).toList = String.utf8EncodeChar c := by
      rw [Text.toList_encode, Text.bytes_eq, String.toList_singleton, List.flatMap_singleton]
    rw [percentEncode_cons, List.flatMap_cons, ← ih h.2, ← hbytes]
    -- the character stands for itself, or its bytes are written
    split
    · exact percentDecode_cons (Ne.symm h.1) _
    · exact percentDecode_percentBytes_append _ _

/-- **A text without percent signs is spelled by what it is encoded as.** -/
theorem percentText?_percentEncode {cs : List Char} (h : '%' ∉ cs) :
    percentText? (percentEncode stands cs) = some (String.ofList cs) := by
  have hbytes := Text.bytes_eq (String.ofList cs)
  rw [String.toList_ofList] at hbytes
  rw [percentText?, percentDecode_percentEncode h, ← hbytes, Text.bytes, Array.toArray_toList]
  exact Text.decode?_encode _

end Url

end ReleasePipeline
