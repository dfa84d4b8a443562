/-
What a listing of digests says.

A line is a digest, two blanks and a file name. A digest has no blank, so the first two blanks of a
line are the ones that were put there, whatever the file is called (`Entry.ofLine?_line`). If no
file name has a line end in it, the lines of the listing are the lines that it was made of
(`lines_listing`). So the entries can be read back (`entriesOf_listing`), and two listings with the
same text list the same.
-/
import Mathlib.Data.List.Basic
import Mathlib.Data.List.Infix
import ReleasePipeline.Build.Checksum
import ReleasePipeline.Proofs.Text.ByteOrder
import ReleasePipeline.Proofs.Text.Parts

set_option autoImplicit false

namespace ReleasePipeline

/-- What is looked for is found where its first character is. -/
theorem Text.splitFirst?_append {mark : Char} {rest before after : List Char}
    (hbefore : mark ∉ before) :
    splitFirst? (mark :: rest) (before ++ (mark :: rest ++ after)) = some (before, after) := by
  induction before with
  | nil =>
    have hfound : (mark :: rest).isPrefixOf? (mark :: (rest ++ after)) = some after :=
      List.isPrefixOf?_eq_some_iff_append_eq.mpr rfl
    rw [List.nil_append, List.cons_append, splitFirst?, hfound]
  | cons c before ih =>
    rw [List.mem_cons, not_or] at hbefore
    -- the mark cannot begin before the place where its first character is
    have hnot : (mark :: rest).isPrefixOf? (c :: (before ++ (mark :: rest ++ after))) = none := by
      rw [List.isPrefixOf?, if_neg (by simpa using hbefore.1)]
    rw [List.cons_append, splitFirst?, hnot]
    dsimp only
    rw [ih hbefore.2, Option.map_some]

/-! ## Digests -/

/-- The digits of a digest. -/
def HashAlgorithm.digits : List Char := "0123456789abcdef".toList

/-- Half a byte is written as one of the sixteen digits. -/
theorem HashAlgorithm.digitChar_mem_digits {n : Nat} (h : n < 16) : Nat.digitChar n ∈ digits := by
  have hall : ∀ m < 16, Nat.digitChar m ∈ digits := by decide
  exact hall n h

/-- A digest is written in lower-case hexadecimal digits. -/
theorem HashAlgorithm.mem_digits_of_mem_hexadecimal {bytes : List UInt8} {c : Char}
    (h : c ∈ (hexadecimal bytes).toList) : c ∈ digits := by
  rw [hexadecimal, String.toList_ofList, List.mem_flatMap] at h
  obtain ⟨b, -, hc⟩ := h
  have hbyte : b.toNat < 256 := b.toNat_lt
  rw [List.mem_cons, List.mem_singleton] at hc
  -- each byte has two digits, its upper half and its lower half
  rcases hc with rfl | rfl
  · apply digitChar_mem_digits
    omega
  · apply digitChar_mem_digits
    omega

namespace Build.Checksum

/-! ## Lines

A file name may hold blanks, two of them as well, and nothing in a line escapes them. That it can be
read back all the same is due to the digest, which is in front. -/

/-- What a line says. -/
structure Entry where
  digest : String
  filename : String
  deriving DecidableEq

namespace Entry

/-- The line for an entry. -/
def line (e : Entry) : String := Checksum.line e.digest e.filename

/-- Reads a line: the digest stands before the first two blanks, and the file name behind them. -/
def ofLine? (cs : List Char) : Option Entry :=
  (Text.splitFirst? [' ', ' '] cs).map fun (digest, filename) =>
    ⟨String.ofList digest, String.ofList filename⟩

end Entry

/-- Two blanks stand between the digest and the name, as `sha256sum` and its like write them. -/
theorem Entry.toList_line (e : Entry) :
    e.line.toList = e.digest.toList ++ ([' ', ' '] ++ e.filename.toList) := by
  unfold Entry.line Checksum.line
  rw [String.toList_append, String.toList_append, List.append_assoc]
  rfl

/-- An entry can be read back from its line, whatever the file is called. -/
theorem Entry.ofLine?_line {e : Entry} (hdigest : ' ' ∉ e.digest.toList) :
    Entry.ofLine? e.line.toList = some e := by
  unfold Entry.ofLine?
  rw [toList_line, Text.splitFirst?_append hdigest, Option.map_some]
  dsimp only
  rw [String.ofList_toList, String.ofList_toList]

/-! ## Listings

The text of a listing is described twice, because the program puts line ends between the lines and
one more behind the last: as lines that all end in a line end, which is what a reader sees, and as
parts between line ends, which is what `List.splitOn` takes apart. -/

/-- Reads the file that holds a listing, line by line; behind the last line end there is nothing. -/
def entriesOf (content : Content) : List Entry :=
  match Text.decode? content.toBytes with
  | some text => (List.splitOn '\n' text.toList).dropLast.filterMap Entry.ofLine?
  | none => []

/-- What is written as a text is read back as this text. -/
theorem entriesOf_ofText (text : String) : entriesOf (.ofText text) =
    (List.splitOn '\n' text.toList).dropLast.filterMap Entry.ofLine? := by
  rw [entriesOf, Content.ofText, Content.toBytes, Text.decode?_encode]

/-- Every line of a listing ends in a line end. -/
theorem listing_eq_join {lines : List String} (hlines : lines ≠ []) :
    listing lines = String.join (lines.map (· ++ "\n")) := by
  unfold listing
  induction lines with
  | nil => exact absurd rfl hlines
  | cons line rest ih =>
    rw [List.map_cons, String.join_cons]
    cases rest with
    | nil => rw [String.intercalate_singleton, List.map_nil, String.join_nil, String.append_empty]
    | cons next later =>
      rw [← ih (List.cons_ne_nil _ _), String.intercalate_cons_cons]
      simp only [String.append_assoc]

/-- The listing of some entries is a line for each of them. -/
theorem listing_entries {entries : List Entry} (hne : entries ≠ []) :
    listing (entries.map Entry.line) = String.join (entries.map fun e => e.line ++ "\n") := by
  rw [listing_eq_join (by simpa using hne), List.map_map]
  rfl

/-- The lines of a listing are those that it was made of, if they are lines. -/
theorem lines_listing {lines : List String} (hne : lines ≠ [])
    (hlines : ∀ line ∈ lines, '\n' ∉ line.toList) :
    List.splitOn '\n' (listing lines).toList = lines.map String.toList ++ [[]] := by
  -- the line end at the end is one more separator, with nothing behind it
  have htext : (listing lines).toList
      = ['\n'].intercalate (lines.map String.toList ++ [[]]) := by
    rw [Text.intercalate_append '\n' (by simpa using hne) (List.cons_ne_nil _ _), listing,
      String.toList_append, String.toList_intercalate, List.intercalate_singleton]
    rfl
  rw [htext]
  apply List.splitOn_intercalate
  · intro part hpart
    rw [List.mem_append, List.mem_map, List.mem_singleton] at hpart
    rcases hpart with ⟨line, hline, rfl⟩ | rfl
    · exact hlines line hline
    · exact List.not_mem_nil
  · exact List.append_ne_nil_of_right_ne_nil _ (List.cons_ne_nil _ _)

/-- A listing can be read back. -/
theorem entriesOf_listing {entries : List Entry} (hne : entries ≠ [])
    (hdigests : ∀ e ∈ entries, ∀ c ∈ e.digest.toList, c ∈ HashAlgorithm.digits)
    (hnames : ∀ e ∈ entries, '\n' ∉ e.filename.toList) :
    entriesOf (.ofText (listing (entries.map Entry.line))) = entries := by
  -- neither part of an entry can break its line
  have hlines : ∀ line ∈ entries.map Entry.line, '\n' ∉ line.toList := by
    intro line hline
    obtain ⟨e, he, rfl⟩ := List.mem_map.mp hline
    have hdigest : '\n' ∉ e.digest.toList := by
      intro hmem
      have hdigit : '\n' ∈ HashAlgorithm.digits := hdigests e he '\n' hmem
      revert hdigit
      decide
    rw [Entry.toList_line, List.mem_append, List.mem_append]
    simp [hdigest, hnames e he]
  -- a digest has no blank, so it ends at the first one
  have hread : ∀ e ∈ entries, Entry.ofLine? e.line.toList = some e := by
    intro e he
    apply Entry.ofLine?_line
    intro hmem
    have hdigit : ' ' ∈ HashAlgorithm.digits := hdigests e he ' ' hmem
    revert hdigit
    decide
  calc entriesOf (.ofText (listing (entries.map Entry.line)))
      = entries.filterMap (Entry.ofLine? ∘ String.toList ∘ Entry.line) := by
        rw [entriesOf_ofText, lines_listing (by simpa using hne) hlines, List.dropLast_concat,
          List.map_map, List.filterMap_map]
    _ = entries.filterMap some := List.filterMap_congr hread
    _ = entries := List.filterMap_some

end Build.Checksum

end ReleasePipeline
