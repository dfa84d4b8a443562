/-
White space of every script, and the cutting of a text at it.

Blank is one fixed set of characters: the tab, line and page controls, the space,
the next-line control, and the spaces and separators of other scripts. Zero-width
characters are not blank.
-/

set_option autoImplicit false

namespace ReleasePipeline.Text

/-- White space: `U+0009`–`U+000D`, `U+0020`, `U+0085`, `U+00A0`, `U+1680`,
`U+2000`–`U+200A`, `U+2028`, `U+2029`, `U+202F`, `U+205F` and `U+3000`. -/
def isBlank (c : Char) : Bool :=
  let n := c.toNat
  (9 ≤ n && n ≤ 13) || n == 32 || n == 133 || n == 160 || n == 5760
    || (8192 ≤ n && n ≤ 8202) || n == 8232 || n == 8233 || n == 8239 || n == 8287 || n == 12288

/-! ## Trimming -/

/-- Without the blanks at the front. -/
def dropBlanks (cs : List Char) : List Char := cs.dropWhile isBlank

/-- Without the blanks at the end. -/
def dropBlanksEnd (cs : List Char) : List Char := (cs.reverse.dropWhile isBlank).reverse

/-- Without the blanks at both ends. -/
def trimmed (cs : List Char) : List Char := dropBlanksEnd (dropBlanks cs)

/-- A text without the blanks at both ends. -/
def trim (s : String) : String := String.ofList (trimmed s.toList)

/-! ## Words -/

/-- The maximal stretches without a blank, in order. -/
def words (cs : List Char) : List (List Char) :=
  (cs.foldr step ([], [])).1
where
  /-- Looks at one character from the right: `.1` holds the words found so far, the
  first of which is still open exactly when `.2` is not empty. -/
  step (c : Char) : List (List Char) × List Char → List (List Char) × List Char
    | (found, current) =>
      if isBlank c then (found, [])
      else match current with
        | [] => ([c] :: found, [c])
        | _ :: _ => ((c :: current) :: found.tail, c :: current)

end ReleasePipeline.Text
