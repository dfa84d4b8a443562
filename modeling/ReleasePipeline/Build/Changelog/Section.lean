/-
Sections of a changelog.

A section begins with a heading line, `## [version]`, and ends before a line that begins
with two number signs and a blank, or before the first line that defines a link. The
character after the heading always belongs to the section. Links that are defined
elsewhere in the changelog are written out in place.
-/
import ReleasePipeline.Text.Blank
import ReleasePipeline.Text.Casing
import ReleasePipeline.Text.Occurrence

set_option autoImplicit false

namespace ReleasePipeline.Build.Changelog

/-! ## Headings -/

/-- What begins a heading. -/
def headingMark : List Char := "## ".toList

/-- What follows a text at the front of another, upper and lower case being the same, after
that text as it is spelled there. -/
def afterFolded? : List Char → List Char → Option (List Char × List Char)
  | [], cs => some ([], cs)
  | v :: vs, c :: cs =>
    if Text.sameFold v c then
      (afterFolded? vs cs).map fun (spelled, rest) => (c :: spelled, rest)
    else none
  | _ :: _, [] => none

/-- The heading of a version at the front of a text, and what follows it. -/
def heading? (version cs : List Char) : Option (List Char × List Char) := do
  let opening := headingMark ++ ['[']
  let rest ← opening.isPrefixOf? cs
  let (spelled, rest) ← afterFolded? version rest
  let rest ← [']'].isPrefixOf? rest
  return (opening ++ spelled ++ [']'], rest)

/-! ## Ends -/

/-- Something between two marks, on one line and not empty, with what follows it. -/
def enclosed? (opening closing : Char) : List Char → Option (List Char × List Char)
  | [] => none
  | c :: cs =>
    if c = opening then
      let inside := cs.takeWhile fun d => d != closing && d != '\n'
      match cs.drop inside.length with
      | d :: rest => if d = closing ∧ inside ≠ [] then some (inside, rest) else none
      | [] => none
    else none

/-- The text begins with a line that defines a link. -/
def beginsDefinition (cs : List Char) : Bool :=
  match enclosed? '[' ']' cs with
  | some (_, ':' :: _) => true
  | _ => false

/-- A section cannot go on with the text. -/
def endsSection : List Char → Bool
  | '\n' :: rest => headingMark.isPrefixOf rest || beginsDefinition rest
  | _ => false

/-- The text up to where a section ends. -/
def untilEnd : List Char → List Char
  | [] => []
  | c :: cs => if endsSection (c :: cs) then [] else c :: untilEnd cs

/-- The section at the front of a text. -/
def sectionAt? (version cs : List Char) : Option (List Char) := do
  let (heading, rest) ← heading? version cs
  match rest with
  | [] => none
  -- whatever follows the heading is taken, be it the line end before the next heading
  | c :: rest => return heading ++ c :: untilEnd rest

/-- The first section of a version; `atLine` says whether a line begins. -/
def sectionFrom? (version : List Char) (atLine : Bool) : List Char → Option (List Char)
  | [] => none
  | c :: cs =>
    match if atLine then sectionAt? version (c :: cs) else none with
    | some found => some found
    | none => sectionFrom? version (c == '\n') cs

/-! ## Link definitions -/

/-- A name and what it links to. -/
structure LinkDefinition where
  name : List Char
  destination : List Char
  /-- The number of characters of the definition. -/
  length : Nat
  deriving DecidableEq

/-- Reads a destination: it begins after the blanks, on whatever line that is. After blanks
alone, the last of them that is not the end of a line stands for it. The number counts the
characters that were read. -/
def destination? (cs : List Char) : Option (List Char × Nat) :=
  let blanks := cs.takeWhile Text.isBlank
  match cs.drop blanks.length with
  | [] =>
    -- nothing but blanks is left: one of them has to do
    let kept := (blanks.reverse.dropWhile (· == '\n')).length
    if kept = 0 then none else some ([], kept)
  | rest =>
    let text := rest.takeWhile (· != '\n')
    some (Text.trimmed text, blanks.length + text.length)

/-- Reads the name of a definition, of which `name` was read already, and its destination. -/
def definitionAfter? (name : List Char) : List Char → Option LinkDefinition
  | [] => none
  | c :: cs =>
    let here : Option LinkDefinition :=
      match c, cs with
      | ']', ':' :: after =>
        if name.isEmpty then none
        else (destination? after).map fun (destination, length) =>
          { name, destination, length := name.length + 3 + length }
      | _, _ => none
    match here with
    | some d => some d
    -- a bracket without a destination behind it is part of the name
    | none => if c = '\n' then none else definitionAfter? (name ++ [c]) cs

/-- The definition that a line begins with. -/
def definition? : List Char → Option LinkDefinition
  | '[' :: cs => definitionAfter? [] cs
  | _ => none

/-- The definitions in a text. The number counts how many characters of the current one are
still to be passed over; `atLine` says whether a line begins. -/
def definitionsFrom : Nat → Bool → List Char → List LinkDefinition
  | _, _, [] => []
  | n + 1, _, _ :: cs => definitionsFrom n false cs
  | 0, atLine, c :: cs =>
    match if atLine then definition? (c :: cs) else none with
    | some d => d :: definitionsFrom (d.length - 1) false cs
    | none => definitionsFrom 0 (c == '\n') cs

/-- The definitions in a text. -/
def definitions (cs : List Char) : List LinkDefinition := definitionsFrom 0 true cs

/-! ## Writing links out -/

/-- Writes the destination behind every mention of a link. -/
def writeOut (section_ : List Char) (d : LinkDefinition) : List Char :=
  let mention := '[' :: d.name ++ [']']
  Text.replaceAll mention (mention ++ '(' :: d.destination ++ [')']) section_

/-- A text has a bracket that closes, at the latest at the end of the line, and something
other than a colon after it; `seen` says whether there is anything in the bracket yet. -/
def closesWithoutColon (seen : Bool) : List Char → Bool
  | [] => false
  | c :: cs =>
    (seen && c == ']' && (match cs with
      | [] => false
      | d :: _ => d != ':')) || (c != '\n' && closesWithoutColon true cs)

/-- The heading of a section mentions a link that can be written out. -/
def mentionsLink (section_ : List Char) : Bool :=
  match (headingMark ++ ['[']).isPrefixOf? section_ with
  | some rest => closesWithoutColon false rest
  | none => false

/-- A link in place with a second destination: the link, and the length of all of it. -/
def doubled? (cs : List Char) : Option (List Char × Nat) := do
  let (name, rest) ← enclosed? '[' ']' cs
  let (first, rest) ← enclosed? '(' ')' rest
  let (second, _) ← enclosed? '(' ')' rest
  let link := '[' :: name ++ ']' :: '(' :: first ++ [')']
  return (link, link.length + second.length + 2)

/-- Takes away second destinations. The number counts how many characters of the current
link are still to be passed over. -/
def dropSecond : Nat → List Char → List Char
  | _, [] => []
  | n + 1, _ :: cs => dropSecond n cs
  | 0, c :: cs =>
    match doubled? (c :: cs) with
    | some (link, length) => link ++ dropSecond (length - 1) cs
    | none => c :: dropSecond 0 cs

/-- The section of a version, with links written out and one line end at its end. -/
def cut? (contents version : String) : Option String := do
  let found ← sectionFrom? version.toList true contents.toList
  let trimmed := Text.dropBlanksEnd found
  let linked :=
    if mentionsLink trimmed then (definitions contents.toList).foldl writeOut trimmed else trimmed
  return String.ofList (dropSecond 0 linked ++ ['\n'])

end ReleasePipeline.Build.Changelog
