/-
The quoted form of a text, as messages show a name that may hold anything.

Between double quotes every printable character stands for itself. The quote and
the backslash are escaped, the common controls have short escapes, and any other
character without a shape of its own is spelled by its hexadecimal number.
-/
import ReleasePipeline.Text.Printable

set_option autoImplicit false

namespace ReleasePipeline.Text

/-- How one character is written between quotes. -/
def quotedChar (c : Char) : List Char :=
  match c with
  | '\x00' => ['\\', '0']
  | '\t' => ['\\', 't']
  | '\r' => ['\\', 'r']
  | '\n' => ['\\', 'n']
  | '\\' => ['\\', '\\']
  | '"' => ['\\', '"']
  | c =>
    if isPrintable c then [c]
    else ['\\', 'u', '{'] ++ Nat.toDigits 16 c.toNat ++ ['}']

/-- A text between double quotes. -/
def quoted (s : String) : String :=
  String.ofList ('"' :: (s.toList.flatMap quotedChar ++ ['"']))

/-- A text between double quotes, in which the single quotes are escaped as well. -/
def quotedThroughout (s : String) : String :=
  let char (c : Char) : List Char := if c = '\'' then ['\\', '\''] else quotedChar c
  String.ofList ('"' :: (s.toList.flatMap char ++ ['"']))

/-- A list of texts, each quoted, between square brackets. -/
def quotedList (items : List String) : String :=
  "[" ++ ", ".intercalate (items.map quoted) ++ "]"

/-- A text between braces. -/
def braced (s : String) : String := String.ofList ('{' :: (s.toList ++ ['}']))

end ReleasePipeline.Text
