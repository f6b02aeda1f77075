import LossCascade.Decimal.Layout
import LossCascade.Json.Basic

/-!
# Writing documents

Documents are written on one line, or with two spaces of indentation for each level. A number that
is infinite or undefined is written as null, and so is what stands for nothing.
-/

namespace LossCascade.Json

/-- Numbers are written with their shortest digits, the even one of two equally near. Whole numbers
keep one decimal, and numbers below `10 ^ -5` or from `10 ^ 16` on have a power of ten. -/
def numberLayout : Decimal.Layout where
  tie := .even
  plain := some (-5, 15)
  wholeEnding := ".0"
  undefined := "null"
  infinite := "null"

/-- The text of a floating-point number. -/
def floatText (x : Float) : String :=
  if x.isFinite then numberLayout.write x else "null"

/-! ## Texts -/

/-- A digit of a number to base sixteen. -/
def hexDigit (n : Nat) : Char :=
  if n < 10 then Char.ofNat ('0'.toNat + n) else Char.ofNat ('a'.toNat + (n - 10))

/-- How a character is written inside a text. -/
def escapeChar (c : Char) : List Char :=
  match c with
  | '"' => ['\\', '"']
  | '\\' => ['\\', '\\']
  | '\n' => ['\\', 'n']
  | '\r' => ['\\', 'r']
  | '\t' => ['\\', 't']
  | '\x08' => ['\\', 'b']
  | '\x0c' => ['\\', 'f']
  | c =>
    if c.toNat < 0x20 then ['\\', 'u', '0', '0', hexDigit (c.toNat / 16), hexDigit (c.toNat % 16)]
    else [c]

/-- A text between quotes. -/
def quoted (s : String) : String :=
  "\"" ++ String.ofList (s.toList.flatMap escapeChar) ++ "\""

/-- A value that is no array and no object. -/
def scalarText : Json → String
  | bool b => if b then "true" else "false"
  | int n => toString n
  | float x => floatText x
  | text s => quoted s
  | _ => "null"

/-! ## Documents -/

mutual

/-- A document on one line. -/
def compact : Json → String
  | array items => "[" ++ ",".intercalate (compactItems items) ++ "]"
  | object members => "\x7b" ++ ",".intercalate (compactMembers members) ++ "\x7d"
  | j => scalarText j

/-- Each item on one line. -/
def compactItems : List Json → List String
  | [] => []
  | item :: rest => compact item :: compactItems rest

/-- Each member on one line. -/
def compactMembers : List (String × Json) → List String
  | [] => []
  | (name, value) :: rest => (quoted name ++ ":" ++ compact value) :: compactMembers rest

end

/-- Lines between brackets, each indented by one level more than the closing bracket. -/
def block (level : Nat) (opening closing : String) (lines : List String) : String :=
  let indent (n : Nat) := String.ofList (List.replicate (2 * n) ' ')
  match lines with
  | [] => opening ++ closing
  | _ =>
    opening ++ "\n" ++ ",\n".intercalate (lines.map (indent (level + 1) ++ ·)) ++ "\n"
      ++ indent level ++ closing

mutual

/-- A document on several lines that begins at some level of indentation. -/
def indented (level : Nat) : Json → String
  | array items => block level "[" "]" (indentedItems (level + 1) items)
  | object members => block level "\x7b" "\x7d" (indentedMembers (level + 1) members)
  | j => scalarText j

/-- The items of an array on several lines. -/
def indentedItems (level : Nat) : List Json → List String
  | [] => []
  | item :: rest => indented level item :: indentedItems level rest

/-- The members of an object on several lines. -/
def indentedMembers (level : Nat) : List (String × Json) → List String
  | [] => []
  | (name, value) :: rest =>
    (quoted name ++ ": " ++ indented level value) :: indentedMembers level rest

end

/-- A document on several lines. -/
def pretty (j : Json) : String :=
  indented 0 j

end LossCascade.Json
