import LossCascade.Json.Number

/-!
# Reading documents

The grammar is that of JSON without any relaxation: no blanks but space, tab and line ends, no
leading zeros, no trailing commas, no control characters in texts, nothing behind the document.
-/

namespace LossCascade.Json

/-- A step over the front of some characters, which may fail. -/
abbrev Scan := StateT (List Char) Option

namespace Scan

/-- The characters that may stand between the parts of a document. -/
def isSpace (c : Char) : Bool :=
  c == ' ' || c == '\t' || c == '\n' || c == '\r'

/-- Passes over spaces. -/
def spaces : Scan Unit :=
  modify fun cs => cs.dropWhile isSpace

/-- The next character, which stays. -/
def peek : Scan (Option Char) := do
  return (← get).head?

/-- The next character. -/
def next : Scan Char := do
  match ← get with
  | c :: rest => set rest; return c
  | [] => failure

/-- The given characters. -/
def exactly (word : List Char) : Scan Unit := do
  let cs ← get
  if word.isPrefixOf cs then set (cs.drop word.length) else failure

/-- As many digits as there are. -/
def digits : Scan (List Char) := do
  let cs ← get
  set (cs.dropWhile Char.isDigit)
  return cs.takeWhile Char.isDigit

/-- At least one digit. -/
def someDigits : Scan (List Char) := do
  let ds ← digits
  if ds.isEmpty then failure else return ds

/-! ## Numbers -/

/-- The digits behind a point, if there is one. -/
def fraction : Scan (Option (List Char)) := do
  if (← peek) == some '.' then
    let _ ← next
    return some (← someDigits)
  else return none

/-- The power of ten, if one is written. -/
def power : Scan (Option Int) := do
  if (← peek) == some 'e' || (← peek) == some 'E' then
    let _ ← next
    let sign ← peek
    if sign == some '+' || sign == some '-' then let _ ← next
    let value : Nat := (← someDigits).foldl (fun n c => 10 * n + digitValue c) 0
    return some (if sign == some '-' then -value else value)
  else return none

/-- A number; a zero in front of other digits is not allowed. -/
def number : Scan Json := do
  let negative := (← peek) == some '-'
  if negative then let _ ← next
  let whole ← someDigits
  if whole.head? == some '0' && 1 < whole.length then failure
  let fraction ← fraction
  let power ← power
  return ofNumeral negative whole fraction power

/-! ## Texts -/

/-- The value of a hexadecimal digit. -/
def hexValue? (c : Char) : Option Nat :=
  if c.isDigit then some (digitValue c)
  else if 'a' ≤ c && c ≤ 'f' then some (c.toNat - 'a'.toNat + 10)
  else if 'A' ≤ c && c ≤ 'F' then some (c.toNat - 'A'.toNat + 10)
  else none

/-- The number of four hexadecimal digits. -/
def hexUnit? (a b c d : Char) : Option Nat := do
  return (((← hexValue? a) * 16 + (← hexValue? b)) * 16 + (← hexValue? c)) * 16 + (← hexValue? d)

/-- The code that a character escaped by one character stands for. -/
def escaped? (c : Char) : Option Nat :=
  [('"', 0x22), ('\\', 0x5C), ('/', 0x2F), ('b', 0x08), ('f', 0x0C), ('n', 0x0A), ('r', 0x0D),
    ('t', 0x09)].lookup c

/-- The codes of a text up to its closing quote, the last one first and in front of the given codes,
and what follows the quote. -/
def codesBefore (codes : List Nat) : List Char → Option (List Nat × List Char)
  | [] => none
  | '"' :: rest => some (codes, rest)
  | '\\' :: 'u' :: a :: b :: c :: d :: rest =>
    match hexUnit? a b c d with
    | some code => codesBefore (code :: codes) rest
    | none => none
  | '\\' :: c :: rest =>
    match escaped? c with
    | some code => codesBefore (code :: codes) rest
    | none => none
  | c :: rest => if c.toNat < 0x20 || c == '\\' then none else codesBefore (c.toNat :: codes) rest

end Scan

/-- The characters of some codes; two codes that form a surrogate pair are one character. Half a
pair has none. -/
def joinPairs? : List Nat → Option (List Char)
  | [] => some []
  | code :: rest =>
    if 0xDC00 ≤ code ∧ code ≤ 0xDFFF then none
    else if 0xD800 ≤ code ∧ code ≤ 0xDBFF then
      match rest with
      | low :: rest =>
        if 0xDC00 ≤ low ∧ low ≤ 0xDFFF then
          (joinPairs? rest).map
            (Char.ofNat (0x10000 + (code - 0xD800) * 0x400 + (low - 0xDC00)) :: ·)
        else none
      | [] => none
    else (joinPairs? rest).map (Char.ofNat code :: ·)

namespace Scan

/-- A text behind its opening quote; none if it has half a surrogate pair. -/
def textBody : Scan (Option String) := do
  let (codes, rest) ← codesBefore [] (← get)
  set rest
  return (joinPairs? codes.reverse).map String.ofList

/-! ## Values -/

/-- An object of these members, some of whose names may have no text. -/
def assemble (members : List (Option String × Json)) : Json :=
  match members.mapM fun (name, value) => name.map fun n => (n, value) with
  | some members => object members
  | none => unreadable

mutual

/-- A value with the spaces in front of it. Every step down or along takes a character, so `fuel`
need not exceed their number. -/
def value : Nat → Scan Json
  | 0 => failure
  | fuel + 1 => do
    spaces
    match ← peek with
    | some '"' => do
      let _ ← next
      return match ← textBody with
        | some s => text s
        | none => unreadable
    | some '[' => do
      let _ ← next
      spaces
      if (← peek) == some ']' then
        let _ ← next
        return array []
      else return array (← items fuel)
    | some '\x7b' => do
      let _ ← next
      spaces
      if (← peek) == some '\x7d' then
        let _ ← next
        return object []
      else return assemble (← members fuel)
    | some 't' => exactly "true".toList; return bool true
    | some 'f' => exactly "false".toList; return bool false
    | some 'n' => exactly "null".toList; return null
    | _ => number

/-- The items of an array up to its closing bracket. -/
def items : Nat → Scan (List Json)
  | 0 => failure
  | fuel + 1 => do
    let item ← value fuel
    spaces
    match ← next with
    | ',' => return item :: (← items fuel)
    | ']' => return [item]
    | _ => failure

/-- The members of an object up to its closing brace. -/
def members : Nat → Scan (List (Option String × Json))
  | 0 => failure
  | fuel + 1 => do
    spaces
    exactly ['"']
    let name ← textBody
    spaces
    exactly [':']
    let value ← value fuel
    spaces
    match ← next with
    | ',' => return (name, value) :: (← members fuel)
    | '\x7d' => return [(name, value)]
    | _ => failure

end

/-- A document: one value and spaces around it. -/
def document : Scan Json := do
  let value ← value ((← get).length + 1)
  spaces
  return value

end Scan

/-- The document that a text writes. -/
def read? (s : String) : Option Json :=
  match Scan.document s.toList with
  | some (value, []) => some value
  | _ => none

end LossCascade.Json
