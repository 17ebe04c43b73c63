import DualMode.Json.Numeral

/-! Reading JSON text. -/

namespace DualMode
namespace Json

def isBlank (c : Char) : Bool := c == ' ' || c == '\n' || c == '\t' || c == '\r'

def skipBlanks (s : List Char) : List Char := s.dropWhile isBlank

def hexValue? (c : Char) : Option Nat :=
  if c.isDigit then some (c.toNat - 48)
  else if 'a' ≤ c ∧ c ≤ 'f' then some (c.toNat - 87)
  else if 'A' ≤ c ∧ c ≤ 'F' then some (c.toNat - 55)
  else none

def readUnit : List Char → Option (Nat × List Char)
  | a :: b :: c :: d :: rest => do
    let a ← hexValue? a
    let b ← hexValue? b
    let c ← hexValue? c
    let d ← hexValue? d
    return (((a * 16 + b) * 16 + c) * 16 + d, rest)
  | _ => none

/-- The character of a `\u` escape; a high surrogate takes the low one that follows. -/
def readUnicode (s : List Char) : Option (Char × List Char) := do
  let (high, rest) ← readUnit s
  if 0xD800 ≤ high ∧ high < 0xDC00 then
    match rest with
    | '\\' :: 'u' :: rest =>
      let (low, rest) ← readUnit rest
      if 0xDC00 ≤ low ∧ low < 0xE000 then
        return (Char.ofNat (0x10000 + (high - 0xD800) * 0x400 + (low - 0xDC00)), rest)
      else none
    | _ => none
  else if 0xDC00 ≤ high ∧ high < 0xE000 then none
  else return (Char.ofNat high, rest)

def readEscape : List Char → Option (Char × List Char)
  | '"' :: rest => some ('"', rest)
  | '\\' :: rest => some ('\\', rest)
  | '/' :: rest => some ('/', rest)
  | 'b' :: rest => some ('\x08', rest)
  | 'f' :: rest => some ('\x0c', rest)
  | 'n' :: rest => some ('\n', rest)
  | 'r' :: rest => some ('\r', rest)
  | 't' :: rest => some ('\t', rest)
  | 'u' :: rest => readUnicode rest
  | _ => none

def splitQuote : List Char → Option (List Char × List Char)
  | [] => none
  | '"' :: rest => some ([], rest)
  | '\\' :: c :: rest => (splitQuote rest).map fun (cs, rest) => ('\\' :: c :: cs, rest)
  | c :: rest => (splitQuote rest).map fun (cs, rest) => (c :: cs, rest)

/-- The characters that are written, if there are not more of them than there is fuel. -/
def readChars : Nat → List Char → Option (List Char)
  | _, [] => some []
  | fuel + 1, '\\' :: rest => do
    let (c, rest) ← readEscape rest
    return c :: (← readChars fuel rest)
  | fuel + 1, c :: rest => do
    if c.toNat < 0x20 then none
    return c :: (← readChars fuel rest)
  | 0, _ => none

def readString (s : List Char) : Option (String × List Char) := do
  let (written, rest) ← splitQuote s
  return (String.ofList (← readChars written.length written), rest)

def depthLimit : Nat := 128

mutual

def readValue : Nat → Nat → List Char → Option (Json × List Char)
  | 0, _, _ => none
  | fuel + 1, depth, s =>
    match skipBlanks s with
    | 'n' :: 'u' :: 'l' :: 'l' :: rest => some (.null, rest)
    | 't' :: 'r' :: 'u' :: 'e' :: rest => some (.bool true, rest)
    | 'f' :: 'a' :: 'l' :: 's' :: 'e' :: rest => some (.bool false, rest)
    | '"' :: rest => (readString rest).map fun (s, rest) => (.text s, rest)
    | '[' :: rest =>
      if depth ≤ 1 then none
      else match skipBlanks rest with
        | ']' :: rest => some (.list [], rest)
        | s => (readItems fuel (depth - 1) s).map fun (items, rest) => (.list items, rest)
    | '\x7b' :: rest =>
      if depth ≤ 1 then none
      else match skipBlanks rest with
        | '\x7d' :: rest => some (.object [], rest)
        | s => (readFields fuel (depth - 1) [] s).map fun (fields, rest) => (.object fields, rest)
    | s => readNumeral s

def readItems : Nat → Nat → List Char → Option (List Json × List Char)
  | 0, _, _ => none
  | fuel + 1, depth, s => do
    let (item, rest) ← readValue fuel depth s
    match skipBlanks rest with
    | ',' :: rest =>
      let (items, rest) ← readItems fuel depth rest
      return (item :: items, rest)
    | ']' :: rest => return ([item], rest)
    | _ => none

def readFields : Nat → Nat → List (String × Json) → List Char →
    Option (List (String × Json) × List Char)
  | 0, _, _, _ => none
  | fuel + 1, depth, before, s => do
    match skipBlanks s with
    | '"' :: rest =>
      let (key, rest) ← readString rest
      match skipBlanks rest with
      | ':' :: rest =>
        let (j, rest) ← readValue fuel depth rest
        let fields := put before key j
        match skipBlanks rest with
        | ',' :: rest => readFields fuel depth fields rest
        | '\x7d' :: rest => return (fields, rest)
        | _ => none
      | _ => none
    | _ => none

end

/-- The value at the start of a text, nested less deeply than the limit, and what follows
the blanks behind it. -/
def readStart? (limit : Nat) (text : String) : Option (Json × List Char) :=
  let s := text.toList
  (readValue (2 * s.length + 4) limit s).map fun (j, rest) => (j, skipBlanks rest)

def parseWithin? (limit : Nat) (text : String) : Option Json := do
  let (j, rest) ← readStart? limit text
  if rest.isEmpty then return j else none

def parse? (text : String) : Option Json := parseWithin? depthLimit text

/-- The value that is read back from its own text; the last digits of a double may differ. -/
def reread (j : Json) : Json := (parse? j.render).getD j

end Json
end DualMode
