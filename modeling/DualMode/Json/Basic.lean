import DualMode.Decimal.Layout

/-! JSON values and their text. Whole numbers and doubles are kept apart. -/

namespace DualMode

inductive Json
  | null | bool (b : Bool) | int (n : Int) | float (x : Float) | text (s : String)
  | list (items : List Json) | object (fields : List (String × Json))
  deriving Inhabited

namespace Json

/-- Whole doubles end in `.0`; exponents outside `-5 … 15` are written, with their sign. -/
def numberLayout : Decimal.Layout :=
  { tie := .even, positional := some (-5, 15), pointZero := true, plus := true }

/-- A double in JSON, which has no numeral for infinities. -/
def floatText (x : Float) : String :=
  match Binary64.ofFloat x with
  | .finite _ _ _ => numberLayout.write x
  | _ => "null"

def hexDigit (n : Nat) : Char := Nat.digitChar (n % 16)

def escapeChar (c : Char) : List Char :=
  if c = '"' then ['\\', '"']
  else if c = '\\' then ['\\', '\\']
  else if c = '\x08' then ['\\', 'b']
  else if c = '\x0c' then ['\\', 'f']
  else if c = '\n' then ['\\', 'n']
  else if c = '\r' then ['\\', 'r']
  else if c = '\t' then ['\\', 't']
  else if c.toNat < 0x20 then
    ['\\', 'u', '0', '0', hexDigit (c.toNat / 16), hexDigit c.toNat]
  else [c]

def stringText (s : String) : String :=
  String.ofList ('"' :: (s.toList.flatMap escapeChar ++ ['"']))

mutual

/-- A text with the text of the value behind it. -/
def writeAfter (before : String) : Json → String
  | .null => before ++ "null"
  | .bool b => before ++ (if b then "true" else "false")
  | .int n => before ++ Decimal.intText n
  | .float x => before ++ floatText x
  | .text s => before ++ stringText s
  | .list items => writeItems (before ++ "[") items ++ "]"
  | .object fields => writeFields (before ++ "\x7b") fields ++ "\x7d"

def writeItems (before : String) : List Json → String
  | [] => before
  | [j] => writeAfter before j
  | j :: rest => writeItems (writeAfter before j ++ ",") rest

def writeFields (before : String) : List (String × Json) → String
  | [] => before
  | [(k, j)] => writeAfter (before ++ stringText k ++ ":") j
  | (k, j) :: rest => writeFields (writeAfter (before ++ stringText k ++ ":") j ++ ",") rest

end

def render (j : Json) : String := writeAfter "" j

/-- A later field of the same name replaces the earlier one in place. -/
def put (fields : List (String × Json)) (key : String) (j : Json) : List (String × Json) :=
  if fields.any (·.1 == key) then fields.map fun f => if f.1 == key then (key, j) else f
  else fields ++ [(key, j)]

def field? (key : String) : Json → Option Json
  | .object fields => fields.lookup key
  | _ => none

end Json
end DualMode
