import DualMode.Decimal.Reading

/-! Paths into trees of settings. The name of a topmost entry may spell one: names joined by
dots, with places of lists in brackets. -/

namespace DualMode

/-- One step down a tree. Places of lists are counted from the end when they are negative. -/
inductive PathStep
  | key (name : String) | place (i : Int)

structure Path where
  first : String
  rest : List PathStep := []

namespace Path

def isNameChar (c : Char) : Bool := c.isAlphanum || c == '_' || c == '-' || c == ' '

def isGap (c : Char) : Bool := c == ' ' || c == '\t'

def readPlace? (s : List Char) : Option (Int × List Char) := do
  let (negative, s) := match s.dropWhile isGap with
    | '-' :: rest => (true, rest)
    | s => (false, s)
  let ds := s.takeWhile Char.isDigit
  if ds.isEmpty then none
  let i : Int := if negative then -(Decimal.value ds : Int) else Decimal.value ds
  if i < Int64.minValue.toInt ∨ Int64.maxValue.toInt < i then none
  match (s.dropWhile Char.isDigit).dropWhile isGap with
  | ']' :: rest => return (i, rest)
  | _ => none

def readName? (s : List Char) : Option (String × List Char) :=
  let name := s.takeWhile isNameChar
  if name.isEmpty then none else some (String.ofList name, s.dropWhile isNameChar)

/-- The steps that a text spells, if it has no more characters than there is fuel. -/
def readSteps? : Nat → List Char → Option (List PathStep)
  | _, [] => some []
  | fuel + 1, '.' :: rest => do
    let (name, rest) ← readName? rest
    return .key name :: (← readSteps? fuel rest)
  | fuel + 1, '[' :: rest => do
    let (i, rest) ← readPlace? rest
    return .place i :: (← readSteps? fuel rest)
  | _, _ => none

def ofName? (name : String) : Option Path := do
  let (first, rest) ← readName? name.toList
  return ⟨first, ← readSteps? rest.length rest⟩

/-- The path that a name spells; a name of any other shape is taken as it is. -/
def ofName (name : String) : Path := (ofName? name).getD ⟨name, []⟩

end Path
end DualMode
