import DualMode.Node.Basic

/-! The SQL text of expression trees. A side is put in parentheses unless its own operator
binds more tightly than the one around it. -/

namespace DualMode
namespace Sql

def escapeChar (c : Char) : List Char :=
  if c = '\x08' then ['\\', 'b']
  else if c = '\x0c' then ['\\', 'f']
  else if c = '\n' then ['\\', 'n']
  else if c = '\r' then ['\\', 'r']
  else if c = '\t' then ['\\', 't']
  else if c = '\\' then ['\\', '\\']
  else if c = '\'' then ['\\', '\'']
  else if c = '\x00' then ['\\', '0']
  else if c.toNat < 0x20 ∨ c.toNat = 0x7f then
    ['\\', Decimal.digit (c.toNat / 64), Decimal.digit (c.toNat / 8 % 8), Decimal.digit (c.toNat % 8)]
  else [c]

/-- A character literal; escapes are announced by an `E` in front. -/
def quoteText (s : String) : String :=
  let body := s.toList.flatMap escapeChar
  let quoted := String.ofList ('\'' :: (body ++ ['\'']))
  if body = s.toList then quoted else "E" ++ quoted

/-- A name in double quotes; those within it are written twice. -/
def quoteName (s : String) : String :=
  String.ofList ('"' :: (s.toList.flatMap (fun c => if c = '"' then ['"', '"'] else [c]) ++ ['"']))

end Sql

namespace Connective

def symbol : Connective → String
  | op o => o.symbol
  | is => "IS"
  | isNot => "IS NOT"
  | isIn => "IN"
  | notIn => "NOT IN"
  | between => "BETWEEN"
  | notBetween => "NOT BETWEEN"

def isComparison : Connective → Bool
  | op .eq | op .ne | op .lt | op .lte | op .gt | op .gte => true
  | _ => false

def isArithmetic : Connective → Bool
  | op .add | op .sub | op .mul | op .div | op .mod => true
  | _ => false

def isRange : Connective → Bool
  | between | notBetween => true
  | _ => false

def isMembership : Connective → Bool
  | isIn | notIn => true
  | _ => false

def isPattern : Connective → Bool
  | op .like | op .notLike => true
  | _ => false

def isNullTest : Connective → Bool
  | is | isNot => true
  | _ => false

def isLogical : Connective → Bool
  | op .and | op .or => true
  | _ => false

/-- A chain of this operator to the left needs no parentheses. -/
def isChained : Connective → Bool
  | op .and | op .or | op .add | op .sub | op .mul | op .mod => true
  | _ => false

end Connective

/-- What stands around a node: an operator with two sides, or a negation. -/
inductive Surrounding
  | join (c : Connective) | not

namespace Surrounding

def isLogical : Surrounding → Bool
  | join c => c.isLogical
  | not => true

/-- Arithmetic needs no parentheses inside these. -/
def loosensArithmetic : Surrounding → Bool
  | join c => c.isComparison || c.isRange || c.isMembership || c.isPattern || c.isLogical
  | not => true

end Surrounding

namespace Node

def isBareIn (outer : Surrounding) : Node → Bool
  | raw _ => false
  | not _ => false
  | join c _ _ =>
    if c.isArithmetic then outer.loosensArithmetic
    else if c.isComparison || c.isMembership || c.isPattern || c.isNullTest then outer.isLogical
    else false
  | _ => true

def isJoin (c : Connective) : Node → Bool
  | join d _ _ => d == c
  | _ => false

def bareOnLeft (c : Connective) (l : Node) : Bool :=
  l.isBareIn (.join c) || (c.isChained && l.isJoin c)

def bareOnRight (c : Connective) (r : Node) : Bool :=
  r.isBareIn (.join c) || (c.isRange && r.isJoin (.op .and))

def parenthesized (bare : Bool) (s : String) : String := if bare then s else "(" ++ s ++ ")"

mutual

def render : Node → String
  | column (some table) name => Sql.quoteName table ++ "." ++ Sql.quoteName name
  | column none name => Sql.quoteName name
  | bool b => if b then "TRUE" else "FALSE"
  | int i => Decimal.intText i.toInt
  | float x => Literal.plainLayout.write x
  | text s => Sql.quoteText s
  | raw sql => sql
  | null => "NULL"
  | tuple items => "(" ++ renderItems items ++ ")"
  | not e => "NOT " ++ parenthesized (e.isBareIn .not) (render e)
  | lower e => "LOWER(" ++ render e ++ ")"
  | join c l r =>
    parenthesized (l.bareOnLeft c) (render l) ++ " " ++ c.symbol ++ " " ++
      parenthesized (r.bareOnRight c) (render r)

def renderItems : List Node → String
  | [] => ""
  | [e] => render e
  | e :: rest => render e ++ ", " ++ renderItems rest

end

def select (e : Node) : String := "SELECT " ++ e.render

end Node
end DualMode
