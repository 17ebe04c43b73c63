/-! The operators that computed attributes are combined with. -/

namespace DualMode

/-- Operators that always take one operand on each side. -/
inductive BinaryOp
  | eq | ne | lt | lte | gt | gte
  | add | sub | mul | div | mod
  | like | notLike | concat | and | or
  deriving DecidableEq

namespace BinaryOp

def all : List BinaryOp :=
  [eq, ne, lt, lte, gt, gte, add, sub, mul, div, mod, like, notLike, concat, and, or]

def symbol : BinaryOp → String
  | eq => "="
  | ne => "<>"
  | lt => "<"
  | lte => "<="
  | gt => ">"
  | gte => ">="
  | add => "+"
  | sub => "-"
  | mul => "*"
  | div => "/"
  | mod => "%"
  | like => "LIKE"
  | notLike => "NOT LIKE"
  | concat => "||"
  | and => "AND"
  | or => "OR"

def verdict? (op : BinaryOp) (o : Ordering) : Option Bool :=
  match op with
  | eq => some (o == .eq)
  | ne => some (o != .eq)
  | lt => some (o == .lt)
  | lte => some (o != .gt)
  | gt => some (o == .gt)
  | gte => some (o != .lt)
  | _ => none

end BinaryOp

inductive Operator
  | binary (op : BinaryOp)
  | not | isNull | isNotNull | between | notBetween | isIn | notIn
  deriving DecidableEq

namespace Operator

def others : List Operator := [not, isNull, isNotNull, between, notBetween, isIn, notIn]

def text : Operator → String
  | binary op => op.symbol
  | not => "NOT"
  | isNull => "IS NULL"
  | isNotNull => "IS NOT NULL"
  | between => "BETWEEN"
  | notBetween => "NOT BETWEEN"
  | isIn => "IN"
  | notIn => "NOT IN"

/-- The number of right-hand operands asked for; membership takes that many or more. -/
def arity : Operator → Nat
  | binary _ => 1
  | not => 0
  | isNull => 0
  | isNotNull => 0
  | between => 2
  | notBetween => 2
  | isIn => 1
  | notIn => 1

end Operator
end DualMode
