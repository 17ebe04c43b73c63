import DualMode.Operator

/-! The names of operators in scripts. -/

namespace DualMode

def BinaryOp.scriptName : BinaryOp → String
  | .eq => "eq"
  | .ne => "ne"
  | .lt => "lt"
  | .lte => "lte"
  | .gt => "gt"
  | .gte => "gte"
  | .add => "add"
  | .sub => "sub"
  | .mul => "mul"
  | .div => "div"
  | .mod => "mod"
  | .like => "like"
  | .notLike => "not_like"
  | .concat => "concat"
  | .and => "and"
  | .or => "or"

def BinaryOp.ofScriptName? (name : String) : Option BinaryOp :=
  BinaryOp.all.find? (·.scriptName == name)

def Operator.scriptName : Operator → String
  | .binary op => op.scriptName
  | .not => "not"
  | .isNull => "is_null"
  | .isNotNull => "is_not_null"
  | .between => "between"
  | .notBetween => "not_between"
  | .isIn => "in"
  | .notIn => "not_in"

def Operator.ofScriptName? (name : String) : Option Operator :=
  (BinaryOp.ofScriptName? name).map Operator.binary <|>
    Operator.others.find? (·.scriptName == name)

def Operator.ofHelperName? : String → Option Operator
  | "equals" => some (.binary .eq)
  | "not_equals" => some (.binary .ne)
  | "lt" => some (.binary .lt)
  | "lte" => some (.binary .lte)
  | "gt" => some (.binary .gt)
  | "gte" => some (.binary .gte)
  | "like" => some (.binary .like)
  | "plus" => some (.binary .add)
  | "minus" => some (.binary .sub)
  | "is_null" => some .isNull
  | "is_not_null" => some .isNotNull
  | "between" => some .between
  | "is_in" => some .isIn
  | _ => none

end DualMode
