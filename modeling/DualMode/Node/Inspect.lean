import DualMode.Node.Basic

/-! Expression trees in constructor form, as error texts show them. -/

namespace DualMode

def BinaryOp.label : BinaryOp → String
  | .eq => "Equal"
  | .ne => "NotEqual"
  | .lt => "SmallerThan"
  | .lte => "SmallerThanOrEqual"
  | .gt => "GreaterThan"
  | .gte => "GreaterThanOrEqual"
  | .add => "Add"
  | .sub => "Sub"
  | .mul => "Mul"
  | .div => "Div"
  | .mod => "Mod"
  | .like => "Like"
  | .notLike => "NotLike"
  | .concat => "Custom(\"||\")"
  | .and => "And"
  | .or => "Or"

def Connective.label : Connective → String
  | op o => o.label
  | is => "Is"
  | isNot => "IsNot"
  | isIn => "In"
  | notIn => "NotIn"
  | between => "Between"
  | notBetween => "NotBetween"

namespace Node

def inspectName (s : String) : String := "DynIden(" ++ Text.quoted s ++ ")"

mutual

def inspect : Node → String
  | column (some table) name =>
    "Column(Column(ColumnName(Some(TableName(None, " ++ inspectName table ++ ")), " ++
      inspectName name ++ ")))"
  | column none name => "Column(Column(ColumnName(None, " ++ inspectName name ++ ")))"
  | bool b => "Value(Bool(Some(" ++ (if b then "true" else "false") ++ ")))"
  | int i => "Value(BigInt(Some(" ++ Decimal.intText i.toInt ++ ")))"
  | float x => "Value(Double(Some(" ++ Literal.sourceLayout.write x ++ ")))"
  | text s => "Value(String(Some(" ++ Text.quoted s ++ ")))"
  | raw sql => "Custom(" ++ Text.quoted sql ++ ")"
  | null => "Keyword(Null)"
  | tuple items => "Tuple([" ++ inspectItems items ++ "])"
  | not e => "Unary(Not, " ++ inspect e ++ ")"
  | lower e =>
    "FunctionCall(FunctionCall \x7b func: Lower, args: [" ++ inspect e ++
      "], mods: [FuncArgMod \x7b distinct: false \x7d], filter: None \x7d)"
  | join c l r => "Binary(" ++ inspect l ++ ", " ++ c.label ++ ", " ++ inspect r ++ ")"

def inspectItems : List Node → String
  | [] => ""
  | [e] => inspect e
  | e :: rest => inspect e ++ ", " ++ inspectItems rest

end

end Node
end DualMode
