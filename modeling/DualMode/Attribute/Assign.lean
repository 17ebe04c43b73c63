import DualMode.Attribute.Operate
import DualMode.Clause.Inspect

/-! Bulk assignment to attributes: which columns take a value that is assigned to an
attribute. -/

namespace DualMode

variable {υ : Type} {m : Type → Type} [Monad m]

def Column.assignIn (columns : List Column) (element : Except Fault Node) (value : Operand)
    (otherwise : Fault) : Assigned :=
  match element with
  | .error f => .error f
  | .ok e =>
    match columns.find? (e.isColumn ·) with
    | some c => .ok [(c, value)]
    | none => .error otherwise

/-- The value goes to the owner's column that the attribute stands for. -/
def Attribute.assignOwn (limit : Nat) (a : Attribute υ) (value : Operand) : Assigned :=
  Column.assignIn a.columns (a.clauseElement limit) value (.ambiguousTarget a.path)

/-- What the comparator made of the value; where it found no target, the owner's columns are
tried. -/
def Attribute.settle (limit : Nat) (a : Attribute υ) (value : Operand) : Assigned → Assigned
  | .error (.ambiguousTarget _) => a.assignOwn limit value
  | r => r

@[simp] theorem Attribute.settle_ok (limit : Nat) (a : Attribute υ) (value : Operand)
    (as : List Assignment) : a.settle limit value (.ok as) = .ok as := rfl

mutual

/-- A wrapped column or attribute takes the value first, then the update rule, then the
owner's column that the expression is. -/
def Comparator.assign (limit : Nat) (update : υ → Entity → Operand → m Assigned)
    (value : Operand) : Comparator υ → m Assigned
  | .builtin _ (.column c) _ _ => pure (.ok [(c, value)])
  | .builtin _ (.attr a) _ _ => a.assign limit update value
  | .builtin owner _ _ (some rule) => update rule owner value
  | .builtin owner e hybrid none =>
    pure (Column.assignIn owner.columns (e.adapt limit) value
      (.ambiguousTarget (owner.name ++ "." ++ hybrid.name)))
  | .custom e o =>
    match o.assign with
    | some assigned => pure (assigned value)
    | none =>
      match e with
      | .column c => pure (.ok [(c, value)])
      | .attr a => a.assign limit update value
      | other => pure (.error (.ambiguousTarget other.inspect))

def Attribute.assign (limit : Nat) (update : υ → Entity → Operand → m Assigned)
    (value : Operand) : Attribute υ → m Assigned
  | .mk id owner aliasName key hybrid c =>
    (Attribute.mk id owner aliasName key hybrid c).settle limit value <$>
      c.assign limit update value

end

namespace Queryable

def assign (limit : Nat) (update : υ → Entity → Operand → m Assigned) (q : Queryable υ)
    (value : Operand) : m Assigned :=
  match q with
  | column c => pure (.ok [(c, value)])
  | attr a => a.assign limit update value

end Queryable
end DualMode
