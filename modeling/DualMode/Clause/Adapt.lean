import DualMode.Clause.Basic

/-! Reducing a clause to an expression. A source must yield an expression, a column or an
attribute in the end; plain values are refused there, and so is a chain of sources longer
than the limit. The expression wrapped by an attribute starts with the whole limit again. -/

namespace DualMode

variable {υ : Type}

def Fault.nestedTooDeep (label : String) : Fault :=
  .notExpression (label ++ " (clause element nesting too deep)")

def Fault.literalFrom (l : Literal) (label : String) : Fault :=
  .notExpression (l.typeName ++ " literal from " ++ label)

/-- An endless source, with `remaining` sources still to be followed. -/
def Source.adaptEndless : Nat → (Nat → String) → Except Fault Node
  | 0, label => .error (.nestedTooDeep (label 0))
  | left + 1, label => adaptEndless left fun n => label (n + 1)

mutual

/-- Reduction with `remaining` sources still to be followed. -/
def Clause.adaptWithin (limit remaining : Nat) : Clause υ → Except Fault Node
  | .node e => .ok e
  | .literal l => .ok l.node
  | .column c => .ok c.node
  | .attr a => a.clauseElement limit
  | .extract s => s.adaptWithin limit remaining

def Source.adaptWithin (limit remaining : Nat) : Source υ → Except Fault Node
  | .endless label => Source.adaptEndless remaining label
  | .yields label clause =>
    match remaining with
    | 0 => .error (.nestedTooDeep label)
    | left + 1 =>
      match clause.literal? with
      | some l => .error (.literalFrom l label)
      | none => clause.adaptWithin limit left

def Comparator.clauseElement (limit : Nat) : Comparator υ → Except Fault Node
  | .builtin _ e _ _ => e.adaptWithin limit limit
  | .custom e o => o.element.getD (e.adaptWithin limit limit)

def Attribute.clauseElement (limit : Nat) : Attribute υ → Except Fault Node
  | .mk _ _ _ _ _ c => c.clauseElement limit

end

namespace Clause

def adapt (limit : Nat) (c : Clause υ) : Except Fault Node := c.adaptWithin limit limit

/-- The first clause that does not adapt decides. -/
def adaptAll (limit : Nat) : List (Clause υ) → Except Fault (List Node)
  | [] => .ok []
  | c :: rest =>
    match c.adapt limit with
    | .error f => .error f
    | .ok e =>
      match adaptAll limit rest with
      | .error f => .error f
      | .ok es => .ok (e :: es)

/-- The reduction of a clause, and the sources that it asks on the way to an expression, in order.
Where that is an attribute, what the attribute asks in turn is not counted. -/
def follow (limit : Nat) : Nat → Clause υ → Except Fault Node × List (Source υ)
  | 0, extract s => (.error (.nestedTooDeep s.label), [])
  | left + 1, extract s =>
    match s.next.literal? with
    | some l => (.error (.literalFrom l s.label), [s])
    | none =>
      let later := follow limit left s.next
      (later.1, s :: later.2)
  | remaining, c => (c.adaptWithin limit remaining, [])

def asked (limit : Nat) (c : Clause υ) : List (Source υ) := (c.follow limit limit).2

theorem adaptWithin_zero (limit : Nat) (s : Source υ) :
    (extract s).adaptWithin limit 0 = .error (.nestedTooDeep s.label) := by
  cases s with
  | yields label c => rfl
  | endless label => rfl

/-- A source that is asked gives its clause, and no plain value. -/
theorem adaptWithin_succ (limit left : Nat) (s : Source υ) :
    (extract s).adaptWithin limit (left + 1) =
      match s.next.literal? with
      | some l => .error (.literalFrom l s.label)
      | none => s.next.adaptWithin limit left := by
  cases s with
  | yields label c => rfl
  | endless label => rfl

theorem follow_fst (limit remaining : Nat) (c : Clause υ) :
    (c.follow limit remaining).1 = c.adaptWithin limit remaining := by
  induction remaining generalizing c with
  | zero =>
    cases c with
    | extract s => exact (adaptWithin_zero limit s).symm
    | _ => rfl
  | succ left ih =>
    cases c with
    | extract s =>
      rw [adaptWithin_succ, follow]
      cases s.next.literal? with
      | some l => rfl
      | none => exact ih s.next
    | _ => rfl

@[simp] theorem adapt_node (limit : Nat) (e : Node) : adapt limit (node e : Clause υ) = .ok e := rfl

@[simp] theorem adapt_literal (limit : Nat) (l : Literal) :
    adapt limit (literal l : Clause υ) = .ok l.node := rfl

@[simp] theorem adapt_column (limit : Nat) (c : Column) :
    adapt limit (column c : Clause υ) = .ok c.node := rfl

@[simp] theorem adapt_attr (limit : Nat) (a : Attribute υ) :
    adapt limit (attr a) = a.clauseElement limit := rfl

end Clause

@[simp] theorem Comparator.clauseElement_builtin (limit : Nat) (owner : Entity) (e : Clause υ)
    (hybrid : Meta) (rule : Option υ) :
    (builtin owner e hybrid rule).clauseElement limit = e.adapt limit := rfl

def Comparator.element? : Comparator υ → Option (Except Fault Node)
  | .builtin _ _ _ _ => none
  | .custom _ o => o.element

theorem Comparator.clauseElement_of_none {c : Comparator υ} (default : c.element? = none)
    (limit : Nat) : c.clauseElement limit = c.expression.adapt limit := by
  cases c with
  | builtin owner e hybrid rule => rfl
  | custom e o =>
    have plain : o.element = none := default
    rw [clauseElement, plain, Option.getD_none]
    rfl

theorem Comparator.clauseElement_of_some {c : Comparator υ} {r : Except Fault Node}
    (own : c.element? = some r) (limit : Nat) : c.clauseElement limit = r := by
  cases c with
  | builtin owner e hybrid rule => cases own
  | custom e o =>
    have held : o.element = some r := own
    rw [clauseElement, held, Option.getD_some]

theorem Attribute.clauseElement_eq (limit : Nat) (a : Attribute υ) :
    a.clauseElement limit = a.comparator.clauseElement limit := by
  cases a; rfl

end DualMode
