import DualMode.Proofs.Target
import Mathlib.Data.List.Forall2

/-! What can stand in for what. An attribute that exposes a column through any number of others
answers like the column itself, and a custom comparator that overrides nothing answers like the
builtin one. -/

namespace DualMode

variable {υ : Type} {C : Callbacks}

/-- Operators and assigned values are left to the wrapped expression. -/
structure Overrides.Plain (o : Overrides) : Prop where
  element : o.element = none
  apply : o.apply = Operator.apply
  applyRight : o.applyRight = fun op l r => op.apply l [r]
  assign : o.assign = none

theorem Overrides.plain_default : ({} : Overrides).Plain := ⟨rfl, rfl, rfl, rfl⟩

/-- An operator on a clause, when nothing is overridden. -/
def Clause.operate (limit : Nat) (k : Clause υ) (op : Operator) (others : List (Clause υ)) :
    Except Fault Node :=
  match k.adapt limit with
  | .error f => .error f
  | .ok l =>
    match adaptAll limit others with
    | .error f => .error f
    | .ok rs => op.apply l rs

def Clause.reverse (limit : Nat) (k : Clause υ) (op : Operator) (other : Clause υ) :
    Except Fault Node :=
  match other.adapt limit with
  | .error f => .error f
  | .ok l =>
    match k.adapt limit with
    | .error f => .error f
    | .ok r => op.apply l [r]

namespace Clause

variable {limit : Nat} {k l : Clause υ}

theorem operate_congr (same : k.adapt limit = l.adapt limit) (op : Operator)
    (others : List (Clause υ)) : k.operate limit op others = l.operate limit op others := by
  unfold operate
  rw [same]

theorem reverse_congr (same : k.adapt limit = l.adapt limit) (op : Operator) (other : Clause υ) :
    k.reverse limit op other = l.reverse limit op other := by
  unfold reverse
  rw [same]

theorem adaptAll_congr {xs ys : List (Clause υ)}
    (same : List.Forall₂ (fun x y => x.adapt limit = y.adapt limit) xs ys) :
    adaptAll limit xs = adaptAll limit ys := by
  induction same with
  | nil => rfl
  | cons first _ ih =>
    unfold adaptAll
    rw [first, ih]

end Clause

namespace Comparator

/-- The builtin comparator, with or without an update rule, or one that overrides nothing that
decides operators and assignments. -/
def Plain : Comparator υ → Prop
  | builtin .. => True
  | custom _ o => o.Plain

variable {limit : Nat} {c : Comparator υ}

theorem Plain.clauseElement_eq (plain : c.Plain) (limit : Nat) :
    c.clauseElement limit = c.expression.adapt limit := by
  refine clauseElement_of_none ?_ limit
  cases c with
  | builtin owner e hybrid rule => rfl
  | custom e o => exact Overrides.Plain.element plain

theorem Plain.applies_eq (plain : c.Plain) : c.applies = Operator.apply := by
  cases c with
  | builtin owner e hybrid rule => rfl
  | custom e o => exact Overrides.Plain.apply plain

theorem Plain.appliesRight_eq (plain : c.Plain) :
    c.appliesRight = fun op l r => op.apply l [r] := by
  cases c with
  | builtin owner e hybrid rule => rfl
  | custom e o => exact Overrides.Plain.applyRight plain

theorem Plain.operate_eq (plain : c.Plain) (op : Operator) (others : List (Clause υ)) :
    c.operate limit op others = c.expression.operate limit op others := by
  unfold operate
  rw [plain.clauseElement_eq, plain.applies_eq]
  rfl

theorem Plain.reverse_eq (plain : c.Plain) (op : Operator) (other : Clause υ) :
    c.reverse limit op other = c.expression.reverse limit op other := by
  unfold reverse
  rw [plain.clauseElement_eq, plain.appliesRight_eq]
  rfl

variable {b : Behaviour C} {value : Operand} {c : Comparator C.Update}

/-- A wrapped column takes the value before any update rule does. -/
theorem Plain.assign_of_column {k : Column} (plain : c.Plain) (wraps : c.expression = .column k) :
    c.assign limit b.update value = pure (.ok [(k, value)]) := by
  cases c with
  | builtin owner e hybrid rule =>
    cases wraps
    rfl
  | custom e o =>
    have default : o.assign = none := Overrides.Plain.assign plain
    cases wraps
    simp only [assign, default]

theorem Plain.assign_of_attr {inner : Attribute C.Update} (plain : c.Plain)
    (wraps : c.expression = .attr inner) :
    c.assign limit b.update value = inner.assign limit b.update value := by
  cases c with
  | builtin owner e hybrid rule =>
    cases wraps
    rfl
  | custom e o =>
    have default : o.assign = none := Overrides.Plain.assign plain
    cases wraps
    simp only [assign, default]

end Comparator

namespace Queryable

/-- Filters, projections and assignments cannot tell the two apart. -/
structure Alike (limit : Nat) (b : Behaviour C) (x y : Queryable C.Update) : Prop where
  clauseElement : x.clauseElement limit = y.clauseElement limit
  operate : ∀ op others, x.operate limit op others = y.operate limit op others
  reverse : ∀ op other, x.reverse limit op other = y.reverse limit op other
  assign : ∀ value, x.assign limit b.update value = y.assign limit b.update value

theorem operate_congr {limit : Nat} {xs ys : List (Clause υ)}
    (same : List.Forall₂ (fun x y => x.adapt limit = y.adapt limit) xs ys) (q : Queryable υ)
    (op : Operator) : q.operate limit op xs = q.operate limit op ys := by
  have adapted := Clause.adaptAll_congr same
  cases q with
  | column c =>
    unfold operate
    rw [adapted]
  | attr a =>
    unfold operate Comparator.operate
    rw [adapted]

end Queryable

/-- The attribute wraps the column, or an attribute that exposes it, and does no more than that.
Update rules on the way are allowed and have no say. -/
inductive Attribute.Exposes (c : Column) : Attribute υ → Prop
  | column {a : Attribute υ} (plain : a.comparator.Plain) (wraps : a.expression = .column c) :
      a.Exposes c
  | attr {a inner : Attribute υ} (plain : a.comparator.Plain) (wraps : a.expression = .attr inner)
      (within : inner.Exposes c) : a.Exposes c

/-- Some operands that are the column are the attribute instead. -/
def Clause.Exchanged (c : Column) (a : Attribute υ) (x y : Clause υ) : Prop :=
  x = y ∨ x = .column c ∧ y = .attr a

namespace Attribute

variable {limit : Nat} {c : Column} {a : Attribute υ}

theorem Exposes.plain (exposes : a.Exposes c) : a.comparator.Plain := by
  cases exposes with
  | column plain wraps => exact plain
  | attr plain wraps within => exact plain

theorem Exposes.clauseElement_eq (exposes : a.Exposes c) (limit : Nat) :
    a.clauseElement limit = .ok c.node := by
  induction exposes with
  | @column a plain wraps =>
    rw [Attribute.clauseElement_eq, plain.clauseElement_eq]
    exact congrArg (Clause.adapt limit) wraps
  | @attr a inner plain wraps within ih =>
    rw [Attribute.clauseElement_eq, plain.clauseElement_eq, ← ih]
    exact congrArg (Clause.adapt limit) wraps

/-- What is left to the wrapped expression is done by the column. -/
theorem Exposes.adapt_expression (exposes : a.Exposes c) (limit : Nat) :
    a.expression.adapt limit = (Clause.column c : Clause υ).adapt limit := by
  rw [Attribute.expression, ← exposes.plain.clauseElement_eq, ← Attribute.clauseElement_eq,
    exposes.clauseElement_eq, Clause.adapt_column]

theorem Exposes.assign_eq {a : Attribute C.Update} (exposes : a.Exposes c) (limit : Nat)
    (b : Behaviour C) (value : Operand) :
    a.assign limit b.update value = pure (.ok [(c, value)]) := by
  induction exposes with
  | @column a plain wraps =>
    rw [Attribute.assign_eq, plain.assign_of_column wraps, map_pure, settle_ok]
  | @attr a inner plain wraps within ih =>
    rw [Attribute.assign_eq, plain.assign_of_attr wraps, ih, map_pure, settle_ok]

/-- An attribute that exposes a column, through however many others, is as good as the column, on
both sides of operators, as an operand of others and as a target of assignments. -/
theorem exposes_alike (limit : Nat) (b : Behaviour C) {a : Attribute C.Update}
    (exposes : a.Exposes c) :
    (Queryable.attr a).Alike limit b (.column c) ∧
      (∀ value, (Queryable.attr a).assign limit b.update value = pure (.ok [(c, value)])) ∧
      ∀ (q : Queryable C.Update) (op : Operator) (xs ys : List (Clause C.Update)),
        List.Forall₂ (Clause.Exchanged c a) xs ys →
          q.operate limit op xs = q.operate limit op ys := by
  refine ⟨⟨exposes.clauseElement_eq limit, ?_, ?_, exposes.assign_eq limit b⟩,
    exposes.assign_eq limit b, ?_⟩
  · intro op others
    exact (exposes.plain.operate_eq op others).trans
      (Clause.operate_congr (exposes.adapt_expression limit) op others)
  · intro op other
    exact (exposes.plain.reverse_eq op other).trans
      (Clause.reverse_congr (exposes.adapt_expression limit) op other)
  · intro q op xs ys exchanged
    refine Queryable.operate_congr (exchanged.imp ?_) q op
    rintro x y (rfl | ⟨rfl, rfl⟩)
    · rfl
    · rw [Clause.adapt_column, Clause.adapt_attr, exposes.clauseElement_eq]

/-- A column under its own name, by a hybrid whose update rule would refuse null. -/
def shown : Attribute (Operand → Assigned) :=
  { Scene.bare "shown" 4 with update := some Scene.strict }.make {} (Scene.order.declare ⟨6⟩) ⟨7⟩
    (.clause (.column ⟨"order", "net"⟩))

/-- The same column twice removed, the last time by a custom comparator. -/
def shownAgain : Attribute (Operand → Assigned) :=
  (Scene.bare "again" 8).make {} (Scene.order.declare ⟨6⟩) ⟨11⟩
    (.comparator (.custom (.attr shown) {}))

def shownThrice : Attribute (Operand → Assigned) :=
  { Scene.bare "thrice" 12 with update := some Scene.strict }.make {} (Scene.sale.declare ⟨10⟩)
    ⟨15⟩ (.clause (.attr shownAgain))

theorem shownThrice_exposes : shownThrice.Exposes ⟨"order", "net"⟩ :=
  .attr trivial rfl (.attr Overrides.plain_default rfl (.column trivial rfl))

/-- Null goes to the column, and a list of operands may hold either of the two. -/
theorem exposes_alike_shownThrice : shownThrice.Exposes ⟨"order", "net"⟩ ∧
    (Queryable.attr shownThrice).assign 16 Scene.constantly.update (.literal .null) =
      pure (.ok [(⟨"order", "net"⟩, .literal .null)]) ∧
    (Queryable.column ⟨"order", "gross"⟩).operate 16 .isIn
        [.literal (.int 5), .column ⟨"order", "net"⟩, .attr shownThrice] =
      (Queryable.column ⟨"order", "gross"⟩).operate 16 .isIn
        [.literal (.int 5), .attr shownThrice, .attr shownThrice] := by
  obtain ⟨-, assigned, exchanged⟩ := exposes_alike 16 Scene.constantly shownThrice_exposes
  refine ⟨shownThrice_exposes, assigned _, exchanged _ _ _ _ ?_⟩
  exact .cons (.inl rfl) (.cons (.inr ⟨rfl, rfl⟩) (.cons (.inl rfl) .nil))

/-- A clause as an attribute of an entity, by the builtin comparator without an update rule. -/
def overBuiltin (id : AttributeId) (e : Entity) (key : String) (hybrid : Meta) (k : Clause υ) :
    Attribute υ := .mk id e none key hybrid (.builtin e k hybrid none)

def overCustom (id : AttributeId) (e : Entity) (key : String) (hybrid : Meta) (k : Clause υ) :
    Attribute υ := .mk id e none key hybrid (.custom k {})

theorem settle_congr (limit : Nat) (a a' : Attribute υ)
    (element : a.clauseElement limit = a'.clauseElement limit) (columns : a.columns = a'.columns)
    (path : a.path = a'.path) (value : Operand) (r : Assigned) :
    a.settle limit value r = a'.settle limit value r := by
  unfold settle assignOwn
  rw [element, columns, path]

/-- To have looked among the columns already makes no difference. -/
theorem settle_assignIn (limit : Nat) (a : Attribute υ) (value : Operand) (name : String) :
    a.settle limit value (Column.assignIn a.columns (a.clauseElement limit) value
      (.ambiguousTarget name)) = a.assignOwn limit value := by
  cases element : a.clauseElement limit with
  | error f =>
    by_cases untargeted : Untargeted (.error f)
    · obtain ⟨t, ⟨⟩⟩ := untargeted
      rfl
    · rw [Column.assignIn, settle_of_targeted untargeted, assignOwn, element, Column.assignIn]
  | ok n =>
    unfold assignOwn
    rw [element]
    unfold Column.assignIn
    cases found : a.columns.find? (n.isColumn ·) with
    | some c => simp only [found, settle_ok]
    | none => simp only [settle, assignOwn, element, Column.assignIn, found]

theorem assign_overBuiltin (limit : Nat) (b : Behaviour C) (i j : AttributeId) (e : Entity)
    (key : String) (hybrid : Meta) (k : Clause C.Update) (value : Operand) :
    (overBuiltin i e key hybrid k).assign limit b.update value =
      (overCustom j e key hybrid k).assign limit b.update value := by
  have settles := settle_congr limit (overBuiltin i e key hybrid k) (overCustom j e key hybrid k)
    rfl rfl rfl value
  rw [assign_eq, assign_eq, funext settles]
  obtain ⟨c, rfl⟩ | ⟨inner, rfl⟩ | computed := k.column_or_attr_or_computed
  · rfl
  · rfl
  · show _ <$> (Comparator.builtin e k hybrid none).assign limit b.update value =
      _ <$> (Comparator.custom k {}).assign limit b.update value
    rw [Comparator.assign_builtin_computed computed,
      Comparator.assign_default_computed computed rfl, map_pure, map_pure, ← funext settles]
    exact congrArg pure (settle_assignIn limit (overBuiltin i e key hybrid k) value _)

/-- For every clause the two comparators are interchangeable: the builtin one looks among the
columns of its entity itself, for the other one the attribute does so. -/
theorem builtin_alike_custom (limit : Nat) (b : Behaviour C) (i j : AttributeId) (e : Entity)
    (key : String) (hybrid : Meta) (k : Clause C.Update) :
    (Queryable.attr (overBuiltin i e key hybrid k)).Alike limit b
        (.attr (overCustom j e key hybrid k)) ∧
      (overBuiltin i e key hybrid k).doc = (overCustom j e key hybrid k).doc ∧
      ∀ id on, (overBuiltin i e key hybrid k).rehome? id on = none ∧
        (overCustom j e key hybrid k).rehome? id on = none := by
  have builtin : (Comparator.builtin e k hybrid none).Plain := trivial
  have custom : (Comparator.custom k {}).Plain := Overrides.plain_default
  refine ⟨⟨rfl, ?_, ?_, ?_⟩, rfl, fun _ _ => ⟨rfl, rfl⟩⟩
  · intro op others
    exact (builtin.operate_eq op others).trans (custom.operate_eq op others).symm
  · intro op other
    exact (builtin.reverse_eq op other).trans (custom.reverse_eq op other).symm
  · exact assign_overBuiltin limit b i j e key hybrid k

end Attribute
end DualMode
