import DualMode.Proofs.Formula

/-! Where evaluation on operands folds. Subtrees of plain values are carried out in memory, however
deep they are, and are bound as one value each. All that is left of a tree stays as it was written:
its other leaves, and one node for each operator that has one of them below it. -/

namespace DualMode

/-- With a side that is not known in memory, an operator builds its node. -/
theorem Operand.binary_of_literal?_eq_none {x y : Operand}
    (unknown : x.literal? = none ∨ y.literal? = none) (op : BinaryOp) :
    binary op x y = node (op.apply x.toNode y.toNode) := by
  cases x with
  | column c => rfl
  | node e => rfl
  | literal l =>
    cases y with
    | column c => rfl
    | node e => rfl
    | literal r => simp [literal?] at unknown

theorem Operand.literal?_binary (op : BinaryOp) (x y : Operand) :
    (binary op x y).literal? =
      match x.literal?, y.literal? with
      | some l, some r => some ((l.combine op r).getD .null)
      | _, _ => none := by
  cases x <;> cases y <;> rfl

theorem Operand.literal?_eq_some_iff {o : Operand} {l : Literal} :
    o.literal? = some l ↔ o = literal l := by
  cases o <;> simp [literal?]

namespace Formula

variable {α : Type}

def leaves : Formula α → List α
  | leaf a => [a]
  | join _ l r => l.leaves ++ r.leaves

/-- The same tree on plain values, if it has no other leaves. -/
def plain? : Formula Operand → Option (Formula Literal)
  | leaf o => o.literal?.map leaf
  | join op l r =>
    match l.plain?, r.plain? with
    | some a, some b => some (join op a b)
    | _, _ => none

/-- From the root down, the first subtrees of plain values become one leaf each, which binds their
value. Every other leaf becomes its own node. -/
def collapse : Formula Operand → Formula Node
  | leaf o => leaf o.toNode
  | join op l r =>
    match (join op l r).plain? with
    | some p => leaf p.result.node
    | none => join op l.collapse r.collapse

def node : Formula Node → Node
  | leaf e => e
  | join op l r => .join (.op op) l.node r.node

theorem plain?_join_eq_none {op : BinaryOp} {l r : Formula Operand} :
    (join op l r).plain? = none ↔ l.plain? = none ∨ r.plain? = none := by
  rw [plain?]
  cases l.plain? with
  | none => simp
  | some a => cases r.plain? <;> simp

theorem plain?_map (p : Formula Literal) : (p.map Operand.literal).plain? = some p := by
  induction p with
  | leaf l => rfl
  | join op l r ihl ihr => rw [map, plain?, ihl, ihr]

theorem plain?_isSome_iff {f : Formula Operand} :
    f.plain?.isSome ↔ ∀ o ∈ f.leaves, ∃ l, o = .literal l := by
  induction f with
  | leaf o => cases o <;> simp [plain?, leaves, Operand.literal?]
  | join op l r ihl ihr =>
    simp only [leaves, List.forall_mem_append, ← ihl, ← ihr]
    rw [plain?]
    cases l.plain? with
    | none => simp
    | some a => cases r.plain? <;> simp

theorem literal?_operand (f : Formula Operand) : f.operand.literal? = f.plain?.map result := by
  induction f with
  | leaf o => cases o <;> rfl
  | join op l r ihl ihr =>
    rw [operand, Operand.literal?_binary, ihl, ihr, plain?]
    cases l.plain? with
    | none => rfl
    | some a => cases r.plain? <;> rfl

theorem operand_join {op : BinaryOp} {l r : Formula Operand}
    (symbolic : (join op l r).plain? = none) :
    (join op l r).operand = .node (op.apply l.operand.toNode r.operand.toNode) := by
  refine Operand.binary_of_literal?_eq_none ?_ op
  rw [literal?_operand, literal?_operand, Option.map_eq_none_iff, Option.map_eq_none_iff]
  exact plain?_join_eq_none.mp symbolic

/-- Before and after the values are bound, a tree has the same node. -/
theorem toNode_operand (f : Formula Operand) : f.operand.toNode = f.collapse.node := by
  induction f with
  | leaf o => rfl
  | join op l r ihl ihr =>
    cases plain : (join op l r).plain? with
    | some p =>
      have value := literal?_operand (join op l r)
      rw [plain, Option.map_some, Operand.literal?_eq_some_iff] at value
      rw [value, collapse, plain]
      rfl
    | none =>
      rw [operand_join plain, ihl, ihr, collapse, plain]
      rfl

/-- A tree is a plain value exactly if all its leaves are, and then it is the value of the tree in
memory. A tree with an operator and another leaf is an expression: the node of the tree in which
only the largest subtrees of plain values were replaced. -/
theorem operand_folds (f : Formula Operand) :
    ((∃ l, f.operand = .literal l) ↔ ∀ o ∈ f.leaves, ∃ l, o = .literal l) ∧
    (∀ p : Formula Literal, f = p.map .literal → f.operand = .literal p.result) ∧
    ∀ op l r, f = join op l r → (∃ o ∈ f.leaves, ∀ v, o ≠ .literal v) →
      f.operand = .node f.collapse.node := by
  refine ⟨?_, ?_, ?_⟩
  · rw [← plain?_isSome_iff, Option.isSome_iff_exists]
    simp only [← Operand.literal?_eq_some_iff, literal?_operand, Option.map_eq_some_iff]
    exact ⟨fun ⟨_, p, plain, _⟩ => ⟨p, plain⟩, fun ⟨p, plain⟩ => ⟨_, p, plain, rfl⟩⟩
  · rintro p rfl
    rw [← Operand.literal?_eq_some_iff, literal?_operand, plain?_map, Option.map_some]
  · rintro op l r rfl ⟨o, below, unknown⟩
    have symbolic : (join op l r).plain? = none := by
      rw [← Option.not_isSome_iff_eq_none, plain?_isSome_iff]
      intro plain
      obtain ⟨v, rfl⟩ := plain o below
      exact unknown v rfl
    rw [← toNode_operand, operand_join symbolic]
    rfl

/-- Twice the price and five, against a sum that is lost. -/
def discounted : Formula Operand :=
  .join .eq
    (.join .mul (.leaf (.column ⟨"item", "price"⟩))
      (.join .add (.leaf (.literal (.int 2))) (.leaf (.literal (.int 3)))))
    (.join .add (.leaf (.literal (.int Int64.maxValue))) (.leaf (.literal (.int 1))))

/-- The two sums are bound as their values, five and null. -/
theorem operand_folds_discounted :
    (∃ o ∈ discounted.leaves, ∀ v, o ≠ .literal v) ∧
      discounted.operand = .node (.join (.op .eq)
        (.join (.op .mul) (.column (some "item") "price") (.int 5)) (.raw "NULL")) := by
  have symbolic : ∃ o ∈ discounted.leaves, ∀ v, o ≠ .literal v :=
    ⟨.column ⟨"item", "price"⟩, .head _, nofun⟩
  exact ⟨symbolic, (operand_folds discounted).2.2 _ _ _ rfl symbolic⟩

end Formula
end DualMode
