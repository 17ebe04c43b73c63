import DualMode.Proofs.Formula

/-! What becomes of a value that is lost. Null passes through every operator but the two
equalities, on either side and whatever stands on the other one, so it reaches the root unless an
equality is on the way. And it comes from nowhere else: known values that an operator has a result
for give a known value. -/

namespace DualMode

/-- The operators that take null for a value like any other. -/
def BinaryOp.IsEquality (op : BinaryOp) : Prop := op = eq ∨ op = ne

namespace Literal

theorem combineNull_of_not_isEquality {op : BinaryOp} (passes : ¬ op.IsEquality) (l r : Literal) :
    combineNull op l r = null := by
  obtain ⟨notEq, notNe⟩ := not_or.mp passes
  cases op with
  | eq => exact absurd rfl notEq
  | ne => exact absurd rfl notNe
  | _ => rfl

theorem combineNull_of_isEquality {op : BinaryOp} (equality : op.IsEquality) {l r : Literal}
    (lost : l = null ∨ r = null) :
    ∃ b, combineNull op l r = bool b ∧ (b = true ↔ (op = .eq ↔ l = r)) := by
  have both : (l.isNull && r.isNull) = true ↔ l = r := by
    obtain rfl | rfl := lost
    · cases r <;> simp [isNull]
    · cases l <;> simp [isNull]
  have one : (l.isNull != r.isNull) = true ↔ l ≠ r := by
    obtain rfl | rfl := lost
    · cases r <;> simp [isNull]
    · cases l <;> simp [isNull]
  obtain rfl | rfl := equality
  · exact ⟨_, rfl, by simp [both]⟩
  · exact ⟨_, rfl, by simp [one]⟩

theorem combine_of_null {l r : Literal} (lost : l = null ∨ r = null) (op : BinaryOp) :
    l.combine op r = some (combineNull op l r) := by
  obtain rfl | rfl := lost
  · exact combine_null_left op r
  · exact combine_null_right op l

theorem ofInt?_ne_null (n : Int) : ofInt? n ≠ some null := by
  unfold ofInt?
  split <;> simp

theorem ofVerdict?_ne_null (op : BinaryOp) (o : Ordering) : ofVerdict? op o ≠ some null := by
  unfold ofVerdict?
  cases op.verdict? o <;> simp

theorem combineInts_ne_null (op : BinaryOp) (a b : Int) : combineInts op a b ≠ some null := by
  cases op with
  | add => exact ofInt?_ne_null _
  | sub => exact ofInt?_ne_null _
  | mul => exact ofInt?_ne_null _
  | div =>
    by_cases lost : b = 0
    · simp [combineInts, lost]
    · simpa only [combineInts, if_neg lost] using ofInt?_ne_null (a.tdiv b)
  | mod =>
    by_cases lost : b = 0 ∨ (a = Int64.minValue.toInt ∧ b = -1)
    · simp only [combineInts, if_pos lost, ne_eq, reduceCtorEq, not_false_eq_true]
    · simpa only [combineInts, if_neg lost] using ofInt?_ne_null (a.tmod b)
  | _ => exact ofVerdict?_ne_null _ _

theorem combineFloats_ne_null (op : BinaryOp) (a b : Float) : combineFloats op a b ≠ some null := by
  have compared : (compareFloats? a b).bind (ofVerdict? op) ≠ some null := by
    cases compareFloats? a b with
    | none => simp
    | some o => exact ofVerdict?_ne_null op o
  cases op with
  | add => simp [combineFloats]
  | sub => simp [combineFloats]
  | mul => simp [combineFloats]
  | div =>
    unfold combineFloats
    split <;> simp
  | mod =>
    unfold combineFloats
    split <;> simp
  | _ => exact compared

theorem combineTexts_ne_null (op : BinaryOp) (a b : String) : combineTexts op a b ≠ some null := by
  cases op with
  | add => simp [combineTexts]
  | concat => simp [combineTexts]
  | like => simp [combineTexts]
  | notLike => simp [combineTexts]
  | _ => exact ofVerdict?_ne_null _ _

theorem combineBools_ne_null (op : BinaryOp) (a b : Bool) : combineBools op a b ≠ some null := by
  cases op <;> simp [combineBools]

/-- Two known values never give null: there is a known result, or none. -/
theorem combine_ne_null {l r : Literal} (left : l ≠ null) (right : r ≠ null) (op : BinaryOp) :
    l.combine op r ≠ some null := by
  cases l with
  | null => exact absurd rfl left
  | bool a =>
    cases r with
    | null => exact absurd rfl right
    | bool b => exact combineBools_ne_null op a b
    | _ => simp [combine]
  | int a =>
    cases r with
    | null => exact absurd rfl right
    | int b => exact combineInts_ne_null op _ _
    | float y => exact combineFloats_ne_null op _ y
    | _ => simp [combine]
  | float x =>
    cases r with
    | null => exact absurd rfl right
    | int b => exact combineFloats_ne_null op x _
    | float y => exact combineFloats_ne_null op x y
    | _ => simp [combine]
  | text s =>
    cases r with
    | null => exact absurd rfl right
    | text t => exact combineTexts_ne_null op s t
    | _ => simp [combine]

end Literal

namespace Formula

variable {α : Type}

/-- The first tree contains the second one, below these operators from the root down. -/
inductive Contains : Formula α → List BinaryOp → Formula α → Prop
  | here (f : Formula α) : Contains f [] f
  | left {op : BinaryOp} {l r g : Formula α} {path : List BinaryOp} (inside : Contains l path g) :
      Contains (join op l r) (op :: path) g
  | right {op : BinaryOp} {l r g : Formula α} {path : List BinaryOp} (inside : Contains r path g) :
      Contains (join op l r) (op :: path) g

/-- No operator on the path is an equality. -/
def Open (path : List BinaryOp) : Prop := ∀ op ∈ path, ¬ op.IsEquality

/-- The value of the tree is lost at its root and not further down: it is null itself, or an
operator has no result for two known values. -/
def Loses : Formula Literal → Prop
  | leaf l => l = .null
  | join op l r => l.result ≠ .null ∧ r.result ≠ .null ∧ l.result.combine op r.result = none

theorem operand_map_literal (f : Formula Literal) :
    (f.map Operand.literal).operand = .literal f.result := by
  induction f with
  | leaf l => rfl
  | join op l r ihl ihr => rw [map, operand, result, ihl, ihr, Operand.binary_literal]

/-- What one operator does with null: it hands it on unless it is an equality, and it makes it where
it has no result. -/
theorem result_join_eq_null_iff {op : BinaryOp} {l r : Formula Literal} :
    (join op l r).result = .null ↔
      (¬ op.IsEquality ∧ (l.result = .null ∨ r.result = .null)) ∨ (join op l r).Loses := by
  rw [result]
  by_cases lost : l.result = .null ∨ r.result = .null
  · have kept : ¬ (join op l r).Loses := fun loses => lost.elim loses.1 loses.2.1
    rw [or_iff_left kept, and_iff_left lost, Literal.combine_of_null lost, Option.getD_some]
    constructor
    · intro null equality
      obtain ⟨b, gives, -⟩ := Literal.combineNull_of_isEquality equality lost
      rw [gives] at null
      cases null
    · exact fun passes => Literal.combineNull_of_not_isEquality passes _ _
  · obtain ⟨left, right⟩ := not_or.mp lost
    rw [or_iff_right fun handed => lost handed.2]
    cases gives : l.result.combine op r.result with
    | none => exact ⟨fun _ => ⟨left, right, gives⟩, fun _ => rfl⟩
    | some v =>
      constructor
      · rintro rfl
        exact absurd gives (Literal.combine_ne_null left right op)
      · rintro ⟨-, -, none⟩
        rw [gives] at none
        cases none

/-- From the place where a value is lost, null goes up to the root. -/
theorem Contains.result_eq_null {f g : Formula Literal} {path : List BinaryOp}
    (inner : f.Contains path g) (passes : Open path) (lost : g.result = .null) :
    f.result = .null := by
  induction inner with
  | here f => exact lost
  | left inside ih =>
    obtain ⟨passesHere, passesBelow⟩ := List.forall_mem_cons.mp passes
    exact result_join_eq_null_iff.mpr (.inl ⟨passesHere, .inl (ih passesBelow lost)⟩)
  | right inside ih =>
    obtain ⟨passesHere, passesBelow⟩ := List.forall_mem_cons.mp passes
    exact result_join_eq_null_iff.mpr (.inl ⟨passesHere, .inr (ih passesBelow lost)⟩)

/-- A tree that is null lost a value somewhere, with nothing on the way that would notice. -/
theorem exists_loses {f : Formula Literal} (lost : f.result = .null) :
    ∃ path g, f.Contains path g ∧ Open path ∧ g.Loses := by
  induction f with
  | leaf l => exact ⟨[], leaf l, .here _, nofun, lost⟩
  | join op l r ihl ihr =>
    obtain ⟨passes, below | below⟩ | here := result_join_eq_null_iff.mp lost
    · obtain ⟨path, g, inner, passesBelow, loses⟩ := ihl below
      exact ⟨op :: path, g, .left inner, List.forall_mem_cons.mpr ⟨passes, passesBelow⟩, loses⟩
    · obtain ⟨path, g, inner, passesBelow, loses⟩ := ihr below
      exact ⟨op :: path, g, .right inner, List.forall_mem_cons.mpr ⟨passes, passesBelow⟩, loses⟩
    · exact ⟨[], join op l r, .here _, nofun, here⟩

/-- A tree of plain values is null when a subtree is and no equality stands above that one. It is
null for no other reason than that some value was lost in it. And an equality of two trees, of which
one is null, is known: it tells whether both are. -/
theorem lost_stays_lost :
    (∀ (f g : Formula Literal) path, f.Contains path g → Open path →
      (g.map .literal).operand = .literal .null → (f.map .literal).operand = .literal .null) ∧
    (∀ f : Formula Literal, (f.map .literal).operand = .literal .null →
      ∃ path g, f.Contains path g ∧ Open path ∧ g.Loses) ∧
    ∀ (op : BinaryOp) (l r : Formula Literal) (x y : Literal), op.IsEquality →
      (l.map .literal).operand = .literal x → (r.map .literal).operand = .literal y →
      x = .null ∨ y = .null →
        ∃ b, ((join op l r).map .literal).operand = .literal (.bool b) ∧
          (b = true ↔ (op = .eq ↔ x = y)) := by
  simp only [operand_map_literal, Operand.literal.injEq]
  refine ⟨fun f g path inner passes lost => inner.result_eq_null passes lost, ?_, ?_⟩
  · intro f lost
    exact exists_loses lost
  · rintro op l r x y equality rfl rfl lost
    obtain ⟨b, gives, plain⟩ := Literal.combineNull_of_isEquality equality lost
    refine ⟨b, ?_, plain⟩
    rw [result, Literal.combine_of_null lost, Option.getD_some, gives]

/-- A sum beyond 64 bits, deep in a condition that could not hold anyway. -/
def overdraft : Formula Literal :=
  .join .add (.leaf (.int Int64.maxValue)) (.leaf (.int 1))

def condition : Formula Literal :=
  .join .and (.leaf (.bool false)) (.join .concat overdraft (.leaf (.text "x")))

/-- The condition is lost with the sum, and an equality notices. -/
theorem lost_stays_lost_condition :
    condition.Contains [.and, .concat] overdraft ∧ Open [.and, .concat] ∧
      (overdraft.map .literal).operand = .literal .null ∧
      (condition.map .literal).operand = .literal .null ∧
      ∃ b, ((join .ne (leaf (.int 7)) condition).map .literal).operand = .literal (.bool b) ∧
        (b = true ↔ (BinaryOp.ne = .eq ↔ Literal.int 7 = .null)) := by
  have inner : condition.Contains [.and, .concat] overdraft := .right (.left (.here _))
  have passes : Open [.and, .concat] := by simp [Open, BinaryOp.IsEquality]
  have lost : (overdraft.map .literal).operand = .literal .null := rfl
  obtain ⟨up, -, noticed⟩ := lost_stays_lost
  have null := up condition overdraft _ inner passes lost
  exact ⟨inner, passes, lost, null,
    noticed .ne (leaf (.int 7)) condition _ _ (.inr rfl) rfl null (.inr rfl)⟩

end Formula
end DualMode
