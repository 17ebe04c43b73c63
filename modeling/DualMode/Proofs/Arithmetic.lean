import DualMode.Operand

/-! Arithmetic on whole numbers of 64 bits. A result in memory is the exact one, and it is there
whenever it is one of these numbers. The one exception is the remainder of the smallest number by
minus one: it is zero, but it is lost like the quotient, which is beyond the range. -/

namespace DualMode
namespace Literal

/-- A quotient that is truncated toward zero: the remainder is smaller than the divisor and has the
sign of the dividend. -/
structure Truncated (a b quotient remainder : Int) : Prop where
  sum : remainder + b * quotient = a
  smaller : remainder.natAbs < b.natAbs
  nonneg : 0 ≤ a → 0 ≤ remainder
  nonpos : a ≤ 0 → remainder ≤ 0

/-- The exact result of an arithmetic operator. A division by zero has none. -/
inductive Exact : BinaryOp → Int → Int → Int → Prop
  | add (a b : Int) : Exact .add a b (a + b)
  | sub (a b : Int) : Exact .sub a b (a - b)
  | mul (a b : Int) : Exact .mul a b (a * b)
  | div {a b q r : Int} (divided : Truncated a b q r) : Exact .div a b q
  | mod {a b q r : Int} (divided : Truncated a b q r) : Exact .mod a b r

/-- The division that carries past the largest number. -/
def Overdivides (a b : Int64) : Prop := a = Int64.minValue ∧ b = -1

theorem truncated_iff {a b q r : Int} :
    Truncated a b q r ↔ b ≠ 0 ∧ a.tdiv b = q ∧ a.tmod b = r := by
  constructor
  · rintro ⟨sum, smaller, nonneg, nonpos⟩
    have divisor : b ≠ 0 := by omega
    refine ⟨divisor, ?_⟩
    obtain up | down := Int.le_total 0 a
    · exact (Int.tdiv_tmod_unique up divisor).mpr ⟨sum, nonneg up, by omega⟩
    · exact (Int.tdiv_tmod_unique' down divisor).mpr ⟨sum, by omega, nonpos down⟩
  · rintro ⟨divisor, quotient, remainder⟩
    obtain up | down := Int.le_total 0 a
    · obtain ⟨sum, low, high⟩ := (Int.tdiv_tmod_unique up divisor).mp ⟨quotient, remainder⟩
      refine ⟨sum, by omega, fun _ => low, fun down => ?_⟩
      -- only zero is on both sides
      obtain rfl : a = 0 := Int.le_antisymm down up
      exact Int.le_of_eq (remainder.symm.trans (Int.zero_tmod b))
    · obtain ⟨sum, low, high⟩ := (Int.tdiv_tmod_unique' down divisor).mp ⟨quotient, remainder⟩
      refine ⟨sum, by omega, fun up => ?_, fun _ => high⟩
      obtain rfl : a = 0 := Int.le_antisymm down up
      exact Int.le_of_eq ((Int.zero_tmod b).symm.trans remainder)

variable {a b r : Int}

theorem exact_add_iff : Exact .add a b r ↔ a + b = r :=
  ⟨by rintro ⟨⟩; rfl, by rintro rfl; exact .add a b⟩

theorem exact_sub_iff : Exact .sub a b r ↔ a - b = r :=
  ⟨by rintro ⟨⟩; rfl, by rintro rfl; exact .sub a b⟩

theorem exact_mul_iff : Exact .mul a b r ↔ a * b = r :=
  ⟨by rintro ⟨⟩; rfl, by rintro rfl; exact .mul a b⟩

theorem exact_div_iff : Exact .div a b r ↔ b ≠ 0 ∧ a.tdiv b = r := by
  constructor
  · intro result
    cases result with
    | div divided =>
      obtain ⟨divisor, quotient, -⟩ := truncated_iff.mp divided
      exact ⟨divisor, quotient⟩
  · rintro ⟨divisor, quotient⟩
    exact .div (truncated_iff.mpr ⟨divisor, quotient, rfl⟩)

theorem exact_mod_iff : Exact .mod a b r ↔ b ≠ 0 ∧ a.tmod b = r := by
  constructor
  · intro result
    cases result with
    | mod divided =>
      obtain ⟨divisor, -, remainder⟩ := truncated_iff.mp divided
      exact ⟨divisor, remainder⟩
  · rintro ⟨divisor, remainder⟩
    exact .mod (truncated_iff.mpr ⟨divisor, rfl, remainder⟩)

theorem ofInt?_eq_some_iff {n : Int} {l : Literal} :
    ofInt? n = some l ↔ ∃ i : Int64, l = int i ∧ n = i.toInt := by
  unfold ofInt?
  constructor
  · intro fits
    split at fits
    next within =>
      rw [Int64.toInt_minValue, Int64.toInt_maxValue] at within
      refine ⟨Int64.ofInt n, (Option.some.inj fits).symm, ?_⟩
      rw [Int64.toInt_ofInt_of_le within.1 (by omega)]
    next beyond => cases fits
  · rintro ⟨i, rfl, rfl⟩
    rw [if_pos ⟨i.minValue_le_toInt, i.toInt_le⟩, Int64.ofInt_toInt]

theorem overdivides_iff {a b : Int64} :
    Overdivides a b ↔ a.toInt = Int64.minValue.toInt ∧ b.toInt = -1 := by
  rw [Overdivides, ← Int64.toInt_inj, ← Int64.toInt_inj]
  rfl

/-- The results in memory of the arithmetic operators, each by its own branch. -/
theorem combineInts_eq_some_iff {op : BinaryOp} (arithmetic : op ∈ [.add, .sub, .mul, .div, .mod])
    {a b : Int64} {l : Literal} :
    combineInts op a.toInt b.toInt = some l ↔
      ∃ r : Int64, l = int r ∧ Exact op a.toInt b.toInt r.toInt ∧
        ¬ (op = .mod ∧ Overdivides a b) := by
  cases op with
  | add => simp [combineInts, ofInt?_eq_some_iff, exact_add_iff]
  | sub => simp [combineInts, ofInt?_eq_some_iff, exact_sub_iff]
  | mul => simp [combineInts, ofInt?_eq_some_iff, exact_mul_iff]
  | div =>
    by_cases divisor : b.toInt = 0
    · simp [combineInts, exact_div_iff, divisor]
    · simp [combineInts, ofInt?_eq_some_iff, exact_div_iff, divisor]
  | mod =>
    rw [overdivides_iff]
    by_cases lost : b.toInt = 0 ∨ (a.toInt = Int64.minValue.toInt ∧ b.toInt = -1)
    · rw [combineInts, if_pos lost]
      obtain divisor | carried := lost
      · simp [exact_mod_iff, divisor]
      · simp only [carried, and_self, not_true_eq_false, and_false, exists_false, reduceCtorEq]
    · obtain ⟨divisor, carried⟩ := not_or.mp lost
      rw [combineInts, if_neg lost, ofInt?_eq_some_iff]
      simp only [exact_mod_iff, divisor, carried, ne_eq, not_false_eq_true, true_and, and_true,
        and_false]
  | _ => simp at arithmetic

/-- Arithmetic gives the exact result, and nothing where no number of 64 bits is one. Only the
remainder is also lost where the quotient is too large. On operands, null stands for what is
lost, and for nothing else. -/
theorem combine_exact {op : BinaryOp} (arithmetic : op ∈ [.add, .sub, .mul, .div, .mod])
    (a b : Int64) :
    (∀ l, (int a).combine op (int b) = some l ↔
      ∃ r : Int64, l = int r ∧ Exact op a.toInt b.toInt r.toInt ∧
        ¬ (op = .mod ∧ Overdivides a b)) ∧
    ((int a).combine op (int b) = none ↔
      (¬ ∃ r : Int64, Exact op a.toInt b.toInt r.toInt) ∨ (op = .mod ∧ Overdivides a b)) ∧
    (Operand.binary op (.literal (int a)) (.literal (int b)) = .literal null ↔
      (int a).combine op (int b) = none) ∧
    ∀ l, (int a).combine op (int b) = some l →
      Operand.binary op (.literal (int a)) (.literal (int b)) = .literal l := by
  have gives : ∀ l, (int a).combine op (int b) = some l ↔
      ∃ r : Int64, l = int r ∧ Exact op a.toInt b.toInt r.toInt ∧
        ¬ (op = .mod ∧ Overdivides a b) := fun l => combineInts_eq_some_iff arithmetic
  refine ⟨gives, ?_, ?_, ?_⟩
  · rw [Option.eq_none_iff_forall_ne_some]
    simp only [ne_eq, gives]
    constructor
    · intro none
      by_cases carried : op = .mod ∧ Overdivides a b
      · exact .inr carried
      · exact .inl fun ⟨r, result⟩ => none _ ⟨r, rfl, result, carried⟩
    · rintro (none | carried) l ⟨r, -, result, kept⟩
      · exact none ⟨r, result⟩
      · exact kept carried
  · rw [Operand.binary_literal]
    cases result : (int a).combine op (int b) with
    | none => simp
    | some l =>
      obtain ⟨r, rfl, -⟩ := (gives l).mp result
      simp
  · intro l result
    rw [Operand.binary_literal, result, Option.getD_some]

/-- The quotient that carries past the largest number is lost, and its remainder would be exact. -/
theorem combine_exact_overdivision :
    (BinaryOp.div ∈ [BinaryOp.add, .sub, .mul, .div, .mod]) ∧
      Exact .div Int64.minValue.toInt (-1 : Int64).toInt (Int64.maxValue.toInt + 1) ∧
      (int Int64.minValue).combine .div (int (-1)) = none ∧
      Operand.binary .div (.literal (int Int64.minValue)) (.literal (int (-1))) = .literal null ∧
      Operand.binary .mod (.literal (int (-7))) (.literal (int 2)) = .literal (int (-1)) := by
  have quotients : BinaryOp.div ∈ [BinaryOp.add, .sub, .mul, .div, .mod] := by decide
  have remainders : BinaryOp.mod ∈ [BinaryOp.add, .sub, .mul, .div, .mod] := by decide
  obtain ⟨-, lost, kept, -⟩ := combine_exact quotients Int64.minValue (-1)
  obtain ⟨gives, -, -, given⟩ := combine_exact remainders (-7) 2
  have none : (int Int64.minValue).combine .div (int (-1)) = none := by
    refine lost.mpr (.inl ?_)
    rintro ⟨r, quotient⟩
    obtain ⟨-, quotient⟩ := exact_div_iff.mp quotient
    have bound := r.toInt_le
    have large : Int64.maxValue.toInt + 1 = r.toInt := quotient
    rw [← large] at bound
    exact absurd bound (by decide)
  refine ⟨quotients, exact_div_iff.mpr ⟨by decide, by decide⟩, none, kept.mpr none, ?_⟩
  refine given _ ((gives _).mpr ⟨-1, rfl, exact_mod_iff.mpr ⟨by decide, by decide⟩, ?_⟩)
  rintro ⟨-, smallest, -⟩
  exact absurd smallest (by decide)

theorem smallest_remainder_lost :
    Exact .mod Int64.minValue.toInt (-1 : Int64).toInt (0 : Int64).toInt ∧
      (int Int64.minValue).combine .mod (int (-1)) = none ∧
      ¬ ∀ op ∈ [BinaryOp.add, .sub, .mul, .div, .mod], ∀ a b r : Int64,
        Exact op a.toInt b.toInt r.toInt → (int a).combine op (int b) = some (int r) := by
  have zero : Exact .mod Int64.minValue.toInt (-1 : Int64).toInt (0 : Int64).toInt :=
    exact_mod_iff.mpr ⟨by decide, by decide⟩
  refine ⟨zero, rfl, fun given => ?_⟩
  have result := given .mod (by decide) Int64.minValue (-1) 0 zero
  cases result

end Literal
end DualMode
