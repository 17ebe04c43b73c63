import DualMode.Decimal.Layout
import Mathlib.Data.Rat.Cast.Order
import Mathlib.Tactic.FieldSimp
import Mathlib.Tactic.Linarith
import Mathlib.Tactic.Positivity
import Mathlib.Tactic.Ring

/-! How large the shortest decimal of a double can be. Its coefficient has seventeen digits at
most, or is the power of ten behind them, and its exponent stays within the range of the doubles.
-/

namespace DualMode
namespace Decimal

/-! The number of digits. -/

theorem digits_of_lt {n : Nat} (small : n < 10) : digits n = [digit n] := by
  rw [digits, if_pos small]

theorem lt_pow_length_digits (n : Nat) : n < 10 ^ (digits n).length := by
  fun_induction digits n with
  | case1 n small => simpa using small
  | case2 n large ih =>
    rw [List.length_append, List.length_singleton, Nat.pow_succ]
    omega

theorem pow_length_digits_le {n : Nat} (pos : n ≠ 0) : 10 ^ ((digits n).length - 1) ≤ n := by
  fun_induction digits n with
  | case1 n small => exact Nat.pos_of_ne_zero pos
  | case2 n large ih =>
    have shorter := ih (by omega)
    have some := List.length_pos_iff.mpr (digits_ne_nil (n / 10))
    have split : 10 ^ (digits (n / 10)).length = 10 ^ ((digits (n / 10)).length - 1) * 10 := by
      rw [← Nat.pow_succ]
      congr 1
      omega
    rw [List.length_append, List.length_singleton, Nat.add_sub_cancel]
    omega

/-- A number below a power of two has hardly more decimal digits than binary ones. -/
theorem length_digits_le {n k : Nat} (small : n < 2 ^ k) : (digits n).length ≤ k + 1 := by
  by_cases zero : n = 0
  · rw [zero, digits_of_lt (by omega)]
    simp
  · have least := pow_length_digits_le zero
    have base : 2 ^ ((digits n).length - 1) ≤ 10 ^ ((digits n).length - 1) :=
      Nat.pow_le_pow_left (by omega) _
    have below := (Nat.pow_lt_pow_iff_right (by omega : 1 < 2)).mp ((base.trans least).trans_lt small)
    omega

/-! Powers as fractions. -/

theorem power_fst_pos {b : Nat} (pos : 0 < b) (k : Int) : 0 < (power b k).1 := by
  unfold power
  split_ifs
  · exact Nat.pow_pos pos
  · exact Nat.one_pos

theorem power_snd_pos {b : Nat} (pos : 0 < b) (k : Int) : 0 < (power b k).2 := by
  unfold power
  split_ifs
  · exact Nat.one_pos
  · exact Nat.pow_pos pos

theorem power_fst_eq {b : Nat} (pos : 0 < b) (k : Int) :
    ((power b k).1 : ℚ) = (b : ℚ) ^ k * (power b k).2 := by
  have base : (b : ℚ) ≠ 0 := by positivity
  unfold power
  split_ifs with sign
  · obtain ⟨n, rfl⟩ := Int.eq_ofNat_of_zero_le sign
    simp
  · obtain ⟨n, hn⟩ := Int.eq_ofNat_of_zero_le (by omega : 0 ≤ -k)
    obtain rfl : k = -(n : Int) := by omega
    simp [base]

namespace Interval

variable {i : Interval}

theorem center_lt (pos : 0 < i.center) (unit : 0 < i.unit) :
    (i.center : ℚ) < i.unit * 10 ^ (i.magnitude + 1) := by
  unfold magnitude
  by_cases whole : i.unit ≤ i.center
  · have below := (Nat.div_lt_iff_lt_mul unit).mp (lt_pow_length_digits (i.center / i.unit))
    rw [if_pos whole, sub_add_cancel, zpow_natCast, mul_comm]
    exact_mod_cast below
  · rw [if_neg whole]
    obtain ⟨q, places⟩ : ∃ q, (digits (i.unit / i.center)).length = q + 1 :=
      Nat.exists_eq_add_one.mpr (List.length_pos_iff.mpr (digits_ne_nil _))
    have least : 10 ^ q ≤ i.unit / i.center := by
      have some : i.unit / i.center ≠ 0 := (Nat.div_pos (by omega) pos).ne'
      simpa [places] using pow_length_digits_le some
    have reached : i.center * 10 ^ q ≤ i.unit := by
      rw [mul_comm]
      exact (Nat.le_div_iff_mul_le pos).mp least
    simp only [places, Nat.add_sub_cancel, Nat.pow_eq]
    split_ifs with level
    · have next : (i.unit : ℚ) * 10 ^ (1 - ((q + 1 : ℕ) : ℤ) + 1) = 10 * i.center := by
        rw [← level, show 1 - ((q + 1 : ℕ) : ℤ) + 1 = 1 - (q : ℤ) by push_cast; ring,
          zpow_sub₀ (by norm_num), zpow_one, zpow_natCast]
        push_cast
        field_simp
      have some : (0 : ℚ) < i.center := by exact_mod_cast pos
      linarith
    · have apart : i.center * 10 ^ q < i.unit := lt_of_le_of_ne reached level
      rw [show -((q + 1 : ℕ) : ℤ) + 1 = -(q : ℤ) by push_cast; ring, zpow_neg, zpow_natCast,
        ← div_eq_mul_inv, lt_div_iff₀ (by positivity)]
      exact_mod_cast apart

/-- A multiple of the grid is found next to the double on either side, and never at zero. -/
theorem nearest?_bounds {tie : Tie} {k : Int} {c : Nat} (low : 0 < i.low)
    (found : i.nearest? tie k = some c) :
    0 < c ∧ c ≤ i.center * (power 10 k).2 / (i.unit * (power 10 k).1) + 1 := by
  have down := power_snd_pos (by omega : 0 < 10) k
  unfold nearest? at found
  generalize power 10 k = p at found down ⊢
  obtain ⟨p, q⟩ := p
  dsimp only at found down ⊢
  generalize i.center * q / (i.unit * p) = floor at found ⊢
  -- zero is no multiple within the interval
  have inside : (i.low * q < floor * (i.unit * p) ||
      (i.closed && i.low * q == floor * (i.unit * p))) = true → 0 < floor := by
    have some : 0 < i.low * q := Nat.mul_pos low down
    intro within
    by_contra zero
    obtain rfl : floor = 0 := by omega
    simp [some.ne', Nat.not_lt.mpr] at within
  split at found
  · cases found
  · next within _ =>
    have := inside within
    cases found
    omega
  · cases found
    omega
  · next within _ =>
    have := inside within
    cases tie with
    | up => split_ifs at found <;> cases found <;> omega
    | even => split_ifs at found <;> cases found <;> omega

/-- On the grid that is so many places below the leading one, no number has more digits than
that, but for the power of ten. -/
theorem nearest?_le {tie : Tie} {n c : Nat} (pos : 0 < i.center) (unit : 0 < i.unit)
    (low : 0 < i.low) (found : i.nearest? tie (i.magnitude - n) = some c) : c ≤ 10 ^ (n + 1) := by
  have bound := (nearest?_bounds low found).2
  set k := i.magnitude - n with place
  have down := power_snd_pos (by omega : 0 < 10) k
  have up := power_fst_pos (by omega : 0 < 10) k
  have below : i.center * (power 10 k).2 < 10 ^ (n + 1) * (i.unit * (power 10 k).1) := by
    have some : (0 : ℚ) < (power 10 k).2 := by exact_mod_cast down
    have split : i.magnitude + 1 = k + ((n + 1 : ℕ) : ℤ) := by
      rw [place]
      push_cast
      ring
    have scaled : (i.center : ℚ) * (power 10 k).2 <
        10 ^ (n + 1) * (i.unit * ((10 : ℚ) ^ k * (power 10 k).2)) := by
      calc (i.center : ℚ) * (power 10 k).2
          < i.unit * 10 ^ (i.magnitude + 1) * (power 10 k).2 :=
            mul_lt_mul_of_pos_right (center_lt pos unit) some
        _ = 10 ^ (n + 1) * (i.unit * ((10 : ℚ) ^ k * (power 10 k).2)) := by
            rw [split, zpow_add₀ (by norm_num), zpow_natCast]
            ring
    have fraction := power_fst_eq (by omega : 0 < 10) k
    push_cast at fraction
    rw [← fraction] at scaled
    exact_mod_cast scaled
  have floor := (Nat.div_lt_iff_lt_mul (Nat.mul_pos unit up)).mpr below
  omega

end Interval

theorem exists_trim (fuel : Nat) (d : Scientific) :
    ∃ j ≤ fuel, (trim fuel d).coefficient * 10 ^ j = d.coefficient ∧
      (trim fuel d).exponent = d.exponent + j := by
  induction fuel generalizing d with
  | zero => exact ⟨0, le_rfl, by simp [trim], by simp [trim]⟩
  | succ fuel ih =>
    unfold trim
    split_ifs with more
    · obtain ⟨j, bound, coefficient, exponent⟩ := ih ⟨d.coefficient / 10, d.exponent + 1⟩
      refine ⟨j + 1, by omega, ?_, ?_⟩
      · rw [Nat.pow_succ, ← Nat.mul_assoc, coefficient]
        exact Nat.div_mul_cancel (Nat.dvd_of_mod_eq_zero more.2)
      · rw [exponent]
        push_cast
        ring
    · exact ⟨0, Nat.zero_le _, by simp, by simp⟩

namespace Interval

variable {m : Nat} {e : Int}

theorem ofDouble_low_pos (pos : 0 < m) : 0 < (ofDouble m e).low := by
  refine Nat.mul_pos ?_ (power_fst_pos (by omega) (e - 2))
  split_ifs <;> omega

theorem ofDouble_center_pos (pos : 0 < m) : 0 < (ofDouble m e).center :=
  Nat.mul_pos (by omega) (power_fst_pos (by omega) (e - 2))

theorem ofDouble_unit_pos : 0 < (ofDouble m e).unit := power_snd_pos (by omega) (e - 2)

theorem ofDouble_center_lt {n : Nat} (small : m < 2 ^ 53) (greatest : e ≤ n + 2) :
    (ofDouble m e).center < 2 ^ (55 + n) := by
  have scale : (power 2 (e - 2)).1 ≤ 2 ^ n := by
    unfold power
    split_ifs
    · exact Nat.pow_le_pow_right (by omega) (by omega)
    · exact Nat.one_le_two_pow
  calc (ofDouble m e).center
      ≤ 4 * m * 2 ^ n := Nat.mul_le_mul_left _ scale
    _ < 2 ^ 55 * 2 ^ n := Nat.mul_lt_mul_of_pos_right (by omega) (Nat.two_pow_pos n)
    _ = 2 ^ (55 + n) := (Nat.pow_add 2 55 n).symm

theorem ofDouble_unit_lt {n : Nat} (least : -n ≤ e) : (ofDouble m e).unit < 2 ^ (n + 3) := by
  have unit : (ofDouble m e).unit = (power 2 (e - 2)).2 := rfl
  rw [unit, power]
  split_ifs
  · exact Nat.one_lt_two_pow (by omega)
  · exact Nat.pow_lt_pow_right (by omega) (by omega)

theorem natAbs_magnitude_le (small : m < 2 ^ 53) (least : -1074 ≤ e) (greatest : e ≤ 971) :
    (ofDouble m e).magnitude.natAbs ≤ 1078 := by
  unfold magnitude
  split_ifs with whole
  · have length := length_digits_le ((Nat.div_le_self _ (ofDouble m e).unit).trans_lt
      (ofDouble_center_lt (n := 969) small greatest))
    omega
  · have length := length_digits_le ((Nat.div_le_self _ (ofDouble m e).center).trans_lt
      (ofDouble_unit_lt (n := 1074) (m := m) least))
    dsimp only
    split_ifs <;> omega

end Interval

/-- A decimal whose digits fit in 64 bits and whose exponent is within the reach of doubles; zero
has no exponent. -/
structure Scientific.Modest (d : Scientific) : Prop where
  coefficient_le : d.coefficient ≤ 10 ^ 17
  exponent_le : d.exponent.natAbs ≤ 1111
  exponent_eq : d.coefficient = 0 → d.exponent = 0

theorem Scientific.modest_zero : (⟨0, 0⟩ : Scientific).Modest :=
  ⟨Nat.zero_le _, Nat.zero_le _, fun _ => rfl⟩

theorem modest_shortest {tie : Tie} {m : Nat} {e : Int} (pos : 0 < m) (small : m < 2 ^ 53)
    (least : -1074 ≤ e) (greatest : e ≤ 971) : (shortest tie m e).Modest := by
  unfold shortest
  dsimp only
  have reach := Interval.natAbs_magnitude_le small least greatest
  have low := Interval.ofDouble_low_pos pos (e := e)
  have center := Interval.ofDouble_center_pos pos (e := e)
  have unit := Interval.ofDouble_unit_pos (m := m) (e := e)
  generalize Interval.ofDouble m e = i at reach low center unit ⊢
  cases found : (List.range 17).findSome? fun (n : Nat) =>
      (i.nearest? tie (i.magnitude - n)).map (⟨·, i.magnitude - n⟩ : Nat → Scientific) with
  | none => exact Scientific.modest_zero
  | some d =>
    obtain ⟨n, within, grid⟩ := List.exists_of_findSome?_eq_some found
    obtain ⟨c, near, rfl⟩ := Option.map_eq_some_iff.mp grid
    have places : n < 17 := List.mem_range.mp within
    have positive := (Interval.nearest?_bounds low near).1
    have bound := (Interval.nearest?_le center unit low near).trans
      (Nat.pow_le_pow_right (by omega) (by omega : n + 1 ≤ 17))
    obtain ⟨j, zeros, coefficient, exponent⟩ := exists_trim 17 ⟨c, i.magnitude - n⟩
    dsimp only at coefficient exponent
    rw [Option.getD_some]
    refine ⟨?_, by omega, fun zero => ?_⟩
    · exact (Nat.le_mul_of_pos_right _ (Nat.pow_pos (by omega))).trans (coefficient.trans_le bound)
    · rw [zero, Nat.zero_mul] at coefficient
      omega

end Decimal
end DualMode
