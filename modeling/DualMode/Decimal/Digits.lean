/-! Decimal digit strings of natural numbers. Main statement: the value of the digits of `n`
is `n`. -/

namespace DualMode
namespace Decimal

def digit (n : Nat) : Char := Char.ofNat (48 + n % 10)

def digits (n : Nat) : List Char :=
  if n < 10 then [digit n] else digits (n / 10) ++ [digit n]

def digitValue (c : Char) : Nat := c.toNat - 48

def value (s : List Char) : Nat := s.foldl (fun n c => 10 * n + digitValue c) 0

theorem digit_toNat (n : Nat) : (digit n).toNat = 48 + n % 10 := by
  have table : ∀ m : Fin 10, (Char.ofNat (48 + m)).toNat = 48 + m := by decide
  exact table ⟨n % 10, Nat.mod_lt _ (by decide)⟩

@[simp] theorem digit_isDigit (n : Nat) : (digit n).isDigit = true := by
  have h : n % 10 < 10 := Nat.mod_lt _ (by decide)
  have := digit_toNat n
  simp only [Char.toNat] at this
  simp only [Char.isDigit, Bool.and_eq_true, decide_eq_true_eq, ge_iff_le, UInt32.le_iff_toNat_le]
  constructor
  · simp [this]
  · simp [this]; omega

@[simp] theorem digitValue_digit (n : Nat) : digitValue (digit n) = n % 10 := by
  rw [digitValue, digit_toNat, Nat.add_sub_cancel_left]

@[simp] theorem value_nil : value [] = 0 := rfl

theorem value_concat (s : List Char) (c : Char) : value (s ++ [c]) = 10 * value s + digitValue c := by
  simp only [value, List.foldl_append, List.foldl_cons, List.foldl_nil]

theorem value_digits (n : Nat) : value (digits n) = n := by
  fun_induction digits n with
  | case1 n h => simpa [Nat.mod_eq_of_lt h] using value_concat [] (digit n)
  | case2 n h ih => rw [value_concat, ih, digitValue_digit, Nat.div_add_mod]

theorem isDigit_of_mem_digits {n : Nat} {c : Char} (h : c ∈ digits n) : c.isDigit = true := by
  fun_induction digits n with
  | case1 n _ => simp at h; simp [h]
  | case2 n _ ih =>
    rcases List.mem_append.1 h with h | h
    · exact ih h
    · simp at h; simp [h]

theorem digits_ne_nil (n : Nat) : digits n ≠ [] := by
  rw [digits]; split <;> simp

def natText (n : Nat) : String := String.ofList (digits n)

def intText : Int → String
  | .ofNat n => natText n
  | .negSucc n => "-" ++ natText (n + 1)

end Decimal
end DualMode
