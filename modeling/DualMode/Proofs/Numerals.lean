import DualMode.Json.Reader
import DualMode.Proofs.Shortest
import Mathlib.Data.List.TakeWhile

/-! Numerals of JSON as they are written, and what is read from them. A whole number comes back as
it is. The text of a double has a point or an exponent, so that it is never taken for a whole
number, and what is read is its significand scaled by a power of ten. -/

namespace DualMode
namespace Decimal

theorem value_append (s t : List Char) : value (s ++ t) = value s * 10 ^ t.length + value t := by
  induction t using List.reverseRecOn with
  | nil => simp
  | append_singleton t c ih =>
    rw [← List.append_assoc, value_concat, value_concat, ih, List.length_append,
      List.length_singleton, Nat.pow_succ]
    ring

theorem value_singleton (c : Char) : value [c] = digitValue c := by
  simpa using value_concat [] c

theorem value_cons (c : Char) (s : List Char) :
    value (c :: s) = digitValue c * 10 ^ s.length + value s := by
  rw [← List.singleton_append, value_append, value_singleton]

theorem value_zeros (k : Nat) : value (List.replicate k '0') = 0 := by
  induction k with
  | zero => rfl
  | succ k ih => rw [List.replicate_succ, value_cons, ih]; simp [digitValue]

theorem head?_digits_ne {n : Nat} (pos : n ≠ 0) : (digits n).head? ≠ some '0' := by
  fun_induction digits n with
  | case1 n small =>
    intro zero
    have same := congrArg digitValue (Option.some.inj zero)
    rw [digitValue_digit] at same
    have : digitValue '0' = 0 := rfl
    omega
  | case2 n large ih =>
    rw [List.head?_append_of_ne_nil _ (digits_ne_nil _)]
    exact ih (by omega)

theorem takeWhile_digits {ds rest : List Char} (all : ∀ c ∈ ds, c.isDigit = true)
    (stop : ∀ c ∈ rest.head?, c.isDigit = false) : (ds ++ rest).takeWhile Char.isDigit = ds := by
  rw [List.takeWhile_append_of_pos all]
  cases rest with
  | nil => simp
  | cons c rest => simp [stop c rfl]

theorem dropWhile_digits {ds rest : List Char} (all : ∀ c ∈ ds, c.isDigit = true)
    (stop : ∀ c ∈ rest.head?, c.isDigit = false) : (ds ++ rest).dropWhile Char.isDigit = rest := by
  rw [List.dropWhile_append_of_pos all]
  cases rest with
  | nil => simp
  | cons c rest => simp [stop c rfl]

end Decimal

namespace Json

open Decimal

/-- Digits are taken as long as the significand fits in 64 bits. -/
theorem absorb_eq {n : Nat} {ds : List Char} (fits : n * 10 ^ ds.length + value ds ≤ digitLimit) :
    absorb n ds = (n * 10 ^ ds.length + value ds, ds.length) := by
  induction ds generalizing n with
  | nil => simp [absorb]
  | cons c rest ih =>
    have split : n * 10 ^ (c :: rest).length + value (c :: rest) =
        (10 * n + digitValue c) * 10 ^ rest.length + value rest := by
      rw [value_cons, List.length_cons, Nat.pow_succ]
      ring
    rw [split] at fits ⊢
    have next : 10 * n + digitValue c ≤ digitLimit :=
      (Nat.le_mul_of_pos_right _ (Nat.pow_pos (by omega))).trans ((Nat.le_add_right _ _).trans fits)
    rw [absorb, if_pos next, ih fits]
    simp

theorem absorb_zero {ds : List Char} (fits : value ds ≤ digitLimit) :
    absorb 0 ds = (value ds, ds.length) := by
  have start : 0 * 10 ^ ds.length + value ds ≤ digitLimit := by simpa using fits
  simpa using absorb_eq start

/-- Digits that a numeral may begin with: there is one at least, and a zero stands alone. -/
structure Leads (ds : List Char) : Prop where
  all : ∀ c ∈ ds, c.isDigit = true
  ne_nil : ds ≠ []
  plain : ds.head? = some '0' → ds.length = 1

theorem Leads.refused {ds : List Char} (leads : Leads ds) :
    (ds.isEmpty || (ds.head? == some '0' && 1 < ds.length)) = false := by
  have filled := leads.ne_nil
  by_cases zero : ds.head? = some '0'
  · simp [leads.plain zero, filled]
  · simp [zero, filled]

theorem leads_digits (n : Nat) : Leads (digits n) where
  all _ := isDigit_of_mem_digits
  ne_nil := digits_ne_nil n
  plain zero := by
    by_cases pos : n = 0
    · rw [pos, digits_of_lt (by omega)]
      rfl
    · exact absurd zero (head?_digits_ne pos)

variable {negative : Bool} {n : Nat} {scale : Int} {ds fs es : List Char}

theorem readUnsigned_whole (leads : Leads ds) (fits : value ds ≤ digitLimit) :
    readUnsigned negative ds = some (ofWhole negative (value ds), []) := by
  have taken := List.takeWhile_eq_self_iff.mpr leads.all
  have dropped := List.dropWhile_eq_nil_iff.mpr leads.all
  have absorbed := absorb_zero fits
  unfold readUnsigned
  simp [taken, dropped, leads.refused, absorbed]

def signText (down : Bool) : List Char := if down then ['-'] else ['+']

theorem readExponent_eq {down : Bool} (filled : es ≠ []) (all : ∀ c ∈ es, c.isDigit = true)
    (small : value es ≤ exponentLimit) :
    readExponent negative n scale (signText down ++ es) =
      (ofParts negative n (if down then scale - value es else scale + value es)).map (·, []) := by
  have taken := List.takeWhile_eq_self_iff.mpr all
  have dropped := List.dropWhile_eq_nil_iff.mpr all
  have sign : splitSign (signText down ++ es) = (down, es) := by cases down <;> rfl
  unfold readExponent
  simp [sign, taken, dropped, filled, Nat.not_lt.mpr small]

theorem readFraction_eq (filled : fs ≠ []) (all : ∀ c ∈ fs, c.isDigit = true)
    (fits : n * 10 ^ fs.length + value fs ≤ digitLimit) (rest : List Char) :
    readFraction negative n scale (fs ++ 'e' :: rest) =
        readExponent negative (n * 10 ^ fs.length + value fs) (scale - fs.length) rest ∧
      readFraction negative n scale fs =
        (ofParts negative (n * 10 ^ fs.length + value fs) (scale - fs.length)).map (·, []) := by
  have absorbed := absorb_eq fits
  constructor
  · have stop : ∀ c ∈ ('e' :: rest).head?, c.isDigit = false := by simp
    unfold readFraction
    simp [takeWhile_digits all stop, dropWhile_digits all stop, filled, absorbed, isExponentMark]
  · have taken := List.takeWhile_eq_self_iff.mpr all
    have dropped := List.dropWhile_eq_nil_iff.mpr all
    unfold readFraction
    simp [taken, dropped, filled, absorbed]

/-- The digits in front of a point or of the mark of an exponent. -/
theorem readUnsigned_eq (leads : Leads ds) (fits : value ds ≤ digitLimit) (rest : List Char) :
    readUnsigned negative (ds ++ '.' :: rest) = readFraction negative (value ds) 0 rest ∧
      readUnsigned negative (ds ++ 'e' :: rest) = readExponent negative (value ds) 0 rest := by
  have absorbed := absorb_zero fits
  constructor
  · have stop : ∀ c ∈ ('.' :: rest).head?, c.isDigit = false := by simp
    unfold readUnsigned
    simp [takeWhile_digits leads.all stop, dropWhile_digits leads.all stop, leads.refused, absorbed]
  · have stop : ∀ c ∈ ('e' :: rest).head?, c.isDigit = false := by simp
    unfold readUnsigned
    simp [takeWhile_digits leads.all stop, dropWhile_digits leads.all stop, leads.refused, absorbed,
      isExponentMark]

theorem readUnsigned_point (leads : Leads ds) (filled : fs ≠ [])
    (all : ∀ c ∈ fs, c.isDigit = true) (fits : value (ds ++ fs) ≤ digitLimit) :
    readUnsigned negative (ds ++ '.' :: fs) =
      (ofParts negative (value (ds ++ fs)) (-fs.length)).map (·, []) := by
  rw [value_append] at fits ⊢
  have fewer : value ds ≤ digitLimit :=
    (Nat.le_mul_of_pos_right _ (Nat.pow_pos (by omega))).trans ((Nat.le_add_right _ _).trans fits)
  rw [(readUnsigned_eq leads fewer fs).1, (readFraction_eq filled all fits []).2, zero_sub]

theorem readUnsigned_exponent {down : Bool} (leads : Leads ds) (digits : ∀ c ∈ fs, c.isDigit = true)
    (fits : value (ds ++ fs) ≤ digitLimit) (filled : es ≠ []) (all : ∀ c ∈ es, c.isDigit = true)
    (small : value es ≤ exponentLimit) :
    readUnsigned negative
        (ds ++ (if fs.isEmpty then [] else '.' :: fs) ++ 'e' :: signText down ++ es) =
      (ofParts negative (value (ds ++ fs))
        ((if down then -(value es : Int) else value es) - fs.length)).map (·, []) := by
  rw [value_append] at fits ⊢
  have fewer : value ds ≤ digitLimit :=
    (Nat.le_mul_of_pos_right _ (Nat.pow_pos (by omega))).trans ((Nat.le_add_right _ _).trans fits)
  by_cases none : fs = []
  · subst none
    have text : ds ++ (if ([] : List Char).isEmpty then [] else '.' :: []) ++
        'e' :: signText down ++ es = ds ++ 'e' :: (signText down ++ es) := by simp
    rw [text, (readUnsigned_eq leads fewer _).2, readExponent_eq filled all small]
    cases down <;> simp
  · have text : ds ++ (if fs.isEmpty then [] else '.' :: fs) ++ 'e' :: signText down ++ es =
        ds ++ '.' :: (fs ++ 'e' :: (signText down ++ es)) := by simp [none]
    rw [text, (readUnsigned_eq leads fewer _).1, (readFraction_eq none digits fits _).1,
      readExponent_eq filled all small]
    cases down
    · simp [sub_eq_add_neg, add_comm]
    · simp [sub_eq_add_neg, add_comm]

/-- The place of the first digit. -/
def leading (d : Scientific) : Int := d.exponent + (digits d.coefficient).length - 1

theorem places_eq (d : Scientific) :
    numberLayout.places d =
      if 0 ≤ d.exponent then
        digits d.coefficient ++ List.replicate d.exponent.toNat '0' ++ ['.', '0']
      else if 0 ≤ leading d then
        (digits d.coefficient).take ((leading d).toNat + 1) ++
          '.' :: (digits d.coefficient).drop ((leading d).toNat + 1)
      else '0' :: '.' :: (List.replicate (-leading d - 1).toNat '0' ++ digits d.coefficient) := rfl

theorem scientific_eq (d : Scientific) :
    numberLayout.scientific d =
      (digits d.coefficient).take 1 ++
        (if ((digits d.coefficient).drop 1).isEmpty then []
          else '.' :: (digits d.coefficient).drop 1) ++
        'e' :: signText (decide (leading d < 0)) ++ digits (leading d).natAbs := by
  by_cases down : leading d < 0
  · have sign : (if leading d < 0 then ['-'] else if numberLayout.plus then ['+'] else []) =
        signText (decide (leading d < 0)) := by simp [signText, down]
    rw [← sign]
    rfl
  · have sign : (if leading d < 0 then ['-'] else if numberLayout.plus then ['+'] else []) =
        signText (decide (leading d < 0)) := by simp [signText, down, numberLayout]
    rw [← sign]
    rfl

/-- The significand and the power of ten that the text of a decimal spells: a whole number that
is written out has one more zero, behind its point. -/
def spelled (d : Scientific) : Scientific :=
  if 0 ≤ d.exponent ∧ leading d ≤ 15 then ⟨d.coefficient * 10 ^ (d.exponent.toNat + 1), -1⟩ else d

section

variable {d : Scientific}

theorem fits_of_modest (modest : d.Modest) : d.coefficient ≤ digitLimit :=
  modest.coefficient_le.trans (by decide)

theorem eq_zero_of_head? (modest : d.Modest) (zero : (digits d.coefficient).head? = some '0') :
    d.coefficient = 0 ∧ d.exponent = 0 := by
  by_cases none : d.coefficient = 0
  · exact ⟨none, modest.exponent_eq none⟩
  · exact absurd zero (head?_digits_ne none)

theorem readUnsigned_whole_places (modest : d.Modest) (whole : 0 ≤ d.exponent)
    (short : leading d ≤ 15) :
    readUnsigned negative (numberLayout.places d) =
      (ofParts negative (d.coefficient * 10 ^ (d.exponent.toNat + 1)) (-1)).map (·, []) := by
  have place : leading d = d.exponent + (digits d.coefficient).length - 1 := rfl
  have text : numberLayout.places d =
      (digits d.coefficient ++ List.replicate d.exponent.toNat '0') ++ '.' :: ['0'] := by
    rw [places_eq, if_pos whole]
  have value : value ((digits d.coefficient ++ List.replicate d.exponent.toNat '0') ++ ['0']) =
      d.coefficient * 10 ^ (d.exponent.toNat + 1) := by
    rw [List.append_assoc, ← List.replicate_succ', value_append, value_zeros, value_digits,
      List.length_replicate, Nat.add_zero]
  have fits : d.coefficient * 10 ^ (d.exponent.toNat + 1) ≤ digitLimit := by
    calc d.coefficient * 10 ^ (d.exponent.toNat + 1)
        ≤ 10 ^ (digits d.coefficient).length * 10 ^ (d.exponent.toNat + 1) :=
          Nat.mul_le_mul_right _ (lt_pow_length_digits _).le
      _ = 10 ^ ((digits d.coefficient).length + (d.exponent.toNat + 1)) :=
          (Nat.pow_add 10 _ _).symm
      _ ≤ 10 ^ 17 := Nat.pow_le_pow_right (by omega) (by omega)
      _ ≤ digitLimit := by decide
  have leads : Leads (digits d.coefficient ++ List.replicate d.exponent.toNat '0') := by
    refine ⟨?_, by simp [digits_ne_nil], ?_⟩
    · intro c member
      rcases List.mem_append.mp member with member | member
      · exact isDigit_of_mem_digits member
      · rw [(List.mem_replicate.mp member).2]
        rfl
    · intro zero
      rw [List.head?_append_of_ne_nil _ (digits_ne_nil _)] at zero
      obtain ⟨none, unscaled⟩ := eq_zero_of_head? modest zero
      simp [none, unscaled, digits_of_lt]
  rw [text, ← value]
  exact readUnsigned_point leads (by simp) (by simp) (value ▸ fits)

theorem readUnsigned_mixed_places (modest : d.Modest) (broken : d.exponent < 0)
    (large : 0 ≤ leading d) :
    readUnsigned negative (numberLayout.places d) =
      (ofParts negative d.coefficient d.exponent).map (·, []) := by
  have place : leading d = d.exponent + (digits d.coefficient).length - 1 := rfl
  rw [places_eq, if_neg (by omega), if_pos large]
  have joined := List.take_append_drop ((leading d).toNat + 1) (digits d.coefficient)
  have after : (((digits d.coefficient).drop ((leading d).toNat + 1)).length : Int) =
      -d.exponent := by
    rw [List.length_drop]
    omega
  have leads : Leads ((digits d.coefficient).take ((leading d).toNat + 1)) := by
    refine ⟨fun c member => isDigit_of_mem_digits (List.mem_of_mem_take member),
      by simp [digits_ne_nil], fun zero => ?_⟩
    rw [List.head?_take, if_neg (by omega)] at zero
    have unscaled := (eq_zero_of_head? modest zero).2
    omega
  have filled : (digits d.coefficient).drop ((leading d).toNat + 1) ≠ [] := by
    intro none
    rw [none, List.length_nil] at after
    omega
  have read := @readUnsigned_point negative _ _ leads filled
    (fun c member => isDigit_of_mem_digits (List.mem_of_mem_drop member))
    (by rw [joined, value_digits]; exact fits_of_modest modest)
  rw [read, joined, value_digits, after, neg_neg]

theorem readUnsigned_small_places (modest : d.Modest) (small : leading d < 0) :
    readUnsigned negative (numberLayout.places d) =
      (ofParts negative d.coefficient d.exponent).map (·, []) := by
  have place : leading d = d.exponent + (digits d.coefficient).length - 1 := rfl
  have broken : d.exponent < 0 := by
    have filled := List.length_pos_iff.mpr (digits_ne_nil d.coefficient)
    omega
  rw [places_eq, if_neg (by omega), if_neg (by omega)]
  set zeros := (-leading d - 1).toNat with count
  have after : ((List.replicate zeros '0' ++ digits d.coefficient).length : Int) = -d.exponent := by
    rw [List.length_append, List.length_replicate]
    omega
  have value : value (['0'] ++ (List.replicate zeros '0' ++ digits d.coefficient)) =
      d.coefficient := by
    rw [value_append, value_append, value_zeros, value_digits]
    simp [value_singleton, digitValue]
  have all : ∀ c ∈ List.replicate zeros '0' ++ digits d.coefficient, c.isDigit = true := by
    intro c member
    rcases List.mem_append.mp member with member | member
    · rw [(List.mem_replicate.mp member).2]
      rfl
    · exact isDigit_of_mem_digits member
  have leads : Leads ['0'] := ⟨by simp, by simp, fun _ => rfl⟩
  have read := @readUnsigned_point negative _ _ leads (by simp [digits_ne_nil]) all
    (by rw [value]; exact fits_of_modest modest)
  rw [value, after, neg_neg] at read
  exact read

theorem readUnsigned_scientific (modest : d.Modest) :
    readUnsigned negative (numberLayout.scientific d) =
      (ofParts negative d.coefficient d.exponent).map (·, []) := by
  have place : leading d = d.exponent + (digits d.coefficient).length - 1 := rfl
  have joined := List.take_append_drop 1 (digits d.coefficient)
  have filled := List.length_pos_iff.mpr (digits_ne_nil d.coefficient)
  have leads : Leads ((digits d.coefficient).take 1) := by
    refine ⟨fun c member => isDigit_of_mem_digits (List.mem_of_mem_take member),
      by simp [digits_ne_nil], fun _ => ?_⟩
    rw [List.length_take]
    omega
  have reach : value (digits (leading d).natAbs) ≤ exponentLimit := by
    have short : (digits d.coefficient).length ≤ 58 := by
      refine length_digits_le (k := 57) (modest.coefficient_le.trans_lt (by decide))
    have exponent := modest.exponent_le
    have limit : 10000 ≤ exponentLimit := by decide
    rw [value_digits]
    omega
  rw [scientific_eq, readUnsigned_exponent leads
    (fun c member => isDigit_of_mem_digits (List.mem_of_mem_drop member))
    (by rw [joined, value_digits]; exact fits_of_modest modest)
    (digits_ne_nil _) (fun c => isDigit_of_mem_digits) reach, joined, value_digits, value_digits,
    List.length_drop]
  congr 2
  by_cases down : leading d < 0
  · simp only [down, decide_true, if_true]
    omega
  · simp only [down, decide_false, Bool.false_eq_true, if_false]
    omega

/-- What is read from the text of a decimal, whichever way it is written. -/
theorem readUnsigned_spelled (modest : d.Modest) :
    readUnsigned negative
        (if -5 ≤ leading d ∧ leading d ≤ 15 then numberLayout.places d
          else numberLayout.scientific d) =
      (ofParts negative (spelled d).coefficient (spelled d).exponent).map (·, []) := by
  have place : leading d = d.exponent + (digits d.coefficient).length - 1 := rfl
  have filled := List.length_pos_iff.mpr (digits_ne_nil d.coefficient)
  unfold spelled
  by_cases whole : 0 ≤ d.exponent ∧ leading d ≤ 15
  · rw [if_pos ⟨by omega, whole.2⟩, if_pos whole]
    exact readUnsigned_whole_places modest whole.1 whole.2
  · rw [if_neg whole]
    split_ifs with positional
    · by_cases large : 0 ≤ leading d
      · exact readUnsigned_mixed_places modest (by omega) large
      · exact readUnsigned_small_places modest (by omega)
    · exact readUnsigned_scientific modest

end

/-! A value that is a number. -/

def Digital (s : List Char) : Prop := ∃ c rest, s = c :: rest ∧ c.isDigit = true

theorem digital_digits (n : Nat) (rest : List Char) : Digital (digits n ++ rest) := by
  obtain ⟨c, tail, text⟩ := List.exists_cons_of_ne_nil (digits_ne_nil n)
  have member : c ∈ digits n := by simp [text]
  exact ⟨c, tail ++ rest, by rw [text, List.cons_append], isDigit_of_mem_digits member⟩

theorem digital_take_digits (n k : Nat) (rest : List Char) :
    Digital ((digits n).take (k + 1) ++ rest) := by
  obtain ⟨c, tail, text⟩ := List.exists_cons_of_ne_nil (digits_ne_nil n)
  have member : c ∈ digits n := by simp [text]
  exact ⟨c, tail.take k ++ rest, by rw [text, List.take_succ_cons, List.cons_append],
    isDigit_of_mem_digits member⟩

theorem digital_places (d : Scientific) : Digital (numberLayout.places d) := by
  rw [places_eq]
  split_ifs
  · rw [List.append_assoc]
    exact digital_digits ..
  · exact digital_take_digits ..
  · exact ⟨'0', _, rfl, rfl⟩

theorem digital_scientific (d : Scientific) : Digital (numberLayout.scientific d) := by
  rw [scientific_eq, List.append_assoc, List.append_assoc]
  exact digital_take_digits _ 0 _

def signed (negative : Bool) (s : List Char) : List Char := if negative then '-' :: s else s

/-- Neither a digit nor a minus sign begins anything but a number. -/
theorem readValue_signed {s : List Char} (digital : Digital s) (fuel depth : Nat) :
    readValue (fuel + 1) depth (signed negative s) = readUnsigned negative s := by
  obtain ⟨d, tail, rfl, digit⟩ := digital
  have minus : '-' ≠ d := by
    rintro rfl
    simp at digit
  obtain ⟨c, rest, text, first⟩ : ∃ c rest, signed negative (d :: tail) = c :: rest ∧
      (c = '-' ∨ c.isDigit = true) := by
    cases negative with
    | false => exact ⟨d, tail, rfl, .inr digit⟩
    | true => exact ⟨'-', d :: tail, rfl, .inl rfl⟩
  have other : ∀ x : Char, x ≠ '-' → x.isDigit = false → c ≠ x := by
    rintro x sign plain rfl
    rcases first with first | first
    · exact sign first
    · simp [first] at plain
  have kept : skipBlanks (c :: rest) = c :: rest := by
    simp [skipBlanks, isBlank, other]
  have number : readValue (fuel + 1) depth (c :: rest) = readNumeral (c :: rest) := by
    rw [readValue, kept]
    split
    all_goals first
      | rfl
      | next text => exact absurd (List.cons.inj text).1 (other _ (by decide) (by decide))
  rw [text, number, ← text]
  cases negative with
  | false =>
    unfold signed readNumeral
    simp [minus.symm]
  | true => rfl

theorem readValue_intText (i : Int64) (fuel depth : Nat) :
    readValue (fuel + 1) depth (intText i.toInt).toList = some (.int i.toInt, []) := by
  have least : -2 ^ 63 ≤ i.toInt := i.le_toInt
  have greatest : i.toInt < 2 ^ 63 := i.toInt_lt
  have limit : 2 ^ 63 ≤ digitLimit := by decide
  have digital (n : Nat) : Digital (digits n) := by simpa using digital_digits n []
  cases number : i.toInt with
  | ofNat n =>
    have text : (intText (.ofNat n)).toList = signed false (digits n) := by
      simp [intText, natText, signed]
    have fits : value (digits n) ≤ digitLimit := by
      rw [number, Int.ofNat_eq_natCast] at greatest
      rw [value_digits]
      omega
    rw [text, readValue_signed (digital n), readUnsigned_whole (leads_digits n) fits, value_digits]
    rfl
  | negSucc n =>
    have text : (intText (.negSucc n)).toList = signed true (digits (n + 1)) := by
      simp [intText, natText, signed]
    have fits : value (digits (n + 1)) ≤ digitLimit := by
      rw [value_digits]
      omega
    have within : ¬(n + 1 = 0 ∨ Nat.pow 2 63 < n + 1) := by
      rw [Nat.pow_eq]
      omega
    rw [text, readValue_signed (digital _), readUnsigned_whole (leads_digits _) fits, value_digits,
      ofWhole, if_pos rfl, if_neg within]
    rfl

end Json
end DualMode
