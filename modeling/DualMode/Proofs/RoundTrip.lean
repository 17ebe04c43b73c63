import DualMode.Literal.Json
import DualMode.Proofs.Numerals

/-! Plain values written as JSON and read again. Nothing in the text names the type, and still it
is always found again: a text stands between quotes, a whole number has neither point nor exponent,
and a double has one of them. -/

namespace DualMode

namespace Json

/-! Texts between quotes. -/

theorem hexValue?_hexDigit (n : Nat) : hexValue? (hexDigit n) = some (n % 16) := by
  have table : ∀ m : Fin 16, hexValue? (Nat.digitChar m) = some m.val := by decide
  exact table ⟨n % 16, Nat.mod_lt _ (by omega)⟩

theorem hexDigit_plain (n : Nat) : hexDigit n ≠ '"' ∧ hexDigit n ≠ '\\' := by
  have table : ∀ m : Fin 16, Nat.digitChar m ≠ '"' ∧ Nat.digitChar m ≠ '\\' := by decide
  exact table ⟨n % 16, Nat.mod_lt _ (by omega)⟩

theorem readUnicode_control {c : Char} (control : c.toNat < 0x20) (rest : List Char) :
    readUnicode ('0' :: '0' :: hexDigit (c.toNat / 16) :: hexDigit c.toNat :: rest) =
      some (c, rest) := by
  have zero : hexValue? '0' = some 0 := rfl
  have read : readUnit ('0' :: '0' :: hexDigit (c.toNat / 16) :: hexDigit c.toNat :: rest) =
      some (c.toNat, rest) := by
    simp only [readUnit, zero, hexValue?_hexDigit, Option.bind_eq_bind, Option.bind_some,
      Option.pure_def]
    congr 2
    omega
  unfold readUnicode
  rw [read]
  have high : ¬(0xD800 ≤ c.toNat ∧ c.toNat < 0xDC00) := by omega
  have low : ¬(0xDC00 ≤ c.toNat ∧ c.toNat < 0xE000) := by omega
  simp [high, low]

/-- A character is escaped by one character, escaped by its code, or written as it is. -/
inductive Escaped (c : Char) : List Char → Prop
  | short (d : Char) (read : ∀ rest, readEscape (d :: rest) = some (c, rest)) : Escaped c ['\\', d]
  | code (control : c.toNat < 0x20) :
    Escaped c ['\\', 'u', '0', '0', hexDigit (c.toNat / 16), hexDigit c.toNat]
  | plain (quote : c ≠ '"') (backslash : c ≠ '\\') (printed : ¬c.toNat < 0x20) : Escaped c [c]

theorem escaped (c : Char) : Escaped c (escapeChar c) := by
  unfold escapeChar
  split_ifs with quote backslash backspace feed line carriage tab control
  · exact .short '"' fun _ => by rw [quote]; rfl
  · exact .short '\\' fun _ => by rw [backslash]; rfl
  · exact .short 'b' fun _ => by rw [backspace]; rfl
  · exact .short 'f' fun _ => by rw [feed]; rfl
  · exact .short 'n' fun _ => by rw [line]; rfl
  · exact .short 'r' fun _ => by rw [carriage]; rfl
  · exact .short 't' fun _ => by rw [tab]; rfl
  · exact .code control
  · exact .plain quote backslash control

theorem splitQuote_cons {c : Char} (quote : c ≠ '"') (backslash : c ≠ '\\') (s : List Char) :
    splitQuote (c :: s) = (splitQuote s).map fun (cs, rest) => (c :: cs, rest) := by
  rw [splitQuote]
  · exact quote
  · rintro d rest same -
    exact backslash same

/-- No quote of the text itself ends it. -/
theorem splitQuote_escaped {c : Char} {cs : List Char} (written : Escaped c cs) (s : List Char) :
    splitQuote (cs ++ s) = (splitQuote s).map fun (ds, rest) => (cs ++ ds, rest) := by
  cases written with
  | short d read => rfl
  | code control =>
    have first := hexDigit_plain (c.toNat / 16)
    have second := hexDigit_plain c.toNat
    simp only [List.cons_append, List.nil_append, splitQuote,
      splitQuote_cons (c := '0') (by decide) (by decide), splitQuote_cons first.1 first.2,
      splitQuote_cons second.1 second.2, Option.map_map]
    rfl
  | plain quote backslash printed => exact splitQuote_cons quote backslash s

theorem splitQuote_text (s rest : List Char) :
    splitQuote (s.flatMap escapeChar ++ '"' :: rest) = some (s.flatMap escapeChar, rest) := by
  induction s with
  | nil => rfl
  | cons c s ih =>
    rw [List.flatMap_cons, List.append_assoc, splitQuote_escaped (escaped c), ih]
    rfl

theorem readChars_escaped {c : Char} {cs : List Char} (written : Escaped c cs) (fuel : Nat)
    (s : List Char) : readChars (fuel + 1) (cs ++ s) = (readChars fuel s).map (c :: ·) := by
  cases written with
  | short d read =>
    simp only [List.cons_append, List.nil_append, readChars, read, Option.bind_eq_bind,
      Option.bind_some]
    cases readChars fuel s <;> rfl
  | code control =>
    have read : readEscape ('u' :: '0' :: '0' :: hexDigit (c.toNat / 16) :: hexDigit c.toNat :: s) =
        some (c, s) := readUnicode_control control s
    simp only [List.cons_append, List.nil_append, readChars, read, Option.bind_eq_bind,
      Option.bind_some]
    cases readChars fuel s <;> rfl
  | plain quote backslash printed =>
    rw [List.singleton_append, readChars, if_neg printed]
    · cases readChars fuel s <;> rfl
    · exact backslash

theorem readChars_text {fuel : Nat} {s : List Char} (enough : s.length ≤ fuel) :
    readChars fuel (s.flatMap escapeChar) = some s := by
  induction s generalizing fuel with
  | nil => cases fuel <;> rfl
  | cons c s ih =>
    rw [List.length_cons] at enough
    obtain ⟨fuel, rfl⟩ : ∃ less, fuel = less + 1 := Nat.exists_eq_add_one.mpr (by omega)
    rw [List.flatMap_cons, readChars_escaped (escaped c), ih (by omega)]
    rfl

theorem length_le_length_flatMap (s : List Char) : s.length ≤ (s.flatMap escapeChar).length := by
  induction s with
  | nil => exact Nat.le_refl _
  | cons c s ih =>
    have one : 1 ≤ (escapeChar c).length := by
      have written := escaped c
      generalize escapeChar c = cs at written ⊢
      cases written <;> simp
    rw [List.flatMap_cons, List.length_cons, List.length_append]
    omega

theorem readString_text (s : String) (rest : List Char) :
    readString (s.toList.flatMap escapeChar ++ '"' :: rest) = some (s, rest) := by
  have chars := readChars_text (length_le_length_flatMap s.toList)
  simp only [readString, splitQuote_text, chars, Option.bind_eq_bind, Option.bind_some,
    Option.pure_def, String.ofList_toList]

end Json

namespace Binary64

variable {x : Float} {negative : Bool} {m : Nat} {e : Int}

open Float.Model.UnpackedFloat Float.Model.Format in
/-- The greatest exponent is left to what is not finite. -/
theorem isFinite_iff_scale (x : Float) :
    x.isFinite = true ↔ x.toBits.toNat / 2 ^ 52 % 2048 ≠ 2047 := by
  have scale : (@unpackExponent binary64 x.toBits.toBitVec).toNat =
      x.toBits.toNat / 2 ^ 52 % 2048 := by
    simp [unpackExponent, Nat.shiftRight_eq_div_pow]
  have top : @unpackExponent binary64 x.toBits.toBitVec = -1#_ ↔
      x.toBits.toNat / 2 ^ 52 % 2048 = 2047 := by
    rw [← BitVec.toNat_inj, scale]
    rfl
  rw [ne_eq, ← top]
  show (unpack binary64 x.toBits.toBitVec).isFinite = true ↔ _
  unfold unpack
  dsimp only
  by_cases greatest : @unpackExponent binary64 x.toBits.toBitVec = -1#_
  · rw [if_pos greatest]
    refine iff_of_false ?_ (not_not_intro greatest)
    by_cases whole : @unpackMantissa binary64 x.toBits.toBitVec = 0#_
    · rw [if_pos whole]
      exact Bool.false_ne_true
    · rw [if_neg whole]
      exact Bool.false_ne_true
  · rw [if_neg greatest]
    refine iff_of_true ?_ greatest
    by_cases least : @unpackExponent binary64 x.toBits.toBitVec = 0#_
    · rw [if_pos least]
      by_cases whole : @unpackMantissa binary64 x.toBits.toBitVec = 0#_
      · rw [dif_pos whole]
        rfl
      · rw [dif_neg whole]
        rfl
    · rw [if_neg least]
      rfl

theorem isFinite_iff : x.isFinite = true ↔ ∃ negative m e, ofFloat x = .finite negative m e := by
  rw [isFinite_iff_scale]
  unfold ofFloat ofBits
  dsimp only [Nat.pow_eq]
  split_ifs with top fraction
  · simp [top]
  · simp [top]
  · simp [top]
  · simp [top]

theorem finite_bounds (finite : ofFloat x = .finite negative m e) :
    m < 2 ^ 53 ∧ -1074 ≤ e ∧ e ≤ 971 := by
  unfold ofFloat ofBits at finite
  dsimp only [Nat.pow_eq] at finite
  have fraction : x.toBits.toNat % 2 ^ 52 < 2 ^ 52 := Nat.mod_lt _ (by omega)
  have scale : x.toBits.toNat / 2 ^ 52 % 2048 < 2048 := Nat.mod_lt _ (by omega)
  split_ifs at finite with top none low
  · obtain ⟨-, rfl, rfl⟩ := Binary64.finite.inj finite
    omega
  · obtain ⟨-, rfl, rfl⟩ := Binary64.finite.inj finite
    omega

end Binary64

namespace Json

open Decimal

def decimalOf (m : Nat) (e : Int) : Scientific := if m = 0 then ⟨0, 0⟩ else shortest .even m e

/-- The double that is read from the numeral of a finite one. The significand of the numeral is
scaled in doubles, each step of which is rounded, so that this may be one of its neighbours. -/
def numeralValue? (x : Float) : Option Float :=
  match Binary64.ofFloat x with
  | .finite negative m e =>
    let d := spelled (decimalOf m e)
    (scaleDouble 4 (Float.ofNat d.coefficient) d.exponent).map fun y => if negative then -y else y
  | _ => none

/-- Reading misses this double by one place. -/
example : numeralValue? 8.4143376e-68 = some 8.414337600000001e-68 := by decide +kernel

theorem magnitude_eq (m : Nat) (e : Int) :
    numberLayout.magnitude m e =
      if -5 ≤ leading (decimalOf m e) ∧ leading (decimalOf m e) ≤ 15 then
        numberLayout.places (decimalOf m e)
      else numberLayout.scientific (decimalOf m e) := by
  by_cases zero : m = 0
  · have place : leading ⟨0, 0⟩ = 0 := by simp [leading, digits_of_lt]
    simp [Decimal.Layout.magnitude, decimalOf, zero, place]
  · unfold Decimal.Layout.magnitude decimalOf
    rw [if_neg zero, if_neg zero]
    rfl

theorem modest_decimalOf {x : Float} {negative : Bool} {m : Nat} {e : Int}
    (finite : Binary64.ofFloat x = .finite negative m e) : (decimalOf m e).Modest := by
  obtain ⟨small, least, greatest⟩ := Binary64.finite_bounds finite
  unfold decimalOf
  split_ifs with zero
  · exact Scientific.modest_zero
  · exact modest_shortest (Nat.pos_of_ne_zero zero) small least greatest

theorem digital_magnitude (m : Nat) (e : Int) : Digital (numberLayout.magnitude m e) := by
  rw [magnitude_eq]
  split_ifs
  · exact digital_places _
  · exact digital_scientific _

/-- The text of a finite double is a numeral, from which no whole number is read. -/
theorem readValue_floatText {x : Float} (finite : x.isFinite = true) (fuel depth : Nat) :
    readValue (fuel + 1) depth (floatText x).toList =
      (numeralValue? x).map fun y => (.float y, []) := by
  obtain ⟨negative, m, e, parts⟩ := Binary64.isFinite_iff.mp finite
  have text : (floatText x).toList = signed negative (numberLayout.magnitude m e) := by
    simp [floatText, Decimal.Layout.write, parts, signed]
  rw [text, readValue_signed (digital_magnitude m e), magnitude_eq,
    readUnsigned_spelled (modest_decimalOf parts)]
  simp [numeralValue?, parts, ofParts, Option.map_map, Function.comp_def]

theorem floatText_of_not_isFinite {x : Float} (infinite : ¬x.isFinite = true) :
    floatText x = "null" := by
  have parts : ∀ negative m e, Binary64.ofFloat x ≠ .finite negative m e :=
    fun negative m e parts => infinite (Binary64.isFinite_iff.mpr ⟨negative, m, e, parts⟩)
  unfold floatText
  split
  · next parts' => exact absurd parts' (parts _ _ _)
  · rfl

theorem readValue_stringText (s : String) (fuel depth : Nat) :
    readValue (fuel + 1) depth (stringText s).toList = some (.text s, []) := by
  have text : (stringText s).toList = '"' :: (s.toList.flatMap escapeChar ++ ['"']) := by
    simp [stringText]
  rw [text]
  show (readString (s.toList.flatMap escapeChar ++ ['"'])).map _ = _
  rw [readString_text]
  rfl

end Json

namespace Literal

/-- Values that JSON can hold: all but the doubles without a numeral. -/
def Finite : Literal → Prop
  | float x => x.isFinite = true
  | _ => True

theorem ofJsonText_eq {text : String} {j : Json} {l : Literal}
    (read : ∀ fuel, Json.readValue (fuel + 1) Json.depthLimit text.toList = some (j, []))
    (plain : ofJson? j = some l) : ofJsonText text = .ok l := by
  have start : Json.readStart? Json.depthLimit text = some (j, []) := by
    have value := read (2 * text.toList.length + 3)
    simp [Json.readStart?, value, Json.skipBlanks]
  unfold ofJsonText
  simp [start, plain]

theorem ofJson?_int (i : Int64) : ofJson? (.int i.toInt) = some (int i) := by
  rw [ofJson?, if_pos ⟨i.minValue_le_toInt, i.toInt_le⟩, Int64.ofInt_toInt]

theorem ofJsonText_float {x y : Float} (finite : x.isFinite = true)
    (value : Json.numeralValue? x = some y) : ofJsonText (float x).jsonText = .ok (float y) := by
  refine ofJsonText_eq (j := .float y) (fun fuel => ?_) rfl
  have text : (float x).jsonText = Json.floatText x := by
    simp [jsonText, Json.render, toJson, Json.writeAfter]
  rw [text, Json.readValue_floatText finite, value]
  rfl

/-- A value that is written as JSON is read again as it was, type and all, and a double that is no
number is read as null. Of the other doubles it is supposed that the reader finds the same one
behind the numeral. -/
theorem ofJsonText_jsonText (l : Literal)
    (back : ∀ x, l = float x → x.isFinite = true → Json.numeralValue? x = some x) :
    (l.Finite → ofJsonText l.jsonText = .ok l) ∧
      (¬l.Finite → ofJsonText l.jsonText = .ok null) := by
  have null (fuel : Nat) :
      Json.readValue (fuel + 1) Json.depthLimit "null".toList = some (.null, []) := rfl
  have text : l.jsonText = l.toJson.writeAfter "" := rfl
  constructor
  · intro finite
    cases l with
    | null => exact ofJsonText_eq null rfl
    | bool b =>
      refine ofJsonText_eq (j := .bool b) (fun fuel => ?_) rfl
      cases b <;> rfl
    | int i =>
      refine ofJsonText_eq (fun fuel => ?_) (ofJson?_int i)
      rw [← Json.readValue_intText i fuel Json.depthLimit]
      simp [text, toJson, Json.writeAfter]
    | float x => exact ofJsonText_float finite (back x rfl finite)
    | text s =>
      refine ofJsonText_eq (j := .text s) (fun fuel => ?_) rfl
      rw [← Json.readValue_stringText s fuel Json.depthLimit]
      simp [text, toJson, Json.writeAfter]
  · intro infinite
    cases l with
    | float x =>
      have written : (float x).jsonText = "null" := by
        rw [text, toJson, Json.writeAfter, Json.floatText_of_not_isFinite infinite, String.empty_append]
      rw [written]
      exact ofJsonText_eq null rfl
    | null => exact absurd trivial infinite
    | bool b => exact absurd trivial infinite
    | int i => exact absurd trivial infinite
    | text s => exact absurd trivial infinite

theorem ofJsonText_jsonText_eighth :
    Json.numeralValue? 1.25e-7 = some 1.25e-7 ∧
      ofJsonText (float 1.25e-7).jsonText = .ok (float 1.25e-7) := by
  have back : Json.numeralValue? 1.25e-7 = some 1.25e-7 := by decide +kernel
  have finite : (1.25e-7 : Float).isFinite = true := by decide +kernel
  refine ⟨back, (ofJsonText_jsonText (float 1.25e-7) ?_).1 finite⟩
  rintro x ⟨⟩ -
  exact back

end Literal

end DualMode
