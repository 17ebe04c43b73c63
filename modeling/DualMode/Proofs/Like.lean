import DualMode.Literal.Combine
import Mathlib.Data.List.Forall2
import Mathlib.Data.List.Induction

/-! What the rows of a match stand for. A text matches a pattern if it falls into consecutive
pieces, one for each character of the pattern, and each entry of a row tells this of one beginning
of the pattern. -/

namespace DualMode
namespace Pattern

/-- What may stand for one character of a pattern. -/
def Fits (p : Char) (piece : List Char) : Prop :=
  if p = '%' then True else if p = '_' then piece.length = 1 else piece = [p]

/-- The text is consecutive pieces, one for each character of the pattern, in order. -/
def Cuts (pattern text : List Char) : Prop :=
  ∃ pieces, List.Forall₂ Fits pattern pieces ∧ pieces.flatten = text

@[simp] theorem fits_run (piece : List Char) : Fits '%' piece := trivial

theorem fits_nil_iff {p : Char} : Fits p [] ↔ p = '%' := by
  unfold Fits
  split_ifs with run one
  · simp [run]
  · simp [run]
  · simp [run]

theorem fits_concat_iff {p c : Char} {piece : List Char} (single : p ≠ '%') :
    Fits p (piece ++ [c]) ↔ (p = '_' ∨ p = c) ∧ piece = [] := by
  unfold Fits
  rw [if_neg single]
  split_ifs with one
  · simp [one]
  · rw [List.append_eq_singleton_iff]
    simp [one, and_comm, eq_comm]

theorem cuts_nil {text : List Char} : Cuts [] text ↔ text = [] := by
  simp [Cuts, eq_comm]

theorem cuts_cons {p : Char} {rest text : List Char} :
    Cuts (p :: rest) text ↔
      ∃ piece after, Fits p piece ∧ Cuts rest after ∧ piece ++ after = text := by
  unfold Cuts
  simp only [List.forall₂_cons_left_iff]
  constructor
  · rintro ⟨_, ⟨piece, pieces, fits, cut, rfl⟩, rfl⟩
    exact ⟨piece, pieces.flatten, fits, ⟨pieces, cut, rfl⟩, rfl⟩
  · rintro ⟨piece, _, fits, ⟨pieces, cut, rfl⟩, rfl⟩
    exact ⟨piece :: pieces, ⟨piece, pieces, fits, cut, rfl⟩, rfl⟩

theorem cuts_append {front back text : List Char} :
    Cuts (front ++ back) text ↔
      ∃ before after, Cuts front before ∧ Cuts back after ∧ before ++ after = text := by
  induction front generalizing text with
  | nil => simp [cuts_nil]
  | cons p front ih =>
    simp only [List.cons_append, cuts_cons, ih]
    constructor
    · rintro ⟨piece, _, fits, ⟨before, after, cut, cut', rfl⟩, rfl⟩
      exact ⟨piece ++ before, after, ⟨piece, before, fits, cut, rfl⟩, cut', List.append_assoc ..⟩
    · rintro ⟨_, after, ⟨piece, before, fits, cut, rfl⟩, cut', rfl⟩
      exact ⟨piece, _, fits, ⟨before, after, cut, cut', rfl⟩, (List.append_assoc ..).symm⟩

theorem cuts_concat {p : Char} {front text : List Char} :
    Cuts (front ++ [p]) text ↔
      ∃ before piece, Cuts front before ∧ Fits p piece ∧ before ++ piece = text := by
  have last {piece : List Char} : Cuts [p] piece ↔ Fits p piece := by simp [cuts_cons, cuts_nil]
  simp only [cuts_append, last]

theorem cuts_concat_nil {p : Char} {front : List Char} :
    Cuts (front ++ [p]) [] ↔ Cuts front [] ∧ p = '%' := by
  simp [cuts_concat, List.append_eq_nil_iff, fits_nil_iff]

/-- A run takes one more character, or it starts behind it. -/
theorem cuts_run_concat {c : Char} {front text : List Char} :
    Cuts (front ++ ['%']) (text ++ [c]) ↔
      Cuts front (text ++ [c]) ∨ Cuts (front ++ ['%']) text := by
  rw [cuts_concat, cuts_concat]
  constructor
  · rintro ⟨before, piece, cut, -, joined⟩
    rcases List.eq_nil_or_concat piece with rfl | ⟨piece, d, rfl⟩
    · rw [List.append_nil] at joined
      exact .inl (joined ▸ cut)
    · rw [List.concat_eq_append, ← List.append_assoc] at joined
      obtain ⟨rfl, -⟩ := List.append_singleton_inj.mp joined
      exact .inr ⟨before, piece, cut, fits_run piece, rfl⟩
  · rintro (cut | ⟨before, piece, cut, -, rfl⟩)
    · exact ⟨text ++ [c], [], cut, fits_run [], List.append_nil _⟩
    · exact ⟨before, piece ++ [c], cut, fits_run _, (List.append_assoc ..).symm⟩

theorem cuts_single_concat {p c : Char} {front text : List Char} (single : p ≠ '%') :
    Cuts (front ++ [p]) (text ++ [c]) ↔ (p = '_' ∨ p = c) ∧ Cuts front text := by
  rw [cuts_concat]
  constructor
  · rintro ⟨before, piece, cut, fits, joined⟩
    rcases List.eq_nil_or_concat piece with rfl | ⟨piece, d, rfl⟩
    · exact absurd (fits_nil_iff.mp fits) single
    · rw [List.concat_eq_append] at fits joined
      rw [← List.append_assoc] at joined
      obtain ⟨rfl, rfl⟩ := List.append_singleton_inj.mp joined
      obtain ⟨own, rfl⟩ := (fits_concat_iff single).mp fits
      rw [List.append_nil]
      exact ⟨own, cut⟩
  · rintro ⟨own, cut⟩
    have fits : Fits p ([] ++ [c]) := (fits_concat_iff single).mpr ⟨own, rfl⟩
    exact ⟨text, [c], cut, fits, rfl⟩

/-- The entries of a row tell which beginnings of the pattern the text can be cut by, from `front`
on to the whole. -/
inductive Tells (text : List Char) : (front rest : List Char) → List Bool → Prop
  | last {front : List Char} {entry : Bool} (tells : entry = true ↔ Cuts front text) :
    Tells text front [] [entry]
  | next {front rest : List Char} {p : Char} {entry : Bool} {row : List Bool}
      (tells : entry = true ↔ Cuts front text) (later : Tells text (front ++ [p]) rest row) :
    Tells text front (p :: rest) (entry :: row)

variable {text front rest : List Char} {row : List Bool}

theorem Tells.head (tells : Tells text front rest row) :
    ∃ entry below, row = entry :: below ∧ (entry = true ↔ Cuts front text) := by
  cases tells with
  | last tells => exact ⟨_, _, rfl, tells⟩
  | next tells later => exact ⟨_, _, rfl, tells⟩

theorem Tells.getLastD_iff (tells : Tells text front rest row) :
    row.getLastD false = true ↔ Cuts (front ++ rest) text := by
  induction tells with
  | last tells => simpa using tells
  | next tells later ih =>
    obtain ⟨entry, below, rfl, -⟩ := later.head
    simpa using ih

theorem tells_onEmptyAfter {before : Bool} (tells : before = true ↔ Cuts front [])
    (rest : List Char) : Tells [] front rest (before :: onEmptyAfter before rest) := by
  induction rest generalizing front before with
  | nil => exact .last tells
  | cons p rest ih =>
    refine .next tells (ih ?_)
    rw [Bool.and_eq_true, beq_iff_eq, cuts_concat_nil, tells]

/-- What the entry above, the one before it and the one before both tell is enough for the next. -/
theorem here_iff {p c : Char} {above before old : Bool} (tells : above = true ↔ Cuts front text)
    (left : before = true ↔ Cuts front (text ++ [c]))
    (up : old = true ↔ Cuts (front ++ [p]) text) :
    (if p = '%' then before || old else if p = '_' then above else above && p == c) = true ↔
      Cuts (front ++ [p]) (text ++ [c]) := by
  by_cases run : p = '%'
  · subst run
    rw [if_pos rfl, Bool.or_eq_true, cuts_run_concat, left, up]
  · rw [if_neg run, cuts_single_concat run, ← tells]
    by_cases one : p = '_'
    · simp [one]
    · simp [one, and_comm]

/-- From the row of a text to the row of the text with one more character. -/
theorem Tells.stepAfter {c : Char} {before : Bool} (tells : Tells text front rest row)
    (left : before = true ↔ Cuts front (text ++ [c])) :
    Tells (text ++ [c]) front rest (before :: stepAfter c before rest row) := by
  induction tells generalizing before with
  | last tells => exact .last left
  | next tells later ih =>
    obtain ⟨old, below, rfl, up⟩ := later.head
    exact .next left (ih (here_iff tells left up))

theorem Tells.step {pattern : List Char} (tells : Tells text [] pattern row) (c : Char) :
    Tells (text ++ [c]) [] pattern (step pattern row c) :=
  tells.stepAfter (by simp [cuts_nil])

theorem tells_row (pattern text : List Char) :
    Tells text [] pattern (Pattern.row pattern text) := by
  induction text using List.reverseRecOn with
  | nil => exact tells_onEmptyAfter (by simp [cuts_nil]) pattern
  | append_singleton text c ih =>
    rw [Pattern.row, List.foldl_concat]
    exact ih.step c

theorem isMatch_iff (pattern text : List Char) : isMatch pattern text = true ↔ Cuts pattern text :=
  (tells_row pattern text).getLastD_iff

end Pattern

/-- A text is like a pattern exactly if it falls into pieces that stand for the characters of the
pattern, and the two operators give this answer and the opposite one. -/
theorem Literal.combine_like (t p : String) :
    ∃ answer : Bool, (answer = true ↔ Pattern.Cuts p.toList t.toList) ∧ isLike t p = answer ∧
      combine (text t) .like (text p) = some (bool answer) ∧
      combine (text t) .notLike (text p) = some (bool !answer) :=
  ⟨isLike t p, Pattern.isMatch_iff .., rfl, rfl, rfl⟩

end DualMode
