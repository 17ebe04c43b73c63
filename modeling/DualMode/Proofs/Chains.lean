import DualMode.Clause.Adapt

/-! Chains of sources, each of which yields the next. The sources are asked one after the other, and
the limit says how many: behind the last of a chain that it covers stands what the chain comes to,
and the first source that it does not cover is refused without being asked. -/

namespace DualMode

variable {υ : Type}

namespace Clause

variable {c : Clause υ}

theorem follow_of_ne_extract (ends : ∀ s, c ≠ extract s) (limit remaining : Nat) :
    c.follow limit remaining = (c.adaptWithin limit remaining, []) := by
  cases c with
  | extract s => exact absurd rfl (ends s)
  | _ => cases remaining <;> rfl

theorem adaptWithin_of_ne_extract (ends : ∀ s, c ≠ extract s) (limit remaining : Nat) :
    c.adaptWithin limit remaining = c.adapt limit := by
  cases c with
  | extract s => exact absurd rfl (ends s)
  | _ => rfl

/-- The clause is the first of these sources, each yields the next one, and the last yields `t`;
without a source, the clause is `t`. -/
def Chain (t : Clause υ) : List (Source υ) → Clause υ → Prop
  | [], c => c = t
  | s :: rest, c => c = extract s ∧ Chain t rest s.next

variable {limit remaining : Nat} {t : Clause υ} {sources : List (Source υ)}

theorem Chain.literal?_eq_none (chain : Chain t sources c) (longer : sources ≠ []) :
    c.literal? = none := by
  cases sources with
  | nil => exact absurd rfl longer
  | cons s rest =>
    obtain ⟨rfl, -⟩ := chain
    rfl

/-- What the last source yields decides, unless it is a plain value. -/
theorem Chain.adaptWithin_expression (chain : Chain t sources c) (ends : ∀ s, t ≠ extract s)
    (expression : t.literal? = none) (covered : sources.length ≤ remaining) :
    c.adaptWithin limit remaining = t.adapt limit := by
  induction sources generalizing c remaining with
  | nil =>
    obtain rfl : c = t := chain
    exact adaptWithin_of_ne_extract ends limit remaining
  | cons s rest ih =>
    obtain ⟨rfl, later⟩ := chain
    obtain ⟨left, rfl⟩ := Nat.exists_eq_add_of_lt covered
    have next : s.next.literal? = none := by
      cases rest with
      | nil => rw [show s.next = t from later, expression]
      | cons s' rest => exact later.literal?_eq_none (List.cons_ne_nil _ _)
    rw [adaptWithin_succ, next]
    exact ih later (Nat.le_add_right _ _)

theorem Chain.adaptWithin_literal {l : Literal} (chain : Chain (literal l) sources c)
    (longer : sources ≠ []) (covered : sources.length ≤ remaining) :
    c.adaptWithin limit remaining = .error (.literalFrom l (sources.getLast longer).label) := by
  induction sources generalizing c remaining with
  | nil => exact absurd rfl longer
  | cons s rest ih =>
    obtain ⟨rfl, later⟩ := chain
    obtain ⟨left, rfl⟩ := Nat.exists_eq_add_of_lt covered
    rw [adaptWithin_succ]
    cases rest with
    | nil =>
      rw [show s.next = literal l from later]
      rfl
    | cons s' rest =>
      have further := List.cons_ne_nil s' rest
      rw [later.literal?_eq_none further, List.getLast_cons further]
      exact ih later further (Nat.le_add_right _ _)

/-- The first source beyond the limit is refused, whatever the chain comes to. -/
theorem Chain.adaptWithin_deeper (chain : Chain t sources c) (deeper : remaining < sources.length) :
    c.adaptWithin limit remaining = .error (.nestedTooDeep sources[remaining].label) := by
  induction sources generalizing c remaining with
  | nil => exact absurd deeper (Nat.not_lt_zero _)
  | cons s rest ih =>
    obtain ⟨rfl, later⟩ := chain
    cases remaining with
    | zero => exact adaptWithin_zero limit s
    | succ left =>
      have further : left < rest.length := Nat.lt_of_succ_lt_succ deeper
      have longer : rest ≠ [] := List.ne_nil_of_length_pos (Nat.zero_lt_of_lt further)
      rw [adaptWithin_succ, later.literal?_eq_none longer]
      exact ih later further

theorem Chain.follow_snd (chain : Chain t sources c)
    (ends : (∀ s, t ≠ extract s) ∨ remaining ≤ sources.length) :
    (c.follow limit remaining).2 = sources.take remaining := by
  induction sources generalizing c remaining with
  | nil =>
    obtain rfl : c = t := chain
    obtain ends | covered := ends
    · rw [follow_of_ne_extract ends, List.take_nil]
    · obtain rfl : remaining = 0 := Nat.le_zero.mp covered
      cases c <;> rfl
  | cons s rest ih =>
    obtain ⟨rfl, later⟩ := chain
    cases remaining with
    | zero => rfl
    | succ left =>
      have next := ih later (ends.imp_right Nat.le_of_succ_le_succ)
      rw [follow, List.take_succ_cons, ← next]
      cases s.next with
      | literal l => rw [follow_of_ne_extract (by simp)]; rfl
      | _ => rfl

/-- The first `n` of sources that go on for ever. -/
theorem chain_ofFn (sources : Nat → Source υ)
    (endless : ∀ n, (sources n).next = extract (sources (n + 1))) (n : Nat) :
    Chain (extract (sources n)) ((List.range n).map sources) (extract (sources 0)) := by
  induction n generalizing sources with
  | zero => rfl
  | succ n ih =>
    rw [List.range_succ_eq_map, List.map_cons, List.map_map]
    refine ⟨rfl, ?_⟩
    rw [endless]
    exact ih (fun k => sources (k + 1)) (fun k => endless (k + 1))

/-- What a chain of sources comes to, under any limit. Within it, the clause behind the last source
decides, which must not be a plain value; the first source beyond it is refused; and as many are
asked as there are, or as the limit allows. Without a source, a plain value is bound. -/
theorem adapt_chain (limit : Nat) :
    (∀ c : Clause υ, (c.follow limit limit).1 = c.adapt limit) ∧
    (∀ (t c : Clause υ) (sources : List (Source υ)), Chain t sources c → (∀ s, t ≠ extract s) →
      c.asked limit = sources.take limit ∧
      (c.asked limit).length = min sources.length limit ∧
      (sources = [] → c.adapt limit = t.adapt limit ∧
        ∀ l, t = literal l → c.adapt limit = .ok l.node) ∧
      (∀ longer : sources ≠ [], sources.length ≤ limit →
        (t.literal? = none → c.adapt limit = t.adapt limit) ∧
        ∀ l, t = literal l →
          c.adapt limit = .error (.literalFrom l (sources.getLast longer).label)) ∧
      ∀ deeper : limit < sources.length,
        c.adapt limit = .error (.nestedTooDeep sources[limit].label)) ∧
    ∀ sources : Nat → Source υ, (∀ n, (sources n).next = extract (sources (n + 1))) →
      (extract (sources 0)).adapt limit = .error (.nestedTooDeep (sources limit).label) ∧
      (extract (sources 0)).asked limit = (List.range limit).map sources ∧
      ((extract (sources 0)).asked limit).length = limit := by
  refine ⟨follow_fst limit limit, ?_, ?_⟩
  · intro t c sources chain ends
    have inOrder : c.asked limit = sources.take limit := chain.follow_snd (.inl ends)
    refine ⟨inOrder, ?_, ?_, ?_, chain.adaptWithin_deeper⟩
    · rw [inOrder, List.length_take, Nat.min_comm]
    · rintro rfl
      obtain rfl : c = t := chain
      exact ⟨rfl, by rintro l rfl; rfl⟩
    · intro longer covered
      refine ⟨fun expression => chain.adaptWithin_expression ends expression covered, ?_⟩
      rintro l rfl
      exact chain.adaptWithin_literal longer covered
  · intro sources endless
    have inOrder : (extract (sources 0)).asked limit = (List.range limit).map sources := by
      rw [asked, (chain_ofFn sources endless limit).follow_snd (.inr (by simp))]
      exact List.take_of_length_le (by simp)
    refine ⟨?_, inOrder, by simp [inOrder]⟩
    have deeper : limit < ((List.range (limit + 1)).map sources).length := by simp
    rw [adapt, (chain_ofFn sources endless (limit + 1)).adaptWithin_deeper deeper]
    simp

def plainBehindTwo : Clause Empty :=
  .extract (.yields "outer" (.extract (.yields "inner" (.literal (.text "plain")))))

/-- The value is refused at the limit, its source just beyond it, and a source that yields itself
when it was asked as often as allowed. -/
theorem adapt_chain_plainBehindTwo :
    Chain (literal (.text "plain"))
      [.yields "outer" (.extract (.yields "inner" (.literal (.text "plain")))),
        .yields "inner" (.literal (.text "plain"))] plainBehindTwo ∧
    plainBehindTwo.adapt 2 = .error (.literalFrom (.text "plain") "inner") ∧
    plainBehindTwo.adapt 1 = .error (.nestedTooDeep "inner") ∧
    (extract (.endless fun _ => "loop") : Clause Empty).adapt 2 = .error (.nestedTooDeep "loop") ∧
    ((extract (.endless fun _ => "loop") : Clause Empty).asked 2).length = 2 := by
  have chain : Chain (literal (.text "plain"))
      [.yields "outer" (.extract (.yields "inner" (.literal (.text "plain")))),
        .yields "inner" (.literal (.text "plain"))] plainBehindTwo := ⟨rfl, rfl, rfl⟩
  obtain ⟨-, -, -, within, -⟩ := (adapt_chain 2).2.1 _ _ _ chain nofun
  obtain ⟨-, -, -, -, beyond⟩ := (adapt_chain 1).2.1 _ _ _ chain nofun
  obtain ⟨refused, -, often⟩ :=
    (adapt_chain 2).2.2 (fun _ => (.endless fun _ => "loop" : Source Empty)) (fun _ => rfl)
  exact ⟨chain, (within (List.cons_ne_nil _ _) (Nat.le_refl 2)).2 _ rfl,
    beyond (Nat.lt_succ_self 1), refused, often⟩

end Clause
end DualMode
