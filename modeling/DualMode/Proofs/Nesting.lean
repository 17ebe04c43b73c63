import DualMode.Clause.Adapt
import Mathlib.Algebra.Order.BigOperators.Group.List
import Mathlib.Algebra.Order.Ring.Nat

/-! How far the reduction of a clause goes. The limit holds for sources that follow one another
directly. Behind an attribute the count starts again, so that a whole path may be as long as the
limit for the clause itself and once more for each attribute on it. -/

namespace DualMode

variable {υ : Type}

theorem Attribute.clauseElement_of_none {a : Attribute υ} (default : a.comparator.element? = none)
    (limit : Nat) : a.clauseElement limit = a.expression.adaptWithin limit limit :=
  (a.clauseElement_eq limit).trans (Comparator.clauseElement_of_none default limit)

theorem Attribute.clauseElement_of_some {a : Attribute υ} {r : Except Fault Node}
    (own : a.comparator.element? = some r) (limit : Nat) : a.clauseElement limit = r :=
  (a.clauseElement_eq limit).trans (Comparator.clauseElement_of_some own limit)

namespace Clause

/-- From one clause to another through sources and attributes: the number of sources up to the
first attribute, and then behind each attribute. -/
inductive Leads : Clause υ → Nat → List Nat → Clause υ → Prop
  | here (c : Clause υ) : Leads c 0 [] c
  | source {label : String} {c d : Clause υ} {n : Nat} {ns : List Nat} (rest : Leads c n ns d) :
      Leads (.extract (.yields label c)) (n + 1) ns d
  | endless {label : Nat → String} {d : Clause υ} {n : Nat} {ns : List Nat}
      (rest : Leads (.extract (.endless fun k => label (k + 1))) n ns d) :
      Leads (.extract (.endless label)) (n + 1) ns d
  | wrapped {a : Attribute υ} {d : Clause υ} {n : Nat} {ns : List Nat}
      (default : a.comparator.element? = none) (rest : Leads a.expression n ns d) :
      Leads (.attr a) 0 (n :: ns) d

/-- The clause is an expression at the end of a path. A plain value is none behind a source. -/
def Gives (sources : Nat) : Clause υ → Node → Prop
  | node n, e => n = e
  | literal l, e => sources = 0 ∧ l.node = e
  | column c, e => c.node = e
  | attr a, e => a.comparator.element? = some (.ok e)
  | extract _, _ => False

/-- Only a plain value asks how many sources are before it. -/
theorem Gives.of_literal?_eq_none {d : Clause υ} {e : Node} {m : Nat} (gives : d.Gives m e)
    (expression : d.literal? = none) (k : Nat) : d.Gives k e := by
  cases d with
  | literal l => cases expression
  | node n => exact gives
  | column c => exact gives
  | attr a => exact gives
  | extract s => exact gives

theorem Gives.literal?_eq_none {d : Clause υ} {e : Node} {m : Nat} (gives : d.Gives (m + 1) e) :
    d.literal? = none := by
  cases d with
  | literal l => exact absurd gives.1 (Nat.succ_ne_zero m)
  | node n => rfl
  | column c => rfl
  | attr a => rfl
  | extract s => rfl

/-- A path to the expression on which the limit is kept everywhere, with `remaining` sources up to
the first attribute. -/
def Reduces (limit remaining : Nat) (c : Clause υ) (e : Node) : Prop :=
  ∃ n ns d, c.Leads n ns d ∧ d.Gives (ns.getLastD n) e ∧ n ≤ remaining ∧ ∀ m ∈ ns, m ≤ limit

variable {limit remaining : Nat} {c d : Clause υ} {e : Node} {n : Nat} {ns : List Nat}

theorem reduces_here (gives : c.Gives 0 e) : c.Reduces limit remaining e :=
  ⟨0, [], c, .here c, gives, Nat.zero_le _, nofun⟩

theorem Reduces.source (reduces : c.Reduces limit remaining e) (expression : c.literal? = none)
    (label : String) : (extract (.yields label c)).Reduces limit (remaining + 1) e := by
  obtain ⟨n, ns, d, leads, gives, within, later⟩ := reduces
  refine ⟨n + 1, ns, d, .source leads, ?_, Nat.succ_le_succ within, later⟩
  cases ns with
  | cons m ms => simpa only [List.getLastD_cons] using gives
  | nil =>
    refine gives.of_literal?_eq_none ?_ (n + 1)
    cases n with
    | succ m => exact gives.literal?_eq_none
    | zero =>
      cases leads
      exact expression

theorem Reduces.wrapped {a : Attribute υ} (reduces : a.expression.Reduces limit limit e)
    (default : a.comparator.element? = none) : (attr a).Reduces limit remaining e := by
  obtain ⟨n, ns, d, leads, gives, within, later⟩ := reduces
  refine ⟨0, n :: ns, d, .wrapped default leads, ?_, Nat.zero_le _, ?_⟩
  · rw [List.getLastD_cons]
    exact gives
  · exact List.forall_mem_cons.mpr ⟨within, later⟩

end Clause

theorem Source.adaptEndless_eq (remaining : Nat) (label : Nat → String) :
    adaptEndless remaining label = .error (.nestedTooDeep (label remaining)) := by
  induction remaining generalizing label with
  | zero => rfl
  | succ left ih =>
    rw [adaptEndless]
    exact ih fun n => label (n + 1)

mutual

theorem Clause.reduces_of_adaptWithin {limit : Nat} {e : Node} : (c : Clause υ) →
    (remaining : Nat) → c.adaptWithin limit remaining = .ok e → c.Reduces limit remaining e
  | .node _, _, ran => Clause.reduces_here (Except.ok.inj ran)
  | .literal _, _, ran => Clause.reduces_here ⟨rfl, Except.ok.inj ran⟩
  | .column _, _, ran => Clause.reduces_here (Except.ok.inj ran)
  | .attr a, _, ran => Attribute.reduces_of_clauseElement a ran
  | .extract s, remaining, ran => Source.reduces_of_adaptWithin s remaining ran

theorem Source.reduces_of_adaptWithin {limit : Nat} {e : Node} : (s : Source υ) →
    (remaining : Nat) → s.adaptWithin limit remaining = .ok e →
      (Clause.extract s).Reduces limit remaining e
  | .endless label, remaining, ran => nomatch (Source.adaptEndless_eq remaining label).symm.trans ran
  | .yields label c, 0, ran => nomatch ran
  | .yields label c, left + 1, ran => by
    rw [Source.adaptWithin] at ran
    cases expression : c.literal? with
    | some l => simp [expression] at ran
    | none =>
      simp only [expression] at ran
      exact (Clause.reduces_of_adaptWithin c left ran).source expression label

theorem Attribute.reduces_of_clauseElement {limit remaining : Nat} {e : Node} :
    (a : Attribute υ) → a.clauseElement limit = .ok e → (Clause.attr a).Reduces limit remaining e
  | .mk _ _ _ _ _ (.builtin _ c _ _), ran =>
    (Clause.reduces_of_adaptWithin c limit ran).wrapped rfl
  | .mk _ _ _ _ _ (.custom c o), ran => by
    rw [Attribute.clauseElement, Comparator.clauseElement] at ran
    cases own : o.element with
    | none =>
      rw [own, Option.getD_none] at ran
      exact (Clause.reduces_of_adaptWithin c limit ran).wrapped own
    | some r =>
      rw [own, Option.getD_some] at ran
      exact Clause.reduces_here (own.trans (congrArg some ran))

end

namespace Clause

variable {limit remaining : Nat} {c d : Clause υ} {e : Node} {n : Nat} {ns : List Nat}

theorem Leads.literal?_eq_none (leads : c.Leads n ns d) (gives : d.Gives (ns.getLastD (n + 1)) e) :
    c.literal? = none := by
  cases leads with
  | here => exact gives.literal?_eq_none
  | source rest => rfl
  | endless rest => rfl
  | wrapped default rest => rfl

theorem Leads.not_gives_endless {label : Nat → String} {m : Nat}
    (leads : (extract (.endless label) : Clause υ).Leads n ns d) : ¬ d.Gives m e := by
  generalize start : (extract (.endless label) : Clause υ) = c at leads
  induction leads generalizing label with
  | here c =>
    subst start
    exact id
  | source rest ih => cases start
  | endless rest ih => exact ih rfl
  | wrapped default rest ih => cases start

/-- Where the limit is kept all along a path, its end is reached. -/
theorem Leads.adaptWithin_eq_ok (leads : c.Leads n ns d) (gives : d.Gives (ns.getLastD n) e)
    (within : n ≤ remaining) (later : ∀ m ∈ ns, m ≤ limit) :
    c.adaptWithin limit remaining = .ok e := by
  induction leads generalizing remaining with
  | here c =>
    cases c with
    | node n => exact congrArg Except.ok gives
    | literal l => exact congrArg Except.ok gives.2
    | column k => exact congrArg Except.ok gives
    | attr a => exact Attribute.clauseElement_of_some gives limit
    | extract s => exact gives.elim
  | @source label c d n ns rest ih =>
    obtain ⟨left, rfl⟩ : ∃ left, remaining = left + 1 := ⟨remaining - 1, by omega⟩
    have expression : c.literal? = none := rest.literal?_eq_none gives
    have closer : d.Gives (ns.getLastD n) e := by
      cases ns with
      | nil => exact gives.of_literal?_eq_none gives.literal?_eq_none n
      | cons m ms => simpa only [List.getLastD_cons] using gives
    rw [Clause.adaptWithin, Source.adaptWithin]
    simp only [expression]
    exact ih closer (Nat.le_of_succ_le_succ within) later
  | endless rest ih => exact absurd gives rest.not_gives_endless
  | wrapped default rest ih =>
    obtain ⟨first, later⟩ := List.forall_mem_cons.mp later
    rw [List.getLastD_cons] at gives
    exact (Attribute.clauseElement_of_none default limit).trans (ih gives first later)

theorem adaptWithin_endless (label : Nat → String) :
    (extract (.endless label) : Clause υ).adaptWithin limit remaining =
      .error (.nestedTooDeep (label remaining)) := by
  rw [Clause.adaptWithin]
  exact Source.adaptEndless_eq remaining label

/-- Where the limit is passed on a path, wherever it leads, there is no expression. -/
theorem Leads.adaptWithin_eq_error (leads : c.Leads n ns d)
    (deeper : remaining < n ∨ ∃ m ∈ ns, limit < m) :
    ∃ found, c.adaptWithin limit remaining = .error (.notExpression found) := by
  induction leads generalizing remaining with
  | here c => simp at deeper
  | @source label c d n ns rest ih =>
    rw [Clause.adaptWithin]
    cases remaining with
    | zero => exact ⟨_, rfl⟩
    | succ left =>
      rw [Source.adaptWithin]
      cases c.literal? with
      | some l => exact ⟨_, rfl⟩
      | none => exact ih (deeper.imp_left Nat.lt_of_succ_lt_succ)
  | endless rest ih => exact ⟨_, adaptWithin_endless _⟩
  | wrapped default rest ih =>
    obtain none | deeper := deeper
    · exact absurd none (Nat.not_lt_zero _)
    · obtain ⟨found, ran⟩ := ih (by simpa using deeper)
      exact ⟨found, (Attribute.clauseElement_of_none default limit).trans ran⟩

theorem adaptWithin_eq_ok_iff :
    c.adaptWithin limit remaining = .ok e ↔ c.Reduces limit remaining e := by
  refine ⟨c.reduces_of_adaptWithin remaining, ?_⟩
  rintro ⟨n, ns, d, leads, gives, within, later⟩
  exact leads.adaptWithin_eq_ok gives within later

/-- The limit bounds the sources up to the first attribute on the path and behind each attribute.
A clause adapts exactly if it is kept everywhere; then no path goes further than that allows, and
where it is passed there is no expression. -/
theorem adapt_limit (limit : Nat) (c : Clause υ) :
    (∀ e, c.adapt limit = .ok e ↔
      ∃ n ns d, c.Leads n ns d ∧ d.Gives (ns.getLastD n) e ∧ ∀ m ∈ n :: ns, m ≤ limit) ∧
    (∀ e, c.adapt limit = .ok e →
      ∀ n ns d, c.Leads n ns d → n + ns.sum ≤ limit * (ns.length + 1)) ∧
    ∀ n ns d, c.Leads n ns d → (∃ m ∈ n :: ns, limit < m) →
      ∃ found, c.adapt limit = .error (.notExpression found) := by
  have refused : ∀ n ns d, c.Leads n ns d → (∃ m ∈ n :: ns, limit < m) →
      ∃ found, c.adapt limit = .error (.notExpression found) := by
    intro n ns d leads deeper
    exact leads.adaptWithin_eq_error (by simpa using deeper)
  refine ⟨fun e => ?_, ?_, refused⟩
  · rw [adapt, adaptWithin_eq_ok_iff, Reduces]
    simp only [List.forall_mem_cons]
  · intro e ran n ns d leads
    have within : ∀ m ∈ n :: ns, m ≤ limit := by
      intro m hm
      by_contra deeper
      obtain ⟨found, error⟩ := refused n ns d leads ⟨m, hm, Nat.lt_of_not_le deeper⟩
      rw [ran] at error
      cases error
    have total := List.sum_le_card_nsmul (n :: ns) limit within
    rw [List.sum_cons, Nat.nsmul_eq_mul, List.length_cons, Nat.mul_comm] at total
    exact total

def halfway : Clause Empty := .extract (.yields "outer" (.attr (.mk ⟨0⟩
  { own := ⟨⟨1⟩, "Item", "item", [⟨"item", "code"⟩], []⟩, inherited := [] } none "code"
  { id := ⟨2⟩, name := "code" }
  (.builtin { own := ⟨⟨1⟩, "Item", "item", [⟨"item", "code"⟩], []⟩, inherited := [] }
    (.extract (.yields "inner" (.column ⟨"item", "code"⟩))) { id := ⟨2⟩, name := "code" } none))))

/-- A limit of one does not keep the reduction from following two sources. -/
theorem halfway_twice : halfway.adapt 1 = .ok (.column (some "item") "code") ∧
    halfway.Leads 1 [1] (.column ⟨"item", "code"⟩) ∧
    ¬ ∀ (limit : Nat) (c : Clause Empty) (e : Node), c.adapt limit = .ok e →
      ∀ n ns d, c.Leads n ns d → n + ns.sum ≤ limit := by
  have leads : halfway.Leads 1 [1] (.column ⟨"item", "code"⟩) :=
    .source (.wrapped rfl (.source (.here _)))
  refine ⟨rfl, leads, fun bounded => ?_⟩
  have two : 1 + [1].sum ≤ 1 := bounded 1 halfway _ rfl 1 [1] _ leads
  simp at two

end Clause
end DualMode
