import DualMode.Literal.Combine

/-! The six comparisons of plain values other than doubles. How two values stand to each other
decides all six: they are in one order, or have none and are only told apart, or one of them is
null, or they are of different types. So the comparisons agree with each other and with equality. -/

namespace DualMode

namespace BinaryOp

def orders : List BinaryOp := [lt, lte, gt, gte]

def comparisons : List BinaryOp := eq :: ne :: orders

end BinaryOp

/-- How two values stand to each other. -/
inductive Standing
  | ordered (o : Ordering)
  /-- They are the same or not, and have no order. -/
  | told (same : Bool)
  /-- They are the same or not, and their order is lost, since one of them is null. -/
  | lost (same : Bool)
  /-- They cannot be compared at all. -/
  | apart

namespace Standing

def swap : Standing → Standing
  | ordered o => ordered o.swap
  | s => s

def verdict (op : BinaryOp) : Standing → Option Literal
  | ordered o => Literal.ofVerdict? op o
  | told same =>
    match op with
    | .eq => some (.bool same)
    | .ne => some (.bool !same)
    | _ => none
  | lost same =>
    match op with
    | .eq => some (.bool same)
    | .ne => some (.bool !same)
    | _ => some .null
  | apart => none

def same? : Standing → Option Bool
  | ordered o => some (o == .eq)
  | told same => some same
  | lost same => some same
  | apart => none

variable (s : Standing)

theorem verdict_eq : s.verdict .eq = s.same?.map .bool := by
  cases s <;> rfl

theorem verdict_ne : s.verdict .ne = s.same?.map fun same => .bool !same := by
  cases s <;> rfl

theorem same?_swap : s.swap.same? = s.same? := by
  cases s with
  | ordered o => cases o <;> rfl
  | _ => rfl

theorem verdict_gt_swap : s.swap.verdict .gt = s.verdict .lt := by
  cases s with
  | ordered o => cases o <;> rfl
  | _ => rfl

theorem verdict_gte_swap : s.swap.verdict .gte = s.verdict .lte := by
  cases s with
  | ordered o => cases o <;> rfl
  | _ => rfl

variable {s}

theorem verdict_lost {op : BinaryOp} (order : op ∈ BinaryOp.orders) (same : Bool) :
    (lost same).verdict op = some .null := by
  cases op with
  | eq => exact absurd order (by decide)
  | ne => exact absurd order (by decide)
  | _ => rfl

theorem verdict_told {op : BinaryOp} (order : op ∈ BinaryOp.orders) (same : Bool) :
    (told same).verdict op = none := by
  cases op with
  | eq => exact absurd order (by decide)
  | ne => exact absurd order (by decide)
  | _ => rfl

theorem verdict_lt_iff : s.verdict .lt = some (.bool true) ↔ s = ordered .lt := by
  cases s with
  | ordered o => cases o <;> simp [verdict, Literal.ofVerdict?, BinaryOp.verdict?]
  | _ => simp [verdict]

theorem verdict_ordered (o : Ordering) :
    ∃ l e g, [l, e, g].count true = 1 ∧
      (ordered o).verdict .lt = some (.bool l) ∧ (ordered o).verdict .eq = some (.bool e) ∧
      (ordered o).verdict .gt = some (.bool g) ∧ (ordered o).verdict .lte = some (.bool !g) ∧
      (ordered o).verdict .gte = some (.bool !l) := by
  refine ⟨o == .lt, o == .eq, o == .gt, ?_, rfl, rfl, rfl, rfl, rfl⟩
  cases o <;> rfl

end Standing

namespace Literal

def IsFloat : Literal → Prop
  | float _ => True
  | _ => False

/-- Both are whole numbers, or both are texts. -/
inductive Ordered : Literal → Literal → Prop
  | ints (a b : Int64) : Ordered (int a) (int b)
  | texts (a b : String) : Ordered (text a) (text b)

/-- Values of one type can be compared, and null with all of them. -/
def Comparable (a b : Literal) : Prop := a.typeName = b.typeName ∨ a = null ∨ b = null

def standing : Literal → Literal → Standing
  | int a, int b => .ordered (compare a.toInt b.toInt)
  | text a, text b => .ordered (compare a b)
  | bool a, bool b => .told (a == b)
  | null, r => .lost r.isNull
  | _, null => .lost false
  | _, _ => .apart

variable {a b c : Literal}

/-- All six comparisons come from how the values stand to each other. -/
theorem combine_eq_verdict {op : BinaryOp} (compares : op ∈ BinaryOp.comparisons)
    (ha : ¬ a.IsFloat) (hb : ¬ b.IsFloat) : a.combine op b = (a.standing b).verdict op := by
  simp only [BinaryOp.comparisons, BinaryOp.orders, List.mem_cons, List.not_mem_nil,
    or_false] at compares
  cases a with
  | null =>
    cases b with
    | float x => exact absurd trivial hb
    | _ => obtain rfl | rfl | rfl | rfl | rfl | rfl := compares <;> rfl
  | bool x =>
    cases b with
    | float y => exact absurd trivial hb
    | _ => obtain rfl | rfl | rfl | rfl | rfl | rfl := compares <;> rfl
  | int x =>
    cases b with
    | float y => exact absurd trivial hb
    | _ => obtain rfl | rfl | rfl | rfl | rfl | rfl := compares <;> rfl
  | float x => exact absurd trivial ha
  | text x =>
    cases b with
    | float y => exact absurd trivial hb
    | _ => obtain rfl | rfl | rfl | rfl | rfl | rfl := compares <;> rfl

theorem standing_swap (a b : Literal) : b.standing a = (a.standing b).swap := by
  cases a with
  | null => cases b <;> rfl
  | bool x =>
    cases b with
    | bool y => simp only [standing, Standing.swap, Bool.beq_comm]
    | _ => rfl
  | int x =>
    cases b with
    | int y => exact congrArg Standing.ordered Std.OrientedOrd.eq_swap
    | _ => rfl
  | float x => cases b <;> rfl
  | text x =>
    cases b with
    | text y => exact congrArg Standing.ordered Std.OrientedOrd.eq_swap
    | _ => rfl

theorem same_iff (ha : ¬ a.IsFloat) : a.same b = true ↔ a = b := by
  cases a with
  | null => cases b <;> simp [same]
  | bool x => cases b <;> simp [same]
  | int x => cases b <;> simp [same]
  | float x => exact absurd trivial ha
  | text x => cases b <;> simp [same]

theorem compare_beq_eq {α : Type} [Ord α] [BEq α] [LawfulBEq α] [Std.LawfulEqOrd α] (x y : α) :
    (compare x y == .eq) = (x == y) := by
  rw [Bool.eq_iff_iff, beq_iff_eq, beq_iff_eq, Std.compare_eq_iff_eq]

/-- Where the comparison for equality has an answer, it is the equality of values. -/
theorem same?_standing (ha : ¬ a.IsFloat) :
    (Comparable a b ∧ (a.standing b).same? = some (a.same b)) ∨
      (¬ Comparable a b ∧ (a.standing b).same? = none) := by
  unfold Comparable
  cases a with
  | null => cases b <;> simp [standing, Standing.same?, same, isNull]
  | bool x => cases b <;> simp [standing, Standing.same?, same, typeName]
  | int x =>
    cases b with
    | int y =>
      have equal : (compare x.toInt y.toInt == .eq) = (x == y) := by
        rw [compare_beq_eq, Bool.eq_iff_iff, beq_iff_eq, beq_iff_eq, Int64.toInt_inj]
      exact .inl ⟨.inl rfl, congrArg some equal⟩
    | _ => simp [standing, Standing.same?, same, typeName]
  | float x => exact absurd trivial ha
  | text x =>
    cases b with
    | text y => exact .inl ⟨.inl rfl, congrArg some (compare_beq_eq x y)⟩
    | _ => simp [standing, Standing.same?, same, typeName]

theorem standing_cases (a b : Literal) :
    (Ordered a b ∧ ∃ o, a.standing b = .ordered o) ∨
      ((a = null ∨ b = null) ∧ ∃ same, a.standing b = .lost same) ∨
      (¬ Ordered a b ∧ a ≠ null ∧ b ≠ null ∧
        (a.standing b = .apart ∨ ∃ same, a.standing b = .told same)) := by
  cases a with
  | null => exact .inr (.inl ⟨.inl rfl, b.isNull, by cases b <;> rfl⟩)
  | bool x =>
    cases b with
    | null => exact .inr (.inl ⟨.inr rfl, false, rfl⟩)
    | bool y => exact .inr (.inr ⟨nofun, nofun, nofun, .inr ⟨x == y, rfl⟩⟩)
    | _ => exact .inr (.inr ⟨nofun, nofun, nofun, .inl rfl⟩)
  | int x =>
    cases b with
    | null => exact .inr (.inl ⟨.inr rfl, false, rfl⟩)
    | int y => exact .inl ⟨.ints x y, _, rfl⟩
    | _ => exact .inr (.inr ⟨nofun, nofun, nofun, .inl rfl⟩)
  | float x =>
    cases b with
    | null => exact .inr (.inl ⟨.inr rfl, false, rfl⟩)
    | _ => exact .inr (.inr ⟨nofun, nofun, nofun, .inl rfl⟩)
  | text x =>
    cases b with
    | null => exact .inr (.inl ⟨.inr rfl, false, rfl⟩)
    | text y => exact .inl ⟨.texts x y, _, rfl⟩
    | _ => exact .inr (.inr ⟨nofun, nofun, nofun, .inl rfl⟩)

theorem ordered_of_standing {o : Ordering} (standing : a.standing b = .ordered o) :
    Ordered a b := by
  obtain ⟨ordered, -⟩ | ⟨-, same, lost⟩ | ⟨-, -, -, apart | ⟨same, told⟩⟩ := standing_cases a b
  · exact ordered
  · cases standing.symm.trans lost
  · cases standing.symm.trans apart
  · cases standing.symm.trans told

theorem standing_lt_trans (hab : a.standing b = .ordered .lt) (hbc : b.standing c = .ordered .lt) :
    a.standing c = .ordered .lt := by
  cases ordered_of_standing hab with
  | ints x y =>
    cases ordered_of_standing hbc with
    | ints _ z =>
      have below : compare x.toInt z.toInt = .lt :=
        Std.TransCmp.lt_trans (Standing.ordered.inj hab) (Standing.ordered.inj hbc)
      exact congrArg Standing.ordered below
  | texts x y =>
    cases ordered_of_standing hbc with
    | texts _ z =>
      have below : compare x z = .lt :=
        Std.TransCmp.lt_trans (Standing.ordered.inj hab) (Standing.ordered.inj hbc)
      exact congrArg Standing.ordered below

theorem combine_equality_cases (ha : ¬ a.IsFloat) (hb : ¬ b.IsFloat) :
    (Comparable a b ∧ a.combine .eq b = some (bool (a.same b)) ∧
        a.combine .ne b = some (bool !a.same b)) ∨
      (¬ Comparable a b ∧ a.combine .eq b = none ∧ a.combine .ne b = none) := by
  rw [combine_eq_verdict (by decide) ha hb, combine_eq_verdict (by decide) ha hb,
    Standing.verdict_eq, Standing.verdict_ne]
  obtain ⟨comparable, same⟩ | ⟨apart, none⟩ := same?_standing ha (b := b)
  · exact .inl ⟨comparable, by rw [same]; rfl, by rw [same]; rfl⟩
  · exact .inr ⟨apart, by rw [none]; rfl, by rw [none]; rfl⟩

theorem combine_eq_true_iff (ha : ¬ a.IsFloat) (hb : ¬ b.IsFloat) :
    a.combine .eq b = some (bool true) ↔ a = b := by
  obtain ⟨-, eq, -⟩ | ⟨apart, eq, -⟩ := combine_equality_cases ha hb
  · rw [eq, Option.some.injEq, bool.injEq]
    exact same_iff ha
  · rw [eq]
    refine ⟨nofun, ?_⟩
    rintro rfl
    exact absurd (.inl rfl) apart

theorem combine_orders_cases (ha : ¬ a.IsFloat) (hb : ¬ b.IsFloat) :
    (Ordered a b ∧ ∃ l e g, [l, e, g].count true = 1 ∧
        a.combine .lt b = some (bool l) ∧ a.combine .eq b = some (bool e) ∧
        a.combine .gt b = some (bool g) ∧ a.combine .lte b = some (bool !g) ∧
        a.combine .gte b = some (bool !l)) ∨
      ((a = null ∨ b = null) ∧ ∀ op ∈ BinaryOp.orders, a.combine op b = some null) ∨
      (¬ Ordered a b ∧ a ≠ null ∧ b ≠ null ∧ ∀ op ∈ BinaryOp.orders, a.combine op b = none) := by
  have compared : ∀ op ∈ BinaryOp.comparisons, a.combine op b = (a.standing b).verdict op :=
    fun op compares => combine_eq_verdict compares ha hb
  have orders : ∀ op ∈ BinaryOp.orders, op ∈ BinaryOp.comparisons := by decide
  obtain ⟨ordered, o, stands⟩ | ⟨lost, same, stands⟩ | ⟨unordered, left, right, stands⟩ :=
    standing_cases a b
  · obtain ⟨l, e, g, one, lt, eq, gt, lte, gte⟩ := Standing.verdict_ordered o
    rw [← stands] at lt eq gt lte gte
    exact .inl ⟨ordered, l, e, g, one, (compared _ (by decide)).trans lt,
      (compared _ (by decide)).trans eq, (compared _ (by decide)).trans gt,
      (compared _ (by decide)).trans lte, (compared _ (by decide)).trans gte⟩
  · refine .inr (.inl ⟨lost, fun op order => ?_⟩)
    rw [compared op (orders op order), stands]
    exact Standing.verdict_lost order same
  · refine .inr (.inr ⟨unordered, left, right, fun op order => ?_⟩)
    rw [compared op (orders op order)]
    obtain apart | ⟨same, told⟩ := stands
    · rw [apart]
      rfl
    · rw [told]
      exact Standing.verdict_told order same

/-- The comparisons of values other than doubles agree with each other. Equality is symmetric, has
its opposite, and is that of the values themselves wherever these can be compared. Turned around,
less is greater. The four orders are known for two whole numbers or two texts, lost with null and
missing otherwise. Where they are known, exactly one of less, equal and greater holds, and the other
two are opposites. And less and equal are transitive. -/
theorem comparisons_cohere (ha : ¬ a.IsFloat) (hb : ¬ b.IsFloat) (hc : ¬ c.IsFloat) :
    (a.combine .eq b = b.combine .eq a ∧ a.combine .ne b = b.combine .ne a) ∧
    ((Comparable a b ∧ ∃ e, a.combine .eq b = some (bool e) ∧ a.combine .ne b = some (bool !e) ∧
        e = a.same b ∧ (e = true ↔ a = b)) ∨
      (¬ Comparable a b ∧ a.combine .eq b = none ∧ a.combine .ne b = none)) ∧
    (a.combine .lt b = b.combine .gt a ∧ a.combine .lte b = b.combine .gte a) ∧
    ((Ordered a b ∧ ∃ l e g, [l, e, g].count true = 1 ∧
        a.combine .lt b = some (bool l) ∧ a.combine .eq b = some (bool e) ∧
        a.combine .gt b = some (bool g) ∧ a.combine .lte b = some (bool !g) ∧
        a.combine .gte b = some (bool !l)) ∨
      ((a = null ∨ b = null) ∧ ∀ op ∈ BinaryOp.orders, a.combine op b = some null) ∨
      (¬ Ordered a b ∧ a ≠ null ∧ b ≠ null ∧ ∀ op ∈ BinaryOp.orders, a.combine op b = none)) ∧
    (a.combine .lt b = some (bool true) → b.combine .lt c = some (bool true) →
      a.combine .lt c = some (bool true)) ∧
    (a.combine .eq b = some (bool true) → b.combine .eq c = some (bool true) →
      a.combine .eq c = some (bool true)) := by
  have ab : ∀ op ∈ BinaryOp.comparisons, a.combine op b = (a.standing b).verdict op :=
    fun op compares => combine_eq_verdict compares ha hb
  have ba : ∀ op ∈ BinaryOp.comparisons, b.combine op a = (a.standing b).swap.verdict op :=
    fun op compares => (combine_eq_verdict compares hb ha).trans (by rw [standing_swap])
  refine ⟨⟨?_, ?_⟩, ?_, ⟨?_, ?_⟩, combine_orders_cases ha hb, ?_, ?_⟩
  · rw [ab _ (by decide), ba _ (by decide), Standing.verdict_eq, Standing.verdict_eq,
      Standing.same?_swap]
  · rw [ab _ (by decide), ba _ (by decide), Standing.verdict_ne, Standing.verdict_ne,
      Standing.same?_swap]
  · obtain ⟨comparable, eq, ne⟩ | apart := combine_equality_cases ha hb
    · exact .inl ⟨comparable, a.same b, eq, ne, rfl, same_iff ha⟩
    · exact .inr apart
  · rw [ab _ (by decide), ba _ (by decide), Standing.verdict_gt_swap]
  · rw [ab _ (by decide), ba _ (by decide), Standing.verdict_gte_swap]
  · rw [ab _ (by decide), combine_eq_verdict (by decide) hb hc,
      combine_eq_verdict (by decide) ha hc]
    simp only [Standing.verdict_lt_iff]
    exact standing_lt_trans
  · intro hab hbc
    rw [combine_eq_true_iff ha hb] at hab
    rw [combine_eq_true_iff hb hc] at hbc
    exact (combine_eq_true_iff ha hc).mpr (hab.trans hbc)

/-- Texts are compared as in a dictionary, and in no way with numbers. -/
theorem comparisons_cohere_texts :
    ¬ (text "apple").IsFloat ∧ ¬ (text "fig").IsFloat ∧ ¬ (text "figs").IsFloat ∧
      (text "apple").combine .lt (text "figs") = some (bool true) ∧
      (text "fig").combine .gt (text "apple") = some (bool true) ∧
      (text "apple").combine .eq (text "fig") = some (bool false) := by
  have less : (text "apple").combine .lt (text "fig") = some (bool true) := rfl
  have below : (text "fig").combine .lt (text "figs") = some (bool true) := rfl
  obtain ⟨-, equality, ⟨turned, -⟩, -, transitive, -⟩ :=
    comparisons_cohere (a := text "apple") (b := text "fig") (c := text "figs") id id id
  refine ⟨id, id, id, transitive less below, turned.symm.trans less, ?_⟩
  obtain ⟨-, e, eq, -, rfl, -⟩ | ⟨apart, -, -⟩ := equality
  · exact eq
  · exact absurd (.inl rfl) apart

end Literal
end DualMode
