import DualMode.Hybrid.Basic
import Mathlib.Data.List.Basic
import Mathlib.Data.List.Induction

/-! The parts of a hybrid, and what a run of changes makes of them. Each part is what the last
change of that part gave, or what it was before; the order of changes of different parts does not
matter, and neither does a change that a later one replaces. -/

namespace DualMode

variable {C : Callbacks}

inductive Part
  | getter | setter | deleter | expression | comparator | update | doc | info
  deriving DecidableEq

/-- What stands in a part. Only the getter and the notes are always there. -/
def Part.Content (C : Callbacks) : Part → Type
  | getter => C.Getter
  | setter => Option C.Setter
  | deleter => Option C.Deleter
  | expression => Option C.Expression
  | comparator => Option C.Comparator
  | update => Option C.Update
  | doc => Option String
  | info => List (String × Json)

namespace Change

def part : Change C → Part
  | getter _ => .getter
  | setter _ => .setter
  | deleter _ => .deleter
  | expression _ => .expression
  | comparator _ => .comparator
  | update _ => .update
  | doc _ => .doc
  | info _ => .info

def content? : (p : Part) → Change C → Option (p.Content C)
  | .getter, getter g => some g
  | .setter, setter s => some (some s)
  | .deleter, deleter d => some (some d)
  | .expression, expression e => some (some e)
  | .comparator, comparator c => some (some c)
  | .update, update u => some (some u)
  | .doc, doc text => some (some text)
  | .info, info fields => some fields
  | _, _ => none

theorem isSome_content?_part (c : Change C) : (c.content? c.part).isSome := by
  cases c <;> rfl

theorem content?_of_part_ne {c : Change C} {p : Part} (other : c.part ≠ p) :
    c.content? p = none := by
  cases c <;> cases p <;> simp_all [part, content?]

/-- What the last change of a part gives for it. -/
def last? (p : Part) (cs : List (Change C)) : Option (p.Content C) :=
  cs.reverse.findSome? (content? p)

variable (p : Part) (cs ds : List (Change C)) (c d : Change C)

theorem last?_append : last? p (cs ++ ds) = (last? p ds).or (last? p cs) := by
  simp [last?, List.findSome?_append]

theorem last?_cons : last? p (c :: cs) = (last? p cs).or (c.content? p) := by
  cases given : c.content? p <;> simp [last?, List.findSome?_append, given]

theorem last?_concat : last? p (cs ++ [c]) = (c.content? p).or (last? p cs) := by
  rw [last?_append, last?_cons]
  rfl

theorem isSome_last?_concat : (last? c.part (cs ++ [c])).isSome := by
  rw [last?_concat, Option.isSome_or, isSome_content?_part, Bool.true_or]

theorem eq_nil_of_last? {cs ds : List (Change C)} (same : ∀ p, last? p ds = last? p cs)
    (empty : cs = []) : ds = [] := by
  obtain rfl | ⟨ds, d, rfl⟩ := List.eq_nil_or_concat' ds
  · rfl
  · have given := isSome_last?_concat ds d
    rw [same, empty] at given
    cases given

variable {c d}

theorem last?_swap (apart : c.part ≠ d.part) : last? p (c :: d :: cs) = last? p (d :: c :: cs) := by
  simp only [last?_cons, Option.or_assoc]
  by_cases own : c.part = p
  · have other : d.content? p = none := content?_of_part_ne (own ▸ apart.symm)
    rw [other, Option.none_or, Option.or_none]
  · rw [content?_of_part_ne own, Option.none_or, Option.or_none]

variable {ds}

/-- A change of a part that a later one changes, too, may be left out. -/
theorem last?_superseded (later : d ∈ ds) (same : c.part = d.part) :
    last? p (c :: ds) = last? p ds := by
  rw [last?_cons]
  by_cases own : c.part = p
  · subst own
    have given : (last? c.part ds).isSome := by
      rw [last?, List.findSome?_isSome_iff]
      exact ⟨d, List.mem_reverse.2 later, same ▸ d.isSome_content?_part⟩
    obtain ⟨x, found⟩ := Option.isSome_iff_exists.1 given
    rw [found, Option.some_or]
  · rw [content?_of_part_ne own, Option.or_none]

end Change

namespace Hybrid

def part (h : Hybrid C) : (p : Part) → p.Content C
  | .getter => h.getter
  | .setter => h.setter
  | .deleter => h.deleter
  | .expression => h.expression
  | .comparator => h.comparator
  | .update => h.update
  | .doc => h.about.doc
  | .info => h.about.info

theorem part_change (h : Hybrid C) (c : Change C) (p : Part) :
    (h.change c).part p = (c.content? p).getD (h.part p) := by
  cases c <;> cases p <;> rfl

/-- The same but for the identity and the views. -/
structure Alike (h k : Hybrid C) : Prop where
  name : h.name = k.name
  part : ∀ p, h.part p = k.part p

namespace Alike

variable {h k l : Hybrid C}

theorem refl (h : Hybrid C) : h.Alike h := ⟨rfl, fun _ => rfl⟩

theorem symm (alike : h.Alike k) : k.Alike h := ⟨alike.name.symm, fun p => (alike.part p).symm⟩

theorem trans (first : h.Alike k) (second : k.Alike l) : h.Alike l :=
  ⟨first.name.trans second.name, fun p => (first.part p).trans (second.part p)⟩

end Alike

def renew (h : Hybrid C) (id : MemberId) (cache : CacheId) : Hybrid C :=
  { h with about := { h.about with id := id }, cache := cache }

theorem alike_renew (h : Hybrid C) (id : MemberId) (cache : CacheId) :
    h.Alike (h.renew id cache) := by
  refine ⟨rfl, fun p => ?_⟩
  cases p <;> rfl

theorem change_renew (h : Hybrid C) (id : MemberId) (cache : CacheId) (c : Change C) :
    (h.renew id cache).change c = (h.change c).renew id cache := by
  cases c <;> rfl

theorem Alike.eq_renew {h k : Hybrid C} (alike : h.Alike k) :
    k = h.renew k.about.id k.cache := by
  obtain ⟨⟨id, name, doc, info⟩, getter, setter, deleter, expression, comparator, update,
    cache⟩ := h
  obtain ⟨⟨id', name', doc', info'⟩, getter', setter', deleter', expression', comparator',
    update', cache'⟩ := k
  obtain rfl : name = name' := alike.name
  obtain rfl : doc = doc' := alike.part .doc
  obtain rfl : info = info' := alike.part .info
  obtain rfl : getter = getter' := alike.part .getter
  obtain rfl : setter = setter' := alike.part .setter
  obtain rfl : deleter = deleter' := alike.part .deleter
  obtain rfl : expression = expression' := alike.part .expression
  obtain rfl : comparator = comparator' := alike.part .comparator
  obtain rfl : update = update' := alike.part .update
  rfl

theorem Alike.renew_eq {h k : Hybrid C} (alike : h.Alike k) (id : MemberId) (cache : CacheId) :
    h.renew id cache = k.renew id cache := by
  rw [alike.eq_renew]
  rfl

def rebindAll (h : Hybrid C) (cs : List (Change C)) : Run C (Hybrid C) := cs.foldlM rebind h

/-- The hybrid with all changes, still under its own identity. -/
def overridden (h : Hybrid C) (cs : List (Change C)) : Hybrid C := cs.foldl change h

variable (h : Hybrid C) (cs ds : List (Change C)) (c d : Change C) (st : Store C)

theorem overridden_concat : h.overridden (cs ++ [c]) = (h.overridden cs).change c := by
  simp [overridden]

theorem name_overridden : (h.overridden cs).name = h.name := by
  induction cs using List.reverseRecOn with
  | nil => rfl
  | append_singleton cs c ih => rw [overridden_concat, name_change, ih]

theorem part_overridden (p : Part) :
    (h.overridden cs).part p = (Change.last? p cs).getD (h.part p) := by
  induction cs using List.reverseRecOn with
  | nil => rfl
  | append_singleton cs c ih =>
    rw [overridden_concat, part_change, ih, Change.last?_concat]
    cases c.content? p with
    | none => rw [Option.none_or, Option.getD_none]
    | some x => rw [Option.some_or, Option.getD_some, Option.getD_some]

theorem overridden_alike {cs ds : List (Change C)}
    (same : ∀ p, Change.last? p ds = Change.last? p cs) :
    (h.overridden cs).Alike (h.overridden ds) where
  name := (h.name_overridden cs).trans (h.name_overridden ds).symm
  part p := by rw [part_overridden, part_overridden, same]

theorem rebindAll_concat : h.rebindAll (cs ++ [c]) = h.rebindAll cs >>= fun k => k.rebind c := by
  simp [rebindAll, List.foldlM_append]

/-- Each change takes two identities, and the last two are those of the copy. -/
theorem run_rebindAll_concat :
    (h.rebindAll (cs ++ [c])).run st =
      some ((h.overridden (cs ++ [c])).renew ⟨st.fresh + 2 * cs.length⟩
          ⟨st.fresh + 2 * cs.length + 1⟩,
        { st with fresh := st.fresh + 2 * (cs ++ [c]).length }) := by
  induction cs using List.reverseRecOn generalizing c with
  | nil => rfl
  | append_singleton cs d ih =>
    have longer : (cs ++ [d] ++ [c]).length = (cs ++ [d]).length + 1 := List.length_append
    rw [rebindAll_concat, StateT.run_bind, ih, Option.bind_eq_bind, Option.bind_some, run_rebind,
      change_renew, ← overridden_concat, longer]
    rfl

/-- All changes are carried out, each at the price of two identities, and a changed copy has views
of its own. -/
theorem exists_run_rebindAll :
    ∃ k, (h.rebindAll cs).run st = some (k, { st with fresh := st.fresh + 2 * cs.length }) ∧
      (h.overridden cs).Alike k ∧ (cs ≠ [] → st.fresh ≤ k.cache.index) := by
  obtain rfl | ⟨cs, c, rfl⟩ := List.eq_nil_or_concat' cs
  · exact ⟨h, rfl, .refl h, fun changed => absurd rfl changed⟩
  · refine ⟨_, h.run_rebindAll_concat cs c st, alike_renew .., fun _ => ?_⟩
    exact Nat.le_add_right _ (2 * cs.length + 1)

variable {cs ds}

theorem of_run_rebindAll {h k : Hybrid C} {st st' : Store C}
    (ran : (h.rebindAll cs).run st = some (k, st')) :
    st' = { st with fresh := st.fresh + 2 * cs.length } ∧ (h.overridden cs).Alike k ∧
      (cs ≠ [] → st.fresh ≤ k.cache.index) := by
  obtain ⟨l, whole, alike, above⟩ := h.exists_run_rebindAll cs st
  rw [whole] at ran
  obtain ⟨rfl, rfl⟩ := Prod.mk.inj (Option.some.inj ran)
  exact ⟨rfl, alike, above⟩

/-- Only the last change of each part matters, but for the identities that were taken on the way:
where the supply ends up at the same place, the copies are the same. -/
theorem run_rebindAll_congr (same : ∀ p, Change.last? p ds = Change.last? p cs) {n m : Nat}
    (level : m + 2 * ds.length = n + 2 * cs.length) :
    (h.rebindAll ds).run { st with fresh := m } = (h.rebindAll cs).run { st with fresh := n } := by
  obtain rfl | ⟨cs, c, rfl⟩ := List.eq_nil_or_concat' cs
  · obtain rfl := Change.eq_nil_of_last? same rfl
    obtain rfl : m = n := level
    rfl
  · obtain rfl | ⟨ds, d, rfl⟩ := List.eq_nil_or_concat' ds
    · have empty := Change.eq_nil_of_last? (fun p => (same p).symm) rfl
      exact absurd empty (List.concat_ne_nil _ _)
    · have whole := overridden_alike h same
      simp only [List.length_append, List.length_singleton] at level
      have even : m + 2 * ds.length = n + 2 * cs.length := by omega
      rw [run_rebindAll_concat, run_rebindAll_concat, whole.renew_eq]
      simp only [List.length_append, List.length_singleton, even, level]

end Hybrid
end DualMode
