import DualMode.Proofs.FirstSuccess
import DualMode.Proofs.Interchange
import DualMode.Proofs.Memoisation
import DualMode.Proofs.Parts

/-! Hybrids that are the same but for their identity. They give the same values and ask the same
callbacks, and what they publish for an entity differs in identities and in the key it is published
under, but neither as an expression nor in what becomes of assigned values. -/

namespace DualMode

variable {C : Callbacks} {υ : Type}

/-- What becomes of a value; where there is no target, it is not said for which attribute. -/
def unnamed : Assigned → Assigned
  | .error (.ambiguousTarget _) => .error (.ambiguousTarget "")
  | r => r

/-- Two comparators that do the same. -/
structure Comparator.Twin (limit : Nat) (b : Behaviour C) (c d : Comparator C.Update) : Prop where
  expression : c.expression = d.expression
  doc : c.doc = d.doc
  clauseElement : c.clauseElement limit = d.clauseElement limit
  operate : ∀ op others, c.operate limit op others = d.operate limit op others
  reverse : ∀ op other, c.reverse limit op other = d.reverse limit op other
  assign : ∀ value, c.assign limit b.update value = d.assign limit b.update value

namespace Attribute

/-- Two attributes that differ in identities and keys. Where they have one key, too, nobody can tell
them apart. -/
structure Counterpart (limit : Nat) (b : Behaviour C) (a a' : Attribute C.Update) : Prop where
  owner : a.owner = a'.owner
  aliasName : a.aliasName = a'.aliasName
  hybrid : { a.hybrid with id := a'.hybrid.id } = a'.hybrid
  doc : a.doc = a'.doc
  expression : a.expression = a'.expression
  clauseElement : a.clauseElement limit = a'.clauseElement limit
  assign : ∀ value,
    unnamed <$> a.assign limit b.update value = unnamed <$> a'.assign limit b.update value
  alike : a.key = a'.key → (Queryable.attr a).Alike limit b (.attr a')

/-- Only the name told for a missing target depends on the key. -/
theorem unnamed_settle {limit : Nat} {a a' : Attribute υ}
    (element : a.clauseElement limit = a'.clauseElement limit) (columns : a.columns = a'.columns)
    (value : Operand) (r : Assigned) :
    unnamed (a.settle limit value r) = unnamed (a'.settle limit value r) := by
  by_cases untargeted : Untargeted r
  · obtain ⟨t, rfl⟩ := untargeted
    show unnamed (a.assignOwn limit value) = unnamed (a'.assignOwn limit value)
    unfold assignOwn Column.assignIn
    rw [element, columns]
    cases a'.clauseElement limit with
    | error f => rfl
    | ok n => cases found : a'.columns.find? (n.isColumn ·) <;> simp only [found, unnamed]
  · rw [settle_of_targeted untargeted, settle_of_targeted untargeted]

end Attribute

namespace Hybrid

variable {s : Settings} {b : Behaviour C} {h k : Hybrid C} {e : Entity}

theorem Alike.asked_eq (alike : h.Alike k) : h.asked = k.asked := by
  rw [alike.eq_renew]
  rfl

/-- The builtin comparator passes a value on without asking whose expression it wraps. -/
theorem Alike.assign_builtin (alike : h.Alike k) (limit : Nat) (b : Behaviour C) (e : Entity)
    (x : Clause C.Update) (value : Operand) :
    (Comparator.builtin e x h.about h.update).assign limit b.update value =
      (Comparator.builtin e x k.about k.update).assign limit b.update value := by
  have ruled : h.update = k.update := alike.part .update
  have named : h.about.name = k.about.name := alike.name
  rw [ruled]
  obtain ⟨c, rfl⟩ | ⟨inner, rfl⟩ | computed := x.column_or_attr_or_computed
  · rfl
  · rfl
  · cases k.update with
    | some rule =>
      rw [Comparator.assign_builtin_rule computed, Comparator.assign_builtin_rule computed]
    | none =>
      rw [Comparator.assign_builtin_computed computed,
        Comparator.assign_builtin_computed computed, named]

theorem Alike.twin (alike : h.Alike k) (limit : Nat) (b : Behaviour C) (e : Entity)
    (g : Given C.Update) : (h.wrap e g).Twin limit b (k.wrap e g) := by
  cases g with
  | comparator c => exact ⟨rfl, rfl, rfl, fun _ _ => rfl, fun _ _ => rfl, fun _ => rfl⟩
  | clause x =>
    have plain : ∀ l : Hybrid C, (l.wrap e (.clause x)).Plain := fun _ => trivial
    refine ⟨rfl, rfl, rfl, fun op others => ?_, fun op other => ?_,
      alike.assign_builtin limit b e x⟩
    · rw [(plain h).operate_eq, (plain k).operate_eq]
      rfl
    · rw [(plain h).reverse_eq, (plain k).reverse_eq]
      rfl

theorem assign_make (limit : Nat) (s : Settings) (b : Behaviour C) (h : Hybrid C) (e : Entity)
    (i : AttributeId) (g : Given C.Update) (value : Operand) :
    (h.make s e i g).assign limit b.update value =
      (h.make s e i g).settle limit value <$> (h.wrap e g).assign limit b.update value :=
  Attribute.assign_eq _

theorem Alike.counterpart (alike : h.Alike k) (s : Settings) (b : Behaviour C) (e : Entity)
    (i j : AttributeId) (g : Given C.Update) :
    (h.make s e i g).Counterpart s.adaptLimit b (k.make s e j g) := by
  have twin := alike.twin s.adaptLimit b e g
  have element : (h.make s e i g).clauseElement s.adaptLimit =
      (k.make s e j g).clauseElement s.adaptLimit := by
    rw [clauseElement_make, clauseElement_make, twin.clauseElement]
  have documented : h.about.doc = k.about.doc := alike.part .doc
  refine ⟨rfl, rfl, (congrArg Hybrid.about alike.eq_renew).symm, ?_, twin.expression, element,
    fun value => ?_, fun key => ⟨element, twin.operate, twin.reverse, fun value => ?_⟩⟩
  · show ((h.wrap e g).doc <|> h.about.doc) = ((k.wrap e g).doc <|> k.about.doc)
    rw [twin.doc, documented]
  · have settles := funext (Attribute.unnamed_settle element rfl value)
    rw [assign_make, assign_make, twin.assign, Functor.map_map, Functor.map_map, settles]
  · have path : (h.make s e i g).path = (k.make s e j g).path :=
      congrArg (fun key => e.name ++ "." ++ key) key
    have settles := funext (Attribute.settle_congr s.adaptLimit _ _ element rfl path value)
    show (h.make s e i g).assign _ _ _ = (k.make s e j g).assign _ _ _
    rw [assign_make, assign_make, twin.assign, settles]

/-- What an answer leads to: a fault if it does not adapt, else an attribute. -/
def outcome (s : Settings) (h : Hybrid C) (e : Entity) (i : AttributeId) (g : Given C.Update) :
    Except Fault (Attribute C.Update) :=
  ((h.wrap e g).clauseElement s.adaptLimit).map fun _ => h.make s e i g

theorem finish_fst (s : Settings) (h : Hybrid C) (e : Entity) (p : Given C.Update × Store C) :
    (h.finish s e p).1 = h.outcome s e ⟨p.2.fresh⟩ p.1 := by
  unfold finish outcome
  cases (h.wrap e p.1).clauseElement s.adaptLimit <;> rfl

/-- Accesses to two hybrids that fail with one fault, or give attributes that differ in nothing but
identities and keys, each under the key of its own hybrid. -/
inductive Counterparts (s : Settings) (b : Behaviour C) (h k : Hybrid C) (e : Entity) :
    Except Fault (Attribute C.Update) → Except Fault (Attribute C.Update) → Prop
  | fault (f : Fault) : Counterparts s b h k e (.error f) (.error f)
  | attribute {a a' : Attribute C.Update} (owner : a.owner = e) (key : a.key = h.key s e)
      (key' : a'.key = k.key s e) (counterpart : a.Counterpart s.adaptLimit b a') :
      Counterparts s b h k e (.ok a) (.ok a')

theorem Alike.counterparts (alike : h.Alike k) (s : Settings) (b : Behaviour C) (e : Entity)
    (i j : AttributeId) (g : Given C.Update) :
    Counterparts s b h k e (h.outcome s e i g) (k.outcome s e j g) := by
  unfold outcome
  rw [(alike.twin s.adaptLimit b e g).clauseElement]
  cases (k.wrap e g).clauseElement s.adaptLimit with
  | error f => exact .fault f
  | ok n => exact .attribute rfl rfl rfl (alike.counterpart s b e i j g)

end Hybrid

theorem Scene.Access.outcome {s : Settings} {b : Behaviour C} {h : Hybrid C} {e : Entity}
    {r : Except Fault (Attribute C.Update)} {w u : Scene C} (k : w.Sound s b)
    (access : Access s b h e r w u) :
    ∃ i g, (h.asked, e, g) ∈ u.answers ∧ r = h.outcome s e i g := by
  cases r with
  | ok a =>
    obtain ⟨i, g, given, -, ⟨n, element⟩, rfl⟩ := access.made k
    refine ⟨i, g, given, ?_⟩
    rw [Hybrid.outcome, element]
    rfl
  | error f =>
    cases access with
    | @miss _ u _ _ g _ st known declared missing within answered ran =>
      obtain ⟨-, g', answered', element⟩ := Hybrid.run_resolve_eq_error_iff.mp ran
      rw [answered] at answered'
      obtain ⟨rfl, rfl⟩ := Prod.mk.inj (Option.some.inj answered')
      refine ⟨⟨0⟩, g, List.mem_cons_self, ?_⟩
      rw [Hybrid.outcome, element]
      rfl

namespace Hybrid

variable {s : Settings} {b : Behaviour C} {h k : Hybrid C} {e : Entity}

/-- Nothing that can be seen of one hybrid differs from the other one, on records and on entities,
but for identities and keys. For a class-level attribute this is said as far as callbacks answer
alike, when both hybrids are asked. -/
structure SeenLike (s : Settings) (b : Behaviour C) (h k : Hybrid C) : Prop where
  value : ∀ r, h.value b r = k.value b r
  set : ∀ r v, h.set b r v = k.set b r v
  delete : ∀ r, h.delete b r = k.delete b r
  doc : h.about.doc = k.about.doc
  info : h.about.info = k.about.info
  asked : h.asked = k.asked
  build : ∀ e st st',
    Prod.fst <$> (h.asked.answer b e).run st = Prod.fst <$> (k.asked.answer b e).run st' →
      Option.Rel (fun p q => Counterparts s b h k e p.1 q.1) ((h.build s b e).run st)
        ((k.build s b e).run st')
  access : ∀ e memory memory' w w' u u' r r', Scene.Steps s b (Scene.start memory) w →
    Scene.Access s b h e r w u → Scene.Steps s b (Scene.start memory') w' →
      Scene.Access s b k e r' w' u' → Scene.Steady (u.answers ++ u'.answers) →
        Counterparts s b h k e r r'

theorem Alike.seenLike (alike : h.Alike k) (s : Settings) (b : Behaviour C) : h.SeenLike s b k where
  value r := by rw [alike.eq_renew]; rfl
  set r v := by rw [alike.eq_renew]; rfl
  delete r := by rw [alike.eq_renew]; rfl
  doc := alike.part .doc
  info := alike.part .info
  asked := alike.asked_eq
  build e st st' same := by
    rw [run_build, run_build]
    cases answered : (h.asked.answer b e).run st with
    | none =>
      rw [answered] at same
      rw [Option.map_eq_none_iff.mp same.symm]
      exact .none
    | some p =>
      rw [answered] at same
      obtain ⟨q, answered', given⟩ := Option.map_eq_some_iff.mp same.symm
      rw [answered', Option.map_some, Option.map_some]
      refine .some ?_
      rw [finish_fst, finish_fst, given]
      exact alike.counterparts s b e _ _ p.1
  access e memory memory' w w' u u' r r' reached access reached' access' steady := by
    obtain ⟨i, g, given, rfl⟩ := access.outcome (reached.sound (Scene.start_sound memory))
    obtain ⟨j, g', given', rfl⟩ := access'.outcome (reached'.sound (Scene.start_sound memory'))
    rw [← alike.asked_eq] at given'
    obtain rfl : g = g' :=
      steady _ _ _ _ (List.mem_append_left _ given) (List.mem_append_right _ given')
    exact alike.counterparts s b e i j g

end Hybrid
end DualMode
