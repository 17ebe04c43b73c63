import DualMode.Proofs.Scene

/-! What an access to a hybrid gives is what a fresh build would give, whether or not the
attribute was published before, and also when the callback publishes it on the way. -/

namespace DualMode

variable {C : Callbacks}

/-- Two attributes that cannot be told apart but by their identity. -/
structure Attribute.Alike {υ : Type} (limit : Nat) (a b : Attribute υ) : Prop where
  owner : a.owner = b.owner
  aliasName : a.aliasName = b.aliasName
  key : a.key = b.key
  hybrid : a.hybrid = b.hybrid
  expression : a.expression = b.expression
  clauseElement : a.clauseElement limit = b.clauseElement limit

theorem Hybrid.alike_make (limit : Nat) (s : Settings) (h : Hybrid C) (e : Entity)
    (i j : AttributeId) (g : Given C.Update) : (h.make s e i g).Alike limit (h.make s e j g) where
  owner := rfl
  aliasName := rfl
  key := rfl
  hybrid := rfl
  expression := rfl
  clauseElement := by rw [clauseElement_make, clauseElement_make]

/-- Both fail with one fault, or both give attributes of the entity itself that are alike. -/
inductive Agree {υ : Type} (limit : Nat) (e : Entity) :
    Except Fault (Attribute υ) → Except Fault (Attribute υ) → Prop
  | fault (f : Fault) : Agree limit e (.error f) (.error f)
  | attribute {a b : Attribute υ} (owner : a.owner = e) (unaliased : a.aliasName = none)
      (alike : a.Alike limit b) : Agree limit e (.ok a) (.ok b)

namespace Scene

/-- No callback answered differently for the same entity. -/
def Steady (answers : List (Asked C × Entity × Given C.Update)) : Prop :=
  ∀ q e g g', (q, e, g) ∈ answers → (q, e, g') ∈ answers → g = g'

variable {s : Settings} {b : Behaviour C} {w u : Scene C} {h : Hybrid C} {e : Entity}
  {g : Given C.Update} {answers : List (Asked C × Entity × Given C.Update)}

theorem agree_make (i j : AttributeId) :
    Agree s.adaptLimit e (.ok (h.make s e i g)) (.ok (h.make s e j g)) :=
  .attribute rfl rfl (h.alike_make s.adaptLimit s e i j g)

theorem Made.agree_finish {a : Attribute C.Update} (k : Made s b w h e a) (steady : Steady answers)
    (known : w.answers ⊆ answers) (given : (h.asked, e, g) ∈ answers) (st : Store C) :
    Agree s.adaptLimit e (.ok a) (h.finish s e (g, st)).1 := by
  obtain ⟨i, g', earlier, -, ⟨n, element⟩, rfl⟩ := k
  obtain rfl : g' = g := steady _ _ _ _ (known earlier) given
  simp only [Hybrid.finish, element]
  exact agree_make _ _

/-- An attribute that was published while this one was built takes its place and is alike. -/
theorem Sound.agree_settled (k : w.Sound s b) (known : h ∈ w.hybrids) (declared : e ∈ w.entities)
    (answered : ∃ st st', (h.asked.answer b e).run st = some (g, st'))
    (steady : Steady ((h.asked, e, g) :: w.answers)) :
    Agree s.adaptLimit e (h.settled e (h.finish s e (g, w.store))).1
      (h.finish s e (g, w.store)).1 := by
  cases element : (h.wrap e g).clauseElement s.adaptLimit with
  | error f =>
    simp only [Hybrid.finish, element, Hybrid.settled]
    exact .fault f
  | ok n =>
    obtain ⟨a, gives⟩ : ∃ a, (h.settled e (h.finish s e (g, w.store))).1 = .ok a := by
      simp only [Hybrid.finish, element, Hybrid.settled]
      exact ⟨_, rfl⟩
    have made : Made s b (w.settled s h e g) h e a := k.made_settled known declared answered gives
    rw [gives]
    exact made.agree_finish steady (fun _ => id) List.mem_cons_self w.store

/-- Publishing is not seen from outside: in every scene, where an access to a hybrid ends, it
agrees with a build that looks at no published attribute. -/
theorem resolve_agrees_build {memory : C.Memory} (reached : Steps s b (start memory) w)
    (known : h ∈ w.hybrids) (declared : e ∈ w.entities) (within : Steps s b w u)
    (answered : (h.asked.answer b e).run w.store = some (g, u.store))
    (steady : Steady ((h.asked, e, g) :: u.answers)) :
    ∃ r st r' st', (h.resolve s b e).run w.store = some (r, st) ∧
      (h.build s b e).run w.store = some (r', st') ∧ Agree s.adaptLimit e r r' := by
  have sound : w.Sound s b := reached.sound (start_sound memory)
  have grows : w.Grows u := within.grows
  have built : (h.build s b e).run w.store = some (h.finish s e (g, u.store)) := by
    rw [Hybrid.run_build, answered, Option.map_some]
  cases found : w.store.views.get? h.cache e.id with
  | some a =>
    have made : Made s b w h e a := sound.made known declared found
    exact ⟨_, _, _, _, h.run_resolve_of_some s b e w.store found, built, made.agree_finish steady
      (fun _ hx => List.mem_cons_of_mem _ (grows.answers hx)) List.mem_cons_self u.store⟩
  | none =>
    have resolved := h.run_resolve_of_none s b e w.store found
    rw [answered, Option.map_some] at resolved
    exact ⟨_, _, _, _, resolved, built, (within.sound sound).agree_settled
      (grows.hybrids known) (grows.entities declared) ⟨_, _, answered⟩ steady⟩

/-- What two getters see: a column, and whatever the first hybrid is. -/
inductive Sight
  | column | mirror

/-- What these getters give is wrapped as it is. -/
def sights : Callbacks where
  Value := Clause Empty
  Getter := Sight

def code : Hybrid sights :=
  { about := { id := ⟨0⟩, name := "code" }, getter := Sight.column, cache := ⟨1⟩ }

def mirror : Hybrid sights :=
  { about := { id := ⟨2⟩, name := "mirror" }, getter := Sight.mirror, cache := ⟨3⟩ }

def item : Blueprint :=
  { name := "Item", table := some "item", columns := ["code"],
    members := [("code", ⟨0⟩), ("mirror", ⟨2⟩)] }

def entry : Entity := item.declare ⟨4⟩

def codeColumn : Clause Empty := .column ⟨"item", "code"⟩

def seen : Behaviour sights where
  clause := id
  get _ _ := pure codeColumn
  set c := c.elim
  delete c := c.elim
  express c := c.elim
  compare c := c.elim
  update c := c.elim
  call c := c.elim
  callExpress c := c.elim

def mirrored : Behaviour sights :=
  { seen with
    get := fun x this =>
      match x, this with
      | .mirror, .entity e => do
        match ← code.resolve {} seen e with
        | .ok a => return .attr a
        | .error _ => return .literal .null
      | _, _ => seen.get x this }

/-- Both hybrids and the entity are declared, and nothing was accessed yet. -/
def before : Scene sights :=
  { store := { fresh := 5, memory := () }
    entities := [entry]
    hybrids := [mirror, code] }

theorem before_reached : Steps {} mirrored (start ()) before :=
  .tail (.tail (.tail (.refl _) (.create rfl)) (.create rfl)) (.declare (p := item) nofun rfl)

/-- The scene once the mirror's callback accessed the other hybrid. -/
def amid : Scene sights :=
  { before with
    store := (code.settled entry (code.finish {} entry (.clause codeColumn, before.store))).2
    answers := [(code.asked, entry, .clause codeColumn)] }

theorem before_amid : Steps {} mirrored before amid :=
  .tail (.refl _) (.access (.miss (List.mem_cons_of_mem _ List.mem_cons_self)
    List.mem_cons_self rfl (.refl _) rfl (code.run_resolve_of_none {} mirrored entry _ rfl)))

theorem amid_steady (g : Given Empty) : Steady ((mirror.asked, entry, g) :: amid.answers) := by
  intro q e g₁ g₂ h₁ h₂
  simp only [amid, List.mem_cons, List.not_mem_nil, or_false, Prod.mk.injEq] at h₁ h₂
  obtain ⟨rfl, rfl, rfl⟩ | ⟨rfl, rfl, rfl⟩ := h₁
  · obtain ⟨-, -, rfl⟩ | ⟨impossible, -⟩ := h₂
    · rfl
    · cases impossible
  · obtain ⟨impossible, -⟩ | ⟨-, -, rfl⟩ := h₂
    · cases impossible
    · rfl

/-- The mirror's getter gives the attribute of the other hybrid, which its first access publishes on
the way. -/
theorem resolve_agrees_build_mirror :
    ∃ r st r' st', (mirror.resolve {} mirrored entry).run before.store = some (r, st) ∧
      (mirror.build {} mirrored entry).run before.store = some (r', st') ∧ Agree 16 entry r r' :=
  resolve_agrees_build before_reached List.mem_cons_self List.mem_cons_self before_amid
    (g := .clause (.attr (code.make {} entry ⟨5⟩ (.clause codeColumn)))) rfl (amid_steady _)

end Scene
end DualMode
