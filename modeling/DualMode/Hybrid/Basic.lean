import DualMode.Store

/-! Hybrids: computed attributes with an in-memory and an SQL form. A hybrid is never
changed; every change makes a new one that keeps all other parts. -/

namespace DualMode

structure Hybrid (C : Callbacks) where
  about : Meta
  getter : C.Getter
  setter : Option C.Setter := none
  deleter : Option C.Deleter := none
  expression : Option C.Expression := none
  comparator : Option C.Comparator := none
  update : Option C.Update := none
  /-- The views that its copies share with it. -/
  cache : CacheId

inductive Change (C : Callbacks)
  | getter (g : C.Getter) | setter (s : C.Setter) | deleter (d : C.Deleter)
  | expression (e : C.Expression) | comparator (c : C.Comparator) | update (u : C.Update)
  | doc (text : String) | info (fields : List (String × Json))

variable {C : Callbacks}

namespace Hybrid

def name (h : Hybrid C) : String := h.about.name

def create (name : String) (getter : C.Getter) : Run C (Hybrid C) := do
  let id ← mint
  let cache ← mint
  return { about := { id := ⟨id⟩, name := name }, getter := getter, cache := ⟨cache⟩ }

def change (h : Hybrid C) : Change C → Hybrid C
  | .getter g => { h with getter := g }
  | .setter s => { h with setter := some s }
  | .deleter d => { h with deleter := some d }
  | .expression e => { h with expression := some e }
  | .comparator c => { h with comparator := some c }
  | .update u => { h with update := some u }
  | .doc text => { h with about := { h.about with doc := some text } }
  | .info fields => { h with about := { h.about with info := fields } }

/-- The changed copy, under a new identity and with no views. -/
def rebind (h : Hybrid C) (c : Change C) : Run C (Hybrid C) := do
  let id ← mint
  let cache ← mint
  return { h.change c with about := { (h.change c).about with id := ⟨id⟩ }, cache := ⟨cache⟩ }

theorem run_create (name : String) (getter : C.Getter) (st : Store C) :
    (create name getter).run st = some
      ({ about := { id := ⟨st.fresh⟩, name := name }, getter := getter, cache := ⟨st.fresh + 1⟩ },
        { st with fresh := st.fresh + 2 }) := rfl

theorem run_rebind (h : Hybrid C) (c : Change C) (st : Store C) :
    (h.rebind c).run st = some
      ({ h.change c with
          about := { (h.change c).about with id := ⟨st.fresh⟩ }, cache := ⟨st.fresh + 1⟩ },
        { st with fresh := st.fresh + 2 }) := rfl

@[simp] theorem name_change (h : Hybrid C) (c : Change C) : (h.change c).name = h.name := by
  cases c <;> rfl

def flag (b : Bool) : String := if b then "true" else "false"

def inspect (h : Hybrid C) : String :=
  "HybridProperty \x7b name: " ++ Text.quoted h.name ++ ", id: MemberId(_), setter: " ++
    flag h.setter.isSome ++ ", deleter: " ++ flag h.deleter.isSome ++ ", expression: " ++
    flag h.expression.isSome ++ ", comparator: " ++ flag h.comparator.isSome ++
    ", update_expression: " ++ flag h.update.isSome ++ " \x7d"

end Hybrid
end DualMode
