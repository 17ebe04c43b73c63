import DualMode.Script.Tables

/-! Computations on the store that end with one result from every store, whatever they note
there on the way. -/

namespace DualMode

variable {C : Callbacks} {α β : Type}

def Yields (x : Run C α) (a : α) : Prop := ∀ st, ∃ st', x.run st = some (a, st')

namespace Yields

theorem pure (a : α) : Yields (Pure.pure a : Run C α) a := fun st => ⟨st, rfl⟩

theorem bind {x : Run C α} {f : α → Run C β} {a : α} {b : β} (hx : Yields x a)
    (hf : Yields (f a) b) : Yields (x >>= f) b := by
  intro st
  obtain ⟨u, hu⟩ := hx st
  obtain ⟨v, hv⟩ := hf u
  exact ⟨v, by simp [StateT.run_bind, hu, hv]⟩

theorem remark (r : Remark) : Yields (DualMode.remark r : Run C Unit) () :=
  fun _ => ⟨_, run_remark r _⟩

end Yields

namespace Script

theorem yields_bind {x : Eval α} {f : α → Eval β} {a : α} {b : β} (hx : Yields x.run (.ok a))
    (hf : Yields (f a).run (.ok b)) : Yields (x >>= f).run (.ok b) := by
  rw [ExceptT.run_bind]
  exact hx.bind hf

theorem yields_pure (a : α) : Yields (pure a : Eval α).run (.ok a) := Yields.pure _

theorem yields_combine (op : BinaryOp) (x y : Operand) :
    Yields (combine op x y).run (.ok (Operand.binary op x y)) := by
  unfold combine
  cases Operand.lost? op x y with
  | none => exact yields_pure _
  | some p => exact fun _ => ⟨_, rfl⟩

theorem yields_entityField (w : World) (e : Entity) (name : String) :
    Yields (w.entityField e name).run (.ok (e.field name)) := by
  unfold World.entityField
  split
  · exact fun _ => ⟨_, rfl⟩
  · exact fun _ => ⟨_, rfl⟩

theorem yields_field (w : World) (this : Receiver) (name : String) :
    Yields (w.field (.ofReceiver this) name).run (.ok (this.field name)) := by
  cases this with
  | record m => exact yields_pure _
  | entity e => exact yields_entityField w e name

theorem yields_operandOr {x : Eval Operand} {o : Operand} (h : Yields x.run (.ok o)) :
    Yields (operandOr x) o :=
  h.bind (Yields.pure o)

theorem yields_event (text : String) : Yields (event text) () := fun _ => ⟨_, rfl⟩

end Script
end DualMode
