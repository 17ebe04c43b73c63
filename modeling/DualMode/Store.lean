import DualMode.Attribute.Assign
import DualMode.Remark
import DualMode.Settings.Basic
import DualMode.Views

/-! The state in which hybrids are declared and resolved, and what their callbacks do to it. -/

namespace DualMode

/-- The kinds of callback that hybrids and methods are declared with, the values that they
exchange, and what they remember between their calls. There are no callbacks of a kind that is
left out. -/
structure Callbacks where
  /-- What getters and methods give, and setters take. -/
  Value : Type
  /-- What methods are called with besides their receiver. -/
  Args : Type := Unit
  Getter : Type := Empty
  Setter : Type := Empty
  Deleter : Type := Empty
  Expression : Type := Empty
  Comparator : Type := Empty
  Update : Type := Empty
  Body : Type := Empty
  CallExpression : Type := Empty
  Memory : Type := Unit

structure Store (C : Callbacks) where
  /-- The next identity of the supply. -/
  fresh : Nat := 0
  views : Views C.Update := {}
  /-- The log, newest remark first. -/
  remarks : List Remark := []
  memory : C.Memory

/-- A computation on the store; none if a callback calls itself without end. -/
abbrev Run (C : Callbacks) := StateT (Store C) Option

variable {C : Callbacks}

def mint : Run C Nat := modifyGet fun s => (s.fresh, { s with fresh := s.fresh + 1 })

def remark (r : Remark) : Run C Unit :=
  modify fun s => { s with remarks := r :: s.remarks }

@[simp] theorem run_mint (st : Store C) :
    (mint : Run C Nat).run st = some (st.fresh, { st with fresh := st.fresh + 1 }) := rfl

@[simp] theorem run_remark (r : Remark) (st : Store C) :
    (remark r : Run C Unit).run st = some ((), { st with remarks := r :: st.remarks }) := rfl

structure Behaviour (C : Callbacks) where
  /-- The expression that a value stands for on an entity. -/
  clause : C.Value → Clause C.Update
  get : C.Getter → Receiver → Run C C.Value
  set : C.Setter → Record → C.Value → Run C Record
  delete : C.Deleter → Record → Run C Record
  express : C.Expression → Entity → Run C (Clause C.Update)
  compare : C.Comparator → Entity → Run C (Comparator C.Update)
  update : C.Update → Entity → Operand → Run C Assigned
  call : C.Body → Receiver → C.Args → Run C C.Value
  callExpress : C.CallExpression → Entity → C.Args → Run C (Clause C.Update)

end DualMode
