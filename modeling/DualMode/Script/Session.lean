import DualMode.Script.Perform

/-! Sessions: steps that share handles and published attributes. -/

namespace DualMode
namespace Script

structure Session where
  tables : Tables := {}
  store : Store scripted := { memory := ({} : Memory) }

/-- What a step answered, the callbacks that it called, and what it logged, oldest first. -/
structure Outcome where
  result : Except Problem Answer
  events : List String
  remarks : List Remark

/-- Several accesses at once, whose order nobody knows; only when they fail is it told what
happened. -/
def Step.isSilent : Step → Bool
  | .race _ _ => true
  | _ => false

namespace Session

def hushed (store : Store scripted) : Store scripted :=
  let memory : Memory := store.memory
  { store with remarks := [], memory := ({ memory with events := [] } : Memory) }

/-- A step that fails stores nothing under its handles. -/
def next (settings : Settings) (s : Session) (step : Step) : Outcome × Session :=
  let setting : Setting := { settings := settings, tables := s.tables }
  match (setting.perform step).run (hushed s.store) with
  | none => (⟨.error (.malformed "a callback does not end"), [], []⟩, s)
  | some (result, store) =>
    let memory : Memory := store.memory
    let events := memory.events.reverse
    let remarks := store.remarks.reverse
    match result with
    | .error p => (⟨.error p, events, remarks⟩, ⟨s.tables, store⟩)
    | .ok (answer, tables) =>
      if step.isSilent then (⟨.ok answer, [], []⟩, ⟨tables, store⟩)
      else (⟨.ok answer, events, remarks⟩, ⟨tables, store⟩)

def runFrom (settings : Settings) : Session → List Step → List Outcome
  | _, [] => []
  | s, step :: rest =>
    let (outcome, after) := s.next settings step
    outcome :: runFrom settings after rest

def run (settings : Settings) (steps : List Step) : List Outcome := runFrom settings {} steps

end Session
end Script
end DualMode
