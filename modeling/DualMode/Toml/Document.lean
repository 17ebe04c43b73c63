import DualMode.Toml.Value

/-! TOML documents: headings, and lines that give a name a value. A document that has any
other line, or that defines something twice, is broken. -/

namespace DualMode
namespace Toml

inductive Line
  | heading (path : List String) | listHeading (path : List String)
  | entry (names : List String) (value : Item)

/-- A line that is neither blank nor a comment, up to its end. -/
def readLine? (s : List Char) : Option (Line × List Char) :=
  match s with
  | '[' :: '[' :: rest => do
    let (path, rest) ← readNames? nestingLimit rest
    match rest with
    | ']' :: ']' :: rest => return (.listHeading path, ← endLine? rest)
    | _ => none
  | '[' :: rest => do
    let (path, rest) ← readNames? nestingLimit rest
    return (.heading path, ← endLine? (← skipMark? ']' rest))
  | s => do
    let (names, rest) ← readNames? nestingLimit s
    let rest ← skipMark? '=' rest
    let (value, rest) ← readValue? (2 * rest.length + 2) nestingLimit (skipGaps rest)
    return (.entry names value, ← endLine? rest)

def readLines? : Nat → List Char → Option (List Line)
  | 0, _ => none
  | fuel + 1, s =>
    match endLine? s with
    | some [] => some []
    | some rest => readLines? fuel rest
    | none => do
      let (line, rest) ← readLine? (skipGaps s)
      return line :: (← readLines? fuel rest)

/-- What was read so far, and the path of the table that was begun last. -/
structure Draft where
  entries : Entries := []
  current : List String := []

def Draft.add? (d : Draft) : Line → Option Draft
  | .heading path => do return ⟨← openTable? path d.entries, path⟩
  | .listHeading path => do return ⟨← openElement? path d.entries, path⟩
  | .entry names value => do return { d with entries := ← defineIn? value names d.current d.entries }

/-- The entries of a document, unless it is broken. A mark of byte order in front is no part
of it. -/
def parse? (text : String) : Option Entries := do
  let s := match text.toList with
    | '\ufeff' :: rest => rest
    | s => s
  let draft ← (← readLines? (s.length + 1) s).foldlM Draft.add? ({} : Draft)
  return draft.entries

end Toml
end DualMode
