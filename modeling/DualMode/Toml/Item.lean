import DualMode.Toml.Moment

/-! Values and tables of TOML, and how dotted names and headings add to them. A table is
begun once by its own heading; dotted names add only to tables that dotted names began. -/

namespace DualMode
namespace Toml

/-- How a table came about. -/
inductive Form
  | headed | braced
  /-- By the heading of a table within. -/
  | implied
  /-- By a dotted name. -/
  | dotted
  deriving DecidableEq

inductive Item
  | text (s : String) | int (i : Int64) | float (x : Float) | bool (b : Bool) | moment (m : Moment)
  | list (items : List Item) | table (form : Form) (entries : List (String × Item))
  /-- The tables under one heading in double brackets. -/
  | tables (each : List (List (String × Item)))

abbrev Entries := List (String × Item)

namespace Entries

def replace (es : Entries) (name : String) (item : Item) : Entries :=
  es.map fun e => if e.1 == name then (name, item) else e

def remove (es : Entries) (name : String) : Entries := es.filter (·.1 != name)

end Entries

def changeLast? {α : Type} (f : α → Option α) : List α → Option (List α)
  | [] => none
  | [x] => (f x).map ([·])
  | x :: rest => (changeLast? f rest).map (x :: ·)

/-- Adds a value at the end of a dotted name, where nothing may stand. Tables on the way may
be implied ones, but the last of them is one that a dotted name began. -/
def define? (value : Item) : List String → Entries → Option Entries
  | [], _ => none
  | [name], es => if (es.lookup name).isSome then none else some (es ++ [(name, value)])
  | name :: next :: rest, es =>
    match es.lookup name with
    | none => do return es ++ [(name, .table .dotted (← define? value (next :: rest) []))]
    | some (.table .dotted inner) => do
      return es.replace name (.table .dotted (← define? value (next :: rest) inner))
    | some (.table .implied inner) =>
      if rest.isEmpty then none
      else do return es.replace name (.table .implied (← define? value (next :: rest) inner))
    | some (.tables each) =>
      if rest.isEmpty then none
      else do return es.replace name (.tables (← changeLast? (define? value (next :: rest)) each))
    | some _ => none

/-- Changes the entries at the end of a path of headings. Lists of tables are entered at the
last one, and tables that are not there are implied. -/
def change? (f : Entries → String → Option Entries) : List String → Entries → Option Entries
  | [], _ => none
  | [name], es => f es name
  | name :: next :: rest, es =>
    match es.lookup name with
    | none => do return es ++ [(name, .table .implied (← change? f (next :: rest) []))]
    | some (.table form inner) =>
      if form = .braced then none
      else do return es.replace name (.table form (← change? f (next :: rest) inner))
    | some (.tables each) => do
      return es.replace name (.tables (← changeLast? (change? f (next :: rest)) each))
    | some _ => none

/-- Begins a table by its heading. One that was implied before moves behind its neighbours. -/
def openTable? : List String → Entries → Option Entries :=
  change? fun es name =>
    match es.lookup name with
    | none => some (es ++ [(name, .table .headed [])])
    | some (.table .implied inner) => some (es.remove name ++ [(name, .table .headed inner)])
    | some _ => none

def openElement? : List String → Entries → Option Entries :=
  change? fun es name =>
    match es.lookup name with
    | none => some (es ++ [(name, .tables [[]])])
    | some (.tables each) => some (es.replace name (.tables (each ++ [[]])))
    | some _ => none

def defineIn? (value : Item) (names : List String) : List String → Entries → Option Entries
  | [], es => define? value names es
  | first :: rest, es =>
    change? (fun es name =>
      match es.lookup name with
      | some (.table form inner) => do
        return es.replace name (.table form (← define? value names inner))
      | some (.tables each) => do
        return es.replace name (.tables (← changeLast? (define? value names) each))
      | _ => none) (first :: rest) es

end Toml
end DualMode
