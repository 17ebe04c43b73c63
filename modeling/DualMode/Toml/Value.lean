import DualMode.Toml.Item
import DualMode.Toml.Number
import DualMode.Toml.Text

/-! Reading names and values of TOML. -/

namespace DualMode
namespace Toml

def isNameChar (c : Char) : Bool := c.isAlphanum || c == '_' || c == '-'

def readName? : List Char → Option (String × List Char)
  | [] => none
  | c :: rest =>
    if isMark c then (short c).read rest
    else
      let name := (c :: rest).takeWhile isNameChar
      if name.isEmpty then none else some (String.ofList name, (c :: rest).dropWhile isNameChar)

/-- Names joined by dots have fewer parts than this, and lists and tables nest less deeply. -/
def nestingLimit : Nat := 80

/-- As many names joined by dots as there are, but fewer than the first number. Gaps may
stand around each of them. -/
def readNames? : Nat → List Char → Option (List String × List Char)
  | 0, _ => none
  | 1, _ => none
  | most + 2, s => do
    let (name, rest) ← readName? (skipGaps s)
    match skipGaps rest with
    | '.' :: rest =>
      let (names, rest) ← readNames? (most + 1) rest
      return (name :: names, rest)
    | rest => return ([name], rest)

def readScalar? : List Char → Option (Item × List Char)
  | 't' :: 'r' :: 'u' :: 'e' :: rest => some (.bool true, rest)
  | 'f' :: 'a' :: 'l' :: 's' :: 'e' :: rest => some (.bool false, rest)
  | s =>
    (readText? s).map (fun (t, rest) => (.text t, rest)) <|>
    (readMoment? s).map (fun (m, rest) => (.moment m, rest)) <|>
    (readFloat? s).map (fun (x, rest) => (.float x, rest)) <|>
    (readInt? s).map fun (i, rest) => (.int i, rest)

mutual

/-- A value, in which lists and tables in braces nest to less than the given depth. -/
def readValue? : Nat → Nat → List Char → Option (Item × List Char)
  | 0, _, _ => none
  | fuel + 1, depth, s =>
    match s with
    | '[' :: rest =>
      if depth ≤ 1 then none
      else (readItems? fuel (depth - 1) rest).map fun (items, rest) => (.list items, rest)
    | '\x7b' :: rest =>
      if depth ≤ 1 then none
      else match skipGaps rest with
        | '\x7d' :: rest => some (.table .braced [], rest)
        | rest =>
          (readPairs? fuel (depth - 1) [] rest).map fun (es, rest) => (.table .braced es, rest)
    | s => readScalar? s

/-- The items up to a closing bracket; a comma may stand behind the last one. -/
def readItems? : Nat → Nat → List Char → Option (List Item × List Char)
  | 0, _, _ => none
  | fuel + 1, depth, s =>
    match skipLines s.length s with
    | ']' :: rest => some ([], rest)
    | s => do
      let (item, rest) ← readValue? fuel depth s
      match skipLines rest.length rest with
      | ',' :: rest =>
        let (items, rest) ← readItems? fuel depth rest
        return (item :: items, rest)
      | ']' :: rest => return ([item], rest)
      | _ => none

/-- The entries up to a closing brace, added to those before. -/
def readPairs? : Nat → Nat → Entries → List Char → Option (Entries × List Char)
  | 0, _, _, _ => none
  | fuel + 1, depth, before, s => do
    let (names, rest) ← readNames? nestingLimit s
    let rest ← skipMark? '=' rest
    let (item, rest) ← readValue? fuel depth (skipGaps rest)
    let es ← define? item names before
    match skipGaps rest with
    | ',' :: rest => readPairs? fuel depth es rest
    | '\x7d' :: rest => return (es, rest)
    | _ => none

end

end Toml
end DualMode
