import DualMode.Json.Reader

/-! Blanks, comments and quoted text of TOML. A long text is closed by three marks and may
hold line breaks; double quotes know escapes, single quotes do not. -/

namespace DualMode
namespace Toml

def isGap (c : Char) : Bool := c == ' ' || c == '\t'

def skipGaps (s : List Char) : List Char := s.dropWhile isGap

/-- Characters that may stand in comments and texts; of the controls only the tab. -/
def isPlain (c : Char) : Bool := c == '\t' || (0x20 ≤ c.toNat && c.toNat != 0x7F)

def afterBreak? : List Char → Option (List Char)
  | '\n' :: rest => some rest
  | '\r' :: '\n' :: rest => some rest
  | _ => none

def skipComment : List Char → List Char
  | '#' :: rest => rest.dropWhile isPlain
  | s => s

/-- What follows a line of which nothing but a comment is left. -/
def endLine? (s : List Char) : Option (List Char) :=
  match skipComment (skipGaps s) with
  | [] => some []
  | s => afterBreak? s

/-- Skips gaps, line breaks and comments, each of which ends its line. -/
def skipLines : Nat → List Char → List Char
  | 0, s => s
  | fuel + 1, s =>
    let s := skipGaps s
    match afterBreak? (skipComment s) with
    | some rest => skipLines fuel rest
    | none => s

structure Quoting where
  mark : Char
  escapes : Bool
  long : Bool

def readCode (n : Nat) (s : List Char) : Option (Char × List Char) := do
  let ds := s.take n
  if ds.length < n then none
  let code ← ds.foldlM (fun acc c => (Json.hexValue? c).map (16 * acc + ·)) 0
  if code < 0xD800 ∨ (0xE000 ≤ code ∧ code < 0x110000) then
    return (Char.ofNat code, s.drop n)
  else none

def readEscape : List Char → Option (Char × List Char)
  | 'b' :: rest => some ('\x08', rest)
  | 't' :: rest => some ('\t', rest)
  | 'n' :: rest => some ('\n', rest)
  | 'f' :: rest => some ('\x0c', rest)
  | 'r' :: rest => some ('\r', rest)
  | '"' :: rest => some ('"', rest)
  | '\\' :: rest => some ('\\', rest)
  | 'u' :: rest => readCode 4 rest
  | 'U' :: rest => readCode 8 rest
  | _ => none

/-- All blanks and line breaks in front are skipped. -/
def skipBreaks : List Char → List Char
  | '\r' :: '\n' :: rest => skipBreaks rest
  | c :: rest => if c == '\n' || isGap c then skipBreaks rest else c :: rest
  | [] => []

namespace Quoting

/-- Up to two marks in front, which belong to a long text although its end has come. -/
def lastMarks (q : Quoting) (s : List Char) : List Char × List Char :=
  let marks := (s.take 2).takeWhile (· == q.mark)
  (marks, s.drop marks.length)

/-- The end of the text with its last characters, if it has come. -/
def close? (q : Quoting) (s : List Char) : Option (List Char × List Char) :=
  if q.long then
    if List.replicate 3 q.mark <+: s then some (q.lastMarks (s.drop 3)) else none
  else if [q.mark] <+: s then some ([], s.drop 1)
  else none

/-- The next characters of the text. A backslash at the end of a line joins it to the next
one that is not blank. -/
def readPiece (q : Quoting) (s : List Char) : Option (List Char × List Char) :=
  match s with
  | [] => none
  | c :: rest =>
    if c = '\\' && q.escapes then
      match if q.long then afterBreak? (skipGaps rest) else none with
      | some next => some ([], skipBreaks next)
      | none => (readEscape rest).map fun (e, rest) => ([e], rest)
    else if isPlain c then some ([c], rest)
    else if q.long then (afterBreak? s).map fun rest => (['\n'], rest)
    else none

def readBody (q : Quoting) : Nat → List Char → Option (List Char × List Char)
  | 0, _ => none
  | fuel + 1, s =>
    match q.close? s with
    | some last => some last
    | none => do
      let (piece, rest) ← q.readPiece s
      let (more, rest) ← q.readBody fuel rest
      return (piece ++ more, rest)

def read (q : Quoting) (s : List Char) : Option (String × List Char) :=
  (q.readBody (s.length + 1) s).map fun (cs, rest) => (String.ofList cs, rest)

end Quoting

def short (mark : Char) : Quoting := ⟨mark, mark == '"', false⟩

def long (mark : Char) : Quoting := ⟨mark, mark == '"', true⟩

def isMark (c : Char) : Bool := c == '"' || c == '\''

/-- A text of either length; a line break right behind three opening marks is dropped. -/
def readText? : List Char → Option (String × List Char)
  | a :: b :: c :: rest =>
    if !isMark a then none
    else if a == b && b == c then (long a).read ((afterBreak? rest).getD rest)
    else (short a).read (b :: c :: rest)
  | a :: rest => if isMark a then (short a).read rest else none
  | [] => none

end Toml
end DualMode
