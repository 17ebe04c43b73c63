/-! Matching text against a pattern in which `%` stands for any run of characters and `_`
for one character. A row tells, of each beginning of the pattern from the empty one to the whole,
whether it matches the text consumed so far. -/

namespace DualMode
namespace Pattern

/-- The rest of the row for the empty text, behind the entry `before`. -/
def onEmptyAfter (before : Bool) : List Char → List Bool
  | [] => []
  | p :: rest =>
    let here := before && p == '%'
    here :: onEmptyAfter here rest

def onEmpty (pattern : List Char) : List Bool := true :: onEmptyAfter true pattern

/-- The rest of the row once `c` is consumed, behind the entry `before`. The row for the text
without it starts with the entry above `before`. -/
def stepAfter (c : Char) (before : Bool) : List Char → List Bool → List Bool
  | p :: rest, above :: old :: row =>
    let here :=
      if p = '%' then before || old
      else if p = '_' then above
      else above && p == c
    here :: stepAfter c here rest (old :: row)
  | _, _ => []

def step (pattern : List Char) (row : List Bool) (c : Char) : List Bool :=
  false :: stepAfter c false pattern row

def row (pattern text : List Char) : List Bool := text.foldl (step pattern) (onEmpty pattern)

def isMatch (pattern text : List Char) : Bool := (row pattern text).getLastD false

end Pattern
end DualMode
