import DualMode.Decimal.Digits

/-! Dates and times of TOML, and their text. -/

namespace DualMode

structure Day where
  year : Nat
  month : Nat
  day : Nat
  deriving DecidableEq

structure Clock where
  hour : Nat
  minute : Nat
  second : Nat
  nanosecond : Nat := 0
  deriving DecidableEq

inductive Zone
  | universal | shifted (minutes : Int)
  deriving DecidableEq

inductive Moment
  | day (d : Day) | clock (c : Clock) | both (d : Day) (c : Clock) (zone : Option Zone)
  deriving DecidableEq

namespace Day

def isLeap (year : Nat) : Bool := year % 4 == 0 && (year % 100 != 0 || year % 400 == 0)

def monthLength (year month : Nat) : Nat :=
  if month = 2 then (if isLeap year then 29 else 28)
  else if month = 4 ∨ month = 6 ∨ month = 9 ∨ month = 11 then 30
  else 31

end Day

namespace Moment

/-- The digits of a number, with zeros in front up to a width. -/
def padded (width n : Nat) : List Char :=
  let ds := Decimal.digits n
  List.replicate (width - ds.length) '0' ++ ds

def dayText (d : Day) : List Char :=
  padded 4 d.year ++ '-' :: padded 2 d.month ++ '-' :: padded 2 d.day

/-- A fraction of a second has as many digits as it needs. -/
def clockText (c : Clock) : List Char :=
  let fraction := ((padded 9 c.nanosecond).reverse.dropWhile (· == '0')).reverse
  padded 2 c.hour ++ ':' :: padded 2 c.minute ++ ':' :: padded 2 c.second ++
    (if fraction.isEmpty then [] else '.' :: fraction)

def zoneText : Zone → List Char
  | .universal => ['Z']
  | .shifted m =>
    (if m < 0 then '-' else '+') :: padded 2 (m.natAbs / 60) ++ ':' :: padded 2 (m.natAbs % 60)

def text : Moment → String
  | day d => String.ofList (dayText d)
  | clock c => String.ofList (clockText c)
  | both d c zone =>
    String.ofList (dayText d ++ 'T' :: clockText c ++ (match zone with
      | none => []
      | some z => zoneText z))

end Moment

namespace Toml

/-- A number of so many digits, within bounds. -/
def readCount? (width least greatest : Nat) (s : List Char) : Option (Nat × List Char) :=
  let ds := s.take width
  let n := Decimal.value ds
  if ds.length = width ∧ ds.all Char.isDigit ∧ least ≤ n ∧ n ≤ greatest then some (n, s.drop width)
  else none

def skipMark? (mark : Char) : List Char → Option (List Char)
  | c :: rest => if c = mark then some rest else none
  | [] => none

def readDay? (s : List Char) : Option (Day × List Char) := do
  let (year, s) ← readCount? 4 0 9999 s
  let s ← skipMark? '-' s
  let (month, s) ← readCount? 2 1 12 s
  let s ← skipMark? '-' s
  let (day, s) ← readCount? 2 1 (Day.monthLength year month) s
  return (⟨year, month, day⟩, s)

/-- The fraction of a second; digits beyond the ninth are dropped. -/
def readFraction? : List Char → Option (Nat × List Char)
  | '.' :: rest =>
    let ds := rest.takeWhile Char.isDigit
    if ds.isEmpty then none
    else
      let nine := ds.take 9
      some (Decimal.value nine * Nat.pow 10 (9 - nine.length), rest.dropWhile Char.isDigit)
  | s => some (0, s)

def readClock? (s : List Char) : Option (Clock × List Char) := do
  let (hour, s) ← readCount? 2 0 23 s
  let s ← skipMark? ':' s
  let (minute, s) ← readCount? 2 0 59 s
  let s ← skipMark? ':' s
  let (second, s) ← readCount? 2 0 60 s
  let (nanosecond, s) ← readFraction? s
  return (⟨hour, minute, second, nanosecond⟩, s)

def readZone? : List Char → Option (Option Zone × List Char)
  | c :: rest =>
    if c = 'Z' ∨ c = 'z' then some (some .universal, rest)
    else if c = '+' ∨ c = '-' then do
      let (hours, s) ← readCount? 2 0 23 rest
      let s ← skipMark? ':' s
      let (minutes, s) ← readCount? 2 0 59 s
      let m : Int := 60 * hours + minutes
      return (some (.shifted (if c = '-' then -m else m)), s)
    else some (none, c :: rest)
  | [] => some (none, [])

/-- A day, a time of day, or both, joined by a `T` or a space. -/
def readMoment? (s : List Char) : Option (Moment × List Char) :=
  match readDay? s with
  | none => (readClock? s).map fun (c, rest) => (.clock c, rest)
  | some (d, s) =>
    match s with
    | joint :: rest =>
      if joint = 'T' ∨ joint = 't' ∨ joint = ' ' then
        match readClock? rest with
        | some (c, rest) => (readZone? rest).map fun (zone, rest) => (.both d c zone, rest)
        | none => some (.day d, s)
      else some (.day d, s)
    | [] => some (.day d, [])

/-- The date or time that a quoted text holds, and nothing else with it. -/
def momentOfText? (s : String) : Option Moment :=
  match readMoment? s.toList with
  | some (m, []) => some m
  | _ => none

end Toml
end DualMode
