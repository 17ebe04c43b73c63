/-! Doubles taken apart into sign, significand and binary exponent, and the operations
that are exact on those parts. -/

namespace DualMode

/-- A finite double is `± significand · 2 ^ exponent`. -/
inductive Binary64
  | nan | infinite (negative : Bool)
  | finite (negative : Bool) (significand : Nat) (exponent : Int)
  deriving DecidableEq

namespace Binary64

def ofBits (bits : Nat) : Binary64 :=
  let negative := bits / Nat.pow 2 63 % 2 == 1
  let scale : Nat := bits / Nat.pow 2 52 % 2048
  let fraction : Nat := bits % Nat.pow 2 52
  if scale = 2047 then (if fraction = 0 then .infinite negative else .nan)
  else if scale = 0 then .finite negative fraction (-1074)
  else .finite negative (Nat.pow 2 52 + fraction) ((scale : Int) - 1075)

def ofFloat (x : Float) : Binary64 := ofBits x.toBits.toNat

/-- The double `± n · 2 ^ e`, exact when `n < 2 ^ 53` and `-1074 ≤ e`. -/
def toFloat (negative : Bool) (n : Nat) (e : Int) : Float :=
  let size := (Float.ofNat n).scaleB e
  if negative then -size else size

/-- The remainder of a division truncated toward zero. It is exact, has the sign of the
dividend, and is the dividend when the divisor is infinite. -/
def remainder (x y : Float) : Float :=
  match ofFloat x, ofFloat y with
  | .finite negative m e, .finite _ n d =>
    if n = 0 then 0.0 / 0.0
    else
      let unit := min e d
      toFloat negative
        (m * Nat.pow 2 (e - unit).toNat % (n * Nat.pow 2 (d - unit).toNat)) unit
  | .finite _ _ _, .infinite _ => x
  | _, _ => 0.0 / 0.0

/-- The nearest natural number, a half going up; nothing below zero, and at most `2 ^ 64 - 1`. -/
def clampedRound (x : Float) : Nat :=
  match ofFloat x with
  | .finite false m e =>
    min (UInt64.size - 1)
      (if 0 ≤ e then m * Nat.pow 2 e.toNat
      else (2 * m + Nat.pow 2 (-e).toNat) / Nat.pow 2 ((-e).toNat + 1))
  | .infinite false => UInt64.size - 1
  | _ => 0

end Binary64
end DualMode
