import Embargo.Decimal.Binary64

/-!
This module contains the choice of the fewest decimal digits that read back as a given binary number.
-/

namespace Embargo.Decimal

structure Digits where
  digits : Nat
  exponent : Int
deriving DecidableEq, Repr

namespace Binary64

/--
Whether `candidate / unit` lies between the two points halfway to the neighbours of `m * 2 ^ e`, where
all three are counted in quarters of `2 ^ e`. The points themselves read back as the number if its
significand is even.
-/
def readsBack (m e candidate unit : Nat) : Bool :=
  let below := if m == hiddenBit && e != 0 then 4 * m - 1 else 4 * m - 2
  let above := 4 * m + 2
  if m % 2 == 0 then
    below * unit ≤ candidate && candidate ≤ above * unit
  else
    below * unit < candidate && candidate < above * unit

def trimZeros (digits : Nat) (exponent : Int) : Nat → Digits
  | 0 => ⟨digits, exponent⟩
  | n + 1 =>
    if digits % 10 == 0 && digits != 0 then
      trimZeros (digits / 10) (exponent + 1) n
    else
      ⟨digits, exponent⟩

def leadingPlace (num den : Nat) : Int :=
  if den ≤ num then
    (Nat.toDigits 10 (num / den)).length - 1
  else
    let k := (Nat.toDigits 10 (den / num)).length
    if num * Nat.pow 10 (k - 1) < den then - (k : Int) else 1 - (k : Int)

/--
The nearest number with `n` digits, if it reads back. Of two that are equally near the one with the
even last digit is taken.
-/
def withDigits? (m e : Nat) (n : Nat) : Option Digits :=
  -- the value is `num / den` with `num = m * 2 ^ e` and `den = 2 ^ 1074`
  let num := m * Nat.pow 2 e
  let den := Nat.pow 2 1074
  let grid : Int := leadingPlace num den - (n - 1 : Nat)
  let up := (-grid).toNat
  let down := grid.toNat
  let scaledNum := num * Nat.pow 10 up
  let scaledDen := den * Nat.pow 10 down
  let floor := scaledNum / scaledDen
  let hits (c : Nat) : Bool :=
    readsBack m e (4 * c * Nat.pow 10 down * den) (Nat.pow 10 up * Nat.pow 2 e)
  let nearest := roundHalfEven scaledNum scaledDen
  let other := if nearest == floor then floor + 1 else floor
  if hits nearest then some (trimZeros nearest grid 20)
  else if hits other then some (trimZeros other grid 20)
  else none

/--
The fewest digits that read back as a finite number that is not zero. Seventeen digits always do.
-/
def shortest (x : Binary64) : Digits :=
  let (m, e) := x.significand
  go m e 17 1
where
  go (m e : Nat) : Nat → Nat → Digits
    | 0, _ => ⟨0, 0⟩
    | fuel + 1, n =>
      match withDigits? m e n with
      | some d => d
      | none => go m e fuel (n + 1)

end Binary64

end Embargo.Decimal
