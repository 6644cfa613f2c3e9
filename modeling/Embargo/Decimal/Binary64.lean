namespace Embargo.Decimal

structure Binary64 where
  bits : UInt64
deriving DecidableEq, Repr

namespace Binary64

def signBit : Nat := Nat.pow 2 63

def hiddenBit : Nat := Nat.pow 2 52

def infinityBits : Nat := 0x7FF * hiddenBit

def infinity : Binary64 :=
  ⟨UInt64.ofNat infinityBits⟩

def negInfinity : Binary64 :=
  ⟨UInt64.ofNat (signBit + infinityBits)⟩

def nan : Binary64 :=
  ⟨UInt64.ofNat (infinityBits + Nat.pow 2 51)⟩

def isNegative (x : Binary64) : Bool :=
  signBit ≤ x.bits.toNat

def magnitude (x : Binary64) : Nat :=
  x.bits.toNat % signBit

def isFinite (x : Binary64) : Bool :=
  x.magnitude < infinityBits

def isNaN (x : Binary64) : Bool :=
  infinityBits < x.magnitude

def isZero (x : Binary64) : Bool :=
  x.magnitude == 0

/--
The significand `m` and the exponent `e` of a finite number of absolute value `m * 2 ^ (e - 1074)`.
-/
def significand (x : Binary64) : Nat × Nat :=
  let fraction := x.magnitude % hiddenBit
  let exponent := x.magnitude / hiddenBit
  if exponent = 0 then (fraction, 0) else (fraction + hiddenBit, exponent - 1)

def roundHalfEven (num den : Nat) : Nat :=
  let q := num / den
  let twice := 2 * (num % den)
  if twice < den then q
  else if den < twice then q + 1
  else q + q % 2

/--
The bits of the number nearest to `num / den`, where `num` and `den` are positive. The exponent is
the least one under which the significand fits.
-/
def roundBits (num den : Nat) : Nat :=
  let scaled := num * Nat.pow 2 1074
  let quotient := scaled / den
  let exponent := quotient.log2 - 52
  let significand := roundHalfEven scaled (den * Nat.pow 2 exponent)
  if significand < hiddenBit then
    significand
  else
    min infinityBits ((exponent + 1) * hiddenBit + (significand - hiddenBit))

/--
The number nearest to `± digits * 10 ^ (exponent - shift)`. Numbers beyond the range of the format
are decided by their number of digits.
-/
def ofDecimal (negative : Bool) (digits exponent shift : Nat) : Binary64 :=
  let length := (Nat.toDigits 10 digits).length
  let bits :=
    if digits = 0 then 0
    else if 400 + shift < length + exponent then infinityBits
    else if length + exponent + 400 < shift then 0
    else
      let common := min exponent shift
      roundBits (digits * Nat.pow 10 (exponent - common)) (Nat.pow 10 (shift - common))
  ⟨UInt64.ofNat (if negative then signBit + bits else bits)⟩

def ofDecimalText? (cs : List Char) : Option Binary64 :=
  let (negative, cs) := match cs with
    | '-' :: rest => (true, rest)
    | '+' :: rest => (false, rest)
    | _ => (false, cs)
  let whole := cs.takeWhile Char.isDigit
  let rest := cs.dropWhile Char.isDigit
  let (fraction, rest) := match rest with
    | '.' :: rest => (rest.takeWhile Char.isDigit, rest.dropWhile Char.isDigit)
    | _ => ([], rest)
  let digits := whole ++ fraction
  let value (ds : List Char) : Nat := ds.foldl (fun n c => n * 10 + (c.toNat - '0'.toNat)) 0
  if digits.isEmpty then
    none
  else
    match rest with
    | [] => some (ofDecimal negative (value digits) 0 fraction.length)
    | e :: rest =>
      if e == 'e' || e == 'E' then
        let (down, ds) := match rest with
          | '-' :: ds => (true, ds)
          | '+' :: ds => (false, ds)
          | _ => (false, rest)
        if ds.isEmpty || !ds.all Char.isDigit then
          none
        else if down then
          some (ofDecimal negative (value digits) 0 (fraction.length + value ds))
        else
          some (ofDecimal negative (value digits) (value ds) fraction.length)
      else
        none

end Binary64

end Embargo.Decimal
