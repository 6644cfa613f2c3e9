import Embargo.Decimal.Shortest
import Embargo.Text.Decimal

namespace Embargo.Yaml

open Decimal

inductive Number where
  | int (n : Int)
  | float (x : Binary64)
deriving DecidableEq, Repr

structure FloatLayout where
  maxPlaces : Int
  maxZeros : Int

namespace Number

def fits (bits : Nat) (n : Int) : Bool :=
  -(Nat.pow 2 (bits - 1) : Int) ≤ n && n < (Nat.pow 2 bits : Int)

/--
Numbers are written with a point as long as there are at most 16 places in front of it, or at most
four zeros behind it.
-/
def layout : FloatLayout :=
  ⟨16, 4⟩

def zeros (n : Nat) : List Char :=
  List.replicate n '0'

def showInt (n : Int) : List Char :=
  if n < 0 then '-' :: (Text.showNat n.natAbs).toList else (Text.showNat n.natAbs).toList

def layOut (l : FloatLayout) (ds : List Char) (places : Int) : List Char :=
  let n : Int := ds.length
  if n ≤ places && places ≤ l.maxPlaces then
    ds ++ zeros (places - n).toNat ++ ['.', '0']
  else if 0 < places && places ≤ l.maxPlaces then
    ds.take places.toNat ++ '.' :: ds.drop places.toNat
  else if -l.maxZeros ≤ places && places ≤ 0 then
    ['0', '.'] ++ zeros (-places).toNat ++ ds
  else
    match ds with
    | [] => []
    | d :: [] => d :: 'e' :: showInt (places - 1)
    | d :: others => d :: '.' :: others ++ 'e' :: showInt (places - 1)

def showFloat (x : Binary64) : List Char :=
  if x.isNaN then
    ".nan".toList
  else
    let sign := if x.isNegative then ['-'] else []
    if !x.isFinite then
      sign ++ ".inf".toList
    else if x.isZero then
      sign ++ "0.0".toList
    else
      let d := x.shortest
      let ds := (Text.showNat d.digits).toList
      sign ++ layOut layout ds (ds.length + d.exponent)

def text : Number → String
  | .int n => String.ofList (showInt n)
  | .float x => String.ofList (showFloat x)

/--
Whether two numbers are the same key of a mapping: zero has no sign there, and there is one NaN.
-/
def sameKey : Number → Number → Bool
  | .int m, .int n => m == n
  | .float x, .float y =>
    if x.isNaN then y.isNaN else x == y || (x.isZero && y.isZero)
  | _, _ => false

end Number

end Embargo.Yaml
