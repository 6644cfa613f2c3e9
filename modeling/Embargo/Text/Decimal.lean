namespace Embargo.Text

def digitValue (c : Char) : Nat :=
  c.toNat - '0'.toNat

def digitsValue (cs : List Char) : Nat :=
  cs.foldl (fun n c => n * 10 + digitValue c) 0

/--
Read a number below `bound`: one or more ASCII digits, which a plus sign may precede.
-/
def readNat? (bound : Nat) (cs : List Char) : Option Nat :=
  let digits := match cs with
    | '+' :: rest => rest
    | _ => cs
  if digits.isEmpty || !digits.all Char.isDigit then
    none
  else
    let n := digitsValue digits
    if n < bound then some n else none

def readUInt32? (cs : List Char) : Option UInt32 :=
  (readNat? UInt32.size cs).map UInt32.ofNat

def showNat (n : Nat) : String :=
  String.ofList (Nat.toDigits 10 n)

theorem digitsValue_toDigits (n : Nat) : digitsValue (Nat.toDigits 10 n) = n := by
  have hfold : digitsValue (Nat.toDigits 10 n) = Nat.ofDigitChars 10 (Nat.toDigits 10 n) 0 := by
    simp only [digitsValue, digitValue, Nat.ofDigitChars, Nat.mul_comm]
  rw [hfold, Nat.ofDigitChars_toDigits (by decide) (by decide)]

theorem isDigit_of_mem_showNat {n : Nat} {c : Char} (h : c ∈ (showNat n).toList) : c.isDigit = true := by
  rw [showNat, String.toList_ofList] at h
  exact Nat.isDigit_of_mem_toDigits (by decide) (by decide) h

theorem showNat_ne_empty (n : Nat) : (showNat n).toList ≠ [] := by
  rw [showNat, String.toList_ofList]
  exact Nat.toDigits_ne_nil

theorem readNat?_showNat {bound n : Nat} (h : n < bound) :
    readNat? bound (showNat n).toList = some n := by
  have hdigits : ∀ c ∈ (showNat n).toList, c.isDigit = true := fun _ => isDigit_of_mem_showNat
  have hvalue : digitsValue (showNat n).toList = n := by
    rw [showNat, String.toList_ofList, digitsValue_toDigits]
  cases hcs : (showNat n).toList with
  | nil => exact absurd hcs (showNat_ne_empty n)
  | cons c cs =>
    rw [hcs] at hdigits hvalue
    have hsign : c ≠ '+' := by
      rintro rfl
      exact absurd (hdigits '+' List.mem_cons_self) (by decide)
    have hall : (c :: cs).all Char.isDigit = true := List.all_eq_true.2 hdigits
    unfold readNat?
    dsimp only
    split
    · next hplus => exact absurd (List.cons.inj hplus).1 hsign
    · rw [hall, hvalue, if_pos h]
      rfl

theorem readUInt32?_showNat (n : UInt32) : readUInt32? (showNat n.toNat).toList = some n := by
  rw [readUInt32?, readNat?_showNat n.toNat_lt, Option.map_some, UInt32.ofNat_toNat]

end Embargo.Text
