import Embargo.Text.Decimal

namespace Embargo

inductive Level where
  | any
  | exact (level : UInt32)
deriving DecidableEq, Repr, Inhabited

namespace Level

/--
The requirement that a number stands for. Zero requires nothing.
-/
def ofNumber (n : UInt32) : Level :=
  if n = 0 then .any else .exact n

def toNumber : Level → UInt32
  | .any => 0
  | .exact n => n

def accepts : Level → UInt32 → Bool
  | .any, _ => true
  | .exact n, actual => n == actual

def text : Level → String
  | .any => "any"
  | .exact n => Text.showNat n.toNat

@[simp]
theorem ofNumber_ne_exact_zero (n : UInt32) : ofNumber n ≠ .exact 0 := by
  unfold ofNumber
  split
  · exact Level.noConfusion
  · next h => exact fun he => h (by injection he)

@[simp]
theorem toNumber_ofNumber (n : UInt32) : (ofNumber n).toNumber = n := by
  unfold ofNumber
  split
  · next hzero => exact hzero.symm
  · rfl

theorem ofNumber_inj {m n : UInt32} : ofNumber m = ofNumber n ↔ m = n := by
  constructor
  · intro h
    rw [← toNumber_ofNumber m, h, toNumber_ofNumber]
  · exact congrArg ofNumber

theorem ofNumber_toNumber {level : Level} (h : level ≠ .exact 0) : ofNumber level.toNumber = level := by
  cases level with
  | any => rfl
  | exact n =>
    have hn : n ≠ 0 := fun hn => h (congrArg exact hn)
    exact if_neg hn

theorem accepts_ofNumber_iff {n actual : UInt32} :
    (ofNumber n).accepts actual = true ↔ n = 0 ∨ actual = n := by
  unfold ofNumber
  split
  · next hzero => exact iff_of_true rfl (.inl hzero)
  · next hzero =>
    rw [or_iff_right hzero]
    exact beq_iff_eq.trans eq_comm

end Level

end Embargo
