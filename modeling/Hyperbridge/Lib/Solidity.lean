import Hyperbridge.Lib.Bytes
import Hyperbridge.Lib.Exec
import Mathlib.Data.BitVec

/-!
# Solidity values

256-bit words, the arithmetic that reverts when a result does not fit, and the ways a call reverts.
-/

namespace Hyperbridge.Lib

inductive Revert where
  | error (name : String)
  | require (text : String)
  | panic (code : Nat)
  deriving DecidableEq

abbrev U256 := BitVec 256

/-- A call returns or reverts. -/
abbrev Call := Except Revert

def revertIf (c : Prop) [Decidable c] (e : Revert) : Call Unit := if c then .error e else .ok ()

theorem revertIf_ok {c : Prop} [Decidable c] {e : Revert} : revertIf c e = .ok () ↔ ¬ c := by
  unfold revertIf
  split <;> simp_all

namespace U256

/-- The panic code of arithmetic. -/
def overflow : Revert := .panic 0x11

def add (a b : U256) : Call U256 := if a.toNat + b.toNat < 2 ^ 256 then .ok (a + b) else .error overflow

def sub (a b : U256) : Call U256 := if b.toNat ≤ a.toNat then .ok (a - b) else .error overflow

def mul (a b : U256) : Call U256 := if a.toNat * b.toNat < 2 ^ 256 then .ok (a * b) else .error overflow

theorem add_ok {a b c : U256} : add a b = .ok c ↔ c.toNat = a.toNat + b.toNat := by
  unfold add
  split
  · rename_i h
    rw [Except.ok.injEq, ← BitVec.toNat_inj, BitVec.toNat_add, Nat.mod_eq_of_lt h]
    exact eq_comm
  · have := c.isLt
    simp only [reduceCtorEq, false_iff]
    omega

theorem mul_ok {a b c : U256} : mul a b = .ok c ↔ c.toNat = a.toNat * b.toNat := by
  unfold mul
  split
  · rename_i h
    rw [Except.ok.injEq, ← BitVec.toNat_inj, BitVec.toNat_mul, Nat.mod_eq_of_lt h]
    exact eq_comm
  · have := c.isLt
    simp only [reduceCtorEq, false_iff]
    omega

/-- The high bits are cut off. -/
def toUint64 (n : U256) : UInt64 := UInt64.ofNat n.toNat

end U256

def addUint64 (a b : UInt64) : Call UInt64 :=
  if a.toNat + b.toNat < 2 ^ 64 then .ok (a + b) else .error U256.overflow

end Hyperbridge.Lib
