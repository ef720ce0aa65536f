import Hyperbridge.TokenGateway.Refund

/-!
# Decimals

`convert_to_erc20` and `convert_to_balance` multiply and divide by a power of ten, whose exponent is the difference of
the decimals, or zero where the asset has more here, and which wraps at 128 bits. Values are kept exactly if the ERC20
has as many decimals, or up to 38 more. With fewer the number stays and stands for another value; with 39 more the power
has wrapped, and with 128 more it is zero and the division panics.
-/

namespace Hyperbridge.TokenGateway.Gateway

open Lib Exec Ismp

/-- `x` with `a` decimals is `v` with `b`, rounded down. -/
def RoundsDown (x a v b : Nat) : Prop := x * 10 ^ b ≤ v * 10 ^ a ∧ v * 10 ^ a < (x + 1) * 10 ^ b

structure KeepsValue (Other : Type) (ercDecimals decimals : UInt8) : Prop where
  not_wraps : 10 ^ (ercDecimals.toNat - decimals.toNat) < 2 ^ 128
  not_panics : ∀ (info : Meta) (x : U256) (w : World Other), ¬ Panics (convertToBalance info x ercDecimals decimals) w
  erc20 : ∀ v : BitVec 128,
    RoundsDown (convertToErc20 v ercDecimals decimals).toNat ercDecimals.toNat v.toNat decimals.toNat
  balance : ∀ (info : Meta) (x : U256) (w w' : World Other) (y : BitVec 128),
    (convertToBalance info x ercDecimals decimals).run w = (.ok y, w') →
      RoundsDown y.toNat decimals.toNat x.toNat ercDecimals.toNat
  back : decimals ≤ ercDecimals → ∀ (info : Meta) (v : BitVec 128) (w : World Other),
    (convertToBalance info (convertToErc20 v ercDecimals decimals) ercDecimals decimals).run w = (.ok v, w)

variable {Other : Type} {ercDecimals decimals : UInt8}

/-- The powers of ten of 128 bits. -/
theorem pow_lt_iff {n : Nat} : 10 ^ n < 2 ^ 128 ↔ n ≤ 38 := by
  constructor
  · intro h
    by_contra hlt
    have hle : 10 ^ 39 ≤ 10 ^ n := Nat.pow_le_pow_right (by decide) (by omega)
    have hbig : 2 ^ 128 ≤ 10 ^ 39 := by decide
    omega
  · intro h
    have hle : 10 ^ n ≤ 10 ^ 38 := Nat.pow_le_pow_right (by decide) h
    have hsmall : 10 ^ 38 < 2 ^ 128 := by decide
    omega

theorem convertToBalance_panics_iff {info : Meta} {x : U256} {w : World Other} :
    Panics (convertToBalance info x ercDecimals decimals) w ↔ scale ercDecimals decimals = 0 := by
  unfold convertToBalance
  split
  · next hzero => exact iff_of_true ⟨_, _, rfl⟩ hzero
  · next hne => exact iff_of_false (not_panics_ofExcept _ w) hne

/-- A difference below zero counts as zero. -/
theorem scale_eq_one (h : ercDecimals < decimals) : scale ercDecimals decimals = 1 := by
  have hlt : ercDecimals.toNat < decimals.toNat := UInt8.lt_iff_toNat_lt.mp h
  rw [scale, Nat.sub_eq_zero_of_le hlt.le]
  rfl

theorem scale_eq_zero (h : decimals.toNat + 128 ≤ ercDecimals.toNat) : scale ercDecimals decimals = 0 := by
  have hten : 10 ^ (ercDecimals.toNat - decimals.toNat) =
      2 ^ (ercDecimals.toNat - decimals.toNat) * 5 ^ (ercDecimals.toNat - decimals.toNat) := by
    rw [← Nat.mul_pow]
  rw [scale, hten]
  exact Nat.mod_eq_zero_of_dvd (Dvd.dvd.mul_right (Nat.pow_dvd_pow 2 (by omega)) _)

theorem keepsValue_of_le (hle : decimals ≤ ercDecimals) (hmax : ercDecimals.toNat ≤ decimals.toNat + 38) :
    KeepsValue Other ercDecimals decimals := by
  have hnat : decimals.toNat ≤ ercDecimals.toNat := UInt8.le_iff_toNat_le.mp hle
  have hlt : 10 ^ (ercDecimals.toNat - decimals.toNat) < 2 ^ 128 := pow_lt_iff.mpr (by omega)
  have hscale : scale ercDecimals decimals = 10 ^ (ercDecimals.toNat - decimals.toNat) := Nat.mod_eq_of_lt hlt
  have hpos : 0 < scale ercDecimals decimals := by
    rw [hscale]
    exact Nat.pow_pos (by decide)
  have hten : 10 ^ ercDecimals.toNat = scale ercDecimals decimals * 10 ^ decimals.toNat := by
    rw [hscale, ← Nat.pow_add, Nat.sub_add_cancel hnat]
  refine ⟨hlt, fun info x w h => hpos.ne' (convertToBalance_panics_iff.mp h), fun v => ?_,
    fun info x w w' y h => ?_, fun _ info v w => ?_⟩
  · have hone : 0 < 10 ^ decimals.toNat := Nat.pow_pos (by decide)
    rw [RoundsDown, toNat_convertToErc20, hten, ← Nat.mul_assoc]
    exact ⟨le_refl _, Nat.mul_lt_mul_of_pos_right (Nat.lt_succ_self _) hone⟩
  · obtain ⟨-, hy, -⟩ := convertToBalance_ok.mp h
    have hone : 0 < 10 ^ decimals.toNat := Nat.pow_pos (by decide)
    have hbelow : y.toNat * scale ercDecimals decimals ≤ x.toNat := hy ▸ Nat.div_mul_le_self _ _
    have habove : x.toNat < (y.toNat + 1) * scale ercDecimals decimals := by
      rw [← hy, Nat.mul_comm]
      exact Nat.lt_mul_div_succ _ hpos
    rw [RoundsDown, hten, ← Nat.mul_assoc, ← Nat.mul_assoc]
    exact ⟨Nat.mul_le_mul_right _ hbelow, Nat.mul_lt_mul_of_pos_right habove hone⟩
  · refine convertToBalance_ok.mpr ⟨hpos.ne', ?_, rfl⟩
    rw [toNat_convertToErc20, Nat.mul_div_cancel _ hpos]

theorem le_of_roundsDown (h : RoundsDown (convertToErc20 1 ercDecimals decimals).toNat ercDecimals.toNat 1
    decimals.toNat) : decimals ≤ ercDecimals ∧ ercDecimals.toNat ≤ decimals.toNat + 38 := by
  have hvalue : (convertToErc20 1 ercDecimals decimals).toNat = scale ercDecimals decimals := by
    rw [toNat_convertToErc20]
    exact Nat.one_mul _
  rw [hvalue, RoundsDown, Nat.one_mul] at h
  have hle : decimals ≤ ercDecimals := by
    by_contra hlt
    rw [scale_eq_one (UInt8.not_le.mp hlt), Nat.one_mul] at h
    have hpow : 10 ^ ercDecimals.toNat < 10 ^ decimals.toNat :=
      Nat.pow_lt_pow_right (by decide) (UInt8.lt_iff_toNat_lt.mp (UInt8.not_le.mp hlt))
    omega
  have hnat : decimals.toNat ≤ ercDecimals.toNat := UInt8.le_iff_toNat_le.mp hle
  have hten : 10 ^ ercDecimals.toNat = 10 ^ (ercDecimals.toNat - decimals.toNat) * 10 ^ decimals.toNat := by
    rw [← Nat.pow_add, Nat.sub_add_cancel hnat]
  rw [hten] at h
  have hpow : 10 ^ (ercDecimals.toNat - decimals.toNat) < 2 ^ 128 :=
    lt_of_le_of_lt (Nat.le_of_lt_succ (Nat.lt_of_mul_lt_mul_right h.2)) (scale_lt ercDecimals decimals)
  have hmax := pow_lt_iff.mp hpow
  exact ⟨hle, by omega⟩

/-- Values are kept exactly if the ERC20 has as many decimals, or up to 38 more. With fewer decimals the number is left
as it is; with 128 more or beyond nothing can be converted back. -/
theorem keepsValue_iff (Other : Type) (ercDecimals decimals : UInt8) :
    (KeepsValue Other ercDecimals decimals ↔ decimals ≤ ercDecimals ∧ ercDecimals.toNat ≤ decimals.toNat + 38) ∧
      (ercDecimals < decimals → ∀ v, (convertToErc20 v ercDecimals decimals).toNat = v.toNat) ∧
      (decimals.toNat + 128 ≤ ercDecimals.toNat → ∀ (info : Meta) (x : U256) (w : World Other),
        Panics (convertToBalance info x ercDecimals decimals) w) := by
  refine ⟨⟨fun h => le_of_roundsDown (h.erc20 1), fun h => keepsValue_of_le h.1 h.2⟩, fun h v => ?_,
    fun h info x w => ?_⟩
  · rw [toNat_convertToErc20, scale_eq_one h, Nat.mul_one]
  · exact convertToBalance_panics_iff.mpr (scale_eq_zero h)

/-- With 18 decimals here and 6 there the smallest unit becomes a millionth. -/
theorem smallest_unit_becomes_millionth :
    convertToErc20 1 6 18 = 1 ∧ ¬ RoundsDown (convertToErc20 1 6 18).toNat 6 1 18 := by
  refine ⟨by decide, fun h => ?_⟩
  have hle := (le_of_roundsDown h).1
  revert hle
  decide

end Hyperbridge.TokenGateway.Gateway
