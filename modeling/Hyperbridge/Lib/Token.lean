import Hyperbridge.Lib.Solidity
import Mathlib.Data.Int.Notation
import Mathlib.Logic.Function.Basic

/-!
# Standard tokens

The ledger of an ERC20 token, with the minting and burning of ERC6160 and the deposits of wrapped native tokens. Every
operation is described by what it does to each balance and to the supply (`Token.Changes`).
-/

namespace Hyperbridge.Lib

/-- Balances, supply and allowances. -/
structure Token where
  balances : H160 → Nat
  totalSupply : Nat
  allowances : H160 → H160 → Nat

namespace Token

def pay (balances : H160 → Nat) (a : H160) (amount : U256) : H160 → Nat :=
  Function.update balances a (balances a + amount.toNat)

def take (balances : H160 → Nat) (a : H160) (amount : U256) : H160 → Nat :=
  Function.update balances a (balances a - amount.toNat)

variable (amount : U256) (t : Token)

def transfer (sender recipient : H160) : Call Token := do
  revertIf (recipient = BytesN.zero 20) (.require "ERC20: transfer to the zero address")
  revertIf (t.balances sender < amount.toNat) (.require "ERC20: transfer amount exceeds balance")
  pure { t with balances := pay (take t.balances sender amount) recipient amount }

/-- The largest allowance is never used up. -/
def spendAllowance (owner spender : H160) : Call Token :=
  let allowance := t.allowances owner spender
  if allowance = 2 ^ 256 - 1 then pure t
  else do
    revertIf (allowance < amount.toNat) (.require "ERC20: insufficient allowance")
    let spent := Function.update (t.allowances owner) spender (allowance - amount.toNat)
    pure { t with allowances := Function.update t.allowances owner spent }

def transferFrom (spender sender recipient : H160) : Call Token := do
  let t ← t.spendAllowance amount sender spender
  t.transfer amount sender recipient

/-- The supply of a wrapped token is not checked. -/
def deposit (recipient : H160) : Token :=
  { t with balances := pay t.balances recipient amount, totalSupply := t.totalSupply + amount.toNat }

def mint (recipient : H160) : Call Token := do
  revertIf (recipient = BytesN.zero 20) (.require "ERC20: mint to the zero address")
  revertIf (2 ^ 256 ≤ t.totalSupply + amount.toNat) U256.overflow
  pure (t.deposit amount recipient)

def burn (owner : H160) : Call Token := do
  revertIf (owner = BytesN.zero 20) (.require "ERC20: burn from the zero address")
  revertIf (t.balances owner < amount.toNat) (.require "ERC20: burn amount exceeds balance")
  revertIf (t.totalSupply < amount.toNat) U256.overflow
  pure { t with balances := take t.balances owner amount, totalSupply := t.totalSupply - amount.toNat }

structure Changes (gain : H160 → ℤ) (grown : ℤ) (t t' : Token) : Prop where
  balances : ∀ a, (t'.balances a : ℤ) = t.balances a + gain a
  supply : (t'.totalSupply : ℤ) = t.totalSupply + grown

/-- An amount at one address. -/
def only (a : H160) (amount : U256) (b : H160) : ℤ := if b = a then amount.toNat else 0

@[simp] theorem only_self (a : H160) : only a amount a = amount.toNat := if_pos rfl

theorem only_of_ne {a b : H160} (h : b ≠ a) : only a amount b = 0 := if_neg h

variable {amount t} {t' : Token}

theorem pay_apply (balances : H160 → Nat) (a b : H160) :
    (pay balances a amount b : ℤ) = balances b + only a amount b := by
  unfold pay only
  by_cases hb : b = a
  · subst hb
    simp
  · simp [hb]

theorem take_apply {balances : H160 → Nat} {a : H160} (ha : amount.toNat ≤ balances a) (b : H160) :
    (take balances a amount b : ℤ) = balances b - only a amount b := by
  unfold take only
  by_cases hb : b = a
  · subst hb
    simp [ha]
  · simp [hb]

theorem transfer_ok {sender recipient : H160} (h : t.transfer amount sender recipient = .ok t') :
    Changes (fun a => only recipient amount a - only sender amount a) 0 t t' := by
  simp only [transfer, except_check_ok, revertIf_ok, Nat.not_lt] at h
  obtain ⟨-, hbalance, h⟩ := h
  cases h
  refine ⟨fun a => ?_, (add_zero _).symm⟩
  rw [pay_apply, take_apply hbalance]
  omega

theorem spendAllowance_ok {owner spender : H160} (h : t.spendAllowance amount owner spender = .ok t') :
    t'.balances = t.balances ∧ t'.totalSupply = t.totalSupply := by
  simp only [spendAllowance] at h
  split at h
  · cases h
    exact ⟨rfl, rfl⟩
  · cases (except_check_ok.mp h).2
    exact ⟨rfl, rfl⟩

theorem transferFrom_ok {spender sender recipient : H160}
    (h : t.transferFrom amount spender sender recipient = .ok t') :
    Changes (fun a => only recipient amount a - only sender amount a) 0 t t' := by
  obtain ⟨t₁, hspent, htransfer⟩ := except_bind_ok.mp h
  obtain ⟨hbalances, hsupply⟩ := spendAllowance_ok hspent
  obtain ⟨hgain, hgrown⟩ := transfer_ok htransfer
  exact ⟨fun a => by rw [hgain, hbalances], by rw [hgrown, hsupply]⟩

theorem deposit_changes (amount : U256) (t : Token) (recipient : H160) :
    Changes (only recipient amount) amount.toNat t (t.deposit amount recipient) :=
  ⟨pay_apply t.balances recipient, Nat.cast_add ..⟩

theorem mint_ok {recipient : H160} (h : t.mint amount recipient = .ok t') :
    Changes (only recipient amount) amount.toNat t t' := by
  simp only [mint, except_check_ok] at h
  cases h.2.2
  exact deposit_changes amount t recipient

theorem burn_ok {owner : H160} (h : t.burn amount owner = .ok t') :
    Changes (fun a => -only owner amount a) (-amount.toNat) t t' := by
  simp only [burn, except_check_ok, revertIf_ok, Nat.not_lt] at h
  obtain ⟨-, hbalance, hsupply, h⟩ := h
  cases h
  refine ⟨fun a => ?_, ?_⟩
  · rw [take_apply hbalance]
    omega
  · simp only
    omega

end Token

end Hyperbridge.Lib
