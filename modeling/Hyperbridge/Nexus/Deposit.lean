import Mathlib.Data.UInt
import Hyperbridge.Ismp.Dispatch
import Hyperbridge.Nexus.Teleport

/-!
# Deposits by XCM

A deposit for an account on an EVM chain is split: the protocol gets a percentage and, for the Ethereum main network, a
base fee, and what remains is held by the gateway and teleported. The fee is added and subtracted in 128 bits without a
check, and the chain id and the timeout of the location are cut to the width of the request.
-/

namespace Hyperbridge.Nexus.XcmGateway

open Lib Exec Ismp TokenGateway

inductive NetworkId where
  | ethereum (chainId : UInt64)
  | other

inductive Junction where
  | accountId32 (id : BytesN 32)
  | accountKey20 (network : Option NetworkId) (key : H160)
  | generalIndex (index : BitVec 128)
  | other

structure Location where
  parents : UInt8
  interior : List Junction

def NetworkId.stateMachine : NetworkId → Option StateMachine
  | ethereum chainId => some (.evm chainId.toUInt32)
  | other => none

def convertLocation : Location → Option MultiAccount
  | ⟨0, [.accountId32 id, .accountKey20 (some network) key, .generalIndex timeout]⟩ =>
      network.stateMachine.map fun dest => ⟨id, key, dest, UInt64.ofNat timeout.toNat⟩
  | _ => none

/-- A location on an EVM chain, as it is accepted. -/
def evmLocation (id : BytesN 32) (chainId : UInt64) (key : H160) (timeout : BitVec 128) : Location :=
  ⟨0, [.accountId32 id, .accountKey20 (some (.ethereum chainId)) key, .generalIndex timeout]⟩

def evmAccount (id : BytesN 32) (chainId : UInt64) (key : H160) (timeout : BitVec 128) : MultiAccount :=
  ⟨id, key, .evm chainId.toUInt32, UInt64.ofNat timeout.toNat⟩

/-- Only such locations are accepted. -/
theorem convertLocation_eq_some {who : Location} {account : MultiAccount} (h : convertLocation who = some account) :
    ∃ id chainId key timeout, who = evmLocation id chainId key timeout ∧
      account = evmAccount id chainId key timeout := by
  unfold convertLocation at h
  split at h
  · rename_i id network key timeout
    cases network with
    | ethereum chainId => exact ⟨id, chainId, key, timeout, rfl, (Option.some.inj h).symm⟩
    | other => cases h
  · cases h

abbrev Permill := Fin 1000001

def Permill.mul (p : Permill) (n : Nat) : Nat :=
  n / 1000000 * p + n % 1000000 * p / 1000000 + if 500000 < n % 1000000 * p % 1000000 then 1 else 0

inductive XcmError where
  | failedToTransactAsset (text : String)
  deriving DecidableEq

/-- The assets pallet and the parameters of the gateway. -/
structure Custody (Other : Type) where
  mintInto : BytesN 32 → BitVec 128 → Other → Except String Other
  protocolFeePercentage : Other → Permill
  protocolAccount : BytesN 32
  palletAccount : BytesN 32
  issuance : Other → Nat

variable {Other : Type} (T : Config Other) (N : Pallets Other) (A : Custody Other)

/-- The base fee of the main network. -/
def baseFee (dest : StateMachine) : Nat := if dest = .evm 1 then 20000000000 else 0

/-- The sum wraps. -/
def protocolFees (w : World Other) (dest : StateMachine) (amount : BitVec 128) : BitVec 128 :=
  BitVec.ofNat 128 ((A.protocolFeePercentage w.host.other).mul amount.toNat) + BitVec.ofNat 128 (baseFee dest)

def depositFor (who : MultiAccount) (amount : BitVec 128) : Exec (World Other) XcmError Unit := do
  let protocolFees ← gets fun w => protocolFees A w who.destStateMachine amount
  invoke (A.mintInto A.protocolAccount protocolFees) .failedToTransactAsset
  invoke (A.mintInto A.palletAccount (amount - protocolFees)) .failedToTransactAsset
  let _ ← mapErr (fun _ => .failedToTransactAsset "DispatchPostError")
    (dispatchTeleport T N who (amount - protocolFees))
  pure ()

/-- `deposit_asset`. -/
def depositAsset (amount : BitVec 128) (who : Location) : Exec (World Other) XcmError Unit :=
  match convertLocation who with
  | none => throw (.failedToTransactAsset "AccountIdConversionFailed")
  | some who => depositFor T N A who amount

/-- An error is rolled back. -/
def afterDeposit (amount : BitVec 128) (who : Location) (w : World Other) : World Other :=
  match (depositAsset T N A amount who).run w with
  | (.ok _, w') => w'
  | _ => w

/-- The fee as a number. -/
def protocolFee (w : World Other) (dest : StateMachine) (amount : BitVec 128) : Nat :=
  (A.protocolFeePercentage w.host.other).mul amount.toNat + baseFee dest

/-- No sum or difference of the split wraps. -/
def NoWrap (w : World Other) (dest : StateMachine) (amount : BitVec 128) : Prop :=
  (protocolFees A w dest amount).toNat = protocolFee A w dest amount ∧
    (protocolFees A w dest amount).toNat + (amount - protocolFees A w dest amount).toNat = amount.toNat

theorem noWrap_iff (w : World Other) (dest : StateMachine) (amount : BitVec 128) :
    NoWrap A w dest amount ↔ protocolFee A w dest amount ≤ amount.toNat := by
  have hsum : (protocolFees A w dest amount).toNat = protocolFee A w dest amount % 2 ^ 128 := by
    rw [protocolFees, BitVec.ofNat_add_ofNat, BitVec.toNat_ofNat]
    rfl
  have hamount := amount.isLt
  unfold NoWrap
  constructor
  · rintro ⟨hfee, hsplit⟩
    omega
  · intro hcovered
    have hfee : (protocolFees A w dest amount).toNat = protocolFee A w dest amount := by
      rw [hsum]
      exact Nat.mod_eq_of_lt (by omega)
    refine ⟨hfee, ?_⟩
    rw [BitVec.toNat_sub_of_le (by rw [BitVec.le_def]; omega)]
    omega

structure MintsExactly : Prop where
  mintInto : ∀ account amount o o', A.mintInto account amount o = .ok o' → A.issuance o' = A.issuance o + amount.toNat
  mmrPush : ∀ leaf o, A.issuance (T.mmrPush leaf o).2 = A.issuance o

structure DepositsExactly (w : World Other) (amount : BitVec 128) (id : BytesN 32) (chainId : UInt64) (key : H160)
    (timeout : BitVec 128) : Prop where
  noPanic : ¬ Panics (depositAsset T N A amount (evmLocation id chainId key timeout)) w
  noWrap : NoWrap A w (.evm chainId.toUInt32) amount
  ok : ∀ w', (depositAsset T N A amount (evmLocation id chainId key timeout)).run w = (.ok (), w') →
    A.issuance w'.host.other = A.issuance w.host.other + amount.toNat ∧
      (∃ v c, (dispatchTeleport T N (evmAccount id chainId key timeout)
        (amount - protocolFees A w (.evm chainId.toUInt32) amount)).run v = (.ok c, w')) ∧
      chainId.toUInt32.toNat = chainId.toNat ∧ (UInt64.ofNat timeout.toNat).toNat = timeout.toNat
  err : ∀ e w', (depositAsset T N A amount (evmLocation id chainId key timeout)).run w = (.err e, w') →
    A.issuance (afterDeposit T N A amount (evmLocation id chainId key timeout) w).host.other = A.issuance w.host.other
  tooLow : amount.toNat < protocolFee A w (.evm chainId.toUInt32) amount →
    ∃ e w', (depositAsset T N A amount (evmLocation id chainId key timeout)).run w = (.err e, w')

variable {T N A} {w w' : World Other} {who : MultiAccount} {amount : BitVec 128}

theorem depositFor_ok {u : Unit} (h : (depositFor T N A who amount).run w = (.ok u, w')) :
    let fees := protocolFees A w who.destStateMachine amount
    ∃ o o' c, A.mintInto A.protocolAccount fees w.host.other = .ok o ∧
      A.mintInto A.palletAccount (amount - fees) o = .ok o' ∧
      (dispatchTeleport T N who (amount - fees)).run (others.set o' w) = (.ok c, w') := by
  rw [depositFor, gets_bind_run] at h
  obtain ⟨_, _, hfirst, h⟩ := bind_ok.mp h
  obtain ⟨o, ho, rfl⟩ := invoke_ok.mp hfirst
  obtain ⟨_, _, hsecond, h⟩ := bind_ok.mp h
  obtain ⟨o', ho', rfl⟩ := invoke_ok.mp hsecond
  obtain ⟨c, v, hdispatch, h⟩ := bind_ok.mp h
  obtain ⟨-, rfl⟩ := Prod.mk.inj h
  exact ⟨o, o', c, ho, ho', mapErr_ok.mp hdispatch⟩

theorem issuance_dispatchTeleport {c : H256} (hmint : MintsExactly T A)
    (h : (dispatchTeleport T N who amount).run w = (.ok c, w')) :
    A.issuance w'.host.other = A.issuance w.host.other := by
  rw [dispatchTeleport, gets_bind_run] at h
  obtain ⟨other, hcollected, -, -, rfl⟩ := dispatchRequest_ok h
  obtain rfl : other = w.host.other := hcollected
  exact hmint.mmrPush _ _

theorem not_panics_invoke {f : Other → Except String Other} {err : String → XcmError} : ¬ Panics (invoke f err) w := by
  unfold invoke
  rw [panics_query_bind]
  rintro ⟨other, -, hpanics⟩
  exact not_panics_modify _ _ hpanics

theorem panics_dispatchTeleport : Panics (dispatchTeleport T N who amount) w ↔
    T.hostStateMachine.toText = none ∨ who.destStateMachine.toText = none := by
  have hsame : Panics (dispatchTeleport T N who amount) w ↔
      Panics (commitRequest T (.post (teleported T N who amount w)) ⟨who.substrateAccount.bytes, 0⟩)
        ⟨{ w.host with nonce := w.host.nonce + 1 }, w.trace⟩ := Iff.rfl
  rw [hsame, panics_commitRequest, hashRequest_post_eq_none]
  rfl

theorem not_panics_depositFor (hhost : T.hostStateMachine.toText ≠ none) (hdest : who.destStateMachine.toText ≠ none) :
    ¬ Panics (depositFor T N A who amount) w := by
  have hteleport (remainder : BitVec 128) (v : World Other) : ¬ Panics (dispatchTeleport T N who remainder) v := by
    rw [panics_dispatchTeleport]
    tauto
  unfold depositFor
  simp [panics_bind, not_panics_invoke, hteleport]

/-- The locations that are accepted are those on EVM chains. A deposit for one is exact if and only if the amount covers
the fee and, where it succeeds, the chain id has 32 bits and the timeout 64. -/
theorem deposits_exactly_iff (hhost : T.hostStateMachine.toText ≠ none) (hmint : MintsExactly T A) :
    (∀ who account, convertLocation who = some account → ∃ id chainId key timeout,
      who = evmLocation id chainId key timeout ∧ account = evmAccount id chainId key timeout) ∧
    ∀ (w : World Other) (amount : BitVec 128) id chainId key timeout,
      DepositsExactly T N A w amount id chainId key timeout ↔
        protocolFee A w (.evm chainId.toUInt32) amount ≤ amount.toNat ∧
          ((∃ w', (depositAsset T N A amount (evmLocation id chainId key timeout)).run w = (.ok (), w')) →
            chainId.toNat < 2 ^ 32 ∧ timeout.toNat < 2 ^ 64) := by
  refine ⟨fun _ _ => convertLocation_eq_some, fun w amount id chainId key timeout => ?_⟩
  have hchain : chainId.toUInt32.toNat = chainId.toNat ↔ chainId.toNat < 2 ^ 32 := by
    rw [UInt64.toNat_toUInt32]
    omega
  have htime : (UInt64.ofNat timeout.toNat).toNat = timeout.toNat ↔ timeout.toNat < 2 ^ 64 := by
    rw [UInt64.toNat_ofNat']
    omega
  constructor
  · rintro ⟨-, hwrap, hok, -, -⟩
    refine ⟨(noWrap_iff A w _ amount).mp hwrap, ?_⟩
    rintro ⟨w', hrun⟩
    obtain ⟨-, -, hc, ht⟩ := hok w' hrun
    exact ⟨hchain.mp hc, htime.mp ht⟩
  · rintro ⟨hcovered, hnamed⟩
    have hwrap := (noWrap_iff A w _ amount).mpr hcovered
    refine ⟨not_panics_depositFor hhost (by simp [StateMachine.toText]), hwrap, fun w' hrun => ?_,
      fun e w' hrun => ?_, fun hlow => absurd hcovered (by omega)⟩
    · obtain ⟨hc, ht⟩ := hnamed ⟨w', hrun⟩
      obtain ⟨o, o', c, ho, ho', hdispatch⟩ := depositFor_ok hrun
      refine ⟨?_, ⟨_, c, hdispatch⟩, hchain.mpr hc, htime.mpr ht⟩
      have hminted : A.issuance o' = A.issuance w.host.other + amount.toNat := by
        rw [hmint.mintInto _ _ _ _ ho', hmint.mintInto _ _ _ _ ho, Nat.add_assoc]
        exact congrArg _ hwrap.2
      exact (issuance_dispatchTeleport hmint hdispatch).trans hminted
    · rw [afterDeposit, hrun]

def sampleCustody : Custody SampleOther where
  mintInto account amount o := .ok { o with sent := o.sent ++ [(account.bytes, amount)] }
  protocolFeePercentage _ := 0
  protocolAccount := BytesN.ofNat 32 1
  palletAccount := BytesN.ofNat 32 2
  issuance o := (o.sent.map fun p => p.2.toNat).sum

theorem sample_mintsExactly : MintsExactly (sampleNexus (.evm 1)) sampleCustody where
  mintInto account amount o o' h := by
    rw [← Except.ok.inj h]
    simp [sampleCustody]
  mmrPush _ _ := rfl

theorem deposits_exactly_iff_sample :
    DepositsExactly (sampleNexus (.evm 1)) samplePallets sampleCustody teleportWorld 30000000000 (BytesN.zero 32) 1
      sampleGateway 600 :=
  ((deposits_exactly_iff (by decide) sample_mintsExactly).2 teleportWorld _ _ _ _ _).mpr
    ⟨by decide +kernel, fun _ => by decide +kernel⟩

/-- An amount of one to the main network wraps around. A deposit for chain `2 ^ 32 + 10` succeeds, and goes to chain 10.
-/
theorem deposits_inexactly :
    ¬ NoWrap sampleCustody teleportWorld (.evm 1) 1 ∧
      ((depositAsset (sampleNexus (.evm 1)) samplePallets sampleCustody 30000000000
        (evmLocation (BytesN.zero 32) (2 ^ 32 + 10) sampleGateway 600)).run teleportWorld).1 = .ok () ∧
      (evmAccount (BytesN.zero 32) (2 ^ 32 + 10) sampleGateway 600).destStateMachine = .evm 10 :=
  ⟨by rw [noWrap_iff]; decide +kernel, by decide +kernel, by decide +kernel⟩

end Hyperbridge.Nexus.XcmGateway
