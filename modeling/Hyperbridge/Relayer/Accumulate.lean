import Hyperbridge.Relayer.Pallet
import Mathlib.Data.List.ReduceOption

/-!
# What is credited

The flag of a commitment is looked at once, before the loop over the list, and written once, after it. A call finds no
commitment that an earlier call has claimed, but in one call every mention of a commitment counts.
-/

namespace Hyperbridge.Relayer

open Lib Exec Ismp

variable {Other : Type} {T : Ismp.Config Other} {K : Config Other} {proof : WithdrawalProof} {v : Verified}
  {w w' w₀ : World Other}

variable (address : Bytes)

def total (entries : List (Bytes × U256)) : Nat :=
  (entries.map fun entry => if entry.1 = address then entry.2.toNat else 0).sum

/-- What the credits give an address. -/
def paidTo (credits : List Credit) : Nat :=
  (credits.map fun credit => if credit.address = address then credit.fee.toNat else 0).sum

/-- What is credited on account of a commitment. -/
def paidFor (account : MessageCommitment) (credits : List Credit) : Nat :=
  (credits.map fun credit => if credit.key.account = account then credit.fee.toNat else 0).sum

theorem total_cons (entry : Bytes × U256) (entries : List (Bytes × U256)) :
    total address (entry :: entries) = (if entry.1 = address then entry.2.toNat else 0) + total address entries := by
  rw [total, List.map_cons, List.sum_cons]
  rfl

theorem paidTo_cons (credit : Credit) (credits : List Credit) :
    paidTo address (credit :: credits) =
      (if credit.address = address then credit.fee.toNat else 0) + paidTo address credits := by
  rw [paidTo, List.map_cons, List.sum_cons]
  rfl

theorem paidFor_cons (account : MessageCommitment) (credit : Credit) (credits : List Credit) :
    paidFor account (credit :: credits) =
      (if credit.key.account = account then credit.fee.toNat else 0) + paidFor account credits := by
  rw [paidFor, List.map_cons, List.sum_cons]
  rfl

variable {account : MessageCommitment}

theorem paidFor_eq_zero {credits : List Credit}
    (h : ∀ credit ∈ credits, credit.key.account ≠ account) : paidFor account credits = 0 := by
  refine List.sum_eq_zero fun x hx => ?_
  obtain ⟨credit, hcredit, rfl⟩ := List.mem_map.mp hx
  exact if_neg (h credit hcredit)

/-- An entry adds its fee to its address. -/
theorem total_addEntry {address : Bytes} {fee : U256} {entries entries' : List (Bytes × U256)}
    (h : addEntry address fee entries = some entries') (a : Bytes) :
    total a entries' = total a entries + if address = a then fee.toNat else 0 := by
  induction entries generalizing entries' with
  | nil =>
    obtain rfl := Option.some.inj h
    simp [total]
  | cons entry entries ih =>
    obtain ⟨b, amount⟩ := entry
    rw [addEntry] at h
    by_cases hb : b = address
    · rw [if_pos hb] at h
      obtain ⟨sum, hsum, rfl⟩ := Option.map_eq_some_iff.mp h
      rw [U256.checkedAdd_eq_some] at hsum
      rw [total_cons, total_cons, hb]
      by_cases ha : address = a
      · simp only [if_pos ha, hsum]
        omega
      · simp only [if_neg ha]
        omega
    · rw [if_neg hb] at h
      obtain ⟨rest, hrest, rfl⟩ := Option.map_eq_some_iff.mp h
      rw [total_cons, total_cons, ih hrest]
      omega

variable (dest : StateMachine) (destResult : List (Bytes × Option Bytes))

theorem keeps_responseRelayer (destKey encodedReceipt : Bytes) :
    Keeps Eq (responseRelayer K dest destResult destKey encodedReceipt : Exec (World Other) Error _) := by
  unfold responseRelayer
  split
  · exact (Keeps.ofExcept _).bind fun _ => (Keeps.expect _ _).bind fun _ => (Keeps.ofExcept _).bind fun _ =>
      (Keeps.ofExcept _).bind fun _ => Keeps.pure _
  split
  · exact (Keeps.ofExcept _).bind fun _ => Keeps.pure _
  · exact Keeps.throw _

theorem keeps_relayerOf (key : Key) (destKey : Bytes) :
    Keeps Eq (relayerOf K dest destResult key destKey : Exec (World Other) Error _) := by
  refine (Keeps.ofExcept _).bind fun encodedReceipt => ?_
  cases key with
  | request c => exact Keeps.ofExcept _
  | response q c =>
    exact (keeps_responseRelayer dest destResult destKey encodedReceipt).bind fun _ =>
      (Keeps.throwIf _ _).bind fun _ => Keeps.pure _

theorem keeps_creditFor (item : (Key × Bytes) × Bytes) :
    Keeps Eq (creditFor K proof v item : Exec (World Other) Error _) := by
  obtain ⟨⟨key, sourceKey⟩, destKey⟩ := item
  simp only [creditFor]
  split
  · exact Keeps.pure _
  · exact (Keeps.ofExcept _).bind fun _ => (keeps_relayerOf _ _ _ _).bind fun _ => Keeps.pure _

variable {credit : Credit}

theorem creditFor_ok {key : Key} {sourceKey destKey : Bytes}
    (h : (creditFor K proof v ((key, sourceKey), destKey)).run w = (.ok (some credit), w)) :
    ∃ encodedMetadata, valueAt v.sourceResult sourceKey = some encodedMetadata ∧
      decodeFee K proof.source encodedMetadata = .ok credit.fee ∧ credit.key = key ∧
      (relayerOf K proof.dest v.destResult key destKey).run w = (.ok credit.address, w) := by
  simp only [creditFor] at h
  split at h
  · cases h
  · rename_i encodedMetadata hvalue
    obtain ⟨fee, hfee, h⟩ := ofExcept_bind_ok.mp h
    obtain ⟨address, w₁, haddress, h⟩ := bind_ok.mp h
    obtain rfl := (keeps_relayerOf _ _ _ _).of_ok haddress
    obtain ⟨hcredit, -⟩ := Prod.mk.inj h
    obtain rfl := Option.some.inj (Outcome.ok.inj hcredit)
    exact ⟨encodedMetadata, hvalue, hfee, rfl, haddress⟩

theorem creditFor_none {key : Key} {sourceKey destKey : Bytes}
    (h : (creditFor K proof v ((key, sourceKey), destKey)).run w = (.ok none, w)) :
    valueAt v.sourceResult sourceKey = none := by
  simp only [creditFor] at h
  split at h
  · assumption
  · obtain ⟨fee, -, h⟩ := ofExcept_bind_ok.mp h
    obtain ⟨address, w₁, -, h⟩ := bind_ok.mp h
    cases h

/-- What each turn credits. -/
def Turns (K : Config Other) (proof : WithdrawalProof) (v : Verified) (w : World Other) :
    List ((Key × Bytes) × Bytes) → List (Option Credit) → Prop :=
  List.Forall₂ fun item credit => (creditFor K proof v item).run w = (.ok credit, w)

variable {items : List ((Key × Bytes) × Bytes)} {claimed : List H256}

/-- The loop collects the credits of its turns. -/
theorem validateResults_ok {result result' : List (Bytes × U256)} {claimed' : List H256}
    (h : (validateResults K proof v items result claimed).run w = (.ok (result', claimed'), w')) :
    w' = w ∧ ∃ credits, Turns K proof v w items credits ∧
      (∀ a, total a result' = total a result + paidTo a credits.reduceOption) ∧
      claimed' = claimed ++ credits.reduceOption.map fun credit => credit.key.account.commitment := by
  induction items generalizing result claimed with
  | nil =>
    obtain ⟨hresult, rfl⟩ := Prod.mk.inj h
    obtain ⟨rfl, rfl⟩ := Prod.mk.inj (Outcome.ok.inj hresult)
    exact ⟨rfl, [], .nil, fun a => rfl, (List.append_nil _).symm⟩
  | cons item items ih =>
    obtain ⟨credit, w₁, hturn, h⟩ := bind_ok.mp h
    obtain rfl := (keeps_creditFor item).of_ok hturn
    cases credit with
    | none =>
      obtain ⟨hw, credits, hturns, htotal, hclaimed⟩ := ih h
      exact ⟨hw, none :: credits, .cons hturn hturns, htotal, hclaimed⟩
    | some credit =>
      obtain ⟨result₁, hadd, h⟩ := expect_bind_ok.mp h
      obtain ⟨hw, credits, hturns, htotal, hclaimed⟩ := ih h
      refine ⟨hw, some credit :: credits, .cons hturn hturns, fun a => ?_, ?_⟩
      · rw [htotal, total_addEntry hadd, List.reduceOption_cons_of_some, paidTo_cons]
        omega
      · rw [hclaimed, List.reduceOption_cons_of_some, List.map_cons, List.append_assoc]
        rfl

structure Pays (K : Config Other) (chain : StateMachine) (amount : Bytes → Nat) (w w' : World Other) : Prop where
  others : ∃ other, w' = others.set other w
  fees : ∀ chain' a, (feesOf K w' chain' a).toNat =
    (feesOf K w chain' a).toNat + if chain' = chain then amount a else 0

theorem pays_accumulateFee {chain : StateMachine} {address : Bytes} {fee : U256} {u : Unit}
    (h : (accumulateFee K chain address fee).run w = (.ok u, w')) :
    Pays K chain (fun a => if address = a then fee.toNat else 0) w w' := by
  obtain ⟨s, hs, rfl⟩ := zoom_ok.mp h
  rw [gets_bind_run] at hs
  obtain ⟨sum, hsum, hs⟩ := expect_bind_ok.mp hs
  obtain ⟨-, rfl⟩ := Prod.mk.inj hs
  rw [U256.checkedAdd_eq_some] at hsum
  refine ⟨⟨_, rfl⟩, fun chain' a => ?_⟩
  simp only [feesOf, Lens.comp, others, Lens.get_set]
  by_cases hchain : chain' = chain
  · subst hchain
    rw [Function.update_self, if_pos rfl]
    by_cases ha : address = a
    · subst ha
      rw [Function.update_self, if_pos rfl]
      exact hsum
    · rw [Function.update_of_ne (Ne.symm ha), if_neg ha]
      rfl
  · rw [Function.update_of_ne hchain, if_neg hchain]
    rfl

theorem pays_entries {chain : StateMachine} {entries : List (Bytes × U256)} {u : Unit}
    (h : (forEach (fun entry => accumulateFee K chain entry.1 entry.2) entries).run w = (.ok u, w')) :
    Pays K chain (fun a => total a entries) w w' := by
  induction entries generalizing w with
  | nil =>
    obtain ⟨-, rfl⟩ := Prod.mk.inj h
    exact ⟨⟨w.host.other, rfl⟩, fun chain' a => by simp [total]⟩
  | cons entry entries ih =>
    obtain ⟨_, w₁, hfirst, hrest⟩ := forEach_cons_ok.mp h
    obtain ⟨⟨other, rfl⟩, hfees⟩ := pays_accumulateFee hfirst
    obtain ⟨⟨other', rfl⟩, hfees'⟩ := ih hrest
    refine ⟨⟨other', by rw [Lens.set_set]⟩, fun chain' a => ?_⟩
    rw [hfees', hfees, total_cons]
    split <;> omega

theorem unclaimed_claim {h : Host Other} {account' : MessageCommitment} :
    unclaimed (claim claimed h account) account' ↔
      unclaimed h account' ∧ ¬ (account = account' ∧ account.commitment ∈ claimed) := by
  unfold claim
  by_cases hclaimed : account.commitment ∈ claimed
  · rw [if_pos (List.contains_iff_mem.mpr hclaimed)]
    by_cases hsame : account = account'
    · subst hsame
      cases hmeta : account.metadata h with
      | none => simp [unclaimed, hmeta]
      | some leafMeta => simp [unclaimed, MessageCommitment.metadata_insert, hclaimed]
    · cases hmeta : account.metadata h with
      | none => simp [hsame]
      | some leafMeta => simp [unclaimed, MessageCommitment.metadata_insert, hsame]
  · rw [if_neg fun h => hclaimed (List.contains_iff_mem.mp h)]
    simp [hclaimed]

/-- The flags of what is credited are set. -/
theorem unclaimed_claimAll {commitments : List Key} {h : Host Other} :
    unclaimed (claimAll claimed commitments h) account ↔
      unclaimed h account ∧ ¬ (account ∈ commitments.map Key.account ∧ account.commitment ∈ claimed) := by
  unfold claimAll
  generalize commitments.map Key.account = accounts
  induction accounts generalizing h with
  | nil => simp
  | cons first accounts ih =>
    rw [List.foldl_cons, ih, unclaimed_claim, List.mem_cons]
    by_cases hfirst : first = account
    · subst hfirst
      tauto
    · have hne : account ≠ first := Ne.symm hfirst
      tauto

theorem claimAll_other (claimed : List H256) (commitments : List Key) (h : Host Other) :
    (claimAll claimed commitments h).other = h.other := by
  unfold claimAll
  generalize commitments.map Key.account = accounts
  induction accounts generalizing h with
  | nil => rfl
  | cons first accounts ih =>
    rw [List.foldl_cons, ih]
    unfold claim
    split
    · cases first.metadata h <;> cases first <;> rfl
    · rfl

theorem keeps_verifyWithdrawalProof (proof : Proof) (keys : List Bytes) :
    Keeps Eq (verifyWithdrawalProof T proof keys) :=
  Keeps.mapErr ((keeps_reads _).bind fun _ => (keeps_reads _).bind fun _ => keeps_reads _)

theorem keeps_slot2Keys (destKeys : List Bytes) (commitments : List Key) :
    Keeps Eq (slot2Keys dest destKeys commitments : Exec (World Other) Error _) := by
  unfold slot2Keys
  split
  · refine Keeps.bind (Keeps.collect fun item _ => ?_) fun _ => Keeps.pure _
    obtain ⟨key, commitment⟩ := item
    cases commitment with
    | request c => exact Keeps.pure _
    | response q c => exact (Keeps.expect _ _).bind fun _ => Keeps.pure _
  · exact Keeps.pure _

theorem keeps_verifyProofs (proof : WithdrawalProof) : Keeps Eq (verifyProofs T proof) :=
  (Keeps.gets _).bind fun _ => (Keeps.throwIf _ _).bind fun _ => (keeps_slot2Keys _ _ _).bind fun _ =>
    (keeps_verifyWithdrawalProof _ _).bind fun _ => (keeps_verifyWithdrawalProof _ _).bind fun _ => Keeps.pure _

theorem verifyProofs_ok (h : (verifyProofs T proof).run w = (.ok v, w')) :
    w' = w ∧ v.commitments = (proof.commitments.filter fun key => unclaimed w.host key.account) ∧
      v.sourceKeys = getCommitmentKeys T proof.source v.commitments ∧
      v.destKeys = getReceiptKeys T proof.dest v.commitments ∧
      (verifyWithdrawalProof T proof.sourceProof v.sourceKeys).run w = (.ok v.sourceResult, w) ∧
      ∃ slots, (verifyWithdrawalProof T proof.destProof (v.destKeys ++ slots)).run w = (.ok v.destResult, w) := by
  rw [verifyProofs, gets_bind_run] at h
  obtain ⟨-, h⟩ := throwIf_bind_ok.mp h
  obtain ⟨slots, w₁, hslots, h⟩ := bind_ok.mp h
  obtain rfl := (keeps_slot2Keys _ _ _).of_ok hslots
  obtain ⟨sourceResult, w₂, hsource, h⟩ := bind_ok.mp h
  obtain rfl := (keeps_verifyWithdrawalProof _ _).of_ok hsource
  obtain ⟨destResult, w₃, hdest, h⟩ := bind_ok.mp h
  obtain rfl := (keeps_verifyWithdrawalProof _ _).of_ok hdest
  obtain ⟨rfl, rfl⟩ := pure_ok.mp h
  exact ⟨rfl, rfl, rfl, rfl, hsource, slots, hdest⟩

theorem filterMap_keyOn {α : Type} (chain : StateMachine) (evm substrate : α → Bytes) (xs : List α) :
    xs.filterMap (keyOn chain evm substrate) = [] ∨
      ∃ key : α → Bytes, (∀ x, keyOn chain evm substrate x = some (key x)) ∧
        xs.filterMap (keyOn chain evm substrate) = xs.map key := by
  have hsome (key : α → Bytes) (h : ∀ x, keyOn chain evm substrate x = some (key x)) :
      xs.filterMap (keyOn chain evm substrate) = xs.map key := by
    rw [funext h, ← Function.comp_def, List.filterMap_eq_map]
  by_cases hevm : chain.isEvm
  · have hkey (x : α) : keyOn chain evm substrate x = some (evm x) := if_pos hevm
    exact .inr ⟨evm, hkey, hsome evm hkey⟩
  by_cases hsubstrate : chain.isSubstrate
  · have hkey (x : α) : keyOn chain evm substrate x = some (substrate x) := by
      rw [keyOn, if_neg hevm, if_pos hsubstrate]
    exact .inr ⟨substrate, hkey, hsome substrate hkey⟩
  · refine .inl (List.filterMap_eq_nil_iff.mpr fun x _ => ?_)
    rw [keyOn, if_neg hevm, if_neg hsubstrate]

theorem items_eq (hsource : v.sourceKeys = getCommitmentKeys T proof.source v.commitments)
    (hdest : v.destKeys = getReceiptKeys T proof.dest v.commitments) :
    v.items = [] ∨ ∃ (sourceKey : MessageCommitment → Bytes) (destKey : Key → Bytes),
      (∀ account, commitmentKey T proof.source account = some (sourceKey account)) ∧
      (∀ key, receiptKey T proof.dest key = some (destKey key)) ∧
      v.items = v.commitments.map fun key => ((key, sourceKey key.account), destKey key) := by
  have hsource' : v.sourceKeys = (v.commitments.map Key.account).filterMap (commitmentKey T proof.source) := by
    rw [hsource, List.filterMap_map]
    rfl
  rcases filterMap_keyOn proof.source (evmCommitmentKey T) substrateCommitmentKey (v.commitments.map Key.account) with
    hnone | ⟨sourceKey, hkey, hmap⟩
  · left
    rw [Verified.items, hsource', commitmentKey, hnone, List.zip_nil_right, List.zip_nil_left]
  rcases filterMap_keyOn proof.dest (evmReceiptKey T) substrateReceiptKey v.commitments with
    hnone | ⟨destKey, hkey', hmap'⟩
  · left
    rw [Verified.items, hdest, getReceiptKeys, receiptKey, hnone, List.zip_nil_right]
  · right
    refine ⟨sourceKey, destKey, hkey, hkey', ?_⟩
    rw [Verified.items, hsource', hdest, commitmentKey, hmap, getReceiptKeys, receiptKey, hmap', List.map_map]
    nth_rewrite 1 [← List.map_id v.commitments]
    rw [List.zip_map', List.zip_map']
    rfl

/-- How often the list mentions it. -/
def WithdrawalProof.times (proof : WithdrawalProof) (account : MessageCommitment) : Nat :=
  proof.commitments.countP fun key => key.account = account

/-- The fee that the source proof shows. -/
def shownFee (T : Ismp.Config Other) (K : Config Other) (source : StateMachine)
    (sourceResult : List (Bytes × Option Bytes)) (account : MessageCommitment) : Nat :=
  match (commitmentKey T source account).bind (valueAt sourceResult) with
  | none => 0
  | some encodedMetadata =>
      match decodeFee K source encodedMetadata with
      | .ok fee => fee.toNat
      | .error _ => 0

structure Call where
  proof : WithdrawalProof
  shown : MessageCommitment → Nat
  credits : List Credit

def Call.accounts (call : Call) : List MessageCommitment := call.credits.map fun credit => credit.key.account

/-- The call went through, with these credits. -/
def Accumulated (T : Ismp.Config Other) (K : Config Other) (call : Call) (w w' : World Other) : Prop :=
  ∃ v credits events, (verifyProofs T call.proof).run w = (.ok v, w) ∧ Turns K call.proof v w v.items credits ∧
    call.credits = credits.reduceOption ∧ call.shown = shownFee T K call.proof.source v.sourceResult ∧
    (accumulate T K call.proof).run w = (.ok events, w')

variable {events : List AccumulateFees}

/-- Turns, then fees, then flags. -/
theorem accumulate_ok (h : (accumulate T K proof).run w = (.ok events, w')) :
    ∃ v credits w₁, (verifyProofs T proof).run w = (.ok v, w) ∧ Turns K proof v w v.items credits ∧
      Pays K proof.source (fun a => paidTo a credits.reduceOption) w w₁ ∧
      w' = { w₁ with
        host := claimAll (credits.reduceOption.map fun c => c.key.account.commitment) v.commitments w₁.host } := by
  obtain ⟨v, w₁, hverify, hrest⟩ := bind_ok.mp h
  obtain ⟨rfl, -⟩ := verifyProofs_ok hverify
  obtain ⟨⟨result, claimed⟩, w₂, hvalidate, hrest⟩ := bind_ok.mp hrest
  obtain ⟨rfl, credits, hturns, htotal, rfl⟩ := validateResults_ok hvalidate
  obtain ⟨_, w₃, hpay, hrest⟩ := bind_ok.mp hrest
  have hpays := pays_entries hpay
  rw [modify_bind_run] at hrest
  obtain ⟨-, rfl⟩ := Prod.mk.inj hrest
  refine ⟨v, credits, w₃, hverify, hturns, ⟨hpays.others, fun chain a => ?_⟩, rfl⟩
  rw [hpays.fees, htotal]
  simp [total]

theorem exists_accumulated (h : (accumulate T K proof).run w = (.ok events, w')) :
    ∃ call, call.proof = proof ∧ Accumulated T K call w w' := by
  obtain ⟨v, credits, -, hverify, hturns, -⟩ := accumulate_ok h
  exact ⟨⟨proof, shownFee T K proof.source v.sourceResult, credits.reduceOption⟩, rfl, v, credits, events, hverify,
    hturns, rfl, rfl, h⟩

variable {call : Call} {credits : List (Option Credit)}

theorem accumulated_of_run (hverify : ((verifyProofs T call.proof).run w).1 = .ok v) (hitems : v.items = items)
    (hturns : List.Forall₂ (fun item credit => ((creditFor K call.proof v item).run w).1 = .ok credit) items credits)
    (hcredits : call.credits = credits.reduceOption)
    (hshown : call.shown = shownFee T K call.proof.source v.sourceResult)
    (hcall : ((accumulate T K call.proof).run w).1 = .ok events) :
    Accumulated T K call w ((accumulate T K call.proof).run w).2 := by
  subst hitems
  exact ⟨v, credits, events, run_of_readOnly (keeps_verifyProofs _) hverify,
    hturns.imp fun _ _ hturn => run_of_readOnly (keeps_creditFor _) hturn, hcredits, hshown, run_of_fst_ok hcall⟩

theorem turns_unique {credits' : List (Option Credit)}
    (h : Turns K proof v w items credits) (h' : Turns K proof v w items credits') : credits = credits' := by
  induction h generalizing credits' with
  | nil =>
    cases h'
    rfl
  | cons hfirst _ ih =>
    obtain ⟨first, rest, hfirst', hrest', rfl⟩ := List.forall₂_cons_left_iff.mp h'
    rw [ih hrest', Outcome.ok.inj (Prod.mk.inj (hfirst.symm.trans hfirst')).1]

theorem exists_turn (h : Turns K proof v w v.items credits) (hcredit : credit ∈ credits.reduceOption) :
    ∃ sourceKey destKey, ((credit.key, sourceKey), destKey) ∈ v.items ∧
      (creditFor K proof v ((credit.key, sourceKey), destKey)).run w = (.ok (some credit), w) := by
  obtain ⟨⟨⟨key, sourceKey⟩, destKey⟩, hitem, hturn⟩ := forall₂_mem h.flip (List.reduceOption_mem_iff.mp hcredit)
  obtain ⟨-, -, -, hkey, -⟩ := creditFor_ok hturn
  subst hkey
  exact ⟨sourceKey, destKey, hitem, hturn⟩

theorem mem_commitments (h : Turns K proof v w v.items credits)
    (hcredit : credit ∈ credits.reduceOption) : credit.key ∈ v.commitments := by
  obtain ⟨sourceKey, destKey, hitem, -⟩ := exists_turn h hcredit
  exact (List.of_mem_zip (List.of_mem_zip hitem).1).1

theorem paidFor_eq_mul {amount : Nat} {R : Key → Option Credit → Prop} {keys : List Key}
    (h : List.Forall₂ R keys credits) (hnone : ∀ key, R key none → key.account = account → amount = 0)
    (hsome : ∀ key credit, R key (some credit) → credit.key = key ∧
      (key.account = account → credit.fee.toNat = amount)) :
    paidFor account credits.reduceOption = keys.countP (fun key => key.account = account) * amount := by
  induction h with
  | nil => simp [paidFor, List.reduceOption]
  | @cons key credit keys credits hfirst _ ih =>
    rw [List.countP_cons, Nat.add_mul, ← ih]
    cases credit with
    | none =>
      rw [List.reduceOption_cons_of_none]
      by_cases haccount : key.account = account
      · simp [hnone key hfirst haccount]
      · simp [haccount]
    | some credit =>
      obtain ⟨hkey, hfee⟩ := hsome key credit hfirst
      rw [List.reduceOption_cons_of_some, paidFor_cons, hkey]
      by_cases haccount : key.account = account
      · simp [haccount, hfee haccount, Nat.add_comm]
      · simp [haccount]

section Accumulated

variable {call : Call} {account : MessageCommitment}

theorem Accumulated.effects (h : Accumulated T K call w w') :
    (∀ chain a, (feesOf K w' chain a).toNat =
      (feesOf K w chain a).toNat + if chain = call.proof.source then paidTo a call.credits else 0) ∧
    ∀ account, unclaimed w'.host account → unclaimed w.host account ∧ account ∉ call.accounts := by
  obtain ⟨v, credits, events, hverify, hturns, hcredits, -, hcall⟩ := h
  obtain ⟨v', credits', w₁, hverify', hturns', hpays, rfl⟩ := accumulate_ok hcall
  obtain rfl : v = v' := Outcome.ok.inj (Prod.mk.inj (hverify.symm.trans hverify')).1
  obtain rfl := turns_unique hturns hturns'
  obtain ⟨⟨other, rfl⟩, hfees⟩ := hpays
  rw [← hcredits] at hfees ⊢
  refine ⟨fun chain a => ?_, fun account hunclaimed => ?_⟩
  · rw [← hfees chain a, feesOf, feesOf, claimAll_other]
  · obtain ⟨hbefore, hnot⟩ := unclaimed_claimAll.mp hunclaimed
    refine ⟨hbefore, fun haccount => hnot ⟨?_, ?_⟩⟩
    · obtain ⟨credit, hcredit, rfl⟩ := List.mem_map.mp haccount
      rw [hcredits] at hcredit
      exact List.mem_map_of_mem (mem_commitments hturns hcredit)
    · obtain ⟨credit, hcredit, rfl⟩ := List.mem_map.mp haccount
      exact List.mem_map_of_mem hcredit

/-- Only what was claimable is credited. -/
theorem Accumulated.unclaimed_of_mem (h : Accumulated T K call w w') (haccount : account ∈ call.accounts) :
    unclaimed w.host account := by
  obtain ⟨v, credits, -, hverify, hturns, hcredits, -⟩ := h
  obtain ⟨-, hcommitments, -⟩ := verifyProofs_ok hverify
  obtain ⟨credit, hcredit, rfl⟩ := List.mem_map.mp haccount
  rw [hcredits] at hcredit
  have hmem := mem_commitments hturns hcredit
  rw [hcommitments] at hmem
  exact (List.mem_filter.mp hmem).2

theorem Accumulated.paidFor_eq (h : Accumulated T K call w w') (haccount : account ∈ call.accounts) :
    paidFor account call.credits = call.proof.times account * call.shown account := by
  have hunclaimed := h.unclaimed_of_mem haccount
  obtain ⟨v, credits, -, hverify, hturns, hcredits, hshown, -⟩ := h
  obtain ⟨-, hcommitments, hsourceKeys, hdestKeys, -⟩ := verifyProofs_ok hverify
  have htimes : call.proof.times account = v.commitments.countP fun key => key.account = account := by
    rw [hcommitments, List.countP_filter, WithdrawalProof.times]
    refine List.countP_congr fun key _ => ?_
    by_cases hkey : key.account = account
    · simp [hkey, hunclaimed]
    · simp [hkey]
  rw [htimes, hshown, hcredits]
  rcases items_eq hsourceKeys hdestKeys with hnil | ⟨sourceKey, destKey, hsourceKey, -, hitems⟩
  · -- an unsupported chain: nothing is credited
    exfalso
    rw [hnil] at hturns
    cases hturns
    rw [Call.accounts, hcredits] at haccount
    cases haccount
  rw [hitems] at hturns
  refine paidFor_eq_mul (List.forall₂_map_left_iff.mp hturns) (fun key hnone hkey => ?_) fun key credit hsome => ?_
  · subst hkey
    rw [shownFee, hsourceKey, Option.bind_some, creditFor_none hnone]
  · obtain ⟨encodedMetadata, hvalue, hfee, hkey, -⟩ := creditFor_ok hsome
    refine ⟨hkey, fun haccount' => ?_⟩
    subst haccount'
    rw [shownFee, hsourceKey, Option.bind_some, hvalue]
    simp only [hfee]

end Accumulated

inductive Accumulates (T : Ismp.Config Other) (K : Config Other) (account : MessageCommitment) (w₀ : World Other) :
    List Call → World Other → Prop
  | start : Accumulates T K account w₀ [] w₀
  | call {calls : List Call} {w w' : World Other} {call : Call} (run : Accumulates T K account w₀ calls w)
      (hcall : Accumulated T K call w w') : Accumulates T K account w₀ (calls ++ [call]) w'
  | elsewhere {calls : List Call} {w w' : World Other} (run : Accumulates T K account w₀ calls w)
      (hstep : unclaimed w'.host account → unclaimed w.host account) : Accumulates T K account w₀ calls w'

/-- What the calls of a run credit for it. -/
def credited (account : MessageCommitment) (calls : List Call) : Nat :=
  (calls.map fun call => paidFor account call.credits).sum

theorem credited_append (account : MessageCommitment) (calls : List Call) (call : Call) :
    credited account (calls ++ [call]) = credited account calls + paidFor account call.credits := by
  rw [credited, List.map_append, List.sum_append, List.map_singleton, List.sum_singleton]
  rfl

theorem mem_accounts_of_paidFor (h : paidFor account call.credits ≠ 0) : account ∈ call.accounts := by
  by_contra hnot
  refine h (paidFor_eq_zero fun credit hcredit haccount => hnot ?_)
  exact haccount ▸ List.mem_map_of_mem hcredit

theorem Accumulates.exists_accumulated {calls : List Call} (hrun : Accumulates T K account w₀ calls w)
    (hcall : call ∈ calls) : ∃ v v', Accumulated T K call v v' := by
  induction hrun with
  | start => cases hcall
  | @call calls w w' _ _ hlast ih =>
    rcases List.mem_append.mp hcall with hmem | hmem
    · exact ih hmem
    · obtain rfl := List.mem_singleton.mp hmem
      exact ⟨w, w', hlast⟩
  | elsewhere _ _ ih => exact ih hcall

theorem Accumulates.credited_le_iff {calls : List Call} (hrun : Accumulates T K account w₀ calls w) :
    (credited account calls ≠ 0 → ¬ unclaimed w.host account) ∧
      ∀ bound, credited account calls ≤ bound ↔ ∀ call ∈ calls, paidFor account call.credits ≤ bound := by
  induction hrun with
  | start => simp [credited]
  | @call calls w w' call _ hcall ih =>
    obtain ⟨hclosed, hbound⟩ := ih
    obtain ⟨-, hclaimed⟩ := hcall.effects
    rw [credited_append]
    by_cases hzero : paidFor account call.credits = 0
    · rw [hzero, Nat.add_zero]
      refine ⟨fun hne hunclaimed => hclosed hne (hclaimed account hunclaimed).1, fun bound => ?_⟩
      rw [hbound, List.forall_mem_append, List.forall_mem_singleton, hzero]
      simp
    · have haccount := mem_accounts_of_paidFor hzero
      have hbefore : credited account calls = 0 := by
        by_contra hne
        exact hclosed hne (hcall.unclaimed_of_mem haccount)
      refine ⟨fun _ hunclaimed => (hclaimed account hunclaimed).2 haccount, fun bound => ?_⟩
      have hothers : ∀ call ∈ calls, paidFor account call.credits ≤ bound := (hbound bound).mp (by omega)
      rw [hbefore, Nat.zero_add, List.forall_mem_append, List.forall_mem_singleton]
      exact ⟨fun hle => ⟨hothers, hle⟩, fun hall => hall.2⟩
  | elsewhere _ hstep ih => exact ⟨fun hne hunclaimed => ih.1 hne (hstep hunclaimed), ih.2⟩

/-- The fees move by what the calls credit. In a run the credits on account of a commitment stay within the fee
recorded for it exactly if each call that credits it shows no more than that for all its mentions together; in
particular if each such call lists it once, under a proof of the chain that recorded the fee. -/
theorem fee_credited_once_iff {account : MessageCommitment} {calls : List Call}
    (hrun : Accumulates T K account w₀ calls w) (source : StateMachine) (recorded : Nat)
    (hsound : ∀ call ∈ calls, call.proof.source = source → call.shown account ≤ recorded) :
    (∀ proof events v v', (accumulate T K proof).run v = (.ok events, v') →
      ∃ call, call.proof = proof ∧ Accumulated T K call v v' ∧ ∀ chain a, (feesOf K v' chain a).toNat =
        (feesOf K v chain a).toNat + if chain = proof.source then paidTo a call.credits else 0) ∧
    (credited account calls ≤ recorded ↔
      ∀ call ∈ calls, account ∈ call.accounts → call.proof.times account * call.shown account ≤ recorded) ∧
    ((∀ call ∈ calls, account ∈ call.accounts → call.proof.times account = 1 ∧ call.proof.source = source) →
      credited account calls ≤ recorded) := by
  have hiff : credited account calls ≤ recorded ↔
      ∀ call ∈ calls, account ∈ call.accounts → call.proof.times account * call.shown account ≤ recorded := by
    rw [hrun.credited_le_iff.2]
    refine forall₂_congr fun call hcall => ?_
    obtain ⟨v, v', haccumulated⟩ := hrun.exists_accumulated hcall
    by_cases haccount : account ∈ call.accounts
    · rw [haccumulated.paidFor_eq haccount]
      exact ⟨fun hle _ => hle, fun hle => hle haccount⟩
    · have hzero : paidFor account call.credits = 0 := by
        by_contra hne
        exact haccount (mem_accounts_of_paidFor hne)
      rw [hzero]
      exact ⟨fun _ hmem => absurd hmem haccount, fun _ => Nat.zero_le _⟩
  refine ⟨fun proof events v v' hcall => ?_, hiff, fun honce => hiff.mpr fun call hcall haccount => ?_⟩
  · obtain ⟨call, rfl, haccumulated⟩ := exists_accumulated hcall
    exact ⟨call, rfl, haccumulated, haccumulated.effects.1⟩
  · obtain ⟨htimes, hsource⟩ := honce call hcall haccount
    rw [htimes, Nat.one_mul]
    exact hsound call hcall hsource

def sampleRelayer : Config Storage where
  storage := ⟨id, fun s _ => s, fun _ _ => rfl, fun _ => rfl, fun _ _ _ => rfl⟩
  decodeU256
    | [b] => if b < 128 then some (BitVec.ofNat 256 b.toNat) else none
    | _ => none
  decodeAddress
    | 148 :: rest => BytesN.ofBytes 20 rest
    | _ => none
  decodeB256
    | 160 :: rest => BytesN.ofBytes 32 rest
    | _ => none
  decodeMetadata _ := none
  decodeBytes b := (uncompact b).bind fun (n, rest) => if n ≤ rest.length then some (rest.take n) else none
  decodeReceipt _ := none

/-- Proofs show what the chain has. -/
def honestClient (contents : Bytes → Option Bytes) : StateMachineClient Storage where
  verifyMembership _ _ _ _ := .ok ()
  receiptsStateTrieKey _ := []
  verifyStateProof _ keys _ _ := .ok (keys.map fun key => (key, contents key))

def paidRequest : PostRequest := ⟨.evm 1, .polkadot 2000, 0, [1], [2], 0, [3]⟩

def paidCommitment : H256 := sampleCommitmentOf paidRequest

def contents : StateMachine → Bytes → Option Bytes
  | .evm 1, key => if key = (sampleDigest (paidCommitment.bytes ++ beBytes 32 0)).bytes then some [5] else none
  | .polkadot 2000, key =>
      if key = requestReceiptStorageKey paidCommitment then some (scaleBytes (asBytes "relayer")) else none
  | _, key => if key = requestReceiptStorageKey paidCommitment then some (scaleBytes (asBytes "operator")) else none

def relayerConfig : Ismp.Config Storage :=
  { runtimeConfig (.kusama 3340) (.polkadot 2000) silentClient (fun _ _ _ other => .ok other) with
    consensusClients :=
      [{ consensusClientId := sampleConsensusId
         verifyConsensus := fun _ _ _ _ => .error (.custom "no consensus proof")
         verifyFraudProof := fun _ _ _ _ => .error (.custom "no fraud proof")
         stateMachine := fun id => .ok (honestClient (contents id)) }] }

def relayerWorld : World Storage :=
  ⟨{ trackingHost sampleHeight ⟨10, none, BytesN.zero 32⟩ 12000000000 with
      requestCommitments := fun c => if c = paidCommitment then some ⟨⟨0, 0⟩, noFee, false⟩ else none
      stateCommitments := fun height => if height.height = 1 then some ⟨10, none, BytesN.zero 32⟩ else none
      stateMachineUpdateTime := fun height => if height.height = 1 then some 11 else none
      other := ⟨fun _ _ => 0, fun _ _ => 0, 0⟩ }, []⟩

def heightOf (chain : StateMachine) : StateMachineHeight := ⟨⟨chain, sampleConsensusId⟩, 1⟩

def proofOf (commitments : List Key) (dest : StateMachine) : WithdrawalProof :=
  ⟨commitments, ⟨heightOf (.evm 1), []⟩, ⟨heightOf dest, []⟩⟩

variable (times : Nat)

def verifiedOf : Verified where
  commitments := List.replicate times (.request paidCommitment)
  sourceKeys := List.replicate times (evmCommitmentKey relayerConfig (.request paidCommitment))
  destKeys := List.replicate times (requestReceiptStorageKey paidCommitment)
  sourceResult := List.replicate times (evmCommitmentKey relayerConfig (.request paidCommitment), some [5])
  destResult := List.replicate times (requestReceiptStorageKey paidCommitment, some (scaleBytes (asBytes "relayer")))

/-- The request is listed several times. -/
def callOf : Call where
  proof := proofOf (verifiedOf times).commitments (.polkadot 2000)
  shown := shownFee relayerConfig sampleRelayer (.evm 1) (verifiedOf times).sourceResult
  credits := List.replicate times ⟨.request paidCommitment, asBytes "relayer", 5⟩

def worldAfter : World Storage :=
  ((accumulate relayerConfig sampleRelayer (callOf times).proof).run relayerWorld).2

def turnOf : (Key × Bytes) × Bytes :=
  ((.request paidCommitment, evmCommitmentKey relayerConfig (.request paidCommitment)),
    requestReceiptStorageKey paidCommitment)

theorem items_verifiedOf : (verifiedOf times).items = List.replicate times turnOf := by
  rw [Verified.items, verifiedOf, List.zip_replicate, Nat.min_self, List.zip_replicate, Nat.min_self]
  rfl

theorem accumulated_once : Accumulated relayerConfig sampleRelayer (callOf 1) relayerWorld (worldAfter 1) := by
  have hverify : ((verifyProofs relayerConfig (callOf 1).proof).run relayerWorld).1 = .ok (verifiedOf 1) := by
    decide +kernel
  have hturn : ((creditFor sampleRelayer (callOf 1).proof (verifiedOf 1) turnOf).run relayerWorld).1 =
      .ok (some ⟨.request paidCommitment, asBytes "relayer", 5⟩) := by decide +kernel
  have hcall : ((accumulate relayerConfig sampleRelayer (callOf 1).proof).run relayerWorld).1 =
      .ok [⟨asBytes "relayer", .evm 1, 5⟩] := by decide +kernel
  exact accumulated_of_run hverify (items_verifiedOf 1) (.cons hturn .nil) rfl rfl hcall

theorem accumulated_twice : Accumulated relayerConfig sampleRelayer (callOf 2) relayerWorld (worldAfter 2) := by
  have hverify : ((verifyProofs relayerConfig (callOf 2).proof).run relayerWorld).1 = .ok (verifiedOf 2) := by
    decide +kernel
  have hturn : ((creditFor sampleRelayer (callOf 2).proof (verifiedOf 2) turnOf).run relayerWorld).1 =
      .ok (some ⟨.request paidCommitment, asBytes "relayer", 5⟩) := by decide +kernel
  have hcall : ((accumulate relayerConfig sampleRelayer (callOf 2).proof).run relayerWorld).1 =
      .ok [⟨asBytes "relayer", .evm 1, 10⟩] := by decide +kernel
  exact accumulated_of_run hverify (items_verifiedOf 2) (.cons hturn (.cons hturn .nil)) rfl rfl hcall

theorem fee_credited_once_iff_sample :
    credited (.request paidCommitment) [callOf 1] ≤ 5 ∧
      (feesOf sampleRelayer (worldAfter 1) (.evm 1) (asBytes "relayer")).toNat = 5 := by
  have hshown : (callOf 1).shown (.request paidCommitment) ≤ 5 := by decide +kernel
  have htimes : (callOf 1).proof.times (.request paidCommitment) = 1 := by decide +kernel
  obtain ⟨-, -, honce⟩ := fee_credited_once_iff (.call .start accumulated_once) (.evm 1) 5
    fun call hcall _ => List.mem_singleton.mp hcall ▸ hshown
  refine ⟨honce fun call hcall _ => ?_, by decide +kernel⟩
  obtain rfl := List.mem_singleton.mp hcall
  exact ⟨htimes, rfl⟩

/-- Listed twice in one call it is credited twice, with proofs of its own two chains. -/
theorem duplicate_credited_twice :
    ∃ call w, Accumulates relayerConfig sampleRelayer (.request paidCommitment) relayerWorld [call] w ∧
      call.proof.source = paidRequest.source ∧ call.proof.dest = paidRequest.dest ∧
      call.shown (.request paidCommitment) = 5 ∧ credited (.request paidCommitment) [call] = 10 ∧
      (feesOf sampleRelayer w (.evm 1) (asBytes "relayer")).toNat = 10 :=
  ⟨callOf 2, worldAfter 2, .call .start accumulated_twice, rfl, rfl, by decide +kernel, by decide +kernel,
    by decide +kernel⟩

end Hyperbridge.Relayer
