import Hyperbridge.Ismp.Escrow

/-!
# The dispatcher of pallet-hyperbridge

pallet-hyperbridge wraps the dispatcher of pallet-ismp: it takes the protocol fee, passes the message on, and records
the payment under its commitment. Both dispatchers move funds first and look at the message afterwards, and nothing
undoes the payments if it is refused: a module that handles the error has paid. The maps and the mountain range are
written last.
-/

namespace Hyperbridge.PalletHyperbridge

open Lib Exec Ismp

structure SubstrateHostParams where
  defaultPerByteFee : BitVec 128
  perByteFees : StateMachine → Option (BitVec 128)

variable (params : SubstrateHostParams)

def SubstrateHostParams.perByteFee (dest : StateMachine) : BitVec 128 :=
  (params.perByteFees dest).getD params.defaultPerByteFee

structure Storage where
  hostParams : SubstrateHostParams
  requestPayments : H256 → Option (BitVec 128)
  responsePayments : H256 → Option (BitVec 128)

structure Runtime (Other : Type) where
  storage : Lens Other Storage
  account : Bytes

/-- `IsmpDispatcher`. -/
structure IsmpDispatcher (Other : Type) where
  dispatchRequest : DispatchRequest → FeeMetadata → Pallet Other H256
  dispatchResponse : PostResponse → FeeMetadata → Pallet Other H256

variable {Other : Type} (T : Config Other) (K : Runtime Other)

/-- The dispatcher of pallet-ismp. -/
def palletIsmp : IsmpDispatcher Other := ⟨Ismp.dispatchRequest T, dispatchPostResponse T⟩

def protocolFee (dest : StateMachine) (length : Nat) : BitVec 128 :=
  if length < 32 then params.perByteFee dest * 32 else params.perByteFee dest * BitVec.ofNat 128 length

def requestFees : DispatchRequest → BitVec 128
  | .post post => protocolFee params post.dest post.body.length
  | .get _ => 0

def responseFees (response : PostResponse) : BitVec 128 :=
  protocolFee params response.destChain response.response.length

/-- Nothing is transferred for a fee of zero. -/
def charge (payer target : Bytes) (amount : Nat) : Pallet Other Unit :=
  if amount = 0 then pure () else transferFee T payer target amount

def hostParams : Pallet Other SubstrateHostParams := gets fun w => (K.storage.get w.host.other).hostParams

def writeStorage (f : Storage → Storage) : Pallet Other Unit :=
  writes fun h => { h with other := K.storage.set (f (K.storage.get h.other)) h.other }

def payAndDispatch (fee : FeeMetadata) (fees : BitVec 128) (inner : Pallet Other H256)
    (record : H256 → Storage → Storage) : Pallet Other H256 := do
  charge T fee.payer K.account fees.toNat
  let commitment ← inner
  writeStorage K (record commitment)
  pure commitment

def palletHyperbridge (host : IsmpDispatcher Other) : IsmpDispatcher Other where
  dispatchRequest request fee := do
    let params ← hostParams K
    let fees := requestFees params request
    payAndDispatch T K fee fees (host.dispatchRequest request fee) fun commitment s =>
      { s with requestPayments := Function.update s.requestPayments commitment (some fees) }
  dispatchResponse response fee := do
    let params ← hostParams K
    let fees := responseFees params response
    payAndDispatch T K fee fees (host.dispatchResponse response fee) fun commitment s =>
      { s with responsePayments := Function.update s.responsePayments commitment (some fees) }

variable {T K} {balance : Other → Bytes → Nat} {buffer : Other → List Leaf} {payer target : Bytes} {amount : Nat}
  {fee : FeeMetadata} {w w' : World Other} {o o' : Other} {e : Error}

/-- The payment went through. -/
def Paid (T : Config Other) (payer target : Bytes) (amount : Nat) (o o' : Other) : Prop :=
  if amount = 0 then o' = o else T.transfer payer target amount o = .ok o'

/-- The payment was refused. -/
def Fails (T : Config Other) (payer target : Bytes) (amount : Nat) (o : Other) : Prop :=
  amount ≠ 0 ∧ ∃ text, T.transfer payer target amount o = .error text

/-- The payment costs the payer nothing. -/
def Free (payer target : Bytes) (amount : Nat) : Prop := amount = 0 ∨ payer = target

theorem charge_cases (payer target : Bytes) (amount : Nat) (w : World Other) :
    (Fails T payer target amount w.host.other ∧ ∃ e, (charge T payer target amount).run w = (.err e, w)) ∨
      ∃ o, Paid T payer target amount w.host.other o ∧ ¬ Fails T payer target amount w.host.other ∧
        (charge T payer target amount).run w = (.ok (), others.set o w) := by
  unfold charge
  by_cases hzero : amount = 0
  · right
    refine ⟨w.host.other, by rw [Paid, if_pos hzero], fun h => h.1 hzero, ?_⟩
    rw [if_pos hzero]
    rfl
  · rw [if_neg hzero, transferFee, bind_run, reads, query_run]
    cases htransfer : T.transfer payer target amount w.host.other with
    | error text => exact .inl ⟨⟨hzero, text, htransfer⟩, _, rfl⟩
    | ok o =>
      right
      refine ⟨o, by rw [Paid, if_neg hzero, htransfer], ?_, rfl⟩
      rintro ⟨-, text, htext⟩
      rw [htransfer] at htext
      cases htext

theorem fails_or_paid (payer target : Bytes) (amount : Nat) (o : Other) :
    Fails T payer target amount o ∨ ∃ o', Paid T payer target amount o o' := by
  unfold Fails Paid
  split
  · exact .inr ⟨o, rfl⟩
  · next hzero =>
    cases htransfer : T.transfer payer target amount o with
    | error text => exact .inl ⟨hzero, text, rfl⟩
    | ok o' => exact .inr ⟨o', rfl⟩

/-- The currency keeps its own books only. -/
structure Ledger (T : Config Other) (K : Runtime Other) (balance : Other → Bytes → Nat) (buffer : Other → List Leaf) :
    Prop where
  moves : MovesBalance T balance
  storage : ∀ source target amount o o', T.transfer source target amount o = .ok o' → K.storage.get o' = K.storage.get o
  leaves : ∀ source target amount o o', T.transfer source target amount o = .ok o' → buffer o' = buffer o

theorem Paid.same {α : Type} {f : Other → α} (h : Paid T payer target amount o o')
    (hf : ∀ source target amount o o', T.transfer source target amount o = .ok o' → f o' = f o) : f o' = f o := by
  unfold Paid at h
  split at h
  · rw [h]
  · exact hf _ _ _ _ _ h

theorem Paid.balance_of_free (hK : Ledger T K balance buffer) (h : Paid T payer target amount o o')
    (hfree : Free payer target amount) (a : Bytes) : balance o' a = balance o a := by
  unfold Paid at h
  split at h
  · rw [h]
  · next hzero =>
    obtain rfl : payer = target := hfree.resolve_left hzero
    have hmove := hK.moves _ _ _ _ _ h a
    omega

theorem Paid.balance_payer_lt (hK : Ledger T K balance buffer) (h : Paid T payer target amount o o')
    (hfree : ¬ Free payer target amount) : balance o' payer < balance o payer := by
  obtain ⟨hzero, hne⟩ := not_or.mp hfree
  rw [Paid, if_neg hzero] at h
  have hmove := hK.moves _ _ _ _ _ h payer
  rw [if_pos rfl, if_neg hne] at hmove
  omega

theorem Paid.balance_payer_le (hK : Ledger T K balance buffer) (h : Paid T payer target amount o o') :
    balance o' payer ≤ balance o payer := by
  by_cases hfree : Free payer target amount
  · rw [h.balance_of_free hK hfree]
  · exact (h.balance_payer_lt hK hfree).le

/-- The maps and the mountain range are as before. -/
structure SameMaps (K : Runtime Other) (buffer : Other → List Leaf) (w w' : World Other) : Prop where
  requestCommitments : w'.host.requestCommitments = w.host.requestCommitments
  responseCommitments : w'.host.responseCommitments = w.host.responseCommitments
  responded : w'.host.responded = w.host.responded
  storage : K.storage.get w'.host.other = K.storage.get w.host.other
  leaves : buffer w'.host.other = buffer w.host.other

/-- No balance has changed either. -/
structure NoEffect (K : Runtime Other) (balance : Other → Bytes → Nat) (buffer : Other → List Leaf)
    (w w' : World Other) : Prop extends SameMaps K buffer w w' where
  balances : ∀ a, balance w'.host.other a = balance w.host.other a
  nonce : w'.host.nonce = w.host.nonce

theorem SameMaps.trans {u v w : World Other} (huv : SameMaps K buffer u v) (hvw : SameMaps K buffer v w) :
    SameMaps K buffer u w where
  requestCommitments := hvw.requestCommitments.trans huv.requestCommitments
  responseCommitments := hvw.responseCommitments.trans huv.responseCommitments
  responded := hvw.responded.trans huv.responded
  storage := hvw.storage.trans huv.storage
  leaves := hvw.leaves.trans huv.leaves

theorem Paid.unique {o₀ o' : Other} (h : Paid T payer target amount o₀ o) (h' : Paid T payer target amount o₀ o') :
    o = o' := by
  unfold Paid at h h'
  split at h
  · next hzero =>
    rw [if_pos hzero] at h'
    rw [h, h']
  · next hzero =>
    rw [if_neg hzero, h] at h'
    exact Except.ok.inj h'

theorem Paid.sameMaps (hK : Ledger T K balance buffer) (h : Paid T payer target amount w.host.other o) :
    SameMaps K buffer w (others.set o w) :=
  ⟨rfl, rfl, rfl, h.same hK.storage, h.same hK.leaves⟩

def FailsWith (K : Runtime Other) (balance : Other → Bytes → Nat) (buffer : Other → List Leaf) (payer : Bytes)
    (clean : Other → Prop) (x : Pallet Other H256) : Prop :=
  ∀ w e w', x.run w = (.err e, w') → SameMaps K buffer w w' ∧
    balance w'.host.other payer ≤ balance w.host.other payer ∧
    (NoEffect K balance buffer w w' ↔ clean w.host.other)

theorem noEffect_self (w : World Other) : NoEffect K balance buffer w w :=
  ⟨⟨rfl, rfl, rfl, rfl, rfl⟩, fun _ => rfl, rfl⟩

/-- A payment in front. -/
theorem FailsWith.charge_bind (hK : Ledger T K balance buffer) {clean : Other → Prop} {k : Unit → Pallet Other H256}
    (hk : FailsWith K balance buffer payer clean (k ())) :
    FailsWith K balance buffer payer
      (fun o => Fails T payer target amount o ∨
        Free payer target amount ∧ ∃ o', Paid T payer target amount o o' ∧ clean o')
      (charge T payer target amount >>= k) := by
  intro w e w' h
  have hself : NoEffect K balance buffer w w := noEffect_self w
  rw [bind_run] at h
  rcases charge_cases (T := T) payer target amount w with ⟨hfails, e', hrun⟩ | ⟨o, hpaid, hnot, hrun⟩
  · rw [hrun] at h
    obtain ⟨-, rfl⟩ := Prod.mk.inj h
    exact ⟨hself.toSameMaps, Nat.le_refl _, iff_of_true hself (.inl hfails)⟩
  · rw [hrun] at h
    obtain ⟨hmaps, hle, hiff⟩ := hk _ _ _ h
    have hpayer : balance o payer ≤ balance w.host.other payer := hpaid.balance_payer_le hK
    refine ⟨(hpaid.sameMaps hK).trans hmaps, hle.trans hpayer, ?_⟩
    constructor
    · intro heffect
      have hfree : Free payer target amount := by
        by_contra hfree
        have hlt := hpaid.balance_payer_lt hK hfree
        have hsame := heffect.balances payer
        have hle' : balance w'.host.other payer ≤ balance o payer := hle
        omega
      refine .inr ⟨hfree, o, hpaid, hiff.mp ⟨hmaps, ?_, heffect.nonce⟩⟩
      intro a
      exact (heffect.balances a).trans (hpaid.balance_of_free hK hfree a).symm
    · rintro (hfails | ⟨hfree, o', hpaid', hclean⟩)
      · exact absurd hfails hnot
      · rw [hpaid'.unique hpaid] at hclean
        have heffect := hiff.mpr hclean
        refine ⟨(hpaid.sameMaps hK).trans hmaps, ?_, heffect.nonce⟩
        intro a
        exact (heffect.balances a).trans (hpaid.balance_of_free hK hfree a)

theorem FailsWith.congr {clean clean' : Other → Prop} {x : Pallet Other H256}
    (hx : FailsWith K balance buffer payer clean x)
    (h : ∀ o, clean o ↔ clean' o) : FailsWith K balance buffer payer clean' x := by
  intro w e w' hrun
  obtain ⟨hmaps, hle, hiff⟩ := hx w e w' hrun
  exact ⟨hmaps, hle, hiff.trans (h _)⟩

theorem FailsWith.bind_total {clean : Other → Prop} {x : Pallet Other H256} {f : H256 → Pallet Other H256}
    (hx : FailsWith K balance buffer payer clean x) (hf : ∀ c w, ∃ c' w', (f c).run w = (.ok c', w')) :
    FailsWith K balance buffer payer clean (x >>= f) := by
  intro w e w' h
  apply hx w e w'
  rcases bind_err.mp h with hfirst | ⟨c, w₁, -, hrest⟩
  · exact hfirst
  · obtain ⟨c', w₂, hok⟩ := hf c w₁
    rw [hok] at hrest
    cases hrest

theorem failsWith_request (hK : Ledger T K balance buffer) (request : DispatchRequest) (fee : FeeMetadata) :
    FailsWith K balance buffer fee.payer (Fails T fee.payer T.relayerFeeAccount fee.fee)
      (Ismp.dispatchRequest T request fee) := by
  have hlate : FailsWith K balance buffer fee.payer (fun _ => False)
      (stampRequest T request >>= fun r => commitRequest T r fee) := by
    intro w e w' h
    rw [bind_run, stampRequest_run] at h
    rw [Escrow.failsClean_commitRequest _ _ _ _ _ h]
    refine ⟨⟨rfl, rfl, rfl, rfl, rfl⟩, Nat.le_refl _, iff_of_false ?_ id⟩
    intro heffect
    have hnonce : w.host.nonce + 1 = w.host.nonce := heffect.nonce
    simp at hnonce
  exact (FailsWith.charge_bind hK hlate).congr fun o => by simp

theorem failsWith_response (hK : Ledger T K balance buffer) (response : PostResponse) (fee : FeeMetadata) :
    FailsWith K balance buffer fee.payer
      (fun o => Fails T fee.payer T.relayerFeeAccount fee.fee o ∨ Free fee.payer T.relayerFeeAccount fee.fee)
      (dispatchPostResponse T response fee) := by
  have hlate : FailsWith K balance buffer fee.payer (fun _ => True) (do
      let reqCommitment ← requestHash T response.request
      let receipt ← gets fun w => w.host.requestReceipts reqCommitment
      throwIf receipt.isNone (.unknownRequest (.ofRequest response.request))
      commitResponse T (.post response) fee) := by
    intro w e w' h
    have hself : NoEffect K balance buffer w w := noEffect_self w
    rw [Escrow.failsClean_answer response fee _ _ _ h]
    exact ⟨hself.toSameMaps, Nat.le_refl _, iff_of_true hself trivial⟩
  refine (FailsWith.charge_bind hK hlate).congr fun o => or_congr_right' fun hnot => ?_
  rw [and_iff_left_iff_imp]
  intro hfree
  obtain ⟨o', hpaid⟩ := (fails_or_paid (T := T) _ _ _ o).resolve_left hnot
  exact ⟨o', hpaid, trivial⟩

theorem FailsWith.payAndDispatch (hK : Ledger T K balance buffer) {clean : Other → Prop} {fees : BitVec 128}
    {inner : Pallet Other H256} (record : H256 → Storage → Storage)
    (hinner : FailsWith K balance buffer fee.payer clean inner) :
    FailsWith K balance buffer fee.payer
      (fun o => Fails T fee.payer K.account fees.toNat o ∨
        Free fee.payer K.account fees.toNat ∧ ∃ o', Paid T fee.payer K.account fees.toNat o o' ∧ clean o')
      (payAndDispatch T K fee fees inner record) :=
  .charge_bind hK (hinner.bind_total fun c _ => ⟨c, _, rfl⟩)

/-- No dispatcher touches the maps when it fails. It leaves everything as it was exactly if a payment fails before which
none has cost the payer anything; for a response also if none of them costs the payer anything. -/
theorem failed_dispatch_no_effect_iff (hK : Ledger T K balance buffer) (fee : FeeMetadata) (w w' : World Other)
    (e : Error) :
    (∀ request, ((palletIsmp T).dispatchRequest request fee).run w = (.err e, w') → SameMaps K buffer w w' ∧
      (NoEffect K balance buffer w w' ↔ Fails T fee.payer T.relayerFeeAccount fee.fee w.host.other)) ∧
    (∀ response, ((palletIsmp T).dispatchResponse response fee).run w = (.err e, w') → SameMaps K buffer w w' ∧
      (NoEffect K balance buffer w w' ↔ Fails T fee.payer T.relayerFeeAccount fee.fee w.host.other ∨
        Free fee.payer T.relayerFeeAccount fee.fee)) ∧
    (∀ request, ((palletHyperbridge T K (palletIsmp T)).dispatchRequest request fee).run w = (.err e, w') →
      let fees := (requestFees (K.storage.get w.host.other).hostParams request).toNat
      SameMaps K buffer w w' ∧
      (NoEffect K balance buffer w w' ↔ Fails T fee.payer K.account fees w.host.other ∨
        Free fee.payer K.account fees ∧ ∃ o, Paid T fee.payer K.account fees w.host.other o ∧
          Fails T fee.payer T.relayerFeeAccount fee.fee o)) ∧
    (∀ response, ((palletHyperbridge T K (palletIsmp T)).dispatchResponse response fee).run w = (.err e, w') →
      let fees := (responseFees (K.storage.get w.host.other).hostParams response).toNat
      SameMaps K buffer w w' ∧
      (NoEffect K balance buffer w w' ↔ Fails T fee.payer K.account fees w.host.other ∨
        Free fee.payer K.account fees ∧ ∃ o, Paid T fee.payer K.account fees w.host.other o ∧
          (Fails T fee.payer T.relayerFeeAccount fee.fee o ∨ Free fee.payer T.relayerFeeAccount fee.fee))) := by
  refine ⟨?_, ?_, ?_, ?_⟩
  · intro request h
    obtain ⟨hmaps, -, hiff⟩ := failsWith_request hK request fee w e w' h
    exact ⟨hmaps, hiff⟩
  · intro response h
    obtain ⟨hmaps, -, hiff⟩ := failsWith_response hK response fee w e w' h
    exact ⟨hmaps, hiff⟩
  · intro request h
    obtain ⟨hmaps, -, hiff⟩ := FailsWith.payAndDispatch hK _ (failsWith_request hK request fee) w e w' h
    exact ⟨hmaps, hiff⟩
  · intro response h
    obtain ⟨hmaps, -, hiff⟩ := FailsWith.payAndDispatch hK _ (failsWith_response hK response fee) w e w' h
    exact ⟨hmaps, hiff⟩

/-- The rest of a runtime with this pallet. -/
structure Pallets where
  balances : Bytes → Nat
  storage : Storage
  leaves : List Leaf

def samplePallet : Runtime Pallets where
  storage :=
    { get := Pallets.storage
      set := fun storage o => { o with storage := storage }
      get_set := fun _ _ => rfl
      set_get := fun _ => rfl
      set_set := fun _ _ _ => rfl }
  account := asBytes "HYPR-FEE"

def sampleTransfer (source target : Bytes) (amount : Nat) (o : Pallets) : Except String Pallets :=
  (moveBalance source target amount o.balances).map fun balances => { o with balances := balances }

def sampleConfig : Config Pallets :=
  { runtimeConfig (.polkadot 3367) (.polkadot 2000) silentClient sampleTransfer with
    mmrPush := fun leaf o => (⟨0, 0⟩, { o with leaves := o.leaves ++ [leaf] }) }

theorem sampleLedger : Ledger sampleConfig samplePallet Pallets.balances Pallets.leaves where
  moves source target amount o o' h := by
    obtain ⟨balances, hmove, rfl⟩ := except_map_ok.mp h
    exact movesBalance_balanceConfig _ _ _ _ _ hmove
  storage source target amount o o' h := by
    obtain ⟨balances, -, rfl⟩ := except_map_ok.mp h
    rfl
  leaves source target amount o o' h := by
    obtain ⟨balances, -, rfl⟩ := except_map_ok.mp h
    rfl

def sampleWorld : World Pallets :=
  ⟨{ trackingHost sampleHeight ⟨50, none, BytesN.zero 32⟩ 12000000000 with
      other :=
        ⟨fun a => if a = samplePayer then 100 else 0, ⟨⟨1, fun _ => none⟩, fun _ => none, fun _ => none⟩, []⟩ }, []⟩

def sampleRequest : DispatchRequest := .post ⟨.polkadot 2000, [1], [2], 10, [3]⟩

def sampleResponse : PostResponse := ⟨⟨.polkadot 2000, .polkadot 3367, 0, [1], [2], 22, [3]⟩, [4], 0⟩

/-- The relayer's fee is more than the protocol fee leaves. -/
def unaffordable : Outcome Error H256 × World Pallets :=
  ((palletHyperbridge sampleConfig samplePallet (palletIsmp sampleConfig)).dispatchRequest sampleRequest
    ⟨samplePayer, 90⟩).run sampleWorld

theorem unaffordable_fst :
    unaffordable.1 = .err (.custom "Error withdrawing request fees: Token(FundsUnavailable)") := rfl

theorem failed_dispatch_no_effect_iff_sample :
    SameMaps samplePallet Pallets.leaves sampleWorld unaffordable.2 ∧
      ¬ NoEffect samplePallet Pallets.balances Pallets.leaves sampleWorld unaffordable.2 := by
  have hrun : unaffordable =
      (.err (.custom "Error withdrawing request fees: Token(FundsUnavailable)"), unaffordable.2) :=
    Prod.ext unaffordable_fst rfl
  obtain ⟨hmaps, hiff⟩ :=
    (failed_dispatch_no_effect_iff sampleLedger ⟨samplePayer, 90⟩ sampleWorld unaffordable.2 _).2.2.1
    sampleRequest hrun
  refine ⟨hmaps, ?_⟩
  rw [hiff]
  rintro (⟨-, text, htext⟩ | ⟨hfree, -⟩)
  · cases htext
  · revert hfree
    unfold Free
    decide

/-- The protocol fee of 32 units is gone although the request has been refused. So is the relayer's fee of five units
for a response to an unknown request, and 37 units if it is dispatched through pallet-hyperbridge. -/
theorem refused_dispatch_paid :
    unaffordable.1 = .err (.custom "Error withdrawing request fees: Token(FundsUnavailable)") ∧
    unaffordable.2.host.other.balances samplePayer = 68 ∧
    (let refused := ((palletIsmp sampleConfig).dispatchResponse sampleResponse ⟨samplePayer, 5⟩).run sampleWorld
     refused.1 = .err (.unknownRequest (.ofRequest sampleResponse.request)) ∧
       refused.2.host.other.balances samplePayer = 95) ∧
    (let refused := ((palletHyperbridge sampleConfig samplePallet (palletIsmp sampleConfig)).dispatchResponse
        sampleResponse ⟨samplePayer, 5⟩).run sampleWorld
     refused.1 = .err (.unknownRequest (.ofRequest sampleResponse.request)) ∧
       refused.2.host.other.balances samplePayer = 63) :=
  ⟨rfl, rfl, ⟨rfl, rfl⟩, rfl, rfl⟩

end Hyperbridge.PalletHyperbridge
