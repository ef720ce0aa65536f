import Hyperbridge.Ismp.Delivery
import Hyperbridge.Ismp.TwoChains

/-!
# Interleavings of two chains

The two chains take turns in any order. `S` dispatches requests; both are given messages, any number in one call; `D`
seals its state in blocks, and `S` learns of them at some later time. What the rest of a runtime does in between is left
open, as far as the chains are honest about it.

The invariant of a run has two halves that exclude each other. A request accepted on `D` has its receipt in every block
of `D` not before its timeout. A request that timed out on `S` lacks the receipt in one of those blocks.
-/

namespace Hyperbridge.Ismp

open Lib Exec

variable {O₁ O₂ : Type} {S : Config O₁} {D : Config O₂} {view : View O₂}

/-- Nothing has been delivered or timed out yet. -/
structure Started (S : Config O₁) (D : Config O₂) (view : View O₂) (st : Chains O₁ O₂) : Prop where
  sourceTrace : st.source.trace = []
  destTrace : st.dest.trace = []
  truthful : Truthful D view st.blocks st.source
  noneSent : NoneSent S D st.dest.host
  past : ∀ height b, st.blocks height = some b → b.now ≤ st.dest.host.now

inductive Step (S : Config O₁) (D : Config O₂) (view : View O₂) (allowed : Message → Prop) :
    Chains O₁ O₂ → Chains O₁ O₂ → Prop
  | dispatch {st : Chains O₁ O₂} {w' : World O₁} (request : DispatchRequest) (fee : FeeMetadata)
      (commitment : H256) (hcall : (dispatchRequest S request fee).run st.source = (.ok commitment, w')) :
      Step S D view allowed st { st with source := w' }
  | handleSource {st : Chains O₁ O₂} {w' : World O₁} (messages : List Message) (events : List Event)
      (hallowed : ∀ m ∈ messages, allowed m)
      (hcall : (handleMessages S messages).run st.source = (.ok events, w'))
      (htrue : Truthful D view st.blocks w') : Step S D view allowed st { st with source := w' }
  | handleDest {st : Chains O₁ O₂} {w' : World O₂} (messages : List Message) (events : List Event)
      (hcall : (handleMessages D messages).run st.dest = (.ok events, w')) :
      Step S D view allowed st { st with dest := w' }
  | elsewhereSource {st : Chains O₁ O₂} {w' : World O₁} (htrace : w'.trace = st.source.trace)
      (htrue : Truthful D view st.blocks w') : Step S D view allowed st { st with source := w' }
  | elsewhereDest {st : Chains O₁ O₂} {w' : World O₂} (htrace : w'.trace = st.dest.trace)
      (hnow : st.dest.host.now ≤ w'.host.now)
      (hreceipts : ∀ c, Crossing S D c → (st.dest.host.requestReceipts c).isSome →
        (w'.host.requestReceipts c).isSome)
      (hnone : NoneSent S D w'.host) : Step S D view allowed st { st with dest := w' }
  | block {st : Chains O₁ O₂} (height : UInt64) (hnew : st.blocks height = none) :
      Step S D view allowed st { st with blocks := Function.update st.blocks height (some st.dest.host) }

abbrev Chains.Reaches (S : Config O₁) (D : Config O₂) (view : View O₂) (allowed : Message → Prop) :
    Chains O₁ O₂ → Chains O₁ O₂ → Prop :=
  Relation.ReflTransGen (Step S D view allowed)

def Delivered (D : Config O₂) (st : Chains O₁ O₂) (p : PostRequest) : Prop :=
  ∃ c, hashRequest D.keccak256 (.post p) = some c ∧ (st.dest.host.requestReceipts c).isSome ∧
    ∀ height b, st.blocks height = some b → (Request.post p).timeout ≤ b.now → (b.requestReceipts c).isSome

structure Consistent (S : Config O₁) (D : Config O₂) (view : View O₂) (st : Chains O₁ O₂) : Prop where
  truthful : Truthful D view st.blocks st.source
  noneSent : NoneSent S D st.dest.host
  past : ∀ height b, st.blocks height = some b → b.now ≤ st.dest.host.now
  delivered : ∀ p, Between S D p → .accepted p true ∈ st.dest.trace → Delivered D st p
  undelivered : ∀ p, Between S D p → .timedOut (.request (.post p)) true ∈ st.source.trace →
    Undelivered D st.blocks p

theorem not_undelivered_of_delivered {st : Chains O₁ O₂} {p : PostRequest} (h : Delivered D st p) :
    ¬ Undelivered D st.blocks p := by
  rintro ⟨height, b, hb, htime, hnone⟩
  obtain ⟨c, hc, -, hblocks⟩ := h
  have hsome := hblocks height b hb htime
  rw [hnone c hc] at hsome
  cases hsome

theorem Started.consistent {st : Chains O₁ O₂} (h : Started S D view st) : Consistent S D view st := by
  refine ⟨h.truthful, h.noneSent, h.past, fun p _ hp => ?_, fun p _ hp => ?_⟩
  · rw [h.destTrace] at hp
    cases hp
  · rw [h.sourceTrace] at hp
    cases hp

variable {st : Chains O₁ O₂}

theorem Consistent.source (h : Consistent S D view st) {w' : World O₁} (htrue : Truthful D view st.blocks w')
    (hstep : ∀ p, Between S D p → .timedOut (.request (.post p)) true ∈ w'.trace →
      .timedOut (.request (.post p)) true ∈ st.source.trace ∨ Undelivered D st.blocks p) :
    Consistent S D view { st with source := w' } := by
  refine ⟨htrue, h.noneSent, h.past, h.delivered, fun p hp hmem => ?_⟩
  rcases hstep p hp hmem with hold | hnew
  · exact h.undelivered p hp hold
  · exact hnew

theorem Consistent.dest (h : Consistent S D view st) {w' : World O₂} (hnone : NoneSent S D w'.host)
    (hnow : st.dest.host.now ≤ w'.host.now)
    (hreceipts : ∀ c, Crossing S D c → (st.dest.host.requestReceipts c).isSome → (w'.host.requestReceipts c).isSome)
    (hstep : ∀ p, Between S D p → .accepted p true ∈ w'.trace → .accepted p true ∈ st.dest.trace ∨
      st.dest.host.now < (Request.post p).timeout ∧
        ∃ c, hashRequest D.keccak256 (.post p) = some c ∧ (w'.host.requestReceipts c).isSome) :
    Consistent S D view { st with dest := w' } := by
  refine ⟨h.truthful, hnone, fun height b hb => (h.past height b hb).trans hnow, fun p hp hmem => ?_,
    h.undelivered⟩
  rcases hstep p hp hmem with hold | ⟨htime, c, hc, hreceipt⟩
  · obtain ⟨c, hc, hreceipt, hblocks⟩ := h.delivered p hp hold
    exact ⟨c, hc, hreceipts c ⟨p, hp, hc⟩ hreceipt, hblocks⟩
  · -- no block so far is late enough to be asked for the receipt
    refine ⟨c, hc, hreceipt, fun height b hb hlate => ?_⟩
    exact absurd (hlate.trans (h.past height b hb)) (not_le.mpr htime)

theorem Consistent.block (h : Consistent S D view st) {height : UInt64} (hnew : st.blocks height = none) :
    Consistent S D view { st with blocks := Function.update st.blocks height (some st.dest.host) } := by
  have hkeep {height' : UInt64} {b : Host O₂} (hb : st.blocks height' = some b) :
      Function.update st.blocks height (some st.dest.host) height' = some b := by
    rwa [Function.update_of_ne]
    rintro rfl
    rw [hnew] at hb
    cases hb
  have hcases {height' : UInt64} {b : Host O₂}
      (hb : Function.update st.blocks height (some st.dest.host) height' = some b) :
      b = st.dest.host ∨ st.blocks height' = some b := by
    by_cases heq : height' = height
    · subst heq
      rw [Function.update_self] at hb
      exact .inl (Option.some.inj hb).symm
    · rw [Function.update_of_ne heq] at hb
      exact .inr hb
  refine ⟨fun height' state hid hs => ?_, h.noneSent, fun height' b hb => ?_, fun p hp hmem => ?_,
    fun p hp hmem => ?_⟩
  · obtain ⟨b, hb, hcarries⟩ := h.truthful height' state hid hs
    exact ⟨b, hkeep hb, hcarries⟩
  · rcases hcases hb with rfl | hold
    · exact le_rfl
    · exact h.past height' b hold
  · obtain ⟨c, hc, hreceipt, hblocks⟩ := h.delivered p hp hmem
    refine ⟨c, hc, hreceipt, fun height' b hb hlate => ?_⟩
    rcases hcases hb with rfl | hold
    · exact hreceipt
    · exact hblocks height' b hold hlate
  · obtain ⟨height', b, hb, hlate, hnone⟩ := h.undelivered p hp hmem
    exact ⟨height', b, hkeep hb, hlate, hnone⟩

instance : IsPreorder (World O₁) SourceFrame where
  refl _ := ⟨rfl, rfl⟩
  trans _ _ _ hab hbc := ⟨hbc.1.trans hab.1, hbc.2.trans hab.2⟩

theorem sourceFrame_stampRequest (request : DispatchRequest) : Keeps SourceFrame (stampRequest S request) := by
  refine Keeps.bind ?_ fun nonce => (Keeps.gets _).bind fun now => ?_
  · exact (Keeps.gets _).bind fun nonce => (Keeps.modify fun w => ⟨rfl, rfl⟩).bind fun _ => Keeps.pure _
  · cases request with
    | get get => exact Keeps.pure _
    | post post => exact Keeps.pure _

theorem sourceFrame_collectFee (fee : FeeMetadata) : Keeps SourceFrame (collectFee S fee) := by
  unfold collectFee
  split
  · exact Keeps.pure _
  · exact (keeps_reads _).bind fun other => Keeps.modify fun w => ⟨rfl, rfl⟩

theorem sourceFrame_commitRequest (request : Request) (fee : FeeMetadata) :
    Keeps SourceFrame (commitRequest S request fee) := by
  refine (keeps_requestHash _).bind fun commitment => (Keeps.gets _).bind fun known => ?_
  refine (Keeps.throwIf _ _).bind fun _ => Keeps.bind ?_ fun mmr => ?_
  · exact (Keeps.gets _).bind fun pushed => (Keeps.modify fun w => ⟨rfl, rfl⟩).bind fun _ => Keeps.pure _
  · exact (Keeps.modify fun w => ⟨rfl, rfl⟩).bind fun _ => Keeps.pure _

theorem sourceFrame_dispatchRequest (request : DispatchRequest) (fee : FeeMetadata) :
    Keeps SourceFrame (dispatchRequest S request fee) := by
  refine (sourceFrame_collectFee fee).bind fun _ => (sourceFrame_stampRequest request).bind fun r => ?_
  exact sourceFrame_commitRequest r fee

/-- Every step keeps the invariant. -/
theorem Consistent.step (hS : ModulesKeep S SourceFrame) (hD : ModulesKeep D (DestFrame S D))
    (hsound : ProofsSound S D view) (hkeccak : D.keccak256 = S.keccak256) {st' : Chains O₁ O₂}
    (hstep : Step S D view (TimeoutsProven S D) st st') (h : Consistent S D view st) : Consistent S D view st' := by
  cases hstep with
  | @dispatch w' request fee commitment hcall =>
    obtain ⟨htrace, hcommitments⟩ := (sourceFrame_dispatchRequest request fee).of_ok hcall
    refine h.source (fun height state hid hs => ?_) fun p _ hp => .inl ?_
    · rw [hcommitments] at hs
      exact h.truthful height state hid hs
    · rwa [htrace] at hp
  | handleSource messages events hallowed hcall htrue =>
    obtain ⟨results, hcollect, -⟩ := handleMessages_ok hcall
    exact h.source htrue (sourceStep_messages hS hsound hkeccak hallowed htrue hcollect).2
  | handleDest messages events hcall =>
    obtain ⟨results, hcollect, hresults⟩ := handleMessages_ok hcall
    have hok : ∀ r ∈ (results.map MessageResult.results).flatten, ∃ event, r = .ok event := by
      intro r hr
      rw [hresults] at hr
      obtain ⟨event, -, rfl⟩ := List.mem_map.mp hr
      exact ⟨event, rfl⟩
    obtain ⟨hsettled, haccepted⟩ := destStep_messages hD hcollect hok h.noneSent
    exact h.dest hsettled.noneSent hsettled.now.ge hsettled.receipts haccepted
  | elsewhereSource htrace htrue =>
    refine h.source htrue fun p _ hp => .inl ?_
    rwa [htrace] at hp
  | elsewhereDest htrace hnow hreceipts hnone =>
    refine h.dest hnone hnow hreceipts fun p _ hp => .inl ?_
    rwa [htrace] at hp
  | block height hnew => exact h.block hnew

theorem Consistent.reaches (hS : ModulesKeep S SourceFrame) (hD : ModulesKeep D (DestFrame S D))
    (hsound : ProofsSound S D view) (hkeccak : D.keccak256 = S.keccak256) {st' : Chains O₁ O₂}
    (hrun : Chains.Reaches S D view (TimeoutsProven S D) st st') (h : Consistent S D view st) :
    Consistent S D view st' := by
  induction hrun with
  | refl => exact h
  | tail _ hstep ih => exact ih.step hS hD hsound hkeccak hstep

/-- In every run in which the messages given to `S` prove on `D` the timeouts they list for requests to `D`,
no such request is both accepted on `D` and timed out on `S`. -/
theorem delivered_or_timed_out (hS : ModulesKeep S SourceFrame) (hD : ModulesKeep D (DestFrame S D))
    (hsound : ProofsSound S D view) (hkeccak : D.keccak256 = S.keccak256) {st₀ : Chains O₁ O₂}
    (hstart : Started S D view st₀) (hrun : Chains.Reaches S D view (TimeoutsProven S D) st₀ st)
    {p : PostRequest} (hp : Between S D p) :
    ¬ (.accepted p true ∈ st.dest.trace ∧ .timedOut (.request (.post p)) true ∈ st.source.trace) := by
  rintro ⟨haccepted, htimedOut⟩
  have h := hstart.consistent.reaches hS hD hsound hkeccak hrun
  exact not_undelivered_of_delivered (h.delivered p hp haccepted) (h.undelivered p hp htimedOut)

/-- It times out at second 20. -/
def expiringRequest : PostRequest := { sampleRequest with timeoutTimestamp := 20 }

def expiringCommitment : H256 :=
  BytesN.ofNat 32 0x8c2f851b553b9d199dd204b8a972843f28db3a7130fdff7d0e41c05ef500e05a

def expiringKeccak (b : Bytes) : H256 :=
  if (Request.post expiringRequest).encode = some b then expiringCommitment else BytesN.zero 32

def expiringDest : Config Unit :=
  trackingConfig (.polkadot 3367) (.polkadot 2000) expiringKeccak
    (committedClient expiringKeccak expiringCommitment)

def receiptUnder (b : Host Unit) (key : Bytes) : Option Bytes :=
  let c := key.drop (asBytes "RequestReceipts").length
  if h : c.length = 32 then
    if key = requestReceiptStorageKey ⟨c, h⟩ then b.requestReceipts ⟨c, h⟩ else none
  else none

/-- The state of a block is whether it has the receipt. -/
def receiptView : View Unit where
  overlayRoot _ := none
  stateRoot b := BytesN.ofNat 32 (if (b.requestReceipts expiringCommitment).isSome then 1 else 0)
  valueAt := receiptUnder

/-- A client of `S` that shows receipts to be absent. -/
def absenceClient : StateMachineClient Unit where
  verifyMembership _ _ _ _ := .error (.custom "Every key in a membership proof should have a value")
  receiptsStateTrieKey := receiptsStateTrieKey expiringKeccak
  verifyStateProof _ keys state _ :=
    if state.stateRoot = BytesN.ofNat 32 0 ∧ keys = [requestReceiptStorageKey expiringCommitment] then
      .ok (keys.map fun key => (key, none))
    else .error (.custom "Error reading state proof")

def expiringSource : Config Unit :=
  trackingConfig (.polkadot 2000) (.polkadot 3367) expiringKeccak absenceClient

def destHeight : StateMachineHeight := ⟨⟨.polkadot 3367, sampleConsensusId⟩, 1⟩

def sentHost : Host Unit :=
  { trackingHost destHeight ⟨30, none, BytesN.ofNat 32 0⟩ 31000000000 with
    requestCommitments := fun c => if c = expiringCommitment then some ⟨⟨0, 0⟩, ⟨[], 0⟩, false⟩ else none }

theorem receiptUnder_requestReceiptStorageKey (b : Host Unit) (c : H256) :
    receiptUnder b (requestReceiptStorageKey c) = b.requestReceipts c := by
  have hdrop : (requestReceiptStorageKey c).drop (asBytes "RequestReceipts").length = c.bytes := by
    rw [requestReceiptStorageKey, List.drop_left]
  have hlen : c.bytes.length = 32 := BytesN.length_bytes c
  simp only [receiptUnder, hdrop, hlen, dif_pos]
  exact if_pos rfl

theorem proofsSound_expiring : ProofsSound expiringSource expiringDest receiptView := by
  have hclient {client : ConsensusClient Unit} (hmem : client ∈ expiringSource.consensusClients)
      {sm : StateMachineClient Unit}
      (hsm : client.stateMachine expiringDest.hostStateMachine = .ok sm) : sm = absenceClient := by
    obtain rfl := List.mem_singleton.mp hmem
    exact (Except.ok.inj hsm).symm
  refine ⟨fun b c => ?_, fun client hmem sm hsm => ?_, fun client hmem sm hsm => ?_⟩
  · show (receiptUnder b _).isSome = _
    rw [receiptUnder_requestReceiptStorageKey]
  · rw [hclient hmem hsm]
    rfl
  · rw [hclient hmem hsm]
    intro h keys state proof values b hcarries hvalues key hkey
    simp only [absenceClient] at hvalues
    split at hvalues
    · rename_i hroot
      obtain rfl := (Except.ok.inj hvalues).symm
      refine List.mem_map.mpr ⟨key, hkey, Prod.ext rfl ?_⟩
      obtain rfl : key = requestReceiptStorageKey expiringCommitment := by simpa [hroot.2] using hkey
      simp only [receiptView, receiptUnder_requestReceiptStorageKey]
      by_contra hsome
      have hreceipt : (b.requestReceipts expiringCommitment).isSome := by
        rw [Option.isSome_iff_ne_none]
        exact fun hnone => hsome hnone.symm
      have hstate : receiptView.stateRoot b = BytesN.ofNat 32 0 := hcarries.2.1.symm.trans hroot.1
      simp only [receiptView, hreceipt, if_true] at hstate
      revert hstate
      decide
    · cases hvalues

theorem modulesKeep_trackingConfig {R : World Unit → World Unit → Prop} [IsPreorder (World Unit) R]
    (host tracked : StateMachine) (keccak256 : Bytes → H256) (client : StateMachineClient Unit) :
    ModulesKeep (trackingConfig host tracked keccak256 client) R := by
  intro id m hm
  obtain rfl := (Except.ok.inj hm).symm
  exact ⟨fun _ => Keeps.pure _, fun _ => Keeps.pure _, fun _ => Keeps.pure _⟩

instance : IsPreorder (World O₂) (DestFrame S D) where
  refl _ := ⟨rfl, fun hn => ⟨rfl, fun _ _ h => h, hn⟩⟩
  trans _ _ _ hab hbc := by
    refine ⟨hbc.1.trans hab.1, fun hn => ?_⟩
    have hb := hab.2 hn
    have hc := hbc.2 hb.noneSent
    exact ⟨hc.now.trans hb.now, fun c hcross h => hc.receipts c hcross (hb.receipts c hcross h), hc.noneSent⟩

/-- A block of `D` after the timeout, without the receipt. -/
def expiredChains : Chains Unit Unit where
  source := ⟨sentHost, []⟩
  dest := ⟨trackingHost sampleHeight ⟨10, none, BytesN.zero 32⟩ 30000000000, []⟩
  blocks height := if height = 1 then
    some (trackingHost sampleHeight ⟨10, none, BytesN.zero 32⟩ 30000000000) else none

theorem started_expiredChains : Started expiringSource expiringDest receiptView expiredChains := by
  refine ⟨rfl, rfl, fun height state _ hs => ?_, fun _ _ => rfl, fun height b hb => ?_⟩
  · have hheight : height = destHeight := by
      by_contra hne
      simp [expiredChains, sentHost, trackingHost, hne] at hs
    subst hheight
    obtain rfl := (Option.some.inj hs).symm
    exact ⟨_, rfl, rfl, rfl, rfl⟩
  · simp only [expiredChains] at hb ⊢
    split at hb
    · rw [← Option.some.inj hb]
    · cases hb

def provenTimeout : Message := .timeout (.post [.post expiringRequest] ⟨destHeight, []⟩)

def unprovenTimeout : Message := .timeout (.get [.post expiringRequest])

theorem delivered_or_timed_out_proven : ∃ st,
    Chains.Reaches expiringSource expiringDest receiptView (TimeoutsProven expiringSource expiringDest)
      expiredChains st ∧
    .timedOut (.request (.post expiringRequest)) true ∈ st.source.trace ∧
    ¬ (.accepted expiringRequest true ∈ st.dest.trace ∧
      .timedOut (.request (.post expiringRequest)) true ∈ st.source.trace) := by
  let w' := ((handleMessages expiringSource [provenTimeout]).run expiredChains.source).2
  have hcall : (handleMessages expiringSource [provenTimeout]).run expiredChains.source =
      (.ok [.postRequestTimeoutHandled expiringCommitment (.polkadot 2000) (.polkadot 3367)], w') :=
    Prod.ext (by decide +kernel) rfl
  have htrue : Truthful expiringDest receiptView expiredChains.blocks w' := by
    intro height state hid hs
    have hsame : w'.host.stateCommitments = sentHost.stateCommitments := by rfl
    rw [hsame] at hs
    exact started_expiredChains.truthful height state hid hs
  have hrun : Chains.Reaches expiringSource expiringDest receiptView
      (TimeoutsProven expiringSource expiringDest) expiredChains { expiredChains with source := w' } := by
    refine .single (.handleSource [provenTimeout] _ (fun m hm => ?_) hcall htrue)
    obtain rfl := List.mem_singleton.mp hm
    exact fun _ _ _ => .inl rfl
  refine ⟨_, hrun, by decide +kernel, ?_⟩
  exact delivered_or_timed_out (modulesKeep_trackingConfig _ _ _ _) (modulesKeep_trackingConfig _ _ _ _)
    proofsSound_expiring rfl started_expiredChains hrun ⟨rfl, rfl⟩

def openChains : Chains Unit Unit where
  source := ⟨{ sentHost with stateCommitments := fun _ => none }, []⟩
  dest := ⟨sampleHost, []⟩
  blocks _ := none

/-- Accepted on `D`, the request times out on `S` through the variant `Get`. -/
theorem accepted_and_timed_out : ∃ st, ModulesKeep expiringSource SourceFrame ∧
    ModulesKeep expiringDest (DestFrame expiringSource expiringDest) ∧
    ProofsSound expiringSource expiringDest receiptView ∧ expiringDest.keccak256 = expiringSource.keccak256 ∧
    Started expiringSource expiringDest receiptView openChains ∧
    Chains.Reaches expiringSource expiringDest receiptView (fun _ => True) openChains st ∧
    Between expiringSource expiringDest expiringRequest ∧ .accepted expiringRequest true ∈ st.dest.trace ∧
    .timedOut (.request (.post expiringRequest)) true ∈ st.source.trace := by
  let d' := ((handleMessages expiringDest [sampleMessage [expiringRequest]]).run openChains.dest).2
  let s' := ((handleMessages expiringSource [unprovenTimeout]).run openChains.source).2
  have hdest : (handleMessages expiringDest [sampleMessage [expiringRequest]]).run openChains.dest =
      (.ok [.postRequestHandled expiringCommitment [7]], d') := Prod.ext (by decide +kernel) rfl
  have hsource : (handleMessages expiringSource [unprovenTimeout]).run openChains.source =
      (.ok [.getRequestTimeoutHandled expiringCommitment (.polkadot 2000) (.polkadot 3367)], s') :=
    Prod.ext (by decide +kernel) rfl
  have htrue : Truthful expiringDest receiptView openChains.blocks s' := by
    intro height state _ hs
    have hsame : s'.host.stateCommitments = fun _ => none := by rfl
    rw [hsame] at hs
    cases hs
  refine ⟨⟨s', d', openChains.blocks⟩, modulesKeep_trackingConfig _ _ _ _, modulesKeep_trackingConfig _ _ _ _,
    proofsSound_expiring, rfl, ?_, ?_, ⟨rfl, rfl⟩, by decide +kernel, by decide +kernel⟩
  · refine ⟨rfl, rfl, fun _ _ _ hs => ?_, fun _ _ => rfl, fun _ _ hb => ?_⟩
    · cases hs
    · cases hb
  · exact .tail (.single (.handleDest _ _ hdest))
      (.handleSource [unprovenTimeout] _ (fun _ _ => trivial) hsource htrue)

end Hyperbridge.Ismp
