import Hyperbridge.Ismp.Spec

/-!
# Two chains: a request is delivered or timed out

A source `S` and a destination `D` both run the pallet. `S` knows `D` by the state commitments it stores, which are
assumed true: they carry the roots and the clock of a block of `D`, and proofs checked against them show what is stored
there.

A request is accepted on `D` before its timeout, and its receipt stays. A timeout proven on `D` needs a block at or
after the timeout without the receipt. So both cannot happen, as long as every timeout on `S` is proven on `D`. The
variant `Get` of a timeout message carries no proof, and admits POST requests.
-/

namespace Hyperbridge.Ismp

open Lib Exec

def requestReceiptStorageKey (c : H256) : Bytes := asBytes "RequestReceipts" ++ c.bytes

def responseReceiptStorageKey (c : H256) : Bytes := asBytes "ResponseReceipts" ++ c.bytes

def receiptsStateTrieKey (keccak256 : Bytes → H256) : RequestResponse → List Bytes
  | .request requests => requests.filterMap fun r =>
      match r with
      | .post p => (hashRequest keccak256 (.post p)).map requestReceiptStorageKey
      | .get _ => none
  | .response responses => responses.filterMap fun r =>
      match r with
      | .post p => (hashPostResponse keccak256 p).map responseReceiptStorageKey
      | .get _ => none

variable {O₁ O₂ : Type} (S : Config O₁) (D : Config O₂)

/-- The request goes from `S` to `D`. -/
def Between (p : PostRequest) : Prop := p.source = S.hostStateMachine ∧ p.dest = D.hostStateMachine

structure View (O₂ : Type) where
  overlayRoot : Host O₂ → Option H256
  stateRoot : Host O₂ → H256
  valueAt : Host O₂ → Bytes → Option Bytes

/-- The commitment is that of the block. -/
def Carries (view : View O₂) (state : StateCommitment) (b : Host O₂) : Prop :=
  state.overlayRoot = view.overlayRoot b ∧ state.stateRoot = view.stateRoot b ∧
    state.timestamp.toNat = b.now / 1000000000

structure ProofsSound (view : View O₂) : Prop where
  layout : ∀ b c, (view.valueAt b (requestReceiptStorageKey c)).isSome = (b.requestReceipts c).isSome
  keys : ∀ client ∈ S.consensusClients, ∀ sm, client.stateMachine D.hostStateMachine = .ok sm →
    sm.receiptsStateTrieKey = receiptsStateTrieKey S.keccak256
  values : ∀ client ∈ S.consensusClients, ∀ sm, client.stateMachine D.hostStateMachine = .ok sm →
    ∀ h keys state proof values b, Carries view state b → sm.verifyStateProof h keys state proof = .ok values →
      ∀ key ∈ keys, (key, view.valueAt b key) ∈ values

structure Chains (O₁ O₂ : Type) where
  source : World O₁
  dest : World O₂
  blocks : UInt64 → Option (Host O₂)

variable {S D} {view : View O₂} {blocks : UInt64 → Option (Host O₂)} {w w' : World O₁}

/-- What is stored about `D` are its blocks. -/
def Truthful (D : Config O₂) (view : View O₂) (blocks : UInt64 → Option (Host O₂)) (w : World O₁) : Prop :=
  ∀ height state, height.id.stateId = D.hostStateMachine → w.host.stateCommitments height = some state →
    ∃ b, blocks height.height = some b ∧ Carries view state b

/-- Some block at or after the timeout lacks the receipt. -/
def Undelivered (D : Config O₂) (blocks : UInt64 → Option (Host O₂)) (p : PostRequest) : Prop :=
  ∃ height b, blocks height = some b ∧ (Request.post p).timeout ≤ b.now ∧
    ∀ c, hashRequest D.keccak256 (.post p) = some c → b.requestReceipts c = none

/-- Timeouts of requests from `S` to `D` are proven on `D`. -/
def TimeoutsProven (S : Config O₁) (D : Config O₂) : Message → Prop
  | .timeout (.get requests) => ∀ p, .post p ∈ requests → ¬ Between S D p
  | .timeout (.post requests proof) => ∀ p, .post p ∈ requests → Between S D p →
      proof.height.id.stateId = D.hostStateMachine ∨ checkStateMachineClient S D.hostStateMachine = false
  | _ => True

/-- State commitments stay. -/
def CommitmentsStay (w w' : World O₁) : Prop :=
  ∀ height state, w.host.stateCommitments height = some state → w'.host.stateCommitments height = some state

instance : IsPreorder (World O₁) CommitmentsStay where
  refl _ _ _ h := h
  trans _ _ _ hab hbc height state h := hbc height state (hab height state h)

def SourceStep (S : Config O₁) (D : Config O₂) (blocks : UInt64 → Option (Host O₂)) (w w' : World O₁) : Prop :=
  CommitmentsStay w w' ∧ ∀ p, Between S D p → .timedOut (.request (.post p)) true ∈ w'.trace →
    .timedOut (.request (.post p)) true ∈ w.trace ∨ Undelivered D blocks p

instance : IsPreorder (World O₁) (SourceStep S D blocks) where
  refl w := ⟨refl_of CommitmentsStay w, fun _ _ h => .inl h⟩
  trans a b c hab hbc := by
    refine ⟨trans_of CommitmentsStay hab.1 hbc.1, fun p hp hc => ?_⟩
    rcases hbc.2 p hp hc with hb | hu
    · exact hab.2 p hp hb
    · exact .inr hu

/-- The modules of `S` write no state commitment and no log. -/
def SourceFrame (w w' : World O₁) : Prop :=
  w'.trace = w.trace ∧ w'.host.stateCommitments = w.host.stateCommitments

theorem sourceStep_of_frame (h : SourceFrame w w') : SourceStep S D blocks w w' := by
  refine ⟨fun height state hs => ?_, fun p _ hp => .inl ?_⟩
  · rw [h.2]
    exact hs
  · rwa [h.1] at hp

theorem sourceStep_of_messageStep (w w' : World O₁) (h : MessageStep w w') : SourceStep S D blocks w w' := by
  refine sourceStep_of_frame ⟨h.1, ?_⟩
  rw [h.2]

theorem sourceStep_of_consensusStep (w w' : World O₁) (h : ConsensusStep w w') : SourceStep S D blocks w w' := by
  refine ⟨h.stateCommitments, fun p _ hp => .inl ?_⟩
  rwa [h.trace] at hp

theorem sourceStep_note {t : Trace}
    (ht : ∀ p, Between S D p → t = .timedOut (.request (.post p)) true → Undelivered D blocks p) :
    Keeps (SourceStep S D blocks) (note t : Pallet O₁ Unit) := by
  refine Keeps.modify fun w => ⟨fun _ _ h => h, fun p hp hmem => ?_⟩
  rcases List.mem_append.mp hmem with hold | hnew
  · exact .inl hold
  · exact .inr (ht p hp (List.mem_singleton.mp hnew).symm)

theorem sourceStep_callbacks (hS : ModulesKeep S SourceFrame) {id : Bytes} {cb : IsmpModule O₁}
    (hcb : moduleForId S id = .ok cb) :
    (∀ r, Keeps (SourceStep S D blocks) (cb.onAccept r)) ∧
      (∀ r, Keeps (SourceStep S D blocks) (cb.onResponse r)) ∧
      ∀ t, Keeps (SourceStep S D blocks) (cb.onTimeout t) :=
  keeps_callbacks (hS.mono fun _ _ => sourceStep_of_frame) (fun _ _ => sourceStep_of_frame ⟨rfl, rfl⟩) hcb

theorem truthful_of_commitmentsStay (hstay : CommitmentsStay w w') (htrue : Truthful D view blocks w') :
    Truthful D view blocks w :=
  fun height state hid hs => htrue height state hid (hstay height state hs)

theorem commitmentsStay_requestTimeout (hS : ModulesKeep S SourceFrame) (request : Request) :
    Keeps CommitmentsStay (dispatchRequestTimeout S request) := by
  have hframe (w w' : World O₁) (h : SourceFrame w w') : CommitmentsStay w w' := by
    intro height state hs
    rw [h.2]
    exact hs
  have hnote (t : Trace) : Keeps CommitmentsStay (note t : Pallet O₁ Unit) :=
    Keeps.modify fun w => refl_of CommitmentsStay w
  have hstep (w w' : World O₁) (h : MessageStep w w') : CommitmentsStay w w' := by
    refine hframe w w' ⟨h.1, ?_⟩
    rw [h.2]
  refine (keeps_requestTimeouts_of_messageStep hstep (.of_keeps (fun _ => ⟨hnote _, hnote _⟩) fun id cb hcb => ?_)).1
  exact (keeps_callbacks (hS.mono hframe) (fun w other => hframe _ _ ⟨rfl, rfl⟩) hcb).2.2 _

theorem undelivered_of_proof (hsound : ProofsSound S D view) (hkeccak : D.keccak256 = S.keccak256)
    (htrue : Truthful D view blocks w) {requests : List Request} {proof : Proof} {sm : StateMachineClient O₁}
    {state : StateCommitment} {values : List (Bytes × Option Bytes)}
    (hsm : validateStateMachine S proof.height w.host = .ok sm)
    (hstate : w.host.stateCommitments proof.height = some state)
    (hcheck : ∀ r ∈ requests, (checkRequestTimeout S proof.height.id.stateId state r).run w = (.ok (), w))
    (hvalues : sm.verifyStateProof w.host (sm.receiptsStateTrieKey (.request requests)) state proof = .ok values)
    (hnone : (values.any fun kv => kv.2.isSome) = false) {p : PostRequest} (hp : .post p ∈ requests)
    (hbetween : Between S D p) (hproven : proof.height.id.stateId = D.hostStateMachine ∨
      checkStateMachineClient S D.hostStateMachine = false) : Undelivered D blocks p := by
  obtain ⟨hon, c, hhash, -, htimeout⟩ := checkRequestTimeout_ok (hcheck _ hp)
  have hid : proof.height.id.stateId = D.hostStateMachine := by
    rcases hproven with hid | hclient
    · exact hid
    · rw [Request.destChain, hbetween.2, provenOn, hclient, Bool.and_false, Bool.or_false,
        beq_iff_eq] at hon
      exact hon.symm
  obtain ⟨b, hblock, hcarries⟩ := htrue _ state hid hstate
  obtain ⟨client, hmem, hclient⟩ := validateStateMachine_ok hsm
  rw [hid] at hclient
  refine ⟨_, b, hblock, ?_, fun c' hc' => ?_⟩
  · -- the commitment's clock is `D`'s, rounded down to seconds
    have hclock : state.time ≤ b.now := by
      rw [StateCommitment.time, fromSecs, hcarries.2.2]
      exact Nat.div_mul_le_self _ _
    exact htimeout.trans hclock
  · rw [hkeccak] at hc'
    have hkey : requestReceiptStorageKey c' ∈ sm.receiptsStateTrieKey (.request requests) := by
      rw [hsound.keys client hmem sm hclient]
      exact List.mem_filterMap.mpr ⟨.post p, hp, by simp [hc']⟩
    have hval := hsound.values client hmem sm hclient _ _ _ _ _ b hcarries hvalues _ hkey
    have hempty : (view.valueAt b (requestReceiptStorageKey c')).isSome = false := by
      by_contra hsome
      rw [Bool.not_eq_false] at hsome
      have : (values.any fun kv => kv.2.isSome) = true := List.any_eq_true.mpr ⟨_, hval, hsome⟩
      rw [hnone] at this
      cases this
    rw [hsound.layout] at hempty
    simpa using hempty

theorem sourceStep_note_of_ne {t : Trace} (ht : ∀ p, t ≠ .timedOut (.request (.post p)) true) :
    Keeps (SourceStep S D blocks) (note t : Pallet O₁ Unit) :=
  sourceStep_note fun p _ heq => absurd heq (ht p)

theorem sourceStep_of_responseStep (w w' : World O₁) (h : ResponseStep w w') : SourceStep S D blocks w w' :=
  sourceStep_of_messageStep w w' (h.messageStep w w')

theorem sourceStep_requestTimeouts (hS : ModulesKeep S SourceFrame) {r : Request}
    (hr : ∀ p, r = .post p → Between S D p → Undelivered D blocks p) :
    Keeps (SourceStep S D blocks) (dispatchRequestTimeout S r) ∧
      Keeps (SourceStep S D blocks) (dispatchGetTimeout S r) := by
  refine keeps_requestTimeouts_of_messageStep sourceStep_of_messageStep (.of_keeps (fun b => ⟨?_, ?_⟩)
    fun id cb hcb => (sourceStep_callbacks hS hcb).2.2 _)
  · exact sourceStep_note_of_ne (by simp)
  · refine sourceStep_note fun p hp heq => ?_
    obtain ⟨rfl, -⟩ : r = .post p ∧ b = true := by simpa using heq
    exact hr p rfl hp

theorem sourceStep_timeout (hS : ModulesKeep S SourceFrame) (hsound : ProofsSound S D view)
    (hkeccak : D.keccak256 = S.keccak256) {m : TimeoutMessage} (hm : TimeoutsProven S D (.timeout m))
    (htrue : Truthful D view blocks w') {res : MessageResult}
    (h : (handleTimeout S m).run w = (.ok res, w')) : SourceStep S D blocks w w' := by
  cases m with
  | postResponse responses proof =>
    have hitems : TimeoutsKeep S (SourceStep S D blocks) (.postResponse responses proof) := by
      intro r _
      refine keeps_responseTimeout_of_responseStep sourceStep_of_responseStep (.of_keeps (fun b => ⟨?_, ?_⟩)
        fun id cb hcb => (sourceStep_callbacks hS hcb).2.2 _)
      · exact sourceStep_note_of_ne (by simp)
      · exact sourceStep_note_of_ne (by simp)
    exact (keeps_handleTimeout hitems).of_ok h
  | get requests =>
    have hitems : TimeoutsKeep S (SourceStep S D blocks) (.get requests) := by
      intro r hr
      refine (sourceStep_requestTimeouts hS ?_).2
      rintro p rfl hp
      exact absurd hp (hm p hr)
    exact (keeps_handleTimeout hitems).of_ok h
  | post requests proof =>
    obtain ⟨⟨sm, state, values, hsm, hstate, hcheck, hvalues, hnone⟩, results, hcollect, -⟩ := handleTimeout_ok_iff.mp h
    rw [TimeoutMessage.timeouts, collect_map] at hcollect
    have hstay : CommitmentsStay w w' :=
      (Keeps.collect fun r _ => commitmentsStay_requestTimeout hS r).of_ok hcollect
    have htrue' := truthful_of_commitmentsStay hstay htrue
    refine (Keeps.collect fun r hr => (sourceStep_requestTimeouts hS ?_).1).of_ok hcollect
    rintro p rfl hp
    exact undelivered_of_proof hsound hkeccak htrue' hsm hstate hcheck hvalues hnone hr hp (hm p hr hp)

theorem sourceStep_message (hS : ModulesKeep S SourceFrame) (hsound : ProofsSound S D view)
    (hkeccak : D.keccak256 = S.keccak256) {m : Message} (hm : TimeoutsProven S D m)
    (htrue : Truthful D view blocks w') {res : MessageResult}
    (h : (handleIncomingMessage S m).run w = (.ok res, w')) : SourceStep S D blocks w w' := by
  cases m with
  | consensus m => exact sourceStep_of_consensusStep _ _ ((consensusStep_updateClient m).of_ok h)
  | fraudProof m => exact sourceStep_of_consensusStep _ _ ((consensusStep_freezeClient m).of_ok h)
  | request m =>
    refine (keeps_handleRequest fun post _ => ?_).of_ok h
    refine keeps_dispatchAccept ((messageStep_requestReceipt _).mono sourceStep_of_messageStep)
      (.of_keeps (fun b => ⟨?_, ?_⟩) fun id cb hcb => (sourceStep_callbacks hS hcb).1 post)
    · exact sourceStep_note_of_ne (by simp)
    · exact sourceStep_note_of_ne (by simp)
  | response m =>
    refine (keeps_handleResponse fun moduleId receipt response event hevent => ?_).of_ok h
    refine keeps_dispatchResponseTo ((responseStep_responseReceipt _).mono sourceStep_of_responseStep) hevent
      (.of_keeps (fun b => ⟨?_, ?_⟩) fun id cb hcb => (sourceStep_callbacks hS hcb).2.1 response)
    · exact sourceStep_note_of_ne (by simp)
    · exact sourceStep_note_of_ne (by simp)
  | timeout m => exact sourceStep_timeout hS hsound hkeccak hm htrue h

theorem sourceStep_messages (hS : ModulesKeep S SourceFrame) (hsound : ProofsSound S D view)
    (hkeccak : D.keccak256 = S.keccak256) {messages : List Message}
    (hm : ∀ m ∈ messages, TimeoutsProven S D m) (htrue : Truthful D view blocks w') {results : List MessageResult}
    (h : (collect (handleIncomingMessage S) messages).run w = (.ok results, w')) : SourceStep S D blocks w w' := by
  induction messages generalizing w results with
  | nil =>
    obtain ⟨-, rfl⟩ := Prod.mk.inj h
    exact refl_of (SourceStep S D blocks) _
  | cons m messages ih =>
    obtain ⟨res, w₁, rest, hfirst, hcollect, -⟩ := collect_cons_ok.mp h
    have htail := ih (fun m' hm' => hm m' (by simp [hm'])) hcollect
    have htrue₁ := truthful_of_commitmentsStay htail.1 htrue
    have hhead := sourceStep_message hS hsound hkeccak (hm m (by simp)) htrue₁ hfirst
    exact trans_of (SourceStep S D blocks) hhead htail

section Destination

variable {w w' : World O₂}

/-- The commitment of a request from `S` to `D`. -/
def Crossing (S : Config O₁) (D : Config O₂) (c : H256) : Prop :=
  ∃ p, Between S D p ∧ hashRequest D.keccak256 (.post p) = some c

/-- `D` has sent none of these requests itself. -/
def NoneSent (S : Config O₁) (D : Config O₂) (h : Host O₂) : Prop :=
  ∀ c, Crossing S D c → h.requestCommitments c = none

structure Settled (S : Config O₁) (D : Config O₂) (h h' : Host O₂) : Prop where
  now : h'.now = h.now
  receipts : ∀ c, Crossing S D c → (h.requestReceipts c).isSome → (h'.requestReceipts c).isSome
  noneSent : NoneSent S D h'

def DestStep (S : Config O₁) (D : Config O₂) (w w' : World O₂) : Prop :=
  NoneSent S D w.host → Settled S D w.host w'.host ∧
    ∀ p, Between S D p → .accepted p true ∈ w'.trace → .accepted p true ∈ w.trace ∨
      w.host.now < (Request.post p).timeout ∧
        ∃ c, hashRequest D.keccak256 (.post p) = some c ∧ (w'.host.requestReceipts c).isSome

instance : IsPreorder (World O₂) (DestStep S D) where
  refl w hn := ⟨⟨rfl, fun _ _ h => h, hn⟩, fun _ _ h => .inl h⟩
  trans a b c hab hbc hn := by
    obtain ⟨hsab, hab⟩ := hab hn
    obtain ⟨hsbc, hbc⟩ := hbc hsab.noneSent
    refine ⟨⟨hsbc.now.trans hsab.now, fun c hc h => hsbc.receipts c hc (hsab.receipts c hc h),
      hsbc.noneSent⟩, fun p hp hacc => ?_⟩
    rcases hbc p hp hacc with hold | ⟨htime, hreceipt⟩
    · rcases hab p hp hold with hold | ⟨htime, c, hc, hreceipt⟩
      · exact .inl hold
      · exact .inr ⟨htime, c, hc, hsbc.receipts c ⟨p, hp, hc⟩ hreceipt⟩
    · rw [hsab.now] at htime
      exact .inr ⟨htime, hreceipt⟩

def DestFrame (S : Config O₁) (D : Config O₂) (w w' : World O₂) : Prop :=
  w'.trace = w.trace ∧ (NoneSent S D w.host → Settled S D w.host w'.host)

theorem destStep_of_frame (w w' : World O₂) (h : DestFrame S D w w') : DestStep S D w w' := by
  intro hn
  refine ⟨h.2 hn, fun p _ hp => .inl ?_⟩
  rwa [h.1] at hp

theorem destStep_of_consensusStep (w w' : World O₂) (h : ConsensusStep w w') : DestStep S D w w' := by
  refine destStep_of_frame w w' ⟨h.trace, fun hn => ⟨h.now, fun c _ hs => ?_, fun c hc => ?_⟩⟩
  · rwa [h.requestReceipts]
  · rw [h.requestCommitments]
    exact hn c hc

theorem destStep_of_responseStep (w w' : World O₂) (h : ResponseStep w w') : DestStep S D w w' := by
  refine destStep_of_frame w w' ⟨h.1, fun hn => ?_⟩
  rw [h.2]
  exact ⟨rfl, fun _ _ hs => hs, hn⟩

theorem destStep_writes {f : Host O₂ → Host O₂} (hf : ∀ h, NoneSent S D h → Settled S D h (f h)) :
    Keeps (DestStep S D) (writes f) :=
  Keeps.modify fun w => destStep_of_frame w _ ⟨rfl, hf w.host⟩

theorem destStep_note {t : Trace} (ht : ∀ p, t ≠ .accepted p true) :
    Keeps (DestStep S D) (note t : Pallet O₂ Unit) := by
  refine Keeps.modify fun w hn => ⟨⟨rfl, fun _ _ h => h, hn⟩, fun p _ hp => ?_⟩
  rcases List.mem_append.mp hp with hold | hnew
  · exact .inl hold
  · exact absurd (List.mem_singleton.mp hnew).symm (ht p)

theorem settled_storeReceipt (hash : H256) (signer : Bytes) {h : Host O₂} (hn : NoneSent S D h) :
    Settled S D h { h with requestReceipts := Function.update h.requestReceipts hash (some signer) } := by
  refine ⟨rfl, fun c _ hs => ?_, hn⟩
  show (Function.update h.requestReceipts hash (some signer) c).isSome
  by_cases hc : c = hash
  · subst hc
    simp
  · rwa [Function.update_of_ne hc]

theorem destStep_storeRequestReceipt (r : Request) (signer : Bytes) :
    Keeps (DestStep S D) (storeRequestReceipt D r signer) :=
  (keeps_requestHash r).bind fun hash => destStep_writes fun _ => settled_storeReceipt hash signer

/-- The request shares no commitment with one from `S` to `D`. -/
def Elsewhere (S : Config O₁) (D : Config O₂) (r : Request) : Prop :=
  ∀ c, hashRequest D.keccak256 r = some c → ¬ Crossing S D c

theorem destStep_deleteRequestReceipt {r : Request} (hr : Elsewhere S D r) :
    Keeps (DestStep S D) (deleteRequestReceipt D r) := by
  refine Keeps.expect_bind fun hash hhash => (keeps_reads _).bind fun relayer => ?_
  refine Keeps.bind (destStep_writes fun h hn => ?_) fun _ => Keeps.pure _
  refine ⟨rfl, fun c hc hs => ?_, hn⟩
  have hne : c ≠ hash := by
    rintro rfl
    exact hr c hhash hc
  show (Function.update h.requestReceipts hash none c).isSome
  rwa [Function.update_of_ne hne]

theorem destStep_deleteRequestCommitment (r : Request) : Keeps (DestStep S D) (deleteRequestCommitment D r) := by
  refine (keeps_requestHash r).bind fun hash => (keeps_reads _).bind fun metadata => ?_
  refine Keeps.bind (destStep_writes fun h hn => ?_) fun _ => Keeps.pure _
  refine ⟨rfl, fun _ _ hs => hs, fun c hc => ?_⟩
  show Function.update h.requestCommitments hash none c = none
  by_cases hch : c = hash
  · subst hch
    exact Function.update_self ..
  · rw [Function.update_of_ne hch]
    exact hn c hc

theorem destStep_storeRequestCommitment {r : Request} (hr : Elsewhere S D r) (metadata : RequestMetadata) :
    Keeps (DestStep S D) (storeRequestCommitment D r metadata) := by
  refine Keeps.expect_bind fun hash hhash => ?_
  refine destStep_writes fun h hn => ⟨rfl, fun _ _ hs => hs, fun c hc => ?_⟩
  have hne : c ≠ hash := by
    rintro rfl
    exact hr c hhash hc
  show Function.update h.requestCommitments hash (some metadata) c = none
  rw [Function.update_of_ne hne]
  exact hn c hc

theorem destStep_callbacks (hD : ModulesKeep D (DestFrame S D)) {id : Bytes} {cb : IsmpModule O₂}
    (hcb : moduleForId D id = .ok cb) :
    (∀ r, Keeps (DestFrame S D) (cb.onAccept r)) ∧ (∀ r, Keeps (DestStep S D) (cb.onResponse r)) ∧
      ∀ t, Keeps (DestStep S D) (cb.onTimeout t) := by
  have hmono := destStep_of_frame (S := S) (D := D)
  have hstep := keeps_callbacks (hD.mono hmono)
    (fun w other => hmono w _ ⟨rfl, fun hn => ⟨rfl, fun _ _ hs => hs, hn⟩⟩) hcb
  obtain ⟨inner, hinner, rfl⟩ := moduleForId_ok hcb
  exact ⟨(hD id inner hinner).1, hstep.2.1, hstep.2.2⟩

theorem destStep_of_not_elsewhere {α : Type} {r : Request} (hr : ¬ Elsewhere S D r)
    (k : RequestMetadata → Pallet O₂ α) : Keeps (DestStep S D) (deleteRequestCommitment D r >>= k) := by
  intro w hret hn
  unfold Elsewhere at hr
  push Not at hr
  obtain ⟨c, hhash, hc⟩ := hr
  have hrun : (deleteRequestCommitment D r >>= k).run w =
      (.err (.custom "Request Commitment not found"), w) := by
    rw [deleteRequestCommitment, requestHash, hhash]
    simp [expect, bind_run, reads, query, hn c hc, okOr]
  rw [hrun]
  exact refl_of (DestStep S D) w hn

theorem destStep_timeoutKeeps (hD : ModulesKeep D (DestFrame S D)) (t : Timeout) : TimeoutKeeps D (DestStep S D) t :=
  .of_keeps (fun _ => ⟨destStep_note (by simp), destStep_note (by simp)⟩)
    fun _ _ hcb => (destStep_callbacks hD hcb).2.2 t

theorem destStep_requestTimeouts (hD : ModulesKeep D (DestFrame S D)) (r : Request) :
    Keeps (DestStep S D) (dispatchRequestTimeout D r) ∧ Keeps (DestStep S D) (dispatchGetTimeout D r) := by
  by_cases hr : Elsewhere S D r
  · have hcommitment := And.intro (destStep_deleteRequestCommitment (S := S) (D := D) r)
      (destStep_storeRequestCommitment hr)
    exact ⟨keeps_dispatchRequestTimeout hcommitment
        ⟨destStep_deleteRequestReceipt hr, destStep_storeRequestReceipt r⟩ (destStep_timeoutKeeps hD _),
      keeps_dispatchGetTimeout hcommitment (destStep_timeoutKeeps hD _)⟩
  · exact ⟨Keeps.ofExcept_bind fun cb _ => destStep_of_not_elsewhere hr _,
      Keeps.ofExcept_bind fun cb _ => destStep_of_not_elsewhere hr _⟩

theorem destStep_accept (hD : ModulesKeep D (DestFrame S D)) {signer : Bytes} {post : PostRequest}
    {event : Event} (htime : w.host.now < (Request.post post).timeout)
    (h : (dispatchAccept D signer post).run w = (.ok (.ok event), w')) : DestStep S D w w' := by
  obtain ⟨cb, c, w₂, hcb, hpost, hcall, rfl⟩ := dispatchAccept_ok h
  intro hn
  have hreceipt : Settled S D w.host (underReceipt w signer post c).host := settled_storeReceipt c signer hn
  obtain ⟨htrace, hframe⟩ := ((destStep_callbacks hD hcb).1 post).of_ok hcall
  have hcallback := hframe hreceipt.noneSent
  refine ⟨⟨hcallback.now.trans hreceipt.now, fun c' hc' hs => ?_, hcallback.noneSent⟩, fun p hp hacc => ?_⟩
  · exact hcallback.receipts c' hc' (hreceipt.receipts c' hc' hs)
  · rcases List.mem_append.mp hacc with hold | hnew
    · left
      rw [htrace] at hold
      simpa [underReceipt] using hold
    · obtain ⟨rfl, -⟩ : p = post ∧ true = true := by simpa using hnew
      refine .inr ⟨htime, c, hpost, hcallback.receipts c ⟨p, hp, hpost⟩ ?_⟩
      simp [underReceipt]

theorem destStep_accepts (hD : ModulesKeep D (DestFrame S D)) {signer : Bytes} {posts : List PostRequest}
    (htime : ∀ post ∈ posts, w.host.now < (Request.post post).timeout) {results : List (Except Error Event)}
    (h : (collect (acceptResult D signer) posts).run w = (.ok results, w'))
    (hok : ∀ r ∈ results, ∃ event, r = .ok event) : DestStep S D w w' := by
  induction posts generalizing w results with
  | nil =>
    obtain ⟨-, rfl⟩ := Prod.mk.inj h
    exact refl_of (DestStep S D) _
  | cons post posts ih =>
    obtain ⟨r, w₁, rs, hfirst, hcollect, rfl⟩ := collect_cons_ok.mp h
    obtain ⟨event, rfl⟩ := hok r (by simp)
    have hhead := destStep_accept hD (htime post (by simp)) (acceptResult_ok hfirst)
    intro hn
    have hnow := (hhead hn).1.now
    refine trans_of (DestStep S D) hhead (ih (fun post' hpost' => ?_) hcollect fun r hr => ?_) hn
    · rw [hnow]
      exact htime post' (by simp [hpost'])
    · exact hok r (by simp [hr])

theorem destStep_message (hD : ModulesKeep D (DestFrame S D)) {m : Message} {res : MessageResult}
    (h : (handleIncomingMessage D m).run w = (.ok res, w')) (hok : ∀ r ∈ res.results, ∃ event, r = .ok event) :
    DestStep S D w w' := by
  cases m with
  | consensus m => exact destStep_of_consensusStep _ _ ((consensusStep_updateClient m).of_ok h)
  | fraudProof m => exact destStep_of_consensusStep _ _ ((consensusStep_freezeClient m).of_ok h)
  | request m =>
    obtain ⟨hcheck, results, hcollect, rfl⟩ := handleRequest_ok h
    refine destStep_accepts hD (fun post hpost => ?_) hcollect hok
    obtain ⟨c, -, -, htime, -⟩ := checkRequest_ok (hcheck post hpost)
    exact htime
  | response m =>
    refine (keeps_handleResponse fun moduleId receipt response event hevent => ?_).of_ok h
    exact keeps_dispatchResponseTo ((responseStep_responseReceipt _).mono destStep_of_responseStep) hevent
      (.of_keeps (fun b => ⟨destStep_note (by simp), destStep_note (by simp)⟩)
        fun id cb hcb => (destStep_callbacks hD hcb).2.1 response)
  | timeout m =>
    refine (keeps_handleTimeout ?_).of_ok h
    cases m with
    | postResponse responses proof =>
      exact fun r _ => keeps_responseTimeout_of_responseStep destStep_of_responseStep (destStep_timeoutKeeps hD _)
    | get requests => exact fun r _ => (destStep_requestTimeouts hD r).2
    | post requests proof => exact fun r _ => (destStep_requestTimeouts hD r).1

/-- A call on the destination. -/
theorem destStep_messages (hD : ModulesKeep D (DestFrame S D)) {messages : List Message}
    {results : List MessageResult} (h : (collect (handleIncomingMessage D) messages).run w = (.ok results, w'))
    (hok : ∀ r ∈ (results.map MessageResult.results).flatten, ∃ event, r = .ok event) : DestStep S D w w' := by
  induction messages generalizing w results with
  | nil =>
    obtain ⟨-, rfl⟩ := Prod.mk.inj h
    exact refl_of (DestStep S D) _
  | cons m messages ih =>
    obtain ⟨res, w₁, rest, hfirst, hcollect, rfl⟩ := collect_cons_ok.mp h
    have hhead := destStep_message hD hfirst fun r hr => hok r (by simp [hr])
    refine trans_of (DestStep S D) hhead (ih hcollect fun r hr => hok r ?_)
    rw [List.map_cons, List.flatten_cons]
    exact List.mem_append_right _ hr

end Destination

end Hyperbridge.Ismp
