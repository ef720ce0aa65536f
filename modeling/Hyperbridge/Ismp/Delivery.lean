import Hyperbridge.Ismp.Spec
import Hyperbridge.Lib.Once
import Mathlib.Algebra.Order.BigOperators.Group.List

/-!
# At-most-once delivery of requests

A batch is checked for receipts first; then each request is delivered, its receipt written before the callback, without
another look. So a request is accepted twice when its receipt is written in between: by an earlier item of the batch, or
by a callback that re-enters `handle_messages` with the request.

Where callbacks do not do that, and the request does not time out, only one batch lists it, and `on_accept` succeeds as
often as this batch lists it. Modules may do anything else that does not delete the receipt.
-/

namespace Hyperbridge.Ismp

open Lib Exec

variable {Other : Type} (T : Config Other) (c : H256)

def acceptedOk : Trace → Bool
  | .accepted r ok => ok && decide (hashRequest T.keccak256 (.post r) = some c)
  | _ => false

/-- How often the request was accepted. -/
def acceptances (w : World Other) : Nat := w.trace.countP (acceptedOk T c)

def isOne (hash : Option H256) (c : H256) : Nat := if hash = some c then 1 else 0

def timesListed (hashes : List (Option H256)) (c : H256) : Nat := (hashes.map fun hash => isOne hash c).sum

/-- How often the message lists the request. -/
def requestsListed : Message → Nat
  | .request m => timesListed (m.requests.map fun post => hashRequest T.keccak256 (.post post)) c
  | _ => 0

/-- How often it lists the request for a timeout. -/
def timeoutsListed : Message → Nat
  | .timeout (.post requests _) => timesListed (requests.map (hashRequest T.keccak256)) c
  | .timeout (.get requests) => timesListed (requests.map (hashRequest T.keccak256)) c
  | _ => 0

def Spares (msg : Message) : Prop := requestsListed T c msg = 0 ∧ timeoutsListed T c msg = 0

inductive Behaves : World Other → World Other → Prop
  | done (w) : Behaves w w
  | own {w w₁ w₂} (htrace : w₁.trace = w.trace)
      (hreceipt : (w.host.requestReceipts c).isSome → (w₁.host.requestReceipts c).isSome)
      (rest : Behaves w₁ w₂) : Behaves w w₂
  | reenter {w w₂} (messages : List Message) (hspares : ∀ msg ∈ messages, Spares T c msg)
      (hret : ((handleMessages T messages).run w).1.returns = true)
      (rest : Behaves ((handleMessages T messages).run w).2 w₂) : Behaves w w₂

/-- Nothing is accepted, and the receipt stays. -/
def Calm (w w' : World Other) : Prop :=
  acceptances T c w' = acceptances T c w ∧
    ((w.host.requestReceipts c).isSome → (w'.host.requestReceipts c).isSome)

/-- Calm, as far as histories with at most `n` entries go. -/
def CalmUpTo (n : Nat) (w w' : World Other) : Prop := w'.trace.length ≤ n → w.trace.length ≤ n ∧ Calm T c w w'

variable {T c} {n : Nat} {w w' w₀ : World Other}

instance : IsPreorder (World Other) (CalmUpTo T c n) where
  refl _ hn := ⟨hn, rfl, id⟩
  trans _ _ _ hab hbc hn := by
    obtain ⟨hn', hcount', hreceipt'⟩ := hbc hn
    obtain ⟨hn'', hcount, hreceipt⟩ := hab hn'
    exact ⟨hn'', hcount'.trans hcount, hreceipt' ∘ hreceipt⟩

theorem timesListed_pos {hashes : List (Option H256)} : 0 < timesListed hashes c ↔ some c ∈ hashes := by
  rw [Nat.pos_iff_ne_zero, Ne, timesListed, List.sum_eq_zero_iff]
  simp [isOne]

theorem ne_of_timesListed {α : Type} {hash : α → Option H256} {xs : List α}
    (h : timesListed (xs.map hash) c = 0) {x : α} (hx : x ∈ xs) : hash x ≠ some c := by
  intro heq
  have hpos : 0 < timesListed (xs.map hash) c := timesListed_pos.mpr (heq ▸ List.mem_map_of_mem hx)
  omega

theorem calm_writes (htrace : w'.trace = w.trace)
    (hreceipt : (w.host.requestReceipts c).isSome → (w'.host.requestReceipts c).isSome) : CalmUpTo T c n w w' := by
  intro hn
  rw [htrace] at hn
  exact ⟨hn, by rw [acceptances, htrace, acceptances], hreceipt⟩

theorem calm_modify {f : Host Other → Host Other}
    (hf : ∀ h : Host Other, (h.requestReceipts c).isSome → ((f h).requestReceipts c).isSome) :
    Keeps (CalmUpTo T c n) (writes f) :=
  Keeps.modify fun w => calm_writes rfl (hf w.host)

theorem calm_note {t : Trace} (ht : acceptedOk T c t = false) :
    Keeps (CalmUpTo T c n) (note t : Pallet Other Unit) := by
  refine Keeps.modify fun w hn => ?_
  rw [List.length_append, List.length_singleton] at hn
  refine ⟨by omega, ?_, id⟩
  simp [acceptances, ht]

theorem calm_call {α β : Type} {x : Pallet Other α} {t : Except Error α → Trace}
    {k : Except Error α → Pallet Other β} (hx : ∀ m < n, Keeps (CalmUpTo T c m) x)
    (ht : ∀ r, acceptedOk T c (t r) = false) (hk : ∀ r, Keeps (CalmUpTo T c n) (k r)) :
    Keeps (CalmUpTo T c n) (do let r ← attempt x; note (t r); k r) := by
  intro w hret hn
  obtain ⟨hreturns, r, hcall⟩ := attempt_of_returns hret
  have hrun : (do let r ← attempt x; note (t r); k r : Pallet Other β).run w =
      (do note (t r); k r : Pallet Other β).run (x.run w).2 := by
    rw [bind_run, hcall]
  rw [hrun] at hret hn ⊢
  have hend := ((calm_note (ht r)).bind fun _ => hk r) (x.run w).2 hret
  obtain ⟨hlength, -⟩ := hk r ⟨(x.run w).2.host, (x.run w).2.trace ++ [t r]⟩ hret hn
  have hlt : (x.run w).2.trace.length < n := by
    rw [List.length_append] at hlength
    exact hlength
  obtain ⟨hshort, hcalm⟩ := hx _ hlt w hreturns le_rfl
  exact trans_of (CalmUpTo T c n) (fun _ => ⟨hshort.trans hlt.le, hcalm⟩) hend hn

theorem calm_requestReceipt {r : Request} (hr : hashRequest T.keccak256 r ≠ some c) :
    WritesKeep (CalmUpTo T c n) (deleteRequestReceipt T r) (storeRequestReceipt T r) := by
  have hupdate {hash : H256} (hhash : hashRequest T.keccak256 r = some hash) (v : Option Bytes) (h : Host Other)
      (hsome : (h.requestReceipts c).isSome) : (Function.update h.requestReceipts hash v c).isSome := by
    rwa [Function.update_of_ne]
    rintro rfl
    exact hr hhash
  refine ⟨Keeps.expect_bind fun hash hhash => (keeps_reads _).bind fun _ => ?_, fun _ => ?_⟩
  · exact (calm_modify (hupdate hhash none)).bind fun _ => Keeps.pure _
  · exact Keeps.expect_bind fun hash hhash => calm_modify (hupdate hhash _)

theorem calm_requestCommitment (r : Request) :
    WritesKeep (CalmUpTo T c n) (deleteRequestCommitment T r) (storeRequestCommitment T r) :=
  ⟨(keeps_requestHash r).bind fun _ => (keeps_reads _).bind fun _ =>
    (calm_modify fun _ hsome => hsome).bind fun _ => Keeps.pure _,
    fun _ => (keeps_requestHash r).bind fun _ => calm_modify fun _ hsome => hsome⟩

theorem calm_of_responseStep (w w' : World Other) (h : ResponseStep w w') : CalmUpTo T c n w w' :=
  calm_writes h.1 fun hsome => by rwa [h.2]

theorem calm_of_consensusStep (w w' : World Other) (h : ConsensusStep w w') : CalmUpTo T c n w w' :=
  calm_writes h.trace fun hsome => by rwa [h.requestReceipts]

/-- Callbacks with shorter histories are calm. -/
def CallsKeep (T : Config Other) (c : H256) (n : Nat) : Prop :=
  ∀ id cb, moduleForId T id = .ok cb → ∀ m < n, (∀ r, Keeps (CalmUpTo T c m) (cb.onAccept r)) ∧
    (∀ r, Keeps (CalmUpTo T c m) (cb.onResponse r)) ∧ ∀ t, Keeps (CalmUpTo T c m) (cb.onTimeout t)

theorem calm_timeoutKeeps (hcalls : CallsKeep T c n) (t : Timeout) : TimeoutKeeps T (CalmUpTo T c n) t :=
  ⟨fun _ => calm_note rfl, fun id cb hcb _ _ => calm_call (fun m hm => (hcalls id cb hcb m hm).2.2 t) fun _ => rfl⟩

theorem calm_timeout (hcalls : CallsKeep T c n) {msg : TimeoutMessage}
    (hspares : timeoutsListed T c (.timeout msg) = 0) : Keeps (CalmUpTo T c n) (handleTimeout T msg) := by
  refine keeps_handleTimeout ?_
  cases msg with
  | post requests proof =>
    intro request hrequest
    exact keeps_dispatchRequestTimeout (calm_requestCommitment _)
      (calm_requestReceipt (ne_of_timesListed hspares hrequest)) (calm_timeoutKeeps hcalls _)
  | postResponse responses proof =>
    intro response _
    exact keeps_responseTimeout_of_responseStep calm_of_responseStep (calm_timeoutKeeps hcalls _)
  | get requests =>
    intro request _
    exact keeps_dispatchGetTimeout (calm_requestCommitment _) (calm_timeoutKeeps hcalls _)

theorem calm_message (hcalls : CallsKeep T c n) {msg : Message} (hspares : Spares T c msg) :
    Keeps (CalmUpTo T c n) (handleIncomingMessage T msg) := by
  cases msg with
  | consensus m => exact (consensusStep_updateClient m).mono calm_of_consensusStep
  | fraudProof m => exact (consensusStep_freezeClient m).mono calm_of_consensusStep
  | request m =>
    refine keeps_handleRequest fun post hpost => ?_
    have hne := ne_of_timesListed hspares.1 hpost
    refine keeps_dispatchAccept (calm_requestReceipt hne) ⟨fun _ => calm_note rfl, fun id cb hcb _ _ => ?_⟩
    exact calm_call (fun m hm => (hcalls id cb hcb m hm).1 post) fun r => by simp [acceptedOk, hne]
  | response m =>
    refine keeps_handleResponse fun _ receipt response _ hevent => keeps_dispatchResponseTo
      ((responseStep_responseReceipt _).mono calm_of_responseStep) hevent
      ⟨fun _ => calm_note rfl, fun id cb hcb _ _ => ?_⟩
    exact calm_call (fun m hm => (hcalls id cb hcb m hm).2.1 response) fun _ => rfl
  | timeout m => exact calm_timeout hcalls hspares.2

theorem calm_behaves (hcalls : CallsKeep T c n) (h : Behaves T c w w') : CalmUpTo T c n w w' := by
  induction h with
  | done w => exact refl_of (CalmUpTo T c n) w
  | own htrace hreceipt rest ih => exact trans_of (CalmUpTo T c n) (calm_writes htrace hreceipt) ih
  | reenter messages hspares hret rest ih =>
    have hmessages := keeps_handleMessages fun msg hmsg => calm_message hcalls (hspares msg hmsg)
    exact trans_of (CalmUpTo T c n) (hmessages _ hret) ih

theorem callsKeep (hT : ModulesKeep T (Behaves T c)) (n : Nat) : CallsKeep T c n := by
  induction n with
  | zero =>
    intro _ _ _ m hm
    omega
  | succ n ih =>
    intro id cb hcb m hm
    have hcalls : CallsKeep T c m := fun id cb hcb k hk => ih id cb hcb k (by omega)
    exact keeps_callbacks (hT.mono fun _ _ => calm_behaves hcalls) (fun w other => calm_writes rfl fun h => h) hcb

theorem Keeps.calm {α : Type} {x : Pallet Other α} (h : ∀ n, Keeps (CalmUpTo T c n) x) : Keeps (Calm T c) x :=
  fun w hret => (h _ w hret le_rfl).2

/-- Accepted as often as listed, under the receipt. -/
def Accepts (T : Config Other) (c : H256) : Nat → World Other → World Other → Prop :=
  Counts (acceptances T c) fun w => (w.host.requestReceipts c).isSome

theorem accepts_dispatchAccept (hT : ModulesKeep T (Behaves T c)) {signer : Bytes} {post : PostRequest} {event : Event}
    (h : (dispatchAccept T signer post).run w = (.ok (.ok event), w')) :
    Accepts T c (isOne (hashRequest T.keccak256 (.post post)) c) w w' := by
  obtain ⟨cb, hash, w₂, hcb, hhash, hcall, rfl⟩ := dispatchAccept_ok h
  have hcalm : Keeps (Calm T c) (cb.onAccept post) :=
    Keeps.calm fun n => (callsKeep hT (n + 1) _ cb hcb n n.lt_succ_self).1 post
  obtain ⟨hcount, hreceipt⟩ := hcalm.of_ok hcall
  refine ⟨?_, fun hor => hreceipt ?_⟩
  · show (w₂.trace ++ [Trace.accepted post true]).countP (acceptedOk T c) = _
    rw [List.countP_append, ← acceptances, hcount]
    simp [underReceipt, acceptances, acceptedOk, isOne]
  · show (Function.update w.host.requestReceipts hash (some signer) c).isSome
    by_cases heq : c = hash
    · rw [heq, Function.update_self]
      rfl
    · rw [Function.update_of_ne heq]
      exact hor.resolve_right (by simp [isOne, hhash, Ne.symm heq])

theorem accepts_message (hT : ModulesKeep T (Behaves T c)) {msg : Message} (htimeout : timeoutsListed T c msg = 0)
    {res : MessageResult} (h : (handleIncomingMessage T msg).run w = (.ok res, w')) (hok : res.AllOk) :
    Accepts T c (requestsListed T c msg) w w' ∧ (0 < requestsListed T c msg → w.host.requestReceipts c = none) := by
  obtain hzero | hpos := Nat.eq_zero_or_pos (requestsListed T c msg)
  · have hcalm := (Keeps.calm fun n => calm_message (callsKeep hT n) ⟨hzero, htimeout⟩).of_ok h
    rw [hzero]
    exact ⟨.of_quiet hcalm.1 hcalm.2, fun hpos => absurd hpos (lt_irrefl 0)⟩
  · match msg with
    | .request m =>
      obtain ⟨hchecks, results, hbatch, rfl⟩ := handleRequest_ok h
      refine ⟨?_, fun _ => ?_⟩
      · rw [requestsListed, timesListed, List.map_map]
        refine collect_ok_sum (fun _ => .of_quiet rfl id) Counts.add (fun post _ v b v' hrun hb => ?_) hok hbatch
        obtain ⟨event, rfl⟩ := hb
        exact accepts_dispatchAccept hT (acceptResult_ok hrun)
      · obtain ⟨post, hpost, hhash⟩ := List.mem_map.mp (timesListed_pos.mp hpos)
        obtain ⟨c', hhash', hnone, -⟩ := checkRequest_ok (hchecks post hpost)
        obtain rfl : c = c' := Option.some.inj (hhash.symm.trans hhash')
        exact hnone

theorem accepted_in_one_batch (hT : ModulesKeep T (Behaves T c)) {handled : List Message}
    (hrun : Handled T (Behaves T c) w₀ handled w) (htimeouts : ∀ msg ∈ handled, timeoutsListed T c msg = 0) :
    acceptances T c w = acceptances T c w₀ + (handled.map (requestsListed T c)).sum ∧
      ((handled.map (requestsListed T c)).sum = 0 ∨ (w.host.requestReceipts c).isSome ∧
        ∃ msg ∈ handled, (handled.map (requestsListed T c)).sum = requestsListed T c msg) := by
  refine hrun.invariant (P := fun handled w => (∀ msg ∈ handled, timeoutsListed T c msg = 0) →
    acceptances T c w = acceptances T c w₀ + (handled.map (requestsListed T c)).sum ∧
      ((handled.map (requestsListed T c)).sum = 0 ∨ (w.host.requestReceipts c).isSome ∧
        ∃ msg ∈ handled, (handled.map (requestsListed T c)).sum = requestsListed T c msg)) ?_ ?_ ?_ htimeouts
  · exact fun _ => ⟨rfl, .inl rfl⟩
  · intro handled msg v res v' hbefore hmessage hok htimeouts
    rw [List.forall_mem_append, List.forall_mem_singleton] at htimeouts
    obtain ⟨hcount, hone⟩ := hbefore htimeouts.1
    obtain ⟨⟨hcount', hreceipt⟩, hfresh⟩ := accepts_message hT htimeouts.2 hmessage hok
    rw [List.map_append, List.sum_append, List.map_singleton, List.sum_singleton]
    refine ⟨by omega, ?_⟩
    obtain hzero | hpos := Nat.eq_zero_or_pos (requestsListed T c msg)
    · rw [hzero, Nat.add_zero]
      refine hone.imp id ?_
      rintro ⟨hsome, first, hfirst, hsum⟩
      exact ⟨hreceipt (.inl hsome), first, List.mem_append_left _ hfirst, hsum⟩
    · have hsum : (handled.map (requestsListed T c)).sum = 0 := by
        refine hone.resolve_right ?_
        rintro ⟨hsome, -⟩
        rw [hfresh hpos] at hsome
        cases hsome
      exact .inr ⟨hreceipt (.inr hpos), msg, by simp, by omega⟩
  · intro handled v v' hbefore hstep htimeouts
    obtain ⟨hcount, hone⟩ := hbefore htimeouts
    obtain ⟨-, hcount', hreceipt⟩ := calm_behaves (callsKeep hT _) hstep le_rfl
    exact ⟨hcount'.trans hcount, hone.imp id fun h => ⟨hreceipt h.1, h.2⟩⟩

/-- In every run of successful calls without a timeout of a request with commitment `c`, whose callbacks do not deliver
it themselves, `on_accept` succeeds at most once for `c` exactly if no request message lists it twice. -/
theorem accepted_at_most_once_iff (hT : ModulesKeep T (Behaves T c)) {handled : List Message}
    (hrun : Handled T (Behaves T c) w₀ handled w) (htimeouts : ∀ msg ∈ handled, timeoutsListed T c msg = 0) :
    acceptances T c w ≤ acceptances T c w₀ + 1 ↔ ∀ msg ∈ handled, requestsListed T c msg ≤ 1 := by
  obtain ⟨hcount, hone⟩ := accepted_in_one_batch hT hrun htimeouts
  constructor
  · intro honce msg hmsg
    have hle : requestsListed T c msg ≤ (handled.map (requestsListed T c)).sum :=
      List.single_le_sum (fun _ _ => Nat.zero_le _) _ (List.mem_map_of_mem hmsg)
    omega
  · intro hlisted
    obtain hzero | ⟨-, msg, hmsg, hsum⟩ := hone
    · omega
    · have hle := hlisted msg hmsg
      omega

def sampleRequest : PostRequest where
  source := .polkadot 2000
  dest := .polkadot 3367
  nonce := 0
  fromModule := [1]
  toModule := [2]
  timeoutTimestamp := 0
  body := [3]

def sampleCommitment : H256 :=
  BytesN.ofNat 32 0xaa8d6e65ea9773a4a25ba1c94062b986fdeb16548fe19c01ea0cafd70d0c540c

def sampleKeccak (b : Bytes) : H256 :=
  if (Request.post sampleRequest).encode = some b then sampleCommitment else BytesN.zero 32

def sampleCommitmentOf (p : PostRequest) : H256 := sampleDigest ((Request.post p).encode.getD [])

/-- A client that knows of one commitment. -/
def committedClient (keccak256 : Bytes → H256) (c : H256) : StateMachineClient Unit where
  verifyMembership _ items _ _ :=
    match items with
    | .request requests =>
        if requests.all fun r => hashRequest keccak256 r = some c then .ok ()
        else .error (.custom "Every key in a membership proof should have a value")
    | .response _ => .error (.custom "Every key in a membership proof should have a value")
  receiptsStateTrieKey _ := []
  verifyStateProof _ _ _ _ := .error (.custom "Error reading state proof")

def sampleConsensusId : ConsensusStateId := ⟨[80, 65, 82, 65], rfl⟩

/-- A host that tracks one state machine. -/
def trackingConfig (host tracked : StateMachine) (keccak256 : Bytes → H256)
    (client : StateMachineClient Unit) : Config Unit where
  hostStateMachine := host
  coprocessor := none
  keccak256 := keccak256
  consensusClients :=
    [{ consensusClientId := sampleConsensusId
       verifyConsensus := fun _ _ _ _ => .error (.custom "no consensus proof")
       verifyFraudProof := fun _ _ _ _ => .error (.custom "no fraud proof")
       stateMachine := fun id =>
         if id = tracked then .ok client else .error (.custom "unsupported state machine") }]
  router _ := .ok ⟨fun _ => pure (), fun _ => pure (), fun _ => pure ()⟩
  relayerFeeAccount := []
  transfer _ _ _ _ := .ok ()
  mmrPush _ _ := (⟨0, 0⟩, ())

def sampleConfig : Config Unit :=
  trackingConfig (.polkadot 3367) (.polkadot 2000) sampleKeccak (committedClient sampleKeccak sampleCommitment)

/-- A client that finds every message sent and none received. -/
def silentClient {Other : Type} : StateMachineClient Other where
  verifyMembership _ _ _ _ := .ok ()
  receiptsStateTrieKey _ := []
  verifyStateProof _ keys _ _ := .ok (keys.map fun key => (key, none))

def runtimeConfig {Other : Type} (host tracked : StateMachine) (client : StateMachineClient Other)
    (transfer : Bytes → Bytes → Nat → Other → Except String Other) : Config Other where
  hostStateMachine := host
  coprocessor := none
  keccak256 := sampleDigest
  consensusClients :=
    [{ consensusClientId := sampleConsensusId
       verifyConsensus := fun _ _ _ _ => .error (.custom "no consensus proof")
       verifyFraudProof := fun _ _ _ _ => .error (.custom "no fraud proof")
       stateMachine := fun id =>
         if id = tracked then .ok client else .error (.custom "unsupported state machine") }]
  router _ := .ok ⟨fun _ => pure (), fun _ => pure (), fun _ => pure ()⟩
  relayerFeeAccount := asBytes "ISMPFEES"
  transfer := transfer
  mmrPush _ other := (⟨0, 0⟩, other)

def trackingHost (height : StateMachineHeight) (state : StateCommitment) (now : Duration) : Host Unit where
  requestCommitments _ := none
  responseCommitments _ := none
  requestReceipts _ := none
  responseReceipts _ := none
  responded _ := false
  stateCommitments height' := if height' = height then some state else none
  stateMachineUpdateTime height' := if height' = height then some 11 else none
  latestStateMachineHeight _ := some 1
  challengePeriod _ := some 0
  consensusStates _ := none
  consensusStateClient id := if id = sampleConsensusId then some sampleConsensusId else none
  consensusClientUpdateTime _ := none
  unbondingPeriod _ := none
  frozenConsensusClients _ := false
  nonce := 0
  now := now
  other := ()

def sampleHeight : StateMachineHeight := ⟨⟨.polkadot 2000, sampleConsensusId⟩, 1⟩

def sampleHost : Host Unit := trackingHost sampleHeight ⟨10, none, BytesN.zero 32⟩ 12000000000

def atTime {Other : Type} (now : Duration) (w : World Other) : World Other := ⟨{ w.host with now := now }, w.trace⟩

def sampleMessage (requests : List PostRequest) : Message := .request ⟨requests, ⟨sampleHeight, []⟩, [7]⟩

theorem sampleConfig_modulesKeep : ModulesKeep sampleConfig (Behaves sampleConfig sampleCommitment) := by
  intro id m hm
  obtain rfl := (Except.ok.inj hm).symm
  exact ⟨fun _ w _ => .done w, fun _ w _ => .done w, fun _ w _ => .done w⟩

theorem sample_handled {requests : List PostRequest} {events : List Event}
    (h : ((handleMessages sampleConfig [sampleMessage requests]).run ⟨sampleHost, []⟩).1 = .ok events) :
    Handled sampleConfig (Behaves sampleConfig sampleCommitment) ⟨sampleHost, []⟩ [sampleMessage requests]
      ((handleMessages sampleConfig [sampleMessage requests]).run ⟨sampleHost, []⟩).2 :=
  .handle [_] events .start (Prod.ext h rfl)

theorem accepted_at_most_once_iff_sample :
    acceptances sampleConfig sampleCommitment
      ((handleMessages sampleConfig [sampleMessage [sampleRequest]]).run ⟨sampleHost, []⟩).2 ≤ 1 := by
  have hcall : ((handleMessages sampleConfig [sampleMessage [sampleRequest]]).run ⟨sampleHost, []⟩).1 =
      .ok [.postRequestHandled sampleCommitment [7]] := by decide +kernel
  exact (accepted_at_most_once_iff sampleConfig_modulesKeep (sample_handled hcall) (by decide +kernel)).mpr
    (by decide +kernel)

/-- Listed twice in one batch, the request is accepted twice by one successful call. -/
theorem duplicate_in_batch_accepted_twice :
    ∃ w, Handled sampleConfig (Behaves sampleConfig sampleCommitment) ⟨sampleHost, []⟩
        [sampleMessage [sampleRequest, sampleRequest]] w ∧
      ModulesKeep sampleConfig (Behaves sampleConfig sampleCommitment) ∧
      (∀ t, .timingOut t ∉ w.trace) ∧ acceptances sampleConfig sampleCommitment w = 2 := by
  have htrace : ((handleMessages sampleConfig [sampleMessage [sampleRequest, sampleRequest]]).run
      ⟨sampleHost, []⟩).2.trace =
      [.accepting sampleRequest false, .accepted sampleRequest true,
        .accepting sampleRequest true, .accepted sampleRequest true] := by decide +kernel
  have hcall : ((handleMessages sampleConfig [sampleMessage [sampleRequest, sampleRequest]]).run ⟨sampleHost, []⟩).1 =
      .ok [.postRequestHandled sampleCommitment [7], .postRequestHandled sampleCommitment [7]] := by decide +kernel
  refine ⟨_, sample_handled hcall, sampleConfig_modulesKeep, ?_, ?_⟩
  · intro t ht
    rw [htrace] at ht
    simp at ht
  · rw [acceptances, htrace]
    decide +kernel

end Hyperbridge.Ismp
