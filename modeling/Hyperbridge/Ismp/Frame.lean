import Hyperbridge.Ismp.Pallet

/-!
# What a call of `handle_messages` can change

The checks of a batch change nothing, a consensus message changes only the consensus side of the storage, and everything
else is changed while one item of a batch is delivered or timed out. So a relation between the worlds before and after
is kept by every call if it is kept by consensus steps and by the items (`keeps_handleRequest` and its likes,
`keeps_handleMessages`).
-/

namespace Hyperbridge.Ismp

open Lib Exec

variable {Other : Type} {T : Config Other} {R : World Other → World Other → Prop}
  [IsPreorder (World Other) R]

theorem keeps_reads {α : Type} (f : Host Other → Except Error α) : Keeps R (reads f : Pallet Other α) :=
  Keeps.query _

theorem keeps_requestHash (r : Request) : Keeps R (requestHash T r) := Keeps.expect _ _

theorem keeps_responseHash (r : Response) : Keeps R (responseHash T r) := Keeps.expect _ _

variable {β : Type} {b : β} {w w' : World Other}

omit [IsPreorder (World Other) R] in
theorem reads_bind_ok {α : Type} {f : Host Other → Except Error α} {k : α → Pallet Other β} :
    (reads f >>= k).run w = (.ok b, w') ↔
      ∃ a, f w.host = .ok a ∧ (k a).run w = (.ok b, w') := query_bind_ok

omit [IsPreorder (World Other) R] in
theorem requestHash_bind_ok {r : Request} {k : H256 → Pallet Other β} : (requestHash T r >>= k).run w = (.ok b, w') ↔
      ∃ c, hashRequest T.keccak256 r = some c ∧ (k c).run w = (.ok b, w') := expect_bind_ok

omit [IsPreorder (World Other) R] in
theorem responseHash_bind_ok {r : Response} {k : H256 → Pallet Other β} : (responseHash T r >>= k).run w = (.ok b, w') ↔
      ∃ c, hashResponse T.keccak256 r = some c ∧ (k c).run w = (.ok b, w') := expect_bind_ok

variable (proven : StateMachine)

theorem keeps_checkRequest (post : PostRequest) : Keeps R (checkRequest T proven post) := by
  refine (keeps_requestHash _).bind fun c => (Keeps.gets _).bind fun receipt => ?_
  refine (Keeps.throwIf _ _).bind fun _ => (Keeps.gets _).bind fun now => ?_
  exact (Keeps.throwIf _ _).bind fun _ => (Keeps.throwIf _ _).bind fun _ => Keeps.throwIf _ _

theorem keeps_checkResponse (response : Response) : Keeps R (checkResponse T proven response) := by
  refine (keeps_requestHash _).bind fun c => (Keeps.gets _).bind fun h => ?_
  refine (Keeps.throwIf _ _).bind fun _ => (Keeps.throwIf _ _).bind fun _ => ?_
  exact (Keeps.throwIf _ _).bind fun _ => Keeps.throwIf _ _

theorem keeps_checkGetRequest (req : Request) : Keeps R (checkGetRequest T proven req) := by
  cases req with
  | post p => exact Keeps.throw _
  | get g =>
    refine (Keeps.gets _).bind fun now => (Keeps.throwIf _ _).bind fun _ => ?_
    refine (Keeps.throwIf _ _).bind fun _ => (keeps_requestHash _).bind fun c => ?_
    refine (Keeps.gets _).bind fun h => (Keeps.throwIf _ _).bind fun _ => ?_
    exact (Keeps.throwIf _ _).bind fun _ => Keeps.pure _

theorem keeps_checkTimedOut (time : Duration) (request : Request) : Keeps R (checkTimedOut T time request) := by
  refine (keeps_requestHash _).bind fun c => (Keeps.gets _).bind fun known => ?_
  exact (Keeps.throwIf _ _).bind fun _ => Keeps.throwIf _ _

theorem keeps_checkRequestTimeout (state : StateCommitment) (request : Request) :
    Keeps R (checkRequestTimeout T proven state request) :=
  (Keeps.throwIf _ _).bind fun _ => keeps_checkTimedOut _ _

theorem keeps_checkResponseTimeout (state : StateCommitment)
    (response : PostResponse) : Keeps R (checkResponseTimeout T proven state response) := by
  refine (Keeps.throwIf _ _).bind fun _ => (keeps_responseHash _).bind fun c => ?_
  exact (Keeps.gets _).bind fun known => (Keeps.throwIf _ _).bind fun _ => Keeps.throwIf _ _

structure ConsensusStep (w w' : World Other) : Prop where
  requestCommitments : w'.host.requestCommitments = w.host.requestCommitments
  responseCommitments : w'.host.responseCommitments = w.host.responseCommitments
  requestReceipts : w'.host.requestReceipts = w.host.requestReceipts
  responseReceipts : w'.host.responseReceipts = w.host.responseReceipts
  responded : w'.host.responded = w.host.responded
  nonce : w'.host.nonce = w.host.nonce
  now : w'.host.now = w.host.now
  other : w'.host.other = w.host.other
  trace : w'.trace = w.trace
  stateCommitments : ∀ height s, w.host.stateCommitments height = some s →
    w'.host.stateCommitments height = some s

instance : IsPreorder (World Other) ConsensusStep where
  refl _ := ⟨rfl, rfl, rfl, rfl, rfl, rfl, rfl, rfl, rfl, fun _ _ h => h⟩
  trans _ _ _ hab hbc :=
    ⟨hbc.1.trans hab.1, hbc.2.trans hab.2, hbc.3.trans hab.3, hbc.4.trans hab.4, hbc.5.trans hab.5,
      hbc.6.trans hab.6, hbc.7.trans hab.7, hbc.8.trans hab.8, hbc.9.trans hab.9,
      fun height s h => hbc.10 height s (hab.10 height s h)⟩

structure UpdateStep (id : ConsensusStateId) (w w' : World Other) : Prop extends ConsensusStep w w' where
  frozen : w'.host.frozenConsensusClients = w.host.frozenConsensusClients
  states : ∀ c, c ≠ id → w'.host.consensusStates c = w.host.consensusStates c
  commitments : ∀ height, height.id.consensusStateId ≠ id →
    w'.host.stateCommitments height = w.host.stateCommitments height

instance (id : ConsensusStateId) : IsPreorder (World Other) (UpdateStep id) where
  refl w := ⟨refl_of ConsensusStep w, rfl, fun _ _ => rfl, fun _ _ => rfl⟩
  trans _ _ _ hab hbc :=
    ⟨trans_of ConsensusStep hab.1 hbc.1, hbc.2.trans hab.2, fun c hc => (hbc.3 c hc).trans (hab.3 c hc),
      fun height hheight => (hbc.4 height hheight).trans (hab.4 height hheight)⟩

theorem updateStep_storeCommitments (id : StateMachineId) (previousLatest : UInt64)
    (cs : List StateCommitmentHeight) (last : Option UInt64) :
    Keeps (UpdateStep id.consensusStateId) (storeCommitments id previousLatest cs last : Pallet Other _) := by
  induction cs generalizing last with
  | nil => exact Keeps.pure _
  | cons c cs ih =>
    intro w
    simp only [storeCommitments, gets_bind_run]
    split
    · exact ih last w
    · rename_i hnew
      intro hret
      refine trans_of (UpdateStep id.consensusStateId) ?_ (ih (some c.height) _ hret)
      refine ⟨⟨rfl, rfl, rfl, rfl, rfl, rfl, rfl, rfl, rfl, fun height s hs => ?_⟩, rfl, fun _ _ => rfl,
        fun height hid =>
        Function.update_of_ne (by rintro rfl; exact hid rfl) ..⟩
      have hne : height ≠ ⟨id, c.height⟩ := by
        rintro rfl
        simp [hs] at hnew
      show Function.update w.host.stateCommitments _ _ height = some s
      rw [Function.update_of_ne hne, hs]

/-- An update touches its own client only. -/
theorem updateStep_updateClient (msg : ConsensusMessage) :
    Keeps (UpdateStep msg.consensusStateId) (updateClient T msg) := by
  refine (keeps_reads _).bind fun verified => Keeps.bind (Keeps.modify fun w => ?_) fun _ => ?_
  · exact ⟨⟨rfl, rfl, rfl, rfl, rfl, rfl, rfl, rfl, rfl, fun _ _ h => h⟩, rfl, fun c hc =>
      Function.update_of_ne hc .., fun _ _ => rfl⟩
  · refine (Keeps.collect fun entry _ => ?_).bind fun _ => Keeps.pure _
    refine (Keeps.gets _).bind fun previous => (updateStep_storeCommitments ⟨entry.1, _⟩ _ _ _).bind fun last => ?_
    cases last with
    | none => exact Keeps.pure _
    | some latest =>
      refine Keeps.bind (Keeps.modify fun w => ?_) fun _ => Keeps.pure _
      exact ⟨⟨rfl, rfl, rfl, rfl, rfl, rfl, rfl, rfl, rfl, fun _ _ h => h⟩, rfl, fun _ _ => rfl, fun _ _ => rfl⟩

theorem consensusStep_updateClient (msg : ConsensusMessage) : Keeps ConsensusStep (updateClient T msg) :=
  (updateStep_updateClient msg).mono fun _ _ h => h.1

theorem consensusStep_freezeClient (msg : FraudProofMessage) : Keeps ConsensusStep (freezeClient T msg) := by
  refine (keeps_reads _).bind fun _ => Keeps.bind (Keeps.modify fun w => ?_) fun _ => Keeps.pure _
  exact ⟨rfl, rfl, rfl, rfl, rfl, rfl, rfl, rfl, rfl, fun _ _ h => h⟩

def ModulesKeep (T : Config Other) (R : World Other → World Other → Prop) : Prop :=
  ∀ id m, T.router id = .ok m →
    (∀ r, Keeps R (m.onAccept r)) ∧ (∀ r, Keeps R (m.onResponse r)) ∧ ∀ t, Keeps R (m.onTimeout t)

omit [IsPreorder (World Other) R] in
theorem moduleForId_ok {id : Bytes} {cb : IsmpModule Other} (h : moduleForId T id = .ok cb) :
    ∃ inner, T.router id = .ok inner ∧ cb = refundingModule T inner := by
  unfold moduleForId at h
  cases hr : T.router id with
  | error e =>
    rw [hr] at h
    cases h
  | ok inner =>
    rw [hr] at h
    exact ⟨inner, rfl, (Except.ok.inj h).symm⟩

omit [IsPreorder (World Other) R] in
theorem ModulesKeep.mono {R' : World Other → World Other → Prop} (h : ModulesKeep T R)
    (hmono : ∀ w w', R w w' → R' w w') : ModulesKeep T R' := by
  intro id m hm
  obtain ⟨haccept, hresponse, htimeout⟩ := h id m hm
  exact ⟨fun r => (haccept r).mono hmono, fun r => (hresponse r).mono hmono, fun t => (htimeout t).mono hmono⟩

theorem keeps_feeOf (t : Timeout) : Keeps R (feeOf T t) := by
  cases t with
  | request r => exact (keeps_requestHash _).bind fun _ => keeps_reads _
  | response r => exact (keeps_responseHash _).bind fun _ => keeps_reads _

theorem keeps_refundingModule {inner : IsmpModule Other} {t : Timeout} (hinner : Keeps R (inner.onTimeout t))
    (hother : ∀ (w : World Other) (other : Other), R w ⟨{ w.host with other := other }, w.trace⟩) :
    Keeps R ((refundingModule T inner).onTimeout t) := by
  refine hinner.bind fun _ => (keeps_feeOf t).bind fun fee => ?_
  cases fee with
  | none => exact Keeps.pure _
  | some fee =>
    show Keeps R (if 0 < fee.fee then transferFee T _ _ _ else pure ())
    split
    · exact (keeps_reads _).bind fun other => Keeps.modify fun w => hother w other
    · exact Keeps.pure _

/-- The callbacks, with the refund of a timeout. -/
theorem keeps_callbacks (hT : ModulesKeep T R)
    (hother : ∀ (w : World Other) (other : Other), R w ⟨{ w.host with other := other }, w.trace⟩)
    {id : Bytes} {cb : IsmpModule Other} (hcb : moduleForId T id = .ok cb) :
    (∀ r, Keeps R (cb.onAccept r)) ∧ (∀ r, Keeps R (cb.onResponse r)) ∧ ∀ t, Keeps R (cb.onTimeout t) := by
  obtain ⟨inner, hinner, rfl⟩ := moduleForId_ok hcb
  obtain ⟨haccept, hresponse, htimeout⟩ := hT id inner hinner
  exact ⟨haccept, hresponse, fun t => keeps_refundingModule (htimeout t) hother⟩

def MessageStep (w w' : World Other) : Prop :=
  w'.trace = w.trace ∧ w'.host = { w.host with
    requestCommitments := w'.host.requestCommitments
    responseCommitments := w'.host.responseCommitments
    requestReceipts := w'.host.requestReceipts
    responseReceipts := w'.host.responseReceipts
    responded := w'.host.responded }

instance : IsPreorder (World Other) MessageStep where
  refl _ := ⟨rfl, rfl⟩
  trans _ _ _ hab hbc := by
    refine ⟨hbc.1.trans hab.1, ?_⟩
    rw [hbc.2, hab.2]

def ResponseStep (w w' : World Other) : Prop :=
  w'.trace = w.trace ∧ w'.host = { w.host with
    responseCommitments := w'.host.responseCommitments
    responseReceipts := w'.host.responseReceipts
    responded := w'.host.responded }

instance : IsPreorder (World Other) ResponseStep where
  refl _ := ⟨rfl, rfl⟩
  trans _ _ _ hab hbc := by
    refine ⟨hbc.1.trans hab.1, ?_⟩
    rw [hbc.2, hab.2]

theorem ResponseStep.messageStep (w w' : World Other) (h : ResponseStep w w') : MessageStep w w' := by
  refine ⟨h.1, ?_⟩
  rw [h.2]

/-- Deleting an entry and storing one keep the relation. -/
def WritesKeep {α β : Type} (R : World Other → World Other → Prop) (delete : Pallet Other α)
    (store : β → Pallet Other Unit) : Prop := Keeps R delete ∧ ∀ b, Keeps R (store b)

omit [IsPreorder (World Other) R] in
theorem WritesKeep.mono {α β : Type} {R' : World Other → World Other → Prop} {delete : Pallet Other α}
    {store : β → Pallet Other Unit} (h : WritesKeep R delete store) (hmono : ∀ w w', R w w' → R' w w') :
    WritesKeep R' delete store :=
  ⟨h.1.mono hmono, fun b => (h.2 b).mono hmono⟩

theorem messageStep_requestReceipt (r : Request) :
    WritesKeep MessageStep (deleteRequestReceipt T r) (storeRequestReceipt T r) :=
  ⟨(keeps_requestHash r).bind fun _ => (keeps_reads _).bind fun _ =>
    Keeps.bind (Keeps.modify fun _ => ⟨rfl, rfl⟩) fun _ => Keeps.pure _,
    fun _ => (keeps_requestHash r).bind fun _ => Keeps.modify fun _ => ⟨rfl, rfl⟩⟩

theorem messageStep_requestCommitment (r : Request) :
    WritesKeep MessageStep (deleteRequestCommitment T r) (storeRequestCommitment T r) :=
  ⟨(keeps_requestHash r).bind fun _ => (keeps_reads _).bind fun _ =>
    Keeps.bind (Keeps.modify fun _ => ⟨rfl, rfl⟩) fun _ => Keeps.pure _,
    fun _ => (keeps_requestHash r).bind fun _ => Keeps.modify fun _ => ⟨rfl, rfl⟩⟩

theorem responseStep_responseReceipt (r : Response) :
    WritesKeep ResponseStep (deleteResponseReceipt T r) (storeResponseReceipt T r) :=
  ⟨(keeps_requestHash _).bind fun _ => (keeps_reads _).bind fun _ =>
    Keeps.bind (Keeps.modify fun _ => ⟨rfl, rfl⟩) fun _ => Keeps.pure _,
    fun _ => (keeps_requestHash _).bind fun _ => (keeps_responseHash r).bind fun _ => Keeps.modify fun _ => ⟨rfl, rfl⟩⟩

theorem responseStep_responseCommitment (r : PostResponse) :
    WritesKeep ResponseStep (deleteResponseCommitment T r) (storeResponseCommitment T r) :=
  ⟨(keeps_requestHash _).bind fun _ => (keeps_responseHash _).bind fun _ => (keeps_reads _).bind fun _ =>
    Keeps.bind (Keeps.modify fun _ => ⟨rfl, rfl⟩) fun _ => Keeps.pure _,
    fun _ => (keeps_responseHash _).bind fun _ => (keeps_requestHash _).bind fun _ => Keeps.modify fun _ => ⟨rfl, rfl⟩⟩

/-! ### Items

A relation that is kept by the writes of an item and by its callback, with the entries of the log around it, is kept by
the item. -/

def CallKeeps (T : Config Other) (R : World Other → World Other → Prop) (before : Bool → Trace)
    (call : IsmpModule Other → Pallet Other Unit) (after : Bool → Trace) : Prop :=
  (∀ b, Keeps R (note (before b) : Pallet Other Unit)) ∧ ∀ id cb, moduleForId T id = .ok cb →
    ∀ (α : Type) (k : Except Error Unit → Pallet Other α), (∀ r, Keeps R (k r)) →
      Keeps R (do let r ← attempt (call cb); note (after r.isOk); k r)

theorem CallKeeps.of_keeps {before after : Bool → Trace} {call : IsmpModule Other → Pallet Other Unit}
    (hnote : ∀ b, Keeps R (note (before b) : Pallet Other Unit) ∧ Keeps R (note (after b) : Pallet Other Unit))
    (hcall : ∀ id cb, moduleForId T id = .ok cb → Keeps R (call cb)) : CallKeeps T R before call after :=
  ⟨fun b => (hnote b).1, fun id cb hcb _ _ hk =>
    (hcall id cb hcb).attempt.bind fun _ => (hnote _).2.bind fun _ => hk _⟩

abbrev TimeoutKeeps (T : Config Other) (R : World Other → World Other → Prop) (t : Timeout) : Prop :=
  CallKeeps T R (fun _ => .timingOut t) (·.onTimeout t) (.timedOut t)

theorem keeps_takeReceipt {routed : Bool} {delete : Pallet Other Bytes} (hdelete : Keeps R delete) :
    Keeps R (takeReceipt routed delete) := by
  cases routed with
  | true => exact hdelete.optional
  | false => exact Keeps.pure _

theorem keeps_restoreReceipt {routed : Bool} {signer : Option Bytes} {store : Bytes → Pallet Other Unit}
    (hstore : ∀ signer, Keeps R (store signer)) : Keeps R (restoreReceipt routed signer store) := by
  cases signer with
  | none => exact Keeps.pure _
  | some signer =>
    cases routed with
    | true => exact hstore signer
    | false => exact Keeps.pure _

/-- The delivery of a request. -/
theorem keeps_dispatchAccept {signer : Bytes} {post : PostRequest}
    (hreceipt : WritesKeep R (deleteRequestReceipt T (.post post)) (storeRequestReceipt T (.post post)))
    (hcall : CallKeeps T R (.accepting post) (·.onAccept post) (.accepted post)) :
    Keeps R (dispatchAccept T signer post) := by
  refine Keeps.ofExcept_bind fun cb hcb => (keeps_requestHash _).bind fun hash => ?_
  refine (Keeps.gets _).bind fun receipt => (hcall.1 _).bind fun _ => ?_
  refine (hreceipt.2 _).bind fun _ => hcall.2 _ cb hcb _ _ fun r => ?_
  cases r with
  | ok u => exact Keeps.pure _
  | error e => exact hreceipt.1.bind fun _ => Keeps.pure _

/-- The delivery of a response. -/
theorem keeps_dispatchResponseTo {moduleId signer : Bytes} {receipt response : Response} {event : Pallet Other Event}
    (hreceipt : WritesKeep R (deleteResponseReceipt T receipt) (storeResponseReceipt T receipt))
    (hevent : Keeps Eq event)
    (hcall : CallKeeps T R (.responding response) (·.onResponse response) (.responded response)) :
    Keeps R (dispatchResponseTo T moduleId signer receipt response event) := by
  refine Keeps.ofExcept_bind fun cb hcb => (keeps_requestHash _).bind fun hash => ?_
  refine (Keeps.gets _).bind fun stored => (hcall.1 _).bind fun _ => ?_
  refine (hreceipt.2 _).bind fun _ => hcall.2 _ cb hcb _ _ fun r => ?_
  cases r with
  | ok u => exact (Keeps.of_readOnly hevent).bind fun _ => Keeps.pure _
  | error e => exact hreceipt.1.bind fun _ => Keeps.pure _

theorem keeps_callTimeout {id : Bytes} {cb : IsmpModule Other} (hcb : moduleForId T id = .ok cb) {timeout : Timeout}
    (hcall : TimeoutKeeps T R timeout) : Keeps R (callTimeout cb timeout) :=
  (hcall.1 true).bind fun _ => hcall.2 id cb hcb _ _ fun _ => Keeps.pure _

variable {request : Request} {response : PostResponse}

/-- What follows the callback of a timeout. -/
theorem keeps_settleRequestTimeout
    (hcommitment : WritesKeep R (deleteRequestCommitment T request) (storeRequestCommitment T request))
    (hstore : ∀ signer, Keeps R (storeRequestReceipt T request signer)) (metadata : RequestMetadata)
    (signer : Option Bytes) (r : Except Error Unit) : Keeps R (settleRequestTimeout T request metadata signer r) := by
  cases r with
  | ok u => exact (keeps_requestHash _).bind fun _ => Keeps.pure _
  | error e => exact (hcommitment.2 _).bind fun _ => (keeps_restoreReceipt hstore).bind fun _ => Keeps.pure _

theorem keeps_dispatchRequestTimeout
    (hcommitment : WritesKeep R (deleteRequestCommitment T request) (storeRequestCommitment T request))
    (hreceipt : WritesKeep R (deleteRequestReceipt T request) (storeRequestReceipt T request))
    (hcall : TimeoutKeeps T R (.request request)) : Keeps R (dispatchRequestTimeout T request) := by
  refine Keeps.ofExcept_bind fun cb hcb => hcommitment.1.bind fun metadata => ?_
  refine (keeps_takeReceipt hreceipt.1).bind fun signer => (keeps_callTimeout hcb hcall).bind fun r => ?_
  exact keeps_settleRequestTimeout hcommitment hreceipt.2 metadata signer r

theorem keeps_dispatchResponseTimeout
    (hcommitment : WritesKeep R (deleteResponseCommitment T response) (storeResponseCommitment T response))
    (hreceipt : WritesKeep R (deleteResponseReceipt T (.post response)) (storeResponseReceipt T (.post response)))
    (hcall : TimeoutKeeps T R (.response response)) : Keeps R (dispatchResponseTimeout T response) := by
  refine Keeps.ofExcept_bind fun cb hcb => hcommitment.1.bind fun metadata => ?_
  refine (keeps_takeReceipt hreceipt.1).bind fun signer => (keeps_callTimeout hcb hcall).bind fun r => ?_
  cases r with
  | ok u => exact (keeps_responseHash _).bind fun _ => Keeps.pure _
  | error e => exact (hcommitment.2 _).bind fun _ => (keeps_restoreReceipt hreceipt.2).bind fun _ => Keeps.pure _

theorem keeps_dispatchGetTimeout
    (hcommitment : WritesKeep R (deleteRequestCommitment T request) (storeRequestCommitment T request))
    (hcall : TimeoutKeeps T R (.request request)) : Keeps R (dispatchGetTimeout T request) := by
  refine Keeps.ofExcept_bind fun cb hcb => hcommitment.1.bind fun metadata => ?_
  refine (keeps_callTimeout hcb hcall).bind fun r => ?_
  cases r with
  | ok u => exact (keeps_requestHash _).bind fun _ => Keeps.pure _
  | error e => exact (hcommitment.2 _).bind fun _ => Keeps.pure _

theorem keeps_requestTimeouts_of_messageStep (hstep : ∀ w w' : World Other, MessageStep w w' → R w w')
    (hcall : TimeoutKeeps T R (.request request)) : Keeps R (dispatchRequestTimeout T request) ∧
      Keeps R (dispatchGetTimeout T request) := by
  have hcommitment := (messageStep_requestCommitment (T := T) request).mono hstep
  exact ⟨keeps_dispatchRequestTimeout hcommitment ((messageStep_requestReceipt _).mono hstep) hcall,
    keeps_dispatchGetTimeout hcommitment hcall⟩

theorem keeps_responseTimeout_of_responseStep (hstep : ∀ w w' : World Other, ResponseStep w w' → R w w')
    (hcall : TimeoutKeeps T R (.response response)) : Keeps R (dispatchResponseTimeout T response) :=
  keeps_dispatchResponseTimeout ((responseStep_responseCommitment _).mono hstep)
    ((responseStep_responseReceipt _).mono hstep) hcall

/-- A request message. -/
theorem keeps_handleRequest {msg : RequestMessage}
    (haccept : ∀ post ∈ msg.requests, Keeps R (dispatchAccept T msg.signer post)) :
    Keeps R (handleRequest T msg) := by
  refine (keeps_reads _).bind fun sm => ?_
  refine (Keeps.forEach fun _ _ => keeps_checkRequest _ _).bind fun _ => ?_
  refine (keeps_reads _).bind fun state => (keeps_reads _).bind fun _ => ?_
  refine (Keeps.collect fun post hpost => ?_).bind fun _ => Keeps.pure _
  refine (haccept post hpost).attempt.bind fun res => ?_
  cases res <;> exact Keeps.pure _

theorem keeps_handleResponse {msg : ResponseMessage} (hresponse : ∀ moduleId receipt response event, Keeps Eq event →
      Keeps R (dispatchResponseTo T moduleId msg.signer receipt response event)) :
    Keeps R (handleResponse T msg) := by
  refine (keeps_reads _).bind fun sm => (keeps_reads _).bind fun state => ?_
  cases msg.datagram with
  | response responses =>
    refine (Keeps.forEach fun _ _ => keeps_checkResponse _ _).bind fun _ => (keeps_reads _).bind fun _ => ?_
    refine (Keeps.collect fun response _ => ?_).bind fun _ => Keeps.pure _
    exact hresponse _ _ _ _ ((keeps_responseHash _).bind fun _ => Keeps.pure _)
  | request requests =>
    refine (Keeps.collect fun _ _ => keeps_checkGetRequest _ _).bind fun gets => ?_
    refine (Keeps.throwIf _ _).bind fun _ => ?_
    refine (Keeps.collect fun get _ => ?_).bind fun _ => Keeps.pure _
    refine (keeps_reads _).bind fun values => ?_
    exact hresponse _ _ _ _ ((keeps_requestHash _).bind fun _ => Keeps.pure _)

def TimeoutsKeep (T : Config Other) (R : World Other → World Other → Prop) : TimeoutMessage → Prop
  | .post requests _ => ∀ r ∈ requests, Keeps R (dispatchRequestTimeout T r)
  | .postResponse responses _ => ∀ r ∈ responses, Keeps R (dispatchResponseTimeout T r)
  | .get requests => ∀ r ∈ requests, Keeps R (dispatchGetTimeout T r)

/-- A timeout message. -/
theorem keeps_handleTimeout {msg : TimeoutMessage} (hitems : TimeoutsKeep T R msg) :
    Keeps R (handleTimeout T msg) := by
  cases msg with
  | post requests proof =>
    refine (keeps_reads _).bind fun sm => (keeps_reads _).bind fun state => ?_
    refine (Keeps.forEach fun _ _ => keeps_checkRequestTimeout _ _ _).bind fun _ => ?_
    refine (keeps_reads _).bind fun values => (Keeps.throwIf _ _).bind fun _ => ?_
    exact (Keeps.collect hitems).bind fun _ => Keeps.pure _
  | postResponse responses proof =>
    refine (keeps_reads _).bind fun sm => (keeps_reads _).bind fun state => ?_
    refine (Keeps.forEach fun _ _ => keeps_checkResponseTimeout _ _ _).bind fun _ => ?_
    refine (keeps_reads _).bind fun values => (Keeps.throwIf _ _).bind fun _ => ?_
    exact (Keeps.collect hitems).bind fun _ => Keeps.pure _
  | get requests =>
    refine (Keeps.gets _).bind fun now => (Keeps.forEach fun _ _ => keeps_checkTimedOut _ _).bind fun _ => ?_
    exact (Keeps.collect hitems).bind fun _ => Keeps.pure _

structure MessageBlind (R : World Other → World Other → Prop) : Prop where
  step : ∀ w w', MessageStep w w' → R w w'
  note : ∀ w t, R w ⟨w.host, w.trace ++ [t]⟩
  other : ∀ (w : World Other) (other : Other), R w ⟨{ w.host with other := other }, w.trace⟩

theorem keeps_handleIncomingMessage_of_blind (hR : MessageBlind R) (hT : ModulesKeep T R) {msg : Message}
    (hconsensus : ∀ m, msg = .consensus m → Keeps R (updateClient T m))
    (hfraud : ∀ m, msg = .fraudProof m → Keeps R (freezeClient T m)) : Keeps R (handleIncomingMessage T msg) := by
  have hresponse (w w' : World Other) (h : ResponseStep w w') : R w w' := hR.step w w' (h.messageStep w w')
  have hnote (t : Trace) : Keeps R (note t : Pallet Other Unit) := Keeps.modify fun w => hR.note w t
  have htimeout (t : Timeout) : TimeoutKeeps T R t :=
    .of_keeps (fun _ => ⟨hnote _, hnote _⟩) fun _ _ hcb => (keeps_callbacks hT hR.other hcb).2.2 t
  cases msg with
  | consensus m => exact hconsensus m rfl
  | fraudProof m => exact hfraud m rfl
  | request m =>
    exact keeps_handleRequest fun post _ => keeps_dispatchAccept ((messageStep_requestReceipt _).mono hR.step)
      (.of_keeps (fun _ => ⟨hnote _, hnote _⟩) fun _ _ hcb => (keeps_callbacks hT hR.other hcb).1 post)
  | response m =>
    exact keeps_handleResponse fun _ _ response _ hevent => keeps_dispatchResponseTo
      ((responseStep_responseReceipt _).mono hresponse) hevent
      (.of_keeps (fun _ => ⟨hnote _, hnote _⟩) fun _ _ hcb => (keeps_callbacks hT hR.other hcb).2.1 response)
  | timeout m =>
    refine keeps_handleTimeout ?_
    cases m with
    | post requests proof => exact fun r _ => (keeps_requestTimeouts_of_messageStep hR.step (htimeout _)).1
    | postResponse responses proof => exact fun r _ => keeps_responseTimeout_of_responseStep hresponse (htimeout _)
    | get requests => exact fun r _ => (keeps_requestTimeouts_of_messageStep hR.step (htimeout _)).2

theorem keeps_handleMessages {messages : List Message} (h : ∀ msg ∈ messages, Keeps R (handleIncomingMessage T msg)) :
    Keeps R (handleMessages T messages) :=
  Keeps.mapErr ((Keeps.collect h).bind fun _ => Keeps.ofExcept _)

end Hyperbridge.Ismp
