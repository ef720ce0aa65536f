import Hyperbridge.Ismp.Frame

/-!
# What a successful call went through

Inversion of the handlers: when a handler returned, its checks passed in the world it started from, and what
is left of it is the loop over the items of the batch.
-/

namespace Hyperbridge.Ismp

open Lib Exec

variable {Other : Type} {T : Config Other} {w w' : World Other}

variable {proven : StateMachine}

theorem checkRequest_ok {post : PostRequest}
    (h : (checkRequest T proven post).run w = (.ok (), w')) :
    ∃ c, hashRequest T.keccak256 (.post post) = some c ∧ w.host.requestReceipts c = none ∧
      w.host.now < (Request.post post).timeout ∧
      (post.dest = T.hostStateMachine ∨ isRouter T = true) ∧ provenOn T post.source proven = true := by
  simp only [checkRequest, requestHash_bind_ok, gets_bind_run, throwIf_bind_ok, throwIf_ok] at h
  obtain ⟨c, hhash, hnew, htime, hdest, hproven, -⟩ := h
  refine ⟨c, hhash, ?_, ?_, ?_, ?_⟩
  · simpa using hnew
  · simpa [Request.timedOut] using htime
  · by_cases hd : post.dest = T.hostStateMachine
    · exact .inl hd
    · right
      simpa [Request.destChain, hd] using hdest
  · simpa [Request.sourceChain] using hproven

theorem checkResponse_ok {response : Response}
    (h : (checkResponse T proven response).run w = (.ok (), w')) :
    ∃ c, hashRequest T.keccak256 response.request = some c ∧ (w.host.requestCommitments c).isSome ∧
      w.host.responseReceipts c = none := by
  rw [checkResponse, requestHash_bind_ok] at h
  obtain ⟨c, hhash, h⟩ := h
  rw [gets_bind_run, throwIf_bind_ok, throwIf_bind_ok] at h
  obtain ⟨hsome, hnone, -⟩ := h
  refine ⟨c, hhash, ?_, ?_⟩
  · simpa [Option.isSome_iff_ne_none] using hsome
  · simpa using hnone

theorem checkGetRequest_ok {req : Request} {get : GetRequest}
    (h : (checkGetRequest T proven req).run w = (.ok get, w')) :
    req = .get get ∧ ∃ c, hashRequest T.keccak256 req = some c ∧ (w.host.requestCommitments c).isSome ∧
      w.host.responseReceipts c = none := by
  cases req with
  | post post => cases h
  | get get' =>
    rw [checkGetRequest, gets_bind_run, throwIf_bind_ok, throwIf_bind_ok, requestHash_bind_ok] at h
    obtain ⟨-, -, c, hhash, h⟩ := h
    rw [gets_bind_run, throwIf_bind_ok, throwIf_bind_ok] at h
    obtain ⟨hsome, hnone, h⟩ := h
    obtain ⟨hget, -⟩ := Prod.mk.inj h
    refine ⟨congrArg Request.get (Outcome.ok.inj hget), c, hhash, ?_, ?_⟩
    · simpa [Option.isSome_iff_ne_none] using hsome
    · simpa using hnone

variable {request : Request}

/-- Its time has passed. -/
theorem checkTimedOut_ok {time : Duration}
    (h : (checkTimedOut T time request).run w = (.ok (), w')) :
    ∃ c, hashRequest T.keccak256 request = some c ∧ (w.host.requestCommitments c).isSome ∧
      request.timeout ≤ time := by
  simp only [checkTimedOut, requestHash_bind_ok, gets_bind_run, throwIf_bind_ok, throwIf_ok] at h
  obtain ⟨c, hhash, hsome, htime, -⟩ := h
  refine ⟨c, hhash, ?_, ?_⟩
  · simpa [Option.isSome_iff_ne_none] using hsome
  · simpa [Request.timedOut] using htime

variable {state : StateCommitment}

theorem checkRequestTimeout_ok (h : (checkRequestTimeout T proven state request).run w = (.ok (), w')) :
    provenOn T request.destChain proven = true ∧ ∃ c, hashRequest T.keccak256 request = some c ∧
      (w.host.requestCommitments c).isSome ∧ request.timeout ≤ state.time := by
  rw [checkRequestTimeout, throwIf_bind_ok] at h
  exact ⟨by simpa using h.1, checkTimedOut_ok h.2⟩

theorem checkResponseTimeout_eq {response : PostResponse} :
    checkResponseTimeout T proven state response = (do
      throwIf (!provenOn T response.destChain proven) (.responseProxyProhibited (.ofResponse (.post response)))
      let commitment ← responseHash T (.post response)
      let known ← gets fun w => w.host.responseCommitments commitment
      throwIf known.isNone (.unknownResponse (.ofResponse (.post response)))
      throwIf (decide (state.time < response.timeout))
        (.requestTimeoutNotElapsed (.ofResponse (.post response)) response.timeout state.time)) := rfl

theorem responseChecks_ok {proxied late : Bool} {e₁ e₂ e₃ : Error} {r : Response}
    (h : (do
      throwIf proxied e₁
      let commitment ← responseHash T r
      let known ← gets fun w => w.host.responseCommitments commitment
      throwIf known.isNone e₂
      throwIf late e₃ : Pallet Other Unit).run w = (.ok (), w')) :
    proxied = false ∧ ∃ c, hashResponse T.keccak256 r = some c ∧
      (w.host.responseCommitments c).isSome ∧ late = false := by
  simp only [throwIf_bind_ok, responseHash_bind_ok, gets_bind_run, throwIf_ok] at h
  obtain ⟨hproxied, c, hhash, hsome, hlate, -⟩ := h
  refine ⟨hproxied, c, hhash, ?_, hlate⟩
  simpa [Option.isSome_iff_ne_none] using hsome

theorem checkResponseTimeout_ok {response : PostResponse}
    (h : (checkResponseTimeout T proven state response).run w = (.ok (), w')) :
    provenOn T response.destChain proven = true ∧ ∃ c, hashPostResponse T.keccak256 response = some c ∧
      (w.host.responseCommitments c).isSome ∧ response.timeout ≤ state.time := by
  rw [checkResponseTimeout_eq] at h
  obtain ⟨hproven, c, hhash, hsome, hlate⟩ := responseChecks_ok h
  exact ⟨by simpa using hproven, c, hhash, hsome, Nat.le_of_not_lt (of_decide_eq_false hlate)⟩

theorem validateStateMachine_ok {height : StateMachineHeight} {h : Host Other} {sm : StateMachineClient Other}
    (hv : validateStateMachine T height h = .ok sm) :
    ∃ client ∈ T.consensusClients, client.stateMachine height.id.stateId = .ok sm := by
  simp only [validateStateMachine, except_bind_ok] at hv
  obtain ⟨clientId, -, client, hclient, _, -, passed, -, hv⟩ := hv
  cases passed with
  | false =>
    obtain ⟨updateTime, -, herr⟩ := except_bind_ok.mp hv
    cases herr
  | true => exact ⟨client, List.mem_of_find?_eq_some (okOr_eq_ok.mp hclient), hv⟩

variable {res : MessageResult}

theorem handleRequest_ok {msg : RequestMessage}
    (h : (handleRequest T msg).run w = (.ok res, w')) :
    (∀ post ∈ msg.requests, (checkRequest T msg.proof.height.id.stateId post).run w = (.ok (), w)) ∧
      ∃ results, (collect (acceptResult T msg.signer) msg.requests).run w = (.ok results, w') ∧
        res = .request results := by
  rw [handleRequest, reads_bind_ok] at h
  obtain ⟨sm, -, h⟩ := h
  obtain ⟨_, w₁, hchecks, h⟩ := bind_ok.mp h
  obtain ⟨rfl, hcheck⟩ := (forEach_ok_of_readOnly fun _ => keeps_checkRequest _ _).mp hchecks
  simp only [reads_bind_ok] at h
  obtain ⟨state, -, _, -, h⟩ := h
  obtain ⟨results, hcollect, hres⟩ := bind_pure_ok.mp h
  exact ⟨hcheck, results, hcollect, hres⟩

theorem handleResponse_response_ok {msg : ResponseMessage} {responses : List Response}
    (hdatagram : msg.datagram = .response responses) (h : (handleResponse T msg).run w = (.ok res, w')) :
    (∀ r ∈ responses, (checkResponse T msg.proof.height.id.stateId r).run w = (.ok (), w)) ∧
      ∃ results, (collect (dispatchResponse T msg.signer) responses).run w = (.ok results, w') ∧
        res = .response results := by
  simp only [handleResponse, reads_bind_ok, hdatagram] at h
  obtain ⟨sm, -, state, -, h⟩ := h
  obtain ⟨_, w₁, hchecks, h⟩ := bind_ok.mp h
  obtain ⟨rfl, hcheck⟩ := (forEach_ok_of_readOnly fun _ => keeps_checkResponse _ _).mp hchecks
  obtain ⟨_, -, h⟩ := reads_bind_ok.mp h
  obtain ⟨results, hcollect, hres⟩ := bind_pure_ok.mp h
  exact ⟨hcheck, results, hcollect, hres⟩

variable {requests : List Request}

theorem handleResponse_request_ok {msg : ResponseMessage}
    (hdatagram : msg.datagram = .request requests) (h : (handleResponse T msg).run w = (.ok res, w')) :
    ∃ sm state gets results, requests = gets.map .get ∧
      (∀ get ∈ gets, (checkGetRequest T msg.proof.height.id.stateId (.get get)).run w = (.ok get, w)) ∧
      (collect (dispatchGet T sm state msg.proof msg.signer) gets).run w = (.ok results, w') ∧
      res = .response results := by
  simp only [handleResponse, reads_bind_ok, hdatagram] at h
  obtain ⟨sm, -, state, -, h⟩ := h
  obtain ⟨gets, w₁, hchecks, h⟩ := bind_ok.mp h
  obtain ⟨rfl, hall⟩ := collect_ok_of_readOnly (fun _ => keeps_checkGetRequest _ _) hchecks
  obtain ⟨-, h⟩ := throwIf_bind_ok.mp h
  obtain ⟨results, hcollect, hres⟩ := bind_pure_ok.mp h
  have hget : List.Forall₂ (fun req get => req = .get get ∧
      (checkGetRequest T msg.proof.height.id.stateId (.get get)).run w = (.ok get, w)) requests gets := by
    refine hall.imp fun req get hcheck => ?_
    obtain ⟨rfl, -⟩ := checkGetRequest_ok hcheck
    exact ⟨rfl, hcheck⟩
  refine ⟨sm, state, gets, results, ?_, fun get hmem => ?_, hcollect, hres⟩
  · rw [← List.forall₂_eq_eq_eq, List.forall₂_map_right_iff]
    exact hget.imp fun _ _ h => h.1
  · obtain ⟨req, -, -, hcheck⟩ := forall₂_mem hget.flip hmem
    exact hcheck

def Proven {α : Type} (T : Config Other) (w : World Other) (proof : Proof) (messages : RequestResponse)
    (check : StateCommitment → α → Pallet Other Unit) (items : List α) : Prop :=
  ∃ sm state values, validateStateMachine T proof.height w.host = .ok sm ∧
    w.host.stateCommitments proof.height = some state ∧ (∀ a ∈ items, (check state a).run w = (.ok (), w)) ∧
    sm.verifyStateProof w.host (sm.receiptsStateTrieKey messages) state proof = .ok values ∧
    (values.any fun kv => kv.2.isSome) = false

theorem provenBatch_ok_iff {α : Type} {check : StateCommitment → α → Pallet Other Unit}
    (hcheck : ∀ state a, Keeps Eq (check state a)) {items : List α} {proof : Proof} {messages : RequestResponse}
    {error : Error} {turns : Pallet Other (List (Except Error Event))} :
    (do
      let stateMachine ← reads (validateStateMachine T proof.height)
      let state ← reads fun h => h.stateMachineCommitment proof.height
      forEach (check state) items
      let values ← reads fun h => stateMachine.verifyStateProof h
        (stateMachine.receiptsStateTrieKey messages) state proof
      throwIf (values.any fun kv => kv.2.isSome) error
      let results ← turns
      pure (.timeout results) : Pallet Other MessageResult).run w = (.ok res, w') ↔
    Proven T w proof messages check items ∧ ∃ results, turns.run w = (.ok results, w') ∧ res = .timeout results := by
  simp only [reads_bind_ok, Host.stateMachineCommitment, okOr_eq_ok]
  constructor
  · rintro ⟨sm, hsm, state, hstate, h⟩
    obtain ⟨_, w₁, hchecks, h⟩ := bind_ok.mp h
    obtain ⟨rfl, hall⟩ := (forEach_ok_of_readOnly (hcheck state)).mp hchecks
    simp only [reads_bind_ok, throwIf_bind_ok, bind_pure_ok] at h
    obtain ⟨values, hvalues, hnone, hturns⟩ := h
    exact ⟨⟨sm, state, values, hsm, hstate, hall, hvalues, hnone⟩, hturns⟩
  · rintro ⟨⟨sm, state, values, hsm, hstate, hall, hvalues, hnone⟩, hturns⟩
    refine ⟨sm, hsm, state, hstate, bind_ok.mpr ⟨(), w, (forEach_ok_of_readOnly (hcheck state)).mpr ⟨rfl, hall⟩, ?_⟩⟩
    simp only [reads_bind_ok, throwIf_bind_ok, bind_pure_ok]
    exact ⟨values, hvalues, hnone, hturns⟩

theorem handleMessages_ok {messages : List Message} {events : List Event}
    (h : (handleMessages T messages).run w = (.ok events, w')) :
    ∃ results, (collect (handleIncomingMessage T) messages).run w = (.ok results, w') ∧
      (results.map MessageResult.results).flatten = events.map .ok := by
  have hrun := mapErr_ok.mp h
  obtain ⟨results, w₁, hcollect, hevents⟩ := bind_ok.mp hrun
  obtain ⟨hresults, rfl⟩ := ofExcept_ok.mp hevents
  exact ⟨results, hcollect, eq_map_of_collectResults hresults⟩

/-- Every item has succeeded. -/
def MessageResult.AllOk (res : MessageResult) : Prop := ∀ x ∈ res.results, ∃ event, x = .ok event

theorem handleMessages_allOk {messages : List Message} {events : List Event}
    (h : (handleMessages T messages).run w = (.ok events, w')) :
    ∃ results, (collect (handleIncomingMessage T) messages).run w = (.ok results, w') ∧
      ∀ res ∈ results, res.AllOk := by
  obtain ⟨results, hcollect, hevents⟩ := handleMessages_ok h
  refine ⟨results, hcollect, fun res hres x hx => ?_⟩
  have hmem : x ∈ (results.map MessageResult.results).flatten :=
    List.mem_flatten.mpr ⟨_, List.mem_map_of_mem hres, hx⟩
  rw [hevents] at hmem
  obtain ⟨event, -, rfl⟩ := List.mem_map.mp hmem
  exact ⟨event, rfl⟩

inductive Handled (T : Config Other) (R : World Other → World Other → Prop) (w₀ : World Other) :
    List Message → World Other → Prop
  | start : Handled T R w₀ [] w₀
  | handle {handled : List Message} {w w' : World Other} (messages : List Message) (events : List Event)
      (run : Handled T R w₀ handled w) (hcall : (handleMessages T messages).run w = (.ok events, w')) :
      Handled T R w₀ (handled ++ messages) w'
  | elsewhere {handled : List Message} {w w' : World Other} (run : Handled T R w₀ handled w) (hstep : R w w') :
      Handled T R w₀ handled w'

theorem Handled.invariant {R : World Other → World Other → Prop} {w₀ : World Other}
    {P : List Message → World Other → Prop} (hstart : P [] w₀)
    (hmessage : ∀ handled msg v res v', P handled v → (handleIncomingMessage T msg).run v = (.ok res, v') → res.AllOk →
      P (handled ++ [msg]) v')
    (helsewhere : ∀ handled v v', P handled v → R v v' → P handled v') {handled : List Message}
    (hrun : Handled T R w₀ handled w) : P handled w := by
  induction hrun with
  | start => exact hstart
  | handle messages events _ hcall ih =>
    obtain ⟨results, hcollect, hok⟩ := handleMessages_allOk hcall
    exact collect_ok_invariant hmessage hok hcollect ih
  | elsewhere _ hstep ih => exact helsewhere _ _ _ ih hstep

section Accept

variable {signer : Bytes} {post : PostRequest} {cb : IsmpModule Other} {c : H256}

def underReceipt (w : World Other) (signer : Bytes) (post : PostRequest) (c : H256) : World Other :=
  ⟨{ w.host with requestReceipts := Function.update w.host.requestReceipts c (some signer) },
    w.trace ++ [.accepting post (w.host.requestReceipts c).isSome]⟩

theorem dispatchAccept_run (hcb : moduleForId T post.toModule = .ok cb)
    (hpost : hashRequest T.keccak256 (.post post) = some c) (signer : Bytes) (w : World Other) :
    (dispatchAccept T signer post).run w = (do
      let r ← attempt (cb.onAccept post)
      note (.accepted post r.isOk)
      settleAccept T signer post c r : Pallet Other _).run (underReceipt w signer post c) := by
  simp only [dispatchAccept, storeRequestReceipt, requestHash, hcb, hpost]
  rfl

theorem dispatchAccept_ok {event : Event}
    (h : (dispatchAccept T signer post).run w = (.ok (.ok event), w')) :
    ∃ cb c w₂, moduleForId T post.toModule = .ok cb ∧ hashRequest T.keccak256 (.post post) = some c ∧
      (cb.onAccept post).run (underReceipt w signer post c) = (.ok (), w₂) ∧
      w' = ⟨w₂.host, w₂.trace ++ [.accepted post true]⟩ := by
  have hbinds := h
  rw [dispatchAccept, ofExcept_bind_ok] at hbinds
  obtain ⟨cb, hcb, hbinds⟩ := hbinds
  obtain ⟨c, hpost, -⟩ := requestHash_bind_ok.mp hbinds
  rw [dispatchAccept_run hcb hpost, bind_run, attempt_run] at h
  rcases hrun : (cb.onAccept post).run (underReceipt w signer post c) with ⟨u | e | m, w₂⟩ <;>
    rw [hrun] at h
  · obtain ⟨-, rfl⟩ := Prod.mk.inj h
    exact ⟨cb, c, w₂, hcb, hpost, hrun, rfl⟩
  · -- a failed callback is never reported as a success
    obtain ⟨_, _, _, hend⟩ := bind_ok.mp (bind_ok.mp h).choose_spec.choose_spec.2
    cases hend
  · cases h

theorem acceptResult_ok {event : Event} (h : (acceptResult T signer post).run w = (.ok (.ok event), w')) :
    (dispatchAccept T signer post).run w = (.ok (.ok event), w') := by
  rw [acceptResult, bind_run, attempt_run] at h
  rcases hrun : (dispatchAccept T signer post).run w with ⟨a | e | m, w₁⟩ <;> rw [hrun] at h
  · obtain ⟨ha, rfl⟩ := Prod.mk.inj h
    rw [Outcome.ok.inj ha]
  · cases (Outcome.ok.inj (Prod.mk.inj h).1)
  · cases (Prod.mk.inj h).1

end Accept

theorem dispatchResponseTo_ok {moduleId signer : Bytes} {receipt response : Response} {event : Pallet Other Event}
    {e : Event} (hevent : Keeps Eq event)
    (h : (dispatchResponseTo T moduleId signer receipt response event).run w = (.ok (.ok e), w')) :
    ∃ cb c stored rc w₂, moduleForId T moduleId = .ok cb ∧ hashRequest T.keccak256 receipt.request = some c ∧
      (cb.onResponse response).run
        ⟨{ w.host with responseReceipts := Function.update w.host.responseReceipts c (some ⟨rc, signer⟩) },
          w.trace ++ [.responding response stored]⟩ = (.ok (), w₂) ∧
      w' = ⟨w₂.host, w₂.trace ++ [.responded response true]⟩ := by
  obtain ⟨cb, hcb, h⟩ := ofExcept_bind_ok.mp h
  obtain ⟨_, -, h⟩ := requestHash_bind_ok.mp h
  rw [gets_bind_run, note, modify_bind_run] at h
  obtain ⟨_, w₁, hstore, h⟩ := bind_ok.mp h
  obtain ⟨c, hc, hstore⟩ := requestHash_bind_ok.mp hstore
  obtain ⟨rc, -, hstore⟩ := responseHash_bind_ok.mp hstore
  obtain ⟨-, rfl⟩ := Prod.mk.inj hstore
  obtain ⟨r, w₂, hcall, h⟩ := bind_ok.mp h
  rw [note, modify_bind_run] at h
  rw [attempt_run] at hcall
  rcases hrun : (cb.onResponse response).run _ with ⟨u | e | m, w₃⟩ <;> rw [hrun] at hcall
  · obtain ⟨rfl, rfl⟩ := pure_ok.mp hcall
    obtain ⟨_, hev, -⟩ := bind_pure_ok.mp h
    obtain rfl := hevent.of_ok hev
    exact ⟨cb, c, _, rc, w₃, hcb, hc, hrun, rfl⟩
  · -- a failed callback is never reported as a success
    obtain ⟨rfl, rfl⟩ := pure_ok.mp hcall
    obtain ⟨_, _, -, hend⟩ := bind_ok.mp h
    cases hend
  · cases hcall

section Timeout

variable {timeout : Timeout} {cb inner : IsmpModule Other} {request : Request} {response : PostResponse}

/-- The fee found under the commitment of a message. -/
def recordedFee (T : Config Other) (h : Host Other) : Timeout → Option FeeMetadata
  | .request r => (hashRequest T.keccak256 r).bind fun c => (h.requestCommitments c).map (·.fee)
  | .response r => (hashResponse T.keccak256 (.post r)).bind fun c => (h.responseCommitments c).map (·.fee)

theorem feeOf_ok {fee : Option FeeMetadata} (h : (feeOf T timeout).run w = (.ok fee, w')) :
    fee = recordedFee T w.host timeout ∧ w' = w := by
  cases timeout with
  | request r =>
    obtain ⟨c, hc, h⟩ := requestHash_bind_ok.mp h
    obtain ⟨hfee, rfl⟩ := Prod.mk.inj h
    rw [recordedFee, hc]
    exact ⟨(Outcome.ok.inj hfee).symm, rfl⟩
  | response r =>
    obtain ⟨c, hc, h⟩ := responseHash_bind_ok.mp h
    obtain ⟨hfee, rfl⟩ := Prod.mk.inj h
    rw [recordedFee, hc]
    exact ⟨(Outcome.ok.inj hfee).symm, rfl⟩

/-- A fee above zero goes to its payer. -/
def PaysBack (T : Config Other) (w w' : World Other) : Option FeeMetadata → Prop
  | some fee => if 0 < fee.fee then
      ∃ other, T.transfer T.relayerFeeAccount fee.payer fee.fee w.host.other = .ok other ∧
        w' = ⟨{ w.host with other := other }, w.trace⟩
      else w' = w
  | none => w' = w

theorem transferFee_ok {source target : Bytes} {amount : Nat} {u : Unit}
    (h : (transferFee T source target amount).run w = (.ok u, w')) :
    ∃ other, T.transfer source target amount w.host.other = .ok other ∧
      w' = ⟨{ w.host with other := other }, w.trace⟩ := by
  obtain ⟨other, hother, h⟩ := reads_bind_ok.mp h
  obtain ⟨-, rfl⟩ := Prod.mk.inj h
  cases htransfer : T.transfer source target amount w.host.other with
  | ok other' =>
    rw [htransfer] at hother
    obtain rfl := Except.ok.inj hother
    exact ⟨other', rfl, rfl⟩
  | error e =>
    rw [htransfer] at hother
    cases hother

theorem refundingModule_ok (h : ((refundingModule T inner).onTimeout timeout).run w = (.ok (), w')) :
    ∃ w₁, (inner.onTimeout timeout).run w = (.ok (), w₁) ∧ PaysBack T w₁ w' (recordedFee T w₁.host timeout) := by
  obtain ⟨_, w₁, hinner, h⟩ := bind_ok.mp h
  obtain ⟨fee, w₂, hfee, h⟩ := bind_ok.mp h
  obtain ⟨rfl, rfl⟩ := feeOf_ok hfee
  refine ⟨w₂, hinner, ?_⟩
  cases hrecorded : recordedFee T w₂.host timeout with
  | none =>
    rw [hrecorded] at h
    exact (Prod.mk.inj h).2.symm
  | some fee =>
    rw [hrecorded] at h
    unfold PaysBack
    dsimp only at h ⊢
    split at h
    · rw [if_pos (by assumption)]
      exact transferFee_ok h
    · rw [if_neg (by assumption)]
      exact (Prod.mk.inj h).2.symm

theorem callTimeout_bind_run {α : Type} (k : Except Error Unit → Pallet Other α) (w : World Other) :
    (callTimeout cb timeout >>= k).run w = (do
      let res ← attempt (cb.onTimeout timeout)
      note (.timedOut timeout res.isOk)
      k res : Pallet Other α).run ⟨w.host, w.trace ++ [.timingOut timeout]⟩ := by
  rw [bind_run, callTimeout, note, modify_bind_run, bind_run, bind_run]
  rcases (attempt (cb.onTimeout timeout)).run _ with ⟨_ | _ | _, u⟩ <;> rfl

variable {metadata : RequestMetadata} {c q : H256}

theorem deleteRequestCommitment_ok :
    (deleteRequestCommitment T request).run w = (.ok metadata, w') ↔ ∃ c, hashRequest T.keccak256 request = some c ∧
      w.host.requestCommitments c = some metadata ∧
      w' = ⟨{ w.host with requestCommitments := Function.update w.host.requestCommitments c none }, w.trace⟩ := by
  rw [deleteRequestCommitment, requestHash_bind_ok]
  simp only [reads_bind_ok, okOr_eq_ok]
  constructor
  · rintro ⟨c, hc, metadata', hmetadata, h⟩
    obtain ⟨rfl, rfl⟩ := pure_ok.mp h
    exact ⟨c, hc, hmetadata, rfl⟩
  · rintro ⟨c, hc, hmetadata, rfl⟩
    exact ⟨c, hc, metadata, hmetadata, rfl⟩

theorem deleteResponseCommitment_ok :
    (deleteResponseCommitment T response).run w = (.ok metadata, w') ↔ ∃ q c,
      hashRequest T.keccak256 response.request = some q ∧ hashResponse T.keccak256 (.post response) = some c ∧
      w.host.responseCommitments c = some metadata ∧ w' = ⟨{ w.host with
        responseCommitments := Function.update w.host.responseCommitments c none
        responded := Function.update w.host.responded q false }, w.trace⟩ := by
  rw [deleteResponseCommitment, requestHash_bind_ok]
  simp only [responseHash_bind_ok, reads_bind_ok, okOr_eq_ok]
  constructor
  · rintro ⟨q, hq, c, hc, metadata', hmetadata, h⟩
    obtain ⟨rfl, rfl⟩ := pure_ok.mp h
    exact ⟨q, c, hq, hc, hmetadata, rfl⟩
  · rintro ⟨q, c, hq, hc, hmetadata, rfl⟩
    exact ⟨q, hq, c, hc, metadata, hmetadata, rfl⟩

theorem takeRequestReceipt_run (hc : hashRequest T.keccak256 request = some c) (routed : Bool) :
    (takeReceipt routed (deleteRequestReceipt T request)).run w =
      (.ok (if routed then w.host.requestReceipts c else none), ⟨{ w.host with
        requestReceipts :=
          if routed then Function.update w.host.requestReceipts c none else w.host.requestReceipts }, w.trace⟩) := by
  cases routed with
  | false => rfl
  | true =>
    simp only [takeReceipt, optional_run, deleteRequestReceipt, requestHash, hc, reads, if_true]
    cases hreceipt : w.host.requestReceipts c with
    | some relayer => simp [bind_run, expect, query_run, hreceipt, okOr, writes]
    | none =>
      rw [← hreceipt, Function.update_eq_self, hreceipt]
      simp [bind_run, expect, query_run, hreceipt, okOr]

theorem takeResponseReceipt_run (hq : hashRequest T.keccak256 response.request = some q) (routed : Bool) :
    (takeReceipt routed (deleteResponseReceipt T (.post response))).run w =
      (.ok (if routed then (w.host.responseReceipts q).map (·.relayer) else none), ⟨{ w.host with
        responseReceipts :=
          if routed then Function.update w.host.responseReceipts q none else w.host.responseReceipts }, w.trace⟩) := by
  have hrequest : hashRequest T.keccak256 (Response.post response).request = some q := hq
  cases routed with
  | false => rfl
  | true =>
    simp only [takeReceipt, optional_run, deleteResponseReceipt, requestHash, hrequest, reads, if_true]
    cases hreceipt : w.host.responseReceipts q with
    | some receipt => simp [bind_run, expect, query_run, hreceipt, okOr, writes]
    | none =>
      rw [← hreceipt, Function.update_eq_self, hreceipt]
      simp [bind_run, expect, query_run, hreceipt, okOr]

def underTimeout (w : World Other) (request : Request) (c : H256) (routed : Bool) : World Other :=
  ⟨{ w.host with
      requestCommitments := Function.update w.host.requestCommitments c none
      requestReceipts :=
        if routed then Function.update w.host.requestReceipts c none else w.host.requestReceipts },
    w.trace ++ [.timingOut (.request request)]⟩

def underResponseTimeout (w : World Other) (response : PostResponse) (c q : H256) (routed : Bool) : World Other :=
  ⟨{ w.host with
      responseCommitments := Function.update w.host.responseCommitments c none
      responded := Function.update w.host.responded q false
      responseReceipts :=
        if routed then Function.update w.host.responseReceipts q none else w.host.responseReceipts },
    w.trace ++ [.timingOut (.response response)]⟩

def timeOut (T : Config Other) (receipts : Bool) : Timeout → Pallet Other (Except Error Event)
  | .request r => if receipts then dispatchRequestTimeout T r else dispatchGetTimeout T r
  | .response r => dispatchResponseTimeout T r

namespace Timeout

def sourceModule : Timeout → Bytes
  | .request r => r.sourceModule
  | .response r => r.sourceModule

/-- The world in which the callback starts. -/
def under (T : Config Other) (receipts : Bool) (w : World Other) : Timeout → Option (World Other)
  | .request r => (hashRequest T.keccak256 r).map fun c => underTimeout w r c (receipts && isRouted T r.sourceChain)
  | .response p => do
      let q ← hashRequest T.keccak256 p.request
      let c ← hashResponse T.keccak256 (.post p)
      some (underResponseTimeout w p c q (isRouted T p.sourceChain))

def taken (T : Config Other) (receipts : Bool) (h : Host Other) : Timeout → Option (RequestMetadata × Option Bytes)
  | .request r => do
      let c ← hashRequest T.keccak256 r
      (h.requestCommitments c).map fun metadata =>
        (metadata, if receipts && isRouted T r.sourceChain then h.requestReceipts c else none)
  | .response p => do
      let q ← hashRequest T.keccak256 p.request
      let c ← hashResponse T.keccak256 (.post p)
      (h.responseCommitments c).map fun metadata =>
        (metadata, if isRouted T p.sourceChain then (h.responseReceipts q).map (·.relayer) else none)

/-- What is left to do after the callback. -/
def settle (T : Config Other) (receipts : Bool) (taken : RequestMetadata × Option Bytes) (res : Except Error Unit) :
    Timeout → Pallet Other (Except Error Event)
  | .request r =>
      if receipts then settleRequestTimeout T r taken.1 taken.2 res else settleGetTimeout T r taken.1 res
  | .response p => settleResponseTimeout T p taken.1 taken.2 res

end Timeout

variable {receipts : Bool} {u u' : World Other} {taken : RequestMetadata × Option Bytes} {res : Except Error Unit}
  {x : Except Error Event}

theorem other_under (hu : timeout.under T receipts w = some u) : u.host.other = w.host.other := by
  cases timeout with
  | request r =>
    obtain ⟨c, -, rfl⟩ := Option.map_eq_some_iff.mp hu
    rfl
  | response p =>
    obtain ⟨q, -, hu⟩ := Option.bind_eq_some_iff.mp hu
    obtain ⟨c, -, hu⟩ := Option.bind_eq_some_iff.mp hu
    rw [← Option.some.inj hu]
    rfl

theorem recordedFee_under (hu : timeout.under T receipts w = some u) : recordedFee T u.host timeout = none := by
  cases timeout with
  | request r =>
    obtain ⟨c, hc, rfl⟩ := Option.map_eq_some_iff.mp hu
    rw [recordedFee, hc]
    show (Function.update w.host.requestCommitments c none c).map (·.fee) = none
    rw [Function.update_self]
    rfl
  | response p =>
    obtain ⟨q, hq, hu⟩ := Option.bind_eq_some_iff.mp hu
    obtain ⟨c, hc, hu⟩ := Option.bind_eq_some_iff.mp hu
    rw [← Option.some.inj hu, recordedFee, hc]
    show (Function.update w.host.responseCommitments c none c).map (·.fee) = none
    rw [Function.update_self]
    rfl

theorem taken_request (hc : hashRequest T.keccak256 request = some c) (h : Host Other) :
    (Timeout.request request).taken T receipts h = (h.requestCommitments c).map fun m =>
      (m, if receipts && isRouted T request.sourceChain then h.requestReceipts c else none) := by
  rw [Timeout.taken, hc]
  rfl

theorem taken_response (hq : hashRequest T.keccak256 response.request = some q)
    (hc : hashResponse T.keccak256 (.post response) = some c) (h : Host Other) :
    (Timeout.response response).taken T receipts h = (h.responseCommitments c).map fun m =>
      (m, if isRouted T response.sourceChain then (h.responseReceipts q).map (·.relayer) else none) := by
  rw [Timeout.taken, hq, hc]
  rfl

theorem timeOut_begins (h : (timeOut T receipts timeout).run w = (.ok x, w')) :
    ∃ cb u taken, moduleForId T timeout.sourceModule = .ok cb ∧ timeout.under T receipts w = some u ∧
      timeout.taken T receipts w.host = some taken := by
  cases timeout with
  | request r =>
    have hbegun : ∃ cb metadata v, moduleForId T r.sourceModule = .ok cb ∧
        (deleteRequestCommitment T r).run w = (.ok metadata, v) := by
      cases receipts with
      | true | false =>
        obtain ⟨cb, hcb, h⟩ := ofExcept_bind_ok.mp h
        obtain ⟨metadata, v, hdelete, -⟩ := bind_ok.mp h
        exact ⟨cb, metadata, v, hcb, hdelete⟩
    obtain ⟨cb, metadata, v, hcb, hdelete⟩ := hbegun
    obtain ⟨c, hc, hmetadata, -⟩ := deleteRequestCommitment_ok.mp hdelete
    exact ⟨cb, _, _, hcb, by rw [Timeout.under, hc]; rfl, by rw [taken_request hc, hmetadata]; rfl⟩
  | response p =>
    obtain ⟨cb, hcb, h⟩ := ofExcept_bind_ok.mp h
    obtain ⟨metadata, v, hdelete, -⟩ := bind_ok.mp h
    obtain ⟨q, c, hq, hc, hmetadata, -⟩ := deleteResponseCommitment_ok.mp hdelete
    exact ⟨cb, _, _, hcb, by rw [Timeout.under, hq, hc]; rfl, by rw [taken_response hq hc, hmetadata]; rfl⟩

theorem timeOut_run (hcb : moduleForId T timeout.sourceModule = .ok cb) (hu : timeout.under T receipts w = some u)
    (htaken : timeout.taken T receipts w.host = some taken) :
    (timeOut T receipts timeout).run w = (do
      let res ← attempt (cb.onTimeout timeout)
      note (.timedOut timeout res.isOk)
      timeout.settle T receipts taken res : Pallet Other _).run u := by
  cases timeout with
  | request r =>
    obtain ⟨c, hc, rfl⟩ := Option.map_eq_some_iff.mp hu
    rw [taken_request hc] at htaken
    obtain ⟨metadata, hmetadata, rfl⟩ := Option.map_eq_some_iff.mp htaken
    have hdelete := deleteRequestCommitment_ok.mpr ⟨c, hc, hmetadata, rfl⟩
    have hcb' : moduleForId T r.sourceModule = .ok cb := hcb
    cases receipts with
    | true =>
      show (dispatchRequestTimeout T r).run w = _
      rw [dispatchRequestTimeout, hcb']
      show (deleteRequestCommitment T r >>= _).run w = _
      rw [bind_run, hdelete]
      show (takeReceipt _ _ >>= _).run _ = _
      rw [bind_run, takeRequestReceipt_run hc]
      exact callTimeout_bind_run _ _
    | false =>
      show (dispatchGetTimeout T r).run w = _
      rw [dispatchGetTimeout, hcb']
      show (deleteRequestCommitment T r >>= _).run w = _
      rw [bind_run, hdelete]
      exact callTimeout_bind_run _ _
  | response p =>
    obtain ⟨q, hq, hu⟩ := Option.bind_eq_some_iff.mp hu
    obtain ⟨c, hc, hu⟩ := Option.bind_eq_some_iff.mp hu
    obtain rfl := Option.some.inj hu
    rw [taken_response hq hc] at htaken
    obtain ⟨metadata, hmetadata, rfl⟩ := Option.map_eq_some_iff.mp htaken
    have hcb' : moduleForId T p.sourceModule = .ok cb := hcb
    show (dispatchResponseTimeout T p).run w = _
    rw [dispatchResponseTimeout, hcb']
    show (deleteResponseCommitment T p >>= _).run w = _
    rw [bind_run, deleteResponseCommitment_ok.mpr ⟨q, c, hq, hc, hmetadata, rfl⟩]
    show (takeReceipt _ _ >>= _).run _ = _
    rw [bind_run, takeResponseReceipt_run hq]
    exact callTimeout_bind_run _ _

theorem timeOut_ok (h : (timeOut T receipts timeout).run w = (.ok x, w')) :
    ∃ cb u taken res u', moduleForId T timeout.sourceModule = .ok cb ∧ timeout.under T receipts w = some u ∧
      timeout.taken T receipts w.host = some taken ∧ (attempt (cb.onTimeout timeout)).run u = (.ok res, u') ∧
      (timeout.settle T receipts taken res).run ⟨u'.host, u'.trace ++ [.timedOut timeout res.isOk]⟩ = (.ok x, w') := by
  obtain ⟨cb, u, taken, hcb, hu, htaken⟩ := timeOut_begins h
  rw [timeOut_run hcb hu htaken, bind_ok] at h
  obtain ⟨res, u', hcall, h⟩ := h
  exact ⟨cb, u, taken, res, u', hcb, hu, htaken, hcall, h⟩

/-- The entries of a request are back. -/
def restoredRequest (h : Host Other) (c : H256) (m : RequestMetadata) (signer : Option Bytes) : Host Other :=
  { h with
    requestCommitments := Function.update h.requestCommitments c (some m)
    requestReceipts := if signer.isSome then Function.update h.requestReceipts c signer else h.requestReceipts }

def restoredResponse (h : Host Other) (c q : H256) (m : RequestMetadata) (signer : Option Bytes) : Host Other :=
  { h with
    responseCommitments := Function.update h.responseCommitments c (some m)
    responded := Function.update h.responded q true
    responseReceipts :=
      if signer.isSome then Function.update h.responseReceipts q (signer.map fun s => ⟨c, s⟩) else h.responseReceipts }

def Timeout.restored (T : Config Other) (h : Host Other) (taken : RequestMetadata × Option Bytes) :
    Timeout → Option (Host Other)
  | .request r => (hashRequest T.keccak256 r).map fun c => restoredRequest h c taken.1 taken.2
  | .response p => do
      let q ← hashRequest T.keccak256 p.request
      let c ← hashResponse T.keccak256 (.post p)
      some (restoredResponse h c q taken.1 taken.2)

/-- A failed callback restores what was taken. -/
theorem settle_run (htaken : timeout.taken T receipts w.host = some taken) (res : Except Error Unit) (u : World Other) :
    ∃ x h', (timeout.settle T receipts taken res).run u = (.ok x, ⟨h', u.trace⟩) ∧ x.isOk = res.isOk ∧
      (if res.isOk then some u.host else timeout.restored T u.host taken) = some h' := by
  cases timeout with
  | request r =>
    obtain ⟨c, hc, htaken⟩ := Option.bind_eq_some_iff.mp htaken
    obtain ⟨metadata, -, rfl⟩ := Option.map_eq_some_iff.mp htaken
    cases res with
    | ok _ =>
      cases receipts with
      | true => exact ⟨_, _, by simp only [Timeout.settle, settleRequestTimeout, requestHash, hc]; rfl, rfl, rfl⟩
      | false => exact ⟨_, _, by simp only [Timeout.settle, settleGetTimeout, requestHash, hc]; rfl, rfl, rfl⟩
    | error e =>
      refine ⟨.error e, _, ?_, rfl, congrArg (Option.map _) hc⟩
      cases receipts with
      | true =>
        simp only [Timeout.settle, settleRequestTimeout, storeRequestCommitment, requestHash, hc, Bool.true_and]
        cases isRouted T r.sourceChain with
        | false => rfl
        | true =>
          cases w.host.requestReceipts c with
          | none => rfl
          | some signer =>
            simp only [if_true, restoreReceipt, storeRequestReceipt, requestHash, hc]
            rfl
      | false =>
        simp only [Timeout.settle, settleGetTimeout, storeRequestCommitment, requestHash, hc]
        rfl
  | response p =>
    obtain ⟨q, hq, htaken⟩ := Option.bind_eq_some_iff.mp htaken
    obtain ⟨c, hc, htaken⟩ := Option.bind_eq_some_iff.mp htaken
    obtain ⟨metadata, -, rfl⟩ := Option.map_eq_some_iff.mp htaken
    have hrequest : hashRequest T.keccak256 (Response.post p).request = some q := hq
    cases res with
    | ok _ => exact ⟨_, _, by simp only [Timeout.settle, settleResponseTimeout, responseHash, hc]; rfl, rfl, rfl⟩
    | error e =>
      refine ⟨.error e, _, ?_, rfl, by rw [Timeout.restored, hq, hc]; rfl⟩
      simp only [Timeout.settle, settleResponseTimeout, storeResponseCommitment, responseHash, requestHash, hc, hq]
      cases isRouted T p.sourceChain with
      | false => rfl
      | true =>
        cases w.host.responseReceipts q with
        | none => rfl
        | some receipt =>
          simp only [if_true, restoreReceipt, Option.map_some, storeResponseReceipt, requestHash, responseHash,
            hc, hrequest]
          rfl

variable {event : Event}

theorem timedOut_ok (h : (timeOut T receipts timeout).run w = (.ok (.ok event), w')) :
    ∃ inner u taken u', T.router timeout.sourceModule = .ok inner ∧ timeout.under T receipts w = some u ∧
      timeout.taken T receipts w.host = some taken ∧ ((refundingModule T inner).onTimeout timeout).run u =
        (.ok (), u') ∧
      w' = ⟨u'.host, u'.trace ++ [.timedOut timeout true]⟩ := by
  obtain ⟨cb, u, taken, res, u', hcb, hu, htaken, hcall, h⟩ := timeOut_ok h
  obtain ⟨inner, hinner, rfl⟩ := moduleForId_ok hcb
  obtain ⟨x, h', hrun, hx, hend⟩ := settle_run htaken res ⟨u'.host, u'.trace ++ [.timedOut timeout res.isOk]⟩
  obtain ⟨rfl, rfl⟩ := pure_ok.mp (hrun.symm.trans h)
  rw [attempt_run] at hcall
  rcases hreturn : ((refundingModule T inner).onTimeout timeout).run u with ⟨_ | e | m, u₁⟩ <;> rw [hreturn] at hcall
  · obtain ⟨rfl, rfl⟩ := pure_ok.mp hcall
    obtain rfl := Option.some.inj hend
    exact ⟨inner, u, taken, u₁, hinner, hu, htaken, hreturn, rfl⟩
  · obtain ⟨rfl, rfl⟩ := pure_ok.mp hcall
    cases hx
  · cases hcall

def TimedOut (T : Config Other) (request : Request) (routed : Bool) (w w' : World Other) : Prop :=
  ∃ inner c w₂, T.router request.sourceModule = .ok inner ∧ hashRequest T.keccak256 request = some c ∧
    (w.host.requestCommitments c).isSome ∧
    ((refundingModule T inner).onTimeout (.request request)).run (underTimeout w request c routed) = (.ok (), w₂) ∧
    w' = ⟨w₂.host, w₂.trace ++ [.timedOut (.request request) true]⟩

theorem requestTimeout_ok (h : (timeOut T receipts (.request request)).run w = (.ok (.ok event), w')) :
    TimedOut T request (receipts && isRouted T request.sourceChain) w w' := by
  obtain ⟨inner, u, taken, u', hinner, hu, htaken, hcall, hend⟩ := timedOut_ok h
  obtain ⟨c, hc, rfl⟩ := Option.map_eq_some_iff.mp hu
  rw [taken_request hc] at htaken
  obtain ⟨metadata, hmetadata, -⟩ := Option.map_eq_some_iff.mp htaken
  exact ⟨inner, c, u', hinner, hc, Option.isSome_of_eq_some hmetadata, hcall, hend⟩

end Timeout

/-- Whether its handler looks at receipts. -/
def TimeoutMessage.receipts : TimeoutMessage → Bool
  | post .. => true
  | postResponse .. => true
  | get _ => false

def TimeoutMessage.timeouts : TimeoutMessage → List Timeout
  | post requests _ => requests.map .request
  | postResponse responses _ => responses.map .response
  | get requests => requests.map .request

/-- The checks of a timeout message. -/
def Passes (T : Config Other) (w : World Other) : TimeoutMessage → Prop
  | .post requests proof =>
      Proven T w proof (.request requests) (checkRequestTimeout T proof.height.id.stateId) requests
  | .postResponse responses proof =>
      Proven T w proof (.response (responses.map .post)) (checkResponseTimeout T proof.height.id.stateId) responses
  | .get requests => ∀ r ∈ requests, (checkTimedOut T w.host.now r).run w = (.ok (), w)

theorem collect_map {α β γ : Type} (f : β → Pallet Other γ) (g : α → β) (as : List α) :
    collect f (as.map g) = collect (fun a => f (g a)) as := by
  induction as with
  | nil => rfl
  | cons a as ih => rw [List.map_cons, collect, collect, ih]

theorem handleTimeout_ok_iff : (handleTimeout T msg).run w = (.ok res, w') ↔ Passes T w msg ∧
    ∃ results, (collect (timeOut T msg.receipts) msg.timeouts).run w = (.ok results, w') ∧ res = .timeout results := by
  cases msg with
  | post requests proof =>
    rw [TimeoutMessage.timeouts, collect_map]
    exact provenBatch_ok_iff fun _ _ => keeps_checkRequestTimeout _ _ _
  | postResponse responses proof =>
    rw [TimeoutMessage.timeouts, collect_map]
    exact provenBatch_ok_iff fun _ _ => keeps_checkResponseTimeout _ _ _
  | get requests =>
    have hreads {w₁ : World Other} : (forEach (checkTimedOut T w.host.now) requests).run w = (.ok (), w₁) ↔
      w = w₁ ∧ _ :=
      forEach_ok_of_readOnly fun _ => keeps_checkTimedOut _ _
    rw [handleTimeout, gets_bind_run, bind_ok, TimeoutMessage.timeouts, collect_map]
    constructor
    · rintro ⟨_, w₁, hchecks, h⟩
      obtain ⟨rfl, hall⟩ := hreads.mp hchecks
      exact ⟨hall, bind_pure_ok.mp h⟩
    · rintro ⟨hall, hturns⟩
      exact ⟨(), w, hreads.mpr ⟨rfl, hall⟩, bind_pure_ok.mpr hturns⟩

/-- The request is committed to. -/
def withCommitment (T : Config Other) (w : World Other) (request : Request) (fee : FeeMetadata) (c : H256) :
    World Other :=
  ⟨{ w.host with
      other := (T.mmrPush (.request request) w.host.other).2
      requestCommitments := Function.update w.host.requestCommitments c
        (some ⟨(T.mmrPush (.request request) w.host.other).1, fee, false⟩) }, w.trace⟩

theorem commitRequest_ok {fee : FeeMetadata} {c : H256} :
    (commitRequest T request fee).run w = (.ok c, w') ↔ hashRequest T.keccak256 request = some c ∧
      w.host.requestCommitments c = none ∧ w' = withCommitment T w request fee c := by
  rw [commitRequest, requestHash_bind_ok]
  simp only [gets_bind_run, throwIf_bind_ok, Option.isSome_eq_false_iff, Option.isNone_iff_eq_none]
  constructor
  · rintro ⟨c', hhash, hnew, hrun⟩
    obtain ⟨rfl, rfl⟩ := pure_ok.mp hrun
    exact ⟨hhash, hnew, rfl⟩
  · rintro ⟨hhash, hnew, rfl⟩
    exact ⟨c, hhash, hnew, rfl⟩

end Hyperbridge.Ismp
