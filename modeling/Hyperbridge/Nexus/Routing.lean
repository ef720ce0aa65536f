import Hyperbridge.Nexus.Inspection

/-!
# Receipts and commitments of routed requests

A request that is routed from one chain to another has a receipt, because it was delivered here, and a commitment,
because it was forwarded. The timeout of POST requests deletes both, so that the source can be shown that it was not
delivered. A `TimeoutMessage::Get` may list any request whose time has passed here, and deletes the commitment alone.
Then the request can neither be delivered nor timed out again.
-/

namespace Hyperbridge.Nexus

open Lib Exec Ismp TokenGateway

variable {Other : Type} {T : Config Other} {N : Pallets Other} {w w' : World Other} {c : H256} {r : PostRequest}

/-- The two entries are as before. -/
def SameAt (c : H256) (w w' : World Other) : Prop :=
  w'.host.requestReceipts c = w.host.requestReceipts c ∧ w'.host.requestCommitments c = w.host.requestCommitments c

instance : IsPreorder (World Other) (SameAt c) where
  refl _ := ⟨rfl, rfl⟩
  trans _ _ _ hab hbc := ⟨hbc.1.trans hab.1, hbc.2.trans hab.2⟩

/-- Receipt and commitment are both there or both missing. -/
def Together (c : H256) (w : World Other) : Prop :=
  (w.host.requestReceipts c).isSome ↔ (w.host.requestCommitments c).isSome

/-- The receipt without the commitment. -/
def Stuck (c : H256) (w : World Other) : Prop :=
  (w.host.requestReceipts c).isSome ∧ (w.host.requestCommitments c).isNone

theorem Stuck.not_together (h : Stuck c w) : ¬ Together c w := by
  intro htogether
  have hsome := htogether.mp h.1
  rw [Option.isSome_iff_ne_none] at hsome
  exact hsome (Option.isNone_iff_eq_none.mp h.2)

theorem SameAt.together (h : SameAt c w w') : Together c w' ↔ Together c w := by
  unfold Together
  rw [h.1, h.2]

theorem SameAt.stuck (h : SameAt c w w') : Stuck c w' ↔ Stuck c w := by
  unfold Stuck
  rw [h.1, h.2]

structure Moves (c : H256) (taken : Prop) (w w' : World Other) : Prop where
  stuck : Stuck c w → Stuck c w'
  apart : Together c w → taken → Stuck c w'
  together : Together c w → ¬ taken → Together c w'

theorem SameAt.moves (h : SameAt c w w') : Moves c False w w' :=
  ⟨h.stuck.mpr, fun _ hfalse => hfalse.elim, fun htogether _ => h.together.mpr htogether⟩

theorem Moves.trans {p q : Prop} {w₁ : World Other} (h : Moves c p w w₁) (h' : Moves c q w₁ w') :
    Moves c (p ∨ q) w w' where
  stuck hstuck := h'.stuck (h.stuck hstuck)
  apart htogether htaken := by
    by_cases hp : p
    · exact h'.stuck (h.apart htogether hp)
    · exact h'.apart (h.together htogether hp) (htaken.resolve_left hp)
  together htogether hnone := by
    rw [not_or] at hnone
    exact h'.together (h.together htogether hnone.1) hnone.2

theorem moves_collect {α β : Type} {f : α → Pallet Other β} {P : α → Prop} {G : β → Prop} {as : List α} {bs : List β}
    (hf : ∀ a ∈ as, ∀ w b w', (f a).run w = (.ok b, w') → G b → Moves c (P a) w w') (hbs : ∀ b ∈ bs, G b)
    (h : (collect f as).run w = (.ok bs, w')) : Moves c (∃ a ∈ as, P a) w w' :=
  collect_ok_exists (Q := Moves c) (fun w => (refl_of (SameAt c) w).moves) (fun _ _ _ _ _ => Moves.trans) hf hbs h

theorem sameAt_other {f : Host Other → Other} :
    Keeps (SameAt c) (writes fun h => { h with other := f h } : Pallet Other Unit) := Keeps.modify fun _ => ⟨rfl, rfl⟩

theorem sameAt_transfer (text : String) (info : Meta) (beneficiary : Bytes) (amount : BitVec 128) :
    Keeps (SameAt c) (XcmGateway.transfer N text info beneficiary amount) :=
  (keeps_reads _).bind fun _ => sameAt_other

theorem sameAt_decodeBody (info : Meta) (body : Bytes) :
    Keeps (SameAt c) (XcmGateway.decodeBody info body : Pallet Other Body) := by
  cases body with
  | nil => exact Keeps.panicWith _
  | cons action data => exact Keeps.ofExcept _

theorem sameAt_xcm_onAccept (post : PostRequest) : Keeps (SameAt c) (XcmGateway.onAccept T N post) := by
  refine (Keeps.gets _).bind fun gateway => (Keeps.throwIf _ _).bind fun _ => (Keeps.throwIf _ _).bind fun _ => ?_
  refine (sameAt_decodeBody _ _).bind fun body => (Keeps.throwIf _ _).bind fun _ => ?_
  exact (Keeps.ofExcept _).bind fun amount => sameAt_transfer _ _ _ _

variable (timeout : Timeout)

theorem sameAt_xcm_onTimeout : Keeps (SameAt c) (XcmGateway.onTimeout T N timeout) := by
  match timeout with
  | .request (.post post) =>
    refine (keeps_requestHash _).bind fun commitment => (keeps_reads _).bind fun metadata => ?_
    exact (sameAt_decodeBody _ _).bind fun body => (Keeps.ofExcept _).bind fun amount => sameAt_transfer _ _ _ _
  | .request (.get get) => exact Keeps.throw _
  | .response response => exact Keeps.throw _

theorem sameAt_timeoutHere (source : Bytes) (dest : StateMachine) :
    Keeps (SameAt c) (timeoutHere T N timeout source dest) := by
  refine (Keeps.ofExcept _).bind fun id => (Keeps.gets _).bind fun gateway => ?_
  split
  · exact sameAt_xcm_onTimeout timeout
  · exact Keeps.pure _

theorem sameAt_inspector (x : Exec Inspector.Storage Error Unit) :
    Keeps (SameAt c) (zoom (others.comp N.inspector) x : Pallet Other Unit) :=
  Keeps.zoom (fun _ _ => ⟨rfl, rfl⟩) x

theorem sameAt_proxy_onTimeout : Keeps (SameAt c) ((proxyModule T N).onTimeout timeout) := by
  match timeout with
  | .request (.post post) =>
    refine Keeps.bind ?_ fun _ => sameAt_timeoutHere _ _ _
    unfold uninspect
    split
    · exact Keeps.pure _
    · exact sameAt_inspector _
  | .request (.get get) => exact sameAt_timeoutHere _ _ _
  | .response response => exact sameAt_timeoutHere _ _ _

theorem sameAt_pushLeaf (leaf : Leaf) : Keeps (SameAt c) (pushLeaf T leaf) :=
  (Keeps.gets _).bind fun _ => sameAt_other.bind fun _ => Keeps.pure _

theorem sameAt_proxy_onResponse (response : Response) : Keeps (SameAt c) ((proxyModule T N).onResponse response) := by
  show Keeps (SameAt c) (if response.destChain = T.hostStateMachine then _ else _)
  split
  · exact Keeps.throw _
  · refine Keeps.bind ?_ fun _ => Keeps.pure _
    refine (keeps_requestHash _).bind fun reqCommitment => (Keeps.gets _).bind fun responded => ?_
    refine (Keeps.throwIf _ _).bind fun _ => (keeps_responseHash _).bind fun commitment => ?_
    refine (sameAt_pushLeaf _).bind fun mmr => Keeps.bind (Keeps.modify fun _ => ⟨rfl, rfl⟩) fun _ => Keeps.pure _

variable {request : Request}

theorem sameAt_commitRequest (hrequest : hashRequest T.keccak256 request ≠ some c)
    (fee : FeeMetadata) : Keeps (SameAt c) (commitRequest T request fee) := by
  refine Keeps.expect_bind fun commitment hcommitment => (Keeps.gets _).bind fun known => ?_
  refine (Keeps.throwIf _ _).bind fun _ => (sameAt_pushLeaf _).bind fun mmr => ?_
  refine Keeps.bind (Keeps.modify fun w => ⟨rfl, Function.update_of_ne ?_ _ _⟩) fun _ => Keeps.pure _
  rintro rfl
  exact hrequest hcommitment

theorem sameAt_proxy_onAccept (hgovernor : ∀ post, Keeps (SameAt c) (N.tokenGovernor post)) {post : PostRequest}
    (hpost : hashRequest T.keccak256 (.post post) ≠ some c) : Keeps (SameAt c) ((proxyModule T N).onAccept post) := by
  show Keeps (SameAt c) (if post.dest = T.hostStateMachine then _ else _)
  split
  · refine (Keeps.ofExcept _).bind fun id => (Keeps.gets _).bind fun gateway => ?_
    split
    · exact sameAt_xcm_onAccept post
    · split
      · exact hgovernor post
      · exact Keeps.throw _
  · exact (sameAt_inspector _).bind fun _ => (sameAt_commitRequest hpost _).bind fun _ => Keeps.pure _

theorem sameAt_callback {id : Bytes} {cb : IsmpModule Other} (hcb : moduleForId (runtime T N) id = .ok cb) :
    cb.onAccept = (proxyModule T N).onAccept ∧ (∀ response, Keeps (SameAt c) (cb.onResponse response)) ∧
      ∀ timeout, Keeps (SameAt c) (cb.onTimeout timeout) := by
  obtain ⟨inner, hinner, rfl⟩ := moduleForId_ok hcb
  obtain rfl : proxyModule T N = inner := Except.ok.inj hinner
  exact ⟨rfl, sameAt_proxy_onResponse (N := N), fun timeout =>
    keeps_refundingModule (sameAt_proxy_onTimeout timeout) fun _ _ => ⟨rfl, rfl⟩⟩

theorem sameAt_note (t : Trace) : Keeps (SameAt c) (note t : Pallet Other Unit) := Keeps.modify fun _ => ⟨rfl, rfl⟩

theorem sameAt_of_responseStep (w w' : World Other) (h : ResponseStep w w') : SameAt c w w' := by
  constructor <;> rw [h.2]

variable {event : Event}

theorem sameAt_accept (hgovernor : ∀ post, Keeps (SameAt c) (N.tokenGovernor post)) {signer : Bytes}
    {post : PostRequest} (hpost : hashRequest T.keccak256 (.post post) ≠ some c)
    (h : (dispatchAccept (runtime T N) signer post).run w = (.ok (.ok event), w')) : SameAt c w w' := by
  obtain ⟨cb, c', w₂, hcb, hhash, hcall, rfl⟩ := dispatchAccept_ok h
  have hne : c ≠ c' := by
    rintro rfl
    exact hpost hhash
  rw [(sameAt_callback (c := c) hcb).1] at hcall
  have hkept := (sameAt_proxy_onAccept hgovernor hpost).of_ok hcall
  refine ⟨hkept.1.trans ?_, hkept.2⟩
  exact Function.update_of_ne hne _ _

theorem together_accept (hdest : r.dest ≠ T.hostStateMachine) (hhash : hashRequest T.keccak256 (.post r) = some c)
    {signer : Bytes} (h : (dispatchAccept (runtime T N) signer r).run w = (.ok (.ok event), w')) : Together c w' := by
  obtain ⟨cb, c', w₂, hcb, hhash', hcall, rfl⟩ := dispatchAccept_ok h
  obtain rfl : c = c' := Option.some.inj (hhash.symm.trans hhash')
  rw [(sameAt_callback (c := c) hcb).1, show (proxyModule T N).onAccept r = forward T N r from if_neg hdest] at hcall
  obtain ⟨s, c', -, hhash', -, rfl⟩ := forward_ok hcall
  obtain rfl : c = c' := Option.some.inj (hhash.symm.trans hhash')
  show (Function.update w.host.requestReceipts c (some signer) c).isSome ↔
    (Function.update w.host.requestCommitments c _ c).isSome
  simp

theorem entries_of_timedOut {routed : Bool} (h : TimedOut (runtime T N) request routed w w') :
    ∃ c', hashRequest T.keccak256 request = some c' ∧ (w.host.requestCommitments c').isSome ∧
      ∀ c, w'.host.requestReceipts c = (if routed then Function.update w.host.requestReceipts c' none
          else w.host.requestReceipts) c ∧
        w'.host.requestCommitments c = Function.update w.host.requestCommitments c' none c := by
  obtain ⟨inner, c', w₂, hinner, hhash, hsome, hcall, rfl⟩ := h
  obtain rfl : proxyModule T N = inner := Except.ok.inj hinner
  refine ⟨c', hhash, hsome, fun c => ?_⟩
  exact (keeps_refundingModule (R := SameAt c) (sameAt_proxy_onTimeout _) fun _ _ => ⟨rfl, rfl⟩).of_ok hcall

theorem moves_timedOut {routed : Bool} (h : TimedOut (runtime T N) request routed w w') :
    Moves c (routed = false ∧ hashRequest T.keccak256 request = some c) w w' := by
  obtain ⟨c', hhash, hsome, hentries⟩ := entries_of_timedOut h
  obtain ⟨hreceipt, hcommitment⟩ := hentries c
  by_cases hc : c = c'
  · subst hc
    rw [Function.update_self] at hcommitment
    refine ⟨fun hstuck => ?_, fun htogether htaken => ⟨?_, by rw [hcommitment]; rfl⟩, fun _ hnot => ?_⟩
    · rw [Option.isNone_iff_eq_none.mp hstuck.2] at hsome
      cases hsome
    · rw [hreceipt, htaken.1]
      exact htogether.mpr hsome
    · have hrouted : routed = true := Bool.not_eq_false _ ▸ fun hfalse => hnot ⟨hfalse, hhash⟩
      unfold Together
      rw [hreceipt, hcommitment, hrouted]
      simp
  · have hsame : SameAt c w w' := by
      refine ⟨hreceipt.trans ?_, hcommitment.trans (Function.update_of_ne hc _ _)⟩
      split
      · exact Function.update_of_ne hc _ _
      · rfl
    have hnot : ¬ (routed = false ∧ hashRequest T.keccak256 request = some c) :=
      fun htaken => hc (Option.some.inj (htaken.2.symm.trans hhash))
    rw [eq_false hnot]
    exact hsame.moves

def listedRequests : Message → List Request
  | .request msg => msg.requests.map .post
  | .timeout (.post requests _) => requests
  | .timeout (.get requests) => requests
  | _ => []

/-- A GET timeout lists the request. -/
def TakesCommitment (T : Config Other) (c : H256) : Message → Prop
  | .timeout (.get requests) => ∃ request ∈ requests, hashRequest T.keccak256 request = some c
  | _ => False

def OnlyRouted (T : Config Other) (c : H256) (msg : Message) : Prop :=
  ∀ request ∈ listedRequests msg, hashRequest T.keccak256 request = some c →
    request.sourceChain ≠ T.hostStateMachine ∧ request.destChain ≠ T.hostStateMachine

theorem moves_handleRequest (hgovernor : ∀ post, Keeps (SameAt c) (N.tokenGovernor post)) {msg : RequestMessage}
    (hrouted : OnlyRouted T c (.request msg)) {res : MessageResult}
    (h : (handleRequest (runtime T N) msg).run w = (.ok res, w')) (hok : res.AllOk) : Moves c False w w' := by
  obtain ⟨hchecks, results, hbatch, rfl⟩ := handleRequest_ok h
  have hothers (post : PostRequest) (hne : hashRequest T.keccak256 (.post post) ≠ some c) (v : World Other)
      (b : Except Error Event) (v' : World Other)
        (hrun : (acceptResult (runtime T N) msg.signer post).run v = (.ok b, v'))
      (hb : ∃ event, b = .ok event) : SameAt c v v' := by
    obtain ⟨event, rfl⟩ := hb
    exact sameAt_accept hgovernor hne (acceptResult_ok hrun)
  by_cases hlisted : ∃ post ∈ msg.requests, hashRequest T.keccak256 (.post post) = some c
  · obtain ⟨post, hpost, hhash⟩ := hlisted
    obtain ⟨c', hhash', hnew, -⟩ := checkRequest_ok (hchecks post hpost)
    obtain rfl : c = c' := Option.some.inj (hhash.symm.trans hhash')
    refine ⟨fun hstuck => ?_, fun _ hfalse => hfalse.elim, fun htogether _ => ?_⟩
    · have hreceipt := hstuck.1
      rw [hnew] at hreceipt
      cases hreceipt
    · refine collect_ok_exists (Q := fun _ w w' => Together c w → Together c w') (P := fun _ => False)
        (fun _ h => h) (fun _ _ _ _ _ h h' hw => h' (h hw))
          (fun other hother v b v' hrun hb hv => ?_) hok hbatch htogether
      by_cases hother' : hashRequest T.keccak256 (.post other) = some c
      · obtain ⟨event, rfl⟩ := hb
        have hdest := (hrouted (.post other) (List.mem_map_of_mem hother) hother').2
        exact together_accept hdest hother' (acceptResult_ok hrun)
      · exact (hothers other hother' v b v' hrun hb).together.mpr hv
  · have hnone : ∀ post ∈ msg.requests, hashRequest T.keccak256 (.post post) ≠ some c :=
      fun post hpost hhash => hlisted ⟨post, hpost, hhash⟩
    refine SameAt.moves (collect_ok_exists (Q := fun _ => SameAt c) (P := fun _ => False) (refl_of (SameAt c))
      (fun _ _ _ _ _ => trans_of (SameAt c)) (fun post hpost => hothers post (hnone post hpost)) hok hbatch)

theorem sameAt_handleResponse (msg : ResponseMessage) : Keeps (SameAt c) (handleResponse (runtime T N) msg) := by
  refine keeps_handleResponse fun moduleId receipt response event hevent => ?_
  exact keeps_dispatchResponseTo ((responseStep_responseReceipt _).mono sameAt_of_responseStep) hevent
    (.of_keeps (fun b => ⟨sameAt_note _, sameAt_note _⟩) fun id cb hcb => (sameAt_callback hcb).2.1 response)

theorem sameAt_responseTimeouts (responses : List PostResponse) (proof : Proof) :
    Keeps (SameAt c) (handleTimeout (runtime T N) (.postResponse responses proof)) := by
  refine keeps_handleTimeout fun response _ => ?_
  exact keeps_responseTimeout_of_responseStep sameAt_of_responseStep
    (.of_keeps (fun b => ⟨sameAt_note _, sameAt_note _⟩) fun id cb hcb => (sameAt_callback hcb).2.2 _)

theorem moves_message (hgovernor : ∀ post, Keeps (SameAt c) (N.tokenGovernor post)) {msg : Message}
    (hrouted : OnlyRouted T c msg) {res : MessageResult}
    (h : (handleIncomingMessage (runtime T N) msg).run w = (.ok res, w')) (hok : res.AllOk) :
    Moves c (TakesCommitment T c msg) w w' := by
  have hconsensus (hstep : ConsensusStep w w') : Moves c False w w' :=
    SameAt.moves ⟨congrFun hstep.requestReceipts c, congrFun hstep.requestCommitments c⟩
  match msg with
  | .consensus m => exact hconsensus ((consensusStep_updateClient m).of_ok h)
  | .fraudProof m => exact hconsensus ((consensusStep_freezeClient m).of_ok h)
  | .request m => exact moves_handleRequest hgovernor hrouted h hok
  | .response m => exact ((sameAt_handleResponse m).of_ok h).moves
  | .timeout (.postResponse responses proof) => exact ((sameAt_responseTimeouts responses proof).of_ok h).moves
  | .timeout (.post requests proof) =>
    rw [handleIncomingMessage, handleTimeout_ok_iff, TimeoutMessage.timeouts, collect_map] at h
    obtain ⟨-, results, hbatch, rfl⟩ := h
    have hmoves := moves_collect (fun request hrequest v b v' hrun hb => by
      obtain ⟨event, rfl⟩ := hb
      exact moves_timedOut (c := c) (requestTimeout_ok hrun)) hok hbatch
    have hnone : ¬ ∃ request ∈ requests, isRouted (runtime T N) request.sourceChain = false ∧
        hashRequest T.keccak256 request = some c := by
      rintro ⟨request, hrequest, hroute, hhash⟩
      exact (hrouted request hrequest hhash).1 (bne_eq_false_iff_eq.mp hroute).symm
    simpa only [TakesCommitment, TimeoutMessage.receipts, Bool.true_and, eq_false hnone] using hmoves
  | .timeout (.get requests) =>
    rw [handleIncomingMessage, handleTimeout_ok_iff, TimeoutMessage.timeouts, collect_map] at h
    obtain ⟨-, results, hbatch, rfl⟩ := h
    have hmoves := moves_collect (fun request hrequest v b v' hrun hb => by
      obtain ⟨event, rfl⟩ := hb
      exact moves_timedOut (c := c) (requestTimeout_ok hrun)) hok hbatch
    simpa [TakesCommitment, TimeoutMessage.receipts] using hmoves

theorem moves_handled (hgovernor : ∀ post, Keeps (SameAt c) (N.tokenGovernor post)) {handled : List Message}
    {w₀ : World Other} (hrun : Handled (runtime T N) (SameAt c) w₀ handled w)
    (hrouted : ∀ msg ∈ handled, OnlyRouted T c msg) : Moves c (∃ msg ∈ handled, TakesCommitment T c msg) w₀ w := by
  refine hrun.invariant (P := fun handled w => (∀ msg ∈ handled, OnlyRouted T c msg) →
    Moves c (∃ msg ∈ handled, TakesCommitment T c msg) w₀ w) ?_ ?_ ?_ hrouted
  · intro _
    simpa using (refl_of (SameAt c) w₀).moves
  · intro handled msg v res v' hbefore hmessage hok hrouted
    rw [List.forall_mem_append, List.forall_mem_singleton] at hrouted
    have hboth := (hbefore hrouted.1).trans (moves_message hgovernor hrouted.2 hmessage hok)
    simpa only [List.mem_append, List.mem_singleton, or_and_right, exists_or, exists_eq_left] using hboth
  · intro handled v v' hbefore hsame hrouted
    have hboth := (hbefore hrouted).trans hsame.moves
    rwa [or_false] at hboth

/-- A POST request between two other chains, whose receipt and commitment are both there or both missing at the
start of a run: at its end this is so exactly if no `TimeoutMessage::Get` of the run lists the request. -/
theorem routed_together_iff (hgovernor : ∀ post, Keeps (SameAt c) (N.tokenGovernor post))
    (hhash : hashRequest T.keccak256 (.post r) = some c) (hsource : r.source ≠ T.hostStateMachine)
    (hdest : r.dest ≠ T.hostStateMachine) {handled : List Message} {w₀ : World Other}
    (hrun : Handled (runtime T N) (SameAt c) w₀ handled w) (hstart : Together c w₀)
    (hcollision : ∀ msg ∈ handled, ∀ request ∈ listedRequests msg, hashRequest T.keccak256 request = some c →
      request = .post r) : Together c w ↔ ∀ requests, .timeout (.get requests) ∈ handled → .post r ∉ requests := by
  have hrouted (msg : Message) (hmsg : msg ∈ handled) : OnlyRouted T c msg := by
    intro request hrequest hrequest'
    rw [hcollision msg hmsg request hrequest hrequest']
    exact ⟨hsource, hdest⟩
  have hmoves := moves_handled hgovernor hrun hrouted
  constructor
  · intro htogether requests hmsg hmem
    exact (hmoves.apart hstart ⟨_, hmsg, .post r, hmem, hhash⟩).not_together htogether
  · intro hnone
    refine hmoves.together hstart ?_
    rintro ⟨msg, hmsg, htakes⟩
    match msg, hmsg, htakes with
    | .timeout (.get requests), hmsg, ⟨request, hrequest, hrequest'⟩ =>
      obtain rfl := hcollision _ hmsg request hrequest hrequest'
      exact hnone requests hmsg hrequest

def routedRequest : PostRequest :=
  ⟨.polkadot 2000, .evm 1, 0, asBytes "module-a", asBytes "module-b", 20, [3]⟩

def routedCommitment : H256 := sampleDigest ((Request.post routedRequest).encode.getD [])

def sampleRuntime : Config SampleOther := runtime (sampleNexus (.polkadot 2000)) samplePallets

def routedMessage : Message := sampleMessage [routedRequest]

/-- The request has been forwarded. -/
def routedWorld : World SampleOther := ((handleMessages sampleRuntime [routedMessage]).run (sampleWorld emptyInflow)).2

theorem sameAt_atTime (now : Duration) (w : World Other) : SameAt c w (atTime now w) := ⟨rfl, rfl⟩

/-- Its time has passed. -/
def laterWorld : World SampleOther := atTime 60000000000 routedWorld

theorem handled_routed :
    Handled sampleRuntime (SameAt routedCommitment) (sampleWorld emptyInflow) [routedMessage] laterWorld := by
  have hcall : ((handleMessages sampleRuntime [routedMessage]).run (sampleWorld emptyInflow)).1 =
      .ok [.postRequestHandled routedCommitment [7]] := by decide +kernel
  have hfirst : Handled sampleRuntime (SameAt routedCommitment) (sampleWorld emptyInflow) [routedMessage] routedWorld :=
    .handle [routedMessage] _ .start (run_of_fst_ok hcall)
  exact .elsewhere hfirst (sameAt_atTime _ _)

theorem sample_governor (c : H256) (post : PostRequest) : Keeps (SameAt c) (samplePallets.tokenGovernor post) :=
  Keeps.pure ()

theorem routed_together_iff_sample : Together routedCommitment laterWorld := by
  have hhash : hashRequest (sampleNexus (.polkadot 2000)).keccak256 (.post routedRequest) = some routedCommitment := by
    decide +kernel
  refine (routed_together_iff (sample_governor _) hhash (by decide) (by decide) handled_routed ?_ ?_).mpr ?_
  · exact Iff.rfl
  · intro msg hmsg request hrequest _
    obtain rfl := List.mem_singleton.mp hmsg
    exact List.mem_singleton.mp hrequest
  · intro requests hmem
    cases List.mem_singleton.mp hmem

/-- A `TimeoutMessage::Get` that lists it takes its commitment and leaves its receipt. -/
theorem routed_request_stuck :
    ∃ w, Handled sampleRuntime (SameAt routedCommitment) (sampleWorld emptyInflow)
        ([routedMessage] ++ [.timeout (.get [.post routedRequest])]) w ∧
      Together routedCommitment (sampleWorld emptyInflow) ∧ Stuck routedCommitment w := by
  have hcall : ((handleMessages sampleRuntime [.timeout (.get [.post routedRequest])]).run laterWorld).1 =
      .ok [.getRequestTimeoutHandled routedCommitment (.polkadot 2000) (.evm 1)] := by decide +kernel
  refine ⟨_, .handle _ _ handled_routed (run_of_fst_ok hcall), Iff.rfl, ?_, ?_⟩
  · decide +kernel
  · decide +kernel

end Hyperbridge.Nexus
