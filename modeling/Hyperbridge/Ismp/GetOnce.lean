import Hyperbridge.Ismp.Delivery
import Mathlib.Algebra.Group.Prod

/-!
# GET requests are answered or timed out

An answer to a GET request of this host writes a response receipt and keeps the commitment; a timeout deletes the
commitment. Answers look for both, but for the whole batch before the first callback; timeouts look for the commitment
alone. What is left open is a batch that lists the request twice, and a timeout after an answer: runs without these
resolve a request at most once, and runs with one of them more than once.
-/

namespace Hyperbridge.Ismp

open Lib Exec

variable {Other : Type} {T : Config Other} {c : H256} {w w' w₀ : World Other}

def resolvedOk (T : Config Other) (c : H256) : Trace → Bool
  | .responded r ok => ok && decide (hashRequest T.keccak256 r.request = some c)
  | .timedOut (.request r) ok => ok && decide (hashRequest T.keccak256 r = some c)
  | _ => false

/-- How often the request was answered or timed out. -/
def resolutions (T : Config Other) (c : H256) (w : World Other) : Nat := w.trace.countP (resolvedOk T c)

/-- What a module leaves alone. -/
def Aloof (c : H256) (w w' : World Other) : Prop :=
  w'.trace = w.trace ∧ w'.host.responseReceipts c = w.host.responseReceipts c ∧
    w'.host.requestCommitments c = w.host.requestCommitments c

instance : IsPreorder (World Other) (Aloof c) where
  refl _ := ⟨rfl, rfl, rfl⟩
  trans _ _ _ hab hbc := ⟨hbc.1.trans hab.1, hbc.2.1.trans hab.2.1, hbc.2.2.trans hab.2.2⟩

def Steady (T : Config Other) (c : H256) (w w' : World Other) : Prop :=
  resolutions T c w' = resolutions T c w ∧ w'.host.responseReceipts c = w.host.responseReceipts c ∧
    w'.host.requestCommitments c = w.host.requestCommitments c

instance : IsPreorder (World Other) (Steady T c) where
  refl _ := ⟨rfl, rfl, rfl⟩
  trans _ _ _ hab hbc := ⟨hbc.1.trans hab.1, hbc.2.1.trans hab.2.1, hbc.2.2.trans hab.2.2⟩

theorem Aloof.steady (w w' : World Other) (h : Aloof c w w') : Steady T c w w' := by
  refine ⟨?_, h.2⟩
  rw [resolutions, h.1, resolutions]

theorem resolutions_append (h : Host Other) (trace : List Trace) (t : Trace) :
    resolutions T c ⟨h, trace ++ [t]⟩ = trace.countP (resolvedOk T c) + if resolvedOk T c t then 1 else 0 := by
  rw [resolutions, List.countP_append, List.countP_singleton]

theorem steady_note {t : Trace} (ht : resolvedOk T c t = false) : Keeps (Steady T c) (note t : Pallet Other Unit) := by
  refine Keeps.modify fun w => ⟨?_, rfl, rfl⟩
  rw [resolutions_append, ht]
  rfl

theorem steady_writes {f : Host Other → Host Other}
    (hf : ∀ h : Host Other, (f h).responseReceipts c = h.responseReceipts c ∧
      (f h).requestCommitments c = h.requestCommitments c) : Keeps (Steady T c) (writes f) :=
  Keeps.modify fun w => ⟨rfl, hf w.host⟩

theorem steady_callbacks (hT : ModulesKeep T (Aloof c)) {id : Bytes} {cb : IsmpModule Other}
    (hcb : moduleForId T id = .ok cb) :
    (∀ r, Keeps (Aloof c) (cb.onAccept r)) ∧ (∀ r, Keeps (Aloof c) (cb.onResponse r)) ∧
      ∀ t, Keeps (Aloof c) (cb.onTimeout t) :=
  keeps_callbacks hT (fun _ _ => ⟨rfl, rfl, rfl⟩) hcb

theorem steady_accept (hT : ModulesKeep T (Aloof c)) (signer : Bytes) (post : PostRequest) :
    Keeps (Steady T c) (dispatchAccept T signer post) := by
  refine keeps_dispatchAccept ⟨?_, fun _ => ?_⟩ (.of_keeps (fun _ => ⟨steady_note rfl, steady_note rfl⟩)
    fun _ _ hcb => ((steady_callbacks hT hcb).1 post).mono Aloof.steady)
  · refine (keeps_requestHash _).bind fun _ => (keeps_reads _).bind fun _ => ?_
    exact (steady_writes fun _ => ⟨rfl, rfl⟩).bind fun _ => Keeps.pure _
  · exact (keeps_requestHash _).bind fun _ => steady_writes fun _ => ⟨rfl, rfl⟩

theorem steady_responseReceipt {r : Response} (hr : hashRequest T.keccak256 r.request ≠ some c) :
    WritesKeep (Steady T c) (deleteResponseReceipt T r) (storeResponseReceipt T r) := by
  have hupdate (hash : H256) (hhash : hashRequest T.keccak256 r.request = some hash) (v : Option ResponseReceipt)
      (h : Host Other) : Function.update h.responseReceipts hash v c = h.responseReceipts c := by
    refine Function.update_of_ne ?_ _ _
    rintro rfl
    exact hr hhash
  constructor
  · refine Keeps.expect_bind fun hash hhash => (keeps_reads _).bind fun _ => ?_
    refine Keeps.bind ?_ fun _ => Keeps.pure _
    exact steady_writes fun h => ⟨hupdate hash hhash _ h, rfl⟩
  · intro signer
    refine Keeps.expect_bind fun hash hhash => (keeps_responseHash _).bind fun _ => ?_
    exact steady_writes fun h => ⟨hupdate hash hhash _ h, rfl⟩

theorem steady_responseTimeout (hT : ModulesKeep T (Aloof c)) {response : PostResponse}
    (hne : hashRequest T.keccak256 response.request ≠ some c) :
    Keeps (Steady T c) (dispatchResponseTimeout T response) := by
  refine keeps_dispatchResponseTimeout ⟨?_, fun _ => ?_⟩ (steady_responseReceipt hne)
    (.of_keeps (fun _ => ⟨steady_note rfl, steady_note rfl⟩)
      fun _ _ hcb => ((steady_callbacks hT hcb).2.2 _).mono Aloof.steady)
  · refine (keeps_requestHash _).bind fun _ => (keeps_responseHash _).bind fun _ => (keeps_reads _).bind fun _ => ?_
    exact (steady_writes fun _ => ⟨rfl, rfl⟩).bind fun _ => Keeps.pure _
  · exact (keeps_responseHash _).bind fun _ => (keeps_requestHash _).bind fun _ => steady_writes fun _ => ⟨rfl, rfl⟩

/-- Answered `k` times, under the receipt. -/
def Answers (T : Config Other) (c : H256) (k : Nat) (w w' : World Other) : Prop :=
  Counts (resolutions T c) (fun w => (w.host.responseReceipts c).isSome) k w w' ∧
    w'.host.requestCommitments c = w.host.requestCommitments c

theorem answers_zero (w : World Other) : Answers T c 0 w w := ⟨.of_quiet rfl id, rfl⟩

theorem answers_add (k m : Nat) (w w₁ w' : World Other) (h : Answers T c k w w₁) (h' : Answers T c m w₁ w') :
    Answers T c (k + m) w w' :=
  ⟨h.1.add _ _ _ _ _ h'.1, h'.2.trans h.2⟩

theorem answers_response (hT : ModulesKeep T (Aloof c)) {moduleId signer : Bytes} {receipt response : Response}
    {event : Pallet Other Event} {e : Event} (hevent : Keeps Eq event) (hsame : receipt.request = response.request)
    (h : (dispatchResponseTo T moduleId signer receipt response event).run w = (.ok (.ok e), w')) :
    Answers T c (isOne (hashRequest T.keccak256 response.request) c) w w' := by
  obtain ⟨cb, hash, stored, rc, w₂, hcb, hhash, hcall, rfl⟩ := dispatchResponseTo_ok hevent h
  rw [hsame] at hhash
  obtain ⟨htrace, hreceipts, hcommitments⟩ := ((steady_callbacks hT hcb).2.1 response).of_ok hcall
  refine ⟨⟨?_, ?_⟩, hcommitments⟩
  · rw [resolutions_append, htrace]
    have hstart := resolutions_append (T := T) (c := c) w.host w.trace (.responding response stored)
    rw [resolutions] at hstart
    rw [hstart]
    simp [resolvedOk, isOne, resolutions]
  · intro hor
    show (w₂.host.responseReceipts c).isSome
    rw [hreceipts]
    show (Function.update w.host.responseReceipts hash (some ⟨rc, signer⟩) c).isSome
    by_cases heq : c = hash
    · rw [heq, Function.update_self]
      rfl
    · rw [Function.update_of_ne heq]
      refine hor.resolve_right fun hpos => ?_
      rw [isOne, hhash, if_neg fun h => heq (Option.some.inj h).symm] at hpos
      omega

theorem answers_dispatchResponse (hT : ModulesKeep T (Aloof c)) {signer : Bytes} {response : Response} {e : Event}
    (h : (dispatchResponse T signer response).run w = (.ok (.ok e), w')) :
    Answers T c (isOne (hashRequest T.keccak256 response.request) c) w w' := by
  refine answers_response hT ?_ rfl h
  exact (keeps_responseHash _).bind fun _ => Keeps.pure _

/-- The answer to a GET request. -/
theorem answers_dispatchGet (hT : ModulesKeep T (Aloof c)) {sm : StateMachineClient Other} {state : StateCommitment}
    {proof : Proof} {signer : Bytes} {get : GetRequest} {e : Event}
    (h : (dispatchGet T sm state proof signer get).run w = (.ok (.ok e), w')) :
    Answers T c (isOne (hashRequest T.keccak256 (.get get)) c) w w' := by
  obtain ⟨values, -, h⟩ := reads_bind_ok.mp h
  refine answers_response hT ?_ ?_ h
  · exact (keeps_requestHash _).bind fun _ => Keeps.pure _
  · rfl

structure Resolves (T : Config Other) (c : H256) (x : Nat × Nat × Nat) (w w' : World Other) : Prop where
  counted : resolutions T c w' = resolutions T c w + x.2.1 + x.2.2
  receipted : (w.host.responseReceipts c).isSome → x.1 = 0 ∧ (w'.host.responseReceipts c).isSome
  answered : x.1 ≤ 1 ∧ (x.1 = 1 → (w'.host.responseReceipts c).isSome)
  gone : w.host.requestCommitments c = none → x.1 = 0 ∧ x.2.2 = 0 ∧ w'.host.requestCommitments c = none
  taken : x.2.2 ≤ 1 ∧ (x.2.2 = 1 → w'.host.requestCommitments c = none)

theorem Steady.resolves (h : Steady T c w w') : Resolves T c 0 w w' where
  counted := h.1
  receipted hsome := ⟨rfl, by rwa [h.2.1]⟩
  answered := ⟨Nat.zero_le _, fun hone => by cases hone⟩
  gone hnone := ⟨rfl, rfl, h.2.2.trans hnone⟩
  taken := ⟨Nat.zero_le _, fun hone => by cases hone⟩

theorem Resolves.add (x y : Nat × Nat × Nat) (w w₁ w' : World Other) (h : Resolves T c x w w₁)
    (h' : Resolves T c y w₁ w') : Resolves T c (x + y) w w' where
  counted := by
    have hcounted := h.counted
    have hcounted' := h'.counted
    show _ = _ + (x.2.1 + y.2.1) + (x.2.2 + y.2.2)
    omega
  receipted hsome := by
    obtain ⟨hx, hsome₁⟩ := h.receipted hsome
    obtain ⟨hy, hsome'⟩ := h'.receipted hsome₁
    refine ⟨?_, hsome'⟩
    show x.1 + y.1 = 0
    omega
  answered := by
    show x.1 + y.1 ≤ 1 ∧ (x.1 + y.1 = 1 → _)
    by_cases hx : x.1 = 1
    · obtain ⟨hy, hsome'⟩ := h'.receipted (h.answered.2 hx)
      exact ⟨by omega, fun _ => hsome'⟩
    · have hle := h.answered.1
      exact ⟨by have := h'.answered.1; omega, fun hone => h'.answered.2 (by omega)⟩
  gone hnone := by
    obtain ⟨hx, hx', hnone₁⟩ := h.gone hnone
    obtain ⟨hy, hy', hnone'⟩ := h'.gone hnone₁
    refine ⟨?_, ?_, hnone'⟩
    · show x.1 + y.1 = 0
      omega
    · show x.2.2 + y.2.2 = 0
      omega
  taken := by
    show x.2.2 + y.2.2 ≤ 1 ∧ (x.2.2 + y.2.2 = 1 → _)
    by_cases hx : x.2.2 = 1
    · obtain ⟨-, hy, hnone'⟩ := h'.gone (h.taken.2 hx)
      exact ⟨by omega, fun _ => hnone'⟩
    · have hle := h.taken.1
      exact ⟨by have := h'.taken.1; omega, fun hone => h'.taken.2 (by omega)⟩

/-- A timeout takes the commitment. -/
theorem resolves_timedOut (hT : ModulesKeep T (Aloof c)) {request : Request} {routed : Bool}
    (h : TimedOut T request routed w w') : Resolves T c (0, 0, isOne (hashRequest T.keccak256 request) c) w w' := by
  obtain ⟨inner, hash, w₂, hinner, hhash, hsome, hcall, rfl⟩ := h
  have hkeeps : Keeps (Aloof c) ((refundingModule T inner).onTimeout (.request request)) :=
    keeps_refundingModule ((hT _ inner hinner).2.2 _) fun _ _ => ⟨rfl, rfl, rfl⟩
  obtain ⟨htrace, hreceipts, hcommitments⟩ := hkeeps.of_ok hcall
  have hreceipt : w₂.host.responseReceipts c = w.host.responseReceipts c := hreceipts
  have hcommitment : w₂.host.requestCommitments c =
    Function.update w.host.requestCommitments hash none c := hcommitments
  have hcounted : resolutions T c ⟨w₂.host, w₂.trace ++ [.timedOut (.request request) true]⟩ =
      resolutions T c w + isOne (hashRequest T.keccak256 request) c := by
    rw [resolutions_append, htrace]
    have hstart := resolutions_append (T := T) (c := c) w.host w.trace (.timingOut (.request request))
    rw [resolutions] at hstart
    rw [show (underTimeout w request hash routed).trace = w.trace ++ [.timingOut (.request request)] from rfl, hstart]
    simp [resolvedOk, isOne, resolutions]
  by_cases heq : c = hash
  · have hone : isOne (hashRequest T.keccak256 request) c = 1 := if_pos (heq ▸ hhash)
    rw [hone] at hcounted ⊢
    have hnone : w₂.host.requestCommitments c = none := by rw [hcommitment, heq, Function.update_self]
    refine ⟨hcounted, fun hsome' => ⟨rfl, hreceipt ▸ hsome'⟩, ⟨Nat.zero_le _, fun h => by cases h⟩, fun hgone => ?_,
      ⟨le_rfl, fun _ => hnone⟩⟩
    rw [← heq, hgone] at hsome
    cases hsome
  · have hzero : isOne (hashRequest T.keccak256 request) c = 0 := if_neg fun h =>
      heq (Option.some.inj (h.symm.trans hhash))
    rw [hzero] at hcounted ⊢
    rw [Function.update_of_ne heq] at hcommitment
    exact Steady.resolves ⟨hcounted, hreceipt, hcommitment⟩

/-- How often a message lists the request for an answer. -/
def answersListed (T : Config Other) (c : H256) : Message → Nat
  | .response ⟨.response responses, _, _⟩ => timesListed (responses.map fun r => hashRequest T.keccak256 r.request) c
  | .response ⟨.request requests, _, _⟩ => timesListed (requests.map (hashRequest T.keccak256)) c
  | _ => 0

/-- The three counts of a message. -/
def listing (T : Config Other) (c : H256) (msg : Message) : Nat × Nat × Nat :=
  (min 1 (answersListed T c msg), answersListed T c msg, timeoutsListed T c msg)

def SparesResponse (T : Config Other) (c : H256) : Message → Prop
  | .timeout (.postResponse responses _) => ∀ r ∈ responses, hashRequest T.keccak256 r.request ≠ some c
  | _ => True

theorem resolves_of_answers {k : Nat} (hanswers : Answers T c k w w')
    (hchecks : 0 < k → w.host.responseReceipts c = none ∧ (w.host.requestCommitments c).isSome) :
    Resolves T c (min 1 k, k, 0) w w' := by
  obtain ⟨⟨hcounted, hreceipt⟩, hcommitment⟩ := hanswers
  rcases Nat.eq_zero_or_pos k with hzero | hpos
  · subst hzero
    refine ⟨hcounted, fun hsome => ⟨rfl, hreceipt (.inl hsome)⟩, ⟨Nat.zero_le _, fun h => by cases h⟩, fun hnone =>
      ⟨rfl, rfl, hcommitment.trans hnone⟩, ⟨Nat.zero_le _, fun h => by cases h⟩⟩
  · obtain ⟨hnone, hsome⟩ := hchecks hpos
    refine ⟨hcounted, fun hsome' => ?_, ⟨Nat.min_le_left 1 k, fun _ => hreceipt (.inr hpos)⟩, fun hgone => ?_,
      ⟨Nat.zero_le _, fun h => by cases h⟩⟩
    · rw [hnone] at hsome'
      cases hsome'
    · rw [hgone] at hsome
      cases hsome

theorem answers_loop {α : Type} {dispatch : α → Pallet Other (Except Error Event)} {hash : α → Option H256}
    (hitem : ∀ x v event v', (dispatch x).run v = (.ok (.ok event), v') → Answers T c (isOne (hash x) c) v v')
    {xs : List α} {results : List (Except Error Event)} (hok : ∀ x ∈ results, ∃ event, x = .ok event)
    (h : (collect dispatch xs).run w = (.ok results, w')) : Answers T c (timesListed (xs.map hash) c) w w' := by
  rw [timesListed, List.map_map]
  refine collect_ok_sum answers_zero answers_add (fun x _ v b v' hrun hb => ?_) hok h
  obtain ⟨event, rfl⟩ := hb
  exact hitem x v event v' hrun

theorem resolves_handleResponse (hT : ModulesKeep T (Aloof c)) {msg : ResponseMessage} {res : MessageResult}
    (h : (handleResponse T msg).run w = (.ok res, w')) (hok : res.AllOk) :
    Resolves T c (listing T c (.response msg)) w w' := by
  obtain ⟨datagram, proof, signer⟩ := msg
  cases datagram with
  | response responses =>
    obtain ⟨hchecks, results, hbatch, rfl⟩ := handleResponse_response_ok rfl h
    have hanswers := answers_loop (fun _ _ _ _ hrun => answers_dispatchResponse hT hrun) hok hbatch
    refine resolves_of_answers hanswers fun hpos => ?_
    obtain ⟨r, hr, hhash⟩ := List.mem_map.mp (timesListed_pos.mp hpos)
    obtain ⟨c', hhash', hsome, hnone⟩ := checkResponse_ok (hchecks r hr)
    obtain rfl : c = c' := Option.some.inj (hhash.symm.trans hhash')
    exact ⟨hnone, hsome⟩
  | request requests =>
    obtain ⟨sm, state, gets, results, rfl, hchecks, hbatch, rfl⟩ := handleResponse_request_ok rfl h
    have hanswers := answers_loop (fun _ _ _ _ hrun => answers_dispatchGet hT hrun) hok hbatch
    have hlisted : answersListed T c (.response ⟨.request (gets.map .get), proof, signer⟩) =
        timesListed (gets.map fun get => hashRequest T.keccak256 (.get get)) c := by
      rw [answersListed, List.map_map]
      rfl
    unfold listing
    rw [hlisted]
    refine resolves_of_answers hanswers fun hpos => ?_
    obtain ⟨get, hget, hhash⟩ := List.mem_map.mp (timesListed_pos.mp hpos)
    obtain ⟨-, c', hhash', hsome, hnone⟩ := checkGetRequest_ok (hchecks get hget)
    obtain rfl : c = c' := Option.some.inj (hhash.symm.trans hhash')
    exact ⟨hnone, hsome⟩

theorem sum_timeouts (hashes : List (Option H256)) :
    (hashes.map fun hash => ((0, 0, isOne hash c) : Nat × Nat × Nat)).sum = (0, 0, timesListed hashes c) := by
  induction hashes with
  | nil => rfl
  | cons hash hashes ih =>
    rw [List.map_cons, List.sum_cons, ih, timesListed, timesListed, List.map_cons, List.sum_cons]
    rfl

theorem resolves_timeouts {dispatch : Request → Pallet Other (Except Error Event)}
    (hitem : ∀ request v event v', (dispatch request).run v = (.ok (.ok event), v') →
      Resolves T c (0, 0, isOne (hashRequest T.keccak256 request) c) v v')
    {requests : List Request} {results : List (Except Error Event)} (hok : ∀ x ∈ results, ∃ event, x = .ok event)
    (h : (collect dispatch requests).run w = (.ok results, w')) :
    Resolves T c (0, 0, timesListed (requests.map (hashRequest T.keccak256)) c) w w' := by
  rw [← sum_timeouts, List.map_map]
  refine collect_ok_sum (Q := Resolves T c) (fun w => Steady.resolves (refl_of (Steady T c) w)) Resolves.add
    (fun request _ v b v' hrun hb => ?_) hok h
  obtain ⟨event, rfl⟩ := hb
  exact hitem request v event v' hrun

/-- Every message resolves what it lists. -/
theorem resolves_message (hT : ModulesKeep T (Aloof c)) {msg : Message} (hspares : SparesResponse T c msg)
    {res : MessageResult} (h : (handleIncomingMessage T msg).run w = (.ok res, w')) (hok : res.AllOk) :
    Resolves T c (listing T c msg) w w' := by
  have hconsensus (hstep : ConsensusStep w w') : Resolves T c 0 w w' := by
    refine Steady.resolves ⟨?_, congrFun hstep.responseReceipts c, congrFun hstep.requestCommitments c⟩
    rw [resolutions, hstep.trace, resolutions]
  match msg with
  | .consensus m => exact hconsensus ((consensusStep_updateClient m).of_ok h)
  | .fraudProof m => exact hconsensus ((consensusStep_freezeClient m).of_ok h)
  | .request m =>
    exact ((keeps_handleRequest fun post _ => steady_accept hT m.signer post).of_ok h).resolves
  | .response m => exact resolves_handleResponse hT h hok
  | .timeout (.postResponse responses proof) =>
    have hkeeps : Keeps (Steady T c) (handleTimeout T (.postResponse responses proof)) :=
      keeps_handleTimeout fun r hr => steady_responseTimeout hT (hspares r hr)
    exact (hkeeps.of_ok h).resolves
  | .timeout (.post requests proof) =>
    rw [handleIncomingMessage, handleTimeout_ok_iff, TimeoutMessage.timeouts, collect_map] at h
    obtain ⟨-, results, hbatch, rfl⟩ := h
    exact resolves_timeouts (fun _ _ _ _ hrun => resolves_timedOut hT (requestTimeout_ok hrun)) hok hbatch
  | .timeout (.get requests) =>
    rw [handleIncomingMessage, handleTimeout_ok_iff, TimeoutMessage.timeouts, collect_map] at h
    obtain ⟨-, results, hbatch, rfl⟩ := h
    exact resolves_timeouts (fun _ _ _ _ hrun => resolves_timedOut hT (requestTimeout_ok hrun)) hok hbatch

/-- The counts of a run. -/
theorem resolves_handled (hT : ModulesKeep T (Aloof c)) {handled : List Message}
    (hrun : Handled T (Aloof c) w₀ handled w)
    (hspares : ∀ msg ∈ handled, SparesResponse T c msg) : Resolves T c (handled.map (listing T c)).sum w₀ w := by
  refine hrun.invariant (P := fun handled w => (∀ msg ∈ handled, SparesResponse T c msg) →
    Resolves T c (handled.map (listing T c)).sum w₀ w) ?_ ?_ ?_ hspares
  · intro _
    exact Steady.resolves (refl_of (Steady T c) w₀)
  · intro handled msg v res v' hbefore hmessage hok hspares
    rw [List.forall_mem_append, List.forall_mem_singleton] at hspares
    rw [List.map_append, List.sum_append, List.map_singleton, List.sum_singleton]
    exact (hbefore hspares.1).add _ _ _ _ _ (resolves_message hT hspares.2 hmessage hok)
  · intro handled v v' hbefore hstep hspares
    have hboth := (hbefore hspares).add _ _ _ _ _ (Aloof.steady (T := T) _ _ hstep).resolves
    rwa [add_zero] at hboth

theorem sum_listing (handled : List Message) :
    (handled.map (listing T c)).sum = ((handled.map fun msg => min 1 (answersListed T c msg)).sum,
      (handled.map (answersListed T c)).sum, (handled.map (timeoutsListed T c)).sum) := by
  induction handled with
  | nil => rfl
  | cons msg handled ih =>
    simp only [List.map_cons, List.sum_cons, ih]
    rfl

/-- In every run of successful calls, with modules that leave alone what is stored for it, a request is resolved at
most once exactly if no response message lists it twice, and it is not listed both by a response message and by a
timeout message. -/
theorem get_resolved_once_iff (hT : ModulesKeep T (Aloof c)) {handled : List Message}
    (hrun : Handled T (Aloof c) w₀ handled w) (hspares : ∀ msg ∈ handled, SparesResponse T c msg) :
    resolutions T c w ≤ resolutions T c w₀ + 1 ↔ (∀ msg ∈ handled, answersListed T c msg ≤ 1) ∧
      ∀ msg ∈ handled, ∀ msg' ∈ handled, answersListed T c msg = 0 ∨ timeoutsListed T c msg' = 0 := by
  have hresolves := resolves_handled hT hrun hspares
  rw [sum_listing] at hresolves
  have hcounted := hresolves.counted
  have hbatches := hresolves.answered.1
  have htimeouts := hresolves.taken.1
  dsimp only at hcounted hbatches htimeouts
  have hanswer {msg : Message} (hmsg : msg ∈ handled) : answersListed T c msg ≤ (handled.map (answersListed T c)).sum :=
    List.single_le_sum (fun _ _ => Nat.zero_le _) _ (List.mem_map_of_mem hmsg)
  have htimeout {msg : Message} (hmsg : msg ∈ handled) :
    timeoutsListed T c msg ≤ (handled.map (timeoutsListed T c)).sum :=
    List.single_le_sum (fun _ _ => Nat.zero_le _) _ (List.mem_map_of_mem hmsg)
  constructor
  · intro honce
    refine ⟨fun msg hmsg => ?_, fun msg hmsg msg' hmsg' => ?_⟩
    · have hle := hanswer hmsg
      omega
    · have hle := hanswer hmsg
      have hle' := htimeout hmsg'
      omega
  · rintro ⟨hdistinct, hexclusive⟩
    -- then a batch of answers answers once
    have hsame : (handled.map (answersListed T c)).sum =
      (handled.map fun msg => min 1 (answersListed T c msg)).sum := by
      congr 1
      refine List.map_congr_left fun msg hmsg => ?_
      have hle := hdistinct msg hmsg
      omega
    by_cases hanswered : ∃ msg ∈ handled, answersListed T c msg ≠ 0
    · obtain ⟨msg, hmsg, hne⟩ := hanswered
      have hnone : (handled.map (timeoutsListed T c)).sum = 0 := by
        refine List.sum_eq_zero fun x hx => ?_
        obtain ⟨msg', hmsg', rfl⟩ := List.mem_map.mp hx
        exact (hexclusive msg hmsg msg' hmsg').resolve_left hne
      omega
    · have hnone : (handled.map (answersListed T c)).sum = 0 := by
        refine List.sum_eq_zero fun x hx => ?_
        obtain ⟨msg, hmsg, rfl⟩ := List.mem_map.mp hx
        by_contra hne
        exact hanswered ⟨msg, hmsg, hne⟩
      omega

def getConfig : Config Unit :=
  runtimeConfig (.polkadot 3367) (.polkadot 2000) silentClient fun _ _ _ other => .ok other

theorem getConfig_modulesKeep (c : H256) : ModulesKeep getConfig (Aloof c) := by
  intro id m hm
  obtain rfl := (Except.ok.inj hm).symm
  exact ⟨fun _ w _ => refl_of (Aloof c) w, fun _ w _ => refl_of (Aloof c) w, fun _ w _ => refl_of (Aloof c) w⟩

def dispatchedGet : DispatchRequest := .get ⟨.polkadot 2000, [1], [[9]], 1, [], 10⟩

/-- The GET request as it was dispatched. -/
def waitingGet : GetRequest := ⟨.polkadot 3367, .polkadot 2000, 0, [1], [[9]], 1, [], 22⟩

def waitingCommitment : H256 := sampleDigest ((Request.get waitingGet).encode.getD [])

def waitingWorld : World Unit := ((dispatchRequest getConfig dispatchedGet ⟨[], 0⟩).run ⟨sampleHost, []⟩).2

def answerMessage : Message := .response ⟨.request [.get waitingGet], ⟨sampleHeight, []⟩, [7]⟩

def answeredWorld : World Unit := ((handleMessages getConfig [answerMessage]).run waitingWorld).2

theorem handled_answer : Handled getConfig (Aloof waitingCommitment) waitingWorld [answerMessage] answeredWorld := by
  have hcall : ((handleMessages getConfig [answerMessage]).run waitingWorld).1 =
      .ok [.getRequestHandled waitingCommitment [7]] := by decide +kernel
  exact .handle [answerMessage] _ .start (run_of_fst_ok hcall)

theorem get_resolved_once_iff_sample :
    resolutions getConfig waitingCommitment answeredWorld ≤
      resolutions getConfig waitingCommitment waitingWorld + 1 := by
  refine (get_resolved_once_iff (getConfig_modulesKeep _) handled_answer ?_).mpr ⟨?_, ?_⟩
  · intro msg hmsg
    obtain rfl := List.mem_singleton.mp hmsg
    trivial
  · decide +kernel
  · decide +kernel

theorem aloof_atTime {Other : Type} (c : H256) (now : Duration) (w : World Other) : Aloof c w (atTime now w) :=
  ⟨rfl, rfl, rfl⟩

/-- Twenty seconds later the answered request is timed out as well, and both callbacks have returned `Ok`. -/
theorem answered_get_timed_out :
    ∃ w, ((dispatchRequest getConfig dispatchedGet ⟨[], 0⟩).run ⟨sampleHost, []⟩).1 = .ok waitingCommitment ∧
      Handled getConfig (Aloof waitingCommitment) waitingWorld [answerMessage, .timeout (.get [.get waitingGet])] w ∧
      resolutions getConfig waitingCommitment waitingWorld = 0 ∧ resolutions getConfig waitingCommitment w = 2 := by
  have hcall : ((handleMessages getConfig [.timeout (.get [.get waitingGet])]).run
    (atTime 32000000000 answeredWorld)).1 =
      .ok [.getRequestTimeoutHandled waitingCommitment (.polkadot 3367) (.polkadot 2000)] := by decide +kernel
  have hhandled : Handled getConfig (Aloof waitingCommitment) waitingWorld
      ([answerMessage] ++ [.timeout (.get [.get waitingGet])])
      ((handleMessages getConfig [.timeout (.get [.get waitingGet])]).run (atTime 32000000000 answeredWorld)).2 :=
    .handle _ _ (.elsewhere handled_answer (aloof_atTime _ _ _)) (run_of_fst_ok hcall)
  exact ⟨_, by decide +kernel, hhandled, by decide +kernel, by decide +kernel⟩

end Hyperbridge.Ismp
