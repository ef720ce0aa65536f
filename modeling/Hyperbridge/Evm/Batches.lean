import Hyperbridge.Evm.Answers

/-!
# Batches of timeouts

`HandlerV1` times out the messages of a batch one after the other. For each it writes the key of the receipt into a new
array of one place, at the position of the message. So a batch of one message is a single call, and a longer one reverts
at the second message. `TimeoutKind` says what the three functions have in common.
-/

namespace Hyperbridge.Evm

open Lib Exec
open Beefy (StateCommitment)

/-- What a timeout is judged by. -/
def judged (h : Host) : FrozenStatus × HostParams × (StateMachineHeight → StateCommitment) ×
    (StateMachineHeight → U256) :=
  (h.frozen, h.hostParams, h.stateCommitments, h.stateCommitmentsUpdateTime)

/-- How a kind of message is looked up, deleted and restored. -/
structure TimeoutKind (α : Type) where
  callback : α → Callback
  deadline : α → UInt64
  storage : Bytes
  commitment : α → H256
  sent : Host → H256 → FeeMetadata
  origin : α → Call H160
  event : α → Event
  remove : α → Host → Host
  restore : α → FeeMetadata → Host → Host
  judged_remove : ∀ a h, judged (remove a h) = judged h
  judged_restore : ∀ a metadata h, judged (restore a metadata h) = judged h
  sent_remove : ∀ a h c, c ≠ commitment a → sent (remove a h) c = sent h c
  sent_restore : ∀ a metadata h c, c ≠ commitment a → sent (restore a metadata h) c = sent h c

namespace TimeoutKind

variable {α : Type} (K : TimeoutKind α) (L : Libraries)

/-- The loop body of the functions that time out batches. -/
def body (state : StateCommitment) (proof : List Bytes) (i : Nat) (a : α) (m refund : Module) : Code Unit := do
  let metadata ← checks (checkTimeout L state proof i (K.deadline a) K.storage (K.commitment a) K.sent)
  note (.timingOut (K.callback a) state)
  let _ ← ofExcept (K.origin a)
  timeOut (K.callback a) (K.remove a) (K.restore a metadata) metadata (K.event a) m refund

def post : TimeoutKind PostRequest where
  callback := .onPostRequestTimeout
  deadline := (·.timeoutTimestamp)
  storage := requestReceiptsStorage
  commitment := L.hashPost
  sent := (·.requestCommitments)
  origin request := bytesToAddress request.fromModule
  event request := .postRequestTimeoutHandled (L.hashPost request) request.dest
  remove request := setRequestCommitment (L.hashPost request) .none
  restore request metadata := setRequestCommitment (L.hashPost request) metadata
  judged_remove _ _ := rfl
  judged_restore _ _ _ := rfl
  sent_remove _ _ _ hne := Function.update_of_ne hne ..
  sent_restore _ _ _ _ hne := Function.update_of_ne hne ..

def response : TimeoutKind PostResponse where
  callback := .onPostResponseTimeout
  deadline := (·.timeoutTimestamp)
  storage := responseReceiptsStorage
  commitment := L.hashPostResponse
  sent := (·.responseCommitments)
  origin response := bytesToAddress response.request.toModule
  event response := .postResponseTimeoutHandled (L.hashPostResponse response) response.request.source
  remove response h :=
    setResponded (L.hashPost response.request) false (setResponseCommitment (L.hashPostResponse response) .none h)
  restore response metadata h :=
    setResponded (L.hashPost response.request) true (setResponseCommitment (L.hashPostResponse response) metadata h)
  judged_remove _ _ := rfl
  judged_restore _ _ _ := rfl
  sent_remove _ _ _ hne := Function.update_of_ne hne ..
  sent_restore _ _ _ _ hne := Function.update_of_ne hne ..

def get : TimeoutKind GetRequest where
  callback := .onGetTimeout
  deadline := (·.timeoutTimestamp)
  storage := requestReceiptsStorage
  commitment := L.hashGet
  sent := (·.requestCommitments)
  origin request := .ok request.fromModule
  event request := .getRequestTimeoutHandled (L.hashGet request) request.dest
  remove request := setRequestCommitment (L.hashGet request) .none
  restore request metadata := setRequestCommitment (L.hashGet request) metadata
  judged_remove _ _ := rfl
  judged_restore _ _ _ := rfl
  sent_remove _ _ _ hne := Function.update_of_ne hne ..
  sent_restore _ _ _ _ hne := Function.update_of_ne hne ..

end TimeoutKind

section Turn

variable {L : Libraries} {state : StateCommitment} {proof : List Bytes} {i : Nat} {deadline : UInt64} {storage : Bytes}
  {commitment : H256} {sent : Host → H256 → FeeMetadata} {h h' : Host} {metadata : FeeMetadata}

theorem checkTimeout_congr (hsent : sent h' commitment = sent h commitment) :
    checkTimeout L state proof i deadline storage commitment sent h' =
      checkTimeout L state proof i deadline storage commitment sent h := by
  simp only [checkTimeout, hsent]

theorem checkTimeout_later (hi : 1 ≤ i)
    (hfirst : checkTimeout L state proof 0 deadline storage commitment sent h = .ok metadata) :
    checkTimeout L state proof i deadline storage commitment sent h = .error (.panic 0x32) := by
  simp only [checkTimeout, except_check_ok, revertIf_ok] at hfirst
  obtain ⟨hlapsed, hknown, -⟩ := hfirst
  rw [checkTimeout, revertIf, if_neg hlapsed]
  show (revertIf _ _ >>= _ : Call FeeMetadata) = _
  rw [revertIf, if_neg hknown]
  show (verifyAbsent _ _ _ _ _ >>= _ : Call FeeMetadata) = _
  rw [verifyAbsent, revertIf, if_pos hi]
  rfl

variable {m refund : Module} {success paid : Bool} {w w' : World}

/-- A call that does not come back to the host. -/
def Module.Quiet (m : Module) (success : Bool) : Prop := ∀ w, m.call w = (w, success)

theorem callModule_quiet (hm : m.Quiet success) (w : World) : (callModule m).run w = (.ok success, w) := by
  show (Outcome.ok (m.call w).2, (m.call w).1) = _
  rw [hm w]

section Quiet

variable {callback : Callback} {remove restore : Host → Host} {event : Event} (hm : m.Quiet success)
  (hrefund : refund.Quiet paid)

include hm hrefund

theorem timeOut_quiet (hpaid : success = true → metadata.fee ≠ 0 → paid = true) : ∃ trace,
    (timeOut callback remove restore metadata event m refund).run w =
      (.ok (), ⟨if success then remove w.host else restore (remove w.host), trace⟩) := by
  rw [timeOut, writes, modify_bind_run, bind_run, callModule_quiet hm]
  dsimp only
  rw [note, modify_bind_run, settleTimeOut]
  cases success with
  | false => exact ⟨_, rfl⟩
  | true =>
    rw [if_pos rfl, if_pos rfl]
    by_cases hfee : metadata.fee ≠ 0
    · rw [if_pos hfee, note, modify_bind_run, bind_run, mustCall, bind_run, callModule_quiet hrefund, hpaid rfl hfee]
      exact ⟨_, rfl⟩
    · rw [if_neg hfee]
      exact ⟨_, rfl⟩

theorem paid_of_timeOut (hrun : (timeOut callback remove restore metadata event m refund).run w = (.ok (), w'))
    (hsuccess : success = true) (hfee : metadata.fee ≠ 0) : paid = true := by
  rw [timeOut, writes, modify_bind_run, bind_run, callModule_quiet hm] at hrun
  dsimp only at hrun
  rw [note, modify_bind_run, settleTimeOut, if_pos hsuccess, if_pos hfee, note, modify_bind_run, bind_run, mustCall,
    bind_run, callModule_quiet hrefund] at hrun
  cases paid with
  | true => rfl
  | false => cases hrun

end Quiet

variable {α : Type} {K : TimeoutKind α} {a : α}

namespace TimeoutKind

theorem body_ok (hrun : (K.body L state proof i a m refund).run w = (.ok (), w')) :
    ∃ metadata, checkTimeout L state proof i (K.deadline a) K.storage (K.commitment a) K.sent w.host = .ok metadata ∧
      (∃ address, K.origin a = .ok address) ∧
      (timeOut (K.callback a) (K.remove a) (K.restore a metadata) metadata (K.event a) m refund).run
        ⟨w.host, w.trace ++ [.timingOut (K.callback a) state]⟩ = (.ok (), w') := by
  obtain ⟨metadata, hcheck, hrun⟩ := query_bind_ok.mp hrun
  rw [note, modify_bind_run] at hrun
  obtain ⟨address, horigin, hrun⟩ := ofExcept_bind_ok.mp hrun
  exact ⟨metadata, hcheck, ⟨address, horigin⟩, hrun⟩

theorem body_later (hi : 1 ≤ i) : (K.body L state proof i a m refund).run w ≠ (.ok (), w') := by
  intro hrun
  obtain ⟨metadata, hcheck, -⟩ := body_ok hrun
  have habsent := checkTimeout_ok hcheck
  rw [verifyAbsent, revertIf, if_pos hi] at habsent
  cases habsent

theorem body_panics (hi : 1 ≤ i)
    (hfirst : checkTimeout L state proof 0 (K.deadline a) K.storage (K.commitment a) K.sent w.host = .ok metadata) :
    (K.body L state proof i a m refund).run w = (.err (.panic 0x32), w) := by
  rw [body, checks, bind_run, query_run, checkTimeout_later hi hfirst]

theorem body_quiet (hm : m.Quiet success) (hrefund : refund.Quiet paid)
    (halone : (K.body L state proof 0 a m refund).run w = (.ok (), w')) {v : World}
    (hsent : K.sent v.host (K.commitment a) = K.sent w.host (K.commitment a)) :
    ∃ v', (K.body L state proof 0 a m refund).run v = (.ok (), v') ∧ judged v'.host = judged v.host ∧
      ∀ c, c ≠ K.commitment a → K.sent v'.host c = K.sent v.host c := by
  obtain ⟨metadata, hcheck, ⟨address, horigin⟩, hrun⟩ := body_ok halone
  rw [← checkTimeout_congr hsent] at hcheck
  obtain ⟨trace, hv⟩ := timeOut_quiet (w := ⟨v.host, v.trace ++ [.timingOut (K.callback a) state]⟩) hm hrefund
    (paid_of_timeOut hm hrefund hrun)
  refine ⟨_, query_bind_ok.mpr ⟨metadata, hcheck, ofExcept_bind_ok.mpr ⟨address, horigin, hv⟩⟩, ?_, ?_⟩
  · cases success with
    | true => exact K.judged_remove a v.host
    | false => exact (K.judged_restore a metadata _).trans (K.judged_remove a v.host)
  · intro c hc
    cases success with
    | true => exact K.sent_remove a v.host c hc
    | false => exact (K.sent_restore a metadata _ c hc).trans (K.sent_remove a v.host c hc)

end TimeoutKind

end Turn

section Batch

variable {α : Type}

abbrev Handle (α : Type) := TimeoutMessage α → List Module → List Module → Code Unit

variable (handle : Handle α) (message : TimeoutMessage α) (ms refunds : List Module)

def TimeoutMessage.items : List ((α × Module) × Module) := withModules (withModules message.timeouts ms) refunds

def single (x : (α × Module) × Module) : Code Unit :=
  handle ⟨[x.1.1], message.height, message.proof⟩ [x.1.2] [x.2]

/-- The messages of the batch, each in a batch of its own. -/
def singles : Code Unit := forEach (single handle message) (message.items ms refunds)

/-- Every message is timed out in a batch of its own. -/
def AcceptedAlone (w : World) : Prop :=
  ∀ x ∈ message.items ms refunds, ∃ w', (single handle message x).run w = (.ok (), w')

/-- The batch does what the single calls do. -/
def LikeSingles (w : World) : Prop :=
  ∃ w', (handle message ms refunds).run w = (.ok (), w') ∧ (singles handle message ms refunds).run w = (.ok (), w')

variable {message ms refunds} {b : Block} {body : StateCommitment → List Bytes → Nat → α → Module → Module → Code Unit}
  {w w' : World}

theorem map_items (message : TimeoutMessage α) (ms refunds : List Module) :
    (message.items ms refunds).map (fun x => x.1.1) = message.timeouts := by
  rw [show (fun x : (α × Module) × Module => x.1.1) = Prod.fst ∘ Prod.fst from rfl, ← List.map_map,
    TimeoutMessage.items, map_withModules, map_withModules]

theorem length_items (message : TimeoutMessage α) (ms refunds : List Module) :
    (message.items ms refunds).length = message.timeouts.length := by
  rw [← map_items message ms refunds, List.length_map]

theorem timeoutState_congr {h h' : Host} (hjudged : judged h' = judged h) (height : StateMachineHeight) :
    timeoutState b height h' = timeoutState b height h := by
  simp only [judged, Prod.mk.injEq] at hjudged
  obtain ⟨hfrozen, hparams, hcommitments, htimes⟩ := hjudged
  simp only [timeoutState, notFrozen, challengePeriodElapsed, hfrozen, hparams, hcommitments, htimes]

theorem handleTimeouts_ok : (handleTimeouts b message body ms refunds).run w = (.ok (), w') ↔ ∃ state,
    timeoutState b message.height w.host = .ok state ∧
      (forEach (fun x => body state message.proof x.2 x.1.1.1 x.1.1.2 x.1.2) (message.items ms refunds).zipIdx).run w =
        (.ok (), w') := query_bind_ok

theorem single_ok {x : (α × Module) × Module} : (single (handleTimeouts b · body) message x).run w =
    (.ok (), w') ↔ ∃ state, timeoutState b message.height w.host = .ok state ∧
      (body state message.proof 0 x.1.1 x.1.2 x.2).run w = (.ok (), w') := by
  rw [single, handleTimeouts_ok]
  constructor
  · rintro ⟨state, hstate, hrun⟩
    obtain ⟨u, w₁, hbody, hend⟩ := forEach_cons_ok.mp hrun
    obtain ⟨-, rfl⟩ := Prod.mk.inj hend
    exact ⟨state, hstate, hbody⟩
  · rintro ⟨state, hstate, hbody⟩
    exact ⟨state, hstate, forEach_cons_ok.mpr ⟨(), w', hbody, rfl⟩⟩

variable {L : Libraries} {K : TimeoutKind α}

theorem length_le_one_of_ok (hrun : (handleTimeouts b message (K.body L) ms refunds).run w = (.ok (), w')) :
    message.timeouts.length ≤ 1 := by
  obtain ⟨state, -, hloop⟩ := handleTimeouts_ok.mp hrun
  rw [← length_items message ms refunds]
  match message.items ms refunds, hloop with
  | [], _ => exact Nat.zero_le 1
  | [_], _ => exact Nat.le_refl 1
  | _ :: _ :: _, hloop =>
    obtain ⟨_, w₁, -, hrest⟩ := forEach_cons_ok.mp hloop
    obtain ⟨_, w₂, hsecond, -⟩ := forEach_cons_ok.mp hrest
    exact absurd hsecond (TimeoutKind.body_later (Nat.le_refl 1))

theorem likeSingles_of_length (hlength : message.timeouts.length = 1)
    (halone : AcceptedAlone (handleTimeouts b · body) message ms refunds w) :
    LikeSingles (handleTimeouts b · body) message ms refunds w := by
  rw [← length_items message ms refunds] at hlength
  obtain ⟨x, hx⟩ := List.length_eq_one_iff.mp hlength
  obtain ⟨w', hrun⟩ := halone x (by rw [hx]; exact List.mem_singleton_self x)
  refine ⟨w', ?_, ?_⟩
  · obtain ⟨state, hstate, hbody⟩ := single_ok.mp hrun
    rw [handleTimeouts_ok, hx]
    exact ⟨state, hstate, forEach_cons_ok.mpr ⟨(), w', hbody, rfl⟩⟩
  · rw [singles, hx]
    exact forEach_cons_ok.mpr ⟨(), w', hrun, rfl⟩

section Quiet

def Alike (K : TimeoutKind α) (h h' : Host) (a : α) : Prop :=
  judged h' = judged h ∧ K.sent h' (K.commitment a) = K.sent h (K.commitment a)

theorem single_quiet {x : (α × Module) × Module} {success paid : Bool} (hm : x.1.2.Quiet success)
    (hrefund : x.2.Quiet paid) (halone : (single (handleTimeouts b · (K.body L)) message x).run w =
      (.ok (), w')) {v : World}
    (halike : Alike K w.host v.host x.1.1) : ∃ v', (single (handleTimeouts b · (K.body L)) message x).run v =
      (.ok (), v') ∧
      ∀ a, K.commitment a ≠ K.commitment x.1.1 → Alike K w.host v.host a → Alike K w.host v'.host a := by
  obtain ⟨state, hstate, hbody⟩ := single_ok.mp halone
  rw [← timeoutState_congr halike.1] at hstate
  obtain ⟨v', hrun, hjudged, hsent⟩ := TimeoutKind.body_quiet hm hrefund hbody halike.2
  refine ⟨v', single_ok.mpr ⟨state, hstate, hrun⟩, ?_⟩
  intro a hne ha
  exact ⟨hjudged.trans ha.1, (hsent _ hne).trans ha.2⟩

theorem forEach_single_quiet {xs : List ((α × Module) × Module)} {v : World}
    (hquiet : ∀ x ∈ xs, ∃ success paid, x.1.2.Quiet success ∧ x.2.Quiet paid)
    (halone : ∀ x ∈ xs, ∃ w', (single (handleTimeouts b · (K.body L)) message x).run w = (.ok (), w'))
    (hdistinct : xs.Pairwise fun x y => K.commitment x.1.1 ≠ K.commitment y.1.1)
    (halike : ∀ x ∈ xs, Alike K w.host v.host x.1.1) :
    ∃ v', (forEach (single (handleTimeouts b · (K.body L)) message) xs).run v = (.ok (), v') := by
  induction xs generalizing v with
  | nil => exact ⟨v, rfl⟩
  | cons x xs ih =>
    rw [List.pairwise_cons] at hdistinct
    obtain ⟨success, paid, hm, hrefund⟩ := hquiet x List.mem_cons_self
    obtain ⟨w', hx⟩ := halone x List.mem_cons_self
    obtain ⟨v₁, hfirst, hothers⟩ := single_quiet hm hrefund hx (halike x List.mem_cons_self)
    have hnext : ∀ y ∈ xs, Alike K w.host v₁.host y.1.1 := by
      intro y hy
      exact hothers _ (hdistinct.1 y hy).symm (halike y (List.mem_cons_of_mem _ hy))
    obtain ⟨v', hrest⟩ := ih (fun y hy => hquiet y (List.mem_cons_of_mem _ hy))
      (fun y hy => halone y (List.mem_cons_of_mem _ hy)) hdistinct.2 hnext
    exact ⟨v', forEach_cons_ok.mpr ⟨(), v₁, hfirst, hrest⟩⟩

theorem panics_of_quiet {xs : List ((α × Module) × Module)} {x y : (α × Module) × Module}
    (hitems : message.items ms refunds = x :: y :: xs) {success paid : Bool} (hm : x.1.2.Quiet success)
    (hrefund : x.2.Quiet paid) (hx : ∃ w', (single (handleTimeouts b · (K.body L)) message x).run w = (.ok (), w'))
    (hy : ∃ w', (single (handleTimeouts b · (K.body L)) message y).run w = (.ok (), w'))
    (hdistinct : K.commitment y.1.1 ≠ K.commitment x.1.1) :
    ((handleTimeouts b message (K.body L) ms refunds).run w).1 = .err (.panic 0x32) := by
  obtain ⟨wx, hx⟩ := hx
  obtain ⟨wy, hy⟩ := hy
  obtain ⟨state, hstate, hfirst⟩ := single_ok.mp hx
  obtain ⟨state', hstate', hsecond⟩ := single_ok.mp hy
  obtain rfl : state' = state := Except.ok.inj (hstate'.symm.trans hstate)
  obtain ⟨v, hrun, -, hsent⟩ := TimeoutKind.body_quiet hm hrefund hfirst rfl
  obtain ⟨metadata, hcheck, -⟩ := TimeoutKind.body_ok hsecond
  rw [← checkTimeout_congr (hsent _ hdistinct)] at hcheck
  have hloop : (forEach (fun x => K.body L state' message.proof x.2 x.1.1.1 x.1.1.2 x.1.2)
      (message.items ms refunds).zipIdx).run w = (.err (.panic 0x32), v) := by
    rw [hitems]
    exact bind_err.mpr (.inr ⟨(), v, hrun, bind_err.mpr (.inl (TimeoutKind.body_panics (Nat.le_refl 1) hcheck))⟩)
  rw [handleTimeouts, checks, bind_run, query_run, hstate]
  exact congrArg Prod.fst hloop

end Quiet

def OnlyOneByOne (handle : Handle α) (commitment : α → H256) : Prop :=
  ∀ (message : TimeoutMessage α) (ms refunds : List Module) (w : World), message.timeouts ≠ [] →
    AcceptedAlone handle message ms refunds w →
    (LikeSingles handle message ms refunds w ↔ message.timeouts.length = 1) ∧
      ((∀ x ∈ message.items ms refunds, ∃ success paid, x.1.2.Quiet success ∧ x.2.Quiet paid) →
        (message.timeouts.map commitment).Nodup → 2 ≤ message.timeouts.length →
        ((handle message ms refunds).run w).1 = .err (.panic 0x32) ∧
          ∃ w', (singles handle message ms refunds).run w = (.ok (), w'))

theorem TimeoutKind.onlyOneByOne (K : TimeoutKind α) (L : Libraries) (b : Block) :
    OnlyOneByOne (handleTimeouts b · (K.body L)) K.commitment := by
  intro message ms refunds w hne halone
  constructor
  · constructor
    · rintro ⟨w', hrun, -⟩
      have hlength := length_le_one_of_ok hrun
      have hpositive := List.length_pos_of_ne_nil hne
      omega
    · intro hlength
      exact likeSingles_of_length hlength halone
  · intro hquiet hdistinct htwo
    have hpairs : (message.items ms refunds).Pairwise fun x y => K.commitment x.1.1 ≠ K.commitment y.1.1 := by
      rw [← map_items message ms refunds, List.map_map] at hdistinct
      exact List.pairwise_map.mp hdistinct
    refine ⟨?_, forEach_single_quiet hquiet halone hpairs fun _ _ => ⟨rfl, rfl⟩⟩
    rw [← length_items message ms refunds] at htwo
    match hitems : message.items ms refunds, htwo with
    | [], htwo => simp at htwo
    | [_], htwo => simp at htwo
    | x :: y :: xs, _ =>
      rw [hitems] at hquiet hpairs
      obtain ⟨success, paid, hm, hrefund⟩ := hquiet x List.mem_cons_self
      have hxy := (List.pairwise_cons.mp hpairs).1 y List.mem_cons_self
      have hmem : x ∈ message.items ms refunds ∧ y ∈ message.items ms refunds := by
        rw [hitems]
        simp
      exact panics_of_quiet hitems hm hrefund (halone x hmem.1) (halone y hmem.2) hxy.symm

end Batch

/-- All three functions that time out batches. -/
theorem timeout_batches_like_singles_iff (L : Libraries) (b : Block) :
    OnlyOneByOne (handlePostRequestTimeouts L b) L.hashPost ∧
      OnlyOneByOne (handlePostResponseTimeouts L b) L.hashPostResponse ∧
      OnlyOneByOne (handleGetRequestTimeouts L b) L.hashGet :=
  -- what the functions do with a message is the body of the kind
  ⟨(TimeoutKind.post L).onlyOneByOne L b, (TimeoutKind.response L).onlyOneByOne L b,
    (TimeoutKind.get L).onlyOneByOne L b⟩

def secondLapsing : PostRequest := { lapsingRequest with nonce := 1 }

def batchLibraries : Libraries := { timeoutLibraries with hashPost := fun r => BytesN.ofNat 32 (7 + r.nonce.toNat) }

def batchWorld : World where
  host := { sampleHost emptyRoot with
    requestCommitments := fun c => if c = BytesN.ofNat 32 7 ∨ c = BytesN.ofNat 32 8 then ⟨senderAddress, 0⟩ else .none }
  trace := []

def agreeing : Module := ⟨true, fun w => (w, true)⟩

def lapsingBatch : TimeoutMessage PostRequest := ⟨[lapsingRequest, secondLapsing], sampleHeight, [[0]]⟩

/-- Both requests are accepted alone and one after the other, but not together. -/
theorem timeout_batch_reverts :
    lapsingBatch.timeouts.Nodup ∧
      AcceptedAlone (handlePostRequestTimeouts batchLibraries sampleBlock) lapsingBatch [agreeing, agreeing]
        [] batchWorld ∧
      (∃ w', (singles (handlePostRequestTimeouts batchLibraries sampleBlock) lapsingBatch [agreeing, agreeing] []).run
        batchWorld = (.ok (), w')) ∧
      ((handlePostRequestTimeouts batchLibraries sampleBlock lapsingBatch [agreeing, agreeing] []).run batchWorld).1 =
        .err (.panic 0x32) := by
  have hfirst : ((single (handlePostRequestTimeouts batchLibraries sampleBlock) lapsingBatch
      ((lapsingRequest, agreeing), .noCode)).run batchWorld).1 = .ok () := by decide +kernel
  have hsecond : ((single (handlePostRequestTimeouts batchLibraries sampleBlock) lapsingBatch
      ((secondLapsing, agreeing), .noCode)).run batchWorld).1 = .ok () := by decide +kernel
  have hboth :
    ((singles (handlePostRequestTimeouts batchLibraries sampleBlock) lapsingBatch [agreeing, agreeing] []).run
      batchWorld).1 = .ok () := by decide +kernel
  refine ⟨by decide, ?_, ⟨_, run_of_fst_ok hboth⟩, by decide +kernel⟩
  have hitems : lapsingBatch.items [agreeing, agreeing] [] =
      [((lapsingRequest, agreeing), .noCode), ((secondLapsing, agreeing), .noCode)] := rfl
  rw [AcceptedAlone, hitems, List.forall_mem_cons, List.forall_mem_singleton]
  exact ⟨⟨_, run_of_fst_ok hfirst⟩, ⟨_, run_of_fst_ok hsecond⟩⟩

end Hyperbridge.Evm
