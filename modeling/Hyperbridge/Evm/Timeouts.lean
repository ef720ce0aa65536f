import Hyperbridge.Evm.Frame

/-!
# What a host knows of Hyperbridge

A host sees Hyperbridge through state commitments taken from its headers. A request that timed out had no receipt in one
of the blocks it has seen, and a GET response that was delivered is in the mountain range of one of them (`Justified`),
whatever the contracts called do (`progress_entries`). Nothing is said about time.
-/

namespace Hyperbridge.Evm

open Lib Exec
open Beefy (Header StateCommitment IntermediateState MmrLeaf)
open Beefy.HeaderImpl (stateCommitment)

structure HyperBlock where
  header : Header
  slot : Nat
  receipts : H256 → Bool
  forwarded : List PostRequest
  answered : List GetResponse

def HyperBlock.clock (b : HyperBlock) : Nat := 12 * b.slot

structure Contents where
  trie : H256 → Bytes → Bytes
  leaves : H256 → H256 → Prop

/-- Proofs show what stands behind a root. -/
structure ProofsSound (L : Libraries) (T : Contents) : Prop where
  trie : ∀ root proof key entry rest, L.verifySubstrateProof root proof [key] = .ok (entry :: rest) →
    entry.value = T.trie root key
  leaves : ∀ root proof leaves count, L.verifyProof root proof leaves count = .ok true →
    ∀ leaf ∈ leaves, T.leaves root leaf.hash

/-- The state commitment of one of the blocks. -/
def Seen (B : Beefy.Libraries) (blocks : List HyperBlock) (state : StateCommitment) : Prop :=
  ∃ b ∈ blocks, stateCommitment B b.header = .ok state

/-- The consensus client only brings states of these blocks. -/
def Block.Truthful (B : Beefy.Libraries) (blocks : List HyperBlock) (b : Block) : Prop :=
  ∀ trusted proof state intermediates, b.verifyConsensus trusted proof = .ok (state, intermediates) →
    ∀ i ∈ intermediates, Seen B blocks i.commitment

def Callback.timedOut (L : Libraries) : Callback → Option H256
  | onPostRequestTimeout request => some (L.hashPost request)
  | onGetTimeout request => some (L.hashGet request)
  | _ => none

variable (L : Libraries) (B : Beefy.Libraries) (T : Contents) (blocks : List HyperBlock)

/-- The child trie has no receipt for the request. -/
def Absent (state : StateCommitment) (k : H256) : Prop :=
  T.trie state.stateRoot (requestReceiptsStorage ++ k.bytes) = []

/-- State commitments, timeouts and answers go back to blocks. -/
structure Justified (w : World) : Prop where
  commitments : ∀ height, (w.host.stateCommitments height).overlayRoot ≠ BytesN.zero 32 ∨
    (w.host.stateCommitments height).stateRoot ≠ BytesN.zero 32 → Seen B blocks (w.host.stateCommitments height)
  timeouts : ∀ callback k, callback.timedOut L = some k → .called callback true ∈ w.trace →
    ∃ state, .timingOut callback state ∈ w.trace ∧ Seen B blocks state ∧ Absent T state k
  answers : ∀ response, .called (.onGetResponse response) true ∈ w.trace →
    ∃ state, Seen B blocks state ∧ T.leaves state.overlayRoot (L.hashGetResponse response)

/-- The log grows and stays justified. -/
def Progress (w w' : World) : Prop :=
  Justified L B T blocks w → w.trace <+: w'.trace ∧ Justified L B T blocks w'

instance : IsPreorder World (Progress L B T blocks) where
  refl w hw := ⟨List.prefix_rfl, hw⟩
  trans w w' w'' h h' hw := by
    obtain ⟨hgrows, hw'⟩ := h hw
    obtain ⟨hgrows', hw''⟩ := h' hw'
    exact ⟨hgrows.trans hgrows', hw''⟩

variable {L B T blocks} {w : World}

variable {f : Host → Host}

theorem Justified.writes (hw : Justified L B T blocks w)
    (hf : ∀ h, (f h).stateCommitments = h.stateCommitments) : Justified L B T blocks ⟨f w.host, w.trace⟩ := by
  refine ⟨fun height => ?_, hw.timeouts, hw.answers⟩
  rw [hf]
  exact hw.commitments height

variable {t : Trace}

theorem Justified.note (hw : Justified L B T blocks w)
    (htimeout : ∀ callback k, callback.timedOut L = some k → t = .called callback true →
      ∃ state, .timingOut callback state ∈ w.trace ∧ Seen B blocks state ∧ Absent T state k)
    (hanswer : ∀ response, t = .called (.onGetResponse response) true →
      ∃ state, Seen B blocks state ∧ T.leaves state.overlayRoot (L.hashGetResponse response)) :
    Justified L B T blocks ⟨w.host, w.trace ++ [t]⟩ := by
  refine ⟨hw.commitments, fun callback k hk hmem => ?_, fun response hmem => ?_⟩
  · have hreason : ∃ state, .timingOut callback state ∈ w.trace ∧ Seen B blocks state ∧ Absent T state k := by
      rcases List.mem_append.mp hmem with hold | hnew
      · exact hw.timeouts callback k hk hold
      · exact htimeout callback k hk (List.mem_singleton.mp hnew).symm
    obtain ⟨state, hstate, hseen, habsent⟩ := hreason
    exact ⟨state, List.mem_append_left _ hstate, hseen, habsent⟩
  · rcases List.mem_append.mp hmem with hold | hnew
    · exact hw.answers response hold
    · exact hanswer response (List.mem_singleton.mp hnew).symm

theorem progress_writes (hf : ∀ h, (f h).stateCommitments = h.stateCommitments) :
    Keeps (Progress L B T blocks) (writes f) :=
  keeps_writes fun _ hw => ⟨List.prefix_rfl, hw.writes hf⟩

/-- Neither a timeout nor a GET response succeeded. -/
def Silent (L : Libraries) (t : Trace) : Prop :=
  (∀ callback k, callback.timedOut L = some k → t ≠ .called callback true) ∧
    ∀ response, t ≠ .called (.onGetResponse response) true

theorem progress_note (ht : Silent L t) : Keeps (Progress L B T blocks) (note t) := by
  refine keeps_note fun w hw => ⟨List.prefix_append _ _, hw.note ?_ ?_⟩
  · exact fun callback k hk h => absurd h (ht.1 callback k hk)
  · exact fun response h => absurd h (ht.2 response)

variable {callback : Callback}

theorem silent_called (htimeout : callback.timedOut L = none)
    (hanswer : ∀ response, callback ≠ .onGetResponse response) (success : Bool) :
    Silent L (.called callback success) := by
  refine ⟨?_, fun response h => hanswer response (Trace.called.inj h).1⟩
  rintro _ k hk ⟨⟩
  rw [htimeout] at hk
  cases hk

theorem silent_of_idle (ht : t.Idle) : Silent L t := by
  cases t with
  | called callback success =>
    cases callback with
    | onPostResponseTimeout response => exact silent_called rfl (by simp) success
    | _ =>
      obtain rfl : success = false := ht
      exact ⟨by simp, by simp⟩
  | delivering => exact ht.elim
  | _ => exact ⟨by simp, by simp⟩

theorem progress_neutral : Neutral (Progress L B T blocks) where
  writes _ hf w := progress_writes (fun h => (hf h).2.2) w rfl
  note _ ht w := progress_note (silent_of_idle ht) w rfl

variable {m : Module}

/-- A delivery, given what its callback notes. -/
theorem progress_deliver {receipted : Host → Bool} {mark unmark : Host → Host}
    {event : Event} (hmark : ∀ h, (mark h).stateCommitments = h.stateCommitments)
    (hunmark : ∀ h, (unmark h).stateCommitments = h.stateCommitments)
    (hcalled : ∀ success, Keeps (Progress L B T blocks) (note (.called callback success)))
    (hm : m.Keeps (Progress L B T blocks)) :
    Keeps (Progress L B T blocks) (deliver callback receipted mark unmark event m) :=
  keeps_deliver (fun _ => progress_note ⟨by simp, by simp⟩) (progress_writes hmark) hm hcalled
    (progress_neutral.keeps_emit event) (progress_writes hunmark)

variable {state : StateCommitment}

theorem progress_dispatchIncomingGet {response : GetResponse} {relayer : H160}
    (hseen : Seen B blocks state) (hleaf : T.leaves state.overlayRoot (L.hashGetResponse response))
    (hm : m.Keeps (Progress L B T blocks)) :
    Keeps (Progress L B T blocks) (dispatchIncomingGet L response relayer m) := by
  refine progress_deliver (fun _ => rfl) (fun _ => rfl) (fun success => ?_) hm
  refine keeps_note fun w hw => ⟨List.prefix_append _ _, hw.note ?_ ?_⟩
  · rintro _ k hk ⟨⟩
    cases hk
  · rintro _ ⟨⟩
    exact ⟨state, hseen, hleaf⟩

theorem progress_checks {α β : Type} {f : Host → Call α} {g : α → Code β}
    (hg : ∀ w a, Justified L B T blocks w → f w.host = .ok a → Keeps (Progress L B T blocks) (g a)) :
    Keeps (Progress L B T blocks) (checks f >>= g) :=
  Keeps.query_bind (P := Justified L B T blocks) (fun _ _ h hw => h hw hw) hg

variable {b : Block}

theorem progress_handleGetResponses {caller : H160} {ms : List Module} (hsound : ProofsSound L T)
    (hms : ∀ m ∈ ms, m.Keeps (Progress L B T blocks)) (message : GetResponseMessage) :
    Keeps (Progress L B T blocks) (handleGetResponses L b caller message ms) := by
  refine progress_checks fun w _ hw hcheck => ?_
  obtain ⟨leaves, hleaves, hverify⟩ := checkBatch_ok hcheck
  obtain ⟨hroot, hvalid⟩ := verifyLeaves_ok hverify
  refine keeps_withModules hms message.responses
    (fun leaf m => dispatchIncomingGet L leaf.response caller m) fun leaf hleaf m hm => ?_
  obtain ⟨l, hl, hcommitted⟩ := forall₂_mem hleaves hleaf
  refine progress_dispatchIncomingGet (hw.commitments _ (Or.inl hroot)) ?_ hm
  rw [← checkGetResponse_ok hcommitted]
  exact hsound.leaves _ _ _ _ hvalid l hl

theorem progress_timeOut {k : H256} {remove restore : Host → Host}
    {metadata : FeeMetadata} {event : Event} {refund : Module} (hk : callback.timedOut L = some k)
    (hseen : Seen B blocks state) (habsent : Absent T state k) (hremove : Beside remove)
    (hrestore : Beside restore) (hm : m.Keeps (Progress L B T blocks))
    (hrefund : refund.Keeps (Progress L B T blocks)) :
    Keeps (Progress L B T blocks) (do
      note (.timingOut callback state)
      timeOut callback remove restore metadata event m refund) := by
  intro w hret hw
  let w₁ : World := ⟨remove w.host, w.trace ++ [.timingOut callback state]⟩
  have hrun : (do note (.timingOut callback state)
                  timeOut callback remove restore metadata event m refund : Code Unit).run w =
      (do note (.called callback (m.call w₁).2)
          settleTimeOut restore metadata event refund (m.call w₁).2 : Code Unit).run (m.call w₁).1 := rfl
  have hstart : Progress L B T blocks w w₁ := fun hw =>
    ⟨List.prefix_append _ _, (hw.note (by simp) (by simp)).writes fun h => (hremove h).2.2⟩
  obtain ⟨hgrows, hw₁⟩ := hstart hw
  obtain ⟨hgrows', hw₂⟩ := hm w₁ hw₁
  -- the entry made before the callback is still there after it
  have hentry : .timingOut callback state ∈ (m.call w₁).1.trace := hgrows'.subset (by simp [w₁])
  have hw₃ : Justified L B T blocks ⟨(m.call w₁).1.host,
      (m.call w₁).1.trace ++ [.called callback (m.call w₁).2]⟩ := by
    refine hw₂.note ?_ ?_
    · intro _ k' hk' h
      obtain ⟨rfl, -⟩ := Trace.called.inj h
      obtain rfl : k = k' := Option.some.inj (hk.symm.trans hk')
      exact ⟨state, hentry, hseen, habsent⟩
    · intro response h
      obtain ⟨rfl, -⟩ := Trace.called.inj h
      cases hk
  rw [hrun] at hret ⊢
  obtain ⟨hgrows₃, hend⟩ := progress_neutral.keeps_settleTimeOut hrestore hrefund (m.call w₁).2 _ hret hw₃
  exact ⟨hgrows.trans (hgrows'.trans ((List.prefix_append _ _).trans hgrows₃)), hend⟩

section Items

variable {state : StateCommitment} {proof : List Bytes} {i : Nat} {m refund : Module} (hsound : ProofsSound L T)
  (hseen : Seen B blocks state) (hm : m.Keeps (Progress L B T blocks))
  (hrefund : refund.Keeps (Progress L B T blocks))

include hsound in
omit hseen hm hrefund in
theorem absent_of_checkTimeout {timeoutTimestamp : UInt64} {commitment : H256}
    {sent : Host → H256 → FeeMetadata} {h : Host} {metadata : FeeMetadata}
    (hcheck : checkTimeout L state proof i timeoutTimestamp requestReceiptsStorage commitment sent h =
      .ok metadata) : Absent T state commitment := by
  obtain ⟨entry, rest, hentry, hvalue⟩ := verifyAbsent_ok (checkTimeout_ok hcheck)
  rw [Absent, ← hsound.trie _ _ _ _ _ hentry]
  exact hvalue

include hsound hseen hm hrefund

theorem progress_timeOutGet (request : GetRequest) :
    Keeps (Progress L B T blocks) (timeOutGet L state proof i request m refund) := by
  refine progress_checks fun w metadata _ hcheck => ?_
  exact progress_timeOut rfl hseen (absent_of_checkTimeout hsound hcheck) (beside_setRequestCommitment _ _)
    (beside_setRequestCommitment _ _) hm hrefund

theorem progress_timeOutPost (request : PostRequest) :
    Keeps (Progress L B T blocks) (timeOutPost L state proof i request m refund) := by
  refine progress_checks fun w metadata _ hcheck => ?_
  have habsent := absent_of_checkTimeout hsound hcheck
  cases haddress : bytesToAddress request.fromModule with
  | error e =>
    simp only [dispatchTimeOutPost, haddress]
    refine (progress_note (t := .timingOut (.onPostRequestTimeout request) state) ⟨by simp, by simp⟩).bind ?_
    exact fun _ => Keeps.ofExcept_bind fun address h => absurd h (by simp)
  | ok address =>
    simp only [dispatchTimeOutPost, haddress]
    exact progress_timeOut rfl hseen habsent (beside_setRequestCommitment _ _) (beside_setRequestCommitment _ _)
      hm hrefund

end Items

theorem progress_handleTimeouts {α : Type} {ms transfers : List Module}
    (hms : ∀ m ∈ ms, m.Keeps (Progress L B T blocks)) (htransfers : ∀ m ∈ transfers, m.Keeps (Progress L B T blocks))
    (message : TimeoutMessage α) {body : StateCommitment → List Bytes → Nat → α → Module → Module → Code Unit}
    (hbody : ∀ state, Seen B blocks state → ∀ proof i a, ∀ m refund : Module, m.Keeps (Progress L B T blocks) →
      refund.Keeps (Progress L B T blocks) → Keeps (Progress L B T blocks) (body state proof i a m refund)) :
    Keeps (Progress L B T blocks) (handleTimeouts b message body ms transfers) := by
  refine progress_checks fun w state hw hstate => ?_
  obtain ⟨rfl, hroot⟩ := timeoutState_ok hstate
  exact keeps_timeouts hms htransfers message.timeouts (body _ message.proof)
    (hbody _ (hw.commitments _ (Or.inr hroot)) message.proof)

theorem progress_storeCommitment (height : StateMachineHeight) (hseen : Seen B blocks state)
    (hf : ∀ h, (f h).stateCommitments = Function.update h.stateCommitments height state) :
    Keeps (Progress L B T blocks) (writes f) := by
  refine keeps_writes fun w hw => ⟨List.prefix_rfl, ?_, hw.timeouts, hw.answers⟩
  intro height' hroot
  rw [hf] at hroot ⊢
  by_cases heq : height' = height
  · rw [heq, Function.update_self]
    exact hseen
  · rw [Function.update_of_ne heq] at hroot ⊢
    exact hw.commitments height' hroot

theorem progress_handleConsensus (htrue : b.Truthful B blocks) (proof : Bytes) :
    Keeps (Progress L B T blocks) (handleConsensus b proof) := by
  refine progress_checks fun w verified _ hverified => ?_
  have hseen : ∀ i ∈ verified.2, Seen B blocks i.commitment := by
    simp only [verifyUpdate, except_check_ok] at hverified
    obtain ⟨delay, -, hverified⟩ := except_bind_ok.mp hverified.2
    exact htrue _ _ _ _ (except_check_ok.mp hverified).2
  refine Keeps.bind (progress_writes fun _ => rfl) fun _ => Keeps.forEach fun intermediate hmem => ?_
  refine (keeps_reads _).bind fun latest => ?_
  split
  · refine Keeps.bind (progress_storeCommitment _ (hseen intermediate hmem) fun _ => rfl) fun _ => ?_
    exact (keeps_checks _).bind fun id => progress_neutral.keeps_emit _
  · exact Keeps.pure ()

/-- Every entry keeps the log justified. -/
theorem progress_entries (hsound : ProofsSound L T) (htrue : b.Truthful B blocks) :
    EntriesKeep L b (Progress L B T blocks) := by
  intro entry caller ms transfers hms htransfers
  refine progress_neutral.keeps_exec hms htransfers (progress_handleConsensus htrue) ?_ ?_
    (progress_handleGetResponses hsound hms) ?_ ?_
  · intro message _
    refine keeps_handlePostRequests hms message fun request m hm => (Keeps.ofExcept _).bind fun _ => ?_
    split
    · exact progress_deliver (fun _ => rfl) (fun _ => rfl) (fun _ => progress_note (silent_called rfl (by simp) _)) hm
    · exact Keeps.pure ()
  · intro message _
    refine keeps_handlePostResponses hms message fun leaf _ m hm => (Keeps.ofExcept _).bind fun _ => ?_
    exact progress_deliver (fun _ => rfl) (fun _ => rfl) (fun _ => progress_note (silent_called rfl (by simp) _)) hm
  · intro message
    exact progress_handleTimeouts hms htransfers message fun state hseen proof i request m refund hm hrefund =>
      progress_timeOutPost hsound hseen hm hrefund request
  · intro message
    exact progress_handleTimeouts hms htransfers message fun state hseen proof i request m refund hm hrefund =>
      progress_timeOutGet hsound hseen hm hrefund request

end Hyperbridge.Evm
