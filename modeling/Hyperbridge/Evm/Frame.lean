import Hyperbridge.Evm.Handler

/-!
# Relations kept by transactions

A relation between worlds is kept by every transaction, with all that the contracts called do in it, if every entry
keeps it provided the modules it calls do (`Transaction.run_keeps`). The other lemmas reduce an entry to its writes and
calls. `Neutral` is what is the same for every relation looked at: writes and log entries beside receipts, state
commitments, deliveries and callbacks that succeeded.
-/

namespace Hyperbridge.Evm

open Lib Exec
open Beefy (StateCommitment IntermediateState MmrLeaf)

variable {L : Libraries} {b : Block} {R : World → World → Prop}

/-- Whatever the call does, the relation holds. -/
def Module.Keeps (R : World → World → Prop) (m : Module) : Prop := ∀ w, R w (m.call w).1

theorem keeps_callModule {m : Module} (hm : m.Keeps R) : Keeps R (callModule m) := fun w _ => hm w

theorem keeps_writes {f : Host → Host} (hf : ∀ w : World, R w ⟨f w.host, w.trace⟩) : Keeps R (writes f) :=
  Keeps.modify hf

theorem keeps_note {t : Trace} (ht : ∀ w : World, R w ⟨w.host, w.trace ++ [t]⟩) : Keeps R (note t) :=
  Keeps.modify ht

theorem Module.keeps_noCode [IsPreorder World R] : Module.noCode.Keeps R := fun w => refl_of R w

/-- The entry keeps the relation if the calls it makes do. -/
def EntryKeeps (L : Libraries) (b : Block) (R : World → World → Prop) (entry : Entry) : Prop :=
  ∀ (caller : Account) (ms transfers : List Module), (∀ m ∈ ms, m.Keeps R) → (∀ m ∈ transfers, m.Keeps R) →
    Keeps R (entry.exec L b caller.address ms transfers)

def EntriesKeep (L : Libraries) (b : Block) (R : World → World → Prop) : Prop := ∀ entry, EntryKeeps L b R entry

mutual

def Transaction.entries : Transaction → List Entry
  | .mk _ entry calls transfers => entry :: (entriesCalled calls ++ entriesCalled transfers)

def Reaction.entries : Reaction → List Entry
  | .noCode => []
  | .reacts transactions _ => entriesOfAll transactions

def entriesCalled : List Reaction → List Entry
  | [] => []
  | reaction :: reactions => reaction.entries ++ entriesCalled reactions

def entriesOfAll : List Transaction → List Entry
  | [] => []
  | transaction :: transactions => transaction.entries ++ entriesOfAll transactions

end

-- the recursion is that of the run: a transaction's calls are part of it
mutual

theorem Transaction.run_keeps [IsPreorder World R] :
    (t : Transaction) → (∀ entry ∈ t.entries, EntryKeeps L b R entry) → ∀ w, R w (t.run L b w)
  | .mk caller entry calls transfers => by
    intro hentries w
    rw [Transaction.entries, List.forall_mem_cons, List.forall_mem_append] at hentries
    obtain ⟨hentry, hcalls, htransfers⟩ := hentries
    have hexec := hentry caller _ _ (modules_keep calls hcalls) (modules_keep transfers htransfers) w
    rw [Transaction.run]
    split
    · rename_i hrun
      rw [hrun] at hexec
      exact hexec rfl
    · exact refl_of R w

theorem Reaction.module_keeps [IsPreorder World R] :
    (r : Reaction) → (∀ entry ∈ r.entries, EntryKeeps L b R entry) → (r.module L b).Keeps R
  | .noCode => by
    intro _
    rw [Reaction.module]
    exact Module.keeps_noCode
  | .reacts transactions success => by
    intro hentries w
    rw [Reaction.entries] at hentries
    rw [Reaction.module]
    cases success with
    | false => exact refl_of R w
    | true => exact runAll_keeps transactions hentries w

theorem modules_keep [IsPreorder World R] :
    (rs : List Reaction) → (∀ entry ∈ entriesCalled rs, EntryKeeps L b R entry) → ∀ m ∈ modules L b rs, m.Keeps R
  | [] => by
    rw [modules]
    simp
  | r :: rs => by
    intro hentries m hm
    rw [entriesCalled, List.forall_mem_append] at hentries
    rw [modules, List.mem_cons] at hm
    rcases hm with rfl | hm
    · exact Reaction.module_keeps r hentries.1
    · exact modules_keep rs hentries.2 m hm

theorem runAll_keeps [IsPreorder World R] :
    (ts : List Transaction) → (∀ entry ∈ entriesOfAll ts, EntryKeeps L b R entry) → ∀ w, R w (runAll L b ts w)
  | [] => by
    intro _ w
    rw [runAll]
    exact refl_of R w
  | t :: ts => by
    intro hentries w
    rw [entriesOfAll, List.forall_mem_append] at hentries
    rw [runAll]
    exact trans_of R (Transaction.run_keeps t hentries.1 w) (runAll_keeps ts hentries.2 _)

end

theorem runChain_keeps [IsPreorder World R] (hentries : ∀ b, EntriesKeep L b R)
    (steps : List (Block × Transaction)) (w : World) : R w (runChain L steps w) := by
  induction steps generalizing w with
  | nil => exact refl_of R w
  | cons step steps ih => exact trans_of R (Transaction.run_keeps step.2
    (fun entry _ => hentries step.1 entry) w) (ih _)

variable {α : Type} {h : Host}

theorem checkBatch_ok {proof : Proof} {check : Host → α → Call MmrLeaf} {items : List α}
    (hcheck : checkBatch L b proof check items h = .ok ()) :
    ∃ leaves, List.Forall₂ (fun item leaf => check h item = .ok leaf) items leaves ∧
      verifyLeaves L proof leaves h = .ok () := by
  simp only [checkBatch, except_check_ok] at hcheck
  obtain ⟨-, -, hcheck⟩ := hcheck
  obtain ⟨leaves, hleaves, hverify⟩ := except_bind_ok.mp hcheck
  exact ⟨leaves, except_mapM_ok.mp hleaves, hverify⟩

/-- What an accepted request has passed. -/
theorem checkPostRequest_ok {leaf : PostRequestLeaf} {l : MmrLeaf} (hcheck : checkPostRequest L b h leaf = .ok l) :
    hasRequestReceipt (L.hashPost leaf.request) h = false ∧ l.hash = L.hashPost leaf.request := by
  simp only [checkPostRequest, except_check_ok, revertIf_ok] at hcheck
  obtain ⟨-, -, hreceipt, hleaf⟩ := hcheck
  rw [← Except.ok.inj hleaf]
  exact ⟨by simpa using hreceipt, rfl⟩

theorem checkGetResponse_ok {leaf : GetResponseLeaf} {l : MmrLeaf}
    (hcheck : checkGetResponse L h leaf = .ok l) : l.hash = L.hashGetResponse leaf.response := by
  simp only [checkGetResponse, except_check_ok] at hcheck
  rw [← Except.ok.inj hcheck.2.2]

theorem verifyLeaves_ok {proof : Proof} {leaves : List MmrLeaf} (hverify : verifyLeaves L proof leaves h = .ok ()) :
    (h.stateCommitments proof.height).overlayRoot ≠ BytesN.zero 32 ∧
      L.verifyProof (h.stateCommitments proof.height).overlayRoot proof.multiproof leaves proof.leafCount =
        .ok true := by
  simp only [verifyLeaves, except_check_ok, revertIf_ok] at hverify
  obtain ⟨hroot, hverify⟩ := hverify
  obtain ⟨valid, hvalid, hverify⟩ := except_bind_ok.mp hverify
  rw [revertIf_ok, Bool.not_eq_false] at hverify
  exact ⟨hroot, hverify ▸ hvalid⟩

variable {state : StateCommitment}

theorem timeoutState_ok {height : StateMachineHeight} (hstate : timeoutState b height h = .ok state) :
    state = h.stateCommitments height ∧ state.stateRoot ≠ BytesN.zero 32 := by
  simp only [timeoutState, except_check_ok, revertIf_ok] at hstate
  obtain ⟨-, -, hroot, hstate⟩ := hstate
  rw [← Except.ok.inj hstate]
  exact ⟨rfl, hroot⟩

variable {proof : List Bytes} {i : Nat}

theorem verifyAbsent_ok {root : H256} {key : Bytes} (habsent : verifyAbsent L root proof i key = .ok ()) :
    ∃ entry rest, L.verifySubstrateProof root proof [key] = .ok (entry :: rest) ∧ entry.value = [] := by
  rw [verifyAbsent, except_check_ok] at habsent
  obtain ⟨values, hvalues, hentry⟩ := except_bind_ok.mp habsent.2
  cases values with
  | nil => cases hentry
  | cons entry rest => exact ⟨entry, rest, hvalues, by simpa [revertIf_ok] using hentry⟩

/-- What a timeout has passed. -/
theorem checkTimeout_ok {timeoutTimestamp : UInt64}
    {storage : Bytes} {commitment : H256} {sent : Host → H256 → FeeMetadata} {metadata : FeeMetadata}
    (hcheck : checkTimeout L state proof i timeoutTimestamp storage commitment sent h = .ok metadata) :
    verifyAbsent L state.stateRoot proof i (storage ++ commitment.bytes) = .ok () := by
  simp only [checkTimeout, except_check_ok] at hcheck
  exact hcheck.2.2.1

theorem checkTimeout_metadata {timeoutTimestamp : UInt64}
    {storage : Bytes} {commitment : H256} {sent : Host → H256 → FeeMetadata} {metadata : FeeMetadata}
    (hcheck : checkTimeout L state proof i timeoutTimestamp storage commitment sent h = .ok metadata) :
    metadata = sent h commitment ∧ metadata.sender ≠ BytesN.zero 20 := by
  simp only [checkTimeout, except_check_ok, revertIf_ok] at hcheck
  obtain ⟨-, hsender, -, hmetadata⟩ := hcheck
  cases hmetadata
  exact ⟨rfl, hsender⟩

variable [IsPreorder World R]

theorem keeps_reads (f : Host → α) : Keeps R (reads f) := Keeps.gets _

theorem keeps_checks (f : Host → Call α) : Keeps R (checks f) := Keeps.query _

theorem keeps_mustCall {m : Module} (hm : m.Keeps R) : Keeps R (mustCall m) :=
  (keeps_callModule hm).bind fun _ => Keeps.throwIf _ _

omit [IsPreorder World R] in
theorem map_withModules (as : List α) (ms : List Module) : (withModules as ms).map Prod.fst = as := by
  induction as generalizing ms with
  | nil => rfl
  | cons a as ih =>
    cases ms with
    | nil => rw [withModules, List.map_cons, ih]
    | cons m ms => rw [withModules, List.map_cons, ih]

theorem withModules_keeps {as : List α} {ms : List Module} (hms : ∀ m ∈ ms, m.Keeps R) :
    ∀ am ∈ withModules as ms, am.1 ∈ as ∧ am.2.Keeps R := by
  induction as generalizing ms with
  | nil => simp [withModules]
  | cons a as ih =>
    intro am ham
    cases ms with
    | nil =>
      rw [withModules, List.mem_cons] at ham
      rcases ham with rfl | ham
      · exact ⟨by simp, Module.keeps_noCode⟩
      · obtain ⟨hmem, hkeeps⟩ := ih hms am ham
        exact ⟨List.mem_cons_of_mem _ hmem, hkeeps⟩
    | cons m ms =>
      rw [withModules, List.mem_cons] at ham
      rcases ham with rfl | ham
      · exact ⟨by simp, hms m (by simp)⟩
      · obtain ⟨hmem, hkeeps⟩ := ih (fun m hm => hms m (by simp [hm])) am ham
        exact ⟨List.mem_cons_of_mem _ hmem, hkeeps⟩

theorem keeps_deliver {callback : Callback} {receipted : Host → Bool} {mark unmark : Host → Host} {event : Event}
    {m : Module} (hstart : ∀ before, Keeps R (note (.delivering callback before))) (hmark : Keeps R (writes mark))
    (hm : m.Keeps R) (hcalled : ∀ success, Keeps R (note (.called callback success))) (hemit : Keeps R (emit event))
    (hunmark : Keeps R (writes unmark)) : Keeps R (deliver callback receipted mark unmark event m) := by
  refine (keeps_reads _).bind fun before => (hstart before).bind fun _ => hmark.bind fun _ => ?_
  refine (keeps_callModule hm).bind fun success => (hcalled success).bind fun _ => ?_
  cases success with
  | true => exact hemit
  | false => exact hunmark

theorem keeps_handleConsensus (hwrites : ∀ f : Host → Host, (∀ h, (f h).requestReceipts = h.requestReceipts ∧
      (f h).responseReceipts = h.responseReceipts ∧ (f h).requestCommitments = h.requestCommitments ∧
      (f h).responseCommitments = h.responseCommitments) → Keeps R (writes f))
    (hemit : ∀ id height, Keeps R (emit (.stateMachineUpdated id height))) (proof : Bytes) :
    Keeps R (handleConsensus b proof) := by
  refine (keeps_checks _).bind fun verified => ?_
  refine Keeps.bind (hwrites _ fun _ => ⟨rfl, rfl, rfl, rfl⟩) fun _ => Keeps.forEach fun intermediate _ => ?_
  refine (keeps_reads _).bind fun latest => ?_
  split
  · refine Keeps.bind (hwrites _ fun _ => ⟨rfl, rfl, rfl, rfl⟩) fun _ => (keeps_checks _).bind fun id => ?_
    exact hemit id _
  · exact Keeps.pure ()

/-- The write leaves receipts and state commitments alone. -/
def Beside (f : Host → Host) : Prop :=
  ∀ h, (f h).requestReceipts = h.requestReceipts ∧ (f h).responseReceipts = h.responseReceipts ∧
    (f h).stateCommitments = h.stateCommitments

variable (commitment : H256)

theorem beside_setRequestCommitment (metadata : FeeMetadata) :
    Beside (setRequestCommitment commitment metadata) := fun _ => ⟨rfl, rfl, rfl⟩

theorem beside_setResponseCommitment (metadata : FeeMetadata) :
    Beside (setResponseCommitment commitment metadata) := fun _ => ⟨rfl, rfl, rfl⟩

theorem beside_setResponded (responded : Bool) :
    Beside (setResponded commitment responded) := fun _ => ⟨rfl, rfl, rfl⟩

def Trace.Idle : Trace → Prop
  | .delivering _ _ => False
  | .called (.onPostResponseTimeout _) _ => True
  | .called _ success => success = false
  | _ => True

structure Neutral (R : World → World → Prop) : Prop where
  writes : ∀ f, Beside f → ∀ w : World, R w ⟨f w.host, w.trace⟩
  note : ∀ t : Trace, t.Idle → ∀ w : World, R w ⟨w.host, w.trace ++ [t]⟩

namespace Neutral

variable (hn : Neutral R)

include hn

omit [IsPreorder World R] in
theorem keeps_writes {f : Host → Host} (hf : Beside f) : Keeps R (Evm.writes f) :=
  Evm.keeps_writes (hn.writes f hf)

omit [IsPreorder World R] in
theorem keeps_note {t : Trace} (ht : t.Idle) : Keeps R (Evm.note t) := Evm.keeps_note (hn.note t ht)

omit [IsPreorder World R] in
theorem keeps_emit (e : Event) : Keeps R (emit e) := hn.keeps_note trivial

variable {refund : Module}

theorem keeps_settleTimeOut {restore : Host → Host} {metadata : FeeMetadata} {event : Event}
    (hrestore : Beside restore) (hrefund : refund.Keeps R) (success : Bool) :
    Keeps R (settleTimeOut restore metadata event refund success) := by
  cases success with
  | false => exact hn.keeps_writes hrestore
  | true =>
    show Keeps R (if metadata.fee ≠ 0 then _ else _)
    split
    · refine (hn.keeps_note (t := .refunded metadata) trivial).bind fun _ => ?_
      exact (keeps_mustCall hrefund).bind fun _ => hn.keeps_emit event
    · exact hn.keeps_emit event

/-- A timeout, given what its callback notes. -/
theorem keeps_timeOut {callback : Callback} {remove restore : Host → Host} {metadata : FeeMetadata}
    {event : Event} {m : Module} (hremove : Beside remove) (hrestore : Beside restore)
    (hcalled : ∀ success, Keeps R (Evm.note (.called callback success))) (hm : m.Keeps R)
    (hrefund : refund.Keeps R) : Keeps R (timeOut callback remove restore metadata event m refund) := by
  refine (hn.keeps_writes hremove).bind fun _ => (keeps_callModule hm).bind fun success => ?_
  exact (hcalled success).bind fun _ => hn.keeps_settleTimeOut hrestore hrefund success

variable {payment : Module}

theorem keeps_collectFee {fee : U256} (hp : payment.Keeps R) : Keeps R (collectFee fee payment) :=
  (hn.keeps_note (t := .collected fee) trivial).bind fun _ => keeps_mustCall hp

theorem keeps_nextNonce : Keeps R nextNonce := by
  refine (keeps_reads _).bind fun nonce => Keeps.bind (hn.keeps_writes ?_) fun _ => Keeps.pure nonce
  exact fun _ => ⟨rfl, rfl, rfl⟩

variable {caller : H160}

theorem keeps_dispatchPost {post : DispatchPost} (hp : payment.Keeps R) :
    Keeps R (dispatchPost L b caller post payment) := by
  refine (keeps_checks _).bind fun _ => (keeps_checks _).bind fun fee => ?_
  refine (hn.keeps_collectFee hp).bind fun _ => (keeps_checks _).bind fun lapse => ?_
  refine hn.keeps_nextNonce.bind fun nonce => ?_
  refine (hn.keeps_writes (beside_setRequestCommitment _ _)).bind fun _ => ?_
  exact (hn.keeps_emit _).bind fun _ => Keeps.pure _

theorem keeps_dispatchGet {get : DispatchGet} (hp : payment.Keeps R) :
    Keeps R (dispatchGet L b caller get payment) := by
  refine (keeps_checks _).bind fun _ => (keeps_checks _).bind fun fee => ?_
  refine (hn.keeps_collectFee hp).bind fun _ => (keeps_checks _).bind fun lapse => ?_
  refine hn.keeps_nextNonce.bind fun nonce => ?_
  refine (hn.keeps_writes (beside_setRequestCommitment _ _)).bind fun _ => ?_
  exact (hn.keeps_emit _).bind fun _ => Keeps.pure _

theorem keeps_dispatchPostResponse {post : DispatchPostResponse}
    (hp : payment.Keeps R) : Keeps R (dispatchPostResponse L b caller post payment) := by
  refine (keeps_checks _).bind fun _ => (keeps_checks _).bind fun _ => (keeps_checks _).bind fun fee => ?_
  refine (hn.keeps_collectFee hp).bind fun _ => (keeps_checks _).bind fun lapse => ?_
  refine (hn.keeps_writes (beside_setResponseCommitment _ _)).bind fun _ => ?_
  refine (hn.keeps_writes (beside_setResponded _ _)).bind fun _ => ?_
  exact (hn.keeps_emit _).bind fun _ => Keeps.pure _

theorem keeps_fundRequest {commitment : H256} {amount : U256} (hp : payment.Keeps R) :
    Keeps R (fundRequest commitment amount payment) := by
  refine (hn.keeps_collectFee hp).bind fun _ => (keeps_checks _).bind fun metadata => ?_
  exact (hn.keeps_writes (beside_setRequestCommitment _ _)).bind fun _ => hn.keeps_emit _

theorem keeps_fundResponse {commitment : H256} {amount : U256} (hp : payment.Keeps R) :
    Keeps R (fundResponse commitment amount payment) := by
  refine (hn.keeps_collectFee hp).bind fun _ => (keeps_checks _).bind fun metadata => ?_
  exact (hn.keeps_writes (beside_setResponseCommitment _ _)).bind fun _ => hn.keeps_emit _

theorem keeps_setFrozenState {status : FrozenStatus} : Keeps R (setFrozenState caller status) := by
  refine (keeps_checks _).bind fun _ => Keeps.bind (hn.keeps_writes ?_) fun _ => hn.keeps_emit _
  exact fun _ => ⟨rfl, rfl, rfl⟩

variable {state : StateCommitment} {proof : List Bytes} {i : Nat} {m : Module} (hm : m.Keeps R)
  (hrefund : refund.Keeps R)

include hm hrefund

theorem keeps_timeOutPost {request : PostRequest}
    (hcalled : ∀ success, Keeps R (Evm.note (.called (.onPostRequestTimeout request) success))) :
    Keeps R (timeOutPost L state proof i request m refund) := by
  refine (keeps_checks _).bind fun metadata => ?_
  refine (hn.keeps_note (t := .timingOut (.onPostRequestTimeout request) state) trivial).bind fun _ => ?_
  exact (Keeps.ofExcept _).bind fun _ => hn.keeps_timeOut (beside_setRequestCommitment _ _)
    (beside_setRequestCommitment _ _) hcalled hm hrefund

theorem keeps_timeOutGet {request : GetRequest}
    (hcalled : ∀ success, Keeps R (Evm.note (.called (.onGetTimeout request) success))) :
    Keeps R (timeOutGet L state proof i request m refund) := by
  refine (keeps_checks _).bind fun metadata => ?_
  refine (hn.keeps_note (t := .timingOut (.onGetTimeout request) state) trivial).bind fun _ => ?_
  exact hn.keeps_timeOut (beside_setRequestCommitment _ _) (beside_setRequestCommitment _ _) hcalled hm hrefund

theorem keeps_timeOutResponse {response : PostResponse} :
    Keeps R (timeOutResponse L state proof i response m refund) := by
  refine (keeps_checks _).bind fun metadata => ?_
  refine (hn.keeps_note (t := .timingOut (.onPostResponseTimeout response) state) trivial).bind fun _ => ?_
  refine (Keeps.ofExcept _).bind fun _ => hn.keeps_timeOut ?_ ?_ (fun _ => hn.keeps_note trivial) hm hrefund
  · exact fun _ => ⟨rfl, rfl, rfl⟩
  · exact fun _ => ⟨rfl, rfl, rfl⟩

end Neutral

section Batches

variable {ms transfers : List Module} (hms : ∀ m ∈ ms, m.Keeps R)

include hms

variable {α : Type}

/-- A loop over items and the calls they lead to. -/
theorem keeps_withModules (as : List α) (f : α → Module → Code Unit)
    (hf : ∀ a ∈ as, ∀ m : Module, m.Keeps R → Keeps R (f a m)) :
    Keeps R (forEach (fun am => f am.1 am.2) (withModules as ms)) := by
  refine Keeps.forEach fun am ham => ?_
  obtain ⟨hmem, hkeeps⟩ := withModules_keeps hms am ham
  exact hf _ hmem _ hkeeps

variable {caller : H160}

theorem keeps_handlePostRequests (message : PostRequestMessage)
    (hf : ∀ request, ∀ m : Module, m.Keeps R → Keeps R (dispatchIncomingPost L request caller m)) :
    Keeps R (handlePostRequests L b caller message ms) := by
  refine (keeps_checks _).bind fun _ => ?_
  exact keeps_withModules hms message.requests (fun leaf m => dispatchIncomingPost L leaf.request caller m)
    fun leaf _ => hf leaf.request

theorem keeps_handlePostResponses (message : PostResponseMessage)
    (hf : ∀ leaf ∈ message.responses, ∀ m : Module, m.Keeps R →
      Keeps R (dispatchIncomingResponse L leaf.response caller m)) :
    Keeps R (handlePostResponses L b caller message ms) := by
  refine (keeps_checks _).bind fun _ => ?_
  exact keeps_withModules hms message.responses (fun leaf m => dispatchIncomingResponse L leaf.response caller m) hf

theorem keeps_handleGetResponses (message : GetResponseMessage)
    (hf : ∀ response, ∀ m : Module, m.Keeps R → Keeps R (dispatchIncomingGet L response caller m)) :
    Keeps R (handleGetResponses L b caller message ms) := by
  refine (keeps_checks _).bind fun _ => ?_
  exact keeps_withModules hms message.responses (fun leaf m => dispatchIncomingGet L leaf.response caller m)
    fun leaf _ => hf leaf.response

variable (htransfers : ∀ m ∈ transfers, m.Keeps R)

include htransfers

theorem keeps_timeouts (as : List α) (body : Nat → α → Module → Module → Code Unit)
    (hbody : ∀ i a, ∀ m refund : Module, m.Keeps R → refund.Keeps R → Keeps R (body i a m refund)) :
    Keeps R (forEach (fun a => body a.2 a.1.1.1 a.1.1.2 a.1.2)
      (withModules (withModules as ms) transfers).zipIdx) := by
  refine Keeps.forEach fun a ha => ?_
  obtain ⟨hpair, hrefund⟩ := withModules_keeps htransfers a.1 (List.fst_mem_of_mem_zipIdx ha)
  obtain ⟨hmem, hm⟩ := withModules_keeps hms _ hpair
  exact hbody _ _ _ _ hm hrefund

theorem keeps_handleTimeouts (message : TimeoutMessage α)
    {body : StateCommitment → List Bytes → Nat → α → Module → Module → Code Unit}
    (hbody : ∀ state proof i a, ∀ m refund : Module, m.Keeps R → refund.Keeps R →
      Keeps R (body state proof i a m refund)) : Keeps R (handleTimeouts b message body ms transfers) := by
  refine (keeps_checks _).bind fun state => ?_
  exact keeps_timeouts hms htransfers message.timeouts (body state message.proof) (hbody state message.proof)

end Batches

theorem Neutral.keeps_paying {transfers : List Module} {f : Module → Code α}
    (htransfers : ∀ m ∈ transfers, m.Keeps R) (hf : ∀ m : Module, m.Keeps R → Keeps R (f m)) :
    Keeps R (paying transfers f) := by
  refine (hf _ ?_).bind fun _ => Keeps.pure ()
  cases transfers with
  | nil => exact Module.keeps_noCode
  | cons m transfers => exact htransfers m (by simp)

theorem Neutral.keeps_exec (hn : Neutral R) {caller : Account} {entry : Entry} {ms transfers : List Module}
    (hms : ∀ m ∈ ms, m.Keeps R) (htransfers : ∀ m ∈ transfers, m.Keeps R)
    (hconsensus : ∀ proof, Keeps R (handleConsensus b proof))
    (hposts : ∀ message, entry = .handlePostRequests message →
      Keeps R (handlePostRequests L b caller.address message ms))
    (hresponses : ∀ message, entry = .handlePostResponses message →
      Keeps R (handlePostResponses L b caller.address message ms))
    (hgets : ∀ message, Keeps R (handleGetResponses L b caller.address message ms))
    (hpostTimeouts : ∀ message, Keeps R (handlePostRequestTimeouts L b message ms transfers))
    (hgetTimeouts : ∀ message, Keeps R (handleGetRequestTimeouts L b message ms transfers)) :
    Keeps R (entry.exec L b caller.address ms transfers) := by
  cases entry with
  | handleConsensus proof => exact hconsensus proof
  | handlePostRequests message => exact hposts message rfl
  | handlePostResponses message => exact hresponses message rfl
  | handleGetResponses message => exact hgets message
  | handlePostRequestTimeouts message => exact hpostTimeouts message
  | handlePostResponseTimeouts message =>
    exact keeps_handleTimeouts hms htransfers message
      fun _ _ _ _ _ _ hm hrefund => hn.keeps_timeOutResponse hm hrefund
  | handleGetRequestTimeouts message => exact hgetTimeouts message
  | dispatchPost post => exact keeps_paying htransfers fun m hm => hn.keeps_dispatchPost hm
  | dispatchGet get => exact keeps_paying htransfers fun m hm => hn.keeps_dispatchGet hm
  | dispatchPostResponse post => exact keeps_paying htransfers fun m hm => hn.keeps_dispatchPostResponse hm
  | fundRequest commitment amount => exact keeps_paying htransfers fun m hm => hn.keeps_fundRequest hm
  | fundResponse commitment amount => exact keeps_paying htransfers fun m hm => hn.keeps_fundResponse hm
  | setFrozenState status => exact hn.keeps_setFrozenState

end Hyperbridge.Evm
