import Hyperbridge.Evm.Delivery

/-!
# Re-entrant calls and requests that are still to be delivered

While `handlePostRequests` works through a batch, the later requests are pending: the handler has seen that they have no
receipt and will not look again. `Transaction.orderly` says that none of them is delivered in between: no batch lists a
commitment twice, and none lists one that is pending. Then no delivery is stale (`Transaction.run_calm`), and `onAccept`
succeeds at most once for every commitment.
-/

namespace Hyperbridge.Evm

open Lib Exec
open Beefy (StateCommitment IntermediateState MmrLeaf)

variable (L : Libraries)

def PostRequestMessage.commitments (message : PostRequestMessage) : List H256 :=
  message.requests.map fun leaf => L.hashPost leaf.request

mutual

def Transaction.orderly : Transaction → List H256 → Bool
  | .mk _ (.handlePostRequests message) calls transfers, pending =>
    decide (message.commitments L).Nodup && (message.commitments L).all (fun k => decide (k ∉ pending)) &&
      inTurn calls (message.commitments L) pending && inTurn transfers [] pending
  | .mk _ _ calls transfers, pending => inTurn calls [] pending && inTurn transfers [] pending

def Reaction.orderly : Reaction → List H256 → Bool
  | .noCode, _ => true
  | .reacts transactions _, pending => eachOrderly transactions pending

def inTurn : List Reaction → List H256 → List H256 → Bool
  | [], _, _ => true
  | reaction :: reactions, [], pending => reaction.orderly pending && inTurn reactions [] pending
  | reaction :: reactions, _ :: ks, pending => reaction.orderly (ks ++ pending) && inTurn reactions ks pending

def eachOrderly : List Transaction → List H256 → Bool
  | [], _ => true
  | transaction :: transactions, pending => transaction.orderly pending && eachOrderly transactions pending

end

/-- No new stale delivery, and no receipt for what is pending. -/
def Calm (pending : List H256) (w w' : World) : Prop :=
  (∀ k, (∀ t ∈ w.trace, stale L .request k t = false) → ∀ t ∈ w'.trace, stale L .request k t = false) ∧
    ∀ k ∈ pending, hasRequestReceipt k w.host = false → hasRequestReceipt k w'.host = false

instance (pending : List H256) : IsPreorder World (Calm L pending) where
  refl _ := ⟨fun _ => id, fun _ _ => id⟩
  trans _ _ _ h h' := ⟨fun k hk => h'.1 k (h.1 k hk), fun k hk hfree => h'.2 k hk (h.2 k hk hfree)⟩

variable {L} {pending : List H256} {w w' : World}

theorem Calm.of_append {ks : List H256} (h : Calm L (ks ++ pending) w w') : Calm L pending w w' :=
  ⟨h.1, fun k hk => h.2 k (List.mem_append_right _ hk)⟩

theorem calm_note {t : Trace} (ht : ∀ k, stale L .request k t = false) : Keeps (Calm L pending) (note t) := by
  refine keeps_note fun w => ⟨fun k hk t' ht' => ?_, fun _ _ => id⟩
  rcases List.mem_append.mp ht' with hold | hnew
  · exact hk t' hold
  · rw [List.mem_singleton.mp hnew]
    exact ht k

theorem calm_writes {f : Host → Host} (hf : ∀ h, (f h).requestReceipts = h.requestReceipts) :
    Keeps (Calm L pending) (writes f) := by
  refine keeps_writes fun w => ⟨fun _ => id, fun k _ hfree => ?_⟩
  show hasRequestReceipt k (f w.host) = false
  rw [hasRequestReceipt, hf]
  exact hfree

theorem calm_neutral : Neutral (Calm L pending) where
  writes _ hf w := calm_writes (fun h => (hf h).1) w rfl
  note t ht w := by
    refine calm_note (fun k => ?_) w rfl
    cases t with
    | delivering => exact ht.elim
    | _ => rfl

theorem calm_deliver {callback : Callback} {receipted : Host → Bool} {mark unmark : Host → Host} {event : Event}
    {m : Module} (hcallback : ∀ k, callback.receipt L ≠ some (.request, k))
    (hmark : ∀ h, (mark h).requestReceipts = h.requestReceipts)
    (hunmark : ∀ h, (unmark h).requestReceipts = h.requestReceipts) (hm : m.Keeps (Calm L pending)) :
    Keeps (Calm L pending) (deliver callback receipted mark unmark event m) :=
  keeps_deliver (fun _ => calm_note fun k => by simp [stale, hcallback k]) (calm_writes hmark) hm
    (fun _ => calm_note fun _ => rfl) (calm_neutral.keeps_emit event) (calm_writes hunmark)

theorem calm_handleConsensus {b : Block} (proof : Bytes) : Keeps (Calm L pending) (handleConsensus b proof) :=
  keeps_handleConsensus (fun _ hf => calm_writes fun h => (hf h).1) (fun _ _ => calm_neutral.keeps_emit _) proof

theorem hasRequestReceipt_of_ne {k k' : H256} (hk : k' ≠ k) (relayer : H160) (h : Host) :
    hasRequestReceipt k' (setRequestReceipt k relayer h) = hasRequestReceipt k' h :=
  onlyAt_setRequestReceipt k relayer h .request k' fun heq => hk (Prod.mk.inj heq).2

theorem calm_dispatchIncomingPost {request : PostRequest} {relayer : H160} {m : Module} {u : Unit}
    (hfree : hasRequestReceipt (L.hashPost request) w.host = false) (hout : L.hashPost request ∉ pending)
    (hm : m.Keeps (Calm L pending)) (hrun : (dispatchIncomingPost L request relayer m).run w = (.ok u, w')) :
    Calm L pending w w' := by
  obtain ⟨address, -, hrun⟩ := ofExcept_bind_ok.mp hrun
  have hne {k : H256} (hk : k ∈ pending) : k ≠ L.hashPost request := fun h => hout (h ▸ hk)
  split at hrun
  · let w₁ : World := ⟨setRequestReceipt (L.hashPost request) relayer w.host,
      w.trace ++ [.delivering (.onAccept request) (hasRequestReceipt (L.hashPost request) w.host)]⟩
    have hstart : Calm L pending w w₁ := by
      refine ⟨fun k hk t ht => ?_, fun k hk hold => ?_⟩
      · rcases List.mem_append.mp ht with hmem | hnew
        · exact hk t hmem
        · rw [List.mem_singleton.mp hnew, hfree]
          rfl
      · rw [hasRequestReceipt_of_ne (hne hk)]
        exact hold
    have hend (success : Bool) : Keeps (Calm L pending)
        (do note (.called (.onAccept request) success)
            if success then emit (.postRequestHandled (L.hashPost request) relayer)
            else writes (setRequestReceipt (L.hashPost request) (BytesN.zero 20)) : Code Unit) := by
      refine (calm_note fun _ => rfl).bind fun _ => ?_
      cases success with
      | true => exact calm_note (t := .emitted (.postRequestHandled (L.hashPost request) relayer)) fun _ => rfl
      | false =>
        refine keeps_writes fun w => ⟨fun _ => id, fun k hk hold => ?_⟩
        rw [hasRequestReceipt_of_ne (hne hk)]
        exact hold
    exact trans_of (Calm L pending) hstart (trans_of (Calm L pending) (hm w₁) ((hend (m.call w₁).2).of_ok hrun))
  · rw [(Prod.mk.inj hrun).2]
    exact refl_of (Calm L pending) w'

/-- Every call keeps what is pending while it runs. -/
def CalmInTurn (L : Libraries) (pending : List H256) : List H256 → List Module → Prop
  | _, [] => True
  | [], m :: ms => m.Keeps (Calm L pending) ∧ CalmInTurn L pending [] ms
  | _ :: ks, m :: ms => m.Keeps (Calm L (ks ++ pending)) ∧ CalmInTurn L pending ks ms

theorem CalmInTurn.keeps {ms : List Module} (h : CalmInTurn L pending [] ms) :
    ∀ m ∈ ms, m.Keeps (Calm L pending) := by
  induction ms with
  | nil => simp
  | cons m ms ih =>
    intro m' hm'
    rcases List.mem_cons.mp hm' with rfl | hmem
    · exact h.1
    · exact ih h.2 m' hmem

theorem withModules_calm {leaf : PostRequestLeaf} {leaves : List PostRequestLeaf} {ks : List H256}
    {ms : List Module} (h : CalmInTurn L pending (L.hashPost leaf.request :: ks) ms) :
    ∃ m ms', withModules (leaf :: leaves) ms = (leaf, m) :: withModules leaves ms' ∧
      m.Keeps (Calm L (ks ++ pending)) ∧ CalmInTurn L pending ks ms' := by
  cases ms with
  | nil => exact ⟨.noCode, [], rfl, Module.keeps_noCode, by cases ks <;> trivial⟩
  | cons m ms => exact ⟨m, ms, rfl, h.1, h.2⟩

theorem calm_batch {leaves : List PostRequestLeaf} {ms : List Module} {caller : H160} {u : Unit}
    (hnodup : (leaves.map fun leaf => L.hashPost leaf.request).Nodup)
    (hout : ∀ leaf ∈ leaves, L.hashPost leaf.request ∉ pending)
    (hfree : ∀ leaf ∈ leaves, hasRequestReceipt (L.hashPost leaf.request) w.host = false)
    (hms : CalmInTurn L pending (leaves.map fun leaf => L.hashPost leaf.request) ms)
    (hrun : (forEach (fun am => dispatchIncomingPost L am.1.request caller am.2) (withModules leaves ms)).run w =
      (.ok u, w')) : Calm L pending w w' := by
  -- along the batch: what is left of it has no receipts yet
  induction leaves generalizing ms w with
  | nil =>
    rw [← (Prod.mk.inj hrun).2]
    exact refl_of (Calm L pending) w
  | cons leaf leaves ih =>
    obtain ⟨hnotin, hnodup⟩ := List.nodup_cons.mp hnodup
    obtain ⟨m, ms', hitems, hm, hms'⟩ := withModules_calm hms
    rw [hitems] at hrun
    obtain ⟨v, w₁, hfirst, hrest⟩ := forEach_cons_ok.mp hrun
    have hnot : L.hashPost leaf.request ∉ (leaves.map fun leaf => L.hashPost leaf.request) ++ pending := by
      rw [List.mem_append, not_or]
      exact ⟨hnotin, hout leaf (by simp)⟩
    have hstep := calm_dispatchIncomingPost (hfree leaf (by simp)) hnot hm hfirst
    refine trans_of (Calm L pending) hstep.of_append (ih hnodup (fun l hl => hout l (by simp [hl])) ?_ hms' hrest)
    intro l hl
    refine hstep.2 _ (List.mem_append_left _ ?_) (hfree l (by simp [hl]))
    exact List.mem_map_of_mem hl

theorem calm_handlePostRequests {b : Block} {message : PostRequestMessage} {ms : List Module} {caller : H160}
    {u : Unit} (hnodup : (message.commitments L).Nodup) (hout : ∀ k ∈ message.commitments L, k ∉ pending)
    (hms : CalmInTurn L pending (message.commitments L) ms)
    (hrun : (handlePostRequests L b caller message ms).run w = (.ok u, w')) : Calm L pending w w' := by
  obtain ⟨_, hcheck, hrun⟩ := query_bind_ok.mp hrun
  obtain ⟨leaves, hleaves, -⟩ := checkBatch_ok hcheck
  refine calm_batch hnodup (fun leaf hleaf => hout _ (List.mem_map_of_mem hleaf)) (fun leaf hleaf => ?_) hms hrun
  obtain ⟨l, -, hl⟩ := forall₂_mem hleaves hleaf
  exact (checkPostRequest_ok hl).1

theorem calm_exec {b : Block} {caller : Account} {entry : Entry} {ms transfers : List Module}
    (hentry : ∀ message, entry ≠ .handlePostRequests message) (hms : ∀ m ∈ ms, m.Keeps (Calm L pending))
    (htransfers : ∀ m ∈ transfers, m.Keeps (Calm L pending)) :
    Keeps (Calm L pending) (entry.exec L b caller.address ms transfers) := by
  refine calm_neutral.keeps_exec hms htransfers calm_handleConsensus ?_ ?_ ?_ ?_ ?_
  · intro message h
    exact absurd h (hentry message)
  · intro message _
    refine keeps_handlePostResponses hms message fun leaf _ m hm => (Keeps.ofExcept _).bind fun _ => ?_
    exact calm_deliver (fun k => by simp [Callback.receipt]) (fun _ => rfl) (fun _ => rfl) hm
  · intro message
    refine keeps_handleGetResponses hms message fun response m hm => ?_
    exact calm_deliver (fun k => by simp [Callback.receipt]) (fun _ => rfl) (fun _ => rfl) hm
  · intro message
    exact keeps_handleTimeouts hms htransfers message fun _ _ _ _ _ _ hm hrefund =>
      calm_neutral.keeps_timeOutPost hm hrefund fun _ => calm_note fun _ => rfl
  · intro message
    exact keeps_handleTimeouts hms htransfers message fun _ _ _ _ _ _ hm hrefund =>
      calm_neutral.keeps_timeOutGet hm hrefund fun _ => calm_note fun _ => rfl

theorem Transaction.orderly_iff {caller : Account} {entry : Entry} {calls transfers : List Reaction} :
    (Transaction.mk caller entry calls transfers).orderly L pending = true ↔ inTurn L transfers [] pending = true ∧
      ((∃ message, entry = .handlePostRequests message ∧ (message.commitments L).Nodup ∧
          (∀ k ∈ message.commitments L, k ∉ pending) ∧ inTurn L calls (message.commitments L) pending = true) ∨
        (∀ message, entry ≠ .handlePostRequests message) ∧ inTurn L calls [] pending = true) := by
  cases entry with
  | handlePostRequests message => simp [Transaction.orderly, and_comm, and_left_comm]
  | _ => simp [Transaction.orderly, and_comm]

mutual

theorem Transaction.run_calm {b : Block} :
    (t : Transaction) → ∀ pending, t.orderly L pending = true → ∀ w, Calm L pending w (t.run L b w)
  | .mk caller entry calls transfers => by
    intro pending horderly w
    obtain ⟨htransfers, hentry⟩ := Transaction.orderly_iff.mp horderly
    have hpaid := (modules_calm (b := b) transfers [] pending htransfers).keeps
    rw [Transaction.run]
    split
    · rename_i hrun
      rcases hentry with ⟨message, rfl, hnodup, hout, hcalls⟩ | ⟨hother, hcalls⟩
      · exact calm_handlePostRequests hnodup hout (modules_calm calls _ pending hcalls) hrun
      · exact (calm_exec hother (modules_calm calls [] pending hcalls).keeps hpaid).of_ok hrun
    · exact refl_of (Calm L pending) w

theorem Reaction.module_calm {b : Block} :
    (r : Reaction) → ∀ pending, r.orderly L pending = true → (r.module L b).Keeps (Calm L pending)
  | .noCode => by
    intro pending _
    rw [Reaction.module]
    exact Module.keeps_noCode
  | .reacts transactions success => by
    intro pending horderly w
    rw [Reaction.orderly] at horderly
    rw [Reaction.module]
    cases success with
    | false => exact refl_of (Calm L pending) w
    | true => exact runAll_calm transactions pending horderly w

theorem modules_calm {b : Block} :
    (rs : List Reaction) → ∀ ks pending, inTurn L rs ks pending = true → CalmInTurn L pending ks (modules L b rs)
  | [] => by
    intro ks pending _
    rw [modules]
    cases ks <;> trivial
  | r :: rs => by
    intro ks pending horderly
    rw [modules]
    cases ks with
    | nil =>
      rw [inTurn, Bool.and_eq_true] at horderly
      exact ⟨Reaction.module_calm r pending horderly.1, modules_calm rs [] pending horderly.2⟩
    | cons k ks =>
      rw [inTurn, Bool.and_eq_true] at horderly
      exact ⟨Reaction.module_calm r (ks ++ pending) horderly.1, modules_calm rs ks pending horderly.2⟩

theorem runAll_calm {b : Block} :
    (ts : List Transaction) → ∀ pending, eachOrderly L ts pending = true → ∀ w, Calm L pending w (runAll L b ts w)
  | [] => by
    intro pending _ w
    rw [runAll]
    exact refl_of (Calm L pending) w
  | t :: ts => by
    intro pending horderly w
    rw [eachOrderly, Bool.and_eq_true] at horderly
    rw [runAll]
    exact trans_of (Calm L pending) (Transaction.run_calm t pending horderly.1 w)
      (runAll_calm ts pending horderly.2 _)

end

theorem runChain_calm {steps : List (Block × Transaction)}
    (horderly : ∀ step ∈ steps, step.2.orderly L [] = true) (w : World) : Calm L [] w (runChain L steps w) := by
  induction steps generalizing w with
  | nil => exact refl_of (Calm L []) w
  | cons step steps ih =>
    refine trans_of (Calm L []) (Transaction.run_calm step.2 [] (horderly step (by simp)) w) (ih ?_ _)
    exact fun s hs => horderly s (by simp [hs])

/-- `onAccept` succeeded for the commitment. -/
def accepted (L : Libraries) (k : H256) : Trace → Bool
  | .called (.onAccept request) success => success && decide (L.hashPost request = k)
  | _ => false

theorem accepted_eq_delivered (k : H256) (t : Trace) : accepted L k t = delivered L .request k t := by
  cases t with
  | called callback success =>
    cases callback with
    | onAccept request => simp [accepted, delivered, Callback.receipt]
    | _ => simp [accepted, delivered, Callback.receipt]
  | _ => rfl

/-- In a run of orderly transactions `onAccept` succeeds at most once for every commitment. -/
theorem onAccept_at_most_once {steps : List (Block × Transaction)} {w : World} (hstart : w.trace = [])
    (horderly : ∀ step ∈ steps, step.2.orderly L [] = true) (k : H256) :
    (runChain L steps w).trace.countP (accepted L k) ≤ 1 := by
  have hcalm := (runChain_calm horderly w).1 k (by simp [hstart])
  have hcount : (runChain L steps w).trace.countP (delivered L .request k) ≤ 1 :=
    delivered_at_most_once hstart hcalm
  rw [funext (accepted_eq_delivered k)]
  exact hcount

def incomingRequest (nonce : UInt64) : PostRequest where
  source := otherChain
  dest := sampleChain
  nonce := nonce
  fromModule := List.replicate 20 0x11
  toModule := List.replicate 20 0x22
  timeoutTimestamp := 0
  body := []

def firstHash : H256 := BytesN.ofNat 32 0x2700d7d43158e9d460ae5798574e8b0ac9910cb6d44403e269209c61ff2395e1

def secondHash : H256 := BytesN.ofNat 32 0xb493a727aa8bc8498b09e469650425d4816dcc1b53303c9d24ec7a5bbb3e2270

def rangeRoot : H256 := BytesN.ofNat 32 0x22e727eff1e5ca5639696dd93f2ac0224c13f5038439f53da1b5dfdde8f522bc

def requestLibraries : Libraries :=
  sampleLibraries (fun r => if r = incomingRequest 0 then firstHash else if r = incomingRequest 1 then secondHash
    else BytesN.zero 32) (fun _ => BytesN.zero 32)
    fun left right => if left = firstHash ∧ right = secondHash then rangeRoot else BytesN.zero 32

def requestWorld : World := ⟨sampleHost rangeRoot, []⟩

def bothRequests (reaction : Reaction) : Transaction :=
  .mk sampleRelayer
    (.handlePostRequests ⟨⟨sampleHeight, [], 2⟩, [⟨incomingRequest 0, 0, 0⟩, ⟨incomingRequest 1, 1, 1⟩]⟩)
    [reaction, .reacts [] true] []

def secondRequest : Transaction :=
  .mk sampleRelayer (.handlePostRequests ⟨⟨sampleHeight, [firstHash], 2⟩, [⟨incomingRequest 1, 1, 1⟩]⟩)
    [.reacts [] true] []

theorem onAccept_at_most_once_sample :
    (bothRequests (.reacts [] true)).orderly requestLibraries [] = true ∧
    (runChain requestLibraries [(sampleBlock, bothRequests (.reacts [] true))] requestWorld).trace.countP
      (accepted requestLibraries secondHash) ≤ 1 := by
  have horderly : (bothRequests (.reacts [] true)).orderly requestLibraries [] = true := by decide +kernel
  refine ⟨horderly, onAccept_at_most_once rfl (fun step hstep => ?_) secondHash⟩
  rw [List.mem_singleton.mp hstep]
  exact horderly

/-- The callback of the first request delivers the second one, and then the batch delivers it again. -/
theorem pending_request_accepted_twice :
    requestWorld.trace = [] ∧
    ¬ (runChain requestLibraries [(sampleBlock, bothRequests (.reacts [secondRequest] true))]
      requestWorld).trace.countP (accepted requestLibraries secondHash) ≤ 1 := by
  refine ⟨rfl, ?_⟩
  decide +kernel

end Hyperbridge.Evm
