import Hyperbridge.Evm.Frame
import Hyperbridge.Lib.Once
import Mathlib.Algebra.Order.BigOperators.Group.List

/-!
# At-most-once delivery on an EVM host

`dispatchIncoming` writes a receipt before the callback and takes it back if the callback fails. It never looks whether
there is one already; the handler does, once for a whole batch. An entry `delivering c true` of the log is a delivery
that started under a receipt. Without such entries, what is delivered under a receipt succeeds at most once, however the
contracts called call back (`delivered_at_most_once`).

For responses the handler asks for a receipt under the commitment of the response, and `dispatchIncoming` stores it
under that of the request: they are delivered as often as the calls list them (`answers_runChain_le`).
-/

namespace Hyperbridge.Evm

open Lib Exec
open Beefy (StateCommitment IntermediateState MmrLeaf)

inductive Receipts where
  | request
  | response
  deriving DecidableEq

def Receipts.stored : Receipts → H256 → Host → Bool
  | request => hasRequestReceipt
  | response => hasResponseReceipt

variable (L : Libraries)

/-- The receipt a callback is made under. -/
def Callback.receipt : Callback → Option (Receipts × H256)
  | onAccept request => some (.request, L.hashPost request)
  | onPostResponse response => some (.response, L.hashPost response.request)
  | onGetResponse response => some (.response, L.hashGet response.request)
  | _ => none

variable (kind : Receipts) (k : H256)

/-- A callback that succeeded under the receipt. -/
def delivered : Trace → Bool
  | .called callback success => success && decide (callback.receipt L = some (kind, k))
  | _ => false

/-- A delivery that started although the receipt was there. -/
def stale : Trace → Bool
  | .delivering callback receipted => receipted && decide (callback.receipt L = some (kind, k))
  | _ => false

def delivery : Once World where
  marked w := kind.stored k w.host = true
  count w := w.trace.countP (delivered L kind k)
  good w := ∀ t ∈ w.trace, stale L kind k t = false

variable {L kind k}

variable {t : Trace}

theorem delivery_good_of_append {h h' : Host} {trace : List Trace}
    (hg : (delivery L kind k).good ⟨h, trace ++ [t]⟩) : (delivery L kind k).good ⟨h', trace⟩ :=
  fun t' ht' => hg t' (List.mem_append_left _ ht')

theorem delivery_writes {f : Host → Host} (hf : ∀ h, kind.stored k (f h) = kind.stored k h) :
    Keeps (delivery L kind k).Le (writes f) := by
  refine keeps_writes fun w => Once.Le.of_quiet id (fun hm => ?_) rfl
  show kind.stored k (f w.host) = true
  rw [hf]
  exact hm

theorem delivery_note (ht : delivered L kind k t = false) : Keeps (delivery L kind k).Le (note t) := by
  refine keeps_note fun w => Once.Le.of_quiet delivery_good_of_append id ?_
  show (w.trace ++ [t]).countP (delivered L kind k) = w.trace.countP (delivered L kind k)
  simp [ht]

theorem stored_of_receipts {f : Host → Host} (hrequests : ∀ h, (f h).requestReceipts = h.requestReceipts)
    (hresponses : ∀ h, (f h).responseReceipts = h.responseReceipts) (h : Host) :
    kind.stored k (f h) = kind.stored k h := by
  cases kind with
  | request => simp only [Receipts.stored, hasRequestReceipt, hrequests]
  | response => simp only [Receipts.stored, hasResponseReceipt, hresponses]

theorem delivered_of_idle (ht : t.Idle) : delivered L kind k t = false := by
  cases t with
  | called callback success =>
    cases callback with
    | onPostResponseTimeout response => simp [delivered, Callback.receipt]
    | _ =>
      obtain rfl : success = false := ht
      rfl
  | _ => rfl

theorem delivery_neutral : Neutral (delivery L kind k).Le where
  writes _ hf w := delivery_writes (stored_of_receipts (fun h => (hf h).1) fun h => (hf h).2.1) w rfl
  note _ ht w := delivery_note (delivered_of_idle ht) w rfl

def OnlyAt (kind : Receipts) (k : H256) (f : Host → Host) : Prop :=
  ∀ h kind' k', (kind', k') ≠ (kind, k) → kind'.stored k' (f h) = kind'.stored k' h

theorem onlyAt_setRequestReceipt (k : H256) (relayer : H160) : OnlyAt .request k (setRequestReceipt k relayer) := by
  intro h kind' k' hne
  cases kind' with
  | request =>
    have hk : k' ≠ k := fun hk => hne (by rw [hk])
    simp only [Receipts.stored, hasRequestReceipt, setRequestReceipt, Function.update_of_ne hk]
  | response => rfl

theorem onlyAt_setResponseReceipt (k : H256) (receipt : ResponseReceipt) :
    OnlyAt .response k (setResponseReceipt k receipt) := by
  intro h kind' k' hne
  cases kind' with
  | request => rfl
  | response =>
    have hk : k' ≠ k := fun hk => hne (by rw [hk])
    simp only [Receipts.stored, hasResponseReceipt, setResponseReceipt, Function.update_of_ne hk]

variable {callback : Callback} {mark unmark : Host → Host} {event : Event} {m : Module}

theorem delivery_deliver_of_ne {kind' : Receipts} {k' : H256} {receipted : Host → Bool}
    (hcallback : callback.receipt L = some (kind', k'))
    (hmark : OnlyAt kind' k' mark) (hunmark : OnlyAt kind' k' unmark) (hne : (kind, k) ≠ (kind', k'))
    (hm : m.Keeps (delivery L kind k).Le) :
    Keeps (delivery L kind k).Le (deliver callback receipted mark unmark event m) := by
  have hcalled (success : Bool) : delivered L kind k (.called callback success) = false := by
    simp [delivered, hcallback, hne.symm]
  exact keeps_deliver (fun _ => delivery_note rfl) (delivery_writes fun h => hmark h kind k hne) hm
    (fun success => delivery_note (hcalled success)) (delivery_note rfl) (delivery_writes fun h => hunmark h kind k hne)

theorem delivery_deliver_of_eq
    (hcallback : callback.receipt L = some (kind, k)) (hmark : ∀ h, kind.stored k (mark h) = true)
    (hm : m.Keeps (delivery L kind k).Le) :
    Keeps (delivery L kind k).Le (deliver callback (kind.stored k) mark unmark event m) := by
  intro w _
  let w₁ : World := ⟨mark w.host, w.trace ++ [.delivering callback (kind.stored k w.host)]⟩
  have hrun : (deliver callback (kind.stored k) mark unmark event m).run w =
      (do note (.called callback (m.call w₁).2)
          if (m.call w₁).2 then emit event else writes unmark : Code Unit).run (m.call w₁).1 := rfl
  have hcall : (delivery L kind k).Le w₁ (m.call w₁).1 := hm w₁
  have hbefore : (delivery L kind k).good w₁ → (delivery L kind k).good w := delivery_good_of_append
  have hcount : (delivery L kind k).count w₁ = (delivery L kind k).count w := by
    simp [delivery, w₁, delivered]
  rw [hrun]
  -- what the log says of the start is still in it at the end
  have hfresh (hg : (delivery L kind k).good (m.call w₁).1) : ¬ (delivery L kind k).marked w := by
    intro hmarked
    have hentry := (hcall hg).1 (.delivering callback (kind.stored k w.host)) (by simp [w₁])
    rw [stale, (hmarked : kind.stored k w.host = true), hcallback] at hentry
    simp at hentry
  cases hsuccess : (m.call w₁).2 with
  | true =>
    refine Once.Le.deliver ?_ hbefore (hmark _) hcount hcall ?_ (Or.inl ⟨id, ?_⟩)
    · intro hg
      exact hfresh fun t ht => hg t (by simp [ht, emit, note])
    · intro hg t ht
      exact hg t (by simp [ht, emit, note])
    · show ((_ ++ [_]) ++ [_] : List Trace).countP (delivered L kind k) = _
      simp [delivered, hcallback, delivery]
  | false =>
    refine Once.Le.deliver ?_ hbefore (hmark _) hcount hcall ?_ (Or.inr ?_)
    · intro hg
      exact hfresh fun t ht => hg t (by simp [ht, note, writes])
    · intro hg t ht
      exact hg t (by simp [ht, note, writes])
    · show (_ ++ [_] : List Trace).countP (delivered L kind k) = _
      simp [delivered, delivery]

theorem delivery_deliver (kind' : Receipts) (k' : H256) (hcallback : callback.receipt L = some (kind', k'))
    (hstored : ∀ h, kind'.stored k' (mark h) = true) (hmark : OnlyAt kind' k' mark)
    (hunmark : OnlyAt kind' k' unmark) (hm : m.Keeps (delivery L kind k).Le) :
    Keeps (delivery L kind k).Le (deliver callback (kind'.stored k') mark unmark event m) := by
  by_cases hk : (kind, k) = (kind', k')
  · obtain ⟨rfl, rfl⟩ := Prod.mk.inj hk
    exact delivery_deliver_of_eq hcallback hstored hm
  · exact delivery_deliver_of_ne hcallback hmark hunmark hk hm

theorem stored_setRequestReceipt {relayer : H160} (hrelayer : relayer ≠ BytesN.zero 20) (k : H256) (h : Host) :
    Receipts.request.stored k (setRequestReceipt k relayer h) = true := by
  simp [Receipts.stored, hasRequestReceipt, setRequestReceipt, hrelayer]

theorem stored_setResponseReceipt {receipt : ResponseReceipt} (hrelayer : receipt.relayer ≠ BytesN.zero 20)
    (k : H256) (h : Host) : Receipts.response.stored k (setResponseReceipt k receipt h) = true := by
  simp [Receipts.stored, hasResponseReceipt, setResponseReceipt, hrelayer]

section Relayer

variable {relayer : H160} (hrelayer : relayer ≠ BytesN.zero 20) {m : Module} (hm : m.Keeps (delivery L kind k).Le)

include hrelayer hm

theorem delivery_dispatchIncomingPost (request : PostRequest) :
    Keeps (delivery L kind k).Le (dispatchIncomingPost L request relayer m) := by
  refine (Keeps.ofExcept _).bind fun _ => ?_
  split
  · exact delivery_deliver .request (L.hashPost request) rfl (stored_setRequestReceipt hrelayer _)
      (onlyAt_setRequestReceipt _ _) (onlyAt_setRequestReceipt _ _) hm
  · exact Keeps.pure ()

theorem delivery_dispatchIncomingResponse (response : PostResponse) :
    Keeps (delivery L kind k).Le (dispatchIncomingResponse L response relayer m) := by
  refine (Keeps.ofExcept _).bind fun _ => ?_
  exact delivery_deliver .response (L.hashPost response.request) rfl (stored_setResponseReceipt hrelayer _)
    (onlyAt_setResponseReceipt _ _) (onlyAt_setResponseReceipt _ _) hm

theorem delivery_dispatchIncomingGet (response : GetResponse) :
    Keeps (delivery L kind k).Le (dispatchIncomingGet L response relayer m) :=
  delivery_deliver .response (L.hashGet response.request) rfl (stored_setResponseReceipt hrelayer _)
    (onlyAt_setResponseReceipt _ _) (onlyAt_setResponseReceipt _ _) hm

end Relayer

theorem delivery_called (hcallback : callback.receipt L = none) (success : Bool) :
    Keeps (delivery L kind k).Le (note (.called callback success)) :=
  delivery_note (by simp [delivered, hcallback])

theorem delivery_handleConsensus {b : Block} (proof : Bytes) :
    Keeps (delivery L kind k).Le (handleConsensus b proof) :=
  keeps_handleConsensus (fun _ hf => delivery_writes (stored_of_receipts (fun h => (hf h).1) fun h => (hf h).2.1))
    (fun _ _ => delivery_note rfl) proof

theorem delivery_entries (b : Block) : EntriesKeep L b (delivery L kind k).Le := by
  intro entry caller ms transfers hms htransfers
  refine delivery_neutral.keeps_exec hms htransfers delivery_handleConsensus ?_ ?_ ?_ ?_ ?_
  · intro message _
    exact keeps_handlePostRequests hms message fun request m hm =>
      delivery_dispatchIncomingPost caller.nonzero hm request
  · intro message _
    exact keeps_handlePostResponses hms message fun leaf _ m hm =>
      delivery_dispatchIncomingResponse caller.nonzero hm leaf.response
  · intro message
    exact keeps_handleGetResponses hms message fun response m hm =>
      delivery_dispatchIncomingGet caller.nonzero hm response
  · intro message
    exact keeps_handleTimeouts hms htransfers message fun _ _ _ _ _ _ hm hrefund =>
      delivery_neutral.keeps_timeOutPost hm hrefund (delivery_called rfl)
  · intro message
    exact keeps_handleTimeouts hms htransfers message fun _ _ _ _ _ _ hm hrefund =>
      delivery_neutral.keeps_timeOutGet hm hrefund (delivery_called rfl)

theorem delivered_at_most_once {steps : List (Block × Transaction)} {w : World} (hstart : w.trace = [])
    (hfresh : ∀ t ∈ (runChain L steps w).trace, stale L kind k t = false) :
    (runChain L steps w).trace.countP (delivered L kind k) ≤ 1 := by
  have hrun : (delivery L kind k).Le w (runChain L steps w) := runChain_keeps delivery_entries steps w
  have hzero : (delivery L kind k).count w = 0 := by
    show w.trace.countP (delivered L kind k) = 0
    rw [hstart]
    rfl
  have hsafe : (delivery L kind k).Safe w := ⟨by omega, by omega⟩
  exact ((hrun hfresh).2.2 hsafe).1

def answered (L : Libraries) (k : H256) : Trace → Bool
  | .called (.onPostResponse response) success => success && decide (L.hashPost response.request = k)
  | _ => false

/-- How often a response to the request was delivered. -/
def answers (L : Libraries) (k : H256) (w : World) : Nat := w.trace.countP (answered L k)

def isAnswer (L : Libraries) (k : H256) (response : PostResponse) : Nat :=
  if L.hashPost response.request = k then 1 else 0

/-- How often the entry lists a response to the request. -/
def Entry.answers (L : Libraries) (k : H256) : Entry → Nat
  | .handlePostResponses message => (message.responses.map fun leaf => isAnswer L k leaf.response).sum
  | _ => 0

def Transaction.entry : Transaction → Entry
  | .mk _ entry _ _ => entry

/-- The entries called from within the transaction. -/
def Transaction.nested : Transaction → List Entry
  | .mk _ _ calls transfers => entriesCalled calls ++ entriesCalled transfers

/-- No response to the request was delivered in between. -/
def Unanswered (L : Libraries) (k : H256) (w w' : World) : Prop := answers L k w' = answers L k w

instance : IsPreorder World (Unanswered L k) where
  refl _ := rfl
  trans _ _ _ hab hbc := hbc.trans hab

theorem unanswered_note (ht : answered L k t = false) : Keeps (Unanswered L k) (note t) :=
  keeps_note fun w => by simp [Unanswered, answers, ht]

theorem unanswered_neutral : Neutral (Unanswered L k) where
  writes _ _ _ := rfl
  note t ht w := by
    refine unanswered_note ?_ w rfl
    cases t with
    | called callback success =>
      cases callback with
      | onPostResponse response =>
        obtain rfl : success = false := ht
        rfl
      | _ => rfl
    | _ => rfl

theorem unanswered_deliver {receipted : Host → Bool} (hcallback : ∀ success,
    answered L k (.called callback success) = false)
    (hm : m.Keeps (Unanswered L k)) : Keeps (Unanswered L k) (deliver callback receipted mark unmark event m) :=
  keeps_deliver (fun _ => unanswered_note rfl) (keeps_writes fun _ => rfl) hm
    (fun success => unanswered_note (hcallback success))
    (unanswered_note rfl) (keeps_writes fun _ => rfl)

theorem unanswered_entry {b : Block} {entry : Entry} (hentry : entry.answers L k = 0) :
    EntryKeeps L b (Unanswered L k) entry := by
  intro caller ms transfers hms htransfers
  refine unanswered_neutral.keeps_exec hms htransfers ?_ ?_ ?_ ?_ ?_ ?_
  · exact keeps_handleConsensus (fun _ _ => keeps_writes fun _ => rfl) fun _ _ => unanswered_note rfl
  · intro message _
    refine keeps_handlePostRequests hms message fun request m hm => (Keeps.ofExcept _).bind fun _ => ?_
    split
    · exact unanswered_deliver (fun _ => rfl) hm
    · exact Keeps.pure ()
  · rintro message rfl
    refine keeps_handlePostResponses hms message fun leaf hleaf m hm => (Keeps.ofExcept _).bind fun _ => ?_
    have hzero : isAnswer L k leaf.response = 0 := List.sum_eq_zero_iff.mp hentry _ (List.mem_map_of_mem hleaf)
    have hne : L.hashPost leaf.response.request ≠ k := by simpa [isAnswer] using hzero
    exact unanswered_deliver (fun success => by simp [answered, hne]) hm
  · intro message
    exact keeps_handleGetResponses hms message fun response m hm => unanswered_deliver (fun _ => rfl) hm
  · intro message
    exact keeps_handleTimeouts hms htransfers message fun _ _ _ _ _ _ hm hrefund =>
      unanswered_neutral.keeps_timeOutPost hm hrefund fun _ => unanswered_note rfl
  · intro message
    exact keeps_handleTimeouts hms htransfers message fun _ _ _ _ _ _ hm hrefund =>
      unanswered_neutral.keeps_timeOutGet hm hrefund fun _ => unanswered_note rfl

variable {w w' : World} {u : Unit}

theorem answers_deliver_le {receipted : Host → Bool} (hm : m.Keeps (Unanswered L k))
    (hrun : (deliver callback receipted mark unmark event m).run w = (.ok u, w')) :
    answers L k w' ≤ answers L k w + 1 := by
  let w₁ : World := ⟨mark w.host, w.trace ++ [.delivering callback (receipted w.host)]⟩
  have hstart : answers L k w₁ = answers L k w := by simp [answers, w₁, answered]
  have hcall : answers L k (m.call w₁).1 = answers L k w₁ := hm w₁
  let w₂ : World := ⟨(m.call w₁).1.host, (m.call w₁).1.trace ++ [.called callback (m.call w₁).2]⟩
  have hcalled : answers L k w₂ ≤ answers L k (m.call w₁).1 + 1 := by
    show ((m.call w₁).1.trace ++ [_]).countP (answered L k) ≤ _
    rw [List.countP_append, List.countP_singleton]
    exact Nat.add_le_add_left (by split <;> omega) _
  have hend : Keeps (Unanswered L k) (if (m.call w₁).2 then emit event else writes unmark) := by
    split
    · exact unanswered_note rfl
    · exact keeps_writes fun _ => rfl
  have hsame : answers L k w' = answers L k w₂ := hend.of_ok hrun
  omega

theorem answers_handlePostResponses_le {b : Block} {caller : H160} {message : PostResponseMessage} {ms : List Module}
    (hms : ∀ m ∈ ms, m.Keeps (Unanswered L k)) (hrun : (handlePostResponses L b caller message ms).run w =
      (.ok u, w')) : answers L k w' ≤ answers L k w + (Entry.handlePostResponses message).answers L k := by
  obtain ⟨_, -, hrun⟩ := query_bind_ok.mp hrun
  have hsum : (Entry.handlePostResponses message).answers L k =
      ((withModules message.responses ms).map fun am => isAnswer L k am.1.response).sum := by
    conv_lhs => rw [Entry.answers, ← map_withModules message.responses ms, List.map_map]
    rfl
  rw [hsum]
  refine forEach_ok_sum (Q := fun n w w' => answers L k w' ≤ answers L k w + n) (fun _ => le_rfl)
    (fun _ _ _ _ _ h h' => by omega) (fun am ham v v' hitem => ?_) hrun
  obtain ⟨-, hm⟩ := withModules_keeps hms am ham
  obtain ⟨address, -, hitem⟩ := ofExcept_bind_ok.mp hitem
  by_cases heq : L.hashPost am.1.response.request = k
  · rw [isAnswer, if_pos heq]
    exact answers_deliver_le hm hitem
  · rw [isAnswer, if_neg heq]
    exact ((unanswered_deliver (fun success => by simp [answered, heq]) hm).of_ok hitem).le

theorem Transaction.answers_run_le {b : Block} {t : Transaction} (hnested : ∀ entry ∈ t.nested, entry.answers L k = 0)
    (w : World) : answers L k (t.run L b w) ≤ answers L k w + t.entry.answers L k := by
  obtain ⟨caller, entry, calls, transfers⟩ := t
  obtain hzero | hpos := Nat.eq_zero_or_pos (entry.answers L k)
  · have hnone : Unanswered L k w ((Transaction.mk caller entry calls transfers).run L b w) := by
      refine Transaction.run_keeps _ (fun e he => unanswered_entry ?_) w
      rw [Transaction.entries] at he
      rcases List.mem_cons.mp he with rfl | he
      · exact hzero
      · exact hnested e he
    exact hnone.le.trans (Nat.le_add_right _ _)
  · match entry with
    | .handlePostResponses message =>
      have hms := modules_keep (L := L) (b := b) calls fun e he => unanswered_entry
        (hnested e (List.mem_append_left _ he))
      rw [Transaction.run]
      split
      · rename_i hrun
        exact answers_handlePostResponses_le hms hrun
      · exact Nat.le_add_right _ _

theorem answers_runChain_le {steps : List (Block × Transaction)}
    (hnested : ∀ step ∈ steps, ∀ entry ∈ step.2.nested, entry.answers L k = 0) (w : World) :
    answers L k (runChain L steps w) ≤ answers L k w + (steps.map fun step => step.2.entry.answers L k).sum := by
  induction steps generalizing w with
  | nil => exact le_rfl
  | cons step steps ih =>
    rw [List.forall_mem_cons] at hnested
    have hfirst := Transaction.answers_run_le (b := step.1) hnested.1 w
    have hrest := ih hnested.2 (step.2.run L step.1 w)
    rw [List.map_cons, List.sum_cons]
    show answers L k (runChain L steps (step.2.run L step.1 w)) ≤ _
    omega

/-- If the calls of relayers list one response to the request altogether, and no call made from within a callback lists
one, `onPostResponse` succeeds at most once for the request. -/
theorem onPostResponse_at_most_once {steps : List (Block × Transaction)} {w : World} (hstart : w.trace = [])
    (hnested : ∀ step ∈ steps, ∀ entry ∈ step.2.nested, entry.answers L k = 0)
    (hlisted : (steps.map fun step => step.2.entry.answers L k).sum ≤ 1) :
    (runChain L steps w).trace.countP (answered L k) ≤ 1 := by
  have hzero : answers L k w = 0 := by
    rw [answers, hstart]
    rfl
  have hle := answers_runChain_le hnested w
  rw [hzero, Nat.zero_add] at hle
  exact hle.trans hlisted

/-- Mountain ranges of up to two leaves. -/
def smallRange (node : H256 → H256 → H256) (root : H256) (proof : List H256) (leaves : List MmrLeaf)
    (leafCount : U256) : Call Bool :=
  match proof, leaves with
  | [], [leaf] => .ok (decide (leafCount = 1 ∧ root = leaf.hash))
  | [], [left, right] => .ok (decide (leafCount = 2 ∧ root = node left.hash right.hash))
  | [other], [leaf] =>
    .ok (decide (leafCount = 2 ∧ root = if leaf.leafIndex = 0 then node leaf.hash other else node other leaf.hash))
  | _, _ => .ok false

def sampleChain : Bytes := [0x45, 0x56, 0x4d, 0x2d, 0x31]

def otherChain : Bytes := [0x45, 0x56, 0x4d, 0x2d, 0x39, 0x37]

def sampleRequest : PostRequest where
  source := sampleChain
  dest := otherChain
  nonce := 0
  fromModule := List.replicate 20 0x11
  toModule := List.replicate 20 0x22
  timeoutTimestamp := 0
  body := []

def sampleResponse : PostResponse := ⟨sampleRequest, [1], 0⟩

def sampleLibraries (hashPost : PostRequest → H256) (hashPostResponse : PostResponse → H256)
    (node : H256 → H256 → H256) : Libraries where
  chainId := 1
  keccak256 _ := BytesN.zero 32
  hashPost := hashPost
  hashGet _ := BytesN.zero 32
  hashPostResponse := hashPostResponse
  hashGetResponse _ := BytesN.zero 32
  evm _ := sampleChain
  verifyProof := smallRange node
  verifySubstrateProof _ _ _ := .error (.require "")

def sampleRequestHash : H256 :=
  BytesN.ofNat 32 0xa0cc3c650afe2c100a3db4fcddbd6f66df20c12efd3a3f754d80f011dad808ef

def sampleResponseHash : H256 :=
  BytesN.ofNat 32 0xd7a6ae622358f655f0506543065d47207838602f8a2f9fe6829391be2679e164

def responseLibraries : Libraries :=
  sampleLibraries (fun r => if r = sampleRequest then sampleRequestHash else BytesN.zero 32)
    (fun r => if r = sampleResponse then sampleResponseHash else BytesN.zero 32) fun _ _ => BytesN.zero 32

def sampleBlock : Block := ⟨1000, 1, fun _ _ => .error (.require "")⟩

def sampleHeight : StateMachineHeight := ⟨3367, 10⟩

def sampleHost (root : H256) : Host where
  stateCommitments height := if height = sampleHeight then ⟨12000, root, root⟩ else ⟨0, BytesN.zero 32, BytesN.zero 32⟩
  hostParams := ⟨0, 0, BytesN.ofNat 20 1, BytesN.ofNat 20 2, 86400, 0, otherChain⟩

def responseWorld : World where
  host := setRequestCommitment sampleRequestHash ⟨BytesN.ofNat 20 3, 0⟩ (sampleHost sampleResponseHash)
  trace := []

def sampleRelayer : Account := ⟨BytesN.ofNat 20 4, by decide⟩

def responseTransaction : Transaction :=
  .mk sampleRelayer (.handlePostResponses ⟨⟨sampleHeight, [], 1⟩, [⟨sampleResponse, 0, 0⟩]⟩) [.reacts [] true] []

theorem onPostResponse_at_most_once_sample :
    (runChain responseLibraries [(sampleBlock, responseTransaction)] responseWorld).trace.countP
      (answered responseLibraries sampleRequestHash) ≤ 1 := by
  refine onPostResponse_at_most_once rfl (fun step hstep => ?_) (by decide +kernel)
  rw [List.mem_singleton.mp hstep]
  exact fun entry hentry => absurd hentry List.not_mem_nil

/-- The same call made twice delivers the response twice. -/
theorem response_delivered_twice :
    responseWorld.trace = [] ∧
    ¬ (runChain responseLibraries [(sampleBlock, responseTransaction), (sampleBlock, responseTransaction)]
      responseWorld).trace.countP (answered responseLibraries sampleRequestHash) ≤ 1 := by
  refine ⟨rfl, ?_⟩
  decide +kernel

end Hyperbridge.Evm
