import Hyperbridge.Evm.Delivery

/-!
# Receipts say the truth

Hyperbridge pays relayers by the receipts of a host, and a message under a receipt is not delivered again. A receipt is
written before the callback runs, so it is wrong while the callback runs; what the contracts called do meanwhile may
again deliver under it. At the end of every transaction it is right: a new receipt stands for a callback that has
succeeded.
-/

namespace Hyperbridge.Evm

open Lib Exec

variable {L : Libraries} {kind : Receipts} {k : H256}

theorem earns_note (t : Trace) : Keeps (delivery L kind k).Earns (note t) := by
  refine keeps_note fun w => ⟨?_, .inl⟩
  show w.trace.countP (delivered L kind k) ≤ (w.trace ++ [t]).countP (delivered L kind k)
  rw [List.countP_append]
  exact Nat.le_add_right _ _

theorem earns_writes {f : Host → Host} (hf : ∀ h, kind.stored k (f h) = kind.stored k h) :
    Keeps (delivery L kind k).Earns (writes f) :=
  keeps_writes fun w => ⟨Nat.le_refl _, fun hm => .inl ((hf w.host).symm.trans hm)⟩

theorem earns_neutral : Neutral (delivery L kind k).Earns where
  writes _ hf w := earns_writes (stored_of_receipts (fun h => (hf h).1) fun h => (hf h).2.1) w rfl
  note t _ w := earns_note t w rfl

section Deliver

variable {callback : Callback} {receipted : Host → Bool} {mark unmark : Host → Host} {event : Event} {m : Module}
  (hm : m.Keeps (delivery L kind k).Earns)

include hm

theorem earns_deliver_of_eq (hcallback : callback.receipt L = some (kind, k))
    (hunmark : ∀ h, kind.stored k (unmark h) = false) :
    Keeps (delivery L kind k).Earns (deliver callback receipted mark unmark event m) := by
  intro w _
  let w₁ : World := ⟨mark w.host, w.trace ++ [.delivering callback (receipted w.host)]⟩
  have hrun : (deliver callback receipted mark unmark event m).run w =
      (do note (.called callback (m.call w₁).2)
          if (m.call w₁).2 then emit event else writes unmark : Code Unit).run (m.call w₁).1 := rfl
  have hcount : (delivery L kind k).count w₁ = (delivery L kind k).count w := by
    simp [delivery, w₁, delivered]
  rw [hrun]
  -- whatever the receipt is after the call, from here on it is settled by the result
  refine Once.Earns.deliver hcount (hm w₁) ?_
  cases (m.call w₁).2 with
  | true =>
    left
    show ((_ ++ [_]) ++ [_] : List Trace).countP (delivered L kind k) = _
    simp [delivered, hcallback, delivery]
  | false =>
    refine .inr ⟨?_, ?_⟩
    · show (_ ++ [_] : List Trace).countP (delivered L kind k) = _
      simp [delivered, delivery]
    · show ¬ kind.stored k (unmark (m.call w₁).1.host) = true
      simp [hunmark]

theorem earns_deliver (kind' : Receipts) (k' : H256) (hcallback : callback.receipt L = some (kind', k'))
    (hunstored : ∀ h, kind'.stored k' (unmark h) = false) (hmark : OnlyAt kind' k' mark)
    (hunmark : OnlyAt kind' k' unmark) :
    Keeps (delivery L kind k).Earns (deliver callback receipted mark unmark event m) := by
  by_cases hk : (kind, k) = (kind', k')
  · obtain ⟨rfl, rfl⟩ := Prod.mk.inj hk
    exact earns_deliver_of_eq hm hcallback hunstored
  · exact keeps_deliver (fun _ => earns_note _) (earns_writes fun h => hmark h kind k hk) hm (fun _ => earns_note _)
      (earns_note _) (earns_writes fun h => hunmark h kind k hk)

end Deliver

theorem unstored_setRequestReceipt (k : H256) (h : Host) :
    Receipts.request.stored k (setRequestReceipt k (BytesN.zero 20) h) = false := by
  simp [Receipts.stored, hasRequestReceipt, setRequestReceipt]

theorem unstored_setResponseReceipt (k : H256) (h : Host) :
    Receipts.response.stored k (setResponseReceipt k ⟨BytesN.zero 20, BytesN.zero 32⟩ h) = false := by
  simp [Receipts.stored, hasResponseReceipt, setResponseReceipt]

theorem earns_entries (b : Block) : EntriesKeep L b (delivery L kind k).Earns := by
  intro entry caller ms transfers hms htransfers
  refine earns_neutral.keeps_exec hms htransfers ?_ ?_ ?_ ?_ ?_ ?_
  · apply keeps_handleConsensus
    · exact fun _ hf => earns_writes (stored_of_receipts (fun h => (hf h).1) fun h => (hf h).2.1)
    · exact fun _ _ => earns_note _
  · intro message _
    refine keeps_handlePostRequests hms message fun request m hm => (Keeps.ofExcept _).bind fun _ => ?_
    split
    · exact earns_deliver hm .request (L.hashPost request) rfl (unstored_setRequestReceipt _)
        (onlyAt_setRequestReceipt _ _) (onlyAt_setRequestReceipt _ _)
    · exact Keeps.pure ()
  · intro message _
    refine keeps_handlePostResponses hms message fun leaf _ m hm => (Keeps.ofExcept _).bind fun _ => ?_
    exact earns_deliver hm .response (L.hashPost leaf.response.request) rfl (unstored_setResponseReceipt _)
      (onlyAt_setResponseReceipt _ _) (onlyAt_setResponseReceipt _ _)
  · intro message
    exact keeps_handleGetResponses hms message fun response m hm =>
      earns_deliver hm .response (L.hashGet response.request) rfl (unstored_setResponseReceipt _)
        (onlyAt_setResponseReceipt _ _) (onlyAt_setResponseReceipt _ _)
  · intro message
    exact keeps_handleTimeouts hms htransfers message fun _ _ _ _ _ _ hm hrefund =>
      earns_neutral.keeps_timeOutPost hm hrefund fun _ => earns_note _
  · intro message
    exact keeps_handleTimeouts hms htransfers message fun _ _ _ _ _ _ hm hrefund =>
      earns_neutral.keeps_timeOutGet hm hrefund fun _ => earns_note _

/-- Whatever transactions are made, with whatever the contracts called do in them: a receipt at the end was there at the
start, or a callback has succeeded under it since. So a message whose callback never succeeded can still be delivered.
-/
theorem receipts_earned (L : Libraries) (kind : Receipts) (k : H256) (steps : List (Block × Transaction)) (w : World)
    (hend : kind.stored k (runChain L steps w).host = true) :
    kind.stored k w.host = true ∨
      w.trace.countP (delivered L kind k) < (runChain L steps w).trace.countP (delivered L kind k) :=
  (runChain_keeps (R := (delivery L kind k).Earns) earns_entries steps w).2 hend

theorem receipts_earned_sample :
    Receipts.response.stored sampleRequestHash responseWorld.host = true ∨
      responseWorld.trace.countP (delivered responseLibraries .response sampleRequestHash) <
        (runChain responseLibraries [(sampleBlock, responseTransaction)] responseWorld).trace.countP
          (delivered responseLibraries .response sampleRequestHash) :=
  receipts_earned responseLibraries .response sampleRequestHash _ responseWorld (by decide +kernel)

/-- On a host that starts without the receipt, where no delivery under it starts while it is there, the receipt says
whether the callback has succeeded, once. -/
theorem receipt_iff_delivered_once {steps : List (Block × Transaction)} {w : World} (hstart : w.trace = [])
    (hnone : kind.stored k w.host = false) (hfresh : ∀ t ∈ (runChain L steps w).trace, stale L kind k t = false) :
    (runChain L steps w).trace.countP (delivered L kind k) = 1 ↔ kind.stored k (runChain L steps w).host = true := by
  have hsafe : (delivery L kind k).Safe (runChain L steps w) := by
    refine ((runChain_keeps delivery_entries steps w : (delivery L kind k).Le w _) hfresh).2.2 ?_
    simp [Once.Safe, delivery, hstart]
  have hunmarked : ¬ (delivery L kind k).marked w := by
    simp [delivery, hnone]
  exact hsafe.count_eq_one_iff hunmarked (runChain_keeps earns_entries steps w)

theorem receipt_iff_delivered_once_sample :
    (runChain responseLibraries [(sampleBlock, responseTransaction)] responseWorld).trace.countP
      (delivered responseLibraries .response sampleRequestHash) = 1 :=
  (receipt_iff_delivered_once rfl (by decide) (by decide +kernel)).mpr (by decide +kernel)

end Hyperbridge.Evm
