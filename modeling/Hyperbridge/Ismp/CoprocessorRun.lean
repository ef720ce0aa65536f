import Hyperbridge.Ismp.Coprocessor

/-!
# Answers of the state coprocessor over a run

The coprocessor remembers what it has answered by the receipts of requests. It looks for them before the first
answer of a batch and writes them as it answers, so a request that has been answered is refused in every later
batch. Within a batch nothing is looked at again: a request is answered as often as the batch lists it.
-/

namespace Hyperbridge.Ismp.Coprocessor

open Lib Exec

variable {Other : Type} {T : Ismp.Config Other} {K : Config Other} {w w' w₀ : World Other}
  {leaves : Other → List Leaf} {c : H256}

def answersTo (T : Ismp.Config Other) (c : H256) : Leaf → Bool
  | .response (.get r) => hashRequest T.keccak256 (.get r.get) = some c
  | _ => false

/-- How often the request has been answered. -/
def answered (T : Ismp.Config Other) (leaves : Other → List Leaf) (c : H256) (w : World Other) : Nat :=
  (leaves w.host.other).countP (answersTo T c)

/-- How often a batch lists the request. -/
def listed (T : Ismp.Config Other) (c : H256) (batch : List GetRequest) : Nat :=
  (batch.map fun req => hashRequest T.keccak256 (.get req)).count (some c)

def Distinct (T : Ismp.Config Other) (batch : List GetRequest) : Prop :=
  (batch.map fun req => hashRequest T.keccak256 (.get req)).Nodup

theorem countP_answers {batch : List GetRequest} {answers : List GetResponse}
    (h : List.Forall₂ (fun req r => r.get = req) batch answers) :
    (answers.map fun r => Leaf.response (.get r)).countP (answersTo T c) = listed T c batch := by
  unfold listed
  induction h with
  | nil => rfl
  | @cons req r batch answers hget _ ih =>
    subst hget
    rw [List.map_cons, List.map_cons, List.countP_cons, List.count_cons, ih]
    congr 1
    by_cases hc : hashRequest T.keccak256 (.get r.get) = some c <;> simp [answersTo, hc]

variable {events : List PalletEvent}

/-- A call answers as often as its batch lists. -/
theorem answered_call (hapart : Apart T K leaves) {msg : GetRequestsWithProof}
    (h : (handleGetRequests T K msg).run w = (.ok events, w')) (c : H256) :
    answered T leaves c w' = answered T leaves c w + listed T c msg.requests := by
  obtain ⟨-, answers, hleaves, hall⟩ := handleGetRequests_ok hapart h
  unfold answered
  rw [hleaves, List.countP_append]
  congr 1
  refine countP_answers (hall.imp fun req r hr => ?_)
  obtain ⟨values, -, rfl⟩ := hr
  rfl

def ReceiptsKept (w w' : World Other) : Prop :=
  ∀ c, (w.host.requestReceipts c).isSome → (w'.host.requestReceipts c).isSome

instance : IsPreorder (World Other) ReceiptsKept where
  refl _ _ h := h
  trans _ _ _ hab hbc c h := hbc c (hab c h)

theorem receiptsKept_settle {address : Bytes} {r : GetResponse}
    (h : (settle T address r).run w = (.ok events, w')) : ReceiptsKept w w' := by
  obtain ⟨c, -, hreceipts, -⟩ := settle_ok h
  intro c' hsome
  rw [hreceipts]
  by_cases heq : c' = c
  · rw [heq, Function.update_self]
    rfl
  · rwa [Function.update_of_ne heq]

theorem settle_all_receipts {address : Bytes} {answers : List GetResponse} {settled : List (List PalletEvent)}
    (h : (collect (settle T address) answers).run w = (.ok settled, w')) :
    ReceiptsKept w w' ∧ ∀ r ∈ answers, ∀ c, hashRequest T.keccak256 (.get r.get) = some c →
      (w'.host.requestReceipts c).isSome := by
  induction answers generalizing w settled with
  | nil =>
    obtain ⟨-, rfl⟩ := Prod.mk.inj h
    exact ⟨refl_of ReceiptsKept w, fun r hr => by cases hr⟩
  | cons r answers ih =>
    obtain ⟨first, w₁, rest, hfirst, hrest, -⟩ := collect_cons_ok.mp h
    obtain ⟨hkept, hall⟩ := ih hrest
    refine ⟨trans_of ReceiptsKept (receiptsKept_settle hfirst) hkept, fun r' hr' c hc => ?_⟩
    rcases List.mem_cons.mp hr' with rfl | hr'
    · obtain ⟨c', hc', hreceipts, -⟩ := settle_ok hfirst
      obtain rfl : c = c' := Option.some.inj (hc.symm.trans hc')
      refine hkept c ?_
      rw [hreceipts, Function.update_self]
      rfl
    · exact hall r' hr' c hc

theorem checkGet_ok {source : StateMachine} {req : GetRequest} (h : (checkGet T source req).run w = (.ok (), w')) :
    ∃ c, hashRequest T.keccak256 (.get req) = some c ∧ w.host.requestReceipts c = none := by
  simp only [checkGet, gets_bind_run, throwIf_bind_ok, requestHash_bind_ok, throwIf_ok] at h
  obtain ⟨-, -, c, hc, hnone, -⟩ := h
  exact ⟨c, hc, by simpa using hnone⟩

theorem receipts_call {msg : GetRequestsWithProof} (h : (handleGetRequests T K msg).run w = (.ok events, w')) :
    ReceiptsKept w w' ∧ ∀ req ∈ msg.requests, ∃ c, hashRequest T.keccak256 (.get req) = some c ∧
      w.host.requestReceipts c = none ∧ (w'.host.requestReceipts c).isSome := by
  obtain ⟨hchecks, -, total, w₁, sm, state, answers, settled, hcredit, -, -, hall, hsettle⟩ := handleGetRequests_steps h
  obtain ⟨hkept, hnew⟩ := settle_all_receipts hsettle
  have hsame : w₁.host.requestReceipts = w.host.requestReceipts := by
    rcases creditFee_ok hcredit with rfl | ⟨o', -, rfl⟩ <;> rfl
  refine ⟨fun c hsome => hkept c (hsame ▸ hsome), fun req hreq => ?_⟩
  obtain ⟨c, hc, hnone⟩ := checkGet_ok (hchecks req hreq)
  obtain ⟨r, hr, hrun⟩ := forall₂_mem hall hreq
  obtain ⟨values, -, rfl⟩ := answer_ok hrun
  exact ⟨c, hc, hnone, hnew _ hr c hc⟩

inductive GetRun (T : Ismp.Config Other) (K : Config Other) (leaves : Other → List Leaf) (w₀ : World Other) :
    List (List GetRequest) → World Other → Prop
  | start : GetRun T K leaves w₀ [] w₀
  | call {batches : List (List GetRequest)} {w w' : World Other} (msg : GetRequestsWithProof)
      (events : List PalletEvent) (run : GetRun T K leaves w₀ batches w)
      (hcall : (handleGetRequests T K msg).run w = (.ok events, w')) :
      GetRun T K leaves w₀ (msg.requests :: batches) w'
  | elsewhere {batches : List (List GetRequest)} {w w' : World Other} (run : GetRun T K leaves w₀ batches w)
      (hreceipts : ReceiptsKept w w') (hanswers : ∀ c, answered T leaves c w' = answered T leaves c w) :
      GetRun T K leaves w₀ batches w'

variable {batches : List (List GetRequest)}

theorem GetRun.answered_eq (hapart : Apart T K leaves) (hrun : GetRun T K leaves w₀ batches w) (c : H256) :
    answered T leaves c w = answered T leaves c w₀ + (batches.map (listed T c)).sum := by
  induction hrun with
  | start => rfl
  | call msg events _ hcall ih =>
    rw [answered_call hapart hcall, ih, List.map_cons, List.sum_cons]
    omega
  | elsewhere _ _ hanswers ih => rw [hanswers c, ih]

theorem GetRun.hashed (hrun : GetRun T K leaves w₀ batches w) :
    ∀ batch ∈ batches, ∀ req ∈ batch, ∃ c, hashRequest T.keccak256 (.get req) = some c := by
  induction hrun with
  | start => exact fun batch h => nomatch h
  | call msg events _ hcall ih =>
    intro batch hbatch req hreq
    rcases List.mem_cons.mp hbatch with rfl | hbatch
    · obtain ⟨c, hc, -⟩ := (receipts_call hcall).2 req hreq
      exact ⟨c, hc⟩
    · exact ih batch hbatch req hreq
  | elsewhere _ _ _ ih => exact ih

theorem listed_pos {batch : List GetRequest} (h : 0 < listed T c batch) :
    ∃ req ∈ batch, hashRequest T.keccak256 (.get req) = some c := by
  obtain ⟨req, hreq, hc⟩ := List.mem_map.mp (List.count_pos_iff.mp h)
  exact ⟨req, hreq, hc⟩

theorem GetRun.at_most_once (hapart : Apart T K leaves) (hrun : GetRun T K leaves w₀ batches w)
    (hdistinct : ∀ batch ∈ batches, Distinct T batch) (c : H256) :
    answered T leaves c w = answered T leaves c w₀ ∨
      answered T leaves c w = answered T leaves c w₀ + 1 ∧ (w.host.requestReceipts c).isSome := by
  induction hrun with
  | start => exact .inl rfl
  | call msg events _ hcall ih =>
    have hbefore := ih fun batch hbatch => hdistinct batch (List.mem_cons_of_mem _ hbatch)
    obtain ⟨hkept, hnew⟩ := receipts_call hcall
    rw [answered_call hapart hcall]
    rcases Nat.eq_zero_or_pos (listed T c msg.requests) with hzero | hpos
    · rw [hzero, Nat.add_zero]
      exact hbefore.imp id fun ⟨hone, hsome⟩ => ⟨hone, hkept c hsome⟩
    · -- the request is listed, so it had no receipt and has not been answered in this run
      obtain ⟨req, hreq, hc⟩ := listed_pos hpos
      obtain ⟨c', hc', hnone, hsome⟩ := hnew req hreq
      obtain rfl : c = c' := Option.some.inj (hc.symm.trans hc')
      have hle : listed T c msg.requests ≤ 1 := List.nodup_iff_count_le_one.mp (hdistinct _ List.mem_cons_self) (some c)
      rcases hbefore with hsame | ⟨-, hreceipt⟩
      · exact .inr ⟨by omega, hsome⟩
      · rw [hnone] at hreceipt
        cases hreceipt
  | elsewhere _ hreceipts hanswers ih =>
    rw [hanswers c]
    exact (ih hdistinct).imp id fun ⟨hone, hsome⟩ => ⟨hone, hreceipts c hsome⟩

/-- In a run of the coprocessor every request is answered at most once exactly if no batch lists two requests with
one commitment. -/
theorem one_answer_iff (hapart : Apart T K leaves) (hrun : GetRun T K leaves w₀ batches w) :
    (∀ c, answered T leaves c w ≤ answered T leaves c w₀ + 1) ↔ ∀ batch ∈ batches, Distinct T batch := by
  constructor
  · intro honce batch hbatch
    refine List.nodup_iff_count_le_one.mpr fun hash => ?_
    by_contra htwice
    have hmem : hash ∈ batch.map fun req => hashRequest T.keccak256 (.get req) := List.count_pos_iff.mp (by omega)
    obtain ⟨req, hreq, rfl⟩ := List.mem_map.mp hmem
    obtain ⟨c, hc⟩ := hrun.hashed batch hbatch req hreq
    have hlisted : 1 < listed T c batch := by
      rw [listed, ← hc]
      omega
    have hsum : listed T c batch ≤ (batches.map (listed T c)).sum :=
      List.single_le_sum (fun _ _ => Nat.zero_le _) _ (List.mem_map_of_mem hbatch)
    have htotal := hrun.answered_eq hapart c
    have hle := honce c
    omega
  · intro hdistinct c
    rcases hrun.at_most_once hapart hdistinct c with hsame | ⟨hone, -⟩ <;> omega

def askedBatch (n : Nat) : GetRequestsWithProof :=
  { askedMessage (.polkadot 2000) with requests := List.replicate n (askedRequest (.polkadot 2000)) }

def coprocessorWorld : World (List Leaf) := ⟨coprocessorHost, []⟩

theorem getRun_askedBatch {n : Nat}
    (h : ((handleGetRequests coprocessorConfig feeConfig (askedBatch n)).run coprocessorWorld).1 = .ok events) :
    GetRun coprocessorConfig feeConfig id coprocessorWorld [(askedBatch n).requests]
      ((handleGetRequests coprocessorConfig feeConfig (askedBatch n)).run coprocessorWorld).2 :=
  .call (askedBatch n) events .start (run_of_fst_ok h)

theorem one_answer_iff_sample :
    ∃ w, GetRun coprocessorConfig feeConfig id coprocessorWorld [(askedBatch 1).requests] w ∧
      ∀ c, answered coprocessorConfig id c w ≤ answered coprocessorConfig id c coprocessorWorld + 1 := by
  obtain ⟨events, hcall⟩ := exists_run_ok
    (x := handleGetRequests coprocessorConfig feeConfig (askedBatch 1)) (s := coprocessorWorld) (by decide +kernel)
  have hrun := getRun_askedBatch (congrArg Prod.fst hcall)
  refine ⟨_, hrun, (one_answer_iff coprocessor_apart hrun).mpr fun batch hbatch => ?_⟩
  obtain rfl := List.mem_singleton.mp hbatch
  exact List.nodup_singleton _

/-- Listed twice in one batch, it is answered twice. -/
theorem duplicate_answered_twice :
    ∃ w, GetRun coprocessorConfig feeConfig id coprocessorWorld [(askedBatch 2).requests] w ∧
      answered coprocessorConfig id (askedCommitment (.polkadot 2000)) coprocessorWorld = 0 ∧
      answered coprocessorConfig id (askedCommitment (.polkadot 2000)) w = 2 := by
  obtain ⟨events, hcall⟩ := exists_run_ok
    (x := handleGetRequests coprocessorConfig feeConfig (askedBatch 2)) (s := coprocessorWorld) (by decide +kernel)
  exact ⟨_, getRun_askedBatch (congrArg Prod.fst hcall), by decide +kernel, by decide +kernel⟩

end Hyperbridge.Ismp.Coprocessor
