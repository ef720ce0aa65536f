import Hyperbridge.Ismp.Spec

/-!
# Pallets that send messages

The other pallets of a runtime call each other and dispatch requests. A relation between worlds is kept by a call of
another pallet if what the call does is along it, and by a dispatch if its parts are: the fee, the mountain range,
the nonce and the commitment.
-/

namespace Hyperbridge.Ismp

open Lib Exec

variable {Other : Type} {T : Config Other} {R : World Other → World Other → Prop} {w w' : World Other}

/-- A call of another pallet. -/
def invoke {ε : Type} (f : Other → Except String Other) (err : String → ε) : Exec (World Other) ε Unit := do
  let other ← query fun w => (f w.host.other).mapError err
  modify (others.set other)

theorem invoke_ok {ε : Type} {f : Other → Except String Other} {err : String → ε} :
    (invoke f err).run w = (.ok (), w') ↔ ∃ other, f w.host.other = .ok other ∧ w' = others.set other w := by
  rw [invoke, query_bind_ok]
  constructor
  · rintro ⟨other, hother, h⟩
    obtain ⟨-, rfl⟩ := Prod.mk.inj h
    exact ⟨other, except_mapError_ok.mp hother, rfl⟩
  · rintro ⟨other, hother, rfl⟩
    exact ⟨other, except_mapError_ok.mpr hother, rfl⟩

def stamped (T : Config Other) (w : World Other) : DispatchRequest → Request
  | .get get => .get
      { source := T.hostStateMachine, dest := get.dest, nonce := w.host.nonce, fromModule := get.fromModule
        keys := get.keys, height := get.height, context := get.context
        timeoutTimestamp := if get.timeout = 0 then 0 else asSecs w.host.now + get.timeout }
  | .post post => .post
      { source := T.hostStateMachine, dest := post.dest, nonce := w.host.nonce, fromModule := post.fromModule
        toModule := post.toModule
        timeoutTimestamp := if post.timeout = 0 then 0 else saturatingAdd (asSecs w.host.now) post.timeout
        body := post.body }

theorem stampRequest_run (request : DispatchRequest) (w : World Other) :
    (stampRequest T request).run w =
      (.ok (stamped T w request), ⟨{ w.host with nonce := w.host.nonce + 1 }, w.trace⟩) := by
  cases request <;> rfl

/-- The fee is transferred, if there is one. -/
def Collected (T : Config Other) (fee : FeeMetadata) (o o' : Other) : Prop :=
  if fee.fee = 0 then o' = o else T.transfer fee.payer T.relayerFeeAccount fee.fee o = .ok o'

theorem collectFee_ok {fee : FeeMetadata} (h : (collectFee T fee).run w = (.ok (), w')) :
    ∃ other, Collected T fee w.host.other other ∧ w' = ⟨{ w.host with other := other }, w.trace⟩ := by
  unfold collectFee at h
  unfold Collected
  split at h
  · obtain ⟨-, rfl⟩ := Prod.mk.inj h
    exact ⟨w.host.other, by simp [*], rfl⟩
  · obtain ⟨other, hother, hw'⟩ := transferFee_ok h
    exact ⟨other, by simp [*], hw'⟩

/-- What a successful dispatch has done. -/
theorem dispatchRequest_ok {request : DispatchRequest} {fee : FeeMetadata} {c : H256}
    (h : (dispatchRequest T request fee).run w = (.ok c, w')) :
    ∃ other, Collected T fee w.host.other other ∧ hashRequest T.keccak256 (stamped T w request) = some c ∧
      w.host.requestCommitments c = none ∧
      w' = withCommitment T ⟨{ w.host with other := other, nonce := w.host.nonce + 1 }, w.trace⟩
        (stamped T w request) fee c := by
  obtain ⟨_, w₁, hfee, h⟩ := bind_ok.mp h
  obtain ⟨other, hcollected, rfl⟩ := collectFee_ok hfee
  rw [bind_run, stampRequest_run] at h
  have hsame : stamped T ⟨{ w.host with other := other }, w.trace⟩ request = stamped T w request := by
    cases request <;> rfl
  rw [hsame] at h
  obtain ⟨hhash, hnew, rfl⟩ := commitRequest_ok.mp h
  exact ⟨other, hcollected, hhash, hnew, rfl⟩

theorem dispatchPostResponse_ok {response : PostResponse} {fee : FeeMetadata} {c : H256}
    (h : (dispatchPostResponse T response fee).run w = (.ok c, w')) :
    ∃ other mmr reqCommitment, Collected T fee w.host.other other ∧ hashResponse T.keccak256 (.post response) = some c ∧
      w' = ⟨{ w.host with
        other := (T.mmrPush (.response (.post response)) other).2
        responseCommitments := Function.update w.host.responseCommitments c (some ⟨mmr, fee, false⟩)
        responded := Function.update w.host.responded reqCommitment true }, w.trace⟩ := by
  obtain ⟨_, w₁, hfee, h⟩ := bind_ok.mp h
  obtain ⟨other, hcollected, rfl⟩ := collectFee_ok hfee
  obtain ⟨_, -, h⟩ := requestHash_bind_ok.mp h
  rw [gets_bind_run, throwIf_bind_ok] at h
  obtain ⟨reqCommitment, -, h⟩ := requestHash_bind_ok.mp h.2
  rw [gets_bind_run, throwIf_bind_ok] at h
  obtain ⟨c', hhash, h⟩ := responseHash_bind_ok.mp h.2
  obtain ⟨mmr, w₁, hpush, h⟩ := bind_ok.mp h
  obtain ⟨rfl, rfl⟩ := pure_ok.mp h
  obtain ⟨-, rfl⟩ := Prod.mk.inj hpush
  exact ⟨other, mmr, reqCommitment, hcollected, hhash, rfl⟩

theorem panics_commitRequest {request : Request} {fee : FeeMetadata} :
    Panics (commitRequest T request fee) w ↔ hashRequest T.keccak256 request = none := by
  unfold commitRequest requestHash pushLeaf writes
  simp [panics_bind]

theorem hashRequest_post_eq_none {keccak256 : Bytes → H256} {post : PostRequest} :
    hashRequest keccak256 (.post post) = none ↔ post.source.toText = none ∨ post.dest.toText = none := by
  cases hsource : post.source.toText <;> cases hdest : post.dest.toText <;>
    simp [hashRequest, Request.encode, hsource, hdest]

theorem panics_dispatchRequest {post : DispatchPost} :
    Panics (dispatchRequest T (.post post) noFee) w ↔ T.hostStateMachine.toText = none ∨ post.dest.toText = none := by
  have hsame : Panics (dispatchRequest T (.post post) noFee) w ↔ Panics (commitRequest T (.post
      ⟨T.hostStateMachine, post.dest, w.host.nonce, post.fromModule, post.toModule,
        if post.timeout = 0 then 0 else saturatingAdd (asSecs w.host.now) post.timeout, post.body⟩) noFee)
      ⟨{ w.host with nonce := w.host.nonce + 1 }, w.trace⟩ := Iff.rfl
  rw [hsame, panics_commitRequest, hashRequest_post_eq_none]

variable [IsPreorder (World Other) R]

theorem keeps_invoke {ε : Type} {f : Other → Except String Other} {err : String → ε}
    (hf : ∀ w other, f w.host.other = .ok other → R w (others.set other w)) : Keeps R (invoke f err) := by
  intro w hret
  rw [invoke, bind_run, query_run] at hret ⊢
  cases hother : f w.host.other with
  | error e => exact refl_of R w
  | ok other => exact hf w other hother

theorem keeps_transferFee {source target : Bytes} {amount : Nat}
    (hpay : ∀ w other, T.transfer source target amount w.host.other = .ok other → R w (others.set other w)) :
    Keeps R (transferFee T source target amount) := by
  intro w hret
  simp only [transferFee, reads, bind_run, query_run] at hret ⊢
  cases htransfer : T.transfer source target amount w.host.other with
  | error e => exact refl_of R w
  | ok other => exact hpay w other htransfer

/-- The parts of a dispatch keep the relation. -/
structure DispatchKeeps (T : Config Other) (R : World Other → World Other → Prop) : Prop where
  transfer : ∀ w source amount other, T.transfer source T.relayerFeeAccount amount w.host.other = .ok other →
    R w (others.set other w)
  mmrPush : ∀ w leaf, R w (others.set (T.mmrPush leaf w.host.other).2 w)
  nonce : ∀ (w : World Other) nonce, R w ⟨{ w.host with nonce := nonce }, w.trace⟩
  commit : ∀ (w : World Other) commitments, R w ⟨{ w.host with requestCommitments := commitments }, w.trace⟩

theorem keeps_stampRequest (hR : DispatchKeeps T R) (request : DispatchRequest) : Keeps R (stampRequest T request) := by
  refine Keeps.bind ?_ fun nonce => (Keeps.gets _).bind fun now => ?_
  · exact (Keeps.gets _).bind fun _ => Keeps.bind (Keeps.modify fun w => hR.nonce w _) fun _ => Keeps.pure _
  · cases request <;> exact Keeps.pure _

theorem keeps_commitRequest (hR : DispatchKeeps T R) (request : Request) (fee : FeeMetadata) :
    Keeps R (commitRequest T request fee) := by
  refine (keeps_requestHash _).bind fun c => (Keeps.gets _).bind fun known => (Keeps.throwIf _ _).bind fun _ => ?_
  refine Keeps.bind (fun w _ => hR.mmrPush w _) fun mmr => ?_
  exact Keeps.bind (Keeps.modify fun w => hR.commit w _) fun _ => Keeps.pure _

theorem keeps_dispatchRequest (hR : DispatchKeeps T R) (request : DispatchRequest) (fee : FeeMetadata) :
    Keeps R (dispatchRequest T request fee) := by
  refine Keeps.bind ?_ fun _ => (keeps_stampRequest hR request).bind fun r => keeps_commitRequest hR r fee
  unfold collectFee
  split
  · exact Keeps.pure _
  · exact keeps_transferFee fun w other h => hR.transfer w _ _ other h

end Hyperbridge.Ismp
