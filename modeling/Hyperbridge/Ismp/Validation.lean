import Hyperbridge.Ismp.Clients

/-!
# What a proof height is checked for

Every message with a proof goes through `validate_state_machine` first: the consensus client of its height is not
frozen, and the challenge period has passed since the height was updated. Followed over whole runs: a value that was
used had been stored for the period, and nothing that belongs to a frozen client changes or is used any more.
-/

namespace Hyperbridge.Ismp

open Lib Exec

variable {Other : Type} {T : Config Other} {w w' : World Other}

/-- The height of the proof, if the message has one. -/
def Message.proofHeight : Message → Option StateMachineHeight
  | .request msg => some msg.proof.height
  | .response msg => some msg.proof.height
  | .timeout (.post _ proof) => some proof.height
  | .timeout (.postResponse _ proof) => some proof.height
  | .timeout (.get _) => none
  | .consensus _ => none
  | .fraudProof _ => none

variable {msg : Message} {height : StateMachineHeight}

/-- Such a message goes through the check first. -/
theorem exists_validates (h : msg.proofHeight = some height) :
    ∃ k, handleIncomingMessage T msg = reads (validateStateMachine T height) >>= k := by
  cases msg with
  | consensus m => cases h
  | fraudProof m => cases h
  | request m =>
    obtain rfl := Option.some.inj h
    exact ⟨_, rfl⟩
  | response m =>
    obtain rfl := Option.some.inj h
    exact ⟨_, rfl⟩
  | timeout m =>
    cases m with
    | get requests => cases h
    | post requests proof =>
      obtain rfl := Option.some.inj h
      exact ⟨_, rfl⟩
    | postResponse responses proof =>
      obtain rfl := Option.some.inj h
      exact ⟨_, rfl⟩

theorem asSecs_fromSecs (secs : UInt64) : asSecs (fromSecs secs) = secs := by
  rw [asSecs, fromSecs, Nat.mul_div_cancel _ (by decide), UInt64.ofNat_toNat]

theorem isConsensusClientFrozen_ok {h : Host Other} {id : ConsensusStateId} {u : Unit} :
    h.isConsensusClientFrozen id = .ok u ↔ h.frozenConsensusClients id = false := by
  unfold Host.isConsensusClientFrozen
  split <;> simp_all

theorem validateStateMachine_delay {h : Host Other} {sm : StateMachineClient Other}
    (hv : validateStateMachine T height h = .ok sm) :
    h.frozenConsensusClients height.id.consensusStateId = false ∧ ∃ time period,
      h.stateMachineUpdateTime height = some time ∧ h.challengePeriod height.id = some period ∧
        (period = 0 ∨ fromSecs period < h.now - fromSecs time) := by
  simp only [validateStateMachine, except_bind_ok] at hv
  obtain ⟨clientId, -, client, -, _, hfrozen, passed, hpassed, hv⟩ := hv
  refine ⟨isConsensusClientFrozen_ok.mp hfrozen, ?_⟩
  simp only [verifyDelayPassed, Host.updateTimeOf, except_bind_ok, okOr_eq_ok, Option.map_eq_some_iff] at hpassed
  obtain ⟨_, ⟨time, htime, rfl⟩, _, ⟨period, hperiod, rfl⟩, hpassed⟩ := hpassed
  refine ⟨time, period, htime, hperiod, ?_⟩
  cases passed with
  | false =>
    obtain ⟨updateTime, -, herr⟩ := except_bind_ok.mp hv
    cases herr
  | true =>
    have hdelay := Except.ok.inj hpassed
    rw [asSecs_fromSecs, Bool.or_eq_true, beq_iff_eq, decide_eq_true_eq] at hdelay
    exact hdelay

def Message.Verified (T : Config Other) (w : World Other) (s : StateCommitment) : Message → Prop
  | .request msg => ∃ sm, validateStateMachine T msg.proof.height w.host = .ok sm ∧
      sm.verifyMembership w.host (.request (msg.requests.map .post)) s msg.proof = .ok ()
  | .response msg => ∃ sm, validateStateMachine T msg.proof.height w.host = .ok sm ∧ match msg.datagram with
      | .response responses => sm.verifyMembership w.host (.response responses) s msg.proof = .ok ()
      | .request requests => ∃ gets results w', requests = gets.map .get ∧
          (collect (dispatchGet T sm s msg.proof msg.signer) gets).run w = (.ok results, w')
  | .timeout (.post requests proof) => ∃ sm values, validateStateMachine T proof.height w.host = .ok sm ∧
      sm.verifyStateProof w.host (sm.receiptsStateTrieKey (.request requests)) s proof = .ok values
  | .timeout (.postResponse responses proof) => ∃ sm values, validateStateMachine T proof.height w.host = .ok sm ∧
      sm.verifyStateProof w.host (sm.receiptsStateTrieKey (.response (responses.map .post))) s proof = .ok values
  | _ => False

variable {res : MessageResult}

theorem handleRequest_verified {msg : RequestMessage} (h : (handleRequest T msg).run w = (.ok res, w')) :
    ∃ s, w.host.stateCommitments msg.proof.height = some s ∧ (Message.request msg).Verified T w s := by
  rw [handleRequest, reads_bind_ok] at h
  obtain ⟨sm, hsm, h⟩ := h
  obtain ⟨_, w₁, hchecks, h⟩ := bind_ok.mp h
  obtain ⟨rfl, -⟩ := (forEach_ok_of_readOnly fun _ => keeps_checkRequest _ _).mp hchecks
  simp only [reads_bind_ok] at h
  obtain ⟨s, hs, _, hverified, -⟩ := h
  exact ⟨s, okOr_eq_ok.mp hs, sm, hsm, hverified⟩

theorem handleResponse_verified {msg : ResponseMessage} (h : (handleResponse T msg).run w = (.ok res, w')) :
    ∃ s, w.host.stateCommitments msg.proof.height = some s ∧ (Message.response msg).Verified T w s := by
  simp only [handleResponse, reads_bind_ok] at h
  obtain ⟨sm, hsm, s, hs, h⟩ := h
  refine ⟨s, okOr_eq_ok.mp hs, sm, hsm, ?_⟩
  cases hdatagram : msg.datagram with
  | response responses =>
    rw [hdatagram] at h
    obtain ⟨_, w₁, hchecks, h⟩ := bind_ok.mp h
    obtain ⟨rfl, -⟩ := (forEach_ok_of_readOnly fun _ => keeps_checkResponse _ _).mp hchecks
    obtain ⟨_, hverified, -⟩ := reads_bind_ok.mp h
    exact hverified
  | request requests =>
    rw [hdatagram] at h
    obtain ⟨gets, w₁, hchecks, h⟩ := bind_ok.mp h
    obtain ⟨rfl, hall⟩ := collect_ok_of_readOnly (fun _ => keeps_checkGetRequest _ _) hchecks
    obtain ⟨-, h⟩ := throwIf_bind_ok.mp h
    obtain ⟨results, w₂, hcollect, -⟩ := bind_ok.mp h
    refine ⟨gets, results, w₂, ?_, hcollect⟩
    rw [← List.forall₂_eq_eq_eq, List.forall₂_map_right_iff]
    exact hall.imp fun _ _ hcheck => (checkGetRequest_ok hcheck).1

theorem exists_verified
    (hheight : msg.proofHeight = some height) (h : (handleIncomingMessage T msg).run w = (.ok res, w')) :
    ∃ s, w.host.stateCommitments height = some s ∧ msg.Verified T w s := by
  cases msg with
  | consensus m => cases hheight
  | fraudProof m => cases hheight
  | request m =>
    obtain rfl := Option.some.inj hheight
    exact handleRequest_verified h
  | response m =>
    obtain rfl := Option.some.inj hheight
    exact handleResponse_verified h
  | timeout m =>
    obtain ⟨hpasses, -⟩ := handleTimeout_ok_iff.mp (show (handleTimeout T m).run w = _ from h)
    cases m with
    | get requests => cases hheight
    | post requests proof | postResponse responses proof =>
      obtain rfl := Option.some.inj hheight
      obtain ⟨sm, s, values, hsm, hs, -, hvalues, -⟩ := hpasses
      exact ⟨s, hs, sm, values, hsm, hvalues⟩

namespace Clients

inductive HostRun (T : Config Other) (fishermen : Fishermen.Storage Other) (w₀ : World Other) :
    List (Entry Other) → World Other → Prop
  | start : HostRun T fishermen w₀ [] w₀
  | create {log : List (Entry Other)} {w w' : World Other} {message : CreateConsensusState}
      {r : ConsensusClientId × ConsensusStateId} (run : HostRun T fishermen w₀ log w)
      (hcall : (createClient T message).run w = (.ok r, w')) :
      HostRun T fishermen w₀ (log ++ [⟨w, .create message, w'⟩]) w'
  | configure {log : List (Entry Other)} {w w' : World Other} {message : UpdateConsensusState} {u : Unit}
      (run : HostRun T fishermen w₀ log w) (hcall : (updateConsensusState message).run w = (.ok u, w')) :
      HostRun T fishermen w₀ log w'
  | update {log : List (Entry Other)} {w w' : World Other} {msg : ConsensusMessage} {r : MessageResult}
      (run : HostRun T fishermen w₀ log w)
      (hcall : (handleIncomingMessage T (.consensus msg)).run w = (.ok r, w')) :
      HostRun T fishermen w₀ (log ++ [⟨w, .update msg, w'⟩]) w'
  | message {log : List (Entry Other)} {w : World Other} {msg : Message} (run : HostRun T fishermen w₀ log w)
      (hmsg : ∀ m, msg = .consensus m → ((handleIncomingMessage T msg).run w).1.isOk = false)
      (hreturns : ((handleIncomingMessage T msg).run w).1.returns = true) :
      HostRun T fishermen w₀ log ((handleIncomingMessage T msg).run w).2
  | veto {log : List (Entry Other)} {w w' : World Other} {account : Bytes} {height : StateMachineHeight}
      {s : StateCommitment} (run : HostRun T fishermen w₀ log w)
      (hcall : (Fishermen.vetoStateCommitment fishermen account height).run w = (.ok s, w')) :
      HostRun T fishermen w₀ (log ++ [⟨w, .delete height, w'⟩]) w'
  | tick {log : List (Entry Other)} {w : World Other} {now : Duration} (run : HostRun T fishermen w₀ log w)
      (hnow : w.host.now ≤ now) : HostRun T fishermen w₀ log ⟨{ w.host with now := now }, w.trace⟩
  | elsewhere {log : List (Entry Other)} {w w' : World Other} (run : HostRun T fishermen w₀ log w)
      (hsame : Unmoved w w') : HostRun T fishermen w₀ log w'

theorem unmoved_blind : MessageBlind (Unmoved : World Other → World Other → Prop) where
  step w w' h := by
    obtain ⟨-, hhost⟩ := h
    exact ⟨by rw [hhost], by rw [hhost], by rw [hhost]⟩
  note _ _ := ⟨rfl, rfl, rfl⟩
  other _ _ := ⟨rfl, rfl, rfl⟩

theorem unmoved_freezeClient (f : FraudProofMessage) : Keeps Unmoved (freezeClient T f) :=
  (keeps_reads _).bind fun _ => Keeps.bind (Keeps.modify fun _ => ⟨rfl, rfl, rfl⟩) fun _ => Keeps.pure _

theorem unmoved_message (hT : ModulesKeep T Unmoved) {msg : Message}
    (hmsg : ∀ m, msg = .consensus m → ((handleIncomingMessage T msg).run w).1.isOk = false)
    (hreturns : ((handleIncomingMessage T msg).run w).1.returns = true) :
    Unmoved w ((handleIncomingMessage T msg).run w).2 := by
  by_cases hconsensus : ∃ m, msg = .consensus m
  · obtain ⟨m, rfl⟩ := hconsensus
    have hfail := hmsg m rfl
    rcases hrun : (handleIncomingMessage T (.consensus m)).run w with ⟨r | e | p, w'⟩ <;> rw [hrun] at hfail hreturns
    · cases hfail
    · rw [failsClean_updateClient _ _ _ _ hrun]
      exact refl_of Unmoved w
    · cases hreturns
  · push Not at hconsensus
    exact keeps_handleIncomingMessage_of_blind unmoved_blind hT (fun m hm => absurd hm (hconsensus m))
      (fun f _ => unmoved_freezeClient f) w hreturns

theorem HostRun.run {fishermen : Fishermen.Storage Other} {w₀ : World Other} {log : List (Entry Other)}
    (hT : ModulesKeep T Unmoved) (hrun : HostRun T fishermen w₀ log w) : Run T w₀ log w := by
  induction hrun with
  | start => exact .start
  | create run hcall ih => exact .call ih ⟨_, hcall⟩
  | configure run hcall ih => exact .elsewhere ih ((unmoved_updateConsensusState _).of_ok hcall)
  | update run hcall ih => exact .call ih ⟨_, hcall⟩
  | message run hmsg hreturns ih => exact .elsewhere ih (unmoved_message hT hmsg hreturns)
  | veto run hcall ih => exact .call ih (vetoStateCommitment_ok.mp hcall).2.2
  | tick run hnow ih => exact .tick ih hnow
  | elsewhere run hsame ih => exact .elsewhere ih hsame

theorem lt_fromSecs_asSecs {d : Nat} (hd : d < 2 ^ 64 * 1000000000) : d < fromSecs (asSecs d) + fromSecs 1 := by
  have hsecs : d / 1000000000 < 2 ^ 64 := Nat.div_lt_of_lt_mul (by rwa [Nat.mul_comm])
  have hwhole : fromSecs (asSecs d) = d / 1000000000 * 1000000000 := by
    rw [fromSecs, asSecs, UInt64.toNat_ofNat_of_lt' hsecs]
  have hone : fromSecs 1 = 1000000000 := rfl
  rw [hwhole, hone]
  exact Nat.lt_div_mul_add (by decide)

theorem lt_of_delay {stored time period now second : Nat} (hstored : stored < time + second)
    (hdelay : period < now - time) : stored + period < now + second := by
  omega

/-- When a message with a proof is handled, at a height with a challenge period, the commitment it is proved against
was stored by the creation or an update of a client and has not been touched since, for more than the period less one
second. -/
theorem challenge_period_not_skipped {fishermen : Fishermen.Storage Other} {w₀ : World Other} {log : List (Entry Other)}
    {msg : Message} {height : StateMachineHeight} {period : UInt64} {res : MessageResult} (hT : ModulesKeep T Unmoved)
    (hempty : ∀ height, w₀.host.stateCommitments height = none) (hrun : HostRun T fishermen w₀ log w)
    (hclock : w.host.now < 2 ^ 64 * 1000000000) (hheight : msg.proofHeight = some height)
    (hperiod : w.host.challengePeriod height.id = some period) (hpositive : 0 < period)
    (hhandled : (handleIncomingMessage T msg).run w = (.ok res, w')) :
    ∃ s e, w.host.stateCommitments height = some s ∧ msg.Verified T w s ∧ Last (Entry.Touches height) log e ∧
      e.Stores height s ∧ e.before.host.now + fromSecs period < w.host.now + fromSecs 1 := by
  obtain ⟨s, hs, hverified⟩ := exists_verified hheight hhandled
  obtain ⟨e, hlast, hstores, htime, hle⟩ := (hrun.run hT).dated hempty height s hs
  refine ⟨s, e, hs, hverified, hlast, hstores, ?_⟩
  obtain ⟨k, hk⟩ := exists_validates (T := T) hheight
  rw [hk] at hhandled
  obtain ⟨sm, hsm, -⟩ := reads_bind_ok.mp hhandled
  obtain ⟨-, time, period', htime', hperiod', hdelay⟩ := validateStateMachine_delay hsm
  obtain rfl : period' = period := Option.some.inj (hperiod'.symm.trans hperiod)
  obtain rfl : time = asSecs e.before.host.now := Option.some.inj (htime'.symm.trans htime)
  have hne : period' ≠ 0 := fun h => absurd hpositive (by rw [h]; exact UInt64.lt_irrefl 0)
  exact lt_of_delay (lt_fromSecs_asSecs (Nat.lt_of_le_of_lt hle hclock)) (hdelay.resolve_left hne)

def sampleFishermen : Fishermen.Storage (Bytes → Bool) where
  get other := other
  set other _ := other
  get_set _ _ := rfl
  set_get _ := rfl
  set_set _ _ _ := rfl

/-- The rest of the runtime is the set of fishermen. -/
def vetoConfig : Config (Bytes → Bool) :=
  runtimeConfig (.polkadot 3367) (.polkadot 2000) silentClient fun _ _ _ other => .ok other

def sampleCreation : CreateConsensusState :=
  ⟨[], sampleConsensusId, sampleConsensusId, 100, [(.polkadot 2000, 1)],
    [(⟨.polkadot 2000, sampleConsensusId⟩, ⟨⟨10, none, BytesN.zero 32⟩, 1⟩)]⟩

def newWorld : World (Bytes → Bool) :=
  ⟨{ sampleHost with stateCommitments := fun _ => none, other := fun _ => false }, []⟩

/-- The client has been created. -/
def createdWorld : World (Bytes → Bool) := ((createClient vetoConfig sampleCreation).run newWorld).2

/-- The challenge period has passed. -/
def waitedWorld : World (Bytes → Bool) := atTime 14000000000 createdWorld

def sampleEntry : Entry (Bytes → Bool) := ⟨newWorld, .create sampleCreation, createdWorld⟩

theorem sample_run : HostRun vetoConfig sampleFishermen newWorld [sampleEntry] waitedWorld := by
  have hcreate : ((createClient vetoConfig sampleCreation).run newWorld).1 =
    .ok (sampleConsensusId, sampleConsensusId) := by
    decide +kernel
  have hnow : createdWorld.host.now ≤ 14000000000 := by decide +kernel
  exact .tick (.create .start (run_of_fst_ok hcreate)) hnow

theorem vetoConfig_modulesKeep : ModulesKeep vetoConfig Unmoved := by
  intro id m hm
  obtain rfl := Except.ok.inj hm
  exact ⟨fun _ => Keeps.pure (), fun _ => Keeps.pure (), fun _ => Keeps.pure ()⟩

theorem challenge_period_not_skipped_sample :
    ∃ s e, waitedWorld.host.stateCommitments sampleHeight = some s ∧ Last (Entry.Touches sampleHeight) [sampleEntry] e ∧
      e.Stores sampleHeight s ∧ e.before.host.now + fromSecs 1 < waitedWorld.host.now + fromSecs 1 := by
  have hhandled :
    ((handleIncomingMessage vetoConfig (sampleMessage [sampleRequest])).run waitedWorld).1.isOk = true := by
    decide +kernel
  obtain ⟨res, hrun⟩ := exists_run_ok hhandled
  have hperiod : waitedWorld.host.challengePeriod sampleHeight.id = some 1 := by decide +kernel
  have hclock : waitedWorld.host.now < 2 ^ 64 * 1000000000 := by decide +kernel
  obtain ⟨s, e, hs, -, hlast, hstores, hdelay⟩ := challenge_period_not_skipped vetoConfig_modulesKeep (fun _ => rfl)
    sample_run hclock rfl hperiod (by decide) hrun
  exact ⟨s, e, hs, hlast, hstores, hdelay⟩

end Clients

/-- Nothing that belongs to a frozen client changes. -/
def Inert (c : ConsensusStateId) (w w' : World Other) : Prop :=
  w.host.frozenConsensusClients c = true → w'.host.frozenConsensusClients c = true ∧
    w'.host.consensusStates c = w.host.consensusStates c ∧
    ∀ height, height.id.consensusStateId = c → w'.host.stateCommitments height = w.host.stateCommitments height

instance (c : ConsensusStateId) : IsPreorder (World Other) (Inert c) where
  refl _ h := ⟨h, rfl, fun _ _ => rfl⟩
  trans _ _ _ hab hbc h := by
    obtain ⟨hfrozen, hstate, hheights⟩ := hab h
    obtain ⟨hfrozen', hstate', hheights'⟩ := hbc hfrozen
    exact ⟨hfrozen', hstate'.trans hstate, fun height hc => (hheights' height hc).trans (hheights height hc)⟩

theorem inert_blind (c : ConsensusStateId) : MessageBlind (Inert c : World Other → World Other → Prop) where
  step w w' h := by
    obtain ⟨-, hhost⟩ := h
    rw [Inert, hhost]
    exact fun hfrozen => ⟨hfrozen, rfl, fun _ _ => rfl⟩
  note _ _ hfrozen := ⟨hfrozen, rfl, fun _ _ => rfl⟩
  other _ _ hfrozen := ⟨hfrozen, rfl, fun _ _ => rfl⟩

variable {c : ConsensusStateId}

theorem updateClient_frozen {msg : ConsensusMessage} {r : MessageResult}
    (h : (updateClient T msg).run w = (.ok r, w')) : w.host.frozenConsensusClients msg.consensusStateId = false := by
  obtain ⟨verified, hread, -⟩ := reads_bind_ok.mp h
  simp only [except_bind_ok] at hread
  obtain ⟨clientId, -, client, -, trusted, -, _, hfrozen, -⟩ := hread
  exact isConsensusClientFrozen_ok.mp hfrozen

theorem inert_updateClient (c : ConsensusStateId) (msg : ConsensusMessage) : Keeps (Inert c) (updateClient T msg) := by
  by_cases hid : msg.consensusStateId = c
  · subst hid
    intro w hreturns hfrozen
    rcases hrun : (updateClient T msg).run w with ⟨r | e | p, w'⟩ <;> rw [hrun] at hreturns
    · rw [updateClient_frozen hrun] at hfrozen
      cases hfrozen
    · rw [failsClean_updateClient _ _ _ _ hrun]
      exact ⟨hfrozen, rfl, fun _ _ => rfl⟩
    · cases hreturns
  · refine (updateStep_updateClient msg).mono fun w w' h hfrozen => ⟨?_, h.states c (Ne.symm hid), fun height hc => ?_⟩
    · rwa [h.frozen]
    · exact h.commitments height (hc ▸ Ne.symm hid)

theorem inert_freezeClient (c : ConsensusStateId) (f : FraudProofMessage) : Keeps (Inert c) (freezeClient T f) := by
  refine (keeps_reads _).bind fun _ => Keeps.bind (Keeps.modify fun w hfrozen => ⟨?_, rfl, fun _ _ => rfl⟩) fun _ =>
    Keeps.pure _
  by_cases hid : c = f.consensusStateId
  · rw [hid]
    exact Function.update_self ..
  · exact (Function.update_of_ne hid ..).trans hfrozen

theorem inert_handleIncomingMessage (hT : ModulesKeep T (Inert c)) (msg : Message) :
    Keeps (Inert c) (handleIncomingMessage T msg) :=
  keeps_handleIncomingMessage_of_blind (inert_blind c) hT (fun m _ => inert_updateClient c m)
    fun f _ => inert_freezeClient c f

theorem handleIncomingMessage_frozen (hheight : msg.proofHeight = some height)
    (hfrozen : w.host.frozenConsensusClients height.id.consensusStateId = true) :
    ∃ e, (handleIncomingMessage T msg).run w = (.err e, w) := by
  obtain ⟨k, hk⟩ := exists_validates (T := T) hheight
  cases hv : validateStateMachine T height w.host with
  | error e =>
    refine ⟨e, ?_⟩
    rw [hk]
    exact query_bind_err.mpr (.inl ⟨hv, rfl⟩)
  | ok sm =>
    rw [(validateStateMachine_delay hv).1] at hfrozen
    cases hfrozen

inductive Later (T : Config Other) (R : World Other → World Other → Prop) (w₀ : World Other) : World Other → Prop
  | start : Later T R w₀ w₀
  | message {w : World Other} (msg : Message) (run : Later T R w₀ w)
      (hreturns : ((handleIncomingMessage T msg).run w).1.returns = true) :
      Later T R w₀ ((handleIncomingMessage T msg).run w).2
  | elsewhere {w w' : World Other} (run : Later T R w₀ w) (hstep : R w w') : Later T R w₀ w'

theorem Later.inert {w₀ : World Other} (hT : ModulesKeep T (Inert c))
    (hlater : Later T (Inert c) w₀ w) : Inert c w₀ w := by
  induction hlater with
  | start => exact refl_of (Inert c) w₀
  | message msg run hreturns ih => exact trans_of (Inert c) ih (inert_handleIncomingMessage hT msg _ hreturns)
  | elsewhere run hstep ih => exact trans_of (Inert c) ih hstep

/-- After a client is frozen, whatever messages come: it stays frozen, its consensus state and all its commitments stay
as they are, and a message with a proof at one of its heights is rejected without a callback. -/
theorem frozen_client_inert {c : ConsensusStateId} {w₀ : World Other} (hT : ModulesKeep T (Inert c))
    (hfrozen : w₀.host.frozenConsensusClients c = true) (hlater : Later T (Inert c) w₀ w) :
    w.host.frozenConsensusClients c = true ∧ w.host.consensusStates c = w₀.host.consensusStates c ∧
    (∀ height, height.id.consensusStateId = c → w.host.stateCommitments height = w₀.host.stateCommitments height) ∧
    ∀ msg height, msg.proofHeight = some height → height.id.consensusStateId = c →
      ∃ e, (handleIncomingMessage T msg).run w = (.err e, w) := by
  obtain ⟨hstill, hstate, hheights⟩ := hlater.inert hT hfrozen
  refine ⟨hstill, hstate, hheights, fun msg height hheight hc => handleIncomingMessage_frozen hheight ?_⟩
  rw [hc]
  exact hstill

def frozenWorld : World Unit := ⟨{ sampleHost with frozenConsensusClients := fun _ => true }, []⟩

theorem frozen_client_inert_sample :
    Later sampleConfig (Inert sampleConsensusId) frozenWorld
        ((handleIncomingMessage sampleConfig (sampleMessage [sampleRequest])).run frozenWorld).2 ∧
      ((handleIncomingMessage sampleConfig (sampleMessage [sampleRequest])).run frozenWorld).2.host.stateCommitments
        sampleHeight = frozenWorld.host.stateCommitments sampleHeight := by
  have hmodules : ModulesKeep sampleConfig (Inert sampleConsensusId) := by
    intro id m hm
    obtain rfl := Except.ok.inj hm
    exact ⟨fun _ => Keeps.pure (), fun _ => Keeps.pure (), fun _ => Keeps.pure ()⟩
  have hlater : Later sampleConfig (Inert sampleConsensusId) frozenWorld
      ((handleIncomingMessage sampleConfig (sampleMessage [sampleRequest])).run frozenWorld).2 :=
    .message _ .start (by decide +kernel)
  obtain ⟨-, -, hheights, -⟩ := frozen_client_inert hmodules rfl hlater
  exact ⟨hlater, hheights sampleHeight rfl⟩

end Hyperbridge.Ismp
