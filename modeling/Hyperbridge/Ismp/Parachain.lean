import Hyperbridge.Ismp.Delivery
import Hyperbridge.Lib.Scale
import Hyperbridge.Lib.Trie

/-!
# The parachain client, and who can freeze it

`ParachainConsensusClient` reads the headers of sibling parachains from a relay chain state root the host already knows.
Its `verify_fraud_proof` accepts whatever it is given. Over whole runs of `handle_messages`, the flag of a consensus
state is set by the messages that name it in a fraud proof and by nothing else.
-/

namespace Hyperbridge.Ismp.Parachain

open Lib Exec

structure ParachainConsensusProof where
  relayHeight : UInt32
  storageProof : List Bytes

inductive DigestItem where
  | preRuntime (engine : BytesN 4) (value : Bytes)
  | consensus (engine : BytesN 4) (value : Bytes)
  | other

structure Header where
  number : UInt32
  stateRoot : H256
  digest : List DigestItem

structure ConsensusDigest where
  mmrRoot : H256
  childTrieRoot : H256

def parachainConsensusId : ConsensusClientId := ⟨asBytes "PARA", by decide⟩

def auraEngineId : BytesN 4 := ⟨asBytes "aura", by decide⟩

def ismpId : BytesN 4 := ⟨asBytes "ISMP", by decide⟩

structure Params (Other : Type) where
  coprocessor : Option StateMachine
  hostStateMachine : StateMachine
  parachains : List (UInt32 × UInt64)
  oracleStateRoot : Host Other → UInt32 → Option H256
  currentRelayChainState : Host Other → UInt32 × H256
  decodeProof : Bytes → Except String ParachainConsensusProof
  decodeValue : Bytes → Option Bytes
  decodeHeader : Bytes → Except String Header
  decodeSlot : Bytes → Except String UInt64
  decodeDigest : Bytes → Option ConsensusDigest
  contains : List Bytes → H256 → Bool
  trieGet : TrieLookup
  parasHeads : Bytes
  twox64 : Bytes → Bytes
  stateMachineClient : StateMachine → StateMachineClient Other

variable {Other : Type} (P : Params Other)

/-- Where the relay chain keeps the head of a parachain. -/
def parachainHeaderStorageKey (id : UInt32) : Bytes :=
  P.parasHeads ++ P.twox64 (leBytes 4 id.toNat) ++ leBytes 4 id.toNat

/-- `read_proof_check`. -/
def readProofCheck (root : H256) (proof : List Bytes) (keys : List Bytes) :
    Except Error (Std.TreeMap Bytes (Option Bytes)) := do
  errIf (P.contains proof root = false) (.custom "Invalid Proof")
  let values ← keys.mapM fun key =>
    match P.trieGet proof root key with
    | .error e => .error (.custom ("Error reading from trie: " ++ e))
    | .ok value => .ok (value.bind P.decodeValue)
  pure (.ofList (keys.zip values))

/-- What the loop over the digest has found so far. -/
structure DigestResult where
  timestamp : UInt64 := 0
  overlayRoot : H256 := BytesN.zero 32
  mmrRoot : H256 := BytesN.zero 32

/-- The product of slot and slot duration wraps. -/
def readDigest (slotDuration : UInt64) (d : DigestResult) : DigestItem → Except Error DigestResult
  | .preRuntime engine value =>
      if engine = auraEngineId then
        match P.decodeSlot value with
        | .error e => .error (.custom ("Cannot slot: " ++ e))
        | .ok slot => .ok { d with timestamp := slot * slotDuration / 1000 }
      else .ok d
  | .consensus engine value =>
      if engine = ismpId then
        match P.decodeDigest value with
        | none => .error (.custom "Header contains an invalid ismp consensus log")
        | some log => .ok { d with overlayRoot := log.childTrieRoot, mmrRoot := log.mmrRoot }
      else .ok d
  | .other => .ok d

def commitmentOf (stateId : StateMachine) (header : Header) (d : DigestResult) : StateCommitmentHeight :=
  { commitment :=
      if P.coprocessor = some stateId then ⟨d.timestamp, some d.mmrRoot, d.overlayRoot⟩
      else ⟨d.timestamp, some d.overlayRoot, header.stateRoot⟩
    height := UInt64.ofNat header.number.toNat }

/-- Siblings share the relay chain of the host. -/
def stateIdOf (id : UInt32) : Except Error StateMachine :=
  match P.hostStateMachine with
  | .kusama _ => .ok (.kusama id)
  | .polkadot _ => .ok (.polkadot id)
  | _ => .error (.custom "Host state machine should be a parachain")

def readHeader (intermediates : Std.TreeMap UInt32 (StateMachine × List StateCommitmentHeight))
    (entry : Bytes × Option Bytes) :
    Except Error (Std.TreeMap UInt32 (StateMachine × List StateCommitmentHeight)) :=
  match entry.2 with
  | none => .ok intermediates
  | some encoded => do
      let id := UInt32.ofNat (leValue (entry.1.drop (entry.1.length - 4)))
      let slotDuration ← okOr (P.parachains.lookup id) (.custom "Parachain with ID exists; qed")
      let header ← (P.decodeHeader encoded).mapError fun e => .custom ("Error decoding parachain header: " ++ e)
      let d ← header.digest.foldlM (readDigest P slotDuration) {}
      errIf (d.timestamp = 0) (.custom "Timestamp not found")
      let stateId ← stateIdOf P id
      pure (intermediates.insert id (stateId, [commitmentOf P stateId header d]))

def unverifiedHeader : Error → Error
  | .custom e => .custom ("Error verifying parachain header Custom(" ++ e.quote ++ ")")
  | e => e

def verifyConsensus (h : Host Other) (_ : ConsensusStateId) (state proof : Bytes) :
    Except Error (Bytes × List (StateMachine × List StateCommitmentHeight)) := do
  let update ← (P.decodeProof proof).mapError fun e =>
    .custom ("Cannot decode parachain consensus proof: " ++ e)
  let current := P.currentRelayChainState h
  let root ← okOr ((P.oracleStateRoot h update.relayHeight).or
      (if current.1 = update.relayHeight then some current.2 else none))
    (.custom ("Cannot find relay chain height: " ++ toString update.relayHeight.toNat))
  let headerKeys := P.parachains.map fun p => parachainHeaderStorageKey P p.1
  let headers ← (readProofCheck P root update.storageProof headerKeys).mapError unverifiedHeader
  let intermediates ← headers.toList.foldlM (readHeader P) ∅
  pure (state, intermediates.toList.map Prod.snd)

def paraIdOf : StateMachine → Except Error UInt32
  | .polkadot id => .ok id
  | .kusama id => .ok id
  | _ => .error (.custom "State Machine is not supported by this consensus client")

def stateMachine (id : StateMachine) : Except Error (StateMachineClient Other) := do
  let paraId ← paraIdOf id
  if (P.parachains.lookup paraId).isSome then .ok (P.stateMachineClient id)
  else .error (.custom ("Parachain with id " ++ toString paraId.toNat ++ " not registered"))

def parachainConsensusClient : ConsensusClient Other where
  consensusClientId := parachainConsensusId
  verifyConsensus := verifyConsensus P
  verifyFraudProof _ _ _ _ := .ok ()
  stateMachine := stateMachine P

variable {P}

variable {T : Config Other} {w w' : World Other}

/-- No client is frozen or thawed. -/
def SameFrozen (w w' : World Other) : Prop := w'.host.frozenConsensusClients = w.host.frozenConsensusClients

instance : IsPreorder (World Other) SameFrozen where
  refl _ := rfl
  trans _ _ _ hab hbc := hbc.trans hab

theorem sameFrozen_blind : MessageBlind (SameFrozen : World Other → World Other → Prop) where
  step w w' h := by rw [SameFrozen, h.2]
  note _ _ := rfl
  other _ _ := rfl

variable {m : Message}

theorem sameFrozen_handleIncomingMessage (hT : ModulesKeep T SameFrozen)
    (hm : ∀ f, m ≠ .fraudProof f) : Keeps SameFrozen (handleIncomingMessage T m) :=
  keeps_handleIncomingMessage_of_blind sameFrozen_blind hT
    (fun msg _ => (updateStep_updateClient msg).mono fun _ _ h => h.frozen)
    fun f hf => absurd hf (hm f)

/-- The message is a fraud proof against the consensus state. -/
def Accuses (id : ConsensusStateId) (m : Message) : Prop := ∃ f, m = .fraudProof f ∧ f.consensusStateId = id

variable {res : MessageResult}

theorem freezeClient_ok {f : FraudProofMessage} (h : (freezeClient T f).run w = (.ok res, w')) :
    w.host.frozenConsensusClients f.consensusStateId = false ∧
      w'.host.frozenConsensusClients = Function.update w.host.frozenConsensusClients f.consensusStateId true := by
  rw [freezeClient, reads_bind_ok] at h
  obtain ⟨_, hread, h⟩ := h
  obtain ⟨clientId, -, hread⟩ := except_bind_ok.mp hread
  obtain ⟨hfrozen, -⟩ := except_check_ok.mp hread
  obtain ⟨-, rfl⟩ := Prod.mk.inj h
  refine ⟨?_, rfl⟩
  unfold Host.isConsensusClientFrozen at hfrozen
  split at hfrozen
  · cases hfrozen
  · exact Bool.eq_false_iff.mpr ‹_›

theorem frozen_step (hT : ModulesKeep T SameFrozen)
    (h : (handleIncomingMessage T m).run w = (.ok res, w')) (id : ConsensusStateId) :
    w'.host.frozenConsensusClients id = true ↔ w.host.frozenConsensusClients id = true ∨ Accuses id m := by
  by_cases hfraud : ∃ f, m = .fraudProof f
  · obtain ⟨f, rfl⟩ := hfraud
    rw [(freezeClient_ok h).2]
    by_cases hid : f.consensusStateId = id
    · subst hid
      simp [Accuses]
    · rw [Function.update_of_ne (Ne.symm hid)]
      simp [Accuses, hid]
  · push Not at hfraud
    have hsame : w'.host.frozenConsensusClients = w.host.frozenConsensusClients :=
      (sameFrozen_handleIncomingMessage hT hfraud).of_ok h
    have hno : ¬ Accuses id m := fun ⟨f, hf, _⟩ => hfraud f hf
    rw [hsame]
    simp [hno]

/-- A client is frozen once. -/
theorem Accuses.thawed {id : ConsensusStateId} (hm : Accuses id m)
    (h : (handleIncomingMessage T m).run w = (.ok res, w')) : w.host.frozenConsensusClients id = false := by
  obtain ⟨f, rfl, rfl⟩ := hm
  exact (freezeClient_ok h).1

inductive Submitted (T : Config Other) (w₀ : World Other) : List Message → World Other → Prop
  | start : Submitted T w₀ [] w₀
  | handle {before messages : List Message} {w w' : World Other} {events : List Event}
      (run : Submitted T w₀ before w) (hcall : (handleMessages T messages).run w = (.ok events, w')) :
      Submitted T w₀ (before ++ messages) w'
  | elsewhere {before : List Message} {w w' : World Other} (run : Submitted T w₀ before w)
      (hsame : SameFrozen w w') : Submitted T w₀ before w'

variable {w₀ : World Other} {messages : List Message}

theorem Submitted.handled (hrun : Submitted T w₀ messages w) : Handled T SameFrozen w₀ messages w := by
  induction hrun with
  | start => exact .start
  | handle _ hcall ih => exact .handle _ _ ih hcall
  | elsewhere _ hsame ih => exact .elsewhere ih hsame

theorem frozen_run (hT : ModulesKeep T SameFrozen)
    (hrun : Handled T SameFrozen w₀ messages w) (id : ConsensusStateId) :
    w.host.frozenConsensusClients id = true ↔
      w₀.host.frozenConsensusClients id = true ∨ ∃ m ∈ messages, Accuses id m := by
  refine hrun.invariant (P := fun messages w => w.host.frozenConsensusClients id = true ↔
    w₀.host.frozenConsensusClients id = true ∨ ∃ m ∈ messages, Accuses id m) ?_ ?_ ?_
  · simp
  · intro messages m v res v' hbefore hmessage _
    rw [frozen_step hT hmessage id, hbefore]
    simp [or_and_right, exists_or, or_assoc]
  · intro messages v v' hbefore hsame
    rw [hsame, hbefore]

theorem accuse_run_unique (hT : ModulesKeep T SameFrozen)
    (hrun : Handled T SameFrozen w₀ messages w) {id : ConsensusStateId} {m' : Message} (hmem : m ∈ messages)
    (hmem' : m' ∈ messages) (hm : Accuses id m) (hm' : Accuses id m') : m = m' := by
  have hboth := hrun.invariant (P := fun messages w => ((∃ m ∈ messages, Accuses id m) →
      w.host.frozenConsensusClients id = true) ∧ ∀ m ∈ messages, ∀ m' ∈ messages, Accuses id m → Accuses id m' → m = m')
    ⟨by simp, by simp⟩ ?_ ?_
  · exact hboth.2 m hmem m' hmem' hm hm'
  · intro messages last v res v' hbefore hmessage _
    obtain ⟨hfrozen, hunique⟩ := hbefore
    have hlast {early : Message} (hearly : early ∈ messages) (hacc : Accuses id early) : ¬ Accuses id last := by
      intro hl
      have hthawed := hl.thawed hmessage
      simp [hfrozen ⟨early, hearly, hacc⟩] at hthawed
    refine ⟨?_, fun m hmem m' hmem' hm hm' => ?_⟩
    · rintro ⟨m, hmem, hm⟩
      rw [frozen_step hT hmessage id]
      rcases List.mem_append.mp hmem with hmem | hmem
      · exact .inl (hfrozen ⟨m, hmem, hm⟩)
      · exact .inr (List.mem_singleton.mp hmem ▸ hm)
    · rw [List.mem_append, List.mem_singleton] at hmem hmem'
      rcases hmem with hmem | rfl <;> rcases hmem' with hmem' | rfl
      · exact hunique m hmem m' hmem' hm hm'
      · exact absurd hm' (hlast hmem hm)
      · exact absurd hm (hlast hmem' hm')
      · rfl
  · intro messages v v' hbefore hsame
    exact ⟨fun hacc => hsame ▸ hbefore.1 hacc, hbefore.2⟩

/-- Any two byte strings freeze the client. -/
theorem freezeClient_parachain (hclient : consensusClient T parachainConsensusId = .ok (parachainConsensusClient P))
    (hid : w.host.consensusStateClient parachainConsensusId = some parachainConsensusId)
    (hstate : (w.host.consensusStates parachainConsensusId).isSome)
    (hthawed : w.host.frozenConsensusClients parachainConsensusId = false) (proof1 proof2 : Bytes) :
    ∃ w', (handleMessages T [.fraudProof ⟨proof1, proof2, parachainConsensusId⟩]).run w = (.ok [], w') ∧
      w'.host.frozenConsensusClients parachainConsensusId = true := by
  obtain ⟨state, hstate⟩ := Option.isSome_iff_exists.mp hstate
  have hread : (do
      let clientId ← okOr (w.host.consensusStateClient parachainConsensusId) (.custom "Unknown Consensus State Id")
      w.host.isConsensusClientFrozen parachainConsensusId
      let client ← consensusClient T clientId
      let trustedState ← w.host.consensusState parachainConsensusId
      client.verifyFraudProof w.host trustedState proof1 proof2 : Except Error Unit) = .ok () := by
    refine except_bind_ok.mpr ⟨parachainConsensusId, okOr_eq_ok.mpr hid, except_check_ok.mpr ⟨?_, ?_⟩⟩
    · simp [Host.isConsensusClientFrozen, hthawed]
    · exact except_bind_ok.mpr ⟨_, hclient, except_bind_ok.mpr ⟨state, okOr_eq_ok.mpr hstate, rfl⟩⟩
  let f : FraudProofMessage := ⟨proof1, proof2, parachainConsensusId⟩
  have hfreeze : ∃ w', (freezeClient T f).run w = (.ok (.frozenClient parachainConsensusId), w') :=
    ⟨_, reads_bind_ok.mpr ⟨(), hread, rfl⟩⟩
  obtain ⟨w', hfreeze⟩ := hfreeze
  have hcollect : (collect (handleIncomingMessage T) [.fraudProof f]).run w =
      (.ok [.frozenClient parachainConsensusId], w') :=
    collect_cons_ok.mpr ⟨_, w', [], hfreeze, rfl, rfl⟩
  refine ⟨w', mapErr_ok.mpr (bind_ok.mpr ⟨_, w', hcollect, ofExcept_ok.mpr ⟨rfl, rfl⟩⟩), ?_⟩
  rw [(freezeClient_ok hfreeze).2]
  exact Function.update_self ..

/-- Some fraud proof against the client conflicts. -/
def ShowsConflict (Conflict : Bytes → Bytes → Prop) (messages : List Message) : Prop :=
  ∃ f, .fraudProof f ∈ messages ∧ f.consensusStateId = parachainConsensusId ∧ Conflict f.proof1 f.proof2

/-- Whatever counts as a conflict of finality, a run freezes the parachain client only if it is shown one
exactly if every fraud proof against the client that goes through shows one. And every two byte strings go
through, in every state of the run in which the client is there to be frozen. -/
theorem parachain_frozen_only_by_conflict_iff (Conflict : Bytes → Bytes → Prop) (hT : ModulesKeep T SameFrozen)
    (hclient : consensusClient T parachainConsensusId = .ok (parachainConsensusClient P)) {w₀ : World Other}
    (hthawed : w₀.host.frozenConsensusClients parachainConsensusId = false) {messages : List Message}
    (hrun : Submitted T w₀ messages w) :
    ((w.host.frozenConsensusClients parachainConsensusId = true → ShowsConflict Conflict messages) ↔
      ∀ f, .fraudProof f ∈ messages → f.consensusStateId = parachainConsensusId → Conflict f.proof1 f.proof2) ∧
    (w.host.frozenConsensusClients parachainConsensusId = false →
      w.host.consensusStateClient parachainConsensusId = some parachainConsensusId →
      (w.host.consensusStates parachainConsensusId).isSome → ∀ proof1 proof2,
      ∃ w', (handleMessages T [.fraudProof ⟨proof1, proof2, parachainConsensusId⟩]).run w = (.ok [], w') ∧
        w'.host.frozenConsensusClients parachainConsensusId = true) := by
  refine ⟨⟨fun hsafe f hf hid => ?_, fun hall hfrozen => ?_⟩, fun hfrozen hid hstate =>
    freezeClient_parachain hclient hid hstate hfrozen⟩
  · have hacc : Accuses parachainConsensusId (.fraudProof f) := ⟨f, rfl, hid⟩
    obtain ⟨g, hg, hgid, hconflict⟩ := hsafe ((frozen_run hT hrun.handled _).mpr (.inr ⟨_, hf, hacc⟩))
    have hsame := accuse_run_unique hT hrun.handled hf hg hacc ⟨g, rfl, hgid⟩
    rw [Message.fraudProof.inj hsame]
    exact hconflict
  · obtain ⟨_, hf, f, rfl, hid⟩ := ((frozen_run hT hrun.handled _).mp hfrozen).resolve_left (by simp [hthawed])
    exact ⟨f, hf, hid, hall f hf hid⟩

def emptyParams : Params Unit where
  coprocessor := none
  hostStateMachine := .polkadot 3367
  parachains := []
  oracleStateRoot _ _ := none
  currentRelayChainState _ := (0, BytesN.zero 32)
  decodeProof _ := .error "no proof"
  decodeValue _ := none
  decodeHeader _ := .error "no header"
  decodeSlot _ := .error "no slot"
  decodeDigest _ := none
  contains _ _ := false
  trieGet _ _ _ := .error "no trie"
  parasHeads := []
  twox64 b := b
  stateMachineClient _ := committedClient sampleKeccak sampleCommitment

/-- The client is the only one. -/
def parachainConfig : Config Unit :=
  { sampleConfig with consensusClients := [parachainConsensusClient emptyParams] }

def parachainHost : Host Unit := { sampleHost with consensusStates := fun _ => some [] }

theorem parachainConfig_modulesKeep : ModulesKeep parachainConfig SameFrozen := by
  intro id m hm
  obtain rfl := (Except.ok.inj hm).symm
  exact ⟨fun _ _ _ => rfl, fun _ _ _ => rfl, fun _ _ _ => rfl⟩

theorem submitted_accusation (proof1 proof2 : Bytes) :
    ∃ w, Submitted parachainConfig ⟨parachainHost, []⟩ [.fraudProof ⟨proof1, proof2, parachainConsensusId⟩] w ∧
      w.host.frozenConsensusClients parachainConsensusId = true := by
  obtain ⟨w, hcall, hfrozen⟩ := freezeClient_parachain (T := parachainConfig) (P := emptyParams)
    (w := ⟨parachainHost, []⟩) rfl rfl rfl rfl proof1 proof2
  exact ⟨w, .handle .start hcall, hfrozen⟩

theorem parachain_frozen_only_by_conflict_iff_sample :
    ∃ w, Submitted parachainConfig ⟨parachainHost, []⟩ [.fraudProof ⟨[1], [2], parachainConsensusId⟩] w ∧
      (w.host.frozenConsensusClients parachainConsensusId = true →
        ShowsConflict (· ≠ ·) [.fraudProof ⟨[1], [2], parachainConsensusId⟩]) := by
  obtain ⟨w, hrun, -⟩ := submitted_accusation [1] [2]
  refine ⟨w, hrun, ((parachain_frozen_only_by_conflict_iff (P := emptyParams) (· ≠ ·)
    parachainConfig_modulesKeep rfl rfl hrun).1).mpr fun f hf _ => ?_⟩
  obtain rfl := Message.fraudProof.inj (List.mem_singleton.mp hf)
  decide

/-- Twice the empty string is a fraud proof that freezes the client. -/
theorem frozen_by_empty_proofs :
    ∃ w, Submitted parachainConfig ⟨parachainHost, []⟩ [.fraudProof ⟨[], [], parachainConsensusId⟩] w ∧
      consensusClient parachainConfig parachainConsensusId = .ok (parachainConsensusClient emptyParams) ∧
      parachainHost.frozenConsensusClients parachainConsensusId = false ∧
      w.host.frozenConsensusClients parachainConsensusId = true ∧
      ¬ ShowsConflict (· ≠ ·) [.fraudProof ⟨[], [], parachainConsensusId⟩] := by
  obtain ⟨w, hrun, hfrozen⟩ := submitted_accusation [] []
  refine ⟨w, hrun, rfl, rfl, hfrozen, ?_⟩
  rintro ⟨f, hf, -, hconflict⟩
  obtain rfl := Message.fraudProof.inj (List.mem_singleton.mp hf)
  exact hconflict rfl

end Hyperbridge.Ismp.Parachain
