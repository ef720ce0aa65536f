import Hyperbridge.Ismp.EvmStateMachine
import Hyperbridge.Ismp.Substrate

/-!
# The state coprocessor

`pallet-state-coprocessor` answers GET requests for other chains: it verifies that they were made, reads the values from
a state proof, and pushes the answers to the mountain range, from where every chain takes them as proven. That the
height of the state proof is the one a request asks for is checked; that the state machine is the one it asks is not.
-/

namespace Hyperbridge.Ismp.Coprocessor

open Lib Exec

structure GetRequestsWithProof where
  requests : List GetRequest
  source : Proof
  response : Proof
  address : Bytes

structure Config (Other : Type) where
  accumulateFee : StateMachine → Bytes → Nat → Other → Option Other
  decodeU256 : Bytes → Option (BitVec 256)
  decodeMetadata : Bytes → Option RequestMetadata

inductive PalletEvent where
  | response (requestNonce : UInt64) (destChain sourceChain : StateMachine) (commitment reqCommitment : H256)
  | getRequestHandled (commitment : H256) (relayer : Bytes)
  deriving DecidableEq

variable {Other : Type} (T : Ismp.Config Other) (K : Config Other)

variable (source : StateMachine)

def checkGet (req : GetRequest) : Pallet Other Unit := do
  let full : Request := .get req
  let now ← gets fun w => w.host.now
  throwIf (full.timedOut now) (.requestTimeout (.ofRequest full))
  throwIf (full.sourceChain != source) (.requestProofMetadataNotValid (.ofRequest full))
  let commitment ← requestHash T full
  let receipt ← gets fun w => w.host.requestReceipts commitment
  throwIf receipt.isSome (.duplicateResponse (.ofRequest full))

/-- Where the chain that asks keeps its requests. -/
def requestKey (commitment : H256) : List Bytes :=
  match source with
  | .evm _ => [(T.keccak256 (commitment.bytes ++ beBytes 32 EvmCommon.requestCommitmentsSlot)).bytes]
  | .polkadot _ => [Substrate.requestCommitmentStorageKey commitment]
  | .kusama _ => [Substrate.requestCommitmentStorageKey commitment]
  | .substrate _ => [Substrate.requestCommitmentStorageKey commitment]
  | .tendermint _ => []

def getRequestKeys (requests : List GetRequest) (source : StateMachine) : List Bytes :=
  (requests.filterMap fun req => hashRequest T.keccak256 (.get req)).flatMap (requestKey T source)

def decodeFee (value : Bytes) : Except Error Nat :=
  match source with
  | .evm _ => BitVec.toNat <$> okOr (K.decodeU256 value) (.custom "Failed to decode fee")
  | .polkadot _ => (·.fee.fee) <$> okOr (K.decodeMetadata value) (.custom "Failed to decode fee")
  | .kusama _ => (·.fee.fee) <$> okOr (K.decodeMetadata value) (.custom "Failed to decode fee")
  | .substrate _ => (·.fee.fee) <$> okOr (K.decodeMetadata value) (.custom "Failed to decode fee")
  | .tendermint _ => .error (.custom ("Unsupported State Machine " ++ source.debug))

/-- The loop over the fees that were proven. -/
def totalFee (source : StateMachine) : List (Bytes × Option Bytes) → Nat → Pallet Other Nat
  | [], total => pure total
  | (_, none) :: rest, total => totalFee source rest total
  | (_, some value) :: rest, total => do
      let fee ← ofExcept (decodeFee K source value)
      let sum ← expect "arithmetic operation overflow" (if total + fee < 2 ^ 256 then some (total + fee) else none)
      totalFee source rest sum

def creditFee (address : Bytes) (total : Nat) : Pallet Other Unit :=
  if total = 0 then pure ()
  else do
    let credited ← gets fun w => K.accumulateFee source address total w.host.other
    let other ← expect "arithmetic operation overflow" credited
    writes fun h => { h with other := other }

variable (destMachine : StateMachineClient Other)

def answer (state : StateCommitment) (response : Proof)
    (req : GetRequest) : Pallet Other GetResponse := do
  let values ← reads fun h => destMachine.verifyStateProof h req.keys state response
  pure ⟨req, values.map fun kv => ⟨kv.1, kv.2⟩⟩

def dispatchGetResponse (getResponse : GetResponse) (address : Bytes) : Pallet Other (List PalletEvent) := do
  let commitment ← responseHash T (.get getResponse)
  let reqCommitment ← requestHash T (.get getResponse.get)
  let mmr ← pushLeaf T (.response (.get getResponse))
  writes fun h =>
    { h with
      responseCommitments := Function.update h.responseCommitments commitment
        (some ⟨mmr, ⟨List.replicate 32 0, 0⟩, true⟩)
      responded := Function.update h.responded reqCommitment true }
  pure [.response getResponse.get.nonce getResponse.get.source getResponse.get.dest commitment reqCommitment,
    .getRequestHandled reqCommitment address]

/-- The receipt, then the answer. -/
def settle (address : Bytes) (getResponse : GetResponse) : Pallet Other (List PalletEvent) := do
  storeRequestReceipt T (.get getResponse.get) address
  dispatchGetResponse T getResponse address

/-- `handle_get_requests`. -/
def handleGetRequests (msg : GetRequestsWithProof) : Pallet Other (List PalletEvent) := do
  forEach (checkGet T msg.source.height.id.stateId) msg.requests
  throwIf (!msg.requests.all fun get => get.height == msg.response.height.height) .insufficientProofHeight
  let sourceMachine ← reads (validateStateMachine T msg.source.height)
  let sourceState ← reads fun h => h.stateMachineCommitment msg.source.height
  reads fun h => sourceMachine.verifyMembership h (.request (msg.requests.map .get)) sourceState msg.source
  let result ← reads fun h => sourceMachine.verifyStateProof h
    (getRequestKeys T msg.requests msg.source.height.id.stateId) sourceState msg.source
  let total ← totalFee K msg.source.height.id.stateId result 0
  creditFee K msg.source.height.id.stateId msg.address total
  let destMachine ← reads (validateStateMachine T msg.response.height)
  let state ← reads fun h => h.stateMachineCommitment msg.response.height
  let getResponses ← collect (answer destMachine state msg.response) msg.requests
  let events ← collect (settle T msg.address) getResponses
  pure events.flatten

variable {T K} {w w' : World Other}

structure Apart (T : Ismp.Config Other) (K : Config Other) (leaves : Other → List Leaf) : Prop where
  push : ∀ leaf o, leaves (T.mmrPush leaf o).2 = leaves o ++ [leaf]
  fee : ∀ source address fee o o', K.accumulateFee source address fee o = some o' → leaves o' = leaves o
  unread : ∀ source address fee (h : Host Other) o', K.accumulateFee source address fee h.other = some o' →
    ∀ client ∈ T.consensusClients, ∀ id sm, client.stateMachine id = .ok sm → ∀ keys state proof,
      sm.verifyStateProof { h with other := o' } keys state proof = sm.verifyStateProof h keys state proof

theorem keeps_checkGet (req : GetRequest) : Keeps Eq (checkGet T source req) := by
  refine (Keeps.gets _).bind fun now => (Keeps.throwIf _ _).bind fun _ => (Keeps.throwIf _ _).bind fun _ => ?_
  exact (Keeps.expect _ _).bind fun commitment => (Keeps.gets _).bind fun receipt => Keeps.throwIf _ _

theorem keeps_totalFee (values : List (Bytes × Option Bytes)) (total : Nat) :
    Keeps Eq (totalFee K source values total : Pallet Other Nat) := by
  induction values generalizing total with
  | nil => exact Keeps.pure _
  | cons kv values ih =>
    obtain ⟨key, value⟩ := kv
    cases value with
    | none => exact ih total
    | some value => exact (Keeps.ofExcept _).bind fun fee => (Keeps.expect _ _).bind fun sum => ih sum

theorem keeps_answer (state : StateCommitment) (response : Proof)
    (req : GetRequest) : Keeps Eq (answer destMachine state response req) :=
  (Keeps.query _).bind fun _ => Keeps.pure _

variable {address : Bytes}

theorem creditFee_ok {source : StateMachine} {total : Nat} {u : Unit}
    (h : (creditFee K source address total).run w = (.ok u, w')) :
    w' = w ∨ ∃ o', K.accumulateFee source address total w.host.other = some o' ∧
      w' = { w with host := { w.host with other := o' } } := by
  unfold creditFee at h
  split at h
  · exact .inl (Prod.mk.inj h).2.symm
  · rw [gets_bind_run] at h
    obtain ⟨o', ho', h⟩ := expect_bind_ok.mp h
    exact .inr ⟨o', ho', (Prod.mk.inj h).2.symm⟩

variable {events : List PalletEvent}

theorem settle_ok {r : GetResponse} (h : (settle T address r).run w = (.ok events, w')) :
    ∃ c, hashRequest T.keccak256 (.get r.get) = some c ∧
      w'.host.requestReceipts = Function.update w.host.requestReceipts c (some address) ∧
      w'.host.other = (T.mmrPush (.response (.get r)) w.host.other).2 := by
  obtain ⟨_, w₁, hreceipt, h⟩ := bind_ok.mp h
  obtain ⟨c, hc, hreceipt⟩ := requestHash_bind_ok.mp hreceipt
  obtain ⟨-, rfl⟩ := Prod.mk.inj hreceipt
  obtain ⟨responseCommitment, -, h⟩ := responseHash_bind_ok.mp h
  obtain ⟨reqCommitment, -, h⟩ := requestHash_bind_ok.mp h
  obtain ⟨mmr, w₂, hpush, h⟩ := bind_ok.mp h
  obtain ⟨-, rfl⟩ := Prod.mk.inj h
  obtain ⟨-, rfl⟩ := Prod.mk.inj hpush
  exact ⟨c, hc, rfl, rfl⟩

theorem settle_all_ok {leaves : Other → List Leaf} (hapart : Apart T K leaves)
    {rs : List GetResponse} {events : List (List PalletEvent)}
    (h : (collect (settle T address) rs).run w = (.ok events, w')) :
    leaves w'.host.other = leaves w.host.other ++ rs.map fun r => .response (.get r) := by
  induction rs generalizing w events with
  | nil =>
    obtain ⟨-, rfl⟩ := Prod.mk.inj h
    simp
  | cons r rs ih =>
    obtain ⟨first, w₁, rest, hfirst, hrest, -⟩ := collect_cons_ok.mp h
    obtain ⟨-, -, -, hother⟩ := settle_ok hfirst
    rw [ih hrest, hother, hapart.push, List.append_assoc]
    rfl

def Read (T : Ismp.Config Other) (h : Host Other) (response : Proof) (req : GetRequest)
    (values : List (Bytes × Option Bytes)) : Prop :=
  ∃ sm state, validateStateMachine T response.height h = .ok sm ∧
    h.stateCommitments response.height = some state ∧ sm.verifyStateProof h req.keys state response = .ok values

variable {h : Host Other} {response : Proof} {req : GetRequest} {values : List (Bytes × Option Bytes)}

theorem Read.unique {values' : List (Bytes × Option Bytes)}
    (hr : Read T h response req values) (hr' : Read T h response req values') : values = values' := by
  obtain ⟨sm, state, hsm, hstate, hv⟩ := hr
  obtain ⟨sm', state', hsm', hstate', hv'⟩ := hr'
  obtain rfl := Except.ok.inj (hsm.symm.trans hsm')
  obtain rfl := Option.some.inj (hstate.symm.trans hstate')
  exact Except.ok.inj (hv.symm.trans hv')

/-- The parts of a successful call. -/
theorem handleGetRequests_steps {msg : GetRequestsWithProof}
    (h : (handleGetRequests T K msg).run w = (.ok events, w')) :
    (∀ req ∈ msg.requests, (checkGet T msg.source.height.id.stateId req).run w = (.ok (), w)) ∧
      (∀ req ∈ msg.requests, req.height = msg.response.height.height) ∧
      ∃ total w₁ sm state answers settled,
        (creditFee K msg.source.height.id.stateId msg.address total).run w = (.ok (), w₁) ∧
        validateStateMachine T msg.response.height w₁.host = .ok sm ∧
        w₁.host.stateCommitments msg.response.height = some state ∧
        List.Forall₂ (fun req r => (answer sm state msg.response req).run w₁ = (.ok r, w₁)) msg.requests answers ∧
        (collect (settle T msg.address) answers).run w₁ = (.ok settled, w') := by
  obtain ⟨_, w₁, hchecks, h⟩ := bind_ok.mp h
  obtain ⟨rfl, hcheck⟩ := (forEach_ok_of_readOnly fun _ => keeps_checkGet _ _).mp hchecks
  simp only [throwIf_bind_ok, reads_bind_ok] at h
  obtain ⟨hheights, sourceMachine, -, sourceState, -, _, -, result, -, h⟩ := h
  obtain ⟨total, w₂, htotal, h⟩ := bind_ok.mp h
  obtain rfl := (keeps_totalFee _ _ _).of_ok htotal
  obtain ⟨_, w₃, hcredit, h⟩ := bind_ok.mp h
  simp only [reads_bind_ok] at h
  obtain ⟨sm, hsm, state, hstate, h⟩ := h
  obtain ⟨answers, w₄, hanswers, h⟩ := bind_ok.mp h
  obtain ⟨rfl, hall⟩ := collect_ok_of_readOnly (fun _ => keeps_answer _ _ _ _) hanswers
  obtain ⟨settled, w₅, hsettle, h⟩ := bind_ok.mp h
  obtain ⟨-, rfl⟩ := Prod.mk.inj h
  refine ⟨hcheck, fun req hreq => ?_, total, w₃, sm, state, answers, settled, hcredit, hsm, okOr_eq_ok.mp hstate, hall,
    hsettle⟩
  simp only [Bool.not_eq_false', List.all_eq_true, beq_iff_eq] at hheights
  exact hheights req hreq

theorem answer_ok {sm : StateMachineClient Other} {state : StateCommitment}
    {r : GetResponse} (h : (answer sm state response req).run w = (.ok r, w')) :
    ∃ values, sm.verifyStateProof w.host req.keys state response = .ok values ∧
      r = ⟨req, values.map fun kv => ⟨kv.1, kv.2⟩⟩ := by
  obtain ⟨values, hvalues, hpure⟩ := reads_bind_ok.mp h
  exact ⟨values, hvalues, (Outcome.ok.inj (Prod.mk.inj hpure).1).symm⟩

theorem handleGetRequests_ok {leaves : Other → List Leaf} (hapart : Apart T K leaves) {msg : GetRequestsWithProof}
    (h : (handleGetRequests T K msg).run w = (.ok events, w')) :
    (∀ req ∈ msg.requests, req.height = msg.response.height.height) ∧
      ∃ answers, leaves w'.host.other = leaves w.host.other ++ answers.map (fun r => .response (.get r)) ∧
        List.Forall₂ (fun req r => ∃ values, Read T w.host msg.response req values ∧
          r = ⟨req, values.map fun kv => ⟨kv.1, kv.2⟩⟩) msg.requests answers := by
  obtain ⟨-, hheights, total, w₁, sm, state, answers, settled, hcredit, hsm, hstate, hall, hsettle⟩ :=
    handleGetRequests_steps h
  refine ⟨hheights, answers, ?_, ?_⟩
  · rw [settle_all_ok hapart hsettle]
    rcases creditFee_ok hcredit with rfl | ⟨o', ho', rfl⟩
    · rfl
    · rw [show leaves o' = leaves w.host.other from hapart.fee _ _ _ _ _ ho']
  · refine hall.imp fun req r hrun => ?_
    obtain ⟨values, hvalues, hr⟩ := answer_ok hrun
    refine ⟨values, ?_, hr⟩
    rcases creditFee_ok hcredit with rfl | ⟨o', ho', rfl⟩
    · exact ⟨sm, state, hsm, hstate, hvalues⟩
    · obtain ⟨client, hmem, hclient⟩ := validateStateMachine_ok hsm
      rw [hapart.unread _ _ _ w.host o' ho' client hmem _ sm hclient] at hvalues
      exact ⟨sm, state, hsm, hstate, hvalues⟩

abbrev States := StateMachine → UInt64 → Bytes → Option Bytes

def ProofsSound (T : Ismp.Config Other) (h : Host Other) (states : States) : Prop :=
  ∀ height state, h.stateCommitments height = some state →
    ∀ client ∈ T.consensusClients, ∀ sm, client.stateMachine height.id.stateId = .ok sm →
    ∀ keys proof values, proof.height = height → sm.verifyStateProof h keys state proof = .ok values →
    ∀ kv ∈ values, kv.2 = states height.id.stateId height.height kv.1

def FromDest (states : States) (r : GetResponse) : Prop :=
  ∀ key ∈ r.get.keys, ∀ value, ⟨key, value⟩ ∈ r.values ↔ value = states r.get.dest r.get.height key

/-- The response proof has the key. -/
def Covers (T : Ismp.Config Other) (h : Host Other) (response : Proof) (req : GetRequest) (key : Bytes) : Prop :=
  ∃ values, Read T h response req values ∧ key ∈ values.map Prod.fst

theorem Read.sound {states : States} (hsound : ProofsSound T h states) (hr : Read T h response req values)
    {kv : Bytes × Option Bytes} (hkv : kv ∈ values) :
    kv.2 = states response.height.id.stateId response.height.height kv.1 := by
  obtain ⟨sm, state, hsm, hstate, hv⟩ := hr
  obtain ⟨client, hmem, hclient⟩ := validateStateMachine_ok hsm
  exact hsound _ state hstate client hmem sm hclient _ response values rfl hv kv hkv

theorem fromDest_iff {states : States} (hsound : ProofsSound T h states) (hr : Read T h response req values)
    (hheight : req.height = response.height.height) :
    FromDest states ⟨req, values.map fun kv => ⟨kv.1, kv.2⟩⟩ ↔ ∀ key ∈ req.keys, Covers T h response req key ∧
        states response.height.id.stateId req.height key = states req.dest req.height key := by
  have hmem (key : Bytes) (value : Option Bytes) :
      (⟨key, value⟩ : StorageValue) ∈ values.map (fun kv => (⟨kv.1, kv.2⟩ : StorageValue)) ↔ (key, value) ∈ values := by
    simp
  have hvalue {key : Bytes} {value : Option Bytes} (hin : (key, value) ∈ values) :
      value = states response.height.id.stateId req.height key := by
    rw [hheight]
    exact hr.sound hsound hin
  unfold FromDest
  simp only [hmem]
  refine forall₂_congr fun key _ => ⟨fun hall => ?_, ?_⟩
  · have hin := (hall _).mpr rfl
    exact ⟨⟨values, hr, List.mem_map.mpr ⟨_, hin, rfl⟩⟩, (hvalue hin).symm⟩
  · rintro ⟨⟨values', hr', hcovered⟩, hsame⟩ value
    obtain rfl := hr.unique hr'
    obtain ⟨⟨key', value'⟩, hin, rfl⟩ := List.mem_map.mp hcovered
    constructor
    · exact fun h => (hvalue h).trans hsame
    · rintro rfl
      rw [← hsame, ← hvalue hin]
      exact hin

/-- The answers a call commits are what the chains that were asked have exactly if the response proof covers every key,
and its state machine has at every key what the one that was asked has. -/
theorem get_responses_from_dest_iff {leaves : Other → List Leaf} (hapart : Apart T K leaves) {states : States}
    (hsound : ProofsSound T w.host states) {msg : GetRequestsWithProof} {events : List PalletEvent}
    (hok : (handleGetRequests T K msg).run w = (.ok events, w')) :
    ∃ answers : List GetResponse,
      leaves w'.host.other = leaves w.host.other ++ answers.map (fun r => .response (.get r)) ∧
      answers.map (·.get) = msg.requests ∧
      ((∀ r ∈ answers, FromDest states r) ↔ ∀ req ∈ msg.requests, ∀ key ∈ req.keys,
        Covers T w.host msg.response req key ∧
          states msg.response.height.id.stateId req.height key = states req.dest req.height key) := by
  obtain ⟨hheights, answers, hleaves, hall⟩ := handleGetRequests_ok hapart hok
  have hgets : List.Forall₂ (· = ·) (answers.map (·.get)) msg.requests := by
    rw [List.forall₂_map_left_iff]
    exact hall.flip.imp fun r req ⟨values, _, hr⟩ => by rw [hr]
  refine ⟨answers, hleaves, List.forall₂_eq_eq_eq ▸ hgets, forall_mem_iff_of_forall₂ ?_⟩
  obtain ⟨hlength, hzip⟩ := List.forall₂_iff_zip.mp hall
  refine List.forall₂_iff_zip.mpr ⟨hlength, fun {req r} hmem => ?_⟩
  obtain ⟨values, hread, rfl⟩ := hzip hmem
  exact fromDest_iff hsound hread (hheights req (List.of_mem_zip hmem).1)

def askedKey : Bytes := asBytes "asked"

variable (dest : StateMachine)

def askedRequest : GetRequest :=
  ⟨.polkadot 2000, dest, 0, asBytes "from", [askedKey], 1, [], 0⟩

def askedCommitment : H256 := sampleDigest ((Request.get (askedRequest dest)).encode.getD [])

def sampleStates : States := fun chain _ key =>
  if chain = .polkadot 2000 then
    if key = askedKey then some [1]
    else if key = Substrate.requestCommitmentStorageKey (askedCommitment (.polkadot 2000)) then some [9]
    else if key = Substrate.requestCommitmentStorageKey (askedCommitment (.polkadot 2001)) then some [9]
    else none
  else if key = askedKey then some [2]
  else none

def statesClient : StateMachineClient (List Leaf) where
  verifyMembership _ items _ _ :=
    match items with
    | .request requests =>
        if requests.all fun r => (hashRequest sampleDigest r).any fun c =>
            (sampleStates (.polkadot 2000) 1 (Substrate.requestCommitmentStorageKey c)).isSome then .ok ()
        else .error (.custom "Every key in a membership proof should have a value")
    | .response _ => .error (.custom "Every key in a membership proof should have a value")
  receiptsStateTrieKey _ := []
  verifyStateProof _ keys _ _ := .ok (keys.map fun key => (key, sampleStates (.polkadot 2000) 1 key))

def coprocessorConfig : Ismp.Config (List Leaf) where
  hostStateMachine := .polkadot 3367
  coprocessor := some (.polkadot 3367)
  keccak256 := sampleDigest
  consensusClients :=
    [{ consensusClientId := sampleConsensusId
       verifyConsensus := fun _ _ _ _ => .error (.custom "no consensus proof")
       verifyFraudProof := fun _ _ _ _ => .error (.custom "no fraud proof")
       stateMachine := fun id =>
         if id = .polkadot 2000 then .ok statesClient else .error (.custom "unsupported state machine") }]
  router _ := .ok ⟨fun _ => pure (), fun _ => pure (), fun _ => pure ()⟩
  relayerFeeAccount := []
  transfer _ _ _ other := .ok other
  mmrPush leaf leaves := (⟨UInt64.ofNat leaves.length, UInt64.ofNat leaves.length⟩, leaves ++ [leaf])

def feeConfig : Config (List Leaf) where
  accumulateFee _ _ _ other := some other
  decodeU256 _ := none
  decodeMetadata b := if b = [9] then some ⟨⟨0, 0⟩, ⟨[], 5⟩, false⟩ else none

theorem coprocessor_apart : Apart coprocessorConfig feeConfig id where
  push _ _ := rfl
  fee _ _ _ _ _ h := (Option.some.inj h).symm
  unread _ _ _ _ _ h _ _ _ _ _ _ _ _ := by rw [← Option.some.inj h]

def coprocessorHost : Host (List Leaf) := { sampleHost with other := [] }

theorem coprocessor_sound : ProofsSound coprocessorConfig coprocessorHost sampleStates := by
  intro height state hstate client hclient sm hsm keys proof values hproof hv kv hkv
  obtain rfl : height = sampleHeight := by
    by_contra hne
    simp [coprocessorHost, sampleHost, trackingHost, hne] at hstate
  obtain rfl := List.mem_singleton.mp hclient
  obtain rfl : statesClient = sm := Except.ok.inj hsm
  obtain rfl := Except.ok.inj hv
  obtain ⟨key, -, rfl⟩ := List.mem_map.mp hkv
  rfl

def askedMessage : GetRequestsWithProof :=
  ⟨[askedRequest dest], ⟨sampleHeight, []⟩, ⟨sampleHeight, []⟩, [7]⟩

theorem get_responses_from_dest_iff_sample :
    ∃ events w', (handleGetRequests coprocessorConfig feeConfig (askedMessage (.polkadot 2000))).run
        ⟨coprocessorHost, []⟩ = (.ok events, w') ∧
      ∃ answers : List GetResponse, w'.host.other = answers.map (fun r => .response (.get r)) ∧
        answers.map (·.get) = [askedRequest (.polkadot 2000)] ∧ ∀ r ∈ answers, FromDest sampleStates r := by
  obtain ⟨events, hrun⟩ := exists_run_ok
    (x := handleGetRequests coprocessorConfig feeConfig (askedMessage (.polkadot 2000)))
    (s := ⟨coprocessorHost, []⟩) (by decide +kernel)
  obtain ⟨answers, hleaves, hgets, hiff⟩ := get_responses_from_dest_iff coprocessor_apart coprocessor_sound hrun
  refine ⟨events, _, hrun, answers, hleaves, hgets, hiff.mpr fun req hreq key hkey => ⟨?_, ?_⟩⟩
  · obtain rfl := List.mem_singleton.mp hreq
    obtain rfl := List.mem_singleton.mp hkey
    exact ⟨[(askedKey, some [1])], ⟨statesClient, _, rfl, rfl, by decide +kernel⟩, List.mem_singleton.mpr rfl⟩
  · obtain rfl := List.mem_singleton.mp hreq
    rfl

/-- A request to chain 2001 is answered with the state of chain 2000. -/
theorem answered_by_other_chain :
    let r : GetResponse := ⟨askedRequest (.polkadot 2001), [⟨askedKey, some [1]⟩]⟩
    Apart coprocessorConfig feeConfig id ∧ ProofsSound coprocessorConfig coprocessorHost sampleStates ∧
      ((handleGetRequests coprocessorConfig feeConfig (askedMessage (.polkadot 2001))).run
        ⟨coprocessorHost, []⟩).1.isOk = true ∧
      ((handleGetRequests coprocessorConfig feeConfig (askedMessage (.polkadot 2001))).run
        ⟨coprocessorHost, []⟩).2.host.other = [.response (.get r)] ∧
      ¬ FromDest sampleStates r := by
  refine ⟨coprocessor_apart, coprocessor_sound, by decide +kernel, by decide +kernel, fun hfrom => ?_⟩
  have hvalue := (hfrom askedKey List.mem_cons_self (some [1])).mp List.mem_cons_self
  revert hvalue
  decide +kernel

end Hyperbridge.Ismp.Coprocessor
