import Hyperbridge.Beefy.BeefyV1

/-!
# The SP1 BEEFY client

`SP1Beefy.verifyConsensus` leaves signatures, mountain range and heads to a proof of the SP1 program, with four public
inputs: root and length of an authority set, the hash of the leaf and the hashes of the headers. The block number and
the ids of the parachains are not among them. They become the trusted height and the state machines whose commitments
are stored.
-/

namespace Hyperbridge.Beefy.SP1Beefy

open Lib

structure MiniCommitment where
  blockNumber : U256
  validatorSetId : U256
  deriving DecidableEq

structure ParachainHeader where
  id : U256
  header : Bytes
  deriving DecidableEq

structure SP1BeefyProof where
  commitment : MiniCommitment
  mmrLeaf : PartialBeefyMmrLeaf
  headers : List ParachainHeader
  proof : Bytes
  deriving DecidableEq

structure PublicInputs where
  authoritiesRoot : H256
  authoritiesLen : U256
  leafHash : H256
  headers : List H256
  deriving DecidableEq

/-- `abi.encode` of a number. -/
def word (n : Nat) : Bytes := beBytes 32 n

def PublicInputs.encode (p : PublicInputs) : Bytes :=
  word 0x20 ++ p.authoritiesRoot.bytes ++ word p.authoritiesLen.toNat ++ p.leafHash.bytes ++ word 0x80
    ++ word p.headers.length ++ (p.headers.map BytesN.bytes).flatten

theorem PublicInputs.encode_injective : Function.Injective PublicInputs.encode := by
  intro p q h
  simp only [PublicInputs.encode, List.append_assoc] at h
  obtain ⟨-, h⟩ := List.append_inj h rfl
  obtain ⟨hroot, h⟩ := List.append_inj h (by simp)
  obtain ⟨hlen, h⟩ := List.append_inj h (by simp [word])
  obtain ⟨hleaf, h⟩ := List.append_inj h (by simp)
  obtain ⟨-, h⟩ := List.append_inj h rfl
  obtain ⟨-, hheaders⟩ := List.append_inj h (by simp [word])
  have hlen' : p.authoritiesLen = q.authoritiesLen := by
    rw [word, word, beBytes_inj] at hlen
    have hp := p.authoritiesLen.isLt
    have hq := q.authoritiesLen.isLt
    rw [Nat.mod_eq_of_lt (by omega), Nat.mod_eq_of_lt (by omega)] at hlen
    exact BitVec.eq_of_toNat_eq hlen
  have hheaders' : p.headers = q.headers := flatten_bytes_injective (by omega) hheaders
  obtain ⟨root, len, leaf, headers⟩ := p
  obtain ⟨root', len', leaf', headers'⟩ := q
  simp only at hlen' hheaders'
  rw [PublicInputs.mk.injEq]
  exact ⟨BytesN.bytes_injective hroot, hlen', BytesN.bytes_injective hleaf, hheaders'⟩

structure Verifier where
  verificationKey : H256
  verifyProof : H256 → Bytes → Bytes → Call Unit

variable (L : Libraries) (V : Verifier)

def authority (state : BeefyConsensusState) (validatorSetId : U256) : Call AuthoritySetCommitment :=
  if validatorSetId = state.nextAuthoritySet.id then pure state.nextAuthoritySet
  else if validatorSetId = state.currentAuthoritySet.id then pure state.currentAuthoritySet
  else .error (.error "UnknownAuthoritySet")

/-- What the proof is checked against. -/
def publicInputs (set : AuthoritySetCommitment) (proof : SP1BeefyProof) : PublicInputs where
  authoritiesRoot := set.root
  authoritiesLen := set.len
  leafHash := L.keccak256 (Codec.encodeLeaf L proof.mmrLeaf)
  headers := proof.headers.map fun para => L.keccak256 para.header

def intermediateState (para : ParachainHeader) : Call IntermediateState := do
  let header ← Codec.decodeHeader L para.header
  revertIf (header.number = 0) (.error "IllegalGenesisBlock")
  let commitment ← HeaderImpl.stateCommitment L header
  pure ⟨para.id, header.number, commitment⟩

/-- `SP1Beefy.verifyConsensus`. -/
def verifyConsensus (state : BeefyConsensusState) (proof : SP1BeefyProof) :
    Call (BeefyConsensusState × List IntermediateState) := do
  revertIf (proof.commitment.blockNumber.toNat ≤ state.latestHeight.toNat) (.error "StaleHeight")
  let set ← authority state proof.commitment.validatorSetId
  V.verifyProof V.verificationKey (publicInputs L set proof).encode proof.proof
  let intermediates ← proof.headers.mapM (intermediateState L)
  pure (advance state proof.commitment.blockNumber proof.mmrLeaf.nextAuthoritySet, intermediates)

variable {L V} {state : BeefyConsensusState} {proof : SP1BeefyProof}
  {out : BeefyConsensusState × List IntermediateState} {set : AuthoritySetCommitment}

theorem verifyConsensus_ok :
    verifyConsensus L V state proof = .ok out ↔ state.latestHeight.toNat < proof.commitment.blockNumber.toNat ∧
      (∃ set, authority state proof.commitment.validatorSetId = .ok set ∧
        V.verifyProof V.verificationKey (publicInputs L set proof).encode proof.proof = .ok ()) ∧
      proof.headers.mapM (intermediateState L) = .ok out.2 ∧
      out.1 = advance state proof.commitment.blockNumber proof.mmrLeaf.nextAuthoritySet := by
  unfold verifyConsensus
  rw [except_check_ok, revertIf_ok, Nat.not_le, except_bind_ok]
  refine and_congr_right fun _ => ?_
  constructor
  · rintro ⟨set, hset, h⟩
    obtain ⟨hverify, h⟩ := except_check_ok.mp h
    obtain ⟨intermediates, hmap, hend⟩ := except_bind_ok.mp h
    obtain rfl := Except.ok.inj hend
    exact ⟨⟨set, hset, hverify⟩, hmap, rfl⟩
  · rintro ⟨⟨set, hset, hverify⟩, hmap, hstate⟩
    refine ⟨set, hset, except_check_ok.mpr ⟨hverify, except_bind_ok.mpr ⟨out.2, hmap, ?_⟩⟩⟩
    rw [← hstate]
    rfl

/-- The same proof with another block number and other ids. -/
def SP1BeefyProof.restate (proof : SP1BeefyProof) (blockNumber : U256) (ids : List U256) : SP1BeefyProof :=
  { proof with
    commitment := { proof.commitment with blockNumber := blockNumber }
    headers := proof.headers.zipWith (fun para id => { para with id := id }) ids }

theorem publicInputs_restate (blockNumber : U256) {ids : List U256} (hids : ids.length = proof.headers.length) :
    publicInputs L set (proof.restate blockNumber ids) = publicInputs L set proof := by
  have hheaders : (proof.headers.zipWith (fun para id => { para with id := id }) ids).map
      (fun para => L.keccak256 para.header) = proof.headers.map fun para => L.keccak256 para.header := by
    rw [List.map_zipWith]
    generalize proof.headers = headers at hids
    induction headers generalizing ids with
    | nil => rfl
    | cons para headers ih =>
      cases ids with
      | nil => cases hids
      | cons id ids => simp [ih (Nat.succ.inj hids)]
  simp only [publicInputs, SP1BeefyProof.restate, hheaders]

theorem intermediateState_restate {para : ParachainHeader} {st : IntermediateState}
    (h : intermediateState L para = .ok st) (id : U256) :
    intermediateState L { para with id := id } = .ok { st with stateMachineId := id } := by
  obtain ⟨header, hheader, h⟩ := except_bind_ok.mp h
  obtain ⟨hnumber, h⟩ := except_check_ok.mp h
  obtain ⟨commitment, hcommitment, hend⟩ := except_bind_ok.mp h
  obtain rfl := Except.ok.inj hend
  exact except_bind_ok.mpr ⟨header, hheader, except_check_ok.mpr ⟨hnumber,
    except_bind_ok.mpr ⟨commitment, hcommitment, rfl⟩⟩⟩

theorem mapM_restate {headers : List ParachainHeader} {states : List IntermediateState}
    (h : List.Forall₂ (fun para st => intermediateState L para = .ok st) headers states) {ids : List U256}
    (hids : ids.length = headers.length) :
    ∃ states', (headers.zipWith (fun para id => { para with id := id }) ids).mapM (intermediateState L) =
      .ok states' ∧ states'.map (·.stateMachineId) = ids := by
  simp only [except_mapM_ok]
  induction h generalizing ids with
  | nil =>
    obtain rfl := List.length_eq_zero_iff.mp hids
    exact ⟨[], .nil, rfl⟩
  | cons hfirst _ ih =>
    cases ids with
    | nil => cases hids
    | cons id ids =>
      obtain ⟨states', hstates, hmap⟩ := ih (Nat.succ.inj hids)
      exact ⟨_ :: states', .cons (intermediateState_restate hfirst id) hstates, by simp [hmap]⟩

structure Relay where
  signed : H256 → U256 → BitVec 32 → H256 → Prop
  contains : H256 → H256 → Prop
  head : H256 → BitVec 32 → H256 → Prop

variable (R : Relay)

/-- What the SP1 program shows. -/
def Relay.Proven (p : PublicInputs) : Prop :=
  (∃ number root, R.signed p.authoritiesRoot p.authoritiesLen number root ∧ R.contains root p.leafHash) ∧
    ∀ hash ∈ p.headers, ∃ id, R.head p.leafHash id hash

def VerifierSound (V : Verifier) : Prop :=
  ∀ inputs proof, V.verifyProof V.verificationKey inputs.encode proof = .ok () → R.Proven inputs

def Relay.Signed (set : AuthoritySetCommitment) (leafHash : H256) (blockNumber : U256) : Prop :=
  ∃ number root, R.signed set.root set.len number root ∧ R.contains root leafHash ∧
    blockNumber = number.setWidth 256

def Relay.Finalized (leafHash headerHash : H256) (id : U256) : Prop :=
  ∃ number, R.head leafHash number headerHash ∧ id = number.setWidth 256

def Bound (L : Libraries) (set : AuthoritySetCommitment) (proof : SP1BeefyProof)
    (out : BeefyConsensusState × List IntermediateState) : Prop :=
  R.Signed set (publicInputs L set proof).leafHash out.1.latestHeight ∧
    List.Forall₂ (fun para st => R.Finalized (publicInputs L set proof).leafHash (L.keccak256 para.header)
      st.stateMachineId) proof.headers out.2

/-- The proofs differ at most in what no public input covers. -/
structure SharesProof (L : Libraries) (set : AuthoritySetCommitment) (proof proof' : SP1BeefyProof) : Prop where
  inputs : publicInputs L set proof' = publicInputs L set proof
  sp1Proof : proof'.proof = proof.proof
  validatorSetId : proof'.commitment.validatorSetId = proof.commitment.validatorSetId

/-- With these public inputs, only true values are proved. -/
def BoundByProof (L : Libraries) (V : Verifier) (state : BeefyConsensusState) (set : AuthoritySetCommitment)
    (proof : SP1BeefyProof) : Prop :=
  ∀ proof' out', SharesProof L set proof proof' → verifyConsensus L V state proof' = .ok out' →
    Bound R L set proof' out'

theorem verifyConsensus_restate (h : verifyConsensus L V state proof = .ok out)
    (hset : authority state proof.commitment.validatorSetId = .ok set) {blockNumber : U256} {ids : List U256}
    (hblock : state.latestHeight.toNat < blockNumber.toNat) (hids : ids.length = proof.headers.length) :
    SharesProof L set proof (proof.restate blockNumber ids) ∧
      ∃ out', verifyConsensus L V state (proof.restate blockNumber ids) = .ok out' ∧
        out'.1.latestHeight = blockNumber ∧ out'.2.map (·.stateMachineId) = ids := by
  obtain ⟨-, ⟨set', hset', hverify⟩, hmap, -⟩ := verifyConsensus_ok.mp h
  obtain rfl : set = set' := Except.ok.inj (hset.symm.trans hset')
  have hinputs : publicInputs L set (proof.restate blockNumber ids) = publicInputs L set proof :=
    publicInputs_restate blockNumber hids
  obtain ⟨states', hstates, hmachines⟩ := mapM_restate (except_mapM_ok.mp hmap) hids
  refine ⟨⟨hinputs, rfl, rfl⟩, (advance state blockNumber proof.mmrLeaf.nextAuthoritySet, states'), ?_,
    advance_height _ _, hmachines⟩
  refine verifyConsensus_ok.mpr ⟨hblock, ⟨set, hset, ?_⟩, hstates, rfl⟩
  rw [hinputs]
  exact hverify

theorem allOnes_ne_setWidth (n : BitVec 32) : BitVec.allOnes 256 ≠ n.setWidth 256 := by
  intro h
  have hnat := congrArg BitVec.toNat h
  rw [BitVec.toNat_allOnes, BitVec.toNat_setWidth, Nat.mod_eq_of_lt (by omega)] at hnat
  omega

/-- An accepted SP1 proof shows that some block was signed and that every header is the head of some parachain, but
never which: it is accepted with every higher block number and with any ids, also with a height nobody has signed and
ids no parachain has. -/
theorem values_never_bound {R : Relay} (hsound : VerifierSound R V) (h : verifyConsensus L V state proof = .ok out)
    (hset : authority state proof.commitment.validatorSetId = .ok set) :
    R.Proven (publicInputs L set proof) ∧
      (∀ (blockNumber : U256) (ids : List U256), state.latestHeight.toNat < blockNumber.toNat →
        ids.length = proof.headers.length → SharesProof L set proof (proof.restate blockNumber ids) ∧
          ∃ out', verifyConsensus L V state (proof.restate blockNumber ids) = .ok out' ∧
            out'.1.latestHeight = blockNumber ∧ out'.2.map (·.stateMachineId) = ids) ∧
      (∃ proof' out', SharesProof L set proof proof' ∧ verifyConsensus L V state proof' = .ok out' ∧
        (∀ leafHash, ¬ R.Signed set leafHash out'.1.latestHeight) ∧
        ∀ st ∈ out'.2, ∀ leafHash headerHash, ¬ R.Finalized leafHash headerHash st.stateMachineId) ∧
      ¬ BoundByProof R L V state set proof := by
  obtain ⟨hheight, ⟨set', hset', hverify⟩, -, -⟩ := verifyConsensus_ok.mp h
  obtain rfl : set = set' := Except.ok.inj (hset.symm.trans hset')
  -- the highest word there is: neither a block number nor the id of a parachain
  have hblock : state.latestHeight.toNat < (BitVec.allOnes 256).toNat := by
    have hlt := proof.commitment.blockNumber.isLt
    rw [BitVec.toNat_allOnes]
    omega
  obtain ⟨hshares, out', haccepted, hlatest, hmachines⟩ := verifyConsensus_restate h hset hblock
    (List.length_replicate : (List.replicate proof.headers.length (BitVec.allOnes 256)).length = _)
  have hsigned (leafHash : H256) : ¬ R.Signed set leafHash out'.1.latestHeight := by
    rintro ⟨number, root, -, -, hnumber⟩
    exact allOnes_ne_setWidth number (hlatest.symm.trans hnumber)
  refine ⟨hsound _ _ hverify, fun _ _ => verifyConsensus_restate h hset, ⟨_, out', hshares, haccepted, hsigned, ?_⟩,
    fun hbound => hsigned _ (hbound _ out' hshares haccepted).1⟩
  rintro st hst leafHash headerHash ⟨number, -, hid⟩
  have hmem : st.stateMachineId ∈ List.replicate proof.headers.length (BitVec.allOnes 256) :=
    hmachines ▸ List.mem_map_of_mem hst
  exact allOnes_ne_setWidth number ((List.eq_of_mem_replicate hmem).symm.trans hid)

/-- A proof of block 10 and parachain 3367. -/
def sampleProof : SP1BeefyProof where
  commitment := ⟨10, 2⟩
  mmrLeaf := ⟨0, 0, BytesN.zero 32, ⟨3, 4, sampleAuthorities⟩, sampleHeads⟩
  headers := [⟨3367, sampleHeader⟩]
  proof := [1]

def sampleInputs : PublicInputs where
  authoritiesRoot := sampleAuthorities
  authoritiesLen := 4
  leafHash := sampleRoot
  headers := [sampleHeaderHash]

def sampleVerifier : Verifier where
  verificationKey := BytesN.ofNat 32 0x00b3830a7bcbd368596446801391435c29bb5319827319de0acb83fb7490ef49
  verifyProof _ inputs proof := revertIf (inputs ≠ sampleInputs.encode ∨ proof ≠ [1]) (.error "InvalidProof")

def sampleRelay : Relay where
  signed root len number mmr := root = sampleAuthorities ∧ len = 4 ∧ number = 10 ∧ mmr = sampleRoot
  contains root leaf := leaf = root
  head leaf id header := leaf = sampleRoot ∧ id = 3367 ∧ header = sampleHeaderHash

theorem verifierSound_sample : VerifierSound sampleRelay sampleVerifier := by
  intro inputs proof h
  have hinputs : inputs.encode = sampleInputs.encode := by
    simp only [sampleVerifier, revertIf_ok] at h
    push Not at h
    exact h.1
  obtain rfl := PublicInputs.encode_injective hinputs
  refine ⟨⟨10, sampleRoot, ⟨rfl, rfl, rfl, rfl⟩, rfl⟩, fun hash hmem => ⟨3367, rfl, rfl, ?_⟩⟩
  exact List.mem_singleton.mp hmem

theorem verifyConsensus_sample : verifyConsensus sampleLibraries sampleVerifier sampleState sampleProof =
    .ok (⟨10, 0, ⟨2, 4, sampleAuthorities⟩, ⟨3, 4, sampleAuthorities⟩⟩, [⟨3367, 1, sampleStateCommitment⟩]) := by
  decide +kernel

theorem values_never_bound_sample :
    sampleRelay.Proven (publicInputs sampleLibraries ⟨2, 4, sampleAuthorities⟩ sampleProof) ∧
      ¬ BoundByProof sampleRelay sampleLibraries sampleVerifier sampleState ⟨2, 4, sampleAuthorities⟩ sampleProof := by
  obtain ⟨hproven, -, -, hnever⟩ := values_never_bound verifierSound_sample verifyConsensus_sample rfl
  exact ⟨hproven, hnever⟩

/-- The SP1 proof of block 10 and parachain 3367, handed over as one of block 1000000 and parachain 1000. -/
theorem restated_proof_accepted : ∃ out, VerifierSound sampleRelay sampleVerifier ∧
    verifyConsensus sampleLibraries sampleVerifier sampleState (sampleProof.restate 1000000 [1000]) = .ok out ∧
    authority sampleState 2 = .ok ⟨2, 4, sampleAuthorities⟩ ∧
    ¬ Bound sampleRelay sampleLibraries ⟨2, 4, sampleAuthorities⟩ (sampleProof.restate 1000000 [1000]) out := by
  have haccepted : verifyConsensus sampleLibraries sampleVerifier sampleState
      (sampleProof.restate 1000000 [1000]) =
      .ok (⟨1000000, 0, ⟨2, 4, sampleAuthorities⟩, ⟨3, 4, sampleAuthorities⟩⟩,
        [⟨1000, 1, sampleStateCommitment⟩]) := by
    decide +kernel
  refine ⟨_, verifierSound_sample, haccepted, rfl, fun hbound => ?_⟩
  obtain ⟨⟨number, root, ⟨-, -, rfl, -⟩, -, hheight⟩, -⟩ := hbound
  revert hheight
  decide

end Hyperbridge.Beefy.SP1Beefy
