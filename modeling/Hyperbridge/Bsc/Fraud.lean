import Hyperbridge.Bsc.Verifier
import Mathlib.Data.Set.Basic

/-!
# BSC fraud proofs

`BscClient::verify_fraud_proof` compares the two attested headers: one number, two hashes. What the validators have
signed is the vote in the extra data of these headers, and the votes are not compared. A header is not part of what is
signed in it, so one attestation makes two different headers.
-/

namespace Hyperbridge.Bsc

open Lib

variable {G1 G2 GT : Type}

/-- `BscClient::verify_fraud_proof`. -/
def verifyFraudProof [Add G1] [Zero G1] [DecidableEq GT] (B : Bls G1 G2 GT) (C : Config) (K : Codec)
    (trustedConsensusState proof1 proof2 : Bytes) : Except Fault Unit := do
  let update1 ← okOr (K.decodeUpdate proof1) (.error "Cannot decode bsc client update for proof 1")
  let update2 ← okOr (K.decodeUpdate proof2) (.error "Cannot decode bsc client update for proof 2")
  errIf (update1.attestedHeader.number ≠ update2.attestedHeader.number) (.error "Invalid Fraud proof")
  errIf (hashHeader C update1.attestedHeader = hashHeader C update2.attestedHeader) (.error "Invalid Fraud proof")
  let state ← okOr (K.decodeConsensusState trustedConsensusState) (.error "Cannot decode trusted consensus state")
  let _ ← reword "Failed to verify first header" (verifyBscHeader B C state.currentValidators update1)
  let _ ← reword "Failed to verify second header" (verifyBscHeader B C state.currentValidators update2)
  pure ()

variable {B : Bls G1 G2 GT} {C : Config} {K : Codec}

theorem verifyFraudProof_ok [Add G1] [Zero G1] [DecidableEq GT] {trusted proof1 proof2 : Bytes}
    {update1 update2 : BscClientUpdate} {state : ConsensusState} (h1 : K.decodeUpdate proof1 = some update1)
    (h2 : K.decodeUpdate proof2 = some update2) (hstate : K.decodeConsensusState trusted = some state)
    (h : verifyFraudProof B C K trusted proof1 proof2 = .ok ()) :
    (∃ result, verifyBscHeader B C state.currentValidators update1 = .ok result) ∧
      ∃ result, verifyBscHeader B C state.currentValidators update2 = .ok result := by
  simp only [verifyFraudProof, h1, h2, hstate, except_bind_ok, okOr_eq_ok, Option.some.injEq, exists_eq_left',
    reword_ok] at h
  obtain ⟨_, -, _, -, result1, hv1, result2, hv2, -⟩ := h
  exact ⟨⟨result1, hv1⟩, ⟨result2, hv2⟩⟩

/-- A number and a hash belong to at most one block. -/
structure Chain where
  blocks : Set (UInt64 × H256)
  hash_unique : ∀ a ∈ blocks, ∀ b ∈ blocks, a.1 = b.1 → a.2 = b.2
  number_unique : ∀ a ∈ blocks, ∀ b ∈ blocks, a.2 = b.2 → a.1 = b.1

def VoteData.blocks (v : VoteData) : List (UInt64 × H256) :=
  [(v.sourceNumber, v.sourceHash), (v.targetNumber, v.targetHash)]

/-- Both blocks of the vote are on the chain. -/
def VoteData.On (v : VoteData) (chain : Chain) : Prop := ∀ b ∈ v.blocks, b ∈ chain.blocks

def Conflicting (v w : VoteData) : Prop :=
  (v.sourceHash ≠ w.sourceHash ∨ v.targetHash ≠ w.targetHash) ∧ ∀ chain : Chain, ¬ (v.On chain ∧ w.On chain)

def Clash (v w : VoteData) : Prop :=
  ∃ a ∈ v.blocks ++ w.blocks, ∃ b ∈ v.blocks ++ w.blocks, ¬ (a.1 = b.1 ↔ a.2 = b.2)

instance (v w : VoteData) : Decidable (Clash v w) := by
  unfold Clash
  infer_instance

theorem no_chain_iff_clash {v w : VoteData} : (∀ chain : Chain, ¬ (v.On chain ∧ w.On chain)) ↔ Clash v w := by
  constructor
  · intro hnone
    by_contra hclash
    have hagree : ∀ a ∈ v.blocks ++ w.blocks, ∀ b ∈ v.blocks ++ w.blocks, a.1 = b.1 ↔ a.2 = b.2 := by
      intro a ha b hb
      by_contra hab
      exact hclash ⟨a, ha, b, hb, hab⟩
    let chain : Chain :=
      { blocks := {b | b ∈ v.blocks ++ w.blocks}
        hash_unique := fun a ha b hb => (hagree a ha b hb).mp
        number_unique := fun a ha b hb => (hagree a ha b hb).mpr }
    exact hnone chain ⟨fun b hb => List.mem_append_left _ hb, fun b hb => List.mem_append_right _ hb⟩
  · rintro ⟨a, ha, b, hb, hab⟩ chain ⟨hv, hw⟩
    have hon (x : UInt64 × H256) (hx : x ∈ v.blocks ++ w.blocks) : x ∈ chain.blocks := by
      rcases List.mem_append.mp hx with hx | hx
      · exact hv x hx
      · exact hw x hx
    exact hab ⟨chain.hash_unique a (hon a ha) b (hon b hb), chain.number_unique a (hon a ha) b (hon b hb)⟩

def EnoughVoters (B : Bls G1 G2 GT) (validators : List BlsPublicKey) (set : UInt64) : Prop :=
  2 * validators.length ≤ 3 * (voters B validators set).length ∧ 1 ≤ (voters B validators set).length

/-- A fraud proof that passes shows two conflicting votes of a quorum exactly if enough validators have voted in both
attestations, and the votes have different hashes and name blocks that clash. -/
theorem fraud_proof_shows_conflict_iff [Add G1] [Zero G1] [DecidableEq GT]
    (hround : ∀ p, B.pubkeyToPoint (B.pointToPubkey p) = some p) {trusted proof1 proof2 : Bytes}
    {update1 update2 : BscClientUpdate} {state : ConsensusState} (h1 : K.decodeUpdate proof1 = some update1)
    (h2 : K.decodeUpdate proof2 = some update2) (hstate : K.decodeConsensusState trusted = some state)
    (hok : verifyFraudProof B C K trusted proof1 proof2 = .ok ()) :
    ∃ extra1 extra2, parseExtra C update1.attestedHeader = .ok extra1 ∧
      parseExtra C update2.attestedHeader = .ok extra2 ∧
      ((Quorum B C state.currentValidators extra1 ∧ Quorum B C state.currentValidators extra2 ∧
          Conflicting extra1.voteData extra2.voteData) ↔
        EnoughVoters B state.currentValidators extra1.voteAddressSet ∧
          EnoughVoters B state.currentValidators extra2.voteAddressSet ∧
          (extra1.voteData.sourceHash ≠ extra2.voteData.sourceHash ∨
            extra1.voteData.targetHash ≠ extra2.voteData.targetHash) ∧
          Clash extra1.voteData extra2.voteData) := by
  obtain ⟨⟨result1, hv1⟩, ⟨result2, hv2⟩⟩ := verifyFraudProof_ok h1 h2 hstate hok
  obtain ⟨extra1, hextra1, -, hverify1⟩ := verifyBscHeader_ok hv1
  obtain ⟨extra2, hextra2, -, hverify2⟩ := verifyBscHeader_ok hv2
  refine ⟨extra1, extra2, hextra1, hextra2, ?_⟩
  rw [quorum_iff_of_verify hround hverify1, quorum_iff_of_verify hround hverify2, Conflicting, no_chain_iff_clash]
  rfl

def fraudBls : Bls (Fin 31) (Fin 31) (Fin 31) :=
  { sampleBls with hashToPoint := fun msg => samplePoint (msg.foldl (fun acc x => acc * 256 + x.toNat) 0) }

theorem fraudBls_round (p : Fin 31) : fraudBls.pubkeyToPoint (fraudBls.pointToPubkey p) = some p :=
  sampleBls_round p

def threeValidators : List BlsPublicKey := [1, 2, 3].map fun n => fraudBls.pointToPubkey (samplePoint n)

/-- The target with another time, and so another hash. -/
def targetAt (timestamp : UInt64) : CodecHeader := { sampleHeader 1002 sampleSourceHash [] with timestamp := timestamp }

variable (target : CodecHeader)

def attestation : VoteAttestationData :=
  let vote : VoteData := ⟨1001, sampleDigest sampleSource.encode, 1002, sampleDigest target.encode⟩
  { voteAddressSet := 7
    aggSignature :=
      ⟨compress 95 (fraudBls.hashToPoint (sampleDigest vote.encode).bytes * samplePoint 6), by simp [compress]⟩
    data := vote
    extra := [] }

def fraudConfig : Config where
  bohrForkTimestamp := 1727317200
  keccak256 := sampleDigest
  decodeAttestation data := [attestation (targetAt 1), attestation (targetAt 2)].find? fun a => a.encode = data

def attestedUpdate (timestamp : UInt64) : BscClientUpdate where
  sourceHeader := sampleSource
  targetHeader := target
  attestedHeader :=
    { sampleHeader 1003 (sampleDigest target.encode)
        (List.replicate 32 0 ++ (attestation target).encode ++ List.replicate 65 0) with timestamp := timestamp }
  epochHeaderAncestry := []

def fraudCodec : Codec where
  decodeUpdate
    | [target, attested] => some (attestedUpdate (targetAt target.toUInt64) attested.toUInt64)
    | _ => none
  decodeConsensusState _ := some ⟨threeValidators, none, 0, BytesN.zero 32, 5, 56⟩
  encodeConsensusState _ := []

def attestedExtra : ExtraData where
  extraVanity := List.replicate 32 0
  extraSeal := List.replicate 65 0
  aggSignature := (attestation target).aggSignature
  voteData := (attestation target).data
  voteAddressSet := 7

theorem fraud_proof_shows_conflict_iff_sample :
    ∃ extra1 extra2, parseExtra fraudConfig (attestedUpdate (targetAt 1) 1).attestedHeader = .ok extra1 ∧
      parseExtra fraudConfig (attestedUpdate (targetAt 2) 1).attestedHeader = .ok extra2 ∧
      ((Quorum fraudBls fraudConfig threeValidators extra1 ∧ Quorum fraudBls fraudConfig threeValidators extra2 ∧
          Conflicting extra1.voteData extra2.voteData) ↔ EnoughVoters fraudBls threeValidators extra1.voteAddressSet ∧
          EnoughVoters fraudBls threeValidators extra2.voteAddressSet ∧
          (extra1.voteData.sourceHash ≠ extra2.voteData.sourceHash ∨
            extra1.voteData.targetHash ≠ extra2.voteData.targetHash) ∧
          Clash extra1.voteData extra2.voteData) := by
  have hok : verifyFraudProof fraudBls fraudConfig fraudCodec [] [1, 1] [2, 1] = .ok () := by decide +kernel
  exact fraud_proof_shows_conflict_iff fraudBls_round rfl rfl rfl hok

/-- One vote of all validators, in two headers that differ in their time: the fraud proof passes. -/
theorem one_attestation_passes_twice :
    verifyFraudProof fraudBls fraudConfig fraudCodec [] [1, 1] [1, 2] = .ok () ∧
      fraudCodec.decodeUpdate [1, 1] = some (attestedUpdate (targetAt 1) 1) ∧
      fraudCodec.decodeUpdate [1, 2] = some (attestedUpdate (targetAt 1) 2) ∧
      parseExtra fraudConfig (attestedUpdate (targetAt 1) 1).attestedHeader = .ok (attestedExtra (targetAt 1)) ∧
      parseExtra fraudConfig (attestedUpdate (targetAt 1) 2).attestedHeader = .ok (attestedExtra (targetAt 1)) ∧
      Quorum fraudBls fraudConfig threeValidators (attestedExtra (targetAt 1)) ∧
      ¬ Conflicting (attestedExtra (targetAt 1)).voteData (attestedExtra (targetAt 1)).voteData := by
  refine ⟨by decide +kernel, rfl, rfl, by decide +kernel, by decide +kernel, ?_, ?_⟩
  · have hverify : verifyAggregateSignature fraudBls
        (aggregatePublicKeys fraudBls (participants threeValidators (attestedExtra (targetAt 1)).voteAddressSet))
        (fraudConfig.keccak256 (attestedExtra (targetAt 1)).voteData.encode).bytes
        (attestedExtra (targetAt 1)).aggSignature = .ok () := by decide +kernel
    exact (quorum_iff_of_verify fraudBls_round hverify).mpr (by decide +kernel)
  · rintro ⟨hdiffer, -⟩
    simp at hdiffer

end Hyperbridge.Bsc
