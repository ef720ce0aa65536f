import Hyperbridge.Bsc.Primitives
import Mathlib.Data.List.Range
import Mathlib.Data.ZMod.Defs

/-!
# The BSC verifier

`verify_bsc_header` takes the attestation out of the extra data of a header: 64 bits that say which validators have
voted, and an aggregate signature. The steps count different things. Bits beyond the last validator count but have no
key; validators beyond the 64th have no bit; a key that cannot be decoded is left out; and two thirds are rounded down.
-/

namespace Hyperbridge.Bsc

open Lib

variable {G1 G2 GT : Type}

structure Bls (G1 G2 GT : Type) where
  pubkeyToPoint : BlsPublicKey → Option G1
  pointToPubkey : G1 → BlsPublicKey
  signatureToPoint : BytesN 96 → Except String G2
  subgroupCheck : G2 → Bool
  hashToPoint : Bytes → G2
  pairing : G2 → G1 → GT
  generator : G1

structure NextValidators where
  validators : List BlsPublicKey
  rotationBlock : UInt64
  deriving DecidableEq

structure VerificationResult where
  hash : H256
  finalizedHeader : CodecHeader
  nextValidators : Option NextValidators
  deriving DecidableEq

structure ConsensusState where
  currentValidators : List BlsPublicKey
  nextValidators : Option NextValidators
  finalizedHeight : UInt64
  finalizedHash : H256
  currentEpoch : UInt64
  chainId : UInt32
  deriving DecidableEq

/-- The SCALE codecs of the client. -/
structure Codec where
  decodeUpdate : Bytes → Option BscClientUpdate
  decodeConsensusState : Bytes → Option ConsensusState
  encodeConsensusState : ConsensusState → Bytes

/-- The bits of the vote set, from the lowest. -/
def bits (set : UInt64) : List Bool := (List.range 64).map set.toNat.testBit

/-- The validators whose bit is set. -/
def participants (validators : List BlsPublicKey) (set : UInt64) : List BlsPublicKey :=
  (validators.zip (bits set)).filterMap fun vb => if vb.2 then some vb.1 else none

/-- The keys that decode. -/
def summands (B : Bls G1 G2 GT) (keys : List BlsPublicKey) : List G1 := keys.filterMap B.pubkeyToPoint

def aggregate [Add G1] [Zero G1] (points : List G1) : G1 := points.foldl (· + ·) 0

variable (B : Bls G1 G2 GT) (C : Config)

def aggregatePublicKeys [Add G1] [Zero G1] (keys : List BlsPublicKey) : BlsPublicKey :=
  B.pointToPubkey (aggregate (summands B keys))

def checkPairing [DecidableEq GT] (key : G1) (msg : Bytes) (signature : G2) : Except Fault Unit :=
  if B.subgroupCheck signature = false then .error (.error "Signature not in subgroup")
  else if B.pairing (B.hashToPoint msg) key = B.pairing signature B.generator then .ok ()
  else .error (.error "Aggregate signature verification failed")

/-- `verify_aggregate_signature`. -/
def verifyAggregateSignature [DecidableEq GT] (key : BlsPublicKey) (msg : Bytes) (signature : BytesN 96) :
    Except Fault Unit := do
  let key ← okOr (B.pubkeyToPoint key) (.error "Could not convert public key to point")
  let signature ← (B.signatureToPoint signature).mapError .error
  checkPairing B key msg signature

def hashHeader (header : CodecHeader) : H256 := C.keccak256 header.encode

/-- Every header is the child of the one before it. -/
def checkAncestry (hash : H256) : List CodecHeader → Except Fault H256
  | [] => .ok hash
  | header :: headers =>
    if hash ≠ header.parentHash then .error (.error "Epoch ancestry submitted is invalid")
    else checkAncestry (hashHeader C header) headers

def validatorsOf (current : List BlsPublicKey) (header : CodecHeader) : Except Fault NextValidators := do
  let extra ← reword "could not parse extra data from epoch header" (parseExtra C header)
  let validators := extra.validators.map (·.blsPublicKey)
  if validators = [] then
    .error (.error "Epoch header provided does not have a validator set present in its extra data")
  else pure ⟨validators, lowU64 header.number + UInt64.ofNat current.length / 2⟩

def nextValidators (current : List BlsPublicKey) (update : BscClientUpdate) :
    Except Fault (Option NextValidators) :=
  match update.epochHeaderAncestry with
  | epoch :: headers => do
    let hash ← checkAncestry C (hashHeader C epoch) headers
    if hash ≠ update.sourceHeader.parentHash then .error (.error "Epoch ancestry submitted is invalid")
    else do
      let next ← validatorsOf C current epoch
      pure (some next)
  | [] =>
    if lowU64 update.sourceHeader.number % epochLength = 0 then do
      let next ← validatorsOf C current update.sourceHeader
      pure (some next)
    else pure none

/-- `verify_bsc_header`. -/
def verifyBscHeader [Add G1] [Zero G1] [DecidableEq GT] (validators : List BlsPublicKey)
    (update : BscClientUpdate) : Except Fault VerificationResult := do
  let extra ← reword "could not parse extra data from header" (parseExtra C update.attestedHeader)
  errIf (extra.voteData.sourceHash = BytesN.zero 32 ∨ extra.voteData.targetHash = BytesN.zero 32)
    (.error "Vote data is empty")
  errIf ((bits extra.voteAddressSet).count true < 2 * validators.length / 3) (.error "Not enough participants")
  let sourceHash := hashHeader C update.sourceHeader
  errIf (sourceHash ≠ extra.voteData.sourceHash ∨
    hashHeader C update.targetHeader ≠ extra.voteData.targetHash)
    (.error "Target and Source headers do not match vote data")
  let key := aggregatePublicKeys B (participants validators extra.voteAddressSet)
  let msg := C.keccak256 extra.voteData.encode
  reword "Could not verify aggregate signature" (verifyAggregateSignature B key msg.bytes extra.aggSignature)
  let next ← nextValidators C validators update
  pure ⟨sourceHash, update.sourceHeader, next⟩

def pointAt (B : Bls G1 G2 GT) (validators : List BlsPublicKey) (i : Nat) : Option G1 :=
  validators[i]?.bind B.pubkeyToPoint

/-- The positions of the validators whose key is in the sum. -/
def voters (B : Bls G1 G2 GT) (validators : List BlsPublicKey) (set : UInt64) : List Nat :=
  (List.range validators.length).filter fun i =>
    i < 64 && set.toNat.testBit i && (pointAt B validators i).isSome

variable {B C} {validators : List BlsPublicKey} {set : UInt64}

theorem zip_append_singleton {α β : Type} (xs : List α) (x : α) (ys : List β) :
    (xs ++ [x]).zip ys = xs.zip ys ++ (ys[xs.length]?.map fun y => (x, y)).toList := by
  induction xs generalizing ys with
  | nil => cases ys <;> rfl
  | cons a xs ih =>
    cases ys with
    | nil => rfl
    | cons y ys => simp [ih]

variable (v : BlsPublicKey)

theorem participants_append :
    participants (validators ++ [v]) set = participants validators set ++
      if validators.length < 64 ∧ set.toNat.testBit validators.length then [v] else [] := by
  unfold participants bits
  rw [zip_append_singleton, List.filterMap_append]
  congr 1
  by_cases hlen : validators.length < 64
  · rw [List.getElem?_map, List.getElem?_range hlen]
    by_cases hbit : set.toNat.testBit validators.length = true
    · simp [hlen, hbit]
    · simp [hlen, hbit]
  · rw [List.getElem?_eq_none (by simpa using hlen)]
    simp [hlen]

theorem pointAt_append_left {i : Nat} (hi : i < validators.length) :
    pointAt B (validators ++ [v]) i = pointAt B validators i := by
  unfold pointAt
  rw [List.getElem?_append_left hi]

theorem pointAt_append_right : pointAt B (validators ++ [v]) validators.length = B.pubkeyToPoint v := by
  simp [pointAt]

theorem voters_append :
    voters B (validators ++ [v]) set = voters B validators set ++
      if validators.length < 64 ∧ set.toNat.testBit validators.length ∧ (B.pubkeyToPoint v).isSome
      then [validators.length] else [] := by
  unfold voters
  rw [List.length_append, List.length_singleton, List.range_succ, List.filter_append]
  congr 1
  · refine List.filter_congr fun i hi => ?_
    rw [pointAt_append_left v (List.mem_range.mp hi)]
  · rw [List.filter_singleton, pointAt_append_right]
    simp [and_assoc]

theorem lt_of_mem_voters {i : Nat} (hi : i ∈ voters B validators set) : i < validators.length :=
  List.mem_range.mp (List.mem_filter.mp hi).1

/-- The points summed are those of the voters. -/
theorem summands_eq :
    (voters B validators set).map (pointAt B validators) = (summands B (participants validators set)).map some := by
  induction validators using List.reverseRecOn with
  | nil => rfl
  | append_singleton validators v ih =>
    have hold : (voters B validators set).map (pointAt B (validators ++ [v])) =
        (voters B validators set).map (pointAt B validators) :=
      List.map_congr_left fun i hi => pointAt_append_left v (lt_of_mem_voters hi)
    rw [voters_append, participants_append, List.map_append, hold, ih, summands, summands,
      List.filterMap_append, List.map_append]
    congr 1
    by_cases hbit : validators.length < 64 ∧ set.toNat.testBit validators.length
    · rw [if_pos hbit]
      cases hpoint : B.pubkeyToPoint v with
      | none => simp [hpoint]
      | some p => simp [hbit, hpoint, pointAt_append_right]
    · rw [if_neg hbit, if_neg fun h => hbit ⟨h.1, h.2.1⟩]
      rfl

theorem length_summands : (summands B (participants validators set)).length = (voters B validators set).length := by
  have h : ((voters B validators set).map (pointAt B validators)).length =
      ((summands B (participants validators set)).map some).length := by rw [summands_eq]
  rw [List.length_map, List.length_map] at h
  exact h.symm

theorem pairwise_voters : (voters B validators set).Pairwise (· < ·) :=
  List.pairwise_lt_range.filter _

def Verifies (B : Bls G1 G2 GT) (key : G1) (msg : Bytes) (signature : BytesN 96) : Prop :=
  ∃ s, B.signatureToPoint signature = .ok s ∧ B.subgroupCheck s = true ∧
    B.pairing (B.hashToPoint msg) key = B.pairing s B.generator

def Quorum [Add G1] [Zero G1] (B : Bls G1 G2 GT) (C : Config) (validators : List BlsPublicKey)
    (extra : ExtraData) : Prop :=
  let points := summands B (participants validators extra.voteAddressSet)
  (∃ positions : List Nat, positions.Pairwise (· < ·) ∧ (∀ i ∈ positions, i < validators.length) ∧
    2 * validators.length ≤ 3 * positions.length ∧ 1 ≤ positions.length ∧
    positions.map (pointAt B validators) = points.map some) ∧
  Verifies B (aggregate points) (C.keccak256 extra.voteData.encode).bytes extra.aggSignature

theorem checkPairing_ok [DecidableEq GT] {key : G1} {msg : Bytes} {signature : G2} :
    checkPairing B key msg signature = .ok () ↔ B.subgroupCheck signature = true ∧
      B.pairing (B.hashToPoint msg) key = B.pairing signature B.generator := by
  unfold checkPairing
  by_cases hsub : B.subgroupCheck signature = true
  · by_cases hpair : B.pairing (B.hashToPoint msg) key = B.pairing signature B.generator
    · simp [hsub, hpair]
    · simp [hsub, hpair]
  · simp [hsub]

theorem verifyAggregateSignature_ok [Add G1] [Zero G1] [DecidableEq GT]
    (hround : ∀ p, B.pubkeyToPoint (B.pointToPubkey p) = some p) {keys : List BlsPublicKey} {msg : Bytes}
    {signature : BytesN 96} (h : verifyAggregateSignature B (aggregatePublicKeys B keys) msg signature = .ok ()) :
    Verifies B (aggregate (summands B keys)) msg signature := by
  obtain ⟨key, hkey, h⟩ := except_bind_ok.mp h
  rw [okOr_eq_ok, aggregatePublicKeys, hround] at hkey
  obtain rfl := Option.some.inj hkey
  obtain ⟨s, hs, hpair⟩ := except_bind_ok.mp h
  exact ⟨s, except_mapError_ok.mp hs, checkPairing_ok.mp hpair⟩

theorem verifyBscHeader_ok [Add G1] [Zero G1] [DecidableEq GT] {update : BscClientUpdate}
    {result : VerificationResult} (h : verifyBscHeader B C validators update = .ok result) :
    ∃ extra, parseExtra C update.attestedHeader = .ok extra ∧
      2 * validators.length / 3 ≤ (bits extra.voteAddressSet).count true ∧
      verifyAggregateSignature B (aggregatePublicKeys B (participants validators extra.voteAddressSet))
        (C.keccak256 extra.voteData.encode).bytes extra.aggSignature = .ok () := by
  obtain ⟨extra, hextra, h⟩ := except_bind_ok.mp h
  rw [reword_ok] at hextra
  simp only [except_check_ok, errIf_ok, reword_ok] at h
  obtain ⟨-, hcount, -, hverify, -⟩ := h
  exact ⟨extra, hextra, by omega, hverify⟩

theorem quorum_iff_of_verify [Add G1] [Zero G1] [DecidableEq GT]
    (hround : ∀ p, B.pubkeyToPoint (B.pointToPubkey p) = some p) {extra : ExtraData}
    (hverify : verifyAggregateSignature B (aggregatePublicKeys B (participants validators extra.voteAddressSet))
      (C.keccak256 extra.voteData.encode).bytes extra.aggSignature = .ok ()) :
    Quorum B C validators extra ↔ 2 * validators.length ≤ 3 * (voters B validators extra.voteAddressSet).length ∧
        1 ≤ (voters B validators extra.voteAddressSet).length := by
  constructor
  · rintro ⟨⟨positions, -, -, hthirds, hone, hsummands⟩, -⟩
    have hsame := congrArg List.length hsummands
    rw [List.length_map, List.length_map, length_summands] at hsame
    omega
  · rintro ⟨hthirds, hone⟩
    exact ⟨⟨_, pairwise_voters, fun i hi => lt_of_mem_voters hi, hthirds, hone, summands_eq⟩,
      verifyAggregateSignature_ok hround hverify⟩

/-- An accepted update carries a quorum exactly when two thirds of the validators, and at least one, have their bit set
and a key that decodes. -/
theorem quorum_iff_voters [Add G1] [Zero G1] [DecidableEq GT]
    (hround : ∀ p, B.pubkeyToPoint (B.pointToPubkey p) = some p) {update : BscClientUpdate}
    {result : VerificationResult} (h : verifyBscHeader B C validators update = .ok result)
    {extra : ExtraData} (hextra : parseExtra C update.attestedHeader = .ok extra) :
    Quorum B C validators extra ↔ 2 * validators.length ≤ 3 * (voters B validators extra.voteAddressSet).length ∧
        1 ≤ (voters B validators extra.voteAddressSet).length := by
  obtain ⟨extra', hextra', -, hverify⟩ := verifyBscHeader_ok h
  obtain rfl : extra = extra' := Except.ok.inj (hextra.symm.trans hextra')
  exact quorum_iff_of_verify hround hverify

def compress (n : Nat) (p : Fin 31) : Bytes := (if p = 0 then 0xc0 else 0x80) :: beBytes n p.val

def decompress (n : Nat) (data : Bytes) : Option (Fin 31) :=
  let p := Fin.ofNat 31 (data.getLast?.getD 0).toNat
  if data = compress n p then some p else none

def samplePoint (n : Nat) : Fin 31 := Fin.ofNat 31 n

/-- A group of 31 elements, paired by multiplication. -/
def sampleBls : Bls (Fin 31) (Fin 31) (Fin 31) where
  pubkeyToPoint key := decompress 47 key.bytes
  pointToPubkey p := ⟨compress 47 p, by simp [compress]⟩
  signatureToPoint signature :=
    match decompress 95 signature.bytes with
    | some p => .ok p
    | none => .error "BLSError"
  subgroupCheck _ := true
  hashToPoint _ := 5
  pairing q p := q * p
  generator := 1

/-- Twenty-one validators. -/
def sampleValidators : List BlsPublicKey :=
  (List.finRange 31).tail.take 21 |>.map sampleBls.pointToPubkey

def sampleHeader (number : Nat) (parentHash : H256) (extraData : Bytes) : CodecHeader where
  parentHash := parentHash
  uncleHash := BytesN.zero 32
  coinbase := BytesN.zero 20
  stateRoot := BytesN.zero 32
  transactionsRoot := BytesN.zero 32
  receiptsRoot := BytesN.zero 32
  logsBloom := BytesN.zero 256
  difficulty := 2
  number := .ofNat 256 number
  gasLimit := 0
  gasUsed := 0
  timestamp := 1727317200
  extraData := extraData
  mixHash := BytesN.zero 32
  nonce := BytesN.zero 8
  baseFeePerGas := none
  withdrawalsHash := none
  blobGasUsed := none
  excessBlobGasUsed := none
  parentBeaconRoot := none

def sampleSourceHash : H256 :=
  BytesN.ofNat 32 0x2532d34338aa5aa9697b62d305eafbf9a832ab9b20cca1aabcf0e695443ff1a9

def sampleTargetHash : H256 :=
  BytesN.ofNat 32 0xac92a1601f40d516f4ca756dbd68426ac9619e49f1fadf3e7c3fae4aa01bf8ff

def sampleSource : CodecHeader := sampleHeader 1001 (BytesN.zero 32) []

def sampleTarget : CodecHeader := sampleHeader 1002 sampleSourceHash []

def sampleAttestation : VoteAttestationData where
  voteAddressSet := 0x00000003ffe00001
  aggSignature := ⟨compress 95 5, by simp [compress]⟩
  data := ⟨1001, sampleSourceHash, 1002, sampleTargetHash⟩
  extra := []

def VoteAttestationData.encode (a : VoteAttestationData) : Bytes :=
  rlpList [rlpNat a.voteAddressSet.toNat, rlpBytes a.aggSignature.bytes, a.data.encode, rlpBytes a.extra]

def sampleChain : Config where
  bohrForkTimestamp := 1727317200
  keccak256 b :=
    if b = sampleSource.encode then sampleSourceHash
    else if b = sampleTarget.encode then sampleTargetHash
    else if b = sampleAttestation.data.encode then
      BytesN.ofNat 32 0xa37955a748727ff8d387d6a69e146f8fcef4237eba84c0312a7d218364fa5ded
    else BytesN.zero 32
  decodeAttestation data := if data = sampleAttestation.encode then some sampleAttestation else none

def sampleUpdate : BscClientUpdate where
  sourceHeader := sampleSource
  targetHeader := sampleTarget
  attestedHeader := sampleHeader 1003 sampleTargetHash
    (List.replicate 32 0 ++ sampleAttestation.encode ++ List.replicate 65 0)
  epochHeaderAncestry := []

def sampleExtra : ExtraData where
  extraVanity := List.replicate 32 0
  extraSeal := List.replicate 65 0
  aggSignature := sampleAttestation.aggSignature
  voteData := sampleAttestation.data
  voteAddressSet := sampleAttestation.voteAddressSet

theorem parseExtra_sample : parseExtra sampleChain sampleUpdate.attestedHeader = .ok sampleExtra := by
  decide +kernel

theorem sampleBls_round (p : Fin 31) : sampleBls.pubkeyToPoint (sampleBls.pointToPubkey p) = some p := by
  revert p
  decide +kernel

theorem verifyBscHeader_sample :
    verifyBscHeader sampleBls sampleChain sampleValidators sampleUpdate =
      .ok ⟨sampleSourceHash, sampleSource, none⟩ := by
  decide +kernel

theorem quorum_iff_voters_sample :
    Quorum sampleBls sampleChain sampleValidators sampleExtra ↔
      2 * sampleValidators.length ≤ 3 * (voters sampleBls sampleValidators sampleExtra.voteAddressSet).length ∧
        1 ≤ (voters sampleBls sampleValidators sampleExtra.voteAddressSet).length :=
  quorum_iff_voters sampleBls_round verifyBscHeader_sample parseExtra_sample

/-- The update is accepted for twenty-one validators with the vote of one of them. -/
theorem one_vote_of_twenty_one_accepted :
    sampleValidators.length = 21 ∧ verifyBscHeader sampleBls sampleChain sampleValidators sampleUpdate =
      .ok ⟨sampleSourceHash, sampleSource, none⟩ ∧
    parseExtra sampleChain sampleUpdate.attestedHeader = .ok sampleExtra ∧
    ¬ Quorum sampleBls sampleChain sampleValidators sampleExtra := by
  refine ⟨rfl, verifyBscHeader_sample, parseExtra_sample, ?_⟩
  rintro ⟨⟨positions, -, -, hthirds, -, hsummands⟩, -⟩
  have hsame := congrArg List.length hsummands
  have hone : (voters sampleBls sampleValidators sampleExtra.voteAddressSet).length = 1 := by decide +kernel
  have hall : sampleValidators.length = 21 := rfl
  rw [List.length_map, List.length_map, length_summands] at hsame
  omega

end Hyperbridge.Bsc
