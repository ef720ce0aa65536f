import Hyperbridge.Bsc.ExtraData
import Hyperbridge.Ismp.Messaging
import Mathlib.Data.Countable.Basic
import Mathlib.Data.FinEnum
import Mathlib.Logic.Equiv.List

/-!
# The BSC client and the rotation of validators

`BscClient::verify_consensus` keeps the validators that sign now and those that take over. The validators of an epoch
are in its first header, which an update brings as its source or as the first of the source's ancestry. The client
changes over with the first attested header far enough in its epoch.

The ancestry may be as long as an epoch, and then starts with the header of the epoch before; and the client changes
over to the list it has stored last, even if the source is in a later epoch.
-/

namespace Hyperbridge.Bsc.Client

open Lib Ismp

variable {G1 G2 GT : Type}

structure LawfulCodec extends Codec where
  bounded : ∀ proof update, decodeUpdate proof = some update → update.epochHeaderAncestry.length ≤ 200
  decode_encode : ∀ state, decodeConsensusState (encodeConsensusState state) = some state

def computeEpoch (number : UInt64) : UInt64 := number / epochLength

/-- The attested header has reached the block of the rotation. -/
def rotates (state : ConsensusState) (update : BscClientUpdate) : Bool :=
  state.nextValidators.isSome &&
    decide (UInt64.ofNat state.currentValidators.length / 2 ≤ lowU64 update.attestedHeader.number % epochLength)

def rotate (state : ConsensusState) (update : BscClientUpdate) : Except Fault ConsensusState :=
  match state.nextValidators with
  | none => .ok state
  | some next =>
    if rotates state update then do
      let epoch := computeEpoch (lowU64 update.attestedHeader.number)
      errIf (computeEpoch (lowU64 update.sourceHeader.number) ≠ epoch) (.error
        "The Source Header must be from the same epoch with the attested epoch during an authority set rotation")
      pure { state with currentValidators := next.validators, nextValidators := none, currentEpoch := epoch }
    else .ok state

def finalize (state : ConsensusState) (result : VerificationResult) : ConsensusState :=
  { state with
    finalizedHash := result.hash
    nextValidators := result.nextValidators.or state.nextValidators
    finalizedHeight := lowU64 result.finalizedHeader.number }

/-- The commitment that is stored for a finalized header. -/
def commitmentOf (header : CodecHeader) : StateCommitmentHeight where
  commitment := ⟨header.timestamp, none, header.stateRoot⟩
  height := lowU64 header.number

variable (B : Bls G1 G2 GT) (C : Config) (K : LawfulCodec)

/-- `BscClient::verify_consensus`. -/
def verifyConsensus [Add G1] [Zero G1] [DecidableEq GT] (trustedConsensusState proof : Bytes) :
    Except Fault (Bytes × List (StateMachine × List StateCommitmentHeight)) := do
  let update ← okOr (K.decodeUpdate proof) (.error "Cannot decode bsc client update")
  let state ← okOr (K.decodeConsensusState trustedConsensusState) (.error "Cannot decode trusted consensus state")
  errIf (lowU64 update.sourceHeader.number ≤ state.finalizedHeight) (.error "Expired Update")
  let state ← rotate state update
  let result ← verifyBscHeader B C state.currentValidators update
  let state := finalize state result
  pure (K.encodeConsensusState state, [(.evm state.chainId, [commitmentOf result.finalizedHeader])])

variable {B C K} {state state' : ConsensusState} {update : BscClientUpdate}

theorem rotate_ok (h : rotate state update = .ok state') :
    if rotates state update then
      ∃ next, state.nextValidators = some next ∧ state'.currentValidators = next.validators ∧
        state'.nextValidators = none else state' = state := by
  unfold rotate at h
  cases hnext : state.nextValidators with
  | none =>
    rw [hnext] at h
    obtain rfl := Except.ok.inj h
    simp [rotates, hnext]
  | some next =>
    rw [hnext] at h
    dsimp only at h
    split at h
    · next hrotates =>
      rw [except_check_ok] at h
      obtain rfl := Except.ok.inj h.2
      rw [if_pos hrotates]
      exact ⟨next, rfl, rfl, rfl⟩
    · next hrotates =>
      obtain rfl := Except.ok.inj h
      rw [if_neg hrotates]

theorem verifyBscHeader_next [Add G1] [Zero G1] [DecidableEq GT] {validators : List BlsPublicKey}
    {result : VerificationResult} (h : verifyBscHeader B C validators update = .ok result) :
    nextValidators C validators update = .ok result.nextValidators := by
  obtain ⟨extra, -, h⟩ := except_bind_ok.mp h
  simp only [except_check_ok] at h
  obtain ⟨-, -, -, -, h⟩ := h
  obtain ⟨next, hnext, h⟩ := except_bind_ok.mp h
  obtain rfl := Except.ok.inj h
  exact hnext

/-- The client takes this update in this state. -/
def Advances [Add G1] [Zero G1] [DecidableEq GT] (B : Bls G1 G2 GT) (C : Config) (K : LawfulCodec)
    (state : ConsensusState)
    (update : BscClientUpdate) (state' : ConsensusState) : Prop :=
  ∃ trusted proof out commitments, K.decodeConsensusState trusted = some state ∧ K.decodeUpdate proof = some update ∧
    verifyConsensus B C K trusted proof = .ok (out, commitments) ∧ K.decodeConsensusState out = some state'

/-- What an accepted update does to the state. -/
theorem advances_iff [Add G1] [Zero G1] [DecidableEq GT] : Advances B C K state update state' ↔
    (∃ trusted, K.decodeConsensusState trusted = some state) ∧ (∃ proof, K.decodeUpdate proof = some update) ∧
      state.finalizedHeight < lowU64 update.sourceHeader.number ∧
      ∃ rotated result, rotate state update = .ok rotated ∧
        verifyBscHeader B C rotated.currentValidators update = .ok result ∧ state' = finalize rotated result := by
  constructor
  · rintro ⟨trusted, proof, out, commitments, hstate, hupdate, h, hout⟩
    simp only [verifyConsensus, hstate, hupdate, okOr, except_bind_ok, Except.ok.injEq, exists_eq_left'] at h
    obtain ⟨_, hcheck, rotated, hrotate, result, hresult, h⟩ := h
    obtain ⟨rfl, rfl⟩ := Prod.mk.inj (Except.ok.inj h)
    rw [K.decode_encode] at hout
    have hfresh := UInt64.not_le.mp (errIf_ok.mp hcheck)
    exact ⟨⟨trusted, hstate⟩, ⟨proof, hupdate⟩, hfresh, rotated, result, hrotate, hresult, (Option.some.inj hout).symm⟩
  · rintro ⟨⟨trusted, hstate⟩, ⟨proof, hupdate⟩, hfresh, rotated, result, hrotate, hresult, rfl⟩
    refine ⟨trusted, proof, K.encodeConsensusState (finalize rotated result),
      [(.evm rotated.chainId, [commitmentOf result.finalizedHeader])], hstate, hupdate, ?_, K.decode_encode _⟩
    simp only [verifyConsensus, hstate, hupdate, okOr, except_bind_ok, Except.ok.injEq, exists_eq_left']
    exact ⟨(), errIf_ok.mpr (UInt64.not_le.mpr hfresh), rotated, hrotate, result, hresult, rfl⟩

/-- The validators in the extra data of a header. -/
def carried (C : Config) (header : CodecHeader) : List BlsPublicKey :=
  match parseExtra C header with
  | .ok extra => extra.validators.map (·.blsPublicKey)
  | .error _ => []

structure EpochChain (C : Config) where
  length : Nat
  header : Nat → CodecHeader
  number : ∀ n < length, (header n).number.toNat = n
  linked : ∀ m < length, ∀ n < length, (header n).parentHash = hashHeader C (header m) → n = m + 1
  epochs : ∀ n < length, carried C (header n) ≠ [] ↔ n % 200 = 0

def EpochChain.validators (chain : EpochChain C) (epoch : Nat) : List BlsPublicKey :=
  carried C (chain.header (200 * epoch))

def EpochChain.Includes (chain : EpochChain C) (header : CodecHeader) : Prop :=
  ∃ n < chain.length, header = chain.header n

variable {chain : EpochChain C} {n m : Nat} {current : List BlsPublicKey} {next : NextValidators}

theorem validatorsOf_ok {header : CodecHeader} (h : validatorsOf C current header = .ok next) :
    next.validators = carried C header ∧ carried C header ≠ [] := by
  obtain ⟨extra, hextra, h⟩ := except_bind_ok.mp h
  rw [reword_ok] at hextra
  have hcarried : carried C header = extra.validators.map (·.blsPublicKey) := by rw [carried, hextra]
  rw [hcarried]
  dsimp only at h
  split at h
  · cases h
  · next hne =>
    obtain rfl := Except.ok.inj h
    exact ⟨rfl, hne⟩

theorem checkAncestry_ok {headers : List CodecHeader} {hash : H256} (hm : m < chain.length)
    (hheaders : ∀ h ∈ headers, chain.Includes h)
    (h : checkAncestry C (hashHeader C (chain.header m)) headers = .ok hash) :
    m + headers.length < chain.length ∧ hash = hashHeader C (chain.header (m + headers.length)) := by
  induction headers generalizing m with
  | nil => exact ⟨hm, (Except.ok.inj h).symm⟩
  | cons first headers ih =>
    obtain ⟨⟨m', hm', rfl⟩, hrest⟩ := List.forall_mem_cons.mp hheaders
    rw [checkAncestry] at h
    split at h
    · cases h
    · next hlink =>
      obtain rfl := chain.linked m hm m' hm' (not_not.mp hlink).symm
      have hlast := ih hm' hrest h
      rw [List.length_cons, show m + (headers.length + 1) = m + 1 + headers.length by omega]
      exact hlast

theorem validatorsOf_chain (hm : m < chain.length) (h : validatorsOf C current (chain.header m) = .ok next) :
    m = 200 * (m / 200) ∧ next.validators = chain.validators (m / 200) := by
  obtain ⟨hsame, hne⟩ := validatorsOf_ok h
  have hstart := (chain.epochs m hm).mp hne
  have hm' : m = 200 * (m / 200) := by omega
  rw [EpochChain.validators, ← hm']
  exact ⟨rfl, hsame⟩

theorem nextValidators_some (hn : n < chain.length) (hsource : update.sourceHeader = chain.header n)
    (hancestry : ∀ h ∈ update.epochHeaderAncestry, chain.Includes h)
    (h : nextValidators C current update = .ok (some next)) :
    ∃ epoch, 200 * epoch + update.epochHeaderAncestry.length = n ∧ next.validators = chain.validators epoch := by
  unfold nextValidators at h
  split at h
  · next epoch headers hlist =>
    rw [hlist] at hancestry ⊢
    obtain ⟨⟨m, hm, rfl⟩, hheaders⟩ := List.forall_mem_cons.mp hancestry
    obtain ⟨hash, hcheck, h⟩ := except_bind_ok.mp h
    obtain ⟨hlast, rfl⟩ := checkAncestry_ok hm hheaders hcheck
    split at h
    · cases h
    · next hlink =>
      rw [not_not, hsource] at hlink
      obtain ⟨next', hnext, h⟩ := except_bind_ok.mp h
      obtain rfl := Option.some.inj (Except.ok.inj h)
      obtain ⟨hm', hvalidators⟩ := validatorsOf_chain hm hnext
      have hplace := chain.linked _ hlast n hn hlink.symm
      refine ⟨m / 200, ?_, hvalidators⟩
      rw [List.length_cons]
      omega
  · next hlist =>
    rw [hlist]
    split at h
    · obtain ⟨next', hnext, h⟩ := except_bind_ok.mp h
      obtain rfl := Option.some.inj (Except.ok.inj h)
      rw [hsource] at hnext
      obtain ⟨hn', hvalidators⟩ := validatorsOf_chain hn hnext
      exact ⟨n / 200, by simpa using hn'.symm, hvalidators⟩
    · cases h

/-- The update stores a list. -/
def stores (update : BscClientUpdate) : Bool :=
  !update.epochHeaderAncestry.isEmpty || decide (lowU64 update.sourceHeader.number % epochLength = 0)

theorem isSome_nextValidators {result : Option NextValidators} (h : nextValidators C current update = .ok result) :
    result.isSome = stores update := by
  unfold nextValidators at h
  unfold stores
  split at h
  · next epoch headers hlist =>
    obtain ⟨hash, -, h⟩ := except_bind_ok.mp h
    split at h
    · cases h
    · obtain ⟨next, -, h⟩ := except_bind_ok.mp h
      obtain rfl := Except.ok.inj h
      simp [hlist]
  · next hlist =>
    split at h
    · next hstart =>
      obtain ⟨next, -, h⟩ := except_bind_ok.mp h
      obtain rfl := Except.ok.inj h
      simp [hstart]
    · next hstart =>
      obtain rfl := Except.ok.inj h
      simp [hlist, hstart]

section Runs

variable [Add G1] [Zero G1] [DecidableEq GT]

structure Accepts (B : Bls G1 G2 GT) (K : LawfulCodec) (chain : EpochChain C) (state : ConsensusState)
    (update : BscClientUpdate) (n : Nat) (state' : ConsensusState) : Prop where
  included : n < chain.length
  source : update.sourceHeader = chain.header n
  ancestry : ∀ h ∈ update.epochHeaderAncestry, chain.Includes h
  advances : Advances B C K state update state'

/-- The epoch whose list waits after the update. -/
def pendingAfter (pending : Option Nat) (state : ConsensusState) (update : BscClientUpdate) (n : Nat) : Option Nat :=
  if stores update then some ((n - update.epochHeaderAncestry.length) / 200)
  else if rotates state update then none else pending

inductive Reaches (B : Bls G1 G2 GT) (K : LawfulCodec) (chain : EpochChain C) (trusted : ConsensusState)
    (start : Option Nat) :
    ConsensusState → Option Nat → Prop
  | refl : Reaches B K chain trusted start trusted start
  | step {state state' : ConsensusState} {pending : Option Nat} {update : BscClientUpdate} {n : Nat}
      (before : Reaches B K chain trusted start state pending) (h : Accepts B K chain state update n state') :
      Reaches B K chain trusted start state' (pendingAfter pending state update n)

/-- The list that waits is that of the epoch `pending`. -/
def Waits (chain : EpochChain C) (pending : Option Nat) (state : ConsensusState) : Prop :=
  state.nextValidators.map (·.validators) = pending.map chain.validators

variable {pending start : Option Nat} {trusted : ConsensusState}

theorem Accepts.ancestry_le (h : Accepts B K chain state update n state') :
    update.epochHeaderAncestry.length ≤ 200 := by
  obtain ⟨-, ⟨proof, hupdate⟩, -⟩ := advances_iff.mp h.advances
  exact K.bounded proof update hupdate

theorem Accepts.stored (h : Accepts B K chain state update n state') (hs : stores update = true) :
    ∃ epoch, 200 * epoch + update.epochHeaderAncestry.length = n ∧
      state'.nextValidators.map (·.validators) = some (chain.validators epoch) := by
  obtain ⟨-, -, -, rotated, result, -, hresult, rfl⟩ := advances_iff.mp h.advances
  have hnext := verifyBscHeader_next hresult
  rw [← isSome_nextValidators hnext, Option.isSome_iff_exists] at hs
  obtain ⟨next, hsome⟩ := hs
  rw [hsome] at hnext
  obtain ⟨epoch, hplace, hvalidators⟩ := nextValidators_some h.included h.source h.ancestry hnext
  refine ⟨epoch, hplace, ?_⟩
  simp [finalize, hsome, hvalidators]

theorem Accepts.replaced (h : Accepts B K chain state update n state') (hwaits : Waits chain pending state)
    (hr : rotates state update = true) : pending.map chain.validators = some state'.currentValidators := by
  obtain ⟨-, -, -, rotated, result, hrotate, -, rfl⟩ := advances_iff.mp h.advances
  have hrotated := rotate_ok hrotate
  rw [if_pos hr] at hrotated
  obtain ⟨next, hsome, hcurrent, -⟩ := hrotated
  have hfirst : pending.map chain.validators = some next.validators := by rw [← hwaits, hsome, Option.map_some]
  rw [hfirst, ← hcurrent]
  rfl

theorem Accepts.not_stored (h : Accepts B K chain state update n state') (hs : ¬ stores update = true) :
    state'.nextValidators = if rotates state update then none else state.nextValidators := by
  obtain ⟨-, -, -, rotated, result, hrotate, hresult, rfl⟩ := advances_iff.mp h.advances
  have hrotated := rotate_ok hrotate
  have hnone : result.nextValidators = none := by
    rwa [← Option.not_isSome_iff_eq_none, isSome_nextValidators (verifyBscHeader_next hresult)]
  have hkept : (finalize rotated result).nextValidators = rotated.nextValidators := by
    simp [finalize, hnone]
  rw [hkept]
  by_cases hr : rotates state update = true
  · rw [if_pos hr] at hrotated ⊢
    obtain ⟨next, -, -, hcleared⟩ := hrotated
    exact hcleared
  · rw [if_neg hr] at hrotated ⊢
    rw [hrotated]

theorem Accepts.waits (h : Accepts B K chain state update n state') (hwaits : Waits chain pending state) :
    Waits chain (pendingAfter pending state update n) state' := by
  unfold Waits pendingAfter
  by_cases hs : stores update = true
  · obtain ⟨epoch, hplace, hvalidators⟩ := h.stored hs
    rw [if_pos hs, hvalidators, Option.map_some, ← hplace, Nat.add_sub_cancel,
      Nat.mul_div_cancel_left epoch (by decide)]
  · rw [if_neg hs, h.not_stored hs]
    split
    · rfl
    · exact hwaits

theorem Reaches.waits (hstart : Waits chain start trusted) (h : Reaches B K chain trusted start state pending) :
    Waits chain pending state := by
  induction h with
  | refl => exact hstart
  | step _ h ih => exact h.waits ih

structure FollowsChain (chain : EpochChain C) (state : ConsensusState) (update : BscClientUpdate) (n : Nat)
    (state' : ConsensusState) : Prop where
  stored : stores update = true → state'.nextValidators.map (·.validators) = some (chain.validators (n / 200))
  replaced : rotates state update = true → state'.currentValidators = chain.validators (n / 200)

structure Aligned (chain : EpochChain C) (pending : Option Nat) (state : ConsensusState) (update : BscClientUpdate)
    (n : Nat) : Prop where
  ancestry : update.epochHeaderAncestry.length = 200 → chain.validators (n / 200 - 1) = chain.validators (n / 200)
  pending : rotates state update = true → pending.map chain.validators = some (chain.validators (n / 200))

/-- In every sequence of updates, an update stores and replaces what the chain says exactly if it is aligned. -/
theorem rotation_follows_chain_iff (hstart : Waits chain start trusted)
    (hreaches : Reaches B K chain trusted start state pending) (h : Accepts B K chain state update n state') :
    FollowsChain chain state update n state' ↔ Aligned chain pending state update n := by
  have hbound := h.ancestry_le
  have hreplaced := h.replaced (hreaches.waits hstart)
  constructor
  · intro hfollows
    refine ⟨fun hlong => ?_, fun hr => ?_⟩
    · have hs : stores update = true := by
        have hne : update.epochHeaderAncestry ≠ [] := by
          intro hnil
          rw [hnil] at hlong
          cases hlong
        simp [stores, hne]
      obtain ⟨epoch, hplace, hvalidators⟩ := h.stored hs
      rw [hfollows.stored hs] at hvalidators
      obtain rfl : epoch = n / 200 - 1 := by omega
      exact (Option.some.inj hvalidators).symm
    · rw [hreplaced hr, hfollows.replaced hr]
  · intro haligned
    refine ⟨fun hs => ?_, fun hr => ?_⟩
    · obtain ⟨epoch, hplace, hvalidators⟩ := h.stored hs
      rw [hvalidators]
      by_cases hlong : update.epochHeaderAncestry.length = 200
      · rw [← haligned.ancestry hlong]
        congr 2
        omega
      · congr 2
        omega
    · exact Option.some.inj ((hreplaced hr).symm.trans (haligned.pending hr))

end Runs

def epochKey (epoch : Nat) : BlsPublicKey := sampleBls.pointToPubkey (samplePoint (epoch + 1))

theorem oneKey_counted (key : Option BlsPublicKey) (vs : List ValidatorInfo)
    (h : key.map (fun k => [(⟨BytesN.zero 20, k⟩ : ValidatorInfo)]) = some vs) : vs.length < 256 := by
  obtain ⟨k, -, rfl⟩ := Option.map_eq_some_iff.mp h
  exact (by decide : 1 < 256)

def chainLayout (key : Option BlsPublicKey) : Layout where
  vanity := BytesN.zero 32
  validators := key.map fun k => [⟨BytesN.zero 20, k⟩]
  turnLength := 1
  attestation := none
  sealBytes := BytesN.zero 65
  counted := oneKey_counted key
  addressable := none_addressable

def chainHeader (n : Nat) : CodecHeader :=
  { sampleHeader n (BytesN.ofNat 32 n)
    ((chainLayout (if n % 200 = 0 then some (epochKey (n / 200)) else none)).encode true) with
    nonce := BytesN.ofNat 8 n }

theorem length_vote (p : Nat) : (compress 95 (samplePoint (5 * p))).length = 96 := by simp [compress]

def attestationFor (n p : Nat) : VoteAttestationData where
  voteAddressSet := 1
  aggSignature := ⟨compress 95 (samplePoint (5 * p)), length_vote p⟩
  data := ⟨.ofNat n, BytesN.ofNat 32 (n + 1), .ofNat (n + 1), BytesN.ofNat 32 (n + 2)⟩
  extra := []

/-- The hash of a header is its number plus one. -/
def chainConfig : Config where
  bohrForkTimestamp := 1727317200
  keccak256 b := BytesN.ofNat 32 (beValue (b.drop (b.length - 8)) + 1)
  decodeAttestation data :=
    [attestationFor 200 1, attestationFor 402 2].find? fun attestation => attestation.encode = data

theorem suffix_encode_chainHeader (n : Nat) : beBytes 8 n <:+ (chainHeader n).encode := by
  have hnonce : beBytes 8 n <:+ rlpBytes (beBytes 8 n) := by
    rw [Rlp.rlpBytes_of_length_ne (by simp)]
    exact List.suffix_append _ _
  have hlast : ∃ items, (chainHeader n).encode = rlpList (items ++ [rlpBytes (beBytes 8 n)]) :=
    ⟨_, congrArg rlpList (List.dropLast_concat_getLast (List.cons_ne_nil _ _)).symm⟩
  obtain ⟨items, hencode⟩ := hlast
  rw [hencode, rlpList, List.flatten_append, List.flatten_singleton]
  exact hnonce.trans ((List.suffix_append _ _).trans (List.suffix_append _ _))

theorem hashHeader_chainHeader {n : Nat} (hn : n < 2 ^ 64) :
    hashHeader chainConfig (chainHeader n) = BytesN.ofNat 32 (n + 1) := by
  obtain ⟨front, hencode⟩ := suffix_encode_chainHeader n
  have hvalue : beValue (beBytes 8 n) = n := by
    rw [beValue_beBytes]
    exact Nat.mod_eq_of_lt hn
  show BytesN.ofNat 32 (beValue ((chainHeader n).encode.drop ((chainHeader n).encode.length - 8)) + 1) = _
  rw [← hencode, List.length_append, length_beBytes, Nat.add_sub_cancel, List.drop_left, hvalue]

theorem carried_chainHeader (n : Nat) :
    carried chainConfig (chainHeader n) = if n % 200 = 0 then [epochKey (n / 200)] else [] := by
  have hmarked (key : Option BlsPublicKey) : (chainLayout key).Marked := by
    refine (Layout.marked_iff fun a ha => by cases ha).mpr fun vs hvs hlength => ?_
    obtain ⟨k, -, rfl⟩ := Option.map_eq_some_iff.mp hvs
    cases hlength
  have hparse : parseExtra chainConfig (chainHeader n) =
      .ok (chainLayout (if n % 200 = 0 then some (epochKey (n / 200)) else none)).result :=
    parseExtra_layout rfl (fun a ha => by cases ha) (hmarked _)
  rw [carried, hparse]
  dsimp only
  by_cases hstart : n % 200 = 0
  · simp [Layout.result, chainLayout, ExtraData.attested, sortByAddress, hstart]
  · simp [Layout.result, chainLayout, ExtraData.attested, sortByAddress, hstart]

theorem chainHeader_number (n : Nat) (hn : n < 2 ^ 64) : (chainHeader n).number.toNat = n :=
  Nat.mod_eq_of_lt (by omega)

theorem chainHeader_linked (m : Nat) (hm : m < 2 ^ 64) (n : Nat) (hn : n < 2 ^ 64)
    (h : (chainHeader n).parentHash = hashHeader chainConfig (chainHeader m)) : n = m + 1 := by
  rw [hashHeader_chainHeader hm] at h
  exact beBytes_inj_of_lt (by omega) (by omega) (congrArg BytesN.bytes h)

theorem chainHeader_epochs (n : Nat) (_ : n < 2 ^ 64) : carried chainConfig (chainHeader n) ≠ [] ↔ n % 200 = 0 := by
  rw [carried_chainHeader]
  split <;> simp_all

/-- A chain whose epochs have one validator each. -/
def sampleChain : EpochChain chainConfig where
  length := 2 ^ 64
  header := chainHeader
  number := chainHeader_number
  linked := chainHeader_linked
  epochs := chainHeader_epochs

theorem sampleChain_validators (epoch : Nat) : sampleChain.validators epoch = [epochKey epoch] := by
  rw [EpochChain.validators]
  show carried chainConfig (chainHeader (200 * epoch)) = _
  rw [carried_chainHeader, if_pos (Nat.mul_mod_right 200 epoch), Nat.mul_div_cancel_left epoch (by decide)]

/-- An update with source `n`. -/
def chainUpdate (n attested p : Nat) : BscClientUpdate where
  sourceHeader := chainHeader n
  targetHeader := chainHeader (n + 1)
  attestedHeader := sampleHeader attested (BytesN.zero 32)
    (List.replicate 32 0 ++ ((attestationFor n p).encode ++ List.replicate 65 0))
  epochHeaderAncestry := []

def firstState : ConsensusState where
  currentValidators := [epochKey 0]
  nextValidators := none
  finalizedHeight := 100
  finalizedHash := BytesN.ofNat 32 101
  currentEpoch := 0
  chainId := 56

def secondState : ConsensusState :=
  { firstState with
    nextValidators := some ⟨[epochKey 1], 200⟩
    finalizedHeight := 200
    finalizedHash := BytesN.ofNat 32 201 }

def thirdState : ConsensusState where
  currentValidators := [epochKey 1]
  nextValidators := none
  finalizedHeight := 402
  finalizedHash := BytesN.ofNat 32 403
  currentEpoch := 2
  chainId := 56

theorem firstUpdate_verified :
    verifyBscHeader sampleBls chainConfig [epochKey 0] (chainUpdate 200 202 1) =
      .ok ⟨BytesN.ofNat 32 201, chainHeader 200, some ⟨[epochKey 1], 200⟩⟩ := by
  decide +kernel

theorem secondUpdate_verified :
    verifyBscHeader sampleBls chainConfig [epochKey 1] (chainUpdate 402 450 2) =
      .ok ⟨BytesN.ofNat 32 403, chainHeader 402, none⟩ := by
  decide +kernel

theorem exists_codec : ∃ (encode : ConsensusState → Bytes) (decode : Bytes → Option ConsensusState),
    ∀ state, decode (encode state) = some state := by
  have hbytes (n : Nat) : Countable (BytesN n) := BytesN.bytes_injective.countable
  have hkeys : Countable (List BlsPublicKey) := have := hbytes 48; List.countable
  have hnext : Countable NextValidators :=
    Function.Injective.countable (f := fun next : NextValidators => (next.validators, next.rotationBlock)) (by
      rintro ⟨⟩ ⟨⟩ h
      simpa using h)
  have hstate : Countable ConsensusState :=
    Function.Injective.countable (f :=
      fun s : ConsensusState => (s.currentValidators, s.nextValidators, s.finalizedHeight,
      (s.finalizedHash : BytesN 32), s.currentEpoch, s.chainId)) (by
      rintro ⟨⟩ ⟨⟩ h
      simpa using h)
  obtain ⟨number, hnumber⟩ := exists_injective_nat ConsensusState
  refine ⟨fun state => List.replicate (number state) 0, fun b => Function.partialInv number b.length, fun state => ?_⟩
  dsimp only
  rw [List.length_replicate]
  exact Function.partialInv_left hnumber state

def decodeSample (proof : Bytes) : Option BscClientUpdate :=
  if proof = [1] then some (chainUpdate 200 202 1)
  else if proof = [2] then some (chainUpdate 402 450 2)
  else none

theorem decodeSample_bounded (proof : Bytes) (update : BscClientUpdate) (h : decodeSample proof = some update) :
    update.epochHeaderAncestry.length ≤ 200 := by
  unfold decodeSample at h
  split at h
  · rw [← Option.some.inj h]
    exact Nat.zero_le 200
  · split at h
    · rw [← Option.some.inj h]
      exact Nat.zero_le 200
    · cases h

noncomputable def sampleCodec : LawfulCodec where
  decodeUpdate := decodeSample
  encodeConsensusState := exists_codec.choose
  decodeConsensusState := exists_codec.choose_spec.choose
  bounded := decodeSample_bounded
  decode_encode := exists_codec.choose_spec.choose_spec

theorem firstUpdate_accepted :
    Accepts sampleBls sampleCodec sampleChain firstState (chainUpdate 200 202 1) 200 secondState where
  included := by decide
  source := rfl
  ancestry := by
    intro h hmem
    cases hmem
  advances := advances_iff.mpr ⟨⟨_, sampleCodec.decode_encode _⟩, ⟨[1], rfl⟩, by decide +kernel, firstState, _, rfl,
    firstUpdate_verified, by decide +kernel⟩

theorem secondUpdate_accepted :
    Accepts sampleBls sampleCodec sampleChain secondState (chainUpdate 402 450 2) 402 thirdState where
  included := by decide
  source := rfl
  ancestry := by
    intro h hmem
    cases hmem
  advances := advances_iff.mpr ⟨⟨_, sampleCodec.decode_encode _⟩, ⟨[2], rfl⟩, by decide +kernel,
    { thirdState with finalizedHeight := 200, finalizedHash := BytesN.ofNat 32 201 }, _, by decide +kernel,
    secondUpdate_verified, by decide +kernel⟩

theorem second_reached : Reaches sampleBls sampleCodec sampleChain firstState none secondState (some 1) := by
  have h : Reaches sampleBls sampleCodec sampleChain firstState none secondState _ :=
    Reaches.refl.step firstUpdate_accepted
  have hpending : pendingAfter none firstState (chainUpdate 200 202 1) 200 = some 1 := by decide +kernel
  rwa [hpending] at h

/-- The source of the second update is in epoch 2, and the validator of epoch 1 takes over. -/
theorem epoch_passed_over :
    Reaches sampleBls sampleCodec sampleChain firstState none secondState (some 1) ∧
      Accepts sampleBls sampleCodec sampleChain secondState (chainUpdate 402 450 2) 402 thirdState ∧
      rotates secondState (chainUpdate 402 450 2) = true ∧
      thirdState.currentValidators = sampleChain.validators 1 ∧
      thirdState.currentValidators ≠ sampleChain.validators (402 / 200) := by
  refine ⟨second_reached, secondUpdate_accepted, by decide +kernel, ?_, ?_⟩
  · rw [sampleChain_validators]
    rfl
  · rw [sampleChain_validators]
    decide +kernel

theorem rotation_follows_chain_iff_sample :
    FollowsChain sampleChain secondState (chainUpdate 402 450 2) 402 thirdState ↔
      Aligned sampleChain (some 1) secondState (chainUpdate 402 450 2) 402 := by
  have hstart : Waits sampleChain none firstState := rfl
  exact rotation_follows_chain_iff hstart second_reached secondUpdate_accepted

end Hyperbridge.Bsc.Client
