import Hyperbridge.Grandpa.Justification
import Mathlib.Algebra.Order.BigOperators.Group.List

/-!
# GRANDPA fraud proofs

`GrandpaConsensusClient::verify_fraud_proof` takes two finality proofs whose headers start at children of one block, and
asks for two justified blocks that are not the same. It never asks that the two chains part: a proof of a block and a
proof of its child pass, although they are what an honest chain produces. Errors carry the text of `Error::Custom`.
-/

namespace Hyperbridge.Grandpa

open Lib

structure ConsensusState where
  currentAuthorities : AuthorityList
  currentSetId : UInt64
  latestHash : H256

structure FinalityProof (Header : Type) where
  block : H256
  justification : Bytes
  unknownHeaders : List Header

structure Client (Header VoterSet : Type) extends Runtime Header VoterSet where
  number : Header → UInt32
  decodeConsensusState : Bytes → Except String ConsensusState
  decodeFinalityProof : Bytes → Except String (FinalityProof Header)
  decodeJustification : Bytes → Option (GrandpaJustification Header)
  verifyJustification : GrandpaJustification Header → UInt64 → AuthorityList → Except Fault Unit

variable {Header VoterSet : Type} (C : Client Header VoterSet)

variable (headers : List Header)

def highestHeader : Option Header := headers.reverse.argmax fun h => (C.number h).toNat

def lowestHeader : Option Header := headers.argmin fun h => (C.number h).toNat

def checkAncestry (base block : H256) : Except Fault (List H256) :=
  match ancestry C.toRuntime headers base block with
  | .arrived route => .ok route
  | .lost => .error (.error "Invalid ancestry!")
  | .running => .error .diverges

/-- Whether a justification verifies; it may still panic. -/
def accepts : Except Fault Unit → Except Fault Bool
  | .ok _ => .ok true
  | .error (.error _) => .ok false
  | .error (.panic text) => .error (.panic text)
  | .error .diverges => .error .diverges

/-- `verify_fraud_proof` behind the decoders. -/
def checkFraudProof (state : ConsensusState) (first second : FinalityProof Header) : Except Fault Unit := do
  errIf (first.block = second.block) (.error "Fraud proofs are for the same block")
  let firstTarget ← okOr (highestHeader C first.unknownHeaders) (.error "Unknown headers can't be empty!")
  let secondTarget ← okOr (highestHeader C second.unknownHeaders) (.error "Unknown headers can't be empty!")
  errIf (C.hash firstTarget ≠ first.block ∨ C.hash secondTarget ≠ second.block)
    (.error "Fraud proofs are not for the same chain")
  let firstBase ← okOr (lowestHeader C first.unknownHeaders) (.error "Unknown headers can't be empty!")
  let _ ← checkAncestry C first.unknownHeaders (C.hash firstBase) (C.hash firstTarget)
  let secondBase ← okOr (lowestHeader C second.unknownHeaders) (.error "Unknown headers can't be empty!")
  let _ ← checkAncestry C second.unknownHeaders (C.hash secondBase) (C.hash secondTarget)
  errIf (C.parentHash firstBase ≠ C.parentHash secondBase) (.error "Fraud proofs are not for the same ancestor")
  let firstJustification ← okOr (C.decodeJustification first.justification)
    (.error "Could not decode first justification")
  let secondJustification ← okOr (C.decodeJustification second.justification)
    (.error "Could not decode second justification")
  errIf (first.block ≠ firstJustification.commit.targetHash ∨ second.block ≠ secondJustification.commit.targetHash)
    (.error "First or second finality proof block hash does not match justification target hash")
  errIf (firstJustification.commit.targetHash ≠ state.latestHash ∧
      secondJustification.commit.targetHash ≠ state.latestHash)
    (.error "First or second justification does not match consensus latest hash")
  let firstValid ← accepts
    (C.verifyJustification firstJustification state.currentSetId state.currentAuthorities)
  let secondValid ← accepts
    (C.verifyJustification secondJustification state.currentSetId state.currentAuthorities)
  errIf (firstValid = false ∨ secondValid = false) (.error "Invalid justification")

def verifyFraudProof (trustedConsensusState proof1 proof2 : Bytes) : Except Fault Unit := do
  let state ← (C.decodeConsensusState trustedConsensusState).mapError fun e =>
    .error ("Cannot decode consensus state from trusted consensus state bytes: " ++ e)
  let first ← (C.decodeFinalityProof proof1).mapError fun e =>
    .error ("Cannot decode first finality proof from proof_1 bytes: " ++ e)
  let second ← (C.decodeFinalityProof proof2).mapError fun e =>
    .error ("Cannot decode second finality proof from proof_2 bytes: " ++ e)
  checkFraudProof C state first second

variable {C} {state : ConsensusState} {first second : FinalityProof Header}

structure Chained (C : Client Header VoterSet) (proof : FinalityProof Header) (base : Header) (l : List H256) :
    Prop where
  lowest : lowestHeader C proof.unknownHeaders = some base
  route : Route (parentOf C.toRuntime proof.unknownHeaders) (C.hash base) proof.block l (C.hash base)

/-- A justification for the block of the proof verifies. -/
def Justified (C : Client Header VoterSet) (state : ConsensusState) (proof : FinalityProof Header) : Prop :=
  ∃ J, C.decodeJustification proof.justification = some J ∧ proof.block = J.commit.targetHash ∧
    C.verifyJustification J state.currentSetId state.currentAuthorities = .ok ()

theorem accepts_eq_true {x : Except Fault Unit} : accepts x = .ok true ↔ x = .ok () := by
  rcases x with (_ | _ | _) | _ <;> simp [accepts]

theorem checkAncestry_ok {headers : List Header} {base block : H256} {route : List H256} :
    checkAncestry C headers base block = .ok route ↔
      ∃ l, Route (parentOf C.toRuntime headers) base block l base ∧ route = l ++ [base] := by
  rw [← ancestry_eq_arrived, checkAncestry]
  cases ancestry C.toRuntime headers base block <;> simp

theorem checkFraudProof_ok (h : checkFraudProof C state first second = .ok ()) :
    first.block ≠ second.block ∧ (first.block = state.latestHash ∨ second.block = state.latestHash) ∧
      Justified C state first ∧ Justified C state second ∧
      ∃ base₁ base₂ l₁ l₂, Chained C first base₁ l₁ ∧ Chained C second base₂ l₂ ∧
        C.parentHash base₁ = C.parentHash base₂ := by
  obtain ⟨hne, h⟩ := errIf_bind_ok.mp h
  obtain ⟨target₁, -, h⟩ := except_bind_ok.mp h
  obtain ⟨target₂, -, h⟩ := except_bind_ok.mp h
  obtain ⟨htargets, h⟩ := errIf_bind_ok.mp h
  obtain ⟨base₁, hbase₁, h⟩ := except_bind_ok.mp h
  obtain ⟨_, hwalk₁, h⟩ := except_bind_ok.mp h
  obtain ⟨base₂, hbase₂, h⟩ := except_bind_ok.mp h
  obtain ⟨_, hwalk₂, h⟩ := except_bind_ok.mp h
  obtain ⟨hparents, h⟩ := errIf_bind_ok.mp h
  obtain ⟨J₁, hJ₁, h⟩ := except_bind_ok.mp h
  obtain ⟨J₂, hJ₂, h⟩ := except_bind_ok.mp h
  obtain ⟨hblocks, h⟩ := errIf_bind_ok.mp h
  obtain ⟨hlatest, h⟩ := errIf_bind_ok.mp h
  obtain ⟨valid₁, hvalid₁, h⟩ := except_bind_ok.mp h
  obtain ⟨valid₂, hvalid₂, h⟩ := except_bind_ok.mp h
  have hvalid := errIf_ok.mp h
  push Not at htargets hparents hblocks hlatest
  obtain ⟨l₁, hroute₁, -⟩ := checkAncestry_ok.mp hwalk₁
  obtain ⟨l₂, hroute₂, -⟩ := checkAncestry_ok.mp hwalk₂
  rw [htargets.1] at hroute₁
  rw [htargets.2] at hroute₂
  obtain ⟨rfl, rfl⟩ : valid₁ = true ∧ valid₂ = true := by simpa using hvalid
  refine ⟨hne, ?_, ⟨J₁, okOr_eq_ok.mp hJ₁, hblocks.1, accepts_eq_true.mp hvalid₁⟩,
    ⟨J₂, okOr_eq_ok.mp hJ₂, hblocks.2, accepts_eq_true.mp hvalid₂⟩, base₁, base₂, l₁, l₂,
    ⟨okOr_eq_ok.mp hbase₁, hroute₁⟩, ⟨okOr_eq_ok.mp hbase₂, hroute₂⟩, hparents⟩
  rw [hblocks.1, hblocks.2]
  by_cases hfirst : J₁.commit.targetHash = state.latestHash
  · exact .inl hfirst
  · exact .inr (hlatest hfirst)

/-- The headers lead from the block to its ancestor. -/
def Ancestor (C : Client Header VoterSet) (headers : List Header) (ancestor block : H256) : Prop :=
  Relation.TransGen (ParentLink C.toRuntime headers) block ancestor

def supplied (first second : FinalityProof Header) : List Header := first.unknownHeaders ++ second.unknownHeaders

/-- The block is one the headers of the proof lead through. -/
def OnChain (C : Client Header VoterSet) (proof : FinalityProof Header) (block : H256) : Prop :=
  ∃ base l, Chained C proof base l ∧ (block ∈ l ∨ block = C.hash base)

theorem ancestor_iff_leadsOn {headers : List Header} (hbinds : HashBinds C.toRuntime headers) {ancestor block : H256} :
    Ancestor C headers ancestor block ↔ LeadsOn (parentOf C.toRuntime headers) block ancestor := by
  rw [Ancestor, LeadsOn, parentLink_eq hbinds]

theorem Chained.mem {proof : FinalityProof Header} {base : Header} {l : List H256} (h : Chained C proof base l) :
    base ∈ proof.unknownHeaders := List.argmin_mem h.lowest

section Fork

variable {headers : List Header} (hbinds : HashBinds C.toRuntime headers) {proof : FinalityProof Header} {base : Header}
  {l : List H256} (hchain : Chained C proof base l) (hsub : proof.unknownHeaders ⊆ headers)

include hbinds hchain hsub

theorem Chained.route_of_subset : Route (parentOf C.toRuntime headers) (C.hash base) proof.block l (C.hash base) := by
  refine hchain.route.mono (fun x y hxy => ?_) rfl
  obtain ⟨h, hmem, hhash⟩ := (parentOf_eq_some (hbinds.mono hsub)).mp hxy
  exact (parentOf_eq_some hbinds).mpr ⟨h, hsub hmem, hhash⟩

theorem Chained.next_base : parentOf C.toRuntime headers (C.hash base) = some (C.parentHash base) :=
  (parentOf_eq_some hbinds).mpr ⟨base, hsub hchain.mem, rfl, rfl⟩

theorem Chained.ancestor_iff {x : H256} (hx : x ≠ proof.block) :
    Ancestor C headers x proof.block ↔
      OnChain C proof x ∨ Leads (parentOf C.toRuntime headers) (C.parentHash base) x := by
  have hon : OnChain C proof x ↔ x ∈ l ∨ x = C.hash base := by
    constructor
    · rintro ⟨base', l', hchain', hmem⟩
      obtain rfl := Option.some.inj (hchain.lowest.symm.trans hchain'.lowest)
      obtain ⟨rfl, -⟩ := hchain.route.unique hchain'.route
      exact hmem
    · exact fun hmem => ⟨base, l, hchain, hmem⟩
  have hleads : LeadsOn (parentOf C.toRuntime headers) proof.block x ↔
      Leads (parentOf C.toRuntime headers) proof.block x := by
    rw [Leads, Relation.reflTransGen_iff_eq_or_transGen]
    exact ⟨.inr, fun h => h.resolve_left hx⟩
  rw [ancestor_iff_leadsOn hbinds, hleads, (hchain.route_of_subset hbinds hsub).leads_iff,
    leads_next (hchain.next_base hbinds hsub), hon, or_assoc, eq_comm (a := x) (b := C.hash base)]

theorem Chained.ancestor_self_iff :
    Ancestor C headers proof.block proof.block ↔
      Leads (parentOf C.toRuntime headers) (C.parentHash base) proof.block := by
  rw [ancestor_iff_leadsOn hbinds]
  exact (hchain.route_of_subset hbinds hsub).leadsOn_self_iff (hchain.next_base hbinds hsub)

end Fork

/-- Two finality proofs that pass as a fraud proof are for blocks on two branches exactly if neither block is on the
chain of the other proof, and the supplied headers do not lead from a block back to itself. -/
theorem fraud_proof_shows_fork_iff {trustedConsensusState proof1 proof2 : Bytes}
    (hfirst : C.decodeFinalityProof proof1 = .ok first) (hsecond : C.decodeFinalityProof proof2 = .ok second)
    (hbinds : HashBinds C.toRuntime (supplied first second))
    (hok : verifyFraudProof C trustedConsensusState proof1 proof2 = .ok ()) :
    (¬ Ancestor C (supplied first second) first.block second.block ∧
        ¬ Ancestor C (supplied first second) second.block first.block) ↔
      (¬ OnChain C second first.block ∧ ¬ OnChain C first second.block) ∧
        ¬ Ancestor C (supplied first second) first.block first.block ∧
        ¬ Ancestor C (supplied first second) second.block second.block := by
  obtain ⟨state, -, hok⟩ := except_bind_ok.mp hok
  rw [hfirst, hsecond] at hok
  obtain ⟨hne, -, -, -, base₁, base₂, l₁, l₂, hchain₁, hchain₂, hparent⟩ := checkFraudProof_ok hok
  have hsub₁ : first.unknownHeaders ⊆ supplied first second := List.subset_append_left ..
  have hsub₂ : second.unknownHeaders ⊆ supplied first second := List.subset_append_right ..
  rw [hchain₂.ancestor_iff hbinds hsub₂ hne, hchain₁.ancestor_iff hbinds hsub₁ hne.symm,
    hchain₁.ancestor_self_iff hbinds hsub₁, hchain₂.ancestor_self_iff hbinds hsub₂, hparent]
  tauto

section Count

variable {E : Runtime Header VoterSet} {J : GrandpaJustification Header} {setId : UInt64}
  {authorities : AuthorityList}

/-- The authorities with a valid precommit for the target. -/
def validSigners (E : Runtime Header VoterSet) (J : GrandpaJustification Header) (setId : UInt64) :
    Finset AuthorityId :=
  ((J.commit.precommits.filter fun signed =>
    E.ed25519Verify signed.signature (signedMessage E signed.precommit J.round setId) signed.id &&
      match ancestry E J.votesAncestries J.commit.targetHash signed.precommit.targetHash with
      | .arrived _ => true
      | _ => false).map (·.id)).toFinset

theorem weightOf_mono {s t : Finset AuthorityId} (h : s ⊆ t) : weightOf authorities s ≤ weightOf authorities t := by
  have hsub : (authorities.filter (·.1 ∈ s)).Sublist (authorities.filter (·.1 ∈ t)) := by
    refine List.monotone_filter_right authorities fun a ha => ?_
    simp only [decide_eq_true_eq] at ha ⊢
    exact h ha
  exact (hsub.map _).sum_le_sum fun _ _ => Nat.zero_le _

theorem mem_validSigners {id : AuthorityId} :
    id ∈ validSigners E J setId ↔ ∃ signed, Precommitted E J id signed ∧ SignatureValid E J setId signed := by
  have harrives (signed : SignedPrecommit) :
      (match ancestry E J.votesAncestries J.commit.targetHash signed.precommit.targetHash with
        | .arrived _ => true
        | _ => false) = true ↔ ∃ l, Path E J J.commit.targetHash signed.precommit.targetHash l := by
    constructor
    · intro h
      split at h
      · rename_i route hroute
        obtain ⟨l, hpath, -⟩ := ancestry_eq_arrived.mp hroute
        exact ⟨l, hpath⟩
      · cases h
    · rintro ⟨l, hpath⟩
      rw [ancestry_eq_arrived.mpr ⟨l, hpath, rfl⟩]
  simp only [validSigners, List.mem_toFinset, List.mem_map, List.mem_filter, Bool.and_eq_true, harrives,
    Precommitted, SignatureValid]
  constructor
  · rintro ⟨signed, ⟨hmem, hvalid, hpath⟩, hid⟩
    exact ⟨signed, ⟨hmem, hid, hpath⟩, hvalid⟩
  · rintro ⟨signed, ⟨hmem, hid, hpath⟩, hvalid⟩
    exact ⟨signed, ⟨hmem, hvalid, hpath⟩, hid⟩

theorem supported_iff_weightOf : Supported E J setId authorities ↔
    supermajority authorities ≤ weightOf authorities (validSigners E J setId) := by
  constructor
  · rintro ⟨signers, hweight, hsigned⟩
    exact hweight.trans (weightOf_mono fun id hid => mem_validSigners.mpr (hsigned id hid))
  · exact fun h => ⟨_, h, fun id hid => mem_validSigners.mp hid⟩

end Count

structure SampleHeader where
  branch : UInt8
  number : UInt8

def SampleHeader.hash (h : SampleHeader) : H256 := BytesN.ofNat 32 (256 * h.branch.toNat + h.number.toNat)

def SampleHeader.parentHash (h : SampleHeader) : H256 :=
  if h.number ≤ 1 then BytesN.zero 32 else BytesN.ofNat 32 (256 * h.branch.toNat + h.number.toNat - 1)

def sampleSign (message : Bytes) : AuthoritySignature :=
  BytesN.ofNat 64 (message.foldl (fun acc x => acc * 256 + x.toNat) 0)

def headerRuntime : Runtime SampleHeader Unit where
  hash := SampleHeader.hash
  parentHash := SampleHeader.parentHash
  encodeMessage p := 1 :: p.targetHash.bytes ++ leBytes 4 p.targetNumber.toNat
  ed25519Verify signature message id := decide (signature = sampleSign message ∧ id = sampleKey)
  voterSetNew _ := some ()
  validateCommit _ _ _ := none
  debugResult _ := "CommitValidationResult"

def voteFor (h : SampleHeader) : GrandpaJustification SampleHeader :=
  let precommit : Precommit := ⟨h.hash, h.number.toUInt32⟩
  { round := h.number.toUInt64
    commit :=
      { targetHash := h.hash
        targetNumber := h.number.toUInt32
        precommits :=
          [⟨precommit, sampleSign (signedMessage headerRuntime precommit h.number.toUInt64 0), sampleKey⟩] }
    votesAncestries := [] }

def headerClient : Client SampleHeader Unit where
  toRuntime := headerRuntime
  number h := h.number.toUInt32
  decodeConsensusState
    | [branch, number] => .ok ⟨[(sampleKey, 1)], 0, SampleHeader.hash ⟨branch, number⟩⟩
    | _ => .error "Not enough data to fill buffer"
  decodeFinalityProof
    | [branch, number] => .ok
        { block := SampleHeader.hash ⟨branch, number⟩
          justification := [branch, number]
          unknownHeaders := (List.range number.toNat).map fun i => ⟨branch, UInt8.ofNat (i + 1)⟩ }
    | _ => .error "Not enough data to fill buffer"
  decodeJustification
    | [branch, number] => some (voteFor ⟨branch, number⟩)
    | _ => none
  verifyJustification J setId authorities :=
    if supermajority authorities ≤ weightOf authorities (validSigners headerRuntime J setId) then .ok ()
    else .error (.error "invalid commit in grandpa justification")

theorem headerClient_verifyJustification (J : GrandpaJustification SampleHeader) (setId : UInt64)
    (authorities : AuthorityList) :
    headerClient.verifyJustification J setId authorities = .ok () ↔ Supported headerRuntime J setId authorities := by
  rw [supported_iff_weightOf]
  simp only [headerClient]
  split <;> simp_all

def sampleProof (branch number : UInt8) : FinalityProof SampleHeader where
  block := SampleHeader.hash ⟨branch, number⟩
  justification := [branch, number]
  unknownHeaders := (List.range number.toNat).map fun i => ⟨branch, UInt8.ofNat (i + 1)⟩

theorem fraud_proof_shows_fork_iff_sample :
    verifyFraudProof headerClient [1, 1] [1, 1] [2, 1] = .ok () ∧
      ((¬ Ancestor headerClient (supplied (sampleProof 1 1) (sampleProof 2 1)) (sampleProof 1 1).block
            (sampleProof 2 1).block ∧
          ¬ Ancestor headerClient (supplied (sampleProof 1 1) (sampleProof 2 1)) (sampleProof 2 1).block
            (sampleProof 1 1).block) ↔ (¬ OnChain headerClient (sampleProof 2 1) (sampleProof 1 1).block ∧
            ¬ OnChain headerClient (sampleProof 1 1) (sampleProof 2 1).block) ∧
          ¬ Ancestor headerClient (supplied (sampleProof 1 1) (sampleProof 2 1)) (sampleProof 1 1).block
            (sampleProof 1 1).block ∧
          ¬ Ancestor headerClient (supplied (sampleProof 1 1) (sampleProof 2 1)) (sampleProof 2 1).block
            (sampleProof 2 1).block) := by
  have hok : verifyFraudProof headerClient [1, 1] [1, 1] [2, 1] = .ok () := by decide +kernel
  have hbinds : HashBinds headerClient.toRuntime (supplied (sampleProof 1 1) (sampleProof 2 1)) := by
    unfold HashBinds
    decide +kernel
  exact ⟨hok, fraud_proof_shows_fork_iff rfl rfl hbinds hok⟩

/-- Two blocks of one chain, the second the child of the first. -/
theorem parent_and_child_pass :
    verifyFraudProof headerClient [1, 2] [1, 1] [1, 2] = .ok () ∧
      (∀ J setId authorities, headerClient.verifyJustification J setId authorities = .ok () ↔
        Supported headerClient.toRuntime J setId authorities) ∧
      headerClient.decodeFinalityProof [1, 1] = .ok (sampleProof 1 1) ∧
      headerClient.decodeFinalityProof [1, 2] = .ok (sampleProof 1 2) ∧
      Ancestor headerClient (supplied (sampleProof 1 1) (sampleProof 1 2)) (sampleProof 1 1).block
        (sampleProof 1 2).block := by
  refine ⟨by decide +kernel, headerClient_verifyJustification, rfl, rfl, Relation.TransGen.single ?_⟩
  exact ⟨⟨1, 2⟩, by simp [supplied, sampleProof, List.range_succ], rfl, by decide +kernel⟩

end Hyperbridge.Grandpa
