import Hyperbridge.Lib.Bytes
import Hyperbridge.Lib.Exec
import Hyperbridge.Lib.Walk
import Mathlib.Data.List.MinMax

/-!
# GRANDPA justifications

`GrandpaJustification::verify` counts votes with `finality_grandpa::validate_commit`, and checks signatures in a loop
over the precommits, which also collects the blocks from every target to the lowest one. A justification must come with
exactly those blocks.

The loop stops at a precommit whose signature is *valid*: `check_message_signature` returns its error when
`ed25519_verify` says yes. So only justifications without a valid signature are accepted.
-/

namespace Hyperbridge.Grandpa

open Lib

abbrev AuthorityId := BytesN 32

abbrev AuthoritySignature := BytesN 64

abbrev AuthorityList := List (AuthorityId × UInt64)

structure Precommit where
  targetHash : H256
  targetNumber : UInt32
  deriving DecidableEq

structure SignedPrecommit where
  precommit : Precommit
  signature : AuthoritySignature
  id : AuthorityId
  deriving DecidableEq

structure Commit where
  targetHash : H256
  targetNumber : UInt32
  precommits : List SignedPrecommit
  deriving DecidableEq

structure CommitValidationResult where
  valid : Bool
  numPrecommits : Nat
  numDuplicatedPrecommits : Nat
  numEquivocations : Nat
  numInvalidVoters : Nat
  deriving DecidableEq

structure GrandpaJustification (Header : Type) where
  round : UInt64
  commit : Commit
  votesAncestries : List Header

/-- The header type and the library code of the verifier. -/
structure Runtime (Header VoterSet : Type) where
  hash : Header → H256
  parentHash : Header → H256
  encodeMessage : Precommit → Bytes
  ed25519Verify : AuthoritySignature → Bytes → AuthorityId → Bool
  voterSetNew : AuthorityList → Option VoterSet
  validateCommit : Commit → VoterSet → List Header → Option CommitValidationResult
  debugResult : CommitValidationResult → String

variable {Header VoterSet : Type} (E : Runtime Header VoterSet)

variable (headers : List Header)

def header (hash : H256) : Option Header :=
  headers.reverse.find? fun h => E.hash h = hash

def parentOf (hash : H256) : Option H256 := (header E headers hash).map E.parentHash

def ancestry (base block : H256) : Walked H256 :=
  walk (parentOf E headers) base (headers.length + 1) block

def signedMessage (precommit : Precommit) (round setId : UInt64) : Bytes :=
  E.encodeMessage precommit ++ leBytes 8 round.toNat ++ leBytes 8 setId.toNat

def checkMessageSignature (signed : SignedPrecommit) (round setId : UInt64) : Except Fault Unit :=
  if E.ed25519Verify signed.signature (signedMessage E signed.precommit round setId) signed.id then
    .error (.error "invalid signature for precommit in grandpa justification")
  else .ok ()

/-- What `validate_commit` has to say. -/
def checkCommit (result : Option CommitValidationResult) : Except Fault Unit :=
  match result with
  | none => .error (.error "[verify_with_voter_set] Invalid ancestry while validating commit!")
  | some r =>
    if r.valid then
      if 0 < r.numDuplicatedPrecommits ∨ 0 < r.numInvalidVoters ∨ 0 < r.numEquivocations then
        .error (.error ("Invalid commit, found one of `duplicate precommits`, `invalid voters`, or `equivocations` "
          ++ E.debugResult r))
      else .ok ()
    else .error (.error ("invalid commit in grandpa justification: " ++ E.debugResult r))

def visit (J : GrandpaJustification Header) (setId : UInt64) (base : H256) (visited : Finset H256)
    (signed : SignedPrecommit) : Except Fault (Finset H256) := do
  checkMessageSignature E signed J.round setId
  if signed.precommit.targetHash = base then .ok visited
  else match ancestry E J.votesAncestries base signed.precommit.targetHash with
    | .arrived route => .ok (insert signed.precommit.targetHash visited ∪ route.toFinset)
    | .lost => .error (.error "[verify_with_voter_set] Invalid ancestry!")
    | .running => .error .diverges

def lowest (commit : Commit) : Option Precommit :=
  (commit.precommits.map (·.precommit)).argmin (·.targetNumber.toNat)

/-- `verify_with_voter_set`. -/
def verifyWithVoterSet (J : GrandpaJustification Header) (setId : UInt64) (voters : VoterSet) :
    Except Fault Unit := do
  checkCommit E (E.validateCommit J.commit voters J.votesAncestries)
  match lowest J.commit with
  | none => .error (.panic ("can only fail if precommits is empty; commit has been validated above; " ++
      "valid commits must include precommits; qed."))
  | some base => do
    let visited ← J.commit.precommits.foldlM (visit E J setId base.targetHash) ∅
    if visited ≠ (J.votesAncestries.map E.hash).toFinset then
      .error (.error "invalid precommit ancestries in grandpa justification with unused headers")
    else .ok ()

def verify (J : GrandpaJustification Header) (setId : UInt64) (authorities : AuthorityList) :
    Except Fault Unit := do
  let voters ← okOr (E.voterSetNew authorities) (.error "Invalid AuthoritiesSet")
  verifyWithVoterSet E J setId voters

section Spec

variable {E} {J : GrandpaJustification Header} {setId : UInt64} {base : H256}

def SignatureValid (E : Runtime Header VoterSet) (J : GrandpaJustification Header) (setId : UInt64)
    (signed : SignedPrecommit) : Prop :=
  E.ed25519Verify signed.signature (signedMessage E signed.precommit J.round setId) signed.id = true

abbrev Path (E : Runtime Header VoterSet) (J : GrandpaJustification Header) (base block : H256)
    (l : List H256) : Prop :=
  Route (parentOf E J.votesAncestries) base block l base

def OnTrail (E : Runtime Header VoterSet) (J : GrandpaJustification Header) (base : H256)
    (signed : SignedPrecommit) (h : H256) : Prop :=
  signed.precommit.targetHash ≠ base ∧
    ∃ l, Path E J base signed.precommit.targetHash l ∧ (h ∈ l ∨ h = base)

structure AncestryExact (E : Runtime Header VoterSet) (J : GrandpaJustification Header) (base : H256) :
    Prop where
  leads : ∀ signed ∈ J.commit.precommits, signed.precommit.targetHash ≠ base →
    ∃ l, Path E J base signed.precommit.targetHash l
  exact : ∀ h, h ∈ J.votesAncestries.map E.hash ↔ ∃ signed ∈ J.commit.precommits, OnTrail E J base signed h

def CommitAccepted (E : Runtime Header VoterSet) (J : GrandpaJustification Header) (voters : VoterSet) : Prop :=
  ∃ r, E.validateCommit J.commit voters J.votesAncestries = some r ∧ r.valid = true ∧
    r.numDuplicatedPrecommits = 0 ∧ r.numInvalidVoters = 0 ∧ r.numEquivocations = 0

variable {signed : SignedPrecommit}

theorem checkMessageSignature_ok :
    checkMessageSignature E signed J.round setId = .ok () ↔ ¬ SignatureValid E J setId signed := by
  unfold checkMessageSignature SignatureValid
  split
  · simp_all
  · simp_all

theorem checkCommit_ok {voters : VoterSet} :
    checkCommit E (E.validateCommit J.commit voters J.votesAncestries) = .ok () ↔ CommitAccepted E J voters := by
  unfold CommitAccepted
  cases E.validateCommit J.commit voters J.votesAncestries with
  | none => simp [checkCommit]
  | some r =>
    simp only [checkCommit, Option.some.injEq, exists_eq_left']
    by_cases hvalid : r.valid = true
    · rw [if_pos hvalid]
      split
      · simp only [reduceCtorEq, false_iff]
        omega
      · simp only [true_iff]
        refine ⟨hvalid, ?_⟩
        omega
    · rw [if_neg hvalid]
      simp [hvalid]

/-- A header with the hash of the child names the parent. -/
def ParentLink (E : Runtime Header VoterSet) (headers : List Header) (child parent : H256) : Prop :=
  ∃ h ∈ headers, E.hash h = child ∧ E.parentHash h = parent

/-- Headers with one hash have one parent. -/
def HashBinds (E : Runtime Header VoterSet) (headers : List Header) : Prop :=
  ∀ h ∈ headers, ∀ h' ∈ headers, E.hash h = E.hash h' → E.parentHash h = E.parentHash h'

theorem HashBinds.mono {headers headers' : List Header} (h : HashBinds E headers') (hsub : headers ⊆ headers') :
    HashBinds E headers := fun a ha b hb => h a (hsub ha) b (hsub hb)

theorem parentOf_eq_some {headers : List Header} (hbinds : HashBinds E headers) {child parent : H256} :
    parentOf E headers child = some parent ↔ ParentLink E headers child parent := by
  unfold parentOf header ParentLink
  constructor
  · intro h
    obtain ⟨x, hx, hparent⟩ := Option.map_eq_some_iff.mp h
    refine ⟨x, List.mem_reverse.mp (List.mem_of_find?_eq_some hx), ?_, hparent⟩
    simpa using List.find?_some hx
  · rintro ⟨x, hx, hhash, hparent⟩
    have hfound : (headers.reverse.find? fun h => E.hash h = child).isSome := by
      rw [List.find?_isSome]
      exact ⟨x, List.mem_reverse.mpr hx, by simpa using hhash⟩
    obtain ⟨y, hy⟩ := Option.isSome_iff_exists.mp hfound
    have hyhash : E.hash y = child := by simpa using List.find?_some hy
    have hymem := List.mem_reverse.mp (List.mem_of_find?_eq_some hy)
    rw [hy, Option.map_some, hbinds y hymem x hx (hyhash.trans hhash.symm), hparent]

theorem parentLink_eq {headers : List Header} (hbinds : HashBinds E headers) :
    ParentLink E headers = fun child parent => parentOf E headers child = some parent := by
  funext child parent
  exact propext (parentOf_eq_some hbinds).symm

theorem parentOf_mem {headers : List Header} {h : H256} (hsome : parentOf E headers h ≠ none) :
    h ∈ headers.map E.hash := by
  unfold parentOf header at hsome
  rw [ne_eq, Option.map_eq_none_iff, List.find?_eq_none] at hsome
  push Not at hsome
  obtain ⟨x, hx, hhash⟩ := hsome
  refine List.mem_map.mpr ⟨x, List.mem_reverse.mp hx, ?_⟩
  simpa using hhash

theorem ancestry_eq_arrived {headers : List Header} {block : H256} {route : List H256} :
    ancestry E headers base block = .arrived route ↔
      ∃ l, Route (parentOf E headers) base block l base ∧ route = l ++ [base] := by
  refine walk_eq_arrived (fun x hx => parentOf_mem hx) ?_
  rw [List.length_map]
  omega

theorem onTrail_iff {l : List H256} {h : H256}
    (htarget : signed.precommit.targetHash ≠ base) (hpath : Path E J base signed.precommit.targetHash l) :
    OnTrail E J base signed h ↔ h ∈ l ∨ h = base := by
  constructor
  · rintro ⟨-, l', hpath', hmem⟩
    obtain ⟨rfl, -⟩ := hpath.unique hpath'
    exact hmem
  · intro hmem
    exact ⟨htarget, l, hpath, hmem⟩

def Passes (E : Runtime Header VoterSet) (J : GrandpaJustification Header) (setId : UInt64) (base : H256)
    (signed : SignedPrecommit) : Prop :=
  ¬ SignatureValid E J setId signed ∧
    (signed.precommit.targetHash ≠ base → ∃ l, Path E J base signed.precommit.targetHash l)

variable {visited : Finset H256}

theorem mem_visited {l : List H256} (h : H256)
    (htarget : signed.precommit.targetHash ≠ base) (hpath : Path E J base signed.precommit.targetHash l) :
    h ∈ insert signed.precommit.targetHash visited ∪ (l ++ [base]).toFinset ↔
      h ∈ visited ∨ OnTrail E J base signed h := by
  have hfirst : signed.precommit.targetHash ∈ l := hpath.head_mem htarget
  rw [onTrail_iff htarget hpath]
  simp only [Finset.mem_union, Finset.mem_insert, List.mem_toFinset, List.mem_append, List.mem_singleton]
  constructor
  · rintro ((rfl | hx) | hx)
    · exact .inr (.inl hfirst)
    · exact .inl hx
    · exact .inr hx
  · rintro (hx | hx)
    · exact .inl (.inr hx)
    · exact .inr hx

theorem visit_ok {visited' : Finset H256} :
    visit E J setId base visited signed = .ok visited' ↔
      Passes E J setId base signed ∧ ∀ h, h ∈ visited' ↔ h ∈ visited ∨ OnTrail E J base signed h := by
  rw [visit, except_check_ok, checkMessageSignature_ok, Passes, and_assoc]
  refine and_congr_right fun _ => ?_
  by_cases htarget : signed.precommit.targetHash = base
  · rw [if_pos htarget]
    simp only [OnTrail, htarget, ne_eq, not_true, false_and, or_false, false_implies, true_and]
    rw [Except.ok.injEq, eq_comm, Finset.ext_iff]
  · rw [if_neg htarget]
    constructor
    · intro h
      cases hwalk : ancestry E J.votesAncestries base signed.precommit.targetHash with
      | arrived route =>
        rw [hwalk] at h
        obtain ⟨l, hpath, rfl⟩ := ancestry_eq_arrived.mp hwalk
        obtain rfl := Except.ok.inj h
        exact ⟨fun _ => ⟨l, hpath⟩, fun x => mem_visited x htarget hpath⟩
      | lost =>
        rw [hwalk] at h
        cases h
      | running =>
        rw [hwalk] at h
        cases h
    · rintro ⟨hleads, hmem⟩
      obtain ⟨l, hpath⟩ := hleads htarget
      rw [ancestry_eq_arrived.mpr ⟨l, hpath, rfl⟩]
      refine congrArg Except.ok (Finset.ext fun x => ?_)
      rw [hmem x, mem_visited x htarget hpath]

theorem exists_visit_ok (visited : Finset H256) (signed : SignedPrecommit) :
    (∃ visited', visit E J setId base visited signed = .ok visited') ↔ Passes E J setId base signed := by
  constructor
  · rintro ⟨visited', h⟩
    exact (visit_ok.mp h).1
  · intro hpass
    by_cases htarget : signed.precommit.targetHash = base
    · refine ⟨visited, visit_ok.mpr ⟨hpass, fun h => ?_⟩⟩
      simp [OnTrail, htarget]
    · obtain ⟨l, hpath⟩ := hpass.2 htarget
      exact ⟨_, visit_ok.mpr ⟨hpass, fun h => mem_visited h htarget hpath⟩⟩

theorem foldlM_visit_ok {precommits : List SignedPrecommit} {visited' : Finset H256} :
    precommits.foldlM (visit E J setId base) visited = .ok visited' ↔
      (∀ signed ∈ precommits, Passes E J setId base signed) ∧
        ∀ h, h ∈ visited' ↔ h ∈ visited ∨ ∃ signed ∈ precommits, OnTrail E J base signed h := by
  have hmem {v : Finset H256} (hrun : precommits.foldlM (visit E J setId base) visited = .ok v) :
      ∀ h, h ∈ v ↔ h ∈ visited ∨ ∃ signed ∈ precommits, OnTrail E J base signed h := by
    refine mem_foldlM_ok (fun h v => h ∈ v) (fun _ _ _ hvisit => ?_) hrun
    exact (visit_ok.mp hvisit).2
  constructor
  · intro hrun
    exact ⟨(exists_foldlM_ok exists_visit_ok _).mp ⟨_, hrun⟩, hmem hrun⟩
  · rintro ⟨hpass, hmem'⟩
    obtain ⟨v, hrun⟩ := (exists_foldlM_ok exists_visit_ok visited).mpr hpass
    rw [hrun, Finset.ext fun h => (hmem hrun h).trans (hmem' h).symm]

theorem verifyWithVoterSet_ok {voters : VoterSet} :
    verifyWithVoterSet E J setId voters = .ok () ↔ CommitAccepted E J voters ∧
      ∃ base, lowest J.commit = some base ∧ AncestryExact E J base.targetHash ∧
        ∀ signed ∈ J.commit.precommits, ¬ SignatureValid E J setId signed := by
  rw [verifyWithVoterSet, except_check_ok, checkCommit_ok]
  refine and_congr_right fun _ => ?_
  cases lowest J.commit with
  | none => simp
  | some base =>
    simp only [except_bind_ok, foldlM_visit_ok, Option.some.injEq, exists_eq_left']
    constructor
    · rintro ⟨visited, ⟨hpass, hmem⟩, hend⟩
      have hsame : visited = (J.votesAncestries.map E.hash).toFinset := by
        by_contra hne
        rw [if_pos hne] at hend
        cases hend
      refine ⟨⟨fun signed hs => (hpass signed hs).2, fun h => ?_⟩, fun signed hs => (hpass signed hs).1⟩
      rw [← List.mem_toFinset, ← hsame, hmem]
      simp
    · rintro ⟨hexact, hinvalid⟩
      refine ⟨(J.votesAncestries.map E.hash).toFinset,
        ⟨fun signed hs => ⟨hinvalid signed hs, hexact.leads signed hs⟩, fun h => ?_⟩, if_neg ?_⟩
      · rw [List.mem_toFinset, hexact.exact]
        simp
      · exact fun hne => hne rfl

end Spec

def totalWeight (authorities : AuthorityList) : Nat := (authorities.map (·.2.toNat)).sum

def weightOf (authorities : AuthorityList) (signers : Finset AuthorityId) : Nat :=
  ((authorities.filter (·.1 ∈ signers)).map (·.2.toNat)).sum

/-- More than two thirds of the weight. -/
def supermajority (authorities : AuthorityList) : Nat :=
  totalWeight authorities - (totalWeight authorities - 1) / 3

def Precommitted (E : Runtime Header VoterSet) (J : GrandpaJustification Header) (id : AuthorityId)
    (signed : SignedPrecommit) : Prop :=
  signed ∈ J.commit.precommits ∧ signed.id = id ∧
    ∃ l, Path E J J.commit.targetHash signed.precommit.targetHash l

def Supported (E : Runtime Header VoterSet) (J : GrandpaJustification Header) (setId : UInt64)
    (authorities : AuthorityList) : Prop :=
  ∃ signers, supermajority authorities ≤ weightOf authorities signers ∧
    ∀ id ∈ signers, ∃ signed, Precommitted E J id signed ∧ SignatureValid E J setId signed

/-- Everything is in order except that no signature is valid. -/
def Forged (E : Runtime Header VoterSet) (J : GrandpaJustification Header) (setId : UInt64)
    (authorities : AuthorityList) : Prop :=
  (∃ voters, E.voterSetNew authorities = some voters ∧ CommitAccepted E J voters) ∧
    (∃ base, lowest J.commit = some base ∧ AncestryExact E J base.targetHash) ∧
    ∀ signed ∈ J.commit.precommits, ¬ SignatureValid E J setId signed

variable {E} {J : GrandpaJustification Header} {setId : UInt64} {authorities : AuthorityList}

theorem verify_ok : verify E J setId authorities = .ok () ↔ Forged E J setId authorities := by
  rw [verify, except_bind_ok]
  simp only [okOr_eq_ok, verifyWithVoterSet_ok, Forged]
  constructor
  · rintro ⟨voters, hvoters, hcommit, base, hbase, hexact, hinvalid⟩
    exact ⟨⟨voters, hvoters, hcommit⟩, ⟨base, hbase, hexact⟩, hinvalid⟩
  · rintro ⟨⟨voters, hvoters, hcommit⟩, ⟨base, hbase, hexact⟩, hinvalid⟩
    exact ⟨voters, hvoters, hcommit, base, hbase, hexact, hinvalid⟩

theorem supermajority_pos (h : 0 < totalWeight authorities) : 0 < supermajority authorities := by
  unfold supermajority
  omega

theorem Supported.exists_valid (h : Supported E J setId authorities) (hpos : 0 < totalWeight authorities) :
    ∃ signed ∈ J.commit.precommits, SignatureValid E J setId signed := by
  obtain ⟨signers, hweight, hsigned⟩ := h
  have hne : signers.Nonempty := by
    rw [Finset.nonempty_iff_ne_empty]
    rintro rfl
    have hzero : weightOf authorities ∅ = 0 := by simp [weightOf]
    have := supermajority_pos hpos
    omega
  obtain ⟨id, hid⟩ := hne
  obtain ⟨signed, hprecommitted, hvalid⟩ := hsigned id hid
  exact ⟨signed, hprecommitted.1, hvalid⟩

/-- A justification that the verifier accepts is supported exactly when it is not forged, that is never: `VoterSet::new`
admits only authority lists with some weight. -/
theorem supported_of_verify_iff
    (hvoters : ∀ authorities voters, E.voterSetNew authorities = some voters → 0 < totalWeight authorities) :
    (verify E J setId authorities = .ok () → Supported E J setId authorities) ↔ ¬ Forged E J setId authorities := by
  rw [verify_ok]
  refine ⟨fun hsupported hforged => ?_, fun hnot hforged => absurd hforged hnot⟩
  obtain ⟨voters, hnew, -⟩ := hforged.1
  obtain ⟨signed, hmem, hvalid⟩ := (hsupported hforged).exists_valid (hvoters _ voters hnew)
  exact hforged.2.2 signed hmem hvalid

def sampleKey : AuthorityId :=
  BytesN.ofNat 32 0xd75a980182b10ab7d54bfed3c964073a0ee172f3daa62325af021a68f707511a

def sampleSignature : AuthoritySignature :=
  BytesN.ofNat 64 (0xe5564300c360ac729086e2cc806e828a84877f1eb8e5d974d873e06522490155 <<< 256 |||
    0x5fb8821590a33bacc61e39701cf9b46bd25bf5f0595bbe24655141438e7a100b)

def sampleRuntime : Runtime H256 AuthorityList where
  hash h := h
  parentHash _ := BytesN.zero 32
  encodeMessage p := 1 :: p.targetHash.bytes ++ leBytes 4 p.targetNumber.toNat
  ed25519Verify signature message id :=
    decide (signature = sampleSignature ∧ message = [] ∧ id = sampleKey)
  voterSetNew authorities := if totalWeight authorities = 0 then none else some authorities
  validateCommit commit voters _ :=
    let votes := commit.precommits.filter fun signed => signed.precommit.targetHash = commit.targetHash
    some ⟨decide (supermajority voters ≤ weightOf voters (votes.map (·.id)).toFinset), votes.length, 0, 0, 0⟩
  debugResult _ := "CommitValidationResult"

def sampleJustification : GrandpaJustification H256 where
  round := 1
  commit :=
    { targetHash := BytesN.ofNat 32 7
      targetNumber := 100
      precommits := [⟨⟨BytesN.ofNat 32 7, 100⟩, sampleSignature, sampleKey⟩] }
  votesAncestries := []

theorem sampleRuntime_voterSetNew (authorities : AuthorityList) (voters : AuthorityList)
    (h : sampleRuntime.voterSetNew authorities = some voters) : 0 < totalWeight authorities := by
  simp only [sampleRuntime] at h
  split at h
  · cases h
  · omega

/-- The one authority has signed something else, and its justification is accepted. -/
theorem forged_justification_accepted :
    verify sampleRuntime sampleJustification 0 [(sampleKey, 1)] = .ok () ∧
      ¬ Supported sampleRuntime sampleJustification 0 [(sampleKey, 1)] := by
  have haccepted : verify sampleRuntime sampleJustification 0 [(sampleKey, 1)] = .ok () := by decide +kernel
  refine ⟨haccepted, fun hsupported => ?_⟩
  obtain ⟨signed, hmem, hvalid⟩ := hsupported.exists_valid (by decide)
  exact (verify_ok.mp haccepted).2.2 signed hmem hvalid

theorem supported_of_verify_iff_sample :
    Forged sampleRuntime sampleJustification 0 [(sampleKey, 1)] ∧
      ((verify sampleRuntime sampleJustification 0 [(sampleKey, 1)] = .ok () →
          Supported sampleRuntime sampleJustification 0 [(sampleKey, 1)]) ↔
        ¬ Forged sampleRuntime sampleJustification 0 [(sampleKey, 1)]) :=
  ⟨verify_ok.mp (by decide +kernel), supported_of_verify_iff sampleRuntime_voterSetNew⟩

end Hyperbridge.Grandpa
