import Hyperbridge.Grandpa.Fraud
import Hyperbridge.Ismp.Messaging
import Mathlib.Data.List.Sort

/-!
# GRANDPA finality proofs

`verify_grandpa_finality_proof` moves a light client to the highest header it is given, if the headers lead back to the
trusted block and a justification is for that header. Block numbers are not compared along the way; that the height does
not fall follows from the lowest header.

`verify_parachain_headers_with_grandpa_finality_proof` then reads parachain headers from the states of the blocks of the
route, which ends with the trusted block itself, whose header need not be there.
-/

namespace Hyperbridge.Grandpa

open Lib

structure LightClient extends ConsensusState where
  latestHeight : UInt32
  slotDuration : UInt64
  stateMachine : Ismp.StateMachine

structure ScheduledChange where
  nextAuthorities : AuthorityList
  delay : UInt32

inductive ConsensusLog where
  | scheduledChange (change : ScheduledChange)
  | forcedChange (delay : UInt32) (change : ScheduledChange)
  | onDisabled (authority : UInt64)
  | pause (delay : UInt32)
  | resume (delay : UInt32)

abbrev ConsensusEngineId := BytesN 4

inductive DigestItem where
  | preRuntime (engine : ConsensusEngineId) (data : Bytes)
  | consensus (engine : ConsensusEngineId) (data : Bytes)
  | sealed (engine : ConsensusEngineId) (data : Bytes)
  | other (data : Bytes)
  | runtimeEnvironmentUpdated

structure ParachainHeaderProofs where
  stateProof : List Bytes
  paraIds : List UInt32

structure ParachainHeadersWithFinalityProof (Header : Type) where
  finalityProof : FinalityProof Header
  parachainHeaders : List (H256 × ParachainHeaderProofs)
  ordered : parachainHeaders.Pairwise fun a b => a.1.bytes < b.1.bytes

structure Verifier (Header VoterSet : Type) extends Client Header VoterSet where
  digest : Header → List DigestItem
  stateRoot : Header → H256
  codecError : Bytes → String
  decodeConsensusLog : Bytes → Option ConsensusLog
  decodeHeader : Bytes → Option Header
  storagePrefix : Bytes → Bytes → Bytes
  twox64 : Bytes → Bytes
  readProofCheck : H256 → List Bytes → List Bytes → Except String (List (Bytes × Option Bytes))

variable {Header VoterSet : Type} (V : Verifier Header VoterSet)

def grandpaEngineId : ConsensusEngineId := ⟨[0x46, 0x52, 0x4e, 0x4b], rfl⟩

def filterLog : ConsensusLog → Option ScheduledChange
  | .scheduledChange change => some change
  | _ => none

/-- The first scheduled change in a GRANDPA digest item. -/
def findScheduledChange (header : Header) : Option ScheduledChange :=
  (V.digest header).findSome? fun
    | .consensus engine data => if engine = grandpaEngineId then (V.decodeConsensusLog data).bind filterLog else none
    | _ => none

variable (state : LightClient)

/-- The authorities change if the target schedules it. -/
def advance (target : Header) : LightClient :=
  let moved := { state with latestHash := V.hash target, latestHeight := V.number target }
  match findScheduledChange V target with
  | some change =>
    { moved with currentSetId := state.currentSetId + 1, currentAuthorities := change.nextAuthorities }
  | none => moved

def checkBase (headers : List Header) (base : Header) : Except Fault Unit :=
  if V.number base < state.latestHeight then do
    let _ ← reword "[verify_grandpa_finality_proof] Invalid ancestry (base -> latest relay block)!"
      (checkAncestry V.toClient headers (V.hash base) state.latestHash)
    .ok ()
  else .ok ()

def verifyGrandpaFinalityProof (proof : FinalityProof Header) :
    Except Fault (LightClient × Header × List H256 × List Header) := do
  let headers := proof.unknownHeaders
  let target ← okOr (highestHeader V.toClient headers) (.error "Unknown headers can't be empty!")
  errIf (V.hash target ≠ proof.block) (.error "Latest finalized block should be highest block in unknown_headers")
  let justification ← okOr (V.decodeJustification proof.justification)
    (.error ("Failed to decode justificatio " ++ V.codecError proof.justification))
  errIf (justification.commit.targetHash ≠ proof.block)
    (.error "Justification target hash and finality proof block hash mismatch")
  let base ← okOr (lowestHeader V.toClient headers) (.error "Unknown headers can't be empty!")
  checkBase V state headers base
  let finalized ← reword "[verify_grandpa_finality_proof] Invalid ancestry!"
    (checkAncestry V.toClient headers state.latestHash (V.hash target))
  verify V.toRuntime justification state.currentSetId state.currentAuthorities
  .ok (advance V state target, target, finalized, headers)

def parachainHeaderStorageKey (paraId : UInt32) : Bytes :=
  let encoded := leBytes 4 paraId.toNat
  V.storagePrefix (asBytes "Paras") (asBytes "Heads") ++ V.twox64 encoded ++ encoded

def requested (paraIds : List UInt32) : List UInt32 :=
  paraIds.dedup.insertionSort fun a b => parachainHeaderStorageKey V a ≤ parachainHeaderStorageKey V b

/-- The head of a parachain, from the values of a state proof. -/
def readHeader (values : List (Bytes × Option Bytes)) (verified : UInt32 → List Header) (paraId : UInt32) :
    Except Fault (UInt32 → List Header) := do
  let encoded ← okOr (values.lookup (parachainHeaderStorageKey V paraId)).join
    (.error "Invalid proof, parachain header not found")
  let header ← okOr (V.decodeHeader encoded) (.error ("error decoding header: " ++ V.codecError encoded))
  .ok (Function.update verified paraId (verified paraId ++ [header]))

def readHeaders (headers : List Header) (finalized : List H256) (verified : UInt32 → List Header)
    (entry : H256 × ParachainHeaderProofs) : Except Fault (UInt32 → List Header) :=
  if finalized.contains entry.1 then
    match header V.toRuntime headers entry.1 with
    | none => .error (.panic "Headers have been checked by AncestryChain; qed")
    | some relayChainHeader => do
      let keys := requested V entry.2.paraIds
      let values ← (V.readProofCheck (V.stateRoot relayChainHeader) entry.2.stateProof
        (keys.map (parachainHeaderStorageKey V))).mapError fun e =>
          .error ("error verifying parachain header state proof: " ++ e)
      keys.foldlM (readHeader V values) verified
  else .ok verified

/-- `verify_parachain_headers_with_grandpa_finality_proof`. -/
def verifyParachainHeaders (proof : ParachainHeadersWithFinalityProof Header) :
    Except Fault (LightClient × (UInt32 → List Header)) := do
  let (state', _, finalized, headers) ← verifyGrandpaFinalityProof V state proof.finalityProof
  let verified ← proof.parachainHeaders.foldlM (readHeaders V headers finalized) fun _ => []
  .ok (state', verified)

section Spec

variable {V} {state state' : LightClient} {proof : FinalityProof Header} {target : Header}

structure Finalizes (V : Verifier Header VoterSet) (state : LightClient) (proof : FinalityProof Header)
    (target : Header) (l : List H256) : Prop where
  highest : highestHeader V.toClient proof.unknownHeaders = some target
  block : V.hash target = proof.block
  base : ∀ base, lowestHeader V.toClient proof.unknownHeaders = some base → V.number base < state.latestHeight →
    ∃ k, Route (parentOf V.toRuntime proof.unknownHeaders) (V.hash base) state.latestHash k (V.hash base)
  route : Route (parentOf V.toRuntime proof.unknownHeaders) state.latestHash (V.hash target) l state.latestHash
  justified : ∃ J, V.decodeJustification proof.justification = some J ∧ J.commit.targetHash = proof.block ∧
    verify V.toRuntime J state.currentSetId state.currentAuthorities = .ok ()

theorem checkBase_ok {headers : List Header} {base : Header} :
    checkBase V state headers base = .ok () ↔ (V.number base < state.latestHeight →
      ∃ k, Route (parentOf V.toRuntime headers) (V.hash base) state.latestHash k (V.hash base)) := by
  unfold checkBase
  split
  · rename_i hbelow
    rw [except_bind_ok]
    simp only [reword_ok, checkAncestry_ok, and_true]
    constructor
    · rintro ⟨_, k, hroute, -⟩ -
      exact ⟨k, hroute⟩
    · intro h
      obtain ⟨k, hroute⟩ := h hbelow
      exact ⟨_, k, hroute, rfl⟩
  · rename_i hnot
    simp [hnot]

variable {l : List H256}

theorem exists_lowestHeader {C : Client Header VoterSet} {headers : List Header} {h : Header} (hmem : h ∈ headers) :
    ∃ base, lowestHeader C headers = some base := by
  rw [← Option.isSome_iff_exists, Option.isSome_iff_ne_none, Ne, lowestHeader, List.argmin_eq_none]
  exact List.ne_nil_of_mem hmem

theorem Finalizes.target_mem (hf : Finalizes V state proof target l) : target ∈ proof.unknownHeaders :=
  List.mem_reverse.mp (List.argmax_mem hf.highest)

theorem verifyGrandpaFinalityProof_ok {finalized : List H256} {headers : List Header} :
    verifyGrandpaFinalityProof V state proof = .ok (state', target, finalized, headers) ↔
      ∃ l, Finalizes V state proof target l ∧ state' = advance V state target ∧ finalized = l ++ [state.latestHash] ∧
        headers = proof.unknownHeaders := by
  constructor
  · intro h
    obtain ⟨top, htop, h⟩ := except_bind_ok.mp h
    obtain ⟨hblock, h⟩ := errIf_bind_ok.mp h
    obtain ⟨J, hJ, h⟩ := except_bind_ok.mp h
    obtain ⟨htarget, h⟩ := errIf_bind_ok.mp h
    obtain ⟨base, hbase, h⟩ := except_bind_ok.mp h
    obtain ⟨hcheck, h⟩ := except_check_ok.mp h
    obtain ⟨route, hwalk, h⟩ := except_bind_ok.mp h
    obtain ⟨hverify, h⟩ := except_check_ok.mp h
    obtain ⟨l, hroute, rfl⟩ := checkAncestry_ok.mp (reword_ok.mp hwalk)
    obtain ⟨rfl, rfl, rfl, rfl⟩ : advance V state top = state' ∧ top = target ∧ l ++ [state.latestHash] = finalized ∧
        proof.unknownHeaders = headers := by simpa using h
    push Not at hblock htarget
    refine ⟨l, ⟨okOr_eq_ok.mp htop, hblock, fun base' hbase' => ?_, hroute, J, okOr_eq_ok.mp hJ, htarget, hverify⟩,
      rfl, rfl, rfl⟩
    obtain rfl := Option.some.inj ((okOr_eq_ok.mp hbase).symm.trans hbase')
    exact checkBase_ok.mp hcheck
  · rintro ⟨l, hf, rfl, rfl, rfl⟩
    obtain ⟨J, hJ, htarget, hverify⟩ := hf.justified
    obtain ⟨base, hbase⟩ := exists_lowestHeader (C := V.toClient) hf.target_mem
    refine except_bind_ok.mpr ⟨target, okOr_eq_ok.mpr hf.highest, errIf_bind_ok.mpr ⟨not_not.mpr hf.block, ?_⟩⟩
    refine except_bind_ok.mpr ⟨J, okOr_eq_ok.mpr hJ, errIf_bind_ok.mpr ⟨not_not.mpr htarget, ?_⟩⟩
    refine except_bind_ok.mpr ⟨base, okOr_eq_ok.mpr hbase, except_check_ok.mpr
      ⟨checkBase_ok.mpr (hf.base base hbase), ?_⟩⟩
    exact except_bind_ok.mpr ⟨_, reword_ok.mpr (checkAncestry_ok.mpr ⟨l, hf.route, rfl⟩),
      except_check_ok.mpr ⟨hverify, rfl⟩⟩

/-- The target is the highest of the headers. -/
theorem Finalizes.number_le (hf : Finalizes V state proof target l) {h : Header}
    (hmem : h ∈ proof.unknownHeaders) : V.number h ≤ V.number target := by
  rw [UInt32.le_iff_toNat_le]
  exact List.le_of_mem_argmax (f := fun h => (V.number h).toNat) (List.mem_reverse.mpr hmem) hf.highest

theorem Finalizes.leads (hf : Finalizes V state proof target l)
    (hbinds : HashBinds V.toRuntime proof.unknownHeaders) :
    Relation.ReflTransGen (ParentLink V.toRuntime proof.unknownHeaders) (V.hash target) state.latestHash := by
  have hleads : Leads (parentOf V.toRuntime proof.unknownHeaders) (V.hash target) state.latestHash :=
    hf.route.leads_iff.mpr (.inr Relation.ReflTransGen.refl)
  refine Relation.ReflTransGen.mono (fun child parent hnext => ?_) _ _ hleads
  exact (parentOf_eq_some hbinds).mp hnext

/-- The trusted block has the trusted height. -/
def Known (V : Verifier Header VoterSet) (state : LightClient) : Prop :=
  ∀ h, V.hash h = state.latestHash → V.number h = state.latestHeight

theorem Finalizes.height_le (hf : Finalizes V state proof target l) (hknown : Known V state) :
    state.latestHeight ≤ V.number target := by
  obtain ⟨base, hbase⟩ := exists_lowestHeader (C := V.toClient) hf.target_mem
  by_cases hbelow : V.number base < state.latestHeight
  · obtain ⟨k, hroute⟩ := hf.base base hbase hbelow
    rcases hroute.start with hsame | hsome
    · -- no step: the lowest header is the trusted block, and so not below it
      rw [hknown base hsame.symm] at hbelow
      exact absurd hbelow (UInt32.lt_irrefl _)
    · obtain ⟨h, hmem, hhash⟩ := List.mem_map.mp (parentOf_mem hsome)
      rw [← hknown h hhash]
      exact hf.number_le hmem
  · have hle : V.number base ≤ V.number target := hf.number_le (List.argmin_mem hbase)
    exact UInt32.le_trans (UInt32.not_lt.mp hbelow) hle

theorem advance_latestHash (state : LightClient) (target : Header) :
    (advance V state target).latestHash = V.hash target := by
  unfold advance
  split <;> rfl

theorem advance_latestHeight (state : LightClient) (target : Header) :
    (advance V state target).latestHeight = V.number target := by
  unfold advance
  split <;> rfl

theorem known_advance (hhash : Function.Injective V.hash) (state : LightClient) (target : Header) :
    Known V (advance V state target) := by
  intro h hsame
  rw [advance_latestHash] at hsame
  rw [advance_latestHeight, hhash hsame]

def Schedules (V : Verifier Header VoterSet) (header : Header) (change : ScheduledChange) : Prop :=
  ∃ data, .consensus grandpaEngineId data ∈ V.digest header ∧
    V.decodeConsensusLog data = some (.scheduledChange change)

theorem schedules_of_find {header : Header} {change : ScheduledChange}
    (h : findScheduledChange V header = some change) : Schedules V header change := by
  obtain ⟨item, hmem, hitem⟩ := List.exists_of_findSome?_eq_some h
  cases item with
  | consensus engine data =>
    by_cases hengine : engine = grandpaEngineId
    · subst hengine
      obtain ⟨log, hlog, hfilter⟩ := Option.bind_eq_some_iff.mp ((if_pos rfl).symm.trans hitem)
      cases log with
      | scheduledChange found =>
        obtain rfl := Option.some.inj hfilter
        exact ⟨data, hmem, hlog⟩
      | _ => cases hfilter
    · exact absurd ((if_neg hengine).symm.trans hitem) (by simp)
  | _ => cases hitem

theorem advance_authorities (state : LightClient) (target : Header)
    (hchanged : (advance V state target).currentSetId ≠ state.currentSetId ∨
      (advance V state target).currentAuthorities ≠ state.currentAuthorities) :
    ∃ change, findScheduledChange V target = some change ∧ Schedules V target change ∧
      (advance V state target).currentSetId = state.currentSetId + 1 ∧
      (advance V state target).currentAuthorities = change.nextAuthorities := by
  unfold advance at hchanged ⊢
  cases hfound : findScheduledChange V target with
  | some change => exact ⟨change, rfl, schedules_of_find hfound, rfl, rfl⟩
  | none =>
    rw [hfound] at hchanged
    exact absurd hchanged (by simp)

/-- An accepted proof leads from the new block back to the trusted one, the height does not fall, the new block is known
by its height again, and the authorities change, by one set, only with a change that a digest item of the target
schedules. -/
theorem finality_never_goes_back {finalized : List H256} {headers : List Header} (hhash : Function.Injective V.hash)
    (hknown : Known V state)
    (h : verifyGrandpaFinalityProof V state proof = .ok (state', target, finalized, headers)) :
    (target ∈ proof.unknownHeaders ∧ state'.latestHash = V.hash target ∧
      Relation.ReflTransGen (ParentLink V.toRuntime proof.unknownHeaders) state'.latestHash state.latestHash) ∧
    state.latestHeight ≤ state'.latestHeight ∧ Known V state' ∧
    (state'.currentSetId ≠ state.currentSetId ∨ state'.currentAuthorities ≠ state.currentAuthorities →
      ∃ change, findScheduledChange V target = some change ∧ Schedules V target change ∧
        state'.currentSetId = state.currentSetId + 1 ∧ state'.currentAuthorities = change.nextAuthorities) := by
  obtain ⟨l, hf, rfl, -, -⟩ := verifyGrandpaFinalityProof_ok.mp h
  have hbinds : HashBinds V.toRuntime proof.unknownHeaders := by
    intro a _ b _ hsame
    rw [hhash hsame]
  refine ⟨⟨hf.target_mem, advance_latestHash state target, ?_⟩, ?_, known_advance hhash state target,
    advance_authorities state target⟩
  · rw [advance_latestHash]
    exact hf.leads hbinds
  · rw [advance_latestHeight]
    exact hf.height_le hknown

end Spec

section Faults

variable {V} {state : LightClient}

def Circular (E : Runtime Header VoterSet) (headers : List Header) : Prop :=
  ∃ block, LeadsOn (parentOf E headers) block block

/-- Errors, and endless loops where there is a circle. -/
def Benign (circle : Prop) : Fault → Prop
  | .error _ => True
  | .panic _ => False
  | .diverges => circle

def CommitsSigned (E : Runtime Header VoterSet) : Prop :=
  ∀ commit voters headers result, E.validateCommit commit voters headers = some result → result.valid = true →
    commit.precommits ≠ []

variable {E : Runtime Header VoterSet} {base : H256}

theorem circular_of_running {headers : List Header} {block : H256}
    (h : ancestry E headers base block = .running) : Circular E headers := by
  have hdom : ∀ x, parentOf E headers x ≠ none → x ∈ headers.map E.hash := fun x hx => parentOf_mem hx
  refine exists_circle_of_walk_running hdom ?_ h
  rw [List.length_map]
  omega

theorem checkAncestry_fails {C : Client Header VoterSet} {headers : List Header} {block : H256} {circle : Prop}
    (hcircle : Circular C.toRuntime headers → circle) :
    FailsOnly (Benign circle) (checkAncestry C headers base block) := by
  unfold checkAncestry
  split
  · exact FailsOnly.ok _
  · exact FailsOnly.error trivial
  · rename_i hrunning
    exact FailsOnly.error (hcircle (circular_of_running hrunning))

theorem reword_fails {α : Type} {text : String} {x : Except Fault α} {circle : Prop}
    (hx : FailsOnly (Benign circle) x) : FailsOnly (Benign circle) (reword text x) := by
  intro e h
  rcases x with (_ | text' | _) | a
  · obtain rfl := Except.error.inj h
    trivial
  · exact absurd (hx _ rfl) id
  · obtain rfl := Except.error.inj h
    exact hx _ rfl
  · cases h

theorem visit_fails {J : GrandpaJustification Header} {setId : UInt64}
    (visited : Finset H256) (signed : SignedPrecommit) :
    FailsOnly (Benign (Circular E J.votesAncestries)) (visit E J setId base visited signed) := by
  refine FailsOnly.bind ?_ fun _ _ => ?_
  · unfold checkMessageSignature
    split
    · exact FailsOnly.error trivial
    · exact FailsOnly.ok _
  · split
    · exact FailsOnly.ok _
    · split
      · exact FailsOnly.ok _
      · exact FailsOnly.error trivial
      · rename_i hrunning
        exact FailsOnly.error (circular_of_running hrunning)

theorem lowest_ne_none {commit : Commit} (h : commit.precommits ≠ []) : lowest commit ≠ none := by
  rw [lowest, Ne, List.argmin_eq_none, List.map_eq_nil_iff]
  exact h

theorem verify_fails (hcommits : CommitsSigned E) (J : GrandpaJustification Header)
    (setId : UInt64) (authorities : AuthorityList) :
    FailsOnly (Benign (Circular E J.votesAncestries)) (verify E J setId authorities) := by
  refine FailsOnly.bind (FailsOnly.okOr trivial) fun voters _ => FailsOnly.bind ?_ fun _ hchecked => ?_
  · unfold checkCommit
    split
    · exact FailsOnly.error trivial
    · split
      · split
        · exact FailsOnly.error trivial
        · exact FailsOnly.ok _
      · exact FailsOnly.error trivial
  · obtain ⟨result, hresult, hvalid, -⟩ := checkCommit_ok.mp hchecked
    have hsome := lowest_ne_none (hcommits _ _ _ _ hresult hvalid)
    split
    · contradiction
    · refine FailsOnly.bind (FailsOnly.foldlM (fun visited signed _ => visit_fails visited signed) _)
        fun visited _ => ?_
      split
      · exact FailsOnly.error trivial
      · exact FailsOnly.ok _

/-- The supplied headers or the vote ancestries go in a circle. -/
def GoesInCircle (V : Verifier Header VoterSet) (proof : FinalityProof Header) : Prop :=
  Circular V.toRuntime proof.unknownHeaders ∨
    ∃ J, V.decodeJustification proof.justification = some J ∧ Circular V.toRuntime J.votesAncestries

theorem verifyGrandpaFinalityProof_fails (hcommits : CommitsSigned V.toRuntime) (proof : FinalityProof Header) :
    FailsOnly (Benign (GoesInCircle V proof)) (verifyGrandpaFinalityProof V state proof) := by
  refine FailsOnly.bind (FailsOnly.okOr trivial) fun target _ => ?_
  refine FailsOnly.bind (FailsOnly.errIf trivial) fun _ _ => ?_
  refine FailsOnly.bind (FailsOnly.okOr trivial) fun J hJ => ?_
  refine FailsOnly.bind (FailsOnly.errIf trivial) fun _ _ => ?_
  refine FailsOnly.bind (FailsOnly.okOr trivial) fun base _ => ?_
  refine FailsOnly.bind ?_ fun _ _ => ?_
  · unfold checkBase
    split
    · exact FailsOnly.bind (reword_fails (checkAncestry_fails .inl)) fun _ _ => FailsOnly.ok _
    · exact FailsOnly.ok _
  refine FailsOnly.bind (reword_fails (checkAncestry_fails .inl)) fun route _ => ?_
  refine FailsOnly.bind (fun e he => ?_) fun _ _ => FailsOnly.ok _
  have hbenign := verify_fails hcommits J state.currentSetId state.currentAuthorities e he
  cases e with
  | error text => trivial
  | panic text => exact hbenign
  | diverges => exact .inr ⟨J, okOr_eq_ok.mp hJ, hbenign⟩

end Faults

section Parachains

variable {V} {state : LightClient} {proof : ParachainHeadersWithFinalityProof Header}

def TrieSound (V : Verifier Header VoterSet) (contents : H256 → Bytes → Option Bytes) : Prop :=
  ∀ root stateProof keys values key value, V.readProofCheck root stateProof keys = .ok values →
    (values.lookup key).join = some value → contents root key = some value

def Shown (V : Verifier Header VoterSet) (contents : H256 → Bytes → Option Bytes) (relay : Header) (paraId : UInt32)
    (h : Header) : Prop :=
  ∃ encoded, contents (V.stateRoot relay) (parachainHeaderStorageKey V paraId) = some encoded ∧
    V.decodeHeader encoded = some h

def AllShown (V : Verifier Header VoterSet) (contents : H256 → Bytes → Option Bytes) (P : Header → Prop)
    (verified : UInt32 → List Header) : Prop :=
  ∀ paraId, ∀ h ∈ verified paraId, ∃ relay, P relay ∧ Shown V contents relay paraId h

/-- The values of the state proof have this head. -/
def Found (V : Verifier Header VoterSet) (values : List (Bytes × Option Bytes)) (paraId : UInt32) (h : Header) : Prop :=
  ∃ encoded, (values.lookup (parachainHeaderStorageKey V paraId)).join = some encoded ∧ V.decodeHeader encoded = some h

def Opens (V : Verifier Header VoterSet) (headers : List Header) (entry : H256 × ParachainHeaderProofs) (relay : Header)
    (values : List (Bytes × Option Bytes)) : Prop :=
  header V.toRuntime headers entry.1 = some relay ∧
    V.readProofCheck (V.stateRoot relay) entry.2.stateProof
      ((requested V entry.2.paraIds).map (parachainHeaderStorageKey V)) = .ok values

def Readable (V : Verifier Header VoterSet) (headers : List Header) (entry : H256 × ParachainHeaderProofs) : Prop :=
  ∃ relay values, Opens V headers entry relay values ∧ ∀ paraId ∈ entry.2.paraIds, ∃ h, Found V values paraId h

def Reads (V : Verifier Header VoterSet) (headers : List Header) (entry : H256 × ParachainHeaderProofs)
    (paraId : UInt32)
    (h : Header) : Prop :=
  ∃ relay values, Opens V headers entry relay values ∧ paraId ∈ entry.2.paraIds ∧ Found V values paraId h

variable {contents : H256 → Bytes → Option Bytes} {verified verified' : UInt32 → List Header}
  {headers : List Header} {finalized : List H256} {entry : H256 × ParachainHeaderProofs} {paraId : UInt32} {h : Header}

theorem header_eq_some {E : Runtime Header VoterSet} {hash : H256} {relay : Header}
    (h : header E headers hash = some relay) : relay ∈ headers ∧ E.hash relay = hash := by
  refine ⟨List.mem_reverse.mp (List.mem_of_find?_eq_some h), ?_⟩
  simpa using List.find?_some h

theorem mem_requested {paraIds : List UInt32} : paraId ∈ requested V paraIds ↔ paraId ∈ paraIds := by
  rw [requested, List.mem_insertionSort, List.mem_dedup]

theorem readHeader_ok {values : List (Bytes × Option Bytes)} :
    readHeader V values verified paraId = .ok verified' ↔
      ∃ h, Found V values paraId h ∧ verified' = Function.update verified paraId (verified paraId ++ [h]) := by
  simp only [readHeader, Found, except_bind_ok, okOr_eq_ok, Except.ok.injEq]
  constructor
  · rintro ⟨encoded, hencoded, h, hdecoded, rfl⟩
    exact ⟨h, ⟨encoded, hencoded, hdecoded⟩, rfl⟩
  · rintro ⟨h, ⟨encoded, hencoded, hdecoded⟩, rfl⟩
    exact ⟨encoded, hencoded, h, hdecoded, rfl⟩

theorem exists_readHeader_ok {values : List (Bytes × Option Bytes)} (verified : UInt32 → List Header)
    (paraId : UInt32) :
    (∃ verified', readHeader V values verified paraId = .ok verified') ↔ ∃ h, Found V values paraId h := by
  simp only [readHeader_ok]
  exact ⟨fun ⟨_, h, hfound, _⟩ => ⟨h, hfound⟩, fun ⟨h, hfound⟩ => ⟨_, h, hfound, rfl⟩⟩

theorem mem_readHeader {values : List (Bytes × Option Bytes)}
    (hread : readHeader V values verified paraId = .ok verified') (i : UInt32 × Header) :
    i.2 ∈ verified' i.1 ↔ i.2 ∈ verified i.1 ∨ i.1 = paraId ∧ Found V values i.1 i.2 := by
  obtain ⟨h, hfound, rfl⟩ := readHeader_ok.mp hread
  by_cases hsame : i.1 = paraId
  · subst hsame
    have hunique : Found V values i.1 i.2 ↔ i.2 = h := by
      constructor
      · rintro ⟨encoded, hencoded, hdecoded⟩
        obtain ⟨encoded', hencoded', hdecoded'⟩ := hfound
        obtain rfl := Option.some.inj (hencoded.symm.trans hencoded')
        exact Option.some.inj (hdecoded.symm.trans hdecoded')
      · rintro hh
        rwa [hh]
    simp [hunique]
  · simp [hsame]

theorem readHeaders_eq (hfinalized : entry.1 ∈ finalized) :
    readHeaders V headers finalized verified entry = .ok verified' ↔
      ∃ relay values, Opens V headers entry relay values ∧
      (requested V entry.2.paraIds).foldlM (readHeader V values) verified = .ok verified' := by
  rw [readHeaders, if_pos (List.contains_iff_mem.mpr hfinalized)]
  unfold Opens
  cases header V.toRuntime headers entry.1 with
  | none => simp
  | some relay =>
    simp only [except_bind_ok, except_mapError_ok, Option.some.injEq]
    constructor
    · rintro ⟨values, hread, hloop⟩
      exact ⟨relay, values, ⟨rfl, hread⟩, hloop⟩
    · rintro ⟨_, values, ⟨rfl, hread⟩, hloop⟩
      exact ⟨values, hread, hloop⟩

theorem readHeaders_skips (hnot : entry.1 ∉ finalized) :
    readHeaders V headers finalized verified entry = .ok verified := by
  rw [readHeaders, if_neg (mt List.contains_iff_mem.mp hnot)]

theorem exists_readHeaders_ok (verified : UInt32 → List Header) (entry : H256 × ParachainHeaderProofs) :
    (∃ verified', readHeaders V headers finalized verified entry = .ok verified') ↔
      (entry.1 ∈ finalized → Readable V headers entry) := by
  by_cases hfinalized : entry.1 ∈ finalized
  · simp only [readHeaders_eq hfinalized, hfinalized, true_imp_iff, Readable]
    constructor
    · rintro ⟨verified', relay, values, hopens, hloop⟩
      refine ⟨relay, values, hopens, fun paraId hmem => ?_⟩
      exact (exists_foldlM_ok exists_readHeader_ok verified).mp ⟨_, hloop⟩ paraId (mem_requested.mpr hmem)
    · rintro ⟨relay, values, hopens, hfound⟩
      obtain ⟨verified', hloop⟩ := (exists_foldlM_ok exists_readHeader_ok verified).mpr
        fun paraId hmem => hfound paraId (mem_requested.mp hmem)
      exact ⟨verified', relay, values, hopens, hloop⟩
  · exact iff_of_true ⟨verified, readHeaders_skips hfinalized⟩ fun hmem => absurd hmem hfinalized

theorem mem_readHeaders (hread : readHeaders V headers finalized verified entry = .ok verified') (i : UInt32 × Header) :
    i.2 ∈ verified' i.1 ↔ i.2 ∈ verified i.1 ∨ entry.1 ∈ finalized ∧ Reads V headers entry i.1 i.2 := by
  by_cases hfinalized : entry.1 ∈ finalized
  · obtain ⟨relay, values, hopens, hloop⟩ := (readHeaders_eq hfinalized).mp hread
    have hmem := mem_foldlM_ok (fun (i : UInt32 × Header) v => i.2 ∈ v i.1) (fun _ _ _ => mem_readHeader) hloop i
    rw [hmem]
    refine or_congr_right ⟨?_, ?_⟩
    · rintro ⟨paraId, hmem, rfl, hfound⟩
      exact ⟨hfinalized, relay, values, hopens, mem_requested.mp hmem, hfound⟩
    · rintro ⟨-, relay', values', hopens', hmem, hfound⟩
      obtain rfl := Option.some.inj (hopens.1.symm.trans hopens'.1)
      obtain rfl := Except.ok.inj (hopens.2.symm.trans hopens'.2)
      exact ⟨i.1, mem_requested.mpr hmem, rfl, hfound⟩
  · rw [readHeaders_skips hfinalized] at hread
    obtain rfl := Except.ok.inj hread
    simp [hfinalized]

theorem reads_iff_shown (htrie : TrieSound V contents) {relay : Header}
    (hrelay : header V.toRuntime headers entry.1 = some relay)
    (hreadable : Readable V headers entry) (hmem : paraId ∈ entry.2.paraIds) :
    Reads V headers entry paraId h ↔ Shown V contents relay paraId h := by
  obtain ⟨relay₁, values, hopens, hall⟩ := hreadable
  obtain rfl := Option.some.inj (hrelay.symm.trans hopens.1)
  obtain ⟨h', encoded, hencoded, hdecoded⟩ := hall paraId hmem
  have hcontents := htrie _ _ _ _ _ _ hopens.2 hencoded
  constructor
  · rintro ⟨relay₂, values', hopens', -, encoded', hencoded', hdecoded'⟩
    obtain rfl := Option.some.inj (hrelay.symm.trans hopens'.1)
    exact ⟨encoded', htrie _ _ _ _ _ _ hopens'.2 hencoded', hdecoded'⟩
  · rintro ⟨encoded', hcontents', hdecoded'⟩
    obtain rfl := Option.some.inj (hcontents.symm.trans hcontents')
    exact ⟨relay, values, hopens, hmem, encoded, hencoded, hdecoded'⟩

theorem header_ne_none_of_route {E : Runtime Header VoterSet} {base block x : H256} {l : List H256}
    (hroute : Route (parentOf E headers) base block l base) (hx : x ∈ l) : header E headers x ≠ none := by
  obtain ⟨h, hmem, hhash⟩ := List.mem_map.mp (hroute.mem_of_next (fun _ hy => parentOf_mem hy) hx)
  rw [header, Ne, List.find?_eq_none]
  intro hnone
  exact hnone h (List.mem_reverse.mpr hmem) (by simpa using hhash)

theorem readHeaders_fails (hheader : entry.1 ∈ finalized → header V.toRuntime headers entry.1 ≠ none) :
    FailsOnly (Benign False) (readHeaders V headers finalized verified entry) := by
  unfold readHeaders
  split
  · rename_i hfinalized
    split
    · rename_i hnone
      exact absurd hnone (hheader (List.contains_iff_mem.mp hfinalized))
    · refine FailsOnly.bind (FailsOnly.mapError fun _ => trivial) fun values _ => ?_
      refine FailsOnly.foldlM (fun b paraId _ => ?_) _
      exact FailsOnly.bind (FailsOnly.okOr trivial) fun _ _ =>
        FailsOnly.bind (FailsOnly.okOr trivial) fun _ _ => FailsOnly.ok _
  · exact FailsOnly.ok _

theorem readHeaders_panics {block : H256} {l : List H256}
    (hroute : Route (parentOf V.toRuntime headers) state.latestHash block l state.latestHash)
    (verified : UInt32 → List Header) :
    (∃ text, readHeaders V headers (l ++ [state.latestHash]) verified entry = .error (.panic text)) ↔
      entry.1 = state.latestHash ∧ header V.toRuntime headers state.latestHash = none := by
  constructor
  · rintro ⟨text, h⟩
    by_contra hnot
    refine readHeaders_fails (fun hfinalized hnone => hnot ?_) _ h
    rcases List.mem_append.mp hfinalized with hmem | hmem
    · exact absurd hnone (header_ne_none_of_route hroute hmem)
    · rw [List.mem_singleton.mp hmem] at hnone
      exact ⟨List.mem_singleton.mp hmem, hnone⟩
  · rintro ⟨hentry, hnone⟩
    refine ⟨"Headers have been checked by AncestryChain; qed", ?_⟩
    rw [readHeaders, if_pos (by simp [hentry]), hentry, hnone]

theorem readHeaders_ends : readHeaders V headers finalized verified entry ≠ .error .diverges := by
  by_cases hheader : entry.1 ∈ finalized → header V.toRuntime headers entry.1 ≠ none
  · exact fun h => readHeaders_fails hheader _ h
  · push Not at hheader
    rw [readHeaders, if_pos (List.contains_iff_mem.mpr hheader.1), hheader.2]
    simp

theorem Finalizes.unique {proof : FinalityProof Header} {target target' : Header} {l l' : List H256}
    (hf : Finalizes V state proof target l) (hf' : Finalizes V state proof target' l') : l = l' := by
  obtain rfl := Option.some.inj (hf.highest.symm.trans hf'.highest)
  exact (hf.route.unique hf'.route).1

def TrustedUnsupplied (V : Verifier Header VoterSet) (state : LightClient)
    (proof : ParachainHeadersWithFinalityProof Header) : Prop :=
  ∃ target l, Finalizes V state proof.finalityProof target l ∧
    ∃ done entry rest, proof.parachainHeaders = done ++ entry :: rest ∧
      (∀ e ∈ done, e.1 ∈ l ++ [state.latestHash] → Readable V proof.finalityProof.unknownHeaders e) ∧
      entry.1 = state.latestHash ∧ header V.toRuntime proof.finalityProof.unknownHeaders state.latestHash = none

def TrustedRead (V : Verifier Header VoterSet) (contents : H256 → Bytes → Option Bytes) (state : LightClient)
    (proof : ParachainHeadersWithFinalityProof Header) : Prop :=
  ∃ target l, Finalizes V state proof.finalityProof target l ∧
    (∀ e ∈ proof.parachainHeaders, e.1 ∈ l ++ [state.latestHash] → Readable V proof.finalityProof.unknownHeaders e) ∧
    ∃ entry ∈ proof.parachainHeaders, entry.1 = state.latestHash ∧ ∃ paraId ∈ entry.2.paraIds, ∃ relay h,
      header V.toRuntime proof.finalityProof.unknownHeaders state.latestHash = some relay ∧
      Shown V contents relay paraId h ∧
      ∀ block ∈ proof.finalityProof.unknownHeaders, V.hash block ∈ l → ¬ Shown V contents block paraId h

theorem verifyParachainHeaders_error {e : Fault} :
    verifyParachainHeaders V state proof = .error e ↔
      verifyGrandpaFinalityProof V state proof.finalityProof = .error e ∨
        ∃ target l, Finalizes V state proof.finalityProof target l ∧
          proof.parachainHeaders.foldlM (readHeaders V proof.finalityProof.unknownHeaders (l ++ [state.latestHash]))
            (fun _ => []) = .error e := by
  rw [verifyParachainHeaders, except_bind_error]
  refine or_congr_right ⟨?_, ?_⟩
  · rintro ⟨⟨state', target, finalized, headers⟩, hr, hloop⟩
    obtain ⟨l, hf, -, rfl, rfl⟩ := verifyGrandpaFinalityProof_ok.mp hr
    refine ⟨target, l, hf, ?_⟩
    rw [except_bind_error] at hloop
    simpa using hloop
  · rintro ⟨target, l, hf, hloop⟩
    refine ⟨_, verifyGrandpaFinalityProof_ok.mpr ⟨l, hf, rfl, rfl, rfl⟩, ?_⟩
    rw [except_bind_error]
    exact .inl hloop

theorem verifyParachainHeaders_panics (hcommits : CommitsSigned V.toRuntime) :
    (∃ text, verifyParachainHeaders V state proof = .error (.panic text)) ↔ TrustedUnsupplied V state proof := by
  constructor
  · rintro ⟨text, h⟩
    rcases verifyParachainHeaders_error.mp h with hfails | ⟨target, l, hf, hloop⟩
    · exact absurd (verifyGrandpaFinalityProof_fails hcommits _ _ hfails) id
    · obtain ⟨done, entry, rest, verified, hlist, hdone, hentry⟩ := except_foldlM_error.mp hloop
      exact ⟨target, l, hf, done, entry, rest, hlist, (exists_foldlM_ok exists_readHeaders_ok _).mp ⟨_, hdone⟩,
        (readHeaders_panics hf.route _).mp ⟨text, hentry⟩⟩
  · rintro ⟨target, l, hf, done, entry, rest, hlist, hreadable, htrusted⟩
    obtain ⟨verified, hdone⟩ := (exists_foldlM_ok exists_readHeaders_ok fun _ => []).mpr hreadable
    obtain ⟨text, hentry⟩ := (readHeaders_panics hf.route verified).mpr htrusted
    exact ⟨text, verifyParachainHeaders_error.mpr
      (.inr ⟨target, l, hf, except_foldlM_error.mpr ⟨done, entry, rest, verified, hlist, hdone, hentry⟩⟩)⟩

theorem verifyParachainHeaders_diverges (hcommits : CommitsSigned V.toRuntime)
    (h : verifyParachainHeaders V state proof = .error .diverges) : GoesInCircle V proof.finalityProof := by
  rcases verifyParachainHeaders_error.mp h with hfails | ⟨target, l, -, hloop⟩
  · exact verifyGrandpaFinalityProof_fails hcommits _ _ hfails
  · -- the loop over the proofs always ends
    obtain ⟨done, entry, rest, verified, -, -, hentry⟩ := except_foldlM_error.mp hloop
    exact absurd hentry readHeaders_ends

theorem exists_verifyParachainHeaders_ok {target : Header} {l : List H256}
    (hf : Finalizes V state proof.finalityProof target l)
    (hreadable : ∀ e ∈ proof.parachainHeaders, e.1 ∈ l ++ [state.latestHash] →
      Readable V proof.finalityProof.unknownHeaders e) :
    ∃ state' verified, verifyParachainHeaders V state proof = .ok (state', verified) := by
  obtain ⟨verified, hloop⟩ := (exists_foldlM_ok exists_readHeaders_ok fun _ => []).mpr hreadable
  exact ⟨_, verified, except_bind_ok.mpr ⟨_, verifyGrandpaFinalityProof_ok.mpr ⟨l, hf, rfl, rfl, rfl⟩,
    except_bind_ok.mpr ⟨verified, hloop, rfl⟩⟩⟩

theorem verifyParachainHeaders_ok {state' : LightClient}
    (h : verifyParachainHeaders V state proof = .ok (state', verified)) :
    ∃ target l, Finalizes V state proof.finalityProof target l ∧
      (∀ e ∈ proof.parachainHeaders, e.1 ∈ l ++ [state.latestHash] →
        Readable V proof.finalityProof.unknownHeaders e) ∧
      ∀ paraId h, h ∈ verified paraId ↔ ∃ e ∈ proof.parachainHeaders, e.1 ∈ l ++ [state.latestHash] ∧
        Reads V proof.finalityProof.unknownHeaders e paraId h := by
  obtain ⟨⟨state₁, target, finalized, headers⟩, hr, h⟩ := except_bind_ok.mp h
  obtain ⟨verified₁, hloop, h⟩ := except_bind_ok.mp h
  obtain ⟨-, rfl⟩ := Prod.mk.inj (Except.ok.inj h)
  obtain ⟨l, hf, rfl, rfl, rfl⟩ := verifyGrandpaFinalityProof_ok.mp hr
  refine ⟨target, l, hf, (exists_foldlM_ok exists_readHeaders_ok _).mp ⟨_, hloop⟩, fun paraId h => ?_⟩
  have hmem := mem_foldlM_ok (fun (i : UInt32 × Header) v => i.2 ∈ v i.1)
    (fun _ _ _ => mem_readHeaders) hloop (paraId, h)
  simpa using hmem

def AboveTrusted (V : Verifier Header VoterSet) (state : LightClient) (proof : FinalityProof Header) (block : H256) :
    Prop :=
  ∃ target l, Finalizes V state proof target l ∧ block ∈ l

def VerifiesAbove (V : Verifier Header VoterSet) (contents : H256 → Bytes → Option Bytes) (state : LightClient)
    (proof : ParachainHeadersWithFinalityProof Header) : Prop :=
  (∃ text, verifyParachainHeaders V state proof = .error (.error text)) ∨
    ∃ state' verified, verifyParachainHeaders V state proof = .ok (state', verified) ∧
      AllShown V contents (fun relay => relay ∈ proof.finalityProof.unknownHeaders ∧
        AboveTrusted V state proof.finalityProof (V.hash relay)) verified

theorem allShown_iff (htrie : TrieSound V contents) {state' : LightClient}
    (h : verifyParachainHeaders V state proof = .ok (state', verified)) :
    AllShown V contents (fun relay => relay ∈ proof.finalityProof.unknownHeaders ∧
      AboveTrusted V state proof.finalityProof (V.hash relay)) verified ↔ ¬ TrustedRead V contents state proof := by
  obtain ⟨target, l, hf, hreadable, hmem⟩ := verifyParachainHeaders_ok h
  constructor
  · rintro hall ⟨target', l', hf', -, entry, hentry, htrusted, paraId, hpara, relay, x, hrelay, hshown, hnone⟩
    obtain rfl := hf.unique hf'
    rw [← htrusted] at hrelay
    have hfinalized : entry.1 ∈ l ++ [state.latestHash] := by simp [htrusted]
    have hreads := (reads_iff_shown htrie hrelay (hreadable entry hentry hfinalized) hpara).mpr hshown
    obtain ⟨block, ⟨hblock, target', l', hf', hon⟩, hshown'⟩ :=
      hall paraId x ((hmem paraId x).mpr ⟨entry, hentry, hfinalized, hreads⟩)
    obtain rfl := hf.unique hf'
    exact hnone block hblock hon hshown'
  · intro hnot paraId x hx
    obtain ⟨entry, hentry, hfinalized, hreads⟩ := (hmem paraId x).mp hx
    obtain ⟨relay, values, hopens, hpara, hfound⟩ := hreads
    obtain ⟨hrelay, hhash⟩ := header_eq_some hopens.1
    have hshown := (reads_iff_shown htrie hopens.1 (hreadable entry hentry hfinalized) hpara).mp
      ⟨relay, values, hopens, hpara, hfound⟩
    rcases List.mem_append.mp hfinalized with hon | htrusted
    · exact ⟨relay, ⟨hrelay, target, l, hf, hhash ▸ hon⟩, hshown⟩
    · -- read in the trusted block, and by assumption in a block above as well
      have hlatest := List.mem_singleton.mp htrusted
      by_contra hnone
      refine hnot ⟨target, l, hf, hreadable, entry, hentry, hlatest, paraId, hpara, relay, x,
        hlatest ▸ hopens.1, hshown, ?_⟩
      exact fun block hblock hon hshown' => hnone ⟨block, ⟨hblock, target, l, hf, hon⟩, hshown'⟩

end Parachains

def sampleVerifier : Verifier SampleHeader Unit where
  toClient :=
    { headerClient with
      toRuntime :=
        { headerRuntime with
          ed25519Verify := fun _ _ _ => false
          validateCommit := fun commit _ _ =>
            some ⟨!commit.precommits.isEmpty, commit.precommits.length, 0, 0, 0⟩ } }
  digest h := if h.number = 2 then [.consensus grandpaEngineId [1]] else []
  stateRoot := SampleHeader.hash
  codecError _ := "Error"
  decodeConsensusLog _ := some (.scheduledChange ⟨[(sampleKey, 2)], 0⟩)
  decodeHeader encoded :=
    match encoded.drop 30 with
    | [branch, number] => some ⟨branch, number⟩
    | _ => none
  storagePrefix _ _ := []
  twox64 _ := []
  readProofCheck root _ keys := .ok (keys.map fun key => (key, some root.bytes))

def trustedClient : LightClient where
  currentAuthorities := [(sampleKey, 1)]
  currentSetId := 0
  latestHash := SampleHeader.hash ⟨1, 1⟩
  latestHeight := 1
  slotDuration := 6000
  stateMachine := .polkadot 0

def secondBlock (headers : List SampleHeader) : FinalityProof SampleHeader where
  block := SampleHeader.hash ⟨1, 2⟩
  justification := [1, 2]
  unknownHeaders := headers

def firstBlockRead (headers : List SampleHeader) : ParachainHeadersWithFinalityProof SampleHeader where
  finalityProof := secondBlock headers
  parachainHeaders := [(SampleHeader.hash ⟨1, 1⟩, ⟨[], [7]⟩)]
  ordered := List.pairwise_singleton _ _

theorem sampleHeader_hash_injective : Function.Injective SampleHeader.hash := by
  rintro ⟨branch, number⟩ ⟨branch', number'⟩ h
  have hmod : (256 * branch.toNat + number.toNat) % 256 ^ 32 = (256 * branch'.toNat + number'.toNat) % 256 ^ 32 :=
    beBytes_inj.mp (congrArg BytesN.bytes h)
  have hnumber := number.toNat_lt
  have hnumber' := number'.toNat_lt
  have hbranch := branch.toNat_lt
  have hbranch' := branch'.toNat_lt
  rw [Nat.mod_eq_of_lt (by omega), Nat.mod_eq_of_lt (by omega)] at hmod
  obtain ⟨hb, hn⟩ : branch.toNat = branch'.toNat ∧ number.toNat = number'.toNat := by omega
  rw [UInt8.toNat_inj.mp hb, UInt8.toNat_inj.mp hn]

theorem commitsSigned_sample : CommitsSigned sampleVerifier.toRuntime := by
  intro commit voters headers result hresult hvalid
  obtain rfl := Option.some.inj hresult
  intro hnil
  simp [hnil] at hvalid

theorem trieSound_sample : TrieSound sampleVerifier fun root _ => some root.bytes := by
  intro root stateProof keys values key value hread hvalue
  obtain rfl := Except.ok.inj hread
  obtain ⟨l₁, l₂, hlist, -⟩ := List.lookup_eq_some_iff.mp (Option.join_eq_some_iff.mp hvalue)
  have hmem : (key, some value) ∈ keys.map fun key => (key, some root.bytes) := by simp [hlist]
  obtain ⟨_, -, hsame⟩ := List.mem_map.mp hmem
  exact (Prod.mk.inj hsame).2

theorem finality_never_goes_back_sample :
    ∃ state' target finalized headers,
      verifyGrandpaFinalityProof sampleVerifier trustedClient (secondBlock [⟨1, 2⟩]) =
        .ok (state', target, finalized, headers) ∧
      trustedClient.latestHeight ≤ state'.latestHeight ∧ Known sampleVerifier state' := by
  have hok : (verifyGrandpaFinalityProof sampleVerifier trustedClient (secondBlock [⟨1, 2⟩])).isOk = true := by
    decide +kernel
  have hknown : Known sampleVerifier trustedClient := by
    intro h hsame
    rw [sampleHeader_hash_injective hsame]
    rfl
  cases h : verifyGrandpaFinalityProof sampleVerifier trustedClient (secondBlock [⟨1, 2⟩]) with
  | error e =>
    rw [h] at hok
    cases hok
  | ok r =>
    obtain ⟨state', target, finalized, headers⟩ := r
    obtain ⟨-, hheight, hknown', -⟩ := finality_never_goes_back sampleHeader_hash_injective hknown h
    exact ⟨state', target, finalized, headers, rfl, hheight, hknown'⟩

theorem firstBlockRead_ok : ∃ state' verified,
    verifyParachainHeaders sampleVerifier trustedClient (firstBlockRead [⟨1, 1⟩, ⟨1, 2⟩]) = .ok (state', verified) ∧
      (⟨1, 1⟩ : SampleHeader) ∈ verified 7 := by
  have hread : (fun r : LightClient × (UInt32 → List SampleHeader) => (r.2 7).map fun h => (h.branch, h.number)) <$>
      verifyParachainHeaders sampleVerifier trustedClient (firstBlockRead [⟨1, 1⟩, ⟨1, 2⟩]) = .ok [(1, 1)] := by
    decide +kernel
  obtain ⟨⟨state', verified⟩, h, hheaders⟩ := except_map_ok.mp hread
  refine ⟨state', verified, h, ?_⟩
  have hmem : ((1, 1) : UInt8 × UInt8) ∈ (verified 7).map fun h => (h.branch, h.number) := by simp [hheaders]
  obtain ⟨⟨branch, number⟩, hheader, hsame⟩ := List.mem_map.mp hmem
  obtain ⟨rfl, rfl⟩ := Prod.mk.inj hsame
  exact hheader

theorem not_circular_secondBlock : ¬ Circular sampleVerifier.toRuntime [⟨1, 2⟩] := by
  have hstep {x y : H256} (h : parentOf sampleVerifier.toRuntime [⟨1, 2⟩] x = some y) :
      x = SampleHeader.hash ⟨1, 2⟩ ∧ y = SampleHeader.hash ⟨1, 1⟩ := by
    obtain ⟨relay, hrelay, hparent⟩ := Option.map_eq_some_iff.mp h
    obtain ⟨hmem, hhash⟩ := header_eq_some hrelay
    obtain rfl := List.mem_singleton.mp hmem
    exact ⟨hhash.symm, hparent.symm⟩
  rintro ⟨block, hcircle⟩
  obtain ⟨next, hfirst, hrest⟩ := Relation.TransGen.head'_iff.mp hcircle
  obtain ⟨rfl, rfl⟩ := hstep hfirst
  rcases hrest.cases_head with hsame | ⟨_, hsecond, -⟩
  · exact absurd hsame (by decide +kernel)
  · exact absurd (hstep hsecond).1 (by decide +kernel)

end Hyperbridge.Grandpa
