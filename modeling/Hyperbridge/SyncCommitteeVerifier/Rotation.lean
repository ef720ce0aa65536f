import Hyperbridge.SyncCommitteeVerifier.Soundness
import Mathlib.Logic.Relation

/-!
# Rotation of the committees

The state of a block commits to the sync committee of the period after its own. The verifier takes a committee from the
state of the attested header but moves on when the signature is of the next period. When the last blocks of a period are
signed in the next one, it stores the current committee as the next one, and has lost track of the chain.
-/

namespace Hyperbridge.SyncCommitteeVerifier

open Lib Relation

section Chain

variable {G1 G2 GT : Type} [AddCommGroup G1] [DecidableEq GT] {B : Bls G1 G2 GT} {Z : Ssz} {C : Config}

/-- A branch shows the committee in the state. -/
def Commits (Z : Ssz) (stateRoot : Root) (c : SyncCommittee) : Prop :=
  ∃ root branch, Z.syncCommitteeRoot c = some root ∧
    Z.isValidMerkleBranch root branch nextSyncCommitteeIndexLog2 nextSyncCommitteeIndex stateRoot = true

structure BeaconChain (Z : Ssz) (C : Config) where
  committee : Nat → SyncCommittee
  includes : BeaconBlockHeader → Prop
  commits_iff : ∀ h, includes h → ∀ c, Commits Z h.stateRoot c ↔ c = committee (period C h.slot + 1)

structure FromChain (B : Bls G1 G2 GT) (K : BeaconChain Z C) (u : VerifierStateUpdate) : Prop where
  attested : K.includes u.attestedHeader
  finalized : K.includes u.finalizedHeader
  signed : ∃ root, signingRoot Z C u.attestedHeader u.signatureSlot = .ok root ∧
    SignedAt B (K.committee (period C u.signatureSlot)) u.syncAggregate root.bytes

def Tracks (K : BeaconChain Z C) (s : VerifierState) : Prop :=
  s.currentSyncCommittee = K.committee s.statePeriod.toNat ∧
    s.nextSyncCommittee = K.committee (s.statePeriod.toNat + 1)

/-- An update of the chain is accepted. -/
def Accepts (B : Bls G1 G2 GT) (K : BeaconChain Z C) (u : VerifierStateUpdate) (s t : VerifierState) : Prop :=
  FromChain B K u ∧ verifySyncCommitteeAttestation B Z C s u = .ok t

def Reaches (B : Bls G1 G2 GT) (K : BeaconChain Z C) : VerifierState → VerifierState → Prop :=
  ReflTransGen fun s t => ∃ u, Accepts B K u s t

/-- Both headers are followed by the same committee. -/
def KeepsPace (K : BeaconChain Z C) (u : VerifierStateUpdate) : Prop :=
  K.committee (period C u.attestedHeader.slot + 1) = K.committee (period C u.signatureSlot + 1)

variable {K : BeaconChain Z C} {s t trusted : VerifierState} {u : VerifierStateUpdate}

theorem checkNextSyncCommittee_ok {committeeUpdate : SyncCommitteeUpdate} (hincludes : K.includes u.attestedHeader)
    (hupdate : u.syncCommitteeUpdate = some committeeUpdate) (h : checkNextSyncCommittee Z u = .ok ()) :
    committeeUpdate.nextSyncCommittee = K.committee (period C u.attestedHeader.slot + 1) := by
  unfold checkNextSyncCommittee at h
  rw [hupdate] at h
  obtain ⟨root, hroot, h⟩ := except_bind_ok.mp h
  rw [errIf_ok, Bool.not_eq_false] at h
  apply (K.commits_iff _ hincludes _).mp
  exact ⟨root, _, okOr_eq_ok.mp hroot, h⟩

theorem tracks_step_iff (hs : Tracks K s) (h : Accepts B K u s t) :
    Tracks K t ↔ (period C u.signatureSlot = s.statePeriod.toNat + 1 → KeepsPace K u) := by
  obtain ⟨hfrom, hok⟩ := h
  obtain ⟨hupdate, -, -, -, hcommittee, hstate⟩ := verifySyncCommitteeAttestation_ok.mp hok
  rcases (nextState_ok (checkUpdate_ok hupdate) hstate).committees with
    ⟨hsame, hperiod, hcurrent, hnext⟩ | ⟨hmoved, hperiod, hcurrent, committeeUpdate, hsome, hnext⟩
  · unfold Tracks
    rw [hperiod, hcurrent, hnext]
    exact iff_of_true hs (by omega)
  · have hchain := checkNextSyncCommittee_ok hfrom.attested hsome hcommittee
    unfold Tracks KeepsPace
    rw [hperiod, hcurrent, hnext, hchain, hmoved]
    exact ⟨fun h _ => h.2, fun h => ⟨hs.2, h rfl⟩⟩

theorem tracks_of_reaches (htrusted : Tracks K trusted)
    (h : ∀ s u t, Reaches B K trusted s → Accepts B K u s t → period C u.signatureSlot = s.statePeriod.toNat + 1 →
      KeepsPace K u) (hs : Reaches B K trusted s) : Tracks K s := by
  -- the induction is on the run, with the condition taken at its last update
  induction hs with
  | refl => exact htrusted
  | tail hrun hlast ih =>
    obtain ⟨u, hu⟩ := hlast
    exact (tracks_step_iff ih hu).mpr (h _ u _ hrun hu)

/-- From a state in step with the chain the verifier stays in step with it over all runs exactly when every update that
moves it on keeps pace. -/
theorem committees_tracked_iff (htrusted : Tracks K trusted) :
    (∀ s, Reaches B K trusted s → Tracks K s) ↔
      ∀ s u t, Reaches B K trusted s → Accepts B K u s t → period C u.signatureSlot = s.statePeriod.toNat + 1 →
        KeepsPace K u := by
  constructor
  · intro h s u t hs hu
    exact (tracks_step_iff (h s hs) hu).mp (h t (hs.tail ⟨u, hu⟩))
  · intro h s hs
    exact tracks_of_reaches htrusted h hs

end Chain

theorem sampleSsz_syncCommitteeRoot (c : SyncCommittee) {root : Root} :
    sampleSsz.syncCommitteeRoot c = some root ↔ c = sampleCommittee 1 ∧ BytesN.ofNat 32 1 = root := by
  simp only [sampleSsz, Option.ite_none_right_eq_some, Option.some.injEq]

theorem commits_sampleSsz {stateRoot : Nat} (hroot : stateRoot = 81 ∨ stateRoot = 80) (c : SyncCommittee) :
    Commits sampleSsz (BytesN.ofNat 32 stateRoot) c ↔ c = sampleCommittee 1 := by
  constructor
  · rintro ⟨root, branch, hsome, -⟩
    exact ((sampleSsz_syncCommitteeRoot c).mp hsome).1
  · intro hc
    refine ⟨BytesN.ofNat 32 1, List.replicate 5 (BytesN.zero 32), (sampleSsz_syncCommitteeRoot c).mpr ⟨hc, rfl⟩, ?_⟩
    rcases hroot with rfl | rfl
    · decide +kernel
    · decide +kernel

theorem sampleChain_commits (h : BeaconBlockHeader)
    (hincludes : h = sampleUpdate.attestedHeader ∨ h = sampleUpdate.finalizedHeader) (c : SyncCommittee) :
    Commits sampleSsz h.stateRoot c ↔ c = sampleCommittee (period mainnet h.slot + 1) := by
  rcases hincludes with rfl | rfl
  · exact commits_sampleSsz (Or.inl rfl) c
  · exact commits_sampleSsz (Or.inr rfl) c

/-- Two headers, at the end of a period. -/
def sampleChain : BeaconChain sampleSsz mainnet where
  committee := sampleCommittee
  includes h := h = sampleUpdate.attestedHeader ∨ h = sampleUpdate.finalizedHeader
  commits_iff := sampleChain_commits

theorem sampleTrusted_tracks : Tracks sampleChain sampleTrusted := ⟨rfl, rfl⟩

theorem sampleUpdate_signed :
    SignedAt sampleBls (sampleCommittee 1) sampleUpdate.syncAggregate sampleSigningRoot.bytes := by
  have haggregate : IsAggregate sampleBls (sampleCommittee 1) := sampleCommittee_isAggregate (by decide)
  obtain ⟨root, hroot, hsigned⟩ := (checkSignature_ok haggregate).mp sampleUpdate_checkSignature
  obtain rfl := Except.ok.inj hroot
  exact hsigned

theorem sampleUpdate_accepts : Accepts sampleBls sampleChain sampleUpdate sampleTrusted sampleNext :=
  ⟨⟨Or.inl rfl, Or.inr rfl, _, rfl, sampleUpdate_signed⟩, sampleUpdate_accepted⟩

theorem sampleCommittee_ne : sampleCommittee 1 ≠ sampleCommittee 2 := by
  intro h
  have haggregate := congrArg SyncCommittee.aggregatePublicKey h
  revert haggregate
  decide +kernel

theorem committees_tracked_iff_sample :
    ¬ ∀ s u t, Reaches sampleBls sampleChain sampleTrusted s → Accepts sampleBls sampleChain u s t →
      period mainnet u.signatureSlot = s.statePeriod.toNat + 1 → KeepsPace sampleChain u := by
  intro h
  have htracks := (committees_tracked_iff sampleTrusted_tracks).mpr h sampleNext
    (ReflTransGen.single ⟨sampleUpdate, sampleUpdate_accepts⟩)
  exact sampleCommittee_ne htracks.2

/-- The last header of a period, signed in the next one, makes the verifier store the committee of that period as the
one after it. -/
theorem committee_repeated :
    Tracks sampleChain sampleTrusted ∧ Accepts sampleBls sampleChain sampleUpdate sampleTrusted sampleNext ∧
      period mainnet sampleUpdate.attestedHeader.slot = 0 ∧ period mainnet sampleUpdate.signatureSlot = 1 ∧
      sampleNext.statePeriod = 1 ∧ sampleNext.nextSyncCommittee = sampleChain.committee 1 ∧
      ¬ Tracks sampleChain sampleNext :=
  ⟨sampleTrusted_tracks, sampleUpdate_accepts, by decide, by decide, rfl, rfl, fun h => sampleCommittee_ne h.2⟩

end Hyperbridge.SyncCommitteeVerifier
