import Hyperbridge.Beefy.BeefyV1

/-!
# BEEFY values and what was signed

The signed block number, the length of the next authority set and a parachain id have 32 bits, the id of the set 64. The
contract carries all of these as 256-bit words, hashes them narrowed, and uses them as they are. `Bound` says that the
values an accepted proof leads to are the signed ones; this is so exactly when the words fit.
-/

namespace Hyperbridge.Beefy

open Lib

structure ScalePayload where
  id : BytesN 2
  data : Bytes
  fits : data.length < 2 ^ 32

/-- A commitment as the relay chain has it. -/
structure ScaleCommitment where
  payload : List ScalePayload
  blockNumber : BitVec 32
  validatorSetId : BitVec 64
  fits : payload.length < 2 ^ 32

def scaleItem (id : BytesN 2) (data : Bytes) : Bytes := id.bytes ++ scaleBytes data

def scaleCommitment (items : List Bytes) (blockNumber validatorSetId : Nat) : Bytes :=
  compact items.length ++ (items.flatten ++ (leBytes 4 blockNumber ++ leBytes 8 validatorSetId))

def ScalePayload.encode (item : ScalePayload) : Bytes := scaleItem item.id item.data

def ScaleCommitment.encode (c : ScaleCommitment) : Bytes :=
  scaleCommitment (c.payload.map ScalePayload.encode) c.blockNumber.toNat c.validatorSetId.toNat

/-- The payload has this mountain range root. -/
def ScaleCommitment.HasRoot (c : ScaleCommitment) (root : H256) : Prop :=
  ∃ item ∈ c.payload, item.id = mmrRootPayloadId ∧ item.data = root.bytes

/-- A leaf as the relay chain has it. -/
structure ScaleLeaf where
  version : UInt8
  parentNumber : BitVec 32
  parentHash : H256
  nextId : BitVec 64
  nextLen : BitVec 32
  nextRoot : H256
  extra : H256

def ScaleLeaf.encode (leaf : ScaleLeaf) : Bytes :=
  leaf.version :: leBytes 4 leaf.parentNumber.toNat ++ leaf.parentHash.bytes ++ leBytes 8 leaf.nextId.toNat
    ++ leBytes 4 leaf.nextLen.toNat ++ leaf.nextRoot.bytes ++ leaf.extra.bytes

def ScaleLeaf.nextAuthoritySet (leaf : ScaleLeaf) : AuthoritySetCommitment :=
  ⟨leaf.nextId.setWidth 256, leaf.nextLen.setWidth 256, leaf.nextRoot⟩

/-- The leaf that is hashed for a leaf of words. -/
def PartialBeefyMmrLeaf.narrow (leaf : PartialBeefyMmrLeaf) : ScaleLeaf where
  version := UInt8.ofNat leaf.version.toNat
  parentNumber := leaf.parentNumber.setWidth 32
  parentHash := leaf.parentHash
  nextId := leaf.nextAuthoritySet.id.setWidth 64
  nextLen := leaf.nextAuthoritySet.len.setWidth 32
  nextRoot := leaf.nextAuthoritySet.root
  extra := leaf.extra

variable {L : Libraries}

theorem encodeLeaf_eq (hscale : L.EncodeScale) (leaf : PartialBeefyMmrLeaf) :
    Codec.encodeLeaf L leaf = leaf.narrow.encode := by
  simp [Codec.encodeLeaf, ScaleLeaf.encode, PartialBeefyMmrLeaf.narrow, hscale.encode32, hscale.encode64]

theorem foldl_accumulate (payload : List Payload) (item : Payload) (init : Bytes) :
    (payload ++ [item]).foldl (Codec.accumulate L) init = item.id.bytes ++ L.encodeBytes item.data := by
  rw [List.foldl_append]
  rfl

section Signed

variable {c : Commitment} {sc : ScaleCommitment}

theorem length_eq_of_encode (hscale : L.EncodeScale) (h : sc.encode = Codec.encodeCommitment L c) :
    sc.payload.length = c.payload.length ∧
      (sc.payload.map ScalePayload.encode).flatten = c.payload.foldl (Codec.accumulate L) [] ∧
      sc.blockNumber = c.blockNumber.setWidth 32 := by
  have hcount : (BitVec.ofNat 256 c.payload.length).toNat = c.payload.length := by
    rw [BitVec.toNat_ofNat, Nat.mod_eq_of_lt c.fits]
  rw [ScaleCommitment.encode, scaleCommitment, List.length_map, Codec.encodeCommitment,
    hscale.encodeUintCompact, hcount,
    hscale.encode32, hscale.encode64, List.append_assoc] at h
  have hfits : sc.payload.length < 2 ^ 256 := sc.fits.trans (by decide)
  obtain ⟨hlen, hrest⟩ := compact_append_inj hfits c.fits h
  obtain ⟨hpayload, htail⟩ := List.append_inj' hrest (by simp)
  obtain ⟨hnumber, -⟩ := List.append_inj htail (by simp)
  refine ⟨hlen, hpayload, ?_⟩
  rw [leBytes_inj] at hnumber
  have hleft := sc.blockNumber.isLt
  have hright := (c.blockNumber.setWidth 32).isLt
  rw [Nat.mod_eq_of_lt (by omega), Nat.mod_eq_of_lt (by omega)] at hnumber
  exact BitVec.eq_of_toNat_eq hnumber

theorem payload_eq_of_encode (hscale : L.EncodeScale) (h : sc.encode = Codec.encodeCommitment L c)
    (hne : c.payload ≠ []) :
    ∃ (item : Payload) (scItem : ScalePayload), c.payload = [item] ∧ sc.payload = [scItem] ∧
      scItem.id = item.id ∧ scItem.data = item.data := by
  obtain ⟨hlen, hpayload, -⟩ := length_eq_of_encode hscale h
  obtain ⟨front, item, hlast⟩ := List.eq_nil_or_concat c.payload |>.resolve_left hne
  rw [List.concat_eq_append] at hlast
  rw [hlast, foldl_accumulate, hscale.encodeBytes] at hpayload
  rw [hlast, List.length_append, List.length_singleton] at hlen
  cases hsc : sc.payload with
  | nil =>
    rw [hsc] at hlen
    simp at hlen
  | cons scItem others =>
    rw [hsc, List.map_cons, List.flatten_cons, ScalePayload.encode, scaleItem, List.append_assoc] at hpayload
    obtain ⟨hid, hdata⟩ := List.append_inj hpayload (by simp)
    rw [← List.append_nil (scaleBytes item.data)] at hdata
    have hfits : scItem.data.length < 2 ^ 256 := scItem.fits.trans (by decide)
    obtain ⟨hsame, hothers⟩ := scaleBytes_append_inj hfits item.fits hdata
    -- every item takes up space, so there are no others
    have hnone : others = [] := by
      cases others with
      | nil => rfl
      | cons other others =>
        have := congrArg List.length hothers
        simp [ScalePayload.encode, scaleItem] at this
    subst hnone
    rw [hsc, List.length_singleton] at hlen
    have hfront : front = [] := List.length_eq_zero_iff.mp (by omega)
    subst hfront
    exact ⟨item, scItem, hlast, rfl, BytesN.bytes_injective hid, hsame⟩

theorem hasRoot_of_encode (hscale : L.EncodeScale)
    (hread : ∀ (b : Bytes) (hb : b.length = 32), L.toBytes32 b = .ok ⟨b, hb⟩)
    (h : sc.encode = Codec.encodeCommitment L c) {root : H256} (hroot : mmrRootOf L c = .ok root)
    (hfound : root ≠ BytesN.zero 32) : sc.HasRoot root := by
  have hne : c.payload ≠ [] := by
    intro hnil
    rw [mmrRootOf, hnil] at hroot
    exact hfound (Except.ok.inj hroot).symm
  obtain ⟨item, scItem, hone, hsc, hid, hdata⟩ := payload_eq_of_encode hscale h hne
  rw [mmrRootOf, hone, List.foldlM_cons, except_bind_ok] at hroot
  obtain ⟨root₁, hread₁, hend⟩ := hroot
  obtain rfl := Except.ok.inj hend
  unfold readRoot at hread₁
  split at hread₁
  · rename_i hitem
    rw [hread _ hitem.2] at hread₁
    obtain rfl := (Except.ok.inj hread₁).symm
    refine ⟨scItem, ?_, hid.trans hitem.1, hdata⟩
    rw [hsc]
    exact List.mem_singleton_self _
  · exact absurd (Except.ok.inj hread₁).symm hfound

end Signed

def MmrSound (L : Libraries) (Under : H256 → H256 → Prop) : Prop :=
  ∀ root proof leaves count, L.verifyMmr root proof leaves count = .ok true → ∀ leaf ∈ leaves, Under root leaf.hash

def Announces (state : BeefyConsensusState) (proof : BeefyConsensusProof) : Prop :=
  state.nextAuthoritySet.id.toNat < proof.relay.latestMmrLeaf.nextAuthoritySet.id.toNat

def Bound (L : Libraries) (Leaf : H256 → Node → Prop) (Under : H256 → H256 → Prop) (sc : ScaleCommitment)
    (state : BeefyConsensusState) (proof : BeefyConsensusProof)
    (out : BeefyConsensusState × IntermediateState) : Prop :=
  out.1.latestHeight = sc.blockNumber.setWidth 256 ∧
    ∃ leaf : ScaleLeaf, (∃ root, sc.HasRoot root ∧ Under root (L.keccak256 leaf.encode)) ∧
      (Announces state proof → out.1.nextAuthoritySet = leaf.nextAuthoritySet) ∧
      ∃ (id : BitVec 32) (index : U256), Leaf leaf.extra ⟨index, headLeaf L id proof.parachain.parachain.header⟩ ∧
        out.2.stateMachineId = id.setWidth 256

/-- The words have the widths they are hashed at. -/
def Fits (state : BeefyConsensusState) (proof : BeefyConsensusProof) : Prop :=
  proof.relay.signedCommitment.commitment.blockNumber.toNat < 2 ^ 32 ∧
    (Announces state proof → proof.relay.latestMmrLeaf.nextAuthoritySet.id.toNat < 2 ^ 64 ∧
      proof.relay.latestMmrLeaf.nextAuthoritySet.len.toNat < 2 ^ 32) ∧
    proof.parachain.parachain.id.toNat < 2 ^ 32

theorem eq_setWidth_iff {w : Nat} (hw : w ≤ 256) {x : U256} : x = (x.setWidth w).setWidth 256 ↔ x.toNat < 2 ^ w := by
  have hpow : 2 ^ w ≤ 2 ^ 256 := Nat.pow_le_pow_right (by omega) hw
  rw [← BitVec.toNat_inj, BitVec.toNat_setWidth, BitVec.toNat_setWidth]
  have hpos : 0 < 2 ^ w := Nat.pow_pos (by omega)
  have hmod := Nat.mod_lt x.toNat hpos
  rw [Nat.mod_eq_of_lt (hmod.trans_le hpow)]
  constructor
  · intro h
    omega
  · intro h
    exact (Nat.mod_eq_of_lt h).symm

theorem toNat_setWidth_lt {w : Nat} (hw : w ≤ 256) (x : BitVec w) : (x.setWidth 256).toNat < 2 ^ w := by
  have hpow : 2 ^ w ≤ 2 ^ 256 := Nat.pow_le_pow_right (by omega) hw
  rw [BitVec.toNat_setWidth, Nat.mod_eq_of_lt (x.isLt.trans_le hpow)]
  exact x.isLt

variable {Leaf : H256 → Node → Prop} {Under : H256 → H256 → Prop} {state : BeefyConsensusState}
  {proof : BeefyConsensusProof} {out : BeefyConsensusState × IntermediateState} {sc : ScaleCommitment}

theorem advance_next {n : AuthoritySetCommitment} (hnext : state.nextAuthoritySet.id.toNat < n.id.toNat)
    (height : U256) : (advance state height n).nextAuthoritySet = n := by
  rw [advance, if_pos hnext]

/-- The values an accepted proof leads to are bound to what was signed exactly when its words fit. -/
theorem bound_iff_fits (hscale : L.EncodeScale)
    (hread : ∀ (b : Bytes) (hb : b.length = 32), L.toBytes32 b = .ok ⟨b, hb⟩)
    (hmulti : MultiProofSound L Leaf) (hmmr : MmrSound L Under) (h : verifyConsensus L state proof = .ok out)
    (hsigned : L.keccak256 sc.encode = commitmentHash L proof.relay.signedCommitment.commitment)
    (hinj : Set.InjOn L.keccak256 {sc.encode, Codec.encodeCommitment L proof.relay.signedCommitment.commitment}) :
    Bound L Leaf Under sc state proof out ↔ Fits state proof := by
  obtain ⟨hrelay, hpara⟩ := verifyConsensus_ok h
  obtain ⟨⟨root, authorities, haccepted⟩, hstate, -⟩ := verifyMmrUpdateProof_ok hrelay
  obtain ⟨hhead, hmachine⟩ := verifyParachainHeaderProof_ok hpara
  have hencode : sc.encode = Codec.encodeCommitment L proof.relay.signedCommitment.commitment :=
    hinj (by simp) (by simp) hsigned
  have hheight : out.1.latestHeight = proof.relay.signedCommitment.commitment.blockNumber := by
    rw [hstate, advance_height]
  have hnext (ha : Announces state proof) :
      out.1.nextAuthoritySet = proof.relay.latestMmrLeaf.nextAuthoritySet := by
    rw [hstate, advance_next ha]
  constructor
  · rintro ⟨hblock, leaf, -, hset, id, index, -, hid⟩
    refine ⟨?_, fun ha => ?_, ?_⟩
    · rw [← hheight, hblock]
      exact toNat_setWidth_lt (by omega) _
    · rw [← hnext ha, hset ha]
      exact ⟨toNat_setWidth_lt (by omega) _, toNat_setWidth_lt (by omega) _⟩
    · rw [← hmachine, hid]
      exact toNat_setWidth_lt (by omega) _
  · rintro ⟨hblock, hset, hid⟩
    obtain ⟨-, -, hnumber⟩ := length_eq_of_encode hscale hencode
    obtain ⟨count, hleaf⟩ := verifyMmrLeaf_ok haccepted.leaf
    refine ⟨?_, proof.relay.latestMmrLeaf.toPartialBeefyMmrLeaf.narrow, ⟨root, ?_, ?_⟩, fun ha => ?_,
      proof.parachain.parachain.id.setWidth 32, proof.parachain.parachain.index, ?_, ?_⟩
    · rw [hheight, hnumber]
      exact (eq_setWidth_iff (by omega)).mpr hblock
    · exact hasRoot_of_encode hscale hread hencode haccepted.root haccepted.rootFound
    · rw [← encodeLeaf_eq hscale]
      exact hmmr _ _ _ _ hleaf _ (List.mem_singleton_self _)
    · obtain ⟨hsetId, hsetLen⟩ := hset ha
      rw [hnext ha, ScaleLeaf.nextAuthoritySet, AuthoritySetCommitment.mk.injEq]
      exact ⟨(eq_setWidth_iff (by omega)).mpr hsetId, (eq_setWidth_iff (by omega)).mpr hsetLen, rfl⟩
    · exact hmulti _ _ _ hhead _ (List.mem_singleton_self _)
    · rw [hmachine]
      exact (eq_setWidth_iff (by omega)).mpr hid

/-- What was signed, of block 10. -/
def sampleCommitment : ScaleCommitment where
  payload := [⟨mmrRootPayloadId, sampleRoot.bytes, by decide⟩]
  blockNumber := 10
  validatorSetId := 2
  fits := by decide

theorem encodeScale_sample : sampleLibraries.EncodeScale :=
  ⟨fun _ => rfl, fun _ => rfl, fun _ => rfl, fun _ => rfl⟩

theorem toBytes32_sample (b : Bytes) (hb : b.length = 32) : sampleLibraries.toBytes32 b = .ok ⟨b, hb⟩ := by
  have htake : b.take 32 = b := List.take_of_length_le hb.le
  simp only [sampleLibraries, htake]
  exact dif_pos hb

theorem mmrSound_sample : MmrSound sampleLibraries fun root leaf => leaf = root := by
  intro root _ leaves count h leaf hleaf
  have hall := Except.ok.inj h
  rw [Bool.and_eq_true] at hall
  exact of_decide_eq_true (List.all_eq_true.mp hall.2 leaf hleaf)

theorem encode_sampleCommitment :
    sampleCommitment.encode = Codec.encodeCommitment sampleLibraries
        (sampleProof 10).relay.signedCommitment.commitment ∧
      sampleCommitment.encode = Codec.encodeCommitment sampleLibraries
        (sampleProof (2 ^ 32 + 10)).relay.signedCommitment.commitment := by
  decide +kernel

theorem bound_iff_fits_sample :
    Bound sampleLibraries (fun root node => (root, node) ∈ sampleLeaves) (fun root leaf => leaf = root)
        sampleCommitment sampleState (sampleProof 10)
        (⟨10, 0, ⟨2, 4, sampleAuthorities⟩, ⟨3, 4, sampleAuthorities⟩⟩, ⟨3367, 1, sampleStateCommitment⟩) ↔
      Fits sampleState (sampleProof 10) := by
  refine bound_iff_fits encodeScale_sample toBytes32_sample multiProofSound_sample mmrSound_sample
    verifyConsensus_sample ?_ ?_
  · rw [encode_sampleCommitment.1]
    rfl
  · rw [encode_sampleCommitment.1]
    simp

/-- The height stored is not the one that was signed. -/
theorem unsigned_height_accepted : ∃ out,
    sampleLibraries.EncodeScale ∧ MultiProofSound sampleLibraries (fun root node => (root, node) ∈ sampleLeaves) ∧
    MmrSound sampleLibraries (fun root leaf => leaf = root) ∧
    verifyConsensus sampleLibraries sampleState (sampleProof (2 ^ 32 + 10)) = .ok out ∧
    sampleLibraries.keccak256 sampleCommitment.encode =
      commitmentHash sampleLibraries (sampleProof (2 ^ 32 + 10)).relay.signedCommitment.commitment ∧
    Set.InjOn sampleLibraries.keccak256 {sampleCommitment.encode, Codec.encodeCommitment sampleLibraries
      (sampleProof (2 ^ 32 + 10)).relay.signedCommitment.commitment} ∧
    ¬ Bound sampleLibraries (fun root node => (root, node) ∈ sampleLeaves) (fun root leaf => leaf = root)
      sampleCommitment sampleState (sampleProof (2 ^ 32 + 10)) out := by
  have haccepted : verifyConsensus sampleLibraries sampleState (sampleProof (2 ^ 32 + 10)) =
      .ok (⟨2 ^ 32 + 10, 0, ⟨2, 4, sampleAuthorities⟩, ⟨3, 4, sampleAuthorities⟩⟩,
        ⟨3367, 1, sampleStateCommitment⟩) := by
    decide +kernel
  refine ⟨_, encodeScale_sample, multiProofSound_sample, mmrSound_sample, haccepted, ?_, ?_, fun hbound => ?_⟩
  · rw [encode_sampleCommitment.2]
    rfl
  · rw [encode_sampleCommitment.2]
    simp
  · have hheight := hbound.1
    revert hheight
    decide

end Hyperbridge.Beefy
