import Hyperbridge.Beefy.Binding

/-!
# Commitments as SCALE

The authorities sign the SCALE encoding of a commitment. `Codec.Encode` builds it item by item, but every turn of its
loop starts anew: of the payload only the last item gets into the encoding, behind the number of all of them. A
commitment to one item, as relay chains sign it, is encoded as it should be. With more items the encoding is that of no
commitment.
-/

namespace Hyperbridge.Beefy

open Lib

def Payload.scale (item : Payload) : Bytes := scaleItem item.id item.data

/-- What the relay chain signs. -/
def Commitment.scale (c : Commitment) : Bytes :=
  scaleCommitment (c.payload.map Payload.scale) c.blockNumber.toNat c.validatorSetId.toNat

/-- The numbers have the widths of the relay chain. -/
structure Commitment.Ranged (c : Commitment) : Prop where
  blockNumber : c.blockNumber.toNat < 2 ^ 32
  validatorSetId : c.validatorSetId.toNat < 2 ^ 64

variable {L : Libraries} {c c' : Commitment}

/-- What of the payload gets into the encoding. -/
def lastScale (payload : List Payload) : Bytes := (payload.getLast?.map Payload.scale).getD []

theorem foldl_accumulate_eq (hscale : L.EncodeScale) (payload : List Payload) :
    payload.foldl (Codec.accumulate L) [] = lastScale payload := by
  induction payload using List.reverseRecOn with
  | nil => rfl
  | append_singleton payload item _ =>
    rw [foldl_accumulate, hscale.encodeBytes, lastScale, List.getLast?_concat]
    rfl

theorem encodeCommitment_eq (hscale : L.EncodeScale) (hc : c.Ranged) :
    Codec.encodeCommitment L c = compact c.payload.length ++ (lastScale c.payload
      ++ (leBytes 4 c.blockNumber.toNat ++ leBytes 8 c.validatorSetId.toNat)) := by
  have hcount : (BitVec.ofNat 256 c.payload.length).toNat = c.payload.length := by
    rw [BitVec.toNat_ofNat, Nat.mod_eq_of_lt c.fits]
  have hnumber : (c.blockNumber.setWidth 32).toNat = c.blockNumber.toNat := by
    rw [BitVec.toNat_setWidth, Nat.mod_eq_of_lt hc.blockNumber]
  have hset : (c.validatorSetId.setWidth 64).toNat = c.validatorSetId.toNat := by
    rw [BitVec.toNat_setWidth, Nat.mod_eq_of_lt hc.validatorSetId]
  rw [Codec.encodeCommitment, foldl_accumulate_eq hscale, hscale.encodeUintCompact, hscale.encode32, hscale.encode64,
    hcount, hnumber, hset, List.append_assoc]

theorem length_scale_pos (item : Payload) : 0 < item.scale.length := by
  simp [Payload.scale, scaleItem]

theorem lastScale_eq_iff (payload : List Payload) :
    lastScale payload = (payload.map Payload.scale).flatten ↔ payload.length ≤ 1 := by
  induction payload using List.reverseRecOn with
  | nil => exact iff_of_true rfl (Nat.zero_le 1)
  | append_singleton payload item _ =>
    have hlast : lastScale (payload ++ [item]) = item.scale := by
      rw [lastScale, List.getLast?_concat]
      rfl
    rw [hlast, List.map_append, List.flatten_append, List.length_append, List.length_singleton]
    constructor
    · intro h
      -- the items before it would take up no space
      have hlength := congrArg List.length h
      cases payload with
      | nil => exact Nat.le_refl 1
      | cons first rest =>
        have hpos := length_scale_pos first
        simp only [List.map_cons, List.map_nil, List.flatten_cons, List.flatten_nil, List.length_append,
          List.length_nil] at hlength
        omega
    · intro h
      obtain rfl : payload = [] := List.length_eq_zero_iff.mp (by omega)
      simp

theorem Payload.scale_injective : Function.Injective Payload.scale := by
  intro a b h
  obtain ⟨ida, dataa, hfitsa⟩ := a
  obtain ⟨idb, datab, hfitsb⟩ := b
  obtain ⟨hid, hdata⟩ := List.append_inj h (by simp)
  rw [← List.append_nil (scaleBytes dataa), ← List.append_nil (scaleBytes datab)] at hdata
  obtain ⟨rfl, -⟩ := scaleBytes_append_inj hfitsa hfitsb hdata
  obtain rfl := BytesN.bytes_injective hid
  rfl

theorem lastScale_inj {payload payload' : List Payload} (hlength : payload.length = payload'.length)
    (h : lastScale payload = lastScale payload') : payload.getLast? = payload'.getLast? := by
  unfold lastScale at h
  cases hlast : payload.getLast? with
  | none =>
    rw [List.getLast?_eq_none_iff] at hlast
    rw [hlast, List.length_nil] at hlength
    rw [List.length_eq_zero_iff.mp hlength.symm, List.getLast?_nil]
  | some item =>
    cases hlast' : payload'.getLast? with
    | none =>
      rw [List.getLast?_eq_none_iff] at hlast'
      rw [hlast', List.length_nil] at hlength
      rw [List.length_eq_zero_iff.mp hlength, List.getLast?_nil] at hlast
      cases hlast
    | some item' =>
      rw [hlast, hlast'] at h
      rw [Payload.scale_injective h]

theorem encodeCommitment_eq_scale_iff (hscale : L.EncodeScale) (hc : c.Ranged) :
    Codec.encodeCommitment L c = c.scale ↔ c.payload.length ≤ 1 := by
  rw [encodeCommitment_eq hscale hc, Commitment.scale, scaleCommitment, List.length_map, List.append_cancel_left_eq,
    List.append_cancel_right_eq, lastScale_eq_iff]

theorem encodeCommitment_inj (hscale : L.EncodeScale) (hc : c.Ranged) (hc' : c'.Ranged) :
    Codec.encodeCommitment L c = Codec.encodeCommitment L c' ↔
      c.payload.length = c'.payload.length ∧ c.payload.getLast? = c'.payload.getLast? ∧
        c.blockNumber = c'.blockNumber ∧ c.validatorSetId = c'.validatorSetId := by
  rw [encodeCommitment_eq hscale hc, encodeCommitment_eq hscale hc']
  constructor
  · intro h
    obtain ⟨hlength, hrest⟩ := compact_append_inj c.fits c'.fits h
    obtain ⟨hlast, hnumbers⟩ := List.append_inj' hrest (by simp)
    obtain ⟨hnumber, hset⟩ := List.append_inj hnumbers (by simp)
    refine ⟨hlength, lastScale_inj hlength hlast, BitVec.eq_of_toNat_eq ?_, BitVec.eq_of_toNat_eq ?_⟩
    · exact leBytes_inj_of_lt hc.blockNumber hc'.blockNumber hnumber
    · exact leBytes_inj_of_lt hc.validatorSetId hc'.validatorSetId hset
  · rintro ⟨hlength, hlast, hnumber, hset⟩
    rw [hlength, lastScale, hlast, hnumber, hset]
    rfl

/-- The encoding is that of SCALE exactly for payloads of at most one item. Two commitments are told apart by the number
of their items, the last item and the two numbers, and by nothing else. -/
theorem commitment_hashes_as_scale_iff (hscale : L.EncodeScale) (hc : c.Ranged) :
    (Codec.encodeCommitment L c = c.scale ↔ c.payload.length ≤ 1) ∧
      ∀ c' : Commitment, c'.Ranged → (Codec.encodeCommitment L c = Codec.encodeCommitment L c' ↔
          c.payload.length = c'.payload.length ∧ c.payload.getLast? = c'.payload.getLast? ∧
            c.blockNumber = c'.blockNumber ∧ c.validatorSetId = c'.validatorSetId) :=
  ⟨encodeCommitment_eq_scale_iff hscale hc, fun _ hc' => encodeCommitment_inj hscale hc hc'⟩

theorem fits_root (root : H256) : root.bytes.length < 2 ^ 256 := by
  rw [root.length_bytes]
  decide

theorem fits_nothing : ([] : Bytes).length < 2 ^ 256 := by decide

theorem fits_two : [1, 2].length < 2 ^ 256 := by decide

/-- A commitment to a root and, behind it, another item. -/
def twoItems (root : H256) : Commitment :=
  ⟨[⟨mmrRootPayloadId, root.bytes, fits_root root⟩, ⟨⟨[97, 98], rfl⟩, [], fits_nothing⟩], 1000, 2, fits_two⟩

theorem twoItems_ranged (root : H256) : (twoItems root).Ranged := ⟨by show 1000 < _; decide, by show 2 < _; decide⟩

theorem two_roots_one_encoding :
    Codec.encodeCommitment sampleLibraries (twoItems sampleRoot) ≠ (twoItems sampleRoot).scale ∧
      twoItems sampleRoot ≠ twoItems (BytesN.zero 32) ∧
      Codec.encodeCommitment sampleLibraries (twoItems sampleRoot) =
        Codec.encodeCommitment sampleLibraries (twoItems (BytesN.zero 32)) := by
  decide +kernel

theorem commitment_hashes_as_scale_iff_sample :
    (twoItems sampleRoot).Ranged ∧
      (Codec.encodeCommitment sampleLibraries (twoItems sampleRoot) = (twoItems sampleRoot).scale ↔
        (twoItems sampleRoot).payload.length ≤ 1) :=
  ⟨twoItems_ranged _, (commitment_hashes_as_scale_iff encodeScale_sample (twoItems_ranged sampleRoot)).1⟩

end Hyperbridge.Beefy
