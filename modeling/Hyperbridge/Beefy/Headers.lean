import Hyperbridge.Beefy.BeefyV1
import Hyperbridge.Lib.Codec

/-!
# Substrate headers on EVM chains

`Codec.DecodeHeader` reads the SCALE encoding of a substrate header. Of a digest item of the kind other only the kind is
read: its data are taken for the items that follow, so whoever writes them can put an ISMP digest of their own there. A
header is read as it was written exactly if items of the kind other are its last ones and have no data.
-/

namespace Hyperbridge.Beefy

open Lib

abbrev DigestData := Bounded UInt8 (2 ^ 32 - 1)

/-- `sp_runtime::generic::DigestItem`. -/
inductive SubstrateDigestItem where
  | other (data : DigestData)
  | consensus (id : BytesN 4) (data : DigestData)
  | sealItem (id : BytesN 4) (data : DigestData)
  | preRuntime (id : BytesN 4) (data : DigestData)
  | runtimeEnvironmentUpdated
  deriving DecidableEq

namespace SubstrateDigestItem

def encode : SubstrateDigestItem → Bytes
  | other data => 0 :: scaleBytes data.1
  | consensus id data => 4 :: (id.bytes ++ scaleBytes data.1)
  | sealItem id data => 5 :: (id.bytes ++ scaleBytes data.1)
  | preRuntime id data => 6 :: (id.bytes ++ scaleBytes data.1)
  | runtimeEnvironmentUpdated => [8]

/-- The digest the contract should read. -/
def toDigest : SubstrateDigestItem → Digest
  | other data => { isOther := true, other := data.1 }
  | consensus id data => { isConsensus := true, consensus := ⟨id, data.1⟩ }
  | sealItem id data => { isSeal := true, sealItem := ⟨id, data.1⟩ }
  | preRuntime id data => { isPreRuntime := true, preruntime := ⟨id, data.1⟩ }
  | runtimeEnvironmentUpdated => { isRuntimeEnvironmentUpdated := true }

def isOther : SubstrateDigestItem → Bool
  | other _ => true
  | _ => false

end SubstrateDigestItem

structure SubstrateHeader where
  parentHash : H256
  number : U256
  stateRoot : H256
  extrinsicsRoot : H256
  digest : Bounded SubstrateDigestItem (2 ^ 32 - 1)

def encodeItems (items : List SubstrateDigestItem) : Bytes := items.flatMap SubstrateDigestItem.encode

namespace SubstrateHeader

def encode (h : SubstrateHeader) : Bytes :=
  h.parentHash.bytes ++ (compact h.number.toNat ++ (h.stateRoot.bytes ++ (h.extrinsicsRoot.bytes ++
    (compact h.digest.1.length ++ encodeItems h.digest.1))))

def toHeader (h : SubstrateHeader) : Header :=
  ⟨h.parentHash, h.number, h.stateRoot, h.extrinsicsRoot, h.digest.1.map SubstrateDigestItem.toDigest⟩

end SubstrateHeader

/-- A slice whose offset is behind `front`. -/
def sliceAt (front rest : Bytes) : ByteSlice := ⟨front ++ rest, .ofNat 256 front.length⟩

def Reads {α : Type} (r : Reader α) (bytes : Bytes) (a : α) : Prop :=
  ∀ front rest, (front ++ (bytes ++ rest)).length < 2 ^ 256 →
    r (sliceAt front (bytes ++ rest)) = .ok (a, sliceAt (front ++ bytes) rest)

namespace Reads

variable {α β : Type} {r : Reader α} {f : α → Reader β} {bytes bytes' front rest : Bytes} {a : α} {b : β}

theorem bind_apply (h : Reads r bytes a) (hlength : (front ++ (bytes ++ rest)).length < 2 ^ 256) :
    (r >>= f) (sliceAt front (bytes ++ rest)) = f a (sliceAt (front ++ bytes) rest) := by
  show (r (sliceAt front (bytes ++ rest)) >>= fun p => f p.1 p.2) = _
  rw [h front rest hlength]
  rfl

theorem pure (a : α) : Reads (Pure.pure a) [] a := by
  intro front rest _
  rw [List.nil_append, List.append_nil]
  rfl

theorem lift_apply {x : Call α} (h : x = .ok a) (s : ByteSlice) : (liftM x >>= f : Reader β) s = f a s := by
  rw [h]
  rfl

theorem lift_bind {x : Call α} (h : x = .ok a) (h' : Reads (f a) bytes b) : Reads (liftM x >>= f) bytes b := by
  intro front rest hlength
  rw [lift_apply h]
  exact h' front rest hlength

theorem bind (h : Reads r bytes a) (h' : Reads (f a) bytes' b) : Reads (r >>= f) (bytes ++ bytes') b := by
  intro front rest hlength
  rw [List.append_assoc] at hlength ⊢
  rw [h.bind_apply hlength, h' (front ++ bytes) rest (by rwa [List.append_assoc]), List.append_assoc]

theorem map (h : Reads r bytes a) (g : α → β) : Reads (r >>= fun a => Pure.pure (g a)) bytes (g a) := by
  have hpure : Reads (Pure.pure (g a)) [] (g a) := Reads.pure _
  have h' := h.bind (f := fun a => Pure.pure (g a)) hpure
  rwa [List.append_nil] at h'

end Reads

/-- The readers of `ScaleCodec` read what SCALE writes. -/
structure Libraries.ReadScale (L : Libraries) : Prop where
  toBytes32 : ∀ b : H256, L.toBytes32 b.bytes = .ok b
  toBytes4 : ∀ b : BytesN 4, L.toBytes4 b.bytes 0 = .ok b
  readByte : ∀ b, Reads L.readByte [b] b
  readBytes : ∀ chunk : Bytes, Reads (L.readBytes (.ofNat 256 chunk.length)) chunk chunk
  decodeUintCompact : ∀ n : U256, Reads L.decodeUintCompact (compact n.toNat) n

variable {L : Libraries}

theorem reads_read (chunk : Bytes) : Reads (Codec.read (.ofNat 256 chunk.length)) chunk chunk := by
  intro front rest hlength
  have hsum : front.length + chunk.length + rest.length < 2 ^ 256 := by
    rw [List.length_append, List.length_append] at hlength
    omega
  have hfront : (BitVec.ofNat 256 front.length).toNat = front.length := Nat.mod_eq_of_lt (by omega)
  have hchunk : (BitVec.ofNat 256 chunk.length).toNat = chunk.length := Nat.mod_eq_of_lt (by omega)
  have hadd : U256.add (.ofNat 256 front.length) (.ofNat 256 chunk.length) =
      .ok (.ofNat 256 (front ++ chunk).length) := by
    rw [U256.add_ok, hfront, hchunk, List.length_append]
    exact Nat.mod_eq_of_lt (by omega)
  have hstop : (BitVec.ofNat 256 (front ++ chunk).length).toNat = front.length + chunk.length := by
    rw [List.length_append]
    exact Nat.mod_eq_of_lt (by omega)
  have hcheck : revertIf ((front ++ (chunk ++ rest)).length < (BitVec.ofNat 256 (front ++ chunk).length).toNat)
      (.require "") = .ok () := by
    rw [revertIf_ok, hstop, List.length_append, List.length_append]
    omega
  unfold Codec.read sliceAt
  dsimp only
  rw [hadd]
  show (revertIf _ _ >>= fun _ => _) = _
  rw [hcheck]
  show (if _ then _ else _) = _
  by_cases hnil : chunk = []
  · rw [hnil, List.nil_append, List.append_nil]
    exact if_pos rfl
  · have hpos : (BitVec.ofNat 256 chunk.length) ≠ 0 := by
      intro hzero
      have hlen := congrArg BitVec.toNat hzero
      rw [hchunk] at hlen
      exact hnil (List.length_eq_zero_iff.mp hlen)
    rw [if_neg hpos, hfront, hchunk, List.drop_left, List.take_left, List.append_assoc]
    rfl

variable {n : Nat}

theorem reads_count (hL : L.ReadScale) (hn : n < 2 ^ 256) : Reads L.decodeUintCompact (compact n) (.ofNat 256 n) := by
  have h := hL.decodeUintCompact (.ofNat 256 n)
  rwa [BitVec.toNat_ofNat, Nat.mod_eq_of_lt hn] at h

theorem reads_decodeDigestItem (hL : L.ReadScale) (id : BytesN 4) (data : DigestData) :
    Reads (Codec.decodeDigestItem L) (id.bytes ++ scaleBytes data.1) ⟨id, data.1⟩ := by
  have hid : Reads (Codec.read 4) id.bytes id.bytes := by
    have h := reads_read id.bytes
    rwa [id.length_bytes] at h
  have hlength := reads_count hL (lt_of_le_of_lt data.2 (by decide))
  refine hid.bind (Reads.lift_bind (hL.toBytes4 id) ?_)
  exact hlength.bind ((hL.readBytes data.1).map (DigestItem.mk id))

variable {item : SubstrateDigestItem}

theorem reads_digest (hL : L.ReadScale) (hitem : item.isOther = false) :
    Reads (L.readByte >>= Codec.decodeDigest L) item.encode item.toDigest := by
  have hkind {kind : UInt8} {bytes : Bytes} {digest : Digest} (h : Reads (Codec.decodeDigest L kind) bytes digest) :
      Reads (L.readByte >>= Codec.decodeDigest L) (kind :: bytes) digest := (hL.readByte kind).bind h
  cases item with
  | other data => cases hitem
  | consensus id data => exact hkind ((reads_decodeDigestItem hL id data).map _)
  | sealItem id data => exact hkind ((reads_decodeDigestItem hL id data).map _)
  | preRuntime id data => exact hkind ((reads_decodeDigestItem hL id data).map _)
  | runtimeEnvironmentUpdated => exact hkind (Reads.pure _)

theorem reads_zero (hL : L.ReadScale) : Reads (L.readByte >>= Codec.decodeDigest L) [0] { isOther := true } := by
  have h : Reads (Codec.decodeDigest L 0) [] { isOther := true } := Reads.pure _
  exact (hL.readByte 0).bind h

variable {front rest bytes : Bytes} {items : List SubstrateDigestItem}

/-- What the loop reads at this offset. -/
def digestsAt (L : Libraries) (n : Nat) (front rest : Bytes) : Call (List Digest) :=
  (Codec.decodeDigests L n (sliceAt front rest)).map Prod.fst

theorem digestsAt_succ {digest d : Digest} {ds : List Digest}
    (h : Reads (L.readByte >>= Codec.decodeDigest L) bytes digest)
    (hlength : (front ++ (bytes ++ rest)).length < 2 ^ 256) :
    digestsAt L (n + 1) front (bytes ++ rest) = .ok (d :: ds) ↔
      d = digest ∧ digestsAt L n (front ++ bytes) rest = .ok ds := by
  have hstep : Codec.decodeDigests L (n + 1) (sliceAt front (bytes ++ rest)) =
      (Codec.decodeDigests L n (sliceAt (front ++ bytes) rest)).map fun p => (digest :: p.1, p.2) := by
    have hassoc : Codec.decodeDigests L (n + 1) = (L.readByte >>= Codec.decodeDigest L) >>= fun digest =>
        Codec.decodeDigests L n >>= fun digests => pure (digest :: digests) := by
      rw [Codec.decodeDigests, bind_assoc]
    rw [hassoc, h.bind_apply hlength]
    show (Codec.decodeDigests L n _ >>= _) = _
    cases Codec.decodeDigests L n (sliceAt (front ++ bytes) rest) <;> rfl
  rw [digestsAt, digestsAt, hstep]
  cases Codec.decodeDigests L n (sliceAt (front ++ bytes) rest) with
  | error e => simp [Except.map]
  | ok p => simp [Except.map, eq_comm]

theorem length_nil_le : ([] : Bytes).length ≤ 2 ^ 32 - 1 := Nat.zero_le _

def emptyOther : SubstrateDigestItem := .other ⟨[], length_nil_le⟩

theorem toDigest_eq_other (h : item.toDigest = { isOther := true }) : item = emptyOther := by
  cases item with
  | other data =>
    have hdata : data.1 = [] := congrArg Digest.other h
    exact congrArg SubstrateDigestItem.other (Subtype.ext hdata)
  | _ => cases congrArg Digest.isOther h

theorem encodeItems_cons (item : SubstrateDigestItem) (items : List SubstrateDigestItem) :
    encodeItems (item :: items) = item.encode ++ encodeItems items := List.flatMap_cons

theorem toDigest_eq_other_iff : item.toDigest = { isOther := true } ↔ item = emptyOther := by
  constructor
  · exact toDigest_eq_other
  · rintro rfl
    rfl

theorem replicate_append_emptyOther (z : Nat) (rest : Bytes) :
    List.replicate z 0 ++ (emptyOther.encode ++ rest) = List.replicate (z + 1 + 1) 0 ++ rest := by
  have hencode : emptyOther.encode = List.replicate 2 0 := rfl
  rw [hencode, ← List.append_assoc, List.replicate_append_replicate]

theorem digestsAt_zeros (hL : L.ReadScale) (z : Nat)
    (hlength : (front ++ (List.replicate (z + 1) 0 ++ encodeItems items)).length < 2 ^ 256) :
    digestsAt L items.length front (List.replicate (z + 1) 0 ++ encodeItems items) =
        .ok (items.map SubstrateDigestItem.toDigest) ↔ ∀ item ∈ items, item = emptyOther := by
  induction items generalizing front z with
  | nil => exact iff_of_true rfl fun _ hmem => absurd hmem List.not_mem_nil
  | cons item items ih =>
    have hsplit : List.replicate (z + 1) 0 ++ encodeItems (item :: items) =
        [0] ++ (List.replicate z 0 ++ (item.encode ++ encodeItems items)) := by
      rw [encodeItems_cons, List.replicate_succ]
      rfl
    rw [hsplit] at hlength ⊢
    rw [List.length_cons, List.map_cons, digestsAt_succ (reads_zero hL) hlength, List.forall_mem_cons,
      toDigest_eq_other_iff]
    refine and_congr_right fun hitem => ?_
    -- the item is two more zeros, and one has been read
    subst hitem
    rw [replicate_append_emptyOther] at hlength ⊢
    exact ih (z + 1) (by rwa [List.append_assoc])

def OthersLast : List SubstrateDigestItem → Prop
  | [] => True
  | item :: items => if item.isOther then ∀ x ∈ item :: items, x = emptyOther else OthersLast items

theorem digestsAt_iff (hL : L.ReadScale) (hlength : (front ++ encodeItems items).length < 2 ^ 256) :
    digestsAt L items.length front (encodeItems items) = .ok (items.map SubstrateDigestItem.toDigest) ↔
      OthersLast items := by
  induction items generalizing front with
  | nil => exact iff_of_true rfl trivial
  | cons item items ih =>
    rw [OthersLast]
    by_cases hother : item.isOther = true
    · rw [if_pos hother, List.forall_mem_cons]
      obtain ⟨data, rfl⟩ : ∃ data, item = .other data := by
        cases item with
        | other data => exact ⟨data, rfl⟩
        | _ => cases hother
      have hsplit : encodeItems (.other data :: items) = [0] ++ (scaleBytes data.1 ++ encodeItems items) := rfl
      rw [hsplit] at hlength ⊢
      rw [List.length_cons, List.map_cons, digestsAt_succ (reads_zero hL) hlength, toDigest_eq_other_iff]
      refine and_congr_right fun hempty => ?_
      obtain rfl := SubstrateDigestItem.other.inj hempty
      exact digestsAt_zeros hL 0 (by rwa [List.append_assoc])
    · rw [if_neg hother]
      rw [encodeItems_cons] at hlength ⊢
      rw [List.length_cons, List.map_cons, digestsAt_succ (reads_digest hL (Bool.eq_false_iff.mpr hother)) hlength,
        and_iff_right rfl]
      exact ih (by rwa [List.append_assoc])

theorem length_compact_le (hn : n < 2 ^ 256) : (compact n).length ≤ 33 := by
  have hlength : byteLength n ≤ 32 := by
    by_cases hzero : n = 0
    · rw [hzero]
      decide
    · have hlog : Nat.log2 n < 256 := (Nat.log2_lt hzero).mpr hn
      unfold byteLength
      omega
  unfold compact
  split_ifs <;> simp only [List.length_append, length_leBytes] <;> omega

theorem SubstrateDigestItem.length_encode_le (item : SubstrateDigestItem) : item.encode.length ≤ 2 ^ 33 := by
  have hbytes (data : DigestData) : (scaleBytes data.1).length ≤ 33 + (2 ^ 32 - 1) := by
    have hcompact := length_compact_le (lt_of_le_of_lt data.2 (by decide))
    have hdata := data.2
    rw [scaleBytes, List.length_append]
    omega
  cases item with
  | other data =>
    have := hbytes data
    rw [encode, List.length_cons]
    omega
  | runtimeEnvironmentUpdated => decide
  | consensus id data | sealItem id data | preRuntime id data =>
    have := hbytes data
    rw [encode, List.length_cons, List.length_append, id.length_bytes]
    omega

theorem length_encodeItems_le (items : List SubstrateDigestItem) :
    (encodeItems items).length ≤ items.length * 2 ^ 33 := by
  induction items with
  | nil => exact Nat.le_refl 0
  | cons item items ih =>
    have hitem := item.length_encode_le
    rw [encodeItems_cons, List.length_append, List.length_cons]
    omega

theorem SubstrateHeader.length_encode_lt (h : SubstrateHeader) : h.encode.length < 2 ^ 256 := by
  have hnumber := length_compact_le h.number.isLt
  have hcount := length_compact_le (lt_of_le_of_lt h.digest.2 (by decide))
  have hitems : (encodeItems h.digest.1).length ≤ (2 ^ 32 - 1) * 2 ^ 33 :=
    (length_encodeItems_le h.digest.1).trans (Nat.mul_le_mul_right _ h.digest.2)
  simp only [encode, List.length_append, BytesN.length_bytes]
  omega

theorem decodeHeader_eq (hL : L.ReadScale) (h : SubstrateHeader) :
    ∃ front, front ++ encodeItems h.digest.1 = h.encode ∧
      Codec.decodeHeader L h.encode = (digestsAt L h.digest.1.length front (encodeItems h.digest.1)).map
        fun digests => ⟨h.parentHash, h.number, h.stateRoot, h.extrinsicsRoot, digests⟩ := by
  have hlength := h.length_encode_lt
  have hhash (b : H256) : Reads (L.readBytes 32) b.bytes b.bytes := by
    have hread := hL.readBytes b.bytes
    rwa [b.length_bytes] at hread
  have hle := h.digest.2
  have hcount : (BitVec.ofNat 256 h.digest.1.length).toNat = h.digest.1.length := Nat.mod_eq_of_lt (by omega)
  have hdigests := reads_count hL (lt_of_le_of_lt h.digest.2 (by decide))
  have hallocate : Codec.allocate (.ofNat 256 h.digest.1.length) = .ok () := by
    rw [Codec.allocate, revertIf_ok, hcount]
    omega
  have hstart : (⟨h.encode, 0⟩ : ByteSlice) = sliceAt [] h.encode := rfl
  refine ⟨[] ++ h.parentHash.bytes ++ compact h.number.toNat ++ h.stateRoot.bytes ++ h.extrinsicsRoot.bytes ++
    compact h.digest.1.length, ?_, ?_⟩
  · simp only [SubstrateHeader.encode, List.append_assoc, List.nil_append]
  · unfold Codec.decodeHeader
    rw [hstart]
    unfold Codec.readHeader StateT.run
    unfold SubstrateHeader.encode at hlength ⊢
    rw [(hhash h.parentHash).bind_apply hlength, Reads.lift_apply (hL.toBytes32 _),
      (hL.decodeUintCompact h.number).bind_apply (by simpa only [List.append_assoc, List.nil_append] using hlength),
      (hhash h.stateRoot).bind_apply (by simpa only [List.append_assoc, List.nil_append] using hlength),
      Reads.lift_apply (hL.toBytes32 _),
      (hhash h.extrinsicsRoot).bind_apply (by simpa only [List.append_assoc, List.nil_append] using hlength),
      Reads.lift_apply (hL.toBytes32 _), hdigests.bind_apply
        (by simpa only [List.append_assoc, List.nil_append] using hlength),
      Reads.lift_apply hallocate, hcount, digestsAt]
    show (Codec.decodeDigests L h.digest.1.length _ >>= _) >>= _ = _
    cases Codec.decodeDigests L h.digest.1.length _ <;> rfl

/-- The two roots are in this digest. -/
def RootsIn (L : Libraries) (digest : Digest) (mmrRoot childTrieRoot : H256) : Prop :=
  (digest.isConsensus = true ∧ digest.consensus.consensusId = HeaderImpl.ismpConsensusId) ∧
    L.toBytes32 (digest.consensus.data.take 32) = .ok mmrRoot ∧
    L.toBytes32 (digest.consensus.data.drop 32) = .ok childTrieRoot

open HeaderImpl in
theorem scan_roots {digest : Digest} {found found' : Found} (h : scan L found digest = .ok found') :
    (found'.mmrRoot = found.mmrRoot ∧ found'.childTrieRoot = found.childTrieRoot) ∨
      RootsIn L digest found'.mmrRoot found'.childTrieRoot := by
  obtain ⟨middle, hismp, haura⟩ := except_bind_ok.mp h
  have hsame : found'.mmrRoot = middle.mmrRoot ∧ found'.childTrieRoot = middle.childTrieRoot := by
    unfold readAura at haura
    split at haura
    · obtain ⟨slot, -, haura⟩ := except_bind_ok.mp haura
      obtain ⟨timestamp, -, haura⟩ := except_bind_ok.mp haura
      rw [← Except.ok.inj haura]
      exact ⟨rfl, rfl⟩
    · rw [Except.ok.inj haura]
      exact ⟨rfl, rfl⟩
  rw [hsame.1, hsame.2]
  unfold readIsmp at hismp
  split at hismp
  · rename_i hid
    obtain ⟨-, hismp⟩ := except_check_ok.mp hismp
    obtain ⟨mmrRoot, hmmr, hismp⟩ := except_bind_ok.mp hismp
    obtain ⟨childTrieRoot, hchild, hismp⟩ := except_bind_ok.mp hismp
    rw [← Except.ok.inj hismp]
    exact Or.inr ⟨hid, hmmr, hchild⟩
  · rw [Except.ok.inj hismp]
    exact Or.inl ⟨rfl, rfl⟩

theorem stateCommitment_roots {header : Header} {state : StateCommitment}
    (h : HeaderImpl.stateCommitment L header = .ok state) :
    ∃ digest ∈ header.digests, RootsIn L digest state.overlayRoot state.stateRoot := by
  obtain ⟨found, hfound, h⟩ := except_bind_ok.mp h
  simp only [except_check_ok, revertIf_ok] at h
  obtain ⟨-, -, hmmr, hstate⟩ := h
  have hread : found.mmrRoot = BytesN.zero 32 ∨
      ∃ digest ∈ header.digests, RootsIn L digest found.mmrRoot found.childTrieRoot := by
    refine except_foldlM_ok (fun found : HeaderImpl.Found => found.mmrRoot = BytesN.zero 32 ∨
      ∃ digest ∈ header.digests, RootsIn L digest found.mmrRoot found.childTrieRoot)
      (fun before digest hdigest after hbefore hscan => ?_) (Or.inl rfl) hfound
    rcases scan_roots hscan with ⟨hsame, hsame'⟩ | hset
    · rwa [hsame, hsame']
    · exact Or.inr ⟨digest, hdigest, hset⟩
  rw [← Except.ok.inj hstate]
  exact hread.resolve_left hmmr

theorem eq_consensus (h : item.toDigest.isConsensus = true) :
    ∃ data, item = .consensus item.toDigest.consensus.consensusId data ∧ item.toDigest.consensus.data = data.1 := by
  cases item with
  | consensus id data => exact ⟨data, rfl, rfl⟩
  | _ => cases h

/-- A header is read as it was written exactly if items of the kind other are its last ones and have no data. The roots
of the state commitment then come from an ISMP item of the header. -/
theorem header_decodes_iff (hL : L.ReadScale) (h : SubstrateHeader) :
    (Codec.decodeHeader L h.encode = .ok h.toHeader ↔ OthersLast h.digest.1) ∧
      (OthersLast h.digest.1 → ∀ header state, Codec.decodeHeader L h.encode = .ok header →
        HeaderImpl.stateCommitment L header = .ok state →
        ∃ data, SubstrateDigestItem.consensus HeaderImpl.ismpConsensusId data ∈ h.digest.1 ∧
          L.toBytes32 (data.1.take 32) = .ok state.overlayRoot ∧
          L.toBytes32 (data.1.drop 32) = .ok state.stateRoot) := by
  have hiff : Codec.decodeHeader L h.encode = .ok h.toHeader ↔ OthersLast h.digest.1 := by
    obtain ⟨front, hfront, heq⟩ := decodeHeader_eq hL h
    have hlength : (front ++ encodeItems h.digest.1).length < 2 ^ 256 := hfront ▸ h.length_encode_lt
    rw [heq, ← digestsAt_iff hL hlength]
    constructor
    · intro hmap
      cases hdigests : digestsAt L h.digest.1.length front (encodeItems h.digest.1) with
      | error e => rw [hdigests] at hmap; cases hmap
      | ok digests =>
        rw [hdigests] at hmap
        exact congrArg Except.ok (congrArg Header.digests (Except.ok.inj hmap))
    · intro hdigests
      rw [hdigests]
      rfl
  refine ⟨hiff, fun hothers header state hheader hstate => ?_⟩
  obtain rfl : h.toHeader = header := Except.ok.inj ((hiff.mpr hothers).symm.trans hheader)
  obtain ⟨digest, hdigest, ⟨hconsensus, hid⟩, hmmr, hchild⟩ := stateCommitment_roots hstate
  obtain ⟨item, hitem, rfl⟩ := List.mem_map.mp hdigest
  obtain ⟨data, hdata, hbytes⟩ := eq_consensus hconsensus
  rw [hid] at hdata
  rw [hbytes] at hmmr hchild
  exact ⟨data, hdata ▸ hitem, hmmr, hchild⟩

theorem readScale_sample : sampleLibraries.ReadScale where
  toBytes32 b := by
    have htake : b.bytes.take 32 = b.bytes := List.take_of_length_le (le_of_eq b.length_bytes)
    exact (dif_pos (htake.symm ▸ b.length_bytes)).trans (congrArg Except.ok (Subtype.ext htake))
  toBytes4 b := by
    have htake : (b.bytes.drop (0 : U256).toNat).take 4 = b.bytes :=
      List.take_of_length_le (le_of_eq b.length_bytes)
    exact (dif_pos (htake.symm ▸ b.length_bytes)).trans (congrArg Except.ok (Subtype.ext htake))
  readByte b := (reads_read [b]).bind (Reads.pure b)
  readBytes := reads_read
  decodeUintCompact n := by
    intro front rest hlength
    have hfront : (BitVec.ofNat 256 front.length).toNat = front.length := by
      rw [List.length_append] at hlength
      exact Nat.mod_eq_of_lt (by omega)
    have hrest : (front ++ (compact n.toNat ++ rest)).drop (BitVec.ofNat 256 front.length).toNat =
        compact n.toNat ++ rest := by
      rw [hfront, List.drop_left]
    have hoffset : (front ++ (compact n.toNat ++ rest)).length - rest.length = (front ++ compact n.toNat).length := by
      simp only [List.length_append]
      omega
    dsimp only [sampleLibraries, sliceAt]
    rw [hrest, uncompact_compact n.isLt]
    dsimp only
    rw [hoffset, BitVec.ofNat_toNat, BitVec.setWidth_eq, List.append_assoc]

def sampleSlot : DigestData := ⟨leBytes 8 7, Nat.le_of_ble_eq_true rfl⟩

def sampleRoots (mmr child : UInt8) : DigestData :=
  ⟨List.replicate 32 mmr ++ List.replicate 32 child, Nat.le_of_ble_eq_true rfl⟩

def forgedBytes : Bytes :=
  [0, 0, 0, 0] ++ (4 :: HeaderImpl.ismpConsensusId.bytes) ++ scaleBytes (sampleRoots 0xaa 0xbb).1 ++ List.replicate 54 0

theorem length_forgedBytes : forgedBytes.length ≤ 2 ^ 32 - 1 := by
  decide +kernel

def forgedItems : DigestData := ⟨forgedBytes, length_forgedBytes⟩

/-- A header with these items behind its slot. -/
def slotHeader (first second : SubstrateDigestItem) : SubstrateHeader where
  parentHash := BytesN.zero 32
  number := 1
  stateRoot := BytesN.zero 32
  extrinsicsRoot := BytesN.zero 32
  digest := ⟨[.preRuntime HeaderImpl.auraConsensusId sampleSlot, first, second,
    .sealItem HeaderImpl.auraConsensusId sampleSlot], Nat.le_of_ble_eq_true rfl⟩

theorem header_decodes_iff_sample :
    sampleLibraries.ReadScale ∧
      Codec.decodeHeader sampleLibraries (slotHeader (.consensus HeaderImpl.ismpConsensusId (sampleRoots 1 2))
        .runtimeEnvironmentUpdated).encode = .ok (slotHeader (.consensus HeaderImpl.ismpConsensusId (sampleRoots 1 2))
          .runtimeEnvironmentUpdated).toHeader :=
  ⟨readScale_sample, (header_decodes_iff readScale_sample _).1.mpr trivial⟩

/-- A header has the roots 1 and 2 in its ISMP digest and an item of the kind other in front of it; it is taken to have
the roots in the latter's data. -/
theorem other_data_read_as_roots :
    sampleLibraries.ReadScale ∧
      HeaderImpl.stateCommitment sampleLibraries
        (slotHeader (.other forgedItems) (.consensus HeaderImpl.ismpConsensusId (sampleRoots 1 2))).toHeader =
        .ok ⟨84000, ⟨List.replicate 32 1, rfl⟩, ⟨List.replicate 32 2, rfl⟩⟩ ∧
      (Codec.decodeHeader sampleLibraries
          (slotHeader (.other forgedItems) (.consensus HeaderImpl.ismpConsensusId (sampleRoots 1 2))).encode >>=
        HeaderImpl.stateCommitment sampleLibraries) =
        .ok ⟨84000, ⟨List.replicate 32 0xaa, rfl⟩, ⟨List.replicate 32 0xbb, rfl⟩⟩ := by
  refine ⟨readScale_sample, ?_, ?_⟩
  · decide +kernel
  · decide +kernel

end Hyperbridge.Beefy
