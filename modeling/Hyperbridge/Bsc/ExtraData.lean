import Hyperbridge.Bsc.Verifier
import Hyperbridge.Lib.Rlp

/-!
# The layout of extra data

The extra data of a BSC header are 32 bytes of vanity and 65 bytes of seal, with the validators of an epoch header and
an attestation in between; from the Bohr fork on a turn length follows the validators. `parse_extra` tells the parts
apart by the first byte: `f8` is an attestation, anything else a number of validators. So 248 validators are not read as
such, nor is a longer attestation. A missing turn length makes the parser slice past the end.
-/

namespace Hyperbridge.Bsc

open Lib

def ValidatorInfo.bytes (v : ValidatorInfo) : Bytes := v.address.bytes ++ v.blsPublicKey.bytes

/-- The validators as they are written. -/
def entries (validators : List ValidatorInfo) : Bytes := validators.flatMap ValidatorInfo.bytes

variable {C : Config} {header : CodecHeader} {validators : List ValidatorInfo} {tail : Bytes}

theorem ValidatorInfo.length_bytes (v : ValidatorInfo) : v.bytes.length = 68 := by
  simp [ValidatorInfo.bytes]

theorem length_entries (validators : List ValidatorInfo) : (entries validators).length = validators.length * 68 := by
  induction validators with
  | nil => rfl
  | cons v validators ih =>
    rw [entries, List.flatMap_cons, List.length_append, v.length_bytes, List.length_cons]
    rw [entries] at ih
    omega

theorem arrayAt_append {n : Nat} (front : Bytes) (b : BytesN n) (tail : Bytes) :
    arrayAt (front ++ (b.bytes ++ tail)) front.length n = .ok b := by
  have hbytes : ((front ++ (b.bytes ++ tail)).drop front.length).take n = b.bytes := by
    rw [List.drop_left, List.take_left' b.length_bytes]
  unfold arrayAt
  rw [dif_pos (by rw [hbytes, b.length_bytes])]
  exact congrArg Except.ok (Subtype.ext hbytes)

theorem validatorAt_entries (before : List ValidatorInfo) (v : ValidatorInfo) (tail : Bytes) :
    validatorAt (entries before ++ (v.bytes ++ tail)) before.length = .ok v := by
  have haddress : arrayAt (entries before ++ (v.bytes ++ tail)) (before.length * 68) 20 = .ok v.address := by
    rw [← length_entries, ValidatorInfo.bytes, List.append_assoc]
    exact arrayAt_append _ _ _
  have hkey : arrayAt (entries before ++ (v.bytes ++ tail)) (before.length * 68 + 20) 48 = .ok v.blsPublicKey := by
    have h := arrayAt_append (entries before ++ v.address.bytes) v.blsPublicKey tail
    rw [List.length_append, length_entries, BytesN.length_bytes] at h
    rw [← h, ValidatorInfo.bytes]
    simp only [List.append_assoc]
  rw [validatorAt, haddress]
  show (arrayAt _ _ 48 >>= _) = _
  rw [hkey]
  rfl

theorem entries_append (before after : List ValidatorInfo) :
    entries (before ++ after) = entries before ++ entries after := List.flatMap_append

theorem mapM_validatorAt (validators : List ValidatorInfo) (tail : Bytes) :
    (List.range validators.length).mapM (validatorAt (entries validators ++ tail)) = .ok validators := by
  induction validators using List.reverseRecOn generalizing tail with
  | nil => rfl
  | append_singleton before v ih =>
    have hsplit : entries (before ++ [v]) ++ tail = entries before ++ (v.bytes ++ tail) := by
      rw [entries_append, List.append_assoc]
      simp [entries]
    rw [hsplit, List.length_append, List.length_singleton, List.range_succ, List.mapM_append, ih,
      List.mapM_cons, validatorAt_entries]
    rfl

theorem exists_entries (n : Nat) {data : Bytes} (h : n * 68 ≤ data.length) :
    ∃ validators tail, validators.length = n ∧ data = entries validators ++ tail := by
  induction n generalizing data with
  | zero => exact ⟨[], data, rfl, rfl⟩
  | succ n ih =>
    have hdrop : n * 68 ≤ (data.drop 68).length := by
      rw [List.length_drop]
      omega
    obtain ⟨validators, tail, hlength, hdata⟩ := ih hdrop
    have haddress : (data.take 20).length = 20 := by
      rw [List.length_take]
      omega
    have hkey : ((data.drop 20).take 48).length = 48 := by
      rw [List.length_take, List.length_drop]
      omega
    refine ⟨⟨⟨_, haddress⟩, ⟨_, hkey⟩⟩ :: validators, tail, congrArg (· + 1) hlength, ?_⟩
    show data = (data.take 20 ++ (data.drop 20).take 48 ++ entries validators) ++ tail
    rw [List.append_assoc, ← hdata, List.append_assoc, ← List.drop_drop (i := 48) (j := 20), List.take_append_drop,
      List.take_append_drop]

def afterValidators (C : Config) (header : CodecHeader) (tail : Bytes) : Except Fault Bytes :=
  if C.bohrForkTimestamp ≤ header.timestamp then sliceFrom tail 1 else .ok tail

def sortByAddress (validators : List ValidatorInfo) : List ValidatorInfo :=
  validators.mergeSort fun a b => decide (a.address.bytes ≤ b.address.bytes)

theorem parseValidators_entries (count : UInt8) (hcount : validators.length = count.toNat) :
    parseValidators C header (count :: (entries validators ++ tail)) count =
      (fun rest => (sortByAddress validators, rest)) <$> afterValidators C header tail := by
  have hlong : ¬ (count :: (entries validators ++ tail)).length < 1 + count.toNat * 68 := by
    rw [List.length_cons, List.length_append, length_entries, hcount]
    omega
  have hslice (k : Nat) : sliceFrom (entries validators ++ tail) (count.toNat * 68 + k) = sliceFrom tail k := by
    rw [← hcount, ← length_entries]
    simp [sliceFrom, List.drop_append, List.drop_of_length_le]
  have hall : sliceFrom tail 0 = .ok tail := if_pos (Nat.zero_le _)
  have hrest : sliceFrom (entries validators ++ tail)
      (if C.bohrForkTimestamp ≤ header.timestamp then count.toNat * 68 + 1 else count.toNat * 68) =
      afterValidators C header tail := by
    unfold afterValidators
    split
    · exact hslice 1
    · exact (hslice 0).trans hall
  rw [parseValidators, if_neg hlong, List.drop_one, List.tail_cons]
  dsimp only
  rw [hrest, ← hcount, mapM_validatorAt]
  cases afterValidators C header tail <;> rfl

theorem parseValidators_short (count : UInt8) {data : Bytes} (h : data.length < count.toNat * 68) :
    parseValidators C header (count :: data) count = .error (.error "Parse validator failed") := by
  rw [parseValidators, if_pos]
  rw [List.length_cons]
  omega

variable (C header) in
/-- What stands between vanity and seal. -/
def parseMiddle (middle : Bytes) (extra : ExtraData) : Except Fault ExtraData :=
  match middle with
  | [] => .ok extra
  | first :: _ =>
    if first = 0xf8 then parseAttestation C middle extra
    else do
      let (validators, rest) ← parseValidators C header middle first
      parseAttestation C rest { extra with validatorSize := first, validators := validators }

theorem parseExtra_eq (vanity : BytesN 32) (middle : Bytes) (sealBytes : BytesN 65)
    (h : header.extraData = vanity.bytes ++ (middle ++ sealBytes.bytes)) :
    parseExtra C header = parseMiddle C header middle { extraVanity := vanity.bytes, extraSeal :=
      sealBytes.bytes } := by
  have hlength : header.extraData.length = 32 + middle.length + 65 := by
    rw [h, List.length_append, List.length_append, BytesN.length_bytes, BytesN.length_bytes]
    omega
  have hvanity : header.extraData.take 32 = vanity.bytes := by rw [h, List.take_left' vanity.length_bytes]
  have hfront : header.extraData = (vanity.bytes ++ middle) ++ sealBytes.bytes := by rw [h, List.append_assoc]
  have hplace : (vanity.bytes ++ middle).length = header.extraData.length - 65 := by
    rw [List.length_append, BytesN.length_bytes, hlength]
    omega
  have hseal : header.extraData.drop (header.extraData.length - 65) = sealBytes.bytes := by
    rw [← hplace, hfront, List.drop_left]
  have hmiddle : (header.extraData.take (header.extraData.length - 65)).drop 32 = middle := by
    rw [← hplace, hfront, List.take_left, List.drop_left' vanity.length_bytes]
  unfold parseExtra
  dsimp only
  rw [if_neg (by omega), hvanity, hseal, hmiddle]
  cases middle <;> rfl

theorem parseExtra_short (h : header.extraData.length < 97) :
    parseExtra C header = .error (.error "Invalid extra data") := if_pos h

theorem exists_parts (h : 97 ≤ header.extraData.length) :
    ∃ (vanity : BytesN 32) (middle : Bytes) (sealBytes : BytesN 65),
      header.extraData = vanity.bytes ++ (middle ++ sealBytes.bytes) := by
  have hvanity : (header.extraData.take 32).length = 32 := by
    rw [List.length_take]
    omega
  have hseal : (header.extraData.drop (header.extraData.length - 65)).length = 65 := by
    rw [List.length_drop]
    omega
  refine ⟨⟨_, hvanity⟩, (header.extraData.drop 32).take (header.extraData.length - 97), ⟨_, hseal⟩, ?_⟩
  show header.extraData = header.extraData.take 32 ++ ((header.extraData.drop 32).take (header.extraData.length - 97) ++
    header.extraData.drop (header.extraData.length - 65))
  rw [show header.extraData.length - 65 = 32 + (header.extraData.length - 97) by omega, ← List.drop_drop,
    List.take_append_drop, List.take_append_drop]

def TurnMissing (C : Config) (header : CodecHeader) : Prop :=
  C.bohrForkTimestamp ≤ header.timestamp ∧
    ∃ (vanity : BytesN 32) (count : UInt8) (validators : List ValidatorInfo) (sealBytes : BytesN 65),
      count ≠ 0xf8 ∧ validators.length = count.toNat ∧
        header.extraData = vanity.bytes ++ (count :: entries validators ++ sealBytes.bytes)

def Panicked {α : Type} (x : Except Fault α) : Prop := ∃ text, x = .error (.panic text)

theorem not_panicked_parseAttestation (data : Bytes) (extra : ExtraData) :
    ¬ Panicked (parseAttestation C data extra) := by
  rintro ⟨text, h⟩
  unfold parseAttestation at h
  split at h
  · cases h
  · cases hdecode : C.decodeAttestation data with
    | none =>
      rw [hdecode] at h
      cases h
    | some attestation =>
      rw [hdecode] at h
      cases h

theorem panicked_parseMiddle_entries {count : UInt8} (hcount : validators.length = count.toNat) (hmark : count ≠ 0xf8)
    (extra : ExtraData) :
    Panicked (parseMiddle C header (count :: (entries validators ++ tail)) extra) ↔
      C.bohrForkTimestamp ≤ header.timestamp ∧ tail = [] := by
  rw [parseMiddle, if_neg hmark, parseValidators_entries count hcount, afterValidators]
  by_cases hbohr : C.bohrForkTimestamp ≤ header.timestamp
  · rw [if_pos hbohr]
    cases tail with
    | nil => exact iff_of_true ⟨_, rfl⟩ ⟨hbohr, rfl⟩
    | cons turn rest => exact iff_of_false (not_panicked_parseAttestation rest _) (by simp)
  · rw [if_neg hbohr]
    exact iff_of_false (not_panicked_parseAttestation tail _) fun h => hbohr h.1

theorem parseExtra_panics_iff : Panicked (parseExtra C header) ↔ TurnMissing C header := by
  constructor
  · intro hpanic
    have hlong : 97 ≤ header.extraData.length := by
      by_contra hshort
      rw [parseExtra_short (by omega)] at hpanic
      obtain ⟨text, h⟩ := hpanic
      cases h
    obtain ⟨vanity, middle, sealBytes, hparts⟩ := exists_parts hlong
    rw [parseExtra_eq vanity middle sealBytes hparts] at hpanic
    cases middle with
    | nil =>
      obtain ⟨text, h⟩ := hpanic
      cases h
    | cons count data =>
      by_cases hmark : count = 0xf8
      · rw [parseMiddle, if_pos hmark] at hpanic
        exact absurd hpanic (not_panicked_parseAttestation _ _)
      · by_cases henough : count.toNat * 68 ≤ data.length
        · obtain ⟨validators, tail, hcount, rfl⟩ := exists_entries count.toNat henough
          obtain ⟨hbohr, rfl⟩ := (panicked_parseMiddle_entries hcount hmark _).mp hpanic
          rw [List.append_nil] at hparts
          exact ⟨hbohr, vanity, count, validators, sealBytes, hmark, hcount, hparts⟩
        · rw [parseMiddle, if_neg hmark, parseValidators_short count (by omega)] at hpanic
          obtain ⟨text, h⟩ := hpanic
          cases h
  · rintro ⟨hbohr, vanity, count, validators, sealBytes, hmark, hcount, hdata⟩
    have hparts : header.extraData = vanity.bytes ++ ((count :: (entries validators ++ [])) ++ sealBytes.bytes) := by
      rw [hdata, List.append_nil]
    rw [parseExtra_eq vanity _ sealBytes hparts]
    exact (panicked_parseMiddle_entries hcount hmark _).mpr ⟨hbohr, rfl⟩

structure Layout where
  vanity : BytesN 32
  validators : Option (List ValidatorInfo)
  turnLength : UInt8
  attestation : Option VoteAttestationData
  sealBytes : BytesN 65
  counted : ∀ vs, validators = some vs → vs.length < 256
  addressable : ∀ a, attestation = some a → a.encode.length < 2 ^ 64

def Layout.validatorBytes (l : Layout) (bohr : Bool) : Bytes :=
  match l.validators with
  | some vs => UInt8.ofNat vs.length :: (entries vs ++ if bohr then [l.turnLength] else [])
  | none => []

def Layout.attestationBytes (l : Layout) : Bytes :=
  match l.attestation with
  | some a => a.encode
  | none => []

def Layout.encode (l : Layout) (bohr : Bool) : Bytes :=
  l.vanity.bytes ++ ((l.validatorBytes bohr ++ l.attestationBytes) ++ l.sealBytes.bytes)

def ExtraData.attested (extra : ExtraData) : Option VoteAttestationData → ExtraData
  | some a => { extra with aggSignature := a.aggSignature, voteData := a.data, voteAddressSet := a.voteAddressSet }
  | none => extra

structure Layout.ReadAs (l : Layout) (extra : ExtraData) : Prop where
  validators : extra.validators.Perm (l.validators.getD [])
  sorted : extra.validators.Pairwise fun a b => a.address.bytes ≤ b.address.bytes
  voteData : extra.voteData = (({} : ExtraData).attested l.attestation).voteData
  voteAddressSet : extra.voteAddressSet = (({} : ExtraData).attested l.attestation).voteAddressSet
  aggSignature : extra.aggSignature = (({} : ExtraData).attested l.attestation).aggSignature

/-- The first byte tells validators and attestation apart. -/
structure Layout.Marked (l : Layout) : Prop where
  validators : ∀ vs, l.validators = some vs → vs.length ≠ 0xf8
  attestation : l.validators = none → ∀ a, l.attestation = some a → a.encode.head? = some 0xf8

theorem rlpList_cons {items : List Bytes} (h : (rlpList items).length < 2 ^ 64) :
    ∃ first rest, rlpList items = first :: rest ∧ 192 ≤ first.toNat := by
  have hlength : items.flatten.length < 2 ^ 64 := by
    rw [rlpList, List.length_append] at h
    omega
  unfold rlpList rlpLength
  split
  · refine ⟨_, _, rfl, ?_⟩
    rw [UInt8.toNat_ofNat']
    omega
  · next hlong =>
    have hminimal : (beMinimal items.flatten.length).length ≤ 8 := length_beMinimal_le hlength
    refine ⟨_, _, rfl, ?_⟩
    rw [UInt8.toNat_ofNat']
    omega

variable {l : Layout} {extra extra' : ExtraData}

theorem parseAttestation_layout (hdecode : ∀ a, l.attestation = some a → C.decodeAttestation a.encode = some a)
    (extra : ExtraData) : parseAttestation C l.attestationBytes extra = .ok (extra.attested l.attestation) := by
  unfold Layout.attestationBytes
  cases ha : l.attestation with
  | none => rfl
  | some a =>
    obtain ⟨first, rest, hcons, -⟩ := rlpList_cons (l.addressable a ha)
    have hne : a.encode ≠ [] := by
      rw [VoteAttestationData.encode, hcons]
      exact List.cons_ne_nil _ _
    rw [parseAttestation, if_neg hne, hdecode a ha]
    rfl

theorem parseAttestation_validators {data : Bytes} (h : parseAttestation C data extra = .ok extra') :
    extra'.validators = extra.validators := by
  unfold parseAttestation at h
  split at h
  · rw [← Except.ok.inj h]
  · obtain ⟨attestation, -, h⟩ := except_bind_ok.mp h
    rw [← Except.ok.inj h]

theorem parseMiddle_validators {first : UInt8} {data : Bytes} (hmark : first ≠ 0xf8)
    (h : parseMiddle C header (first :: data) extra = .ok extra') : extra'.validators.length = first.toNat := by
  rw [parseMiddle, if_neg hmark] at h
  obtain ⟨⟨validators, rest⟩, hvalidators, hattestation⟩ := except_bind_ok.mp h
  have henough : first.toNat * 68 ≤ data.length := by
    by_contra hshort
    rw [parseValidators_short first (by omega)] at hvalidators
    cases hvalidators
  obtain ⟨vs, tail, hcount, rfl⟩ := exists_entries first.toNat henough
  rw [parseValidators_entries first hcount, except_map_ok] at hvalidators
  obtain ⟨_, -, hsame⟩ := hvalidators
  rw [parseAttestation_validators hattestation, ← hcount]
  show validators.length = _
  rw [← (Prod.mk.inj hsame).1, sortByAddress, List.length_mergeSort]

/-- What is read from a layout. -/
def Layout.result (l : Layout) : ExtraData :=
  ({ extraVanity := l.vanity.bytes
     extraSeal := l.sealBytes.bytes
     validatorSize := UInt8.ofNat (l.validators.getD []).length
     validators := sortByAddress (l.validators.getD []) } : ExtraData).attested l.attestation

theorem Layout.readAs_result (l : Layout) : l.ReadAs l.result := by
  have hvalidators : l.result.validators = sortByAddress (l.validators.getD []) := by
    unfold Layout.result
    cases l.attestation <;> rfl
  have hle (a b c : ValidatorInfo) : decide (a.address.bytes ≤ b.address.bytes) = true →
      decide (b.address.bytes ≤ c.address.bytes) = true → decide (a.address.bytes ≤ c.address.bytes) = true := by
    simp only [decide_eq_true_eq]
    exact List.le_trans
  have htotal (a b : ValidatorInfo) :
      (decide (a.address.bytes ≤ b.address.bytes) || decide (b.address.bytes ≤ a.address.bytes)) = true := by
    simp only [Bool.or_eq_true, decide_eq_true_eq]
    exact List.le_total _ _
  refine ⟨?_, ?_, ?_, ?_, ?_⟩
  · rw [hvalidators]
    exact List.mergeSort_perm _ _
  · rw [hvalidators]
    have hsorted := List.pairwise_mergeSort hle htotal (l.validators.getD [])
    simp only [decide_eq_true_eq] at hsorted
    exact hsorted
  all_goals
    unfold Layout.result
    cases l.attestation <;> rfl

theorem parseMiddle_some {vs : List ValidatorInfo} (hvs : l.validators = some vs)
    (hdecode : ∀ a, l.attestation = some a → C.decodeAttestation a.encode = some a) (hmark : vs.length ≠ 0xf8)
    (extra : ExtraData) :
    parseMiddle C header (l.validatorBytes (decide (C.bohrForkTimestamp ≤ header.timestamp)) ++
      l.attestationBytes) extra =
      .ok (({ extra with
        validatorSize := UInt8.ofNat vs.length
        validators := sortByAddress vs } : ExtraData).attested l.attestation) := by
  have hcount : vs.length = (UInt8.ofNat vs.length).toNat := by
    have := l.counted vs hvs
    rw [UInt8.toNat_ofNat']
    omega
  have hbyte : UInt8.ofNat vs.length ≠ 0xf8 := by
    intro h
    rw [h] at hcount
    exact hmark hcount
  have hafter : afterValidators C header ((if decide (C.bohrForkTimestamp ≤ header.timestamp) = true then [l.turnLength]
      else []) ++ l.attestationBytes) = .ok l.attestationBytes := by
    unfold afterValidators
    by_cases hbohr : C.bohrForkTimestamp ≤ header.timestamp
    · simp [hbohr, sliceFrom]
    · simp [hbohr]
  rw [Layout.validatorBytes, hvs]
  dsimp only
  rw [List.cons_append, List.append_assoc, parseMiddle, if_neg hbyte, parseValidators_entries _ hcount, hafter]
  exact parseAttestation_layout hdecode _

theorem parseMiddle_none (hvs : l.validators = none)
    (hdecode : ∀ a, l.attestation = some a → C.decodeAttestation a.encode = some a)
    (hmark : ∀ a, l.attestation = some a → a.encode.head? = some 0xf8) (bohr : Bool) (extra : ExtraData) :
    parseMiddle C header (l.validatorBytes bohr ++ l.attestationBytes) extra = .ok (extra.attested l.attestation) := by
  have hread := parseAttestation_layout hdecode extra
  rw [Layout.validatorBytes, hvs]
  dsimp only
  rw [List.nil_append]
  unfold Layout.attestationBytes at hread ⊢
  cases ha : l.attestation with
  | none => rfl
  | some a =>
    rw [ha] at hread
    dsimp only at hread ⊢
    obtain ⟨rest, hcons⟩ := List.head?_eq_some_iff.mp (hmark a ha)
    rw [hcons] at hread ⊢
    rw [parseMiddle, if_pos rfl, hread]

theorem parseExtra_layout (hdata : header.extraData = l.encode (decide (C.bohrForkTimestamp ≤ header.timestamp)))
    (hdecode : ∀ a, l.attestation = some a → C.decodeAttestation a.encode = some a) (hmarked : l.Marked) :
    parseExtra C header = .ok l.result := by
  rw [parseExtra_eq l.vanity _ l.sealBytes hdata, Layout.result]
  cases hvs : l.validators with
  | some vs => exact parseMiddle_some hvs hdecode (hmarked.validators vs hvs) _
  | none =>
    rw [parseMiddle_none hvs hdecode (hmarked.attestation hvs), Option.getD_none, sortByAddress, List.mergeSort_nil]
    rfl

theorem not_readAs_of_not_marked (hdata : header.extraData = l.encode (decide (C.bohrForkTimestamp ≤ header.timestamp)))
    (hmarked : ¬ l.Marked) (h : parseExtra C header = .ok extra) : ¬ l.ReadAs extra := by
  intro hread
  rw [parseExtra_eq l.vanity _ l.sealBytes hdata] at h
  refine hmarked ⟨fun vs hvs hlength => ?_, fun hvs a ha => ?_⟩
  · -- the number of the validators makes an attestation of them
    rw [Layout.validatorBytes, hvs] at h
    dsimp only at h
    rw [List.cons_append, parseMiddle, if_pos (by rw [hlength]; rfl)] at h
    have hempty := parseAttestation_validators h
    have hsame := hread.validators.length_eq
    rw [hempty, hvs, Option.getD_some, hlength] at hsame
    cases hsame
  · -- the attestation counts as a number of validators that is not zero
    obtain ⟨first, rest, hcons, hlarge⟩ := rlpList_cons (l.addressable a ha)
    by_contra hhead
    rw [Layout.validatorBytes, hvs, Layout.attestationBytes, ha] at h
    dsimp only at h
    rw [List.nil_append, VoteAttestationData.encode, hcons] at h
    have hbyte : first ≠ 0xf8 := by
      rintro rfl
      apply hhead
      rw [VoteAttestationData.encode, hcons, List.head?_cons]
    have hcount := parseMiddle_validators hbyte h
    have hsame := hread.validators.length_eq
    rw [hvs, Option.getD_none, List.length_nil] at hsame
    omega

/-- The parser panics on data that end where the turn length should stand, and on no others. A layout is read back
exactly if the first byte tells the parts apart. -/
theorem parse_extra_exact_iff :
    (Panicked (parseExtra C header) ↔ TurnMissing C header) ∧
      ∀ l : Layout, header.extraData = l.encode (decide (C.bohrForkTimestamp ≤ header.timestamp)) →
        (∀ a, l.attestation = some a → C.decodeAttestation a.encode = some a) →
        ((∃ extra, parseExtra C header = .ok extra ∧ l.ReadAs extra) ↔ l.Marked) := by
  refine ⟨parseExtra_panics_iff, fun l hdata hdecode => ⟨?_, fun hmarked => ?_⟩⟩
  · rintro ⟨extra, h, hread⟩
    by_contra hmarked
    exact not_readAs_of_not_marked hdata hmarked h hread
  · exact ⟨l.result, parseExtra_layout hdata hdecode hmarked, l.readAs_result⟩

theorem rlpList_head {items : List Bytes} (h : 56 ≤ items.flatten.length) (h' : items.flatten.length < 256) :
    (rlpList items).head? = some 0xf8 := by
  have hone : (beMinimal items.flatten.length).length = 1 := by
    have hle : (beMinimal items.flatten.length).length ≤ 1 := length_beMinimal_le h'
    have hpos : 0 < (beMinimal items.flatten.length).length := length_beMinimal_pos (by omega)
    omega
  rw [rlpList, rlpLength, if_neg (by omega), hone]
  rfl

theorem length_rlpNat_uint64 (n : UInt64) : (rlpNat n.toNat).length ≤ 9 := Rlp.length_rlpNat_le n.toNat_lt (by decide)

theorem VoteData.length_encode_le (v : VoteData) : v.encode.length ≤ 86 := by
  have hsource := length_rlpNat_uint64 v.sourceNumber
  have htarget := length_rlpNat_uint64 v.targetNumber
  have hhash (b : H256) : (rlpBytes b.bytes).length = 33 := by
    rw [Rlp.length_rlpBytes (by simp), BytesN.length_bytes]
    rfl
  have hheader {n : Nat} (hn : n < 256) : (rlpLength 192 n).length ≤ 2 := by
    have hle : (beMinimal n).length ≤ 1 := length_beMinimal_le hn
    unfold rlpLength
    split
    · exact Nat.le_succ 1
    · exact Nat.succ_le_succ hle
  rw [VoteData.encode, rlpList, List.length_append]
  simp only [List.flatten_cons, List.flatten_nil, List.length_append, List.length_nil, hhash]
  have := hheader (n := (rlpNat v.sourceNumber.toNat).length + (33 + ((rlpNat v.targetNumber.toNat).length + (33 + 0))))
    (by omega)
  omega

theorem VoteAttestationData.head_encode {a : VoteAttestationData} (h : a.extra = []) :
    a.encode.head? = some 0xf8 := by
  have hset := length_rlpNat_uint64 a.voteAddressSet
  have hsignature : (rlpBytes a.aggSignature.bytes).length = 98 := by
    rw [Rlp.length_rlpBytes (by simp), BytesN.length_bytes]
    rfl
  have hextra : (rlpBytes a.extra).length = 1 := by
    rw [h]
    rfl
  have hdata := a.data.length_encode_le
  apply rlpList_head
  · simp only [List.flatten_cons, List.flatten_nil, List.length_append]
    omega
  · simp only [List.flatten_cons, List.flatten_nil, List.length_append, List.length_nil]
    omega

theorem Layout.marked_iff (h : ∀ a, l.attestation = some a → a.extra = []) :
    l.Marked ↔ ∀ vs, l.validators = some vs → vs.length ≠ 0xf8 :=
  ⟨Layout.Marked.validators, fun hcount => ⟨hcount, fun _ a ha => VoteAttestationData.head_encode (h a ha)⟩⟩

/-- No validators and no turn length behind them. -/
def turnless : CodecHeader := sampleHeader 1200 (BytesN.zero 32) (List.replicate 98 0)

theorem crowd_counted (vs : List ValidatorInfo)
    (h : some (List.replicate 248 (⟨BytesN.zero 20, BytesN.zero 48⟩ : ValidatorInfo)) = some vs) : vs.length < 256 := by
  rw [← Option.some.inj h, List.length_replicate]
  decide

theorem none_addressable (a : VoteAttestationData) (h : none = some a) : a.encode.length < 2 ^ 64 := by
  cases h

/-- An epoch of 248 validators. -/
def crowd : Layout where
  vanity := BytesN.zero 32
  validators := some (List.replicate 248 ⟨BytesN.zero 20, BytesN.zero 48⟩)
  turnLength := 1
  attestation := none
  sealBytes := BytesN.zero 65
  counted := crowd_counted
  addressable := none_addressable

theorem extra_data_misread :
    Panicked (parseExtra sampleChain turnless) ∧
      ∀ extra, parseExtra sampleChain (sampleHeader 1200 (BytesN.zero 32) (crowd.encode true)) = .ok extra →
        ¬ crowd.ReadAs extra := by
  refine ⟨⟨"slice index out of range", by decide +kernel⟩, fun extra h => ?_⟩
  refine not_readAs_of_not_marked (C := sampleChain) rfl (fun hmarked => ?_) h
  exact hmarked.validators _ rfl List.length_replicate

theorem sampleAttestation_addressable (a : VoteAttestationData) (h : some sampleAttestation = some a) :
    a.encode.length < 2 ^ 64 := by
  obtain rfl := Option.some.inj h
  decide +kernel

theorem none_counted (vs : List ValidatorInfo) (h : (none : Option (List ValidatorInfo)) = some vs) :
    vs.length < 256 := by
  cases h

def sampleLayout : Layout where
  vanity := BytesN.zero 32
  validators := none
  turnLength := 0
  attestation := some sampleAttestation
  sealBytes := BytesN.zero 65
  counted := none_counted
  addressable := sampleAttestation_addressable

theorem parse_extra_exact_iff_sample :
    (∃ extra, parseExtra sampleChain sampleUpdate.attestedHeader = .ok extra ∧ sampleLayout.ReadAs extra) ↔
      sampleLayout.Marked := by
  refine parse_extra_exact_iff.2 sampleLayout (by decide +kernel) ?_
  rintro a ⟨rfl⟩
  decide +kernel

end Hyperbridge.Bsc
