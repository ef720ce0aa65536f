import Hyperbridge.Lib.Exec
import Hyperbridge.Lib.Rlp
import Mathlib.Data.List.FinRange

/-!
# Nodes of Ethereum tries

`RlpNodeCodec::decode_plan` says where the parts of a node stand in its encoding. In Ethereum a child is given by its
hash or, if its encoding is shorter than 32 bytes, embedded. The codec takes every child for a hash, so nothing below an
embedded one can be looked up. And the first byte of a path is read without asking whether there is one: a list of two
items with an empty first one makes the codec panic.
-/

namespace Hyperbridge.EthereumTrie

open Lib

open Lib.Rlp (Item)

inductive DecoderError where
  | rlpIsTooBig
  | rlpIsTooShort
  | rlpExpectedToBeList
  | rlpExpectedToBeData
  | rlpIncorrectListLen
  | rlpDataLenWithZeroPrefix
  | rlpListLenWithZeroPrefix
  | rlpInvalidIndirection
  | rlpInconsistentLengthAndData
  | rlpInvalidLength
  | custom (text : String)
  deriving DecidableEq

inductive PlanFault where
  | err (error : DecoderError)
  | panic (text : String)
  deriving DecidableEq

inductive Prototype where
  | null
  | data (size : Nat)
  | list (count : Nat)
  deriving DecidableEq

structure PayloadInfo where
  headerLen : Nat
  valueLen : Nat
  deriving DecidableEq

/-- The `rlp` crate: a view of some bytes is the bytes. -/
structure RlpCrate where
  prototype : Bytes → Except DecoderError Prototype
  atWithOffset : Bytes → Nat → Except DecoderError (Bytes × Nat)
  data : Bytes → Except DecoderError Bytes
  payloadInfo : Bytes → Except DecoderError PayloadInfo
  isEmpty : Bytes → Bool

structure Range where
  start : Nat
  stop : Nat
  deriving DecidableEq

structure NibbleSlicePlan where
  bytes : Range
  offset : Nat
  deriving DecidableEq

inductive ValuePlan where
  | inline (range : Range)
  | node (range : Range)
  deriving DecidableEq

inductive NodeHandlePlan where
  | hash (range : Range)
  | inline (range : Range)
  deriving DecidableEq

inductive NodePlan where
  | empty
  | leaf (path : NibbleSlicePlan) (value : ValuePlan)
  | extension (path : NibbleSlicePlan) (child : NodeHandlePlan)
  | branch (children : List (Option NodeHandlePlan)) (value : Option ValuePlan)
  deriving DecidableEq

def hashedNullNode : Bytes :=
  [0x56, 0xe8, 0x1f, 0x17, 0x1b, 0xcc, 0x55, 0xa6, 0xff, 0x83, 0x45, 0xe6, 0x92, 0xc0, 0xf8, 0x6e,
    0x5b, 0x48, 0xe0, 0x1b, 0x99, 0x6c, 0xad, 0xc0, 0x01, 0x62, 0x2f, 0xb5, 0xe3, 0x63, 0xb4, 0x21]

variable (R : RlpCrate)

namespace RlpNodeCodec

def checked {α : Type} (x : Except DecoderError α) : Except PlanFault α := x.mapError .err

/-- `bytes[0]`. -/
def firstByte : Bytes → Except PlanFault UInt8
  | [] => .error (.panic "index out of bounds: the len is 0 but the index is 0")
  | first :: _ => .ok first

def payloadRange (offset : Nat) (i : PayloadInfo) : Range :=
  ⟨offset + i.headerLen, offset + i.headerLen + i.valueLen⟩

variable (data : Bytes)

/-- The item at an index, with the range of its payload. -/
def itemAt (index : Nat) : Except PlanFault (Bytes × Range) := do
  let (item, offset) ← checked (R.atWithOffset data index)
  let i ← checked (R.payloadInfo item)
  pure (item, payloadRange offset i)

def presentAt (index : Nat) : Except PlanFault (Option Range) := do
  let (item, range) ← itemAt R data index
  if R.isEmpty item then pure none else pure (some range)

/-- Two items: a leaf or an extension. -/
def decodePair : Except PlanFault NodePlan := do
  let (rlp, offset) ← checked (R.atWithOffset data 0)
  let bytes ← checked (R.data rlp)
  let i ← checked (R.payloadInfo rlp)
  let first ← firstByte bytes
  let slice : NibbleSlicePlan := ⟨payloadRange offset i, if first &&& 16 = 16 then 1 else 2⟩
  if first &&& 32 = 32 then do
    let (_, range) ← itemAt R data 1
    pure (.leaf slice (.inline range))
  else do
    let (_, range) ← itemAt R data 1
    pure (.extension slice (.hash range))

/-- Seventeen items: sixteen children and a value. -/
def decodeBranch : Except PlanFault NodePlan := do
  let nodes ← (List.range 16).mapM fun index => (Option.map NodeHandlePlan.hash) <$> presentAt R data index
  let value ← presentAt R data 16
  pure (.branch nodes (value.map .inline))

/-- `RlpNodeCodec::decode_plan`. -/
def decodePlan : Except PlanFault NodePlan :=
  if data = hashedNullNode then .ok .empty
  else do
    match ← checked (R.prototype data) with
    | .list 2 => decodePair R data
    | .list 17 => decodeBranch R data
    | .data 0 => pure .empty
    | _ => .error (.err (.custom "Rlp is not valid."))

end RlpNodeCodec

abbrev Nibble := Fin 16

def pack : List Nibble → Bytes
  | high :: low :: rest => UInt8.ofNat (16 * high.1 + low.1) :: pack rest
  | _ => []

def nibbles (b : Bytes) : List Nibble :=
  b.flatMap fun x => [Fin.ofNat 16 (x.toNat / 16), Fin.ofNat 16 x.toNat]

def hexPrefix (leaf : Bool) (path : List Nibble) : Bytes :=
  if path.length % 2 = 0 then pack ((if leaf then 2 else 0) :: 0 :: path)
  else pack ((if leaf then 3 else 1) :: path)

mutual

/-- A node as Ethereum defines it. -/
inductive Node where
  | leaf (path : List Nibble) (value : Bytes)
  | extension (path : List Nibble) (child : Child)
  | branch (children : Fin 16 → Option Child) (value : Bytes)

inductive Child where
  | hash (root : H256)
  | embedded (node : Node)

end

mutual

def Node.items : Node → List Item
  | .leaf path value => [.str (hexPrefix true path), .str value]
  | .extension path child => [.str (hexPrefix false path), child.item]
  | .branch children value => (List.ofFn fun i => slotItem (children i)) ++ [.str value]

def slotItem : Option Child → Item
  | none => .str []
  | some child => child.item

def Child.item : Child → Item
  | .hash root => .str root.bytes
  | .embedded node => .listOf (node.items.map Item.encode)

end

def Node.item (node : Node) : Item := .listOf (node.items.map Item.encode)

def Node.encode (node : Node) : Bytes := node.item.encode

/-- The bytes in the range. -/
def Range.of (r : Range) (data : Bytes) : Bytes := (data.drop r.start).take (r.stop - r.start)

def NibbleSlicePlan.of (p : NibbleSlicePlan) (data : Bytes) : List Nibble := (nibbles (p.bytes.of data)).drop p.offset

def Child.CoveredBy (data : Bytes) : Child → NodeHandlePlan → Prop
  | .hash root, .hash range => range.of data = root.bytes
  | .embedded node, .inline range => range.of data = node.encode
  | .hash _, .inline _ => False
  | .embedded _, .hash _ => False

def SlotCoveredBy (data : Bytes) : Option Child → Option NodeHandlePlan → Prop
  | none, none => True
  | some child, some handle => child.CoveredBy data handle
  | none, some _ => False
  | some _, none => False

def ValueCoveredBy (data value : Bytes) : Option ValuePlan → Prop
  | none => value = []
  | some (.inline range) => value ≠ [] ∧ range.of data = value
  | some (.node _) => False

/-- The plan gives the parts of the node. -/
def Node.DescribedBy (data : Bytes) : Node → NodePlan → Prop
  | .leaf path value, .leaf slice (.inline range) => slice.of data = path ∧ range.of data = value
  | .extension path child, .extension slice handle => slice.of data = path ∧ child.CoveredBy data handle
  | .branch children value, .branch handles plan =>
    List.Forall₂ (SlotCoveredBy data) (List.ofFn children) handles ∧ ValueCoveredBy data value plan
  | _, _ => False

def Child.IsHash : Child → Prop
  | .hash _ => True
  | .embedded _ => False

/-- No child is embedded. -/
def Node.AllHashed : Node → Prop
  | .leaf _ _ => True
  | .extension _ child => child.IsHash
  | .branch children _ => ∀ i, ∀ child ∈ children i, child.IsHash

/-- The crate reports items, offsets and lengths as they are. -/
structure RlpCrate.Correct : Prop where
  prototype : ∀ items : List Item, (Item.listOf (items.map Item.encode)).Fits →
    R.prototype (Item.listOf (items.map Item.encode)).encode = .ok (.list items.length)
  atWithOffset : ∀ (front : List Item) (item : Item) (back : List Item) (list : Item),
    list = .listOf ((front ++ item :: back).map Item.encode) → list.Fits →
    R.atWithOffset list.encode front.length =
      .ok (item.encode, list.header.length + (front.map Item.encode).flatten.length)
  data : ∀ item : Item, item.Fits → R.data item.encode = .ok item.payload
  payloadInfo : ∀ item : Item, item.Fits →
    R.payloadInfo item.encode = .ok ⟨item.header.length, item.payload.length⟩
  isEmpty : ∀ item : Item, item.Fits → R.isEmpty item.encode = decide (item.payload = [])

variable {R}

theorem nibbles_pack {path : List Nibble} (h : path.length % 2 = 0) : nibbles (pack path) = path := by
  match path with
  | [] => rfl
  | [_] => cases h
  | high :: low :: rest =>
    have hrest : rest.length % 2 = 0 := by
      rw [List.length_cons, List.length_cons] at h
      omega
    have hbyte : (UInt8.ofNat (16 * high.1 + low.1)).toNat = 16 * high.1 + low.1 := by
      rw [UInt8.toNat_ofNat']
      omega
    have hhigh : Fin.ofNat 16 ((16 * high.1 + low.1) / 16) = high := by
      apply Fin.ext
      show (16 * high.1 + low.1) / 16 % 16 = high.1
      omega
    have hlow : Fin.ofNat 16 (16 * high.1 + low.1) = low := by
      apply Fin.ext
      show (16 * high.1 + low.1) % 16 = low.1
      omega
    have ih : (pack rest).flatMap (fun x => [Fin.ofNat 16 (x.toNat / 16), Fin.ofNat 16 x.toNat]) = rest :=
      nibbles_pack hrest
    rw [pack, nibbles, List.flatMap_cons, hbyte, hhigh, hlow, ih]
    rfl

theorem flags_pack (high low : Nibble) :
    (UInt8.ofNat (16 * high.1 + low.1) &&& 16 = 16 ↔ high.1 % 2 = 1) ∧
      (UInt8.ofNat (16 * high.1 + low.1) &&& 32 = 32 ↔ high.1 / 2 % 2 = 1) := by
  revert high low
  decide

theorem hexPrefix_spec (leaf : Bool) (path : List Nibble) :
    ∃ first rest, hexPrefix leaf path = first :: rest ∧ (first &&& 32 = 32 ↔ leaf = true) ∧
      (nibbles (hexPrefix leaf path)).drop (if first &&& 16 = 16 then 1 else 2) = path := by
  unfold hexPrefix
  split
  · next heven =>
    have hback : nibbles (pack ((if leaf then 2 else 0) :: 0 :: path)) = (if leaf then 2 else 0) :: 0 :: path :=
      nibbles_pack (by
        rw [List.length_cons, List.length_cons]
        omega)
    obtain ⟨hodd, hleaf⟩ := flags_pack (if leaf then 2 else 0) 0
    refine ⟨_, _, rfl, hleaf.trans (by cases leaf <;> decide), ?_⟩
    rw [hback, if_neg fun h => absurd (hodd.mp h) (by cases leaf <;> decide)]
    rfl
  · next hodd =>
    match path with
    | [] => exact absurd rfl hodd
    | nibble :: path =>
      have hback : nibbles (pack ((if leaf then 3 else 1) :: nibble :: path)) =
          (if leaf then 3 else 1) :: nibble :: path :=
        nibbles_pack (by
          rw [List.length_cons, List.length_cons]
          rw [List.length_cons] at hodd
          omega)
      obtain ⟨hflag, hleaf⟩ := flags_pack (if leaf then 3 else 1) nibble
      refine ⟨_, _, rfl, hleaf.trans (by cases leaf <;> decide), ?_⟩
      rw [hback, if_pos (hflag.mpr (by cases leaf <;> decide))]
      rfl

section Items

open RlpNodeCodec

variable {front back : List Item} {item list : Item}

theorem checked_ok {α : Type} {x : Except DecoderError α} {a : α} : checked x = .ok a ↔ x = .ok a :=
  except_mapError_ok

theorem of_payloadRange (hlist : list = .listOf ((front ++ item :: back).map Item.encode)) :
    (payloadRange (list.header.length + (front.map Item.encode).flatten.length)
      ⟨item.header.length, item.payload.length⟩).of list.encode = item.payload := by
  have hencode : list.encode = (list.header ++ (front.map Item.encode).flatten ++ item.header) ++
      (item.payload ++ (back.map Item.encode).flatten) := by
    rw [Item.encode, hlist]
    simp [Item.listOf, Item.encode]
  have hstart : list.header.length + (front.map Item.encode).flatten.length + item.header.length =
      (list.header ++ (front.map Item.encode).flatten ++ item.header).length := by
    rw [List.length_append, List.length_append]
  unfold payloadRange Range.of
  dsimp only
  rw [Nat.add_sub_cancel_left, hstart, hencode, List.drop_left, List.take_left]

theorem fits_of_mem (hlist : list = .listOf ((front ++ item :: back).map Item.encode)) (hfits : list.Fits) :
    item.Fits := by
  have hlength : list.payload.length = (front.map Item.encode).flatten.length +
      (item.header.length + item.payload.length + (back.map Item.encode).flatten.length) := by
    rw [hlist]
    simp [Item.listOf, Item.encode, Nat.add_assoc]
  unfold Item.Fits at hfits ⊢
  omega

theorem itemAt_eq (hR : R.Correct) (hlist : list = .listOf ((front ++ item :: back).map Item.encode))
    (hfits : list.Fits) :
    ∃ range, itemAt R list.encode front.length = .ok (item.encode, range) ∧ range.of list.encode = item.payload := by
  have hitem := fits_of_mem hlist hfits
  refine ⟨_, ?_, of_payloadRange hlist⟩
  refine except_bind_ok.mpr ⟨_, checked_ok.mpr (hR.atWithOffset front item back list hlist hfits), ?_⟩
  exact except_bind_ok.mpr ⟨_, checked_ok.mpr (hR.payloadInfo item hitem), rfl⟩

theorem presentAt_eq (hR : R.Correct) (hlist : list = .listOf ((front ++ item :: back).map Item.encode))
    (hfits : list.Fits) :
    ∃ range, presentAt R list.encode front.length = .ok (if item.payload = [] then none else some range) ∧
      range.of list.encode = item.payload := by
  obtain ⟨range, hat, hof⟩ := itemAt_eq hR hlist hfits
  refine ⟨range, except_bind_ok.mpr ⟨_, hat, ?_⟩, hof⟩
  dsimp only
  rw [hR.isEmpty item (fits_of_mem hlist hfits)]
  by_cases hnil : item.payload = []
  · rw [if_pos (decide_eq_true hnil), if_pos hnil]
    rfl
  · rw [if_neg (by simpa using hnil), if_neg hnil]
    rfl

/-- The plan of a leaf or an extension. -/
theorem decodePair_eq (hR : R.Correct) (leaf : Bool) {path : List Nibble}
    (hlist : list = .listOf (List.map Item.encode [.str (hexPrefix leaf path), item])) (hfits : list.Fits) :
    ∃ slice range, decodePair R list.encode =
        .ok (if leaf then .leaf slice (.inline range) else .extension slice (.hash range)) ∧
      slice.of list.encode = path ∧ range.of list.encode = item.payload := by
  have hfirst : list = .listOf (([] ++ Item.str (hexPrefix leaf path) :: [item]).map Item.encode) := hlist
  have hsecond : list = .listOf (([Item.str (hexPrefix leaf path)] ++ item :: []).map Item.encode) := hlist
  obtain ⟨first, rest, hcons, hleaf, hdrop⟩ := hexPrefix_spec leaf path
  obtain ⟨range, hrange, hof⟩ := itemAt_eq hR hsecond hfits
  have hpath := fits_of_mem hfirst hfits
  refine ⟨⟨payloadRange (list.header.length + 0) ⟨(Item.str (hexPrefix leaf path)).header.length,
    (hexPrefix leaf path).length⟩, if first &&& 16 = 16 then 1 else 2⟩, range, ?_, ?_, hof⟩
  · refine except_bind_ok.mpr ⟨_, checked_ok.mpr (hR.atWithOffset [] _ _ list hfirst hfits), ?_⟩
    refine except_bind_ok.mpr ⟨_, checked_ok.mpr (hR.data _ hpath), ?_⟩
    refine except_bind_ok.mpr ⟨_, checked_ok.mpr (hR.payloadInfo _ hpath), ?_⟩
    refine except_bind_ok.mpr ⟨first, congrArg firstByte hcons, ?_⟩
    dsimp only
    cases leaf with
    | true =>
      rw [if_pos (hleaf.mpr rfl)]
      exact except_bind_ok.mpr ⟨_, hrange, rfl⟩
    | false =>
      rw [if_neg fun h => absurd (hleaf.mp h) Bool.false_ne_true]
      exact except_bind_ok.mpr ⟨_, hrange, rfl⟩
  · have hbytes : (payloadRange (list.header.length + 0) ⟨(Item.str (hexPrefix leaf path)).header.length,
        (hexPrefix leaf path).length⟩).of list.encode = hexPrefix leaf path := of_payloadRange hfirst
    rw [NibbleSlicePlan.of, hbytes]
    exact hdrop

theorem presentAt_slot (hR : R.Correct) {slots : Fin 16 → Item} {last : Item}
    (hlist : list = .listOf ((List.ofFn slots ++ [last]).map Item.encode)) (hfits : list.Fits) (i : Fin 16) :
    ∃ range, presentAt R list.encode i.1 = .ok (if (slots i).payload = [] then none else some range) ∧
      range.of list.encode = (slots i).payload := by
  have hlt : i.1 < (List.ofFn slots).length := by
    rw [List.length_ofFn]
    exact i.2
  have hget : (List.ofFn slots).get ⟨i.1, hlt⟩ = slots i := by
    rw [List.get_eq_getElem, List.getElem_ofFn]
  have hsplit : List.ofFn slots ++ [last] =
      (List.ofFn slots).take i.1 ++ slots i :: ((List.ofFn slots).drop (i.1 + 1) ++ [last]) := by
    rw [← hget, ← List.cons_append, List.get_eq_getElem, ← List.drop_eq_getElem_cons hlt, ← List.append_assoc,
      List.take_append_drop]
  have hlength : ((List.ofFn slots).take i.1).length = i.1 := by
    rw [List.length_take]
    omega
  rw [hsplit] at hlist
  have h := presentAt_eq hR hlist hfits
  rwa [hlength] at h

theorem decodeBranch_eq (hR : R.Correct) {slots : Fin 16 → Item} {value : Bytes}
    (hlist : list = .listOf ((List.ofFn slots ++ [Item.str value]).map Item.encode)) (hfits : list.Fits) :
    ∃ (ranges : Fin 16 → Range) (range : Range), decodeBranch R list.encode = .ok (.branch
        ((List.finRange 16).map fun i => if (slots i).payload = [] then none else some (.hash (ranges i)))
        (if value = [] then none else some (.inline range))) ∧
      (∀ i, (ranges i).of list.encode = (slots i).payload) ∧ range.of list.encode = value := by
  choose ranges hranges hof using presentAt_slot hR hlist hfits
  obtain ⟨range, hvalue, hvalueOf⟩ := presentAt_eq hR hlist hfits
  rw [List.length_ofFn] at hvalue
  have hnodes : ((List.range 16).mapM fun index => (Option.map NodeHandlePlan.hash) <$> presentAt R list.encode index) =
      .ok ((List.finRange 16).map fun i => if (slots i).payload = [] then none else some (.hash (ranges i))) := by
    rw [except_mapM_ok, ← List.map_coe_finRange_eq_range, List.forall₂_map_left_iff, List.forall₂_map_right_iff,
      List.forall₂_same]
    intro i _
    rw [hranges i]
    show Except.ok _ = Except.ok _
    split <;> rfl
  refine ⟨ranges, range, except_bind_ok.mpr ⟨_, hnodes, except_bind_ok.mpr ⟨_, hvalue, ?_⟩⟩, hof, hvalueOf⟩
  show Except.ok (NodePlan.branch _ (Option.map _ (if value = [] then none else some range))) = _
  split <;> rfl

end Items

variable {node : Node}

theorem encode_ne_null (hfits : node.item.Fits) : node.encode ≠ hashedNullNode := by
  intro heq
  have hheader := Rlp.readHeader_encode hfits []
  rw [List.append_nil] at hheader
  rw [Node.encode] at heq
  rw [heq] at hheader
  cases hheader

open RlpNodeCodec in
theorem decodePlan_pair (hR : R.Correct) (hfits : node.item.Fits) (hlength : node.items.length = 2) :
    decodePlan R node.encode = decodePair R node.encode := by
  have hprototype := hR.prototype node.items hfits
  rw [hlength] at hprototype
  rw [decodePlan, if_neg (encode_ne_null hfits), Node.encode, Node.item, hprototype]
  rfl

open RlpNodeCodec in
theorem decodePlan_branch (hR : R.Correct) (hfits : node.item.Fits) (hlength : node.items.length = 17) :
    decodePlan R node.encode = decodeBranch R node.encode := by
  have hprototype := hR.prototype node.items hfits
  rw [hlength] at hprototype
  rw [decodePlan, if_neg (encode_ne_null hfits), Node.encode, Node.item, hprototype]
  rfl

theorem coveredBy_hash_iff {data : Bytes} {child : Child} {range : Range} (h : range.of data = child.item.payload) :
    child.CoveredBy data (.hash range) ↔ child.IsHash := by
  cases child with
  | hash root => exact iff_of_true h trivial
  | embedded node => exact Iff.rfl

theorem slotCoveredBy_iff {data : Bytes} {slot : Option Child} {range : Range}
    (h : range.of data = (slotItem slot).payload) :
    SlotCoveredBy data slot (if (slotItem slot).payload = [] then none else some (.hash range)) ↔
      ∀ child ∈ slot, child.IsHash := by
  cases slot with
  | none => exact iff_of_true trivial fun _ hmem => absurd hmem (Option.not_mem_none _)
  | some child =>
    have hmem : (∀ c ∈ some child, c.IsHash) ↔ child.IsHash := by simp
    rw [hmem]
    split
    · next hnil =>
      refine iff_of_false id fun hhash => ?_
      -- a hash is not empty
      cases child with
      | hash root =>
        have hlength := root.length_bytes
        rw [show root.bytes = [] from hnil] at hlength
        cases hlength
      | embedded node => exact hhash
    · exact coveredBy_hash_iff h

theorem fits_of_encode (h : node.encode.length < 2 ^ 64) : node.item.Fits := by
  rw [Node.encode, Item.encode, List.length_append] at h
  exact lt_of_le_of_lt (Nat.le_add_left _ _) h

theorem decodePlan_node (hR : R.Correct) (hlength : node.encode.length < 2 ^ 64) :
    ∃ plan, RlpNodeCodec.decodePlan R node.encode = .ok plan ∧
      (node.DescribedBy node.encode plan ↔ node.AllHashed) := by
  have hfits := fits_of_encode hlength
  cases node with
  | leaf path value =>
    obtain ⟨slice, range, heq, hpath, hvalue⟩ := decodePair_eq hR true rfl hfits
    exact ⟨_, (decodePlan_pair hR hfits rfl).trans heq, iff_of_true ⟨hpath, hvalue⟩ trivial⟩
  | extension path child =>
    obtain ⟨slice, range, heq, hpath, hchild⟩ := decodePair_eq hR false rfl hfits
    refine ⟨_, (decodePlan_pair hR hfits rfl).trans heq, ?_⟩
    exact (and_iff_right hpath).trans (coveredBy_hash_iff hchild)
  | branch children value =>
    obtain ⟨ranges, range, heq, hslots, hvalue⟩ := decodeBranch_eq hR rfl hfits
    have hvalues : ValueCoveredBy (Node.branch children value).encode value
        (if value = [] then none else some (.inline range)) := by
      split
      · next hnil => exact hnil
      · next hne => exact ⟨hne, hvalue⟩
    refine ⟨_, (decodePlan_branch hR hfits (by simp [Node.items])).trans heq, (and_iff_left hvalues).trans ?_⟩
    rw [List.ofFn_eq_map, List.forall₂_map_left_iff, List.forall₂_map_right_iff, List.forall₂_same]
    constructor
    · intro h i
      exact (slotCoveredBy_iff (hslots i)).mp (h i (List.mem_finRange i))
    · intro h i _
      exact (slotCoveredBy_iff (hslots i)).mpr (h i)

section Panics

open RlpNodeCodec

variable {data : Bytes}

def IsErr : PlanFault → Prop
  | .err _ => True
  | .panic _ => False

theorem checked_failsOnly {α : Type} (x : Except DecoderError α) : FailsOnly IsErr (checked x) :=
  .mapError fun _ => trivial

theorem itemAt_failsOnly (index : Nat) : FailsOnly IsErr (itemAt R data index) :=
  (checked_failsOnly _).bind fun _ _ => (checked_failsOnly _).bind fun _ _ => .ok _

theorem presentAt_failsOnly (index : Nat) : FailsOnly IsErr (presentAt R data index) := by
  refine (itemAt_failsOnly index).bind fun found _ => ?_
  dsimp only
  split
  · exact .ok none
  · exact .ok (some found.2)

theorem decodeBranch_failsOnly : FailsOnly IsErr (decodeBranch R data) := by
  refine .bind (.mapM fun index _ => ?_) fun _ _ => (presentAt_failsOnly 16).bind fun _ _ => .ok _
  intro e h
  cases hpresent : presentAt R data index with
  | ok range =>
    rw [hpresent] at h
    cases h
  | error e' =>
    rw [hpresent] at h
    obtain rfl := Except.error.inj h
    exact presentAt_failsOnly index e' hpresent

theorem ne_panic {α : Type} {x : Except PlanFault α} (h : FailsOnly IsErr x) {text : String} :
    x ≠ .error (.panic text) := by
  intro heq
  exact h (.panic text) heq

theorem checked_bind_panic_iff {α β : Type} {x : Except DecoderError α} {f : α → Except PlanFault β} {text : String} :
    (checked x >>= f) = .error (.panic text) ↔ ∃ a, x = .ok a ∧ f a = .error (.panic text) := by
  rw [except_bind_error, or_iff_right (ne_panic (checked_failsOnly x))]
  simp only [checked_ok]

/-- A list of two items, of which the first is empty. -/
def EmptyPath (R : RlpCrate) (data : Bytes) : Prop :=
  data ≠ hashedNullNode ∧ R.prototype data = .ok (.list 2) ∧
    ∃ rlp offset i, R.atWithOffset data 0 = .ok (rlp, offset) ∧ R.data rlp = .ok [] ∧ R.payloadInfo rlp = .ok i

theorem decodePair_panics_iff : (∃ text, decodePair R data = .error (.panic text)) ↔
    ∃ rlp offset i, R.atWithOffset data 0 = .ok (rlp, offset) ∧ R.data rlp = .ok [] ∧ R.payloadInfo rlp = .ok i := by
  constructor
  · rintro ⟨text, h⟩
    obtain ⟨⟨rlp, offset⟩, hrlp, h⟩ := checked_bind_panic_iff.mp h
    obtain ⟨bytes, hbytes, h⟩ := checked_bind_panic_iff.mp h
    obtain ⟨i, hi, h⟩ := checked_bind_panic_iff.mp h
    cases bytes with
    | nil => exact ⟨rlp, offset, i, hrlp, hbytes, hi⟩
    | cons first rest =>
      -- behind the first byte there are only errors
      refine absurd h (ne_panic (FailsOnly.bind (.ok first) fun _ _ => ?_))
      dsimp only
      split
      · exact (itemAt_failsOnly 1).bind fun _ _ => .ok _
      · exact (itemAt_failsOnly 1).bind fun _ _ => .ok _
  · rintro ⟨rlp, offset, i, hrlp, hbytes, hi⟩
    exact ⟨_, checked_bind_panic_iff.mpr ⟨_, hrlp, checked_bind_panic_iff.mpr ⟨_, hbytes,
      checked_bind_panic_iff.mpr ⟨_, hi, rfl⟩⟩⟩⟩

theorem decodePlan_panics_iff : (∃ text, decodePlan R data = .error (.panic text)) ↔ EmptyPath R data := by
  unfold decodePlan EmptyPath
  by_cases hnull : data = hashedNullNode
  · rw [if_pos hnull]
    exact iff_of_false (fun ⟨_, h⟩ => nomatch h) fun h => h.1 hnull
  · rw [if_neg hnull, and_iff_right hnull, ← decodePair_panics_iff]
    constructor
    · rintro ⟨text, h⟩
      obtain ⟨p, hp, h⟩ := checked_bind_panic_iff.mp h
      split at h
      · exact ⟨hp, text, h⟩
      · exact absurd h (ne_panic decodeBranch_failsOnly)
      · cases h
      · cases h
    · rintro ⟨hp, text, h⟩
      exact ⟨text, checked_bind_panic_iff.mpr ⟨_, hp, h⟩⟩

end Panics

/-- Every node is decoded, the plan describes the node exactly if none of its children is embedded, and the codec panics
exactly on lists of two items with an empty first one. -/
theorem decodes_by_specification_iff (hR : R.Correct) :
    (∀ node : Node, node.encode.length < 2 ^ 64 → ∃ plan, RlpNodeCodec.decodePlan R node.encode = .ok plan ∧
        (node.DescribedBy node.encode plan ↔ node.AllHashed)) ∧
      ∀ data, (∃ text, RlpNodeCodec.decodePlan R data = .error (.panic text)) ↔ EmptyPath R data :=
  ⟨fun _ => decodePlan_node hR, fun _ => decodePlan_panics_iff⟩

def countItems : Nat → Bytes → Nat
  | 0, _ => 0
  | n + 1, data =>
    match Rlp.readItem data with
    | some (_, rest) => countItems n rest + 1
    | none => 0

def skipItems : Nat → Bytes → Option Bytes
  | 0, data => some data
  | n + 1, data => (Rlp.readItem data).bind fun found => skipItems n found.2

/-- A reader built on `Rlp.readItem`. -/
def sampleRlp : RlpCrate where
  prototype data :=
    match Rlp.readItem data with
    | some (⟨false, payload⟩, _) => .ok (.data payload.length)
    | some (⟨true, payload⟩, _) => .ok (.list (countItems payload.length payload))
    | none => .ok .null
  atWithOffset data index :=
    match Rlp.readHeader data with
    | some (true, header, length) =>
      match skipItems index ((data.drop header).take length) with
      | some rest =>
        match Rlp.readItem rest with
        | some (_, behind) => .ok (rest.take (rest.length - behind.length), header + (length - rest.length))
        | none => .error .rlpIsTooShort
      | none => .error .rlpIsTooShort
    | _ => .error .rlpExpectedToBeList
  data data :=
    match Rlp.readItem data with
    | some (item, _) => .ok item.payload
    | none => .error .rlpIsTooShort
  payloadInfo data :=
    match Rlp.readHeader data with
    | some (_, header, length) => .ok ⟨header, length⟩
    | none => .error .rlpIsTooShort
  isEmpty data :=
    match Rlp.readItem data with
    | some (item, _) => decide (item.payload = [])
    | none => false

theorem readItem_encode_nil {item : Item} (h : item.Fits) : Rlp.readItem item.encode = some (item, []) := by
  have hread := Rlp.readItem_encode h []
  rwa [List.append_nil] at hread

theorem readHeader_encode_nil {item : Item} (h : item.Fits) :
    Rlp.readHeader item.encode = some (item.isList, item.header.length, item.payload.length) := by
  have hread := Rlp.readHeader_encode h []
  rwa [List.append_nil] at hread

variable {items : List Item}

theorem countItems_flatten (hfits : ∀ item ∈ items, item.Fits) {n : Nat} (hn : items.length ≤ n) :
    countItems n (items.map Item.encode).flatten = items.length := by
  induction items generalizing n with
  | nil => cases n <;> rfl
  | cons item items ih =>
    rw [List.forall_mem_cons] at hfits
    obtain ⟨n, rfl⟩ : ∃ m, n = m + 1 := ⟨n - 1, by rw [List.length_cons] at hn; omega⟩
    rw [List.map_cons, List.flatten_cons, countItems, Rlp.readItem_encode hfits.1]
    dsimp only
    rw [ih hfits.2 (Nat.le_of_succ_le_succ hn), List.length_cons]

theorem skipItems_flatten (hfits : ∀ item ∈ items, item.Fits) (rest : Bytes) :
    skipItems items.length ((items.map Item.encode).flatten ++ rest) = some rest := by
  induction items with
  | nil => rfl
  | cons item items ih =>
    rw [List.forall_mem_cons] at hfits
    rw [List.map_cons, List.flatten_cons, List.length_cons, skipItems, List.append_assoc,
      Rlp.readItem_encode hfits.1]
    exact ih hfits.2

theorem length_le_flatten (hfits : ∀ item ∈ items, item.Fits) :
    items.length ≤ (items.map Item.encode).flatten.length := by
  induction items with
  | nil => exact Nat.le_refl 0
  | cons item items ih =>
    rw [List.forall_mem_cons] at hfits
    have hpos := List.length_pos_of_ne_nil (Rlp.encode_ne_nil hfits.1)
    have hrest := ih hfits.2
    rw [List.map_cons, List.flatten_cons, List.length_append, List.length_cons]
    omega

theorem fits_items (h : (Item.listOf (items.map Item.encode)).Fits) : ∀ item ∈ items, item.Fits := by
  intro item hitem
  obtain ⟨front, back, rfl⟩ := List.append_of_mem hitem
  exact fits_of_mem rfl h

theorem sampleRlp_correct : sampleRlp.Correct where
  prototype items h := by
    have hcount := countItems_flatten (fits_items h) (length_le_flatten (fits_items h))
    show (match Rlp.readItem _ with
      | some (⟨false, payload⟩, _) => _
      | some (⟨true, payload⟩, _) => _
      | none => _) = _
    rw [readItem_encode_nil h]
    exact congrArg (fun n => Except.ok (Prototype.list n)) hcount
  atWithOffset front item back list hlist h := by
    have hfits : ∀ x ∈ front ++ item :: back, x.Fits := fits_items (hlist ▸ h)
    have hpayload : (list.encode.drop list.header.length).take list.payload.length =
        (front.map Item.encode).flatten ++ (item.encode ++ (back.map Item.encode).flatten) := by
      rw [Item.encode, List.drop_left, List.take_length, hlist]
      simp [Item.listOf]
    have hlength : list.payload.length = (front.map Item.encode).flatten.length +
        (item.encode ++ (back.map Item.encode).flatten).length := by
      rw [hlist]
      simp [Item.listOf]
    have hheader : Rlp.readHeader list.encode = some (true, list.header.length, list.payload.length) := by
      have hisList : list.isList = true := by
        rw [hlist]
        rfl
      rw [readHeader_encode_nil h, hisList]
    have hskip := skipItems_flatten (fun x hx => hfits x (List.mem_append_left _ hx))
      (item.encode ++ (back.map Item.encode).flatten)
    have hread := Rlp.readItem_encode (fits_of_mem hlist h) (back.map Item.encode).flatten
    simp only [sampleRlp, hheader, hpayload, hskip, hread]
    rw [hlength, Nat.add_sub_cancel, List.length_append, Nat.add_sub_cancel, List.take_left]
  data item h := by
    show (match Rlp.readItem _ with
      | some (item, _) => _
      | none => _) = _
    rw [readItem_encode_nil h]
  payloadInfo item h := by
    show (match Rlp.readHeader _ with
      | some (_, header, length) => _
      | none => _) = _
    rw [readHeader_encode_nil h]
  isEmpty item h := by
    show (match Rlp.readItem _ with
      | some (item, _) => _
      | none => _) = _
    rw [readItem_encode_nil h]

def sampleLeaf : Node := .leaf [1, 2, 3] [0xca, 0xfe]

def embeddingNode : Node := .extension [4, 5] (.embedded sampleLeaf)

theorem decodes_by_specification_iff_sample :
    sampleRlp.Correct ∧ ∃ plan, RlpNodeCodec.decodePlan sampleRlp sampleLeaf.encode = .ok plan ∧
      sampleLeaf.DescribedBy sampleLeaf.encode plan := by
  obtain ⟨plan, hplan, hiff⟩ := (decodes_by_specification_iff sampleRlp_correct).1 sampleLeaf (by decide)
  exact ⟨sampleRlp_correct, plan, hplan, hiff.mpr trivial⟩

/-- The plan of a node with an embedded child has the child's payload as a hash, and two empty items make the codec
panic. -/
theorem embedded_child_taken_for_hash :
    sampleRlp.Correct ∧ sampleLeaf.encode.length < 32 ∧
      RlpNodeCodec.decodePlan sampleRlp embeddingNode.encode = .ok (.extension ⟨⟨2, 4⟩, 2⟩ (.hash ⟨5, 11⟩)) ∧
      ¬ embeddingNode.DescribedBy embeddingNode.encode (.extension ⟨⟨2, 4⟩, 2⟩ (.hash ⟨5, 11⟩)) ∧
      RlpNodeCodec.decodePlan sampleRlp [0xc2, 0x80, 0x80] =
        .error (.panic "index out of bounds: the len is 0 but the index is 0") := by
  refine ⟨sampleRlp_correct, by decide, by decide +kernel, fun h => h.2, by decide +kernel⟩

end Hyperbridge.EthereumTrie
