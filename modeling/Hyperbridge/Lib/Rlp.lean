import Hyperbridge.Lib.Digits

/-!
# RLP

An item is a byte string or a list, and either way a payload behind a header that says how long it is. `readItem` takes
the first item off the front of some bytes, whatever follows it; so encoded items can be told apart in a row.
-/

namespace Hyperbridge.Lib

theorem beValue_beMinimal (n : Nat) : beValue (beMinimal n) = n := by
  unfold beMinimal
  split
  · next hzero =>
    rw [hzero]
    rfl
  · rw [beValue_beBytes]
    exact Nat.mod_eq_of_lt (lt_pow_byteLength n)

theorem beMinimal_injective : Function.Injective beMinimal := by
  intro m n h
  rw [← beValue_beMinimal m, h, beValue_beMinimal]

theorem length_beMinimal_le {n k : Nat} (h : n < 256 ^ k) : (beMinimal n).length ≤ k := by
  unfold beMinimal
  split
  · exact Nat.zero_le k
  · next hpos =>
    have hbits : n < 2 ^ (8 * k) := by rwa [Nat.pow_mul]
    have hlog : Nat.log2 n < 8 * k := (Nat.log2_lt hpos).mpr hbits
    rw [length_beBytes]
    omega

theorem length_beMinimal_pos {n : Nat} (h : n ≠ 0) : 0 < (beMinimal n).length := by
  rw [beMinimal, if_neg h, length_beBytes]
  omega

namespace Rlp

/-- A string or a list, with what its header announces. -/
structure Item where
  isList : Bool
  payload : Bytes
  deriving DecidableEq

namespace Item

def str (b : Bytes) : Item := ⟨false, b⟩

def listOf (items : List Bytes) : Item := ⟨true, items.flatten⟩

def header : Item → Bytes
  | ⟨false, [x]⟩ => if x < 128 then [] else rlpLength 128 1
  | ⟨false, b⟩ => rlpLength 128 b.length
  | ⟨true, b⟩ => rlpLength 192 b.length

def encode (item : Item) : Bytes := item.header ++ item.payload

/-- Longer payloads have no header. -/
def Fits (item : Item) : Prop := item.payload.length < 2 ^ 64

theorem encode_str (b : Bytes) : (str b).encode = rlpBytes b := by
  match b with
  | [] => rfl
  | [x] =>
    show (if x < 128 then [] else rlpLength 128 1) ++ [x] = if x < 128 then [x] else rlpLength 128 1 ++ [x]
    split <;> rfl
  | _ :: _ :: _ => rfl

theorem encode_listOf (items : List Bytes) : (listOf items).encode = rlpList items := rfl

end Item

theorem rlpBytes_of_length_ne {b : Bytes} (h : b.length ≠ 1) : rlpBytes b = rlpLength 128 b.length ++ b := by
  unfold rlpBytes
  split
  · exact absurd rfl h
  · rfl

theorem length_rlpBytes {b : Bytes} (h : b.length ≠ 1) :
    (rlpBytes b).length = (rlpLength 128 b.length).length + b.length := by
  rw [rlpBytes_of_length_ne h, List.length_append]

theorem length_rlpLength_le {offset n : Nat} (hn : n < 2 ^ 64) : (rlpLength offset n).length ≤ 9 := by
  unfold rlpLength
  split
  · exact Nat.le_of_ble_eq_true rfl
  · exact Nat.succ_le_succ (length_beMinimal_le hn)

theorem length_encode_le {item : Item} (h : item.Fits) : item.encode.length ≤ item.payload.length + 9 := by
  have hheader : item.header.length ≤ 9 := by
    unfold Item.header
    split
    · split
      · exact Nat.zero_le 9
      · exact length_rlpLength_le (by decide)
    · exact length_rlpLength_le h
    · exact length_rlpLength_le h
  rw [Item.encode, List.length_append]
  omega

theorem length_rlpNat_le {n k : Nat} (hn : n < 256 ^ k) (hk : k < 56) : (rlpNat n).length ≤ k + 1 := by
  have hle := length_beMinimal_le hn
  unfold rlpNat rlpBytes
  split
  · next x heq =>
    rw [heq, List.length_singleton] at hle
    split
    · rw [List.length_singleton]
      omega
    · exact Nat.succ_le_succ hle
  · rw [rlpLength, if_pos (by omega), List.length_append, List.length_singleton]
    omega

theorem length_flatten_le {items : List Bytes} {k : Nat} (h : ∀ item ∈ items, item.length ≤ k) :
    items.flatten.length ≤ items.length * k := by
  induction items with
  | nil => exact Nat.zero_le _
  | cons item items ih =>
    rw [List.forall_mem_cons] at h
    rw [List.flatten_cons, List.length_append, List.length_cons, Nat.succ_mul, Nat.add_comm]
    exact Nat.add_le_add (ih h.2) h.1

/-- The first `k` bytes as a number. -/
def readNumber (k : Nat) (data : Bytes) : Option Nat := if k ≤ data.length then some (beValue (data.take k)) else none

def readHeader : Bytes → Option (Bool × Nat × Nat)
  | [] => none
  | first :: rest =>
    if first.toNat < 128 then some (false, 0, 1)
    else if first.toNat < 184 then some (false, 1, first.toNat - 128)
    else if first.toNat < 192 then
      (readNumber (first.toNat - 183) rest).map fun n => (false, 1 + (first.toNat - 183), n)
    else if first.toNat < 248 then some (true, 1, first.toNat - 192)
    else (readNumber (first.toNat - 247) rest).map fun n => (true, 1 + (first.toNat - 247), n)

/-- The first item and what follows it. -/
def readItem (data : Bytes) : Option (Item × Bytes) := do
  let (isList, header, length) ← readHeader data
  let body := data.drop header
  if length ≤ body.length then some (⟨isList, body.take length⟩, body.drop length) else none

theorem readNumber_beMinimal (n : Nat) (rest : Bytes) :
    readNumber (beMinimal n).length (beMinimal n ++ rest) = some n := by
  rw [readNumber, if_pos (by simp), List.take_left, beValue_beMinimal]

theorem readHeader_short {n : Nat} (hn : n < 56) (isList : Bool) (rest : Bytes) :
    readHeader (UInt8.ofNat ((if isList then 192 else 128) + n) :: rest) = some (isList, 1, n) := by
  cases isList <;>
    simp (disch := omega) only [Bool.false_eq_true, if_false, if_true, readHeader, UInt8.toNat_ofNat', Nat.mod_eq_of_lt,
      if_neg, if_pos, Nat.add_sub_cancel_left]

theorem readHeader_long {n : Nat} (hpos : 0 < (beMinimal n).length) (hle : (beMinimal n).length ≤ 8) (isList : Bool)
    (rest : Bytes) :
    readHeader (UInt8.ofNat ((if isList then 192 else 128) + 55 + (beMinimal n).length) :: (beMinimal n ++ rest)) =
      some (isList, (beMinimal n).length + 1, n) := by
  cases isList <;>
    simp (disch := omega) only [Bool.false_eq_true, if_false, if_true, readHeader, UInt8.toNat_ofNat', Nat.mod_eq_of_lt,
      if_neg, if_pos, Nat.reduceAdd, Nat.add_sub_cancel_left, readNumber_beMinimal, Option.map_some, Nat.add_comm 1]

theorem readHeader_rlpLength {n : Nat} (hn : n < 2 ^ 64) (isList : Bool) (rest : Bytes) :
    readHeader (rlpLength (if isList then 192 else 128) n ++ rest) =
      some (isList, (rlpLength (if isList then 192 else 128) n).length, n) := by
  unfold rlpLength
  by_cases hshort : n < 56
  · rw [if_pos hshort]
    exact readHeader_short hshort isList rest
  · have hpos : 0 < (beMinimal n).length := length_beMinimal_pos (by omega)
    rw [if_neg hshort]
    exact readHeader_long hpos (length_beMinimal_le hn) isList rest

theorem readHeader_encode {item : Item} (h : item.Fits) (rest : Bytes) :
    readHeader (item.encode ++ rest) = some (item.isList, item.header.length, item.payload.length) := by
  obtain ⟨isList, payload⟩ := item
  unfold Item.encode Item.header
  rw [List.append_assoc]
  split
  · next x hx =>
    obtain ⟨rfl, rfl⟩ := Item.mk.inj hx
    split
    · next hlow =>
      have hlt : x.toNat < 128 := UInt8.lt_iff_toNat_lt.mp hlow
      simp [readHeader, hlt]
    · exact readHeader_rlpLength (by decide) false _
  · next hx =>
    obtain ⟨rfl, rfl⟩ := Item.mk.inj hx
    exact readHeader_rlpLength h false _
  · next hx =>
    obtain ⟨rfl, rfl⟩ := Item.mk.inj hx
    exact readHeader_rlpLength h true _

theorem readItem_encode {item : Item} (h : item.Fits) (rest : Bytes) :
    readItem (item.encode ++ rest) = some (item, rest) := by
  rw [readItem, readHeader_encode h, Item.encode, List.append_assoc]
  show (if item.payload.length ≤ _ then _ else none) = _
  rw [List.drop_left, if_pos (by simp), List.take_left, List.drop_left]

theorem encode_append_inj {a b : Item} (ha : a.Fits) (hb : b.Fits) {x y : Bytes}
    (h : a.encode ++ x = b.encode ++ y) : a = b ∧ x = y := by
  have hread := readItem_encode ha x
  rw [h, readItem_encode hb] at hread
  obtain ⟨rfl, rfl⟩ := Prod.mk.inj (Option.some.inj hread)
  exact ⟨rfl, rfl⟩

/-- As many items in a row are told apart. -/
theorem flatten_encode_append_inj {as bs : List Item} (hlength : as.length = bs.length) (has : ∀ a ∈ as, a.Fits)
    (hbs : ∀ b ∈ bs, b.Fits) {x y : Bytes}
    (h : (as.map Item.encode).flatten ++ x = (bs.map Item.encode).flatten ++ y) : as = bs ∧ x = y := by
  induction as generalizing bs with
  | nil =>
    obtain rfl := List.length_eq_zero_iff.mp hlength.symm
    exact ⟨rfl, h⟩
  | cons a as ih =>
    cases bs with
    | nil => cases hlength
    | cons b bs =>
      rw [List.forall_mem_cons] at has hbs
      simp only [List.map_cons, List.flatten_cons, List.append_assoc] at h
      obtain ⟨rfl, hrest⟩ := encode_append_inj has.1 hbs.1 h
      obtain ⟨rfl, rfl⟩ := ih (Nat.succ.inj hlength) has.2 hbs.2 hrest
      exact ⟨rfl, rfl⟩

theorem encode_ne_nil {item : Item} (h : item.Fits) : item.encode ≠ [] := by
  intro hnil
  have hread := readHeader_encode h []
  rw [hnil] at hread
  cases hread

end Rlp

end Hyperbridge.Lib
