import Hyperbridge.Lib.Digits
import Hyperbridge.Lib.Solidity

/-!
# Words of the contract ABI

The fields of a struct are words of 32 bytes in a row: integers, hashes, addresses, or truth values. What has no fixed
length stands behind the fields, and a word says where: arrays and byte strings start with their length.

Integers of 256 bits are added and subtracted as `primitive_types` does it: there is no result where it would not fit.
-/

namespace Hyperbridge.Lib

namespace U256

def overflowText : String := "arithmetic operation overflow"

/-- `none` on overflow. -/
def checkedAdd (a b : U256) : Option U256 := if a.toNat + b.toNat < 2 ^ 256 then some (a + b) else none

/-- `none` on underflow. -/
def checkedSub (a b : U256) : Option U256 := if b.toNat ≤ a.toNat then some (a - b) else none

theorem checkedAdd_eq_some {a b c : U256} : checkedAdd a b = some c ↔ c.toNat = a.toNat + b.toNat := by
  unfold checkedAdd
  split
  · rename_i h
    rw [Option.some.injEq, ← BitVec.toNat_inj, BitVec.toNat_add, Nat.mod_eq_of_lt h]
    exact eq_comm
  · have := c.isLt
    simp only [reduceCtorEq, false_iff]
    omega

theorem checkedSub_eq_some {a b c : U256} : checkedSub a b = some c ↔ c.toNat + b.toNat = a.toNat := by
  unfold checkedSub
  split
  · rename_i h
    rw [Option.some.injEq, ← BitVec.toNat_inj, BitVec.toNat_sub_of_le h]
    omega
  · simp only [reduceCtorEq, false_iff]
    omega

def toWord (n : U256) : H256 := BytesN.ofNat 32 n.toNat

def ofWord (w : H256) : U256 := BitVec.ofNat 256 (beValue w.bytes)

theorem ofWord_toWord (n : U256) : ofWord (toWord n) = n := by
  have hlt : n.toNat < 256 ^ 32 := n.isLt
  rw [ofWord, toWord, BytesN.bytes, BytesN.ofNat, beValue_beBytes, Nat.mod_eq_of_lt hlt, BitVec.ofNat_toNat,
    BitVec.setWidth_eq]

end U256

def boolWord (b : Bool) : H256 := BytesN.ofNat 32 (if b then 1 else 0)

/-- Other words are not accepted. -/
def readBool (w : H256) : Option Bool :=
  if w = boolWord true then some true else if w = boolWord false then some false else none

theorem boolWord_ne : boolWord false ≠ boolWord true := by decide

theorem readBool_boolWord (b : Bool) : readBool (boolWord b) = some b := by
  cases b with
  | true => rw [readBool, if_pos rfl]
  | false => rw [readBool, if_neg boolWord_ne, if_pos rfl]

def abiWords (ws : List H256) : Bytes := (ws.map BytesN.bytes).flatten

/-- The word at position `i`. -/
def abiWord (data : Bytes) (i : Nat) : Option H256 := BytesN.ofBytes 32 ((data.drop (32 * i)).take 32)

theorem length_abiWords (ws : List H256) : (abiWords ws).length = 32 * ws.length := by
  induction ws with
  | nil => rfl
  | cons w ws ih =>
    show (w.bytes ++ abiWords ws).length = 32 * (ws.length + 1)
    rw [List.length_append, ih, BytesN.length_bytes]
    omega

theorem abiWord_cons_zero (w : H256) (rest : Bytes) : abiWord (w.bytes ++ rest) 0 = some w :=
  BytesN.ofBytes_eq_some.mpr (List.take_left' w.length_bytes).symm

theorem abiWord_cons_succ (w : H256) (rest : Bytes) (i : Nat) :
    abiWord (w.bytes ++ rest) (i + 1) = abiWord rest i := by
  have hdrop : (w.bytes ++ rest).drop (32 * (i + 1)) = rest.drop (32 * i) := by
    rw [List.drop_append, w.length_bytes, List.drop_eq_nil_of_le (by rw [w.length_bytes]; omega), List.nil_append]
    congr 1
  rw [abiWord, abiWord, hdrop]

theorem abiWord_abiWords {ws : List H256} {i : Nat} (hi : i < ws.length) (rest : Bytes) :
    abiWord (abiWords ws ++ rest) i = ws[i]? := by
  induction ws generalizing i with
  | nil => cases hi
  | cons w ws ih =>
    have happ : abiWords (w :: ws) ++ rest = w.bytes ++ (abiWords ws ++ rest) := by
      rw [← List.append_assoc]
      rfl
    rw [happ]
    cases i with
    | zero => exact abiWord_cons_zero w _
    | succ i => rw [abiWord_cons_succ, ih (Nat.lt_of_succ_lt_succ hi), List.getElem?_cons_succ]

/-- Padded with zeros to whole words. -/
def abiBytes (b : Bytes) : Bytes :=
  (BytesN.ofNat 32 b.length).bytes ++ b ++ List.replicate ((32 - b.length % 32) % 32) 0

theorem zeros_of_abiBytes_eq {b b' : Bytes} (h : abiBytes b = abiBytes b') :
    b ++ List.replicate ((32 - b.length % 32) % 32) 0 = b' ++ List.replicate ((32 - b'.length % 32) % 32) 0 := by
  unfold abiBytes at h
  rw [List.append_assoc, List.append_assoc] at h
  exact List.append_inj_right h (by rw [BytesN.length_bytes, BytesN.length_bytes])

theorem beValue_ofNat {n : Nat} (hn : n < 2 ^ 256) : beValue (BytesN.ofNat 32 n).bytes = n := by
  rw [BytesN.bytes, BytesN.ofNat, beValue_beBytes]
  exact Nat.mod_eq_of_lt hn

theorem length_addressWord (a : H160) : (List.replicate 12 (0 : UInt8) ++ a.bytes).length = 32 := by
  rw [List.length_append, List.length_replicate, a.length_bytes]

/-- An address is the low part of a word. -/
def addressWord (a : H160) : H256 := ⟨List.replicate 12 0 ++ a.bytes, length_addressWord a⟩

/-- The high part must be zero. -/
def readAddress (w : H256) : Option H160 :=
  if w.bytes.take 12 = List.replicate 12 0 then BytesN.ofBytes 20 (w.bytes.drop 12) else none

theorem readAddress_addressWord (a : H160) : readAddress (addressWord a) = some a := by
  have htake : (addressWord a).bytes.take 12 = List.replicate 12 0 := List.take_left' List.length_replicate
  have hdrop : (addressWord a).bytes.drop 12 = a.bytes := List.drop_left' List.length_replicate
  rw [readAddress, if_pos htake, hdrop, BytesN.ofBytes_eq_some]

theorem bind_of_eq_some {α β : Type} {x : Option α} {f : α → Option β} {a : α} {r : Option β} (hx : x = some a)
    (hf : f a = r) : (x >>= f) = r := by
  rw [hx]
  exact hf

/-- What the offset in word `i` points to. -/
def abiTail (data : Bytes) (i : Nat) : Option Bytes := (abiWord data i).map fun w => data.drop (beValue w.bytes)

theorem abiTail_of_word {data front tail : Bytes} {i : Nat} (hdata : data = front ++ tail)
    (hlength : front.length < 2 ^ 256) (hword : abiWord data i = some (BytesN.ofNat 32 front.length)) :
    abiTail data i = some tail := by
  rw [abiTail, hword, Option.map_some, beValue_ofNat hlength, hdata, List.drop_left]

def abiArray (length : Nat) (ws : List H256) : Bytes := (BytesN.ofNat 32 length).bytes ++ abiWords ws

def readWords : Nat → Bytes → Option (List H256)
  | 0, _ => some []
  | n + 1, data => do
      let w ← abiWord data 0
      let ws ← readWords n (data.drop 32)
      some (w :: ws)

def readArray (size : Nat) (data : Bytes) : Option (List H256) := do
  let length ← abiWord data 0
  readWords (beValue length.bytes * size) (data.drop 32)

/-- The padding is not looked at. -/
def readBytes (data : Bytes) : Option Bytes := do
  let length ← abiWord data 0
  let b := (data.drop 32).take (beValue length.bytes)
  if b.length = beValue length.bytes then some b else none

theorem readWords_abiWords (ws : List H256) (rest : Bytes) : readWords ws.length (abiWords ws ++ rest) = some ws := by
  induction ws with
  | nil => rfl
  | cons w ws ih =>
    have happ : abiWords (w :: ws) ++ rest = w.bytes ++ (abiWords ws ++ rest) := by
      rw [← List.append_assoc]
      rfl
    have hdrop : (w.bytes ++ (abiWords ws ++ rest)).drop 32 = abiWords ws ++ rest := List.drop_left' w.length_bytes
    rw [List.length_cons, happ, readWords, abiWord_cons_zero, hdrop, ih]
    rfl

theorem readArray_abiArray {size n : Nat} {ws : List H256} (hn : n < 2 ^ 256) (hws : ws.length = n * size)
    (rest : Bytes) : readArray size (abiArray n ws ++ rest) = some ws := by
  have hhead : abiWord (abiArray n ws ++ rest) 0 = some (BytesN.ofNat 32 n) := by
    rw [abiArray, List.append_assoc]
    exact abiWord_cons_zero _ _
  have htail : (abiArray n ws ++ rest).drop 32 = abiWords ws ++ rest := by
    rw [abiArray, List.append_assoc]
    exact List.drop_left' (BytesN.length_bytes _)
  simp only [readArray, hhead, htail, Option.bind_eq_bind, Option.bind_some, beValue_ofNat hn, ← hws]
  exact readWords_abiWords ws rest

theorem readBytes_abiBytes {b : Bytes} (hb : b.length < 2 ^ 256) (rest : Bytes) :
    readBytes (abiBytes b ++ rest) = some b := by
  have hhead : abiWord (abiBytes b ++ rest) 0 = some (BytesN.ofNat 32 b.length) := by
    rw [abiBytes, List.append_assoc, List.append_assoc]
    exact abiWord_cons_zero _ _
  have hbytes : ((abiBytes b ++ rest).drop 32).take b.length = b := by
    rw [abiBytes, List.append_assoc, List.append_assoc, List.drop_left' (BytesN.length_bytes _)]
    exact List.take_left' rfl
  simp only [readBytes, hhead, hbytes, Option.bind_eq_bind, Option.bind_some, beValue_ofNat hb, if_true]

end Hyperbridge.Lib
