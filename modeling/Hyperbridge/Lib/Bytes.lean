import Mathlib.Algebra.Order.Ring.Nat
import Mathlib.Data.Subtype
import Mathlib.Tactic.Common

/-!
# Byte strings

Byte strings are lists of bytes, and a byte string of a fixed length carries the proof of its length, so
that a 32-byte hash cannot be built from anything else. Integers are written in a fixed number of bytes,
least or most significant byte first, after a cast to that width.
-/

namespace Hyperbridge.Lib

abbrev Bytes := List UInt8

/-- Byte strings of length `n`. -/
def BytesN (n : Nat) : Type := { b : Bytes // b.length = n }

namespace BytesN

variable {n : Nat}

instance : DecidableEq (BytesN n) := inferInstanceAs (DecidableEq { b : Bytes // b.length = n })

def bytes (b : BytesN n) : Bytes := b.1

@[simp] theorem length_bytes (b : BytesN n) : b.bytes.length = n := b.2

theorem bytes_injective : Function.Injective (bytes : BytesN n → Bytes) := Subtype.val_injective

def zero (n : Nat) : BytesN n := ⟨List.replicate n 0, List.length_replicate⟩

/-- The length is checked. -/
def ofBytes (n : Nat) (b : Bytes) : Option (BytesN n) := if h : b.length = n then some ⟨b, h⟩ else none

theorem ofBytes_eq_some {b : Bytes} {x : BytesN n} : ofBytes n b = some x ↔ x.bytes = b := by
  unfold ofBytes
  constructor
  · intro h
    split at h
    · rw [← Option.some.inj h]
      rfl
    · cases h
  · rintro rfl
    exact dif_pos x.length_bytes

theorem exists_ofBytes {b : Bytes} : (∃ x, ofBytes n b = some x) ↔ b.length = n := by
  constructor
  · rintro ⟨x, hx⟩
    rw [← ofBytes_eq_some.mp hx, length_bytes]
  · intro h
    exact ⟨⟨b, h⟩, dif_pos h⟩

end BytesN

abbrev H256 := BytesN 32

abbrev H160 := BytesN 20

def asBytes (s : String) : Bytes := s.toUTF8.data.toList

/-- The decimal digits in ASCII. -/
def decimal (n : Nat) : Bytes := (Nat.toDigits 10 n).map fun c => UInt8.ofNat c.toNat

/-- The low `k` bytes of `n`, least significant byte first. -/
def leBytes : Nat → Nat → Bytes
  | 0, _ => []
  | k + 1, n => UInt8.ofNat n :: leBytes k (n / 256)

/-- The low `k` bytes of `n`, most significant byte first. -/
def beBytes (k n : Nat) : Bytes := (leBytes k n).reverse

@[simp] theorem length_leBytes (k n : Nat) : (leBytes k n).length = k := by
  induction k generalizing n with
  | zero => rfl
  | succ k ih => simp [leBytes, ih]

@[simp] theorem length_beBytes (k n : Nat) : (beBytes k n).length = k := by
  simp [beBytes]

def BytesN.ofNat (k n : Nat) : BytesN k := ⟨beBytes k n, length_beBytes k n⟩

theorem leBytes_inj {k a b : Nat} : leBytes k a = leBytes k b ↔ a % 256 ^ k = b % 256 ^ k := by
  induction k generalizing a b with
  | zero => simp [leBytes, Nat.mod_one]
  | succ k ih =>
    have hbyte : UInt8.ofNat a = UInt8.ofNat b ↔ a % 256 = b % 256 := by
      rw [← UInt8.toNat_inj]
      simp
    have hsplit (n : Nat) : n % 256 ^ (k + 1) = n % 256 + 256 * (n / 256 % 256 ^ k) := by
      rw [Nat.pow_succ', Nat.mod_mul]
    simp only [leBytes, List.cons.injEq, ih, hbyte, hsplit]
    constructor
    · rintro ⟨hlow, hhigh⟩
      rw [hlow, hhigh]
    · intro h
      omega

theorem leBytes_inj_of_lt {k a b : Nat} (ha : a < 256 ^ k) (hb : b < 256 ^ k)
    (h : leBytes k a = leBytes k b) : a = b := by
  rwa [leBytes_inj, Nat.mod_eq_of_lt ha, Nat.mod_eq_of_lt hb] at h

theorem beBytes_inj {k a b : Nat} : beBytes k a = beBytes k b ↔ a % 256 ^ k = b % 256 ^ k := by
  rw [beBytes, beBytes, List.reverse_inj, leBytes_inj]

theorem beBytes_inj_of_lt {k a b : Nat} (ha : a < 256 ^ k) (hb : b < 256 ^ k)
    (h : beBytes k a = beBytes k b) : a = b := by
  rwa [beBytes_inj, Nat.mod_eq_of_lt ha, Nat.mod_eq_of_lt hb] at h

theorem flatten_bytes_injective {n : Nat} (hn : 0 < n) :
    Function.Injective fun l : List (BytesN n) => (l.map BytesN.bytes).flatten := by
  intro l
  induction l with
  | nil =>
    intro l' h
    cases l' with
    | nil => rfl
    | cons b l' =>
      have hlen := congrArg List.length h
      simp at hlen
      omega
  | cons a l ih =>
    intro l' h
    cases l' with
    | nil =>
      have hlen := congrArg List.length h
      simp at hlen
      omega
    | cons b l' =>
      have happ : a.bytes ++ (l.map BytesN.bytes).flatten = b.bytes ++ (l'.map BytesN.bytes).flatten := h
      obtain ⟨hab, hrest⟩ := List.append_inj happ (by simp)
      rw [BytesN.bytes_injective hab, ih hrest]

def beMinimal (n : Nat) : Bytes := if n = 0 then [] else beBytes (Nat.log2 n / 8 + 1) n

def rlpLength (offset length : Nat) : Bytes :=
  if length < 56 then [UInt8.ofNat (offset + length)]
  else UInt8.ofNat (offset + 55 + (beMinimal length).length) :: beMinimal length

/-- A byte string; a single byte below 128 stands for itself. -/
def rlpBytes (b : Bytes) : Bytes :=
  match b with
  | [x] => if x < 128 then [x] else rlpLength 128 1 ++ [x]
  | _ => rlpLength 128 b.length ++ b

def rlpNat (n : Nat) : Bytes := rlpBytes (beMinimal n)

def rlpList (items : List Bytes) : Bytes := rlpLength 192 items.flatten.length ++ items.flatten

def isContinuation (b : UInt8) : Bool := 0x80 ≤ b && b ≤ 0xBF

def validUtf8 : Bytes → Bool
  | [] => true
  | b0 :: t0 =>
    if b0 < 0x80 then validUtf8 t0
    else match t0 with
      | [] => false
      | b1 :: t1 =>
        if 0xC2 ≤ b0 && b0 ≤ 0xDF then isContinuation b1 && validUtf8 t1
        else match t1 with
          | [] => false
          | b2 :: t2 =>
            if (b0 == 0xE0 && 0xA0 ≤ b1 && b1 ≤ 0xBF) || (0xE1 ≤ b0 && b0 ≤ 0xEC && isContinuation b1)
                || (b0 == 0xED && 0x80 ≤ b1 && b1 ≤ 0x9F)
                || (0xEE ≤ b0 && b0 ≤ 0xEF && isContinuation b1) then
              isContinuation b2 && validUtf8 t2
            else match t2 with
              | [] => false
              | b3 :: t3 =>
                if (b0 == 0xF0 && 0x90 ≤ b1 && b1 ≤ 0xBF) || (0xF1 ≤ b0 && b0 ≤ 0xF3 && isContinuation b1)
                    || (b0 == 0xF4 && 0x80 ≤ b1 && b1 ≤ 0x8F) then
                  isContinuation b2 && isContinuation b3 && validUtf8 t3
                else false

/-- A string is kept as its bytes. -/
def fromUtf8 (b : Bytes) : Option Bytes := if validUtf8 b then some b else none

/-- A polynomial digest for samples. -/
def sampleDigest (b : Bytes) : H256 :=
  BytesN.ofNat 32 (b.foldl (fun acc x => (acc * 257 + x.toNat + 1) % 2 ^ 256) 0)

end Hyperbridge.Lib
