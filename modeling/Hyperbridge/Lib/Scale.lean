import Hyperbridge.Lib.Bytes

/-!
# SCALE

The parts of the SCALE codec that carry lengths: compact integers, and byte strings behind their compact
length. Both show where they end: there is a decoder for compact integers that gives back the rest of the input.
-/

namespace Hyperbridge.Lib

/-- Least significant byte first. -/
def leValue : Bytes → Nat
  | [] => 0
  | b :: bs => b.toNat + 256 * leValue bs

theorem leValue_leBytes (k n : Nat) : leValue (leBytes k n) = n % 256 ^ k := by
  induction k generalizing n with
  | zero => simp [leBytes, leValue, Nat.mod_one]
  | succ k ih =>
    rw [leBytes, leValue, ih, Nat.pow_succ', Nat.mod_mul]
    simp

theorem leValue_lt (b : Bytes) : leValue b < 256 ^ b.length := by
  induction b with
  | nil => simp [leValue]
  | cons x b ih =>
    have hx : x.toNat < 256 := x.toNat_lt
    rw [leValue, List.length_cons, Nat.pow_succ']
    omega

theorem leBytes_leValue (b : Bytes) : leBytes b.length (leValue b) = b := by
  induction b with
  | nil => rfl
  | cons x b ih =>
    have hx : x.toNat < 256 := x.toNat_lt
    have hlow : UInt8.ofNat (x.toNat + 256 * leValue b) = x := by
      rw [← UInt8.toNat_inj, UInt8.toNat_ofNat']
      omega
    have hhigh : (x.toNat + 256 * leValue b) / 256 = leValue b := by omega
    rw [List.length_cons, leValue, leBytes, hlow, hhigh, ih]

def byteLength (n : Nat) : Nat := Nat.log2 n / 8 + 1

theorem lt_pow_byteLength (n : Nat) : n < 256 ^ byteLength n := by
  have hlog : n < 2 ^ (Nat.log2 n + 1) := Nat.lt_log2_self
  have hexp : Nat.log2 n + 1 ≤ 8 * byteLength n := by
    unfold byteLength
    omega
  calc n < 2 ^ (Nat.log2 n + 1) := hlog
    _ ≤ 2 ^ (8 * byteLength n) := Nat.pow_le_pow_right (by omega) hexp
    _ = 256 ^ byteLength n := by rw [Nat.pow_mul]

def compact (n : Nat) : Bytes :=
  if n < 2 ^ 6 then leBytes 1 (4 * n)
  else if n < 2 ^ 14 then leBytes 2 (4 * n + 1)
  else if n < 2 ^ 30 then leBytes 4 (4 * n + 2)
  else leBytes 1 (4 * (byteLength n - 4) + 3) ++ leBytes (byteLength n) n

/-- A number in a fixed width, above the two bits of its form. -/
def readShort (width : Nat) (bs : Bytes) : Option (Nat × Bytes) :=
  some (leValue (bs.take width) / 4, bs.drop width)

/-- Forms that are longer than needed are read too. -/
def uncompact : Bytes → Option (Nat × Bytes)
  | [] => none
  | b :: bs =>
    if b.toNat % 4 = 0 then readShort 1 (b :: bs)
    else if b.toNat % 4 = 1 then readShort 2 (b :: bs)
    else if b.toNat % 4 = 2 then readShort 4 (b :: bs)
    else some (leValue (bs.take (b.toNat / 4 + 4)), bs.drop (b.toNat / 4 + 4))

theorem take_leBytes_append (k n : Nat) (rest : Bytes) : (leBytes k n ++ rest).take k = leBytes k n :=
  List.take_left' (length_leBytes k n)

theorem drop_leBytes_append (k n : Nat) (rest : Bytes) : (leBytes k n ++ rest).drop k = rest :=
  List.drop_left' (length_leBytes k n)

theorem readShort_leBytes {k n m : Nat} (hm : m < 4) (hn : 4 * n + m < 256 ^ k) (rest : Bytes) :
    readShort k (leBytes k (4 * n + m) ++ rest) = some (n, rest) := by
  have hvalue : (4 * n + m) / 4 = n := by omega
  rw [readShort, take_leBytes_append, drop_leBytes_append, leValue_leBytes, Nat.mod_eq_of_lt hn, hvalue]

theorem uncompact_leBytes {k n m : Nat} (hm : m < 4) (rest : Bytes) :
    uncompact (leBytes (k + 1) (4 * n + m) ++ rest) =
      if m = 0 then readShort 1 (leBytes (k + 1) (4 * n + m) ++ rest)
      else if m = 1 then readShort 2 (leBytes (k + 1) (4 * n + m) ++ rest)
      else if m = 2 then readShort 4 (leBytes (k + 1) (4 * n + m) ++ rest)
      else
        let width := (UInt8.ofNat (4 * n + m)).toNat / 4 + 4
        some (leValue ((leBytes k ((4 * n + m) / 256) ++ rest).take width),
          (leBytes k ((4 * n + m) / 256) ++ rest).drop width) := by
  have hmode : (UInt8.ofNat (4 * n + m)).toNat % 4 = m := by
    simp only [UInt8.toNat_ofNat']
    omega
  simp only [leBytes, List.cons_append, uncompact, hmode]

theorem uncompact_compact {n : Nat} (hn : n < 2 ^ 256) (rest : Bytes) :
    uncompact (compact n ++ rest) = some (n, rest) := by
  unfold compact
  split
  · have h := uncompact_leBytes (k := 0) (n := n) (m := 0) (by omega) rest
    rw [if_pos rfl] at h
    exact h.trans (readShort_leBytes (by omega) (by omega) rest)
  split
  · have h := uncompact_leBytes (k := 1) (n := n) (m := 1) (by omega) rest
    rw [if_neg (by omega), if_pos rfl] at h
    exact h.trans (readShort_leBytes (by omega) (by omega) rest)
  split
  · have h := uncompact_leBytes (k := 3) (n := n) (m := 2) (by omega) rest
    rw [if_neg (by omega), if_neg (by omega), if_pos rfl] at h
    exact h.trans (readShort_leBytes (by omega) (by omega) rest)
  · rename_i hbig
    have hlow : 4 ≤ byteLength n := by
      have hlog : 30 ≤ Nat.log2 n := (Nat.le_log2 (by omega)).mpr (by omega)
      unfold byteLength
      omega
    have hhigh : byteLength n ≤ 32 := by
      have hlog : Nat.log2 n < 256 := (Nat.log2_lt (by omega)).mpr hn
      unfold byteLength
      omega
    have hwidth : (UInt8.ofNat (4 * (byteLength n - 4) + 3)).toNat / 4 + 4 = byteLength n := by
      simp only [UInt8.toNat_ofNat']
      omega
    have h := uncompact_leBytes (k := 0) (n := byteLength n - 4) (m := 3) (by omega)
      (leBytes (byteLength n) n ++ rest)
    rw [if_neg (by omega), if_neg (by omega), if_neg (by omega)] at h
    simp only [hwidth] at h
    rw [List.append_assoc, h, leBytes, List.nil_append, take_leBytes_append, drop_leBytes_append,
      leValue_leBytes, Nat.mod_eq_of_lt (lt_pow_byteLength n)]

theorem compact_append_inj {a b : Nat} (ha : a < 2 ^ 256) (hb : b < 2 ^ 256) {x y : Bytes}
    (h : compact a ++ x = compact b ++ y) : a = b ∧ x = y := by
  have hboth : some (a, x) = some (b, y) := by rw [← uncompact_compact ha x, ← uncompact_compact hb y, h]
  exact Prod.mk.inj (Option.some.inj hboth)

/-- A byte string behind its length. -/
def scaleBytes (b : Bytes) : Bytes := compact b.length ++ b

theorem scaleBytes_append_inj {a b x y : Bytes} (ha : a.length < 2 ^ 256) (hb : b.length < 2 ^ 256)
    (h : scaleBytes a ++ x = scaleBytes b ++ y) : a = b ∧ x = y := by
  rw [scaleBytes, scaleBytes, List.append_assoc, List.append_assoc] at h
  obtain ⟨hlen, hrest⟩ := compact_append_inj ha hb h
  exact List.append_inj hrest hlen

end Hyperbridge.Lib
