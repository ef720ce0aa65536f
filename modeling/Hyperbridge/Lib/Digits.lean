import Hyperbridge.Lib.Scale
import Mathlib.Data.List.Basic

/-!
# Numbers read back from bytes

Decimal texts show where they end only if no digit follows; integers of a fixed width can be read from any bytes.
-/

namespace Hyperbridge.Lib

def isDigit (b : UInt8) : Bool := 48 ≤ b && b ≤ 57

theorem toNat_of_mem_toDigits {n : Nat} {c : Char} (hc : c ∈ Nat.toDigits 10 n) :
    (48 ≤ c.toNat ∧ c.toNat ≤ 57) ∧ (UInt8.ofNat c.toNat).toNat = c.toNat := by
  have hdigit := Nat.isDigit_of_mem_toDigits (by omega) (by omega) hc
  have hrange : 48 ≤ c.toNat ∧ c.toNat ≤ 57 := by
    simpa [Char.isDigit, UInt32.le_iff_toNat_le] using hdigit
  refine ⟨hrange, ?_⟩
  rw [UInt8.toNat_ofNat']
  omega

theorem isDigit_of_mem_decimal {n : Nat} {b : UInt8} (hb : b ∈ decimal n) : isDigit b = true := by
  obtain ⟨c, hc, rfl⟩ := List.mem_map.mp hb
  obtain ⟨hrange, hval⟩ := toNat_of_mem_toDigits hc
  simp only [isDigit, Bool.and_eq_true, decide_eq_true_eq, UInt8.le_iff_toNat_le, hval]
  exact hrange

theorem decimal_ne_nil (n : Nat) : decimal n ≠ [] := by
  simp [decimal]

theorem decimal_of_ten_le {n : Nat} (hn : 10 ≤ n) : ∃ b, decimal n = decimal (n / 10) ++ [b] := by
  refine ⟨UInt8.ofNat (Nat.digitChar (n % 10)).toNat, ?_⟩
  rw [decimal, Nat.toDigits_of_base_le (by omega) hn, List.map_append]
  rfl

theorem length_decimal_of_lt {n : Nat} (hn : n < 10) : (decimal n).length = 1 := by
  rw [decimal, Nat.toDigits_of_lt_base hn]
  rfl

theorem toDigits_eq_map_decimal (n : Nat) : Nat.toDigits 10 n = (decimal n).map fun b => Char.ofNat b.toNat := by
  rw [decimal, List.map_map]
  refine (List.map_id _).symm.trans (List.map_congr_left fun c hc => ?_)
  have hval := (toNat_of_mem_toDigits hc).2
  simp [hval]

/-- A number is known from its digits. -/
theorem decimal_injective : Function.Injective decimal := by
  intro a b h
  have hchars : Nat.toDigits 10 a = Nat.toDigits 10 b := by
    rw [toDigits_eq_map_decimal, toDigits_eq_map_decimal, h]
  have hvalue : Nat.ofDigitChars 10 (Nat.toDigits 10 a) 0 = a := Nat.ofDigitChars_ten_toDigits
  rw [hchars, Nat.ofDigitChars_ten_toDigits] at hvalue
  exact hvalue.symm

/-- Of a string of digits. -/
def decimalValue (b : Bytes) : Nat := b.foldl (fun n d => 10 * n + (d.toNat - 48)) 0

theorem decimalValue_decimal (n : Nat) : decimalValue (decimal n) = n := by
  have hvalue : Nat.ofDigitChars 10 (Nat.toDigits 10 n) 0 = n := Nat.ofDigitChars_ten_toDigits
  rw [Nat.ofDigitChars_eq_foldl] at hvalue
  rw [decimalValue, decimal, List.foldl_map]
  refine Eq.trans (List.foldl_ext _ _ 0 fun acc c hc => ?_) hvalue
  rw [(toNat_of_mem_toDigits hc).2]
  rfl

def parseUnsigned (w : Nat) (b : Bytes) : Option Nat :=
  let digits := if b.head? = some 43 then b.tail else b
  if digits ≠ [] ∧ digits.all isDigit = true ∧ decimalValue digits < 2 ^ w then some (decimalValue digits) else none

theorem parseUnsigned_decimal {w n : Nat} (hn : n < 2 ^ w) : parseUnsigned w (decimal n) = some n := by
  have hhead : (decimal n).head? ≠ some 43 := by
    intro h
    have hdigit := isDigit_of_mem_decimal (List.mem_of_mem_head? h)
    exact absurd hdigit (by decide)
  have hdigits : (decimal n).all isDigit = true := List.all_eq_true.mpr fun _ => isDigit_of_mem_decimal
  rw [parseUnsigned, if_neg hhead, decimalValue_decimal, if_pos ⟨decimal_ne_nil n, hdigits, hn⟩]

/-- Digits end where no digit follows. -/
theorem digits_append_inj {ds ds' x x' : Bytes} (hds : ∀ b ∈ ds, isDigit b = true)
    (hds' : ∀ b ∈ ds', isDigit b = true) (hx : x.takeWhile isDigit = []) (hx' : x'.takeWhile isDigit = [])
    (h : ds ++ x = ds' ++ x') : ds = ds' ∧ x = x' := by
  have hrun := congrArg (List.takeWhile isDigit) h
  rw [List.takeWhile_append_of_pos hds, List.takeWhile_append_of_pos hds', hx, hx', List.append_nil,
    List.append_nil] at hrun
  subst hrun
  exact ⟨rfl, List.append_cancel_left h⟩

/-- Most significant byte first. -/
def beValue (b : Bytes) : Nat := leValue b.reverse

theorem beValue_lt (b : Bytes) : beValue b < 256 ^ b.length := by
  have h := leValue_lt b.reverse
  rwa [List.length_reverse] at h

theorem beBytes_beValue (b : Bytes) : beBytes b.length (beValue b) = b := by
  have h := leBytes_leValue b.reverse
  rw [List.length_reverse] at h
  rw [beBytes, beValue, h, List.reverse_reverse]

theorem beBytes_uint64_inj {a b : UInt64} : beBytes 8 a.toNat = beBytes 8 b.toNat ↔ a = b := by
  have ha : a.toNat < 256 ^ 8 := a.toNat_lt
  have hb : b.toNat < 256 ^ 8 := b.toNat_lt
  rw [beBytes_inj, Nat.mod_eq_of_lt ha, Nat.mod_eq_of_lt hb, UInt64.toNat_inj]

/-- Eight bytes are an integer. -/
theorem exists_beBytes_uint64 {x : Bytes} (hx : 8 ≤ x.length) :
    ∃ (n : UInt64) (rest : Bytes), x = beBytes 8 n.toNat ++ rest ∧ rest.length + 8 = x.length := by
  have hlen : (x.take 8).length = 8 := List.length_take_of_le hx
  have hlt : beValue (x.take 8) < 256 ^ 8 := by
    have h := beValue_lt (x.take 8)
    rwa [hlen] at h
  have hval : (UInt64.ofNat (beValue (x.take 8))).toNat = beValue (x.take 8) := by
    rw [UInt64.toNat_ofNat']
    exact Nat.mod_eq_of_lt hlt
  have hbytes : beBytes 8 (beValue (x.take 8)) = x.take 8 := by
    have h := beBytes_beValue (x.take 8)
    rwa [hlen] at h
  refine ⟨UInt64.ofNat (beValue (x.take 8)), x.drop 8, ?_, ?_⟩
  · rw [hval, hbytes, List.take_append_drop]
  · rw [List.length_drop]
    omega

theorem beValue_beBytes (k n : Nat) : beValue (beBytes k n) = n % 256 ^ k := by
  rw [beValue, beBytes, List.reverse_reverse, leValue_leBytes]

end Hyperbridge.Lib
