import Hyperbridge.Lib.Scale

/-!
# Codecs

A codec writes the values of a type and reads them back from the front of its input. It carries its law: what
is read are the values whose encodings the input starts with. The codecs of SCALE are put together here from
those of bytes, fixed-width integers and compact lengths; a list with a bound on its length is a subtype, so
that every value of it can be written.
-/

namespace Hyperbridge.Lib

/-- `decode` also gives the rest of the input. -/
structure Codec (α : Type) where
  encode : α → Bytes
  decode : Bytes → Option (α × Bytes)
  decode_eq_some : ∀ {b : Bytes} {a : α} {rest : Bytes}, decode b = some (a, rest) ↔ b = encode a ++ rest

/-- `BoundedVec`. -/
abbrev Bounded (α : Type) (n : Nat) := { l : List α // l.length ≤ n }

namespace Codec

variable {α β : Type}

variable (c : Codec α)

/-- `decode`; a rest is ignored. -/
def read (b : Bytes) : Option α := (c.decode b).map Prod.fst

theorem decode_encode (a : α) (rest : Bytes) : c.decode (c.encode a ++ rest) = some (a, rest) :=
  c.decode_eq_some.mpr rfl

@[simp] theorem read_encode (a : α) : c.read (c.encode a) = some a := by
  have h := c.decode_encode a []
  rw [List.append_nil] at h
  rw [read, h, Option.map_some]

def byte : Codec UInt8 where
  encode b := [b]
  decode
    | [] => none
    | b :: rest => some (b, rest)
  decode_eq_some {b a rest} := by
    cases b with
    | nil => simp
    | cons b bs => simp

def fixed (n : Nat) : Codec (BytesN n) where
  encode b := b.bytes
  decode b := (BytesN.ofBytes n (b.take n)).map fun a => (a, b.drop n)
  decode_eq_some {b a rest} := by
    simp only [Option.map_eq_some_iff, Prod.mk.injEq, BytesN.ofBytes_eq_some]
    constructor
    · rintro ⟨x, hx, rfl, rfl⟩
      rw [hx, List.take_append_drop]
    · rintro rfl
      exact ⟨a, (List.take_left' a.length_bytes).symm, rfl, List.drop_left' a.length_bytes⟩

theorem fixed_encode {n : Nat} (b : BytesN n) : (fixed n).encode b = b.bytes := rfl

/-- The codec of an isomorphic type. -/
def imap (f : α → β) (g : β → α) (hfg : ∀ b, f (g b) = b) (hgf : ∀ a, g (f a) = a) : Codec β where
  encode b := c.encode (g b)
  decode b := (c.decode b).map fun p => (f p.1, p.2)
  decode_eq_some {b x rest} := by
    simp only [Option.map_eq_some_iff, Prod.mk.injEq, Prod.exists, c.decode_eq_some]
    constructor
    · rintro ⟨a, _, rfl, rfl, rfl⟩
      rw [hgf]
    · rintro rfl
      exact ⟨g x, rest, rfl, hfg x, rfl⟩

/-- Two values in a row. -/
def pair (d : Codec β) : Codec (α × β) where
  encode p := c.encode p.1 ++ d.encode p.2
  decode b := do
    let (x, b) ← c.decode b
    let (y, rest) ← d.decode b
    some ((x, y), rest)
  decode_eq_some {b p rest} := by
    obtain ⟨x, y⟩ := p
    simp only [Option.bind_eq_bind, Option.bind_eq_some_iff, Prod.exists, Option.some.injEq, Prod.mk.injEq,
      c.decode_eq_some, d.decode_eq_some]
    constructor
    · rintro ⟨x', b', rfl, y', rest', rfl, ⟨rfl, rfl⟩, rfl⟩
      rw [List.append_assoc]
    · rintro rfl
      exact ⟨x, d.encode y ++ rest, List.append_assoc .., y, rest, rfl, ⟨rfl, rfl⟩, rfl⟩

/-- A tag byte, then the value. -/
def option : Codec (Option α) where
  encode
    | none => [0]
    | some a => 1 :: c.encode a
  decode
    | [] => none
    | tag :: b =>
        if tag = 0 then some (none, b)
        else if tag = 1 then (c.decode b).map fun p => (some p.1, p.2)
        else none
  decode_eq_some {b a rest} := by
    cases b with
    | nil => cases a <;> simp
    | cons tag b =>
      by_cases h0 : tag = 0
      · subst h0
        cases a <;> simp
      · by_cases h1 : tag = 1
        · subst h1
          cases a with
          | none => simp
          | some a => simp [c.decode_eq_some]
        · cases a <;> simp [h0, h1]

/-- A variant of an enumeration, behind its tag. -/
def tagged (make : α → β) (b : Bytes) : Option (β × Bytes) :=
  (c.decode b).map fun p => (make p.1, p.2)

theorem tagged_eq_some {c : Codec α} {make : α → β} {b : Bytes} {x : β} {rest : Bytes} :
    tagged c make b = some (x, rest) ↔ ∃ a, x = make a ∧ b = c.encode a ++ rest := by
  simp only [tagged, Option.map_eq_some_iff, Prod.mk.injEq, Prod.exists, c.decode_eq_some]
  constructor
  · rintro ⟨a, _, rfl, rfl, rfl⟩
    exact ⟨a, rfl, rfl⟩
  · rintro ⟨a, rfl, rfl⟩
    exact ⟨a, rest, rfl, rfl, rfl⟩

/-- `k` bytes are `w` bits. -/
def uint (k w : Nat) (hw : 256 ^ k = 2 ^ w) : Codec (BitVec w) :=
  (fixed k).imap (fun b => BitVec.ofNat w (leValue b.bytes)) (fun n => ⟨leBytes k n.toNat, length_leBytes k _⟩)
    (fun n => by
      apply BitVec.eq_of_toNat_eq
      have hvalue : leValue (leBytes k n.toNat) = n.toNat := by
        rw [leValue_leBytes, hw, Nat.mod_eq_of_lt n.isLt]
      show (BitVec.ofNat w (leValue (leBytes k n.toNat))).toNat = n.toNat
      rw [hvalue, BitVec.toNat_ofNat, Nat.mod_eq_of_lt n.isLt])
    (fun b => by
      apply BytesN.bytes_injective
      have hlt := leValue_lt b.bytes
      rw [b.length_bytes, hw] at hlt
      show leBytes k (BitVec.ofNat w (leValue b.bytes)).toNat = b.bytes
      rw [BitVec.toNat_ofNat, Nat.mod_eq_of_lt hlt]
      have hbytes := leBytes_leValue b.bytes
      rw [b.length_bytes] at hbytes
      exact hbytes)

def u32 : Codec UInt32 := (uint 4 32 (by decide)).imap UInt32.ofBitVec UInt32.toBitVec (fun _ => rfl) (fun _ => rfl)

theorem u32_encode (n : UInt32) : u32.encode n = leBytes 4 n.toNat := rfl

def u64 : Codec UInt64 := (uint 8 64 (by decide)).imap UInt64.ofBitVec UInt64.toBitVec (fun _ => rfl) (fun _ => rfl)

def u128 : Codec (BitVec 128) := uint 16 128 (by decide)

/-- `Compact<u32>`: only the shortest form is read. -/
def length : Codec { n : Nat // n < 2 ^ 32 } where
  encode n := compact n
  decode b :=
    match uncompact b with
    | none => none
    | some (n, rest) => if h : n < 2 ^ 32 ∧ b = compact n ++ rest then some (⟨n, h.1⟩, rest) else none
  decode_eq_some {b n rest} := by
    constructor
    · intro h
      split at h
      · cases h
      · rename_i m rest' _
        split at h
        · rename_i hm
          obtain ⟨hn, rfl⟩ := Prod.mk.inj (Option.some.inj h)
          rw [← hn]
          exact hm.2
        · cases h
    · rintro rfl
      have hn : n.1 < 2 ^ 256 := n.2.trans (by decide)
      simp only [uncompact_compact hn, n.2, and_self, dite_true]

def decodeMany (c : Codec α) : Nat → Bytes → Option (List α × Bytes)
  | 0, b => some ([], b)
  | n + 1, b => do
      let (a, b) ← c.decode b
      let (l, rest) ← decodeMany c n b
      some (a :: l, rest)

theorem decodeMany_eq_some {n : Nat} {b : Bytes} {l : List α} {rest : Bytes} :
    decodeMany c n b = some (l, rest) ↔ l.length = n ∧ b = l.flatMap c.encode ++ rest := by
  induction n generalizing b l with
  | zero =>
    cases l with
    | nil => simp [decodeMany]
    | cons a l => simp [decodeMany]
  | succ n ih =>
    simp only [decodeMany, Option.bind_eq_bind, Option.bind_eq_some_iff, Prod.exists, Option.some.injEq, Prod.mk.injEq,
      c.decode_eq_some]
    constructor
    · rintro ⟨a, b', rfl, l', rest', hmany, rfl, rfl⟩
      obtain ⟨hlength, rfl⟩ := ih.mp hmany
      exact ⟨congrArg Nat.succ hlength, by rw [List.flatMap_cons, List.append_assoc]⟩
    · rintro ⟨hlength, rfl⟩
      obtain ⟨a, l', rfl⟩ := List.exists_cons_of_length_eq_add_one hlength
      refine ⟨a, l'.flatMap c.encode ++ rest, ?_, l', rest, ih.mpr ⟨Nat.succ.inj hlength, rfl⟩, rfl, rfl⟩
      rw [List.flatMap_cons, List.append_assoc]

/-- The length, then the elements. -/
def vec (n : Nat) (hn : n < 2 ^ 32) : Codec (Bounded α n) where
  encode l := compact l.1.length ++ l.1.flatMap c.encode
  decode b := do
    let (length, b) ← length.decode b
    let (l, rest) ← decodeMany c length b
    if h : l.length ≤ n then some (⟨l, h⟩, rest) else none
  decode_eq_some {b l rest} := by
    simp only [Option.bind_eq_bind, Option.bind_eq_some_iff, Prod.exists, length.decode_eq_some, decodeMany_eq_some]
    constructor
    · rintro ⟨length, _, rfl, items, _, ⟨hlength, rfl⟩, h⟩
      split at h
      · obtain ⟨rfl, rfl⟩ := Prod.mk.inj (Option.some.inj h)
        show compact length.1 ++ _ = compact items.length ++ items.flatMap c.encode ++ _
        rw [hlength, List.append_assoc]
      · cases h
    · rintro rfl
      refine ⟨⟨l.1.length, l.2.trans_lt hn⟩, l.1.flatMap c.encode ++ rest, List.append_assoc .., l.1, rest,
        ⟨rfl, rfl⟩, ?_⟩
      rw [dif_pos l.2]

end Codec

end Hyperbridge.Lib
