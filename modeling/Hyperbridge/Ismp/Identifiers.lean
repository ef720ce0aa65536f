import Hyperbridge.Ismp.Commitments
import Hyperbridge.TokenGateway.Primitives
import Mathlib.Data.List.TakeWhile

/-!
# Identifiers of state machines as texts

`Display` writes the kind of a state machine, a hyphen and its identifier; `FromStr` looks at the kind and takes
what stands behind the last hyphen. An identifier of four bytes can be anything: one that is not UTF-8 has no text,
and one with a hyphen is cut by the reader, which then panics on the length of the rest.
-/

namespace Hyperbridge.Ismp

open Lib

namespace StateMachine

def hyphen : UInt8 := 45

/-- What stands behind the last hyphen. -/
def lastPart (b : Bytes) : Bytes := (b.reverse.takeWhile (· ≠ hyphen)).reverse

/-- The panic of `copy_from_slice`. -/
def copyPanic (length : Nat) : String :=
  "source slice length (" ++ toString length ++ ") does not match destination slice length (4)"

def readNumber (make : UInt32 → StateMachine) (name : Bytes) : Outcome Bytes StateMachine :=
  match parseUnsigned 32 (lastPart name) with
  | some id => .ok (make (UInt32.ofNat id))
  | none => .err (asBytes "invalid state machine: " ++ name)

variable (make : BytesN 4 → StateMachine)

def readId (name : Bytes) : Outcome Bytes StateMachine :=
  match BytesN.ofBytes 4 (lastPart name) with
  | some id => .ok (make id)
  | none => .panic (copyPanic (lastPart name).length)

/-- `StateMachine::from_str`. -/
def fromStr (name : Bytes) : Outcome Bytes StateMachine :=
  if (asBytes "EVM-").isPrefixOf name then readNumber .evm name
  else if (asBytes "POLKADOT-").isPrefixOf name then readNumber .polkadot name
  else if (asBytes "KUSAMA-").isPrefixOf name then readNumber .kusama name
  else if (asBytes "SUBSTRATE-").isPrefixOf name then readId .substrate name
  else if (asBytes "TNDRMINT-").isPrefixOf name then readId .tendermint name
  else .err (asBytes "Unknown state machine: " ++ name)

variable {s : StateMachine} {b name : Bytes}

theorem lastPart_eq_self (hb : hyphen ∉ b) : lastPart b = b := by
  have hall : ∀ x ∈ b.reverse, decide (x ≠ hyphen) = true := by
    intro x hx
    apply decide_eq_true
    intro h
    rw [h, List.mem_reverse] at hx
    exact hb hx
  rw [lastPart, List.takeWhile_eq_self_iff.mpr hall, List.reverse_reverse]

theorem hyphen_notMem_lastPart (b : Bytes) : hyphen ∉ lastPart b := by
  intro h
  rw [lastPart, List.mem_reverse] at h
  have hkept := List.mem_takeWhile_imp h
  simp at hkept

theorem lastPart_eq_self_iff : lastPart b = b ↔ hyphen ∉ b := by
  constructor
  · intro h
    rw [← h]
    exact hyphen_notMem_lastPart b
  · exact lastPart_eq_self

theorem lastPart_append_hyphen (a b : Bytes) : lastPart (a ++ hyphen :: b) = lastPart b := by
  rw [lastPart, lastPart, List.reverse_append, List.reverse_cons, List.append_assoc, List.takeWhile_append]
  split
  · next h =>
    have hfront : b.reverse.takeWhile (· ≠ hyphen) <+: b.reverse := List.takeWhile_prefix _
    rw [hfront.eq_of_length h]
    simp
  · rfl

theorem length_lastPart_eq_iff : (lastPart b).length = b.length ↔ hyphen ∉ b := by
  rw [← lastPart_eq_self_iff]
  constructor
  · intro h
    have hfront : b.reverse.takeWhile (· ≠ hyphen) <+: b.reverse := List.takeWhile_prefix _
    have hsuffix := List.reverse_suffix.mpr hfront
    rw [List.reverse_reverse] at hsuffix
    exact hsuffix.eq_of_length h
  · intro h
    rw [h]

theorem exists_kind_eq (s : StateMachine) : ∃ word, s.kind = word ++ [hyphen] := by
  cases s with
  | evm id => exact ⟨asBytes "EVM", rfl⟩
  | polkadot id => exact ⟨asBytes "POLKADOT", rfl⟩
  | kusama id => exact ⟨asBytes "KUSAMA", rfl⟩
  | substrate id => exact ⟨asBytes "SUBSTRATE", rfl⟩
  | tendermint id => exact ⟨asBytes "TNDRMINT", rfl⟩

/-- The kind ends in a hyphen. -/
theorem lastPart_kind_append (s : StateMachine) (b : Bytes) : lastPart (s.kind ++ b) = lastPart b := by
  obtain ⟨word, hword⟩ := exists_kind_eq s
  rw [hword, List.append_assoc]
  exact lastPart_append_hyphen word b

theorem lastPart_decimal (n : Nat) : lastPart (decimal n) = decimal n := by
  apply lastPart_eq_self
  intro h
  exact absurd (isDigit_of_mem_decimal h) (by decide)

/-- The identifier has no hyphen. -/
def OnePart : StateMachine → Prop
  | substrate id => hyphen ∉ id.bytes
  | tendermint id => hyphen ∉ id.bytes
  | _ => True

theorem readNumber_text (make : UInt32 → StateMachine) (id : UInt32) (hname : lastPart name = decimal id.toNat) :
    readNumber make name = .ok (make id) := by
  have hid : id.toNat < 2 ^ 32 := id.toNat_lt
  rw [readNumber, hname, parseUnsigned_decimal hid]
  simp

theorem readId_text (id : BytesN 4) (hname : lastPart name = lastPart id.bytes) :
    readId make name = .ok (make id) ↔ hyphen ∉ id.bytes := by
  rw [readId, hname]
  constructor
  · intro h
    by_contra hmem
    have hlen : (lastPart id.bytes).length ≠ 4 := by
      intro hfour
      apply length_lastPart_eq_iff.mp _ hmem
      rw [hfour, id.length_bytes]
    have hnone : BytesN.ofBytes 4 (lastPart id.bytes) = none := by
      rw [BytesN.ofBytes, dif_neg hlen]
    rw [hnone] at h
    cases h
  · intro hmem
    have hsome : BytesN.ofBytes 4 (lastPart id.bytes) = some id := by
      rw [lastPart_eq_self hmem, BytesN.ofBytes_eq_some]
    rw [hsome]

theorem fromStr_text_iff (s : StateMachine) : fromStr (s.kind ++ s.idText) = .ok s ↔ s.OnePart := by
  have hlast := lastPart_kind_append s s.idText
  cases s with
  | evm id =>
    have hnumber := readNumber_text .evm id (hlast.trans (lastPart_decimal _))
    exact iff_of_true hnumber trivial
  | polkadot id =>
    have hnumber := readNumber_text .polkadot id (hlast.trans (lastPart_decimal _))
    exact iff_of_true hnumber trivial
  | kusama id =>
    have hnumber := readNumber_text .kusama id (hlast.trans (lastPart_decimal _))
    exact iff_of_true hnumber trivial
  | substrate id => exact readId_text .substrate id hlast
  | tendermint id => exact readId_text .tendermint id hlast

theorem printed_and_read_iff (s : StateMachine) :
    (s.toText ≠ none ∧ ∀ name, s.toText = some name → fromStr name = .ok s) ↔ s.Printable ∧ s.OnePart := by
  rw [Option.ne_none_iff_exists']
  constructor
  · rintro ⟨⟨name, hname⟩, hread⟩
    obtain ⟨hprintable, rfl⟩ := toText_eq_some.mp hname
    exact ⟨hprintable, (fromStr_text_iff s).mp (hread _ hname)⟩
  · rintro ⟨hprintable, hone⟩
    refine ⟨⟨_, toText_eq_some.mpr ⟨hprintable, rfl⟩⟩, ?_⟩
    intro name hname
    obtain ⟨-, rfl⟩ := toText_eq_some.mp hname
    exact (fromStr_text_iff s).mpr hone

def NamesId (name : Bytes) : Prop := asBytes "SUBSTRATE-" <+: name ∨ asBytes "TNDRMINT-" <+: name

theorem readNumber_ne_panic (make : UInt32 → StateMachine) (name : Bytes) (m : String) :
    readNumber make name ≠ .panic m := by
  rw [readNumber]
  split <;> simp

theorem readId_panics_iff (name : Bytes) : (∃ m, readId make name = .panic m) ↔ (lastPart name).length ≠ 4 := by
  rw [readId, BytesN.ofBytes]
  split_ifs with h <;> simp [h]

theorem kind_eq_of_starts (s s' : StateMachine) (h : s.kind <+: name) (h' : s'.kind <+: name) : s.kind = s'.kind := by
  obtain ⟨x, hx⟩ := h
  obtain ⟨x', hx'⟩ := h'
  exact (kind_of_append (hx.trans hx'.symm)).1

theorem not_namesId (s : StateMachine) (hs : s.kind <+: name) (hsub : s.kind ≠ asBytes "SUBSTRATE-")
    (htnd : s.kind ≠ asBytes "TNDRMINT-") : ¬ NamesId name := by
  rintro (h | h)
  · exact hsub (kind_eq_of_starts s (substrate ⟨asBytes "xxxx", rfl⟩) hs h)
  · exact htnd (kind_eq_of_starts s (tendermint ⟨asBytes "xxxx", rfl⟩) hs h)

theorem fromStr_panics_iff (name : Bytes) :
    (∃ m, fromStr name = .panic m) ↔ NamesId name ∧ (lastPart name).length ≠ 4 := by
  have hnumber (make : UInt32 → StateMachine) (hid : ¬ NamesId name) :
      (∃ m, readNumber make name = .panic m) ↔ NamesId name ∧ (lastPart name).length ≠ 4 := by
    refine iff_of_false ?_ fun h => hid h.1
    rintro ⟨m, hm⟩
    exact readNumber_ne_panic make name m hm
  have hid (make : BytesN 4 → StateMachine) (hid : NamesId name) :
      (∃ m, readId make name = .panic m) ↔ NamesId name ∧ (lastPart name).length ≠ 4 := by
    rw [readId_panics_iff, and_iff_right hid]
  simp only [fromStr, List.isPrefixOf_iff_prefix]
  split_ifs with hevm hpolkadot hkusama hsub htnd
  · exact hnumber _ (not_namesId (evm 0) hevm (by decide) (by decide))
  · exact hnumber _ (not_namesId (polkadot 0) hpolkadot (by decide) (by decide))
  · exact hnumber _ (not_namesId (kusama 0) hkusama (by decide) (by decide))
  · exact hid _ (.inl hsub)
  · exact hid _ (.inr htnd)
  · refine iff_of_false ?_ ?_
    · rintro ⟨m, hm⟩
      cases hm
    · rintro ⟨h | h, -⟩
      · exact hsub h
      · exact htnd h

theorem toText_eq_none : s.toText = none ↔ ¬ s.Printable := by
  rw [← not_iff_not, not_not, Option.eq_none_iff_forall_ne_some]
  constructor
  · intro h
    push Not at h
    obtain ⟨name, hname⟩ := h
    exact (toText_eq_some.mp hname).1
  · intro hprintable h
    exact h _ (toText_eq_some.mpr ⟨hprintable, rfl⟩)

end StateMachine

namespace Request

open Codec TokenGateway.Codecs

def byteVec : Codec (TokenGateway.Vec UInt8) := unbounded byte

def postFields : Codec (StateMachine × StateMachine × UInt64 × TokenGateway.Vec UInt8 × TokenGateway.Vec UInt8 ×
    UInt64 × TokenGateway.Vec UInt8) :=
  pair stateMachine (pair stateMachine (pair u64 (pair byteVec (pair byteVec (pair u64 byteVec)))))

def getFields : Codec (StateMachine × StateMachine × UInt64 × TokenGateway.Vec UInt8 ×
    TokenGateway.Vec (TokenGateway.Vec UInt8) × UInt64 × TokenGateway.Vec UInt8 × UInt64) :=
  pair stateMachine (pair stateMachine (pair u64 (pair byteVec (pair (unbounded byteVec) (pair u64
    (pair byteVec u64))))))

/-- SCALE of a request, as it comes from outside. -/
def decode : Bytes → Option (Request × Bytes)
  | [] => none
  | tag :: b =>
      if tag = 0 then
        tagged postFields (fun (source, dest, nonce, fromModule, toModule, timeout, body) =>
          .post ⟨source, dest, nonce, fromModule.1, toModule.1, timeout, body.1⟩) b
      else if tag = 1 then
        tagged getFields (fun (source, dest, nonce, fromModule, keys, height, context, timeout) =>
          .get ⟨source, dest, nonce, fromModule.1, keys.1.map Subtype.val, height, context.1, timeout⟩) b
      else none

theorem encode_eq_none_iff (r : Request) : r.encode = none ↔ ¬ r.sourceChain.Printable ∨ ¬ r.destChain.Printable := by
  rw [← StateMachine.toText_eq_none, ← StateMachine.toText_eq_none]
  cases r with
  | post p =>
    cases hsource : p.source.toText with
    | none => simp [encode, sourceChain, hsource]
    | some source => cases hdest : p.dest.toText <;> simp [encode, sourceChain, destChain, hsource, hdest]
  | get g =>
    cases hsource : g.source.toText with
    | none => simp [encode, sourceChain, hsource]
    | some source => cases hdest : g.dest.toText <;> simp [encode, sourceChain, destChain, hsource, hdest]

theorem exists_decode (source dest : StateMachine) :
    ∃ (b : Bytes) (r : Request), decode b = some (r, []) ∧ r.sourceChain = source ∧ r.destChain = dest := by
  have hempty : ([] : Bytes).length ≤ 2 ^ 32 - 1 := Nat.zero_le _
  refine ⟨0 :: postFields.encode (source, dest, 0, ⟨[], hempty⟩, ⟨[], hempty⟩, 0, ⟨[], hempty⟩),
    .post ⟨source, dest, 0, [], [], 0, []⟩, ?_, rfl, rfl⟩
  simp only [decode]
  rw [if_pos trivial, tagged_eq_some]
  exact ⟨_, rfl, (List.append_nil _).symm⟩

end Request

open StateMachine in
/-- A state machine survives the round trip exactly if its identifier is UTF-8 and holds no hyphen; a text panics
exactly if it names a kind with four bytes and ends in a part of another length. A request panics in `encode`
exactly if one of its chains has no text, and such requests can be decoded. -/
theorem identifiers_print_and_parse (s dest : StateMachine) (name : Bytes) (r : Request) :
    ((s.toText ≠ none ∧ ∀ name, s.toText = some name → fromStr name = .ok s) ↔ s.Printable ∧ s.OnePart) ∧
    ((∃ m, fromStr name = .panic m) ↔ NamesId name ∧ (lastPart name).length ≠ 4) ∧
    (r.encode = none ↔ ¬ r.sourceChain.Printable ∨ ¬ r.destChain.Printable) ∧
    ∃ (b : Bytes) (r : Request), Request.decode b = some (r, []) ∧ r.sourceChain = s ∧ r.destChain = dest :=
  ⟨printed_and_read_iff s, fromStr_panics_iff name, r.encode_eq_none_iff, Request.exists_decode s dest⟩

open StateMachine in
/-- The identifier `ff ff ff ff` has no text, and a request with it can be decoded and not encoded. The text of
`a-bc` is not read back, and reading it or a text with three bytes panics. -/
theorem identifiers_fail :
    (substrate ⟨[255, 255, 255, 255], rfl⟩).toText = none ∧
    (∃ b r, Request.decode b = some (r, []) ∧ r.encode = none) ∧
    (substrate ⟨asBytes "a-bc", rfl⟩).toText = some (asBytes "SUBSTRATE-a-bc") ∧
    fromStr (asBytes "SUBSTRATE-a-bc") = .panic (copyPanic 2) ∧
    fromStr (asBytes "SUBSTRATE-abc") = .panic (copyPanic 3) := by
  have hnone : (substrate ⟨[255, 255, 255, 255], rfl⟩).toText = none := by decide
  refine ⟨hnone, ?_, by decide, rfl, rfl⟩
  obtain ⟨b, r, hdecode, hsource, -⟩ := Request.exists_decode (substrate ⟨[255, 255, 255, 255], rfl⟩) (evm 1)
  refine ⟨b, r, hdecode, ?_⟩
  rw [Request.encode_eq_none_iff, hsource, ← toText_eq_none]
  exact .inl hnone

end Hyperbridge.Ismp
