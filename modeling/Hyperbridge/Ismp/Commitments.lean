import Hyperbridge.Ismp.Messaging
import Hyperbridge.Lib.Digits
import Mathlib.Data.List.Flatten

/-!
# What a commitment says

`Request::encode` and `Response::encode` write their fields without lengths, and chain identifiers in decimal. The
source can be read back: the text of the destination ends its digits. Nothing ends the digits of the destination, and
nothing separates the fields of variable length. So the encoding tells requests of one layout apart, and hardly any
others.
-/

namespace Hyperbridge.Ismp

open Lib

namespace StateMachine

/-- The text before the identifier. -/
def kind : StateMachine → Bytes
  | evm _ => asBytes "EVM-"
  | polkadot _ => asBytes "POLKADOT-"
  | kusama _ => asBytes "KUSAMA-"
  | substrate _ => asBytes "SUBSTRATE-"
  | tendermint _ => asBytes "TNDRMINT-"

def idText : StateMachine → Bytes
  | evm id => decimal id.toNat
  | polkadot id => decimal id.toNat
  | kusama id => decimal id.toNat
  | substrate id => id.bytes
  | tendermint id => id.bytes

def Printable : StateMachine → Prop
  | substrate id => validUtf8 id.bytes = true
  | tendermint id => validUtf8 id.bytes = true
  | _ => True

variable {s s' : StateMachine} {t t' x x' : Bytes}

theorem toText_eq_some : s.toText = some t ↔ s.Printable ∧ s.kind ++ s.idText = t := by
  cases s with
  | evm id => simp [toText, Printable, kind, idText]
  | polkadot id => simp [toText, Printable, kind, idText]
  | kusama id => simp [toText, Printable, kind, idText]
  | substrate id => simp [toText, Printable, kind, idText, fromUtf8]
  | tendermint id => simp [toText, Printable, kind, idText, fromUtf8]

theorem kind_eq_of_head (h : s.kind.head? = s'.kind.head?) : s.kind = s'.kind := by
  revert h
  cases s <;> cases s' <;> simp only [kind] <;> decide

theorem head_kind_append (s : StateMachine) (x : Bytes) : (s.kind ++ x).head? = s.kind.head? := by
  cases s <;> rfl

theorem kind_of_append (h : s.kind ++ x = s'.kind ++ x') : s.kind = s'.kind ∧ x = x' := by
  have hhead := congrArg List.head? h
  rw [head_kind_append, head_kind_append] at hhead
  have hkind := kind_eq_of_head hhead
  rw [hkind] at h
  exact ⟨hkind, List.append_cancel_left h⟩

theorem takeWhile_kind (s : StateMachine) (x : Bytes) : (s.kind ++ x).takeWhile isDigit = [] := by
  cases s <;> rfl

theorem eq_of_kind (hkind : s.kind = s'.kind)
    (hid : s.idText.length = s'.idText.length → s.idText = s'.idText) (hdigits : ∀ n n', s.idText = decimal n →
      s'.idText = decimal n' → decimal n = decimal n') : s = s' := by
  cases s <;> cases s' <;> simp only [kind] at hkind <;> first
    | exact absurd hkind (by decide)
    | exact congrArg _ (UInt32.toNat_inj.mp (decimal_injective (hdigits _ _ rfl rfl)))
    | exact congrArg _ (BytesN.bytes_injective (hid (by simp [idText])))

theorem eq_of_text_append (hx : x.takeWhile isDigit = []) (hx' : x'.takeWhile isDigit = [])
    (h : s.kind ++ s.idText ++ x = s'.kind ++ s'.idText ++ x') : s = s' ∧ x = x' := by
  rw [List.append_assoc, List.append_assoc] at h
  obtain ⟨hkind, hrest⟩ := kind_of_append h
  have hs : s = s' := by
    refine eq_of_kind hkind (fun hlen => (List.append_inj hrest hlen).1) fun n n' hn hn' => ?_
    rw [hn, hn'] at hrest
    exact (digits_append_inj (fun _ => isDigit_of_mem_decimal) (fun _ => isDigit_of_mem_decimal) hx hx' hrest).1
  subst hs
  exact ⟨rfl, List.append_cancel_left hrest⟩

/-- The identifier cannot lose a digit. -/
def oneDigit : StateMachine → Bool
  | evm id => id < 10
  | polkadot id => id < 10
  | kusama id => id < 10
  | _ => true

theorem length_idText_le (hkind : s.kind = s'.kind) (hs : s.oneDigit = true) :
    s.idText.length ≤ s'.idText.length := by
  have hnumber (n : UInt32) (hn : n < 10) (n' : Nat) : (decimal n.toNat).length ≤ (decimal n').length := by
    have hpos := List.length_pos_iff.mpr (decimal_ne_nil n')
    rw [length_decimal_of_lt (UInt32.lt_iff_toNat_lt.mp hn)]
    omega
  cases s <;> cases s' <;> simp only [kind] at hkind <;> first
    | exact absurd hkind (by decide)
    | exact hnumber _ (of_decide_eq_true hs) _
    | simp [idText]

theorem exists_cut (hs : s.oneDigit = false) :
    ∃ (s' : StateMachine) (digit : UInt8), s'.kind = s.kind ∧ s'.Printable ∧ s.idText = s'.idText ++ [digit] := by
  have hnumber (n : UInt32) (hn : decide (n < 10) = false) :
      ∃ digit, decimal n.toNat = decimal (n / 10).toNat ++ [digit] := by
    rw [UInt32.toNat_div]
    refine decimal_of_ten_le ?_
    have hlt := of_decide_eq_false hn
    rw [UInt32.lt_iff_toNat_lt] at hlt
    exact Nat.le_of_not_lt hlt
  cases s with
  | evm id =>
    obtain ⟨digit, h⟩ := hnumber id hs
    exact ⟨evm (id / 10), digit, rfl, trivial, h⟩
  | polkadot id =>
    obtain ⟨digit, h⟩ := hnumber id hs
    exact ⟨polkadot (id / 10), digit, rfl, trivial, h⟩
  | kusama id =>
    obtain ⟨digit, h⟩ := hnumber id hs
    exact ⟨kusama (id / 10), digit, rfl, trivial, h⟩
  | substrate id => cases hs
  | tendermint id => cases hs

end StateMachine

namespace Request

variable {r r' : Request} {b b' : Bytes}

def pieces : Request → List Bytes
  | post p => [beBytes 8 p.nonce.toNat, beBytes 8 p.timeoutTimestamp.toNat, p.fromModule, p.toModule, p.body]
  | get g => [beBytes 8 g.nonce.toNat, beBytes 8 g.height.toNat, beBytes 8 g.timeoutTimestamp.toNat, g.fromModule]
      ++ g.keys ++ [g.context]

structure Layout where
  isGet : Bool
  dest : Nat
  pieces : List Nat
  deriving DecidableEq

def layout (r : Request) : Layout where
  isGet := match r with
    | post _ => false
    | get _ => true
  dest := r.destChain.idText.length
  pieces := r.pieces.map List.length

def Printable (r : Request) : Prop := r.sourceChain.Printable ∧ r.destChain.Printable

theorem encode_eq_some : r.encode = some b ↔ r.Printable ∧
    r.sourceChain.kind ++ r.sourceChain.idText ++
      (r.destChain.kind ++ (r.destChain.idText ++ r.pieces.flatten)) = b := by
  cases r with
  | post p =>
    simp only [encode, Option.bind_eq_bind, Option.bind_eq_some_iff, StateMachine.toText_eq_some]
    constructor
    · rintro ⟨_, ⟨hsource, rfl⟩, _, ⟨hdest, rfl⟩, h⟩
      refine ⟨⟨hsource, hdest⟩, ?_⟩
      rw [← Option.some.inj h]
      simp [pieces, sourceChain, destChain]
    · rintro ⟨⟨hsource, hdest⟩, rfl⟩
      refine ⟨_, ⟨hsource, rfl⟩, _, ⟨hdest, rfl⟩, ?_⟩
      simp [pieces, sourceChain, destChain]
  | get g =>
    simp only [encode, Option.bind_eq_bind, Option.bind_eq_some_iff, StateMachine.toText_eq_some]
    constructor
    · rintro ⟨_, ⟨hsource, rfl⟩, _, ⟨hdest, rfl⟩, h⟩
      refine ⟨⟨hsource, hdest⟩, ?_⟩
      rw [← Option.some.inj h]
      simp [pieces, sourceChain, destChain]
    · rintro ⟨⟨hsource, hdest⟩, rfl⟩
      refine ⟨_, ⟨hsource, rfl⟩, _, ⟨hdest, rfl⟩, ?_⟩
      simp [pieces, sourceChain, destChain]

theorem split_of_encode {x x' : Bytes} (hb : r.encode = some b) (hb' : r'.encode = some b')
    (h : b ++ x = b' ++ x') : r.sourceChain = r'.sourceChain ∧ r.destChain.kind = r'.destChain.kind ∧
      r.destChain.idText ++ (r.pieces.flatten ++ x) = r'.destChain.idText ++ (r'.pieces.flatten ++ x') := by
  obtain ⟨-, rfl⟩ := encode_eq_some.mp hb
  obtain ⟨-, rfl⟩ := encode_eq_some.mp hb'
  simp only [List.append_assoc] at h
  rw [← List.append_assoc, ← List.append_assoc (r'.sourceChain.kind)] at h
  obtain ⟨hsource, hrest⟩ := StateMachine.eq_of_text_append (StateMachine.takeWhile_kind _ _)
    (StateMachine.takeWhile_kind _ _) h
  obtain ⟨hkind, hrest⟩ := StateMachine.kind_of_append hrest
  exact ⟨hsource, hkind, hrest⟩

theorem eq_of_pieces (hget : r.layout.isGet = r'.layout.isGet) (hsource : r.sourceChain = r'.sourceChain)
    (hdest : r.destChain = r'.destChain) (hpieces : r.pieces = r'.pieces) : r = r' := by
  cases r with
  | post p =>
    cases r' with
    | get g => cases hget
    | post p' =>
      simp only [pieces, List.cons.injEq, beBytes_uint64_inj] at hpieces
      obtain ⟨hnonce, htimeout, hfrom, hto, hbody, -⟩ := hpieces
      cases p
      cases p'
      simp_all [sourceChain, destChain]
  | get g =>
    cases r' with
    | post p => cases hget
    | get g' =>
      simp only [pieces, List.cons_append, List.nil_append, List.cons.injEq, beBytes_uint64_inj] at hpieces
      obtain ⟨hnonce, hheight, htimeout, hfrom, hlast⟩ := hpieces
      obtain ⟨hkeys, hcontext⟩ := List.append_inj' hlast rfl
      cases g
      cases g'
      simp_all [sourceChain, destChain]

theorem eq_of_layout {x x' : Bytes} (hlayout : r.layout = r'.layout) (hb : r.encode = some b)
    (hb' : r'.encode = some b') (h : b ++ x = b' ++ x') : r = r' ∧ x = x' := by
  obtain ⟨hsource, hkind, hrest⟩ := split_of_encode hb hb' h
  have hlen : r.destChain.idText.length = r'.destChain.idText.length := congrArg Layout.dest hlayout
  have hlens : r.pieces.map List.length = r'.pieces.map List.length := congrArg Layout.pieces hlayout
  obtain ⟨hid, hflat⟩ := List.append_inj hrest hlen
  have hdest : r.destChain = r'.destChain := by
    refine StateMachine.eq_of_kind hkind (fun _ => hid) fun n n' hn hn' => ?_
    rw [← hn, ← hn', hid]
  have hsize : r.pieces.flatten.length = r'.pieces.flatten.length := by
    rw [List.length_flatten, List.length_flatten, hlens]
  obtain ⟨hsame, hx⟩ := List.append_inj hflat hsize
  have hpieces : r.pieces = r'.pieces := (List.eq_iff_flatten_eq).mpr ⟨hsame, hlens⟩
  exact ⟨eq_of_pieces (congrArg Layout.isGet hlayout) hsource hdest hpieces, hx⟩

theorem length_pieces_post (p : PostRequest) : (post p).pieces.flatten.length =
    16 + (p.fromModule ++ p.toModule ++ p.body).length := by
  simp [pieces]
  omega

theorem length_pieces_get (g : GetRequest) : (get g).pieces.flatten.length =
    24 + (g.fromModule ++ g.keys.flatten ++ g.context).length := by
  simp [pieces]
  omega

theorem exists_post (source dest : StateMachine) {x : Bytes} (hx : 16 ≤ x.length) :
    ∃ p : PostRequest, p.source = source ∧ p.dest = dest ∧ (post p).pieces.flatten = x := by
  obtain ⟨nonce, y, rfl, hy⟩ := exists_beBytes_uint64 (x := x) (by omega)
  obtain ⟨timeout, z, rfl, -⟩ := exists_beBytes_uint64 (x := y) (by omega)
  exact ⟨⟨source, dest, nonce, z, [], timeout, []⟩, rfl, rfl, by simp [pieces]⟩

theorem exists_get (source dest : StateMachine) {x : Bytes} (hx : 24 ≤ x.length) :
    ∃ g : GetRequest, g.source = source ∧ g.dest = dest ∧ (get g).pieces.flatten = x := by
  obtain ⟨nonce, y, rfl, hy⟩ := exists_beBytes_uint64 (x := x) (by omega)
  obtain ⟨height, z, rfl, hz⟩ := exists_beBytes_uint64 (x := y) (by omega)
  obtain ⟨timeout, v, rfl, -⟩ := exists_beBytes_uint64 (x := z) (by omega)
  exact ⟨⟨source, dest, nonce, v, [], height, [], timeout⟩, rfl, rfl, by simp [pieces]⟩

theorem encode_of_flatten (hb : r.encode = some b) (hsource : r'.sourceChain = r.sourceChain)
    (hdest : r'.destChain = r.destChain) (hflat : r'.pieces.flatten = r.pieces.flatten) : r'.encode = some b := by
  rw [encode_eq_some, Printable] at hb ⊢
  rw [hsource, hdest, hflat]
  exact hb

/-- No byte of the request could belong elsewhere. -/
def Bare : Request → Prop
  | post p => p.dest.oneDigit = true ∧ p.fromModule ++ p.toModule ++ p.body = []
  | get _ => False

theorem eq_of_bare (hr : r.Bare) (hb : r.encode = some b) (hb' : r'.encode = some b) : r = r' := by
  cases r with
  | get g => cases hr
  | post p =>
    obtain ⟨hdigit, hempty⟩ := hr
    obtain ⟨hsource, hkind, hrest⟩ := split_of_encode hb hb' (rfl : b ++ [] = b ++ [])
    simp only [List.append_nil] at hrest
    have hshort : (post p).pieces.flatten.length = 16 := by
      rw [length_pieces_post, hempty]
      rfl
    have hid := StateMachine.length_idText_le hkind hdigit
    have hlen := congrArg List.length hrest
    simp only [List.length_append] at hlen
    cases r' with
    | get g =>
      have hlong := length_pieces_get g
      omega
    | post p' =>
      have hlong := length_pieces_post p'
      have hempty' : (p'.fromModule ++ p'.toModule ++ p'.body).length = 0 := by omega
      refine (eq_of_layout ?_ hb hb' (rfl : b ++ [] = b ++ [])).1
      simp only [List.length_eq_zero_iff, List.append_eq_nil_iff] at hempty hempty'
      simp only [layout, pieces, hempty, hempty', List.map_cons, length_beBytes, Layout.mk.injEq, true_and,
        and_true]
      omega

theorem exists_ne_of_bytes {p : PostRequest} (hb : (post p).encode = some b)
    (hp : p.fromModule ++ p.toModule ++ p.body ≠ []) : ∃ r', r' ≠ post p ∧ r'.encode = some b := by
  by_cases hlast : p.toModule ++ p.body = []
  · obtain ⟨hto, hbody⟩ := List.append_eq_nil_iff.mp hlast
    refine ⟨post { p with fromModule := [], toModule := p.fromModule }, fun h => hp ?_,
      encode_of_flatten hb rfl rfl (by simp [pieces, hto])⟩
    have hfrom := congrArg (fun r => r.sourceModule) h
    have hnil : [] = p.fromModule := hfrom
    rw [← hnil, hto, hbody]
    rfl
  · refine ⟨post { p with fromModule := p.fromModule ++ p.toModule ++ p.body, toModule := [], body := [] },
      fun h => hlast ?_, encode_of_flatten hb rfl rfl (by simp [pieces])⟩
    injection h with h
    have hto : [] = p.toModule := congrArg PostRequest.toModule h
    have hbody : [] = p.body := congrArg PostRequest.body h
    rw [← hto, ← hbody]
    rfl

theorem exists_ne_of_digit {p : PostRequest} (hb : (post p).encode = some b) (hp : p.dest.oneDigit = false) :
    ∃ r', r' ≠ post p ∧ r'.encode = some b := by
  obtain ⟨hprint, hbytes⟩ := encode_eq_some.mp hb
  obtain ⟨dest, digit, hkind, hdest, hid⟩ := StateMachine.exists_cut hp
  have hlong : 16 ≤ (digit :: (post p).pieces.flatten).length := by
    rw [List.length_cons, length_pieces_post]
    omega
  obtain ⟨p', hsource', hdest', hflat⟩ := exists_post p.source dest hlong
  refine ⟨post p', ?_, encode_eq_some.mpr ⟨?_, ?_⟩⟩
  · rintro h
    have hsame : p'.dest = p.dest := congrArg destChain h
    have hlen := congrArg List.length hid
    rw [← hsame, hdest', List.length_append, List.length_singleton] at hlen
    omega
  · refine ⟨?_, ?_⟩
    · show p'.source.Printable
      rw [hsource']
      exact hprint.1
    · show p'.dest.Printable
      rw [hdest']
      exact hdest
  · rw [← hbytes]
    show p'.source.kind ++ p'.source.idText ++ (p'.dest.kind ++ (p'.dest.idText ++ (post p').pieces.flatten)) =
      p.source.kind ++ p.source.idText ++ (p.dest.kind ++ (p.dest.idText ++ (post p).pieces.flatten))
    rw [hsource', hdest', hflat, hkind, hid, List.append_assoc dest.idText, List.singleton_append]

theorem exists_ne_of_not_bare (hb : r.encode = some b) (hr : ¬ r.Bare) : ∃ r', r' ≠ r ∧ r'.encode = some b := by
  cases r with
  | get g =>
    refine ⟨get { g with keys := g.keys ++ [[]] }, fun h => ?_, encode_of_flatten hb rfl rfl (by simp [pieces])⟩
    injection h with h
    have hkeys := congrArg (fun g => g.keys.length) h
    simp at hkeys
  | post p =>
    by_cases hp : p.fromModule ++ p.toModule ++ p.body = []
    · have hdigit : p.dest.oneDigit = false := by
        rw [← Bool.not_eq_true]
        exact fun hdigit => hr ⟨hdigit, hp⟩
      exact exists_ne_of_digit hb hdigit
    · exact exists_ne_of_bytes hb hp

/-- A request shares its bytes with no other one exactly if it is bare (or has no bytes at all, since
writing its chains panics). Two requests with the same bytes are one request exactly if they have the same
layout. -/
theorem encode_unambiguous_iff (r : Request) :
    ((∀ r' b, r.encode = some b → r'.encode = some b → r = r') ↔ ¬ r.Printable ∨ r.Bare) ∧
      ∀ r' b, r.encode = some b → r'.encode = some b → (r = r' ↔ r.layout = r'.layout) := by
  refine ⟨⟨fun h => ?_, ?_⟩, fun r' b hb hb' => ⟨fun h => congrArg layout h, fun h => ?_⟩⟩
  · by_contra hr
    rw [not_or, not_not] at hr
    have hb := encode_eq_some.mpr ⟨hr.1, rfl⟩
    obtain ⟨r', hne, hb'⟩ := exists_ne_of_not_bare hb hr.2
    exact hne (h r' _ hb hb').symm
  · rintro (hr | hr) r' b hb hb'
    · exact absurd (encode_eq_some.mp hb).1 hr
    · exact eq_of_bare hr hb hb'
  · exact (eq_of_layout h hb hb' (rfl : b ++ [] = b ++ [])).1

/-- A byte of the body that goes to the receiving module: other requests, the same bytes and so the same commitment,
whatever the hash function. -/
theorem hashRequest_ambiguous :
    let p : PostRequest := ⟨.evm 1, .evm 2, 0, asBytes "from", asBytes "a", 0, asBytes "bc"⟩
    let q : PostRequest := { p with toModule := asBytes "ab", body := asBytes "c" }
    post p ≠ post q ∧ (post p).encode.isSome = true ∧ (post p).encode = (post q).encode ∧
      ∀ keccak256 : Bytes → H256, hashRequest keccak256 (post p) = hashRequest keccak256 (post q) := by
  have hsame : (post ⟨.evm 1, .evm 2, 0, asBytes "from", asBytes "a", 0, asBytes "bc"⟩).encode =
      (post ⟨.evm 1, .evm 2, 0, asBytes "from", asBytes "ab", 0, asBytes "c"⟩).encode := by decide
  refine ⟨by decide, by decide, hsame, fun keccak256 => ?_⟩
  exact congrArg (keccak256 <$> ·) hsame

def size (r : Request) : Nat :=
  r.sourceChain.kind.length + r.sourceChain.idText.length + r.destChain.kind.length
    + r.destChain.idText.length + (r.pieces.map List.length).sum

theorem length_of_encode (hb : r.encode = some b) : b.length = r.size := by
  obtain ⟨-, rfl⟩ := encode_eq_some.mp hb
  simp only [List.length_append, List.length_flatten, size]
  omega

end Request

namespace Response

variable {a b : Response} {x y : Bytes}

inductive Payload where
  | post (response : Bytes) (timeoutTimestamp : UInt64)
  | get (values : List StorageValue)
  deriving DecidableEq

namespace Payload

def encode : Payload → Bytes
  | post response timeoutTimestamp => response ++ beBytes 8 timeoutTimestamp.toNat
  | get values => (values.map fun v => [v.key, v.value.getD []]).flatten.flatten

def layout : Payload → Option (List (Nat × Option Nat))
  | post _ _ => none
  | get values => some (values.map fun v => (v.key.length, v.value.map List.length))

theorem eq_of_values {l l' : List StorageValue} (hlayout : (get l).layout = (get l').layout)
    (h : (get l).encode = (get l').encode) : l = l' := by
  induction l generalizing l' with
  | nil =>
    cases l' with
    | nil => rfl
    | cons v' l' => simp [layout] at hlayout
  | cons v l ih =>
    cases l' with
    | nil => simp [layout] at hlayout
    | cons v' l' =>
      simp only [layout, List.map_cons, Option.some.injEq, List.cons.injEq, Prod.mk.injEq] at hlayout ih
      obtain ⟨⟨hkey, hvalue⟩, hrest⟩ := hlayout
      have hlen : (v.value.getD []).length = (v'.value.getD []).length := by
        cases hv : v.value <;> cases hv' : v'.value <;> simp_all
      simp only [encode, List.map_cons, List.flatten_cons, List.cons_append,
        List.nil_append] at h ih
      obtain ⟨hk, h⟩ := List.append_inj h hkey
      obtain ⟨hval, h⟩ := List.append_inj h hlen
      have hv : v = v' := by
        cases v with
        | mk key value =>
          cases v' with
          | mk key' value' => cases value <;> cases value' <;> simp_all
      rw [hv, ih hrest h]

theorem eq_of_layout {p q : Payload} (hlayout : p.layout = q.layout) (h : p.encode = q.encode) : p = q := by
  cases p with
  | post response timeout =>
    cases q with
    | get values => cases hlayout
    | post response' timeout' =>
      obtain ⟨hresponse, htimeout⟩ := List.append_inj' h (by simp)
      rw [beBytes_uint64_inj] at htimeout
      rw [hresponse, htimeout]
  | get values =>
    cases q with
    | post response timeout => cases hlayout
    | get values' => rw [eq_of_values hlayout h]

end Payload

def payload : Response → Payload
  | post r => .post r.response r.timeoutTimestamp
  | get r => .get r.values

theorem encode_eq_some : a.encode = some x ↔ ∃ y, a.request.encode = some y ∧ y ++ a.payload.encode = x := by
  have hflat (l : List StorageValue) : (l.map fun v => v.key ++ v.value.getD []).flatten =
      (l.map fun v => [v.key, v.value.getD []]).flatten.flatten := by
    induction l with
    | nil => rfl
    | cons v l ih => simp [ih]
  cases a with
  | post r =>
    simp [encode, PostResponse.encode, PostResponse.request, request, payload, Payload.encode,
      Option.bind_eq_some_iff]
  | get r =>
    simp [encode, GetResponse.encode, request, payload, Payload.encode, Option.bind_eq_some_iff, hflat]

theorem same_of_size (hx : a.encode = some x) (hx' : b.encode = some x)
    (hsize : a.request.size = b.request.size) (hlayout : a.payload.layout = b.payload.layout) :
    a.request.encode = b.request.encode ∧ a.payload = b.payload := by
  obtain ⟨y, hy, rfl⟩ := encode_eq_some.mp hx
  obtain ⟨y', hy', h⟩ := encode_eq_some.mp hx'
  have hlen : y.length = y'.length := by
    rw [Request.length_of_encode hy, Request.length_of_encode hy', hsize]
  obtain ⟨hreq, hpayload⟩ := List.append_inj h.symm hlen
  exact ⟨by rw [hy, hy', hreq], Payload.eq_of_layout hlayout hpayload⟩

/-- Some other payload has the same bytes. -/
theorem exists_payload_ne (hx : a.encode = some x) : ∃ b : Response, b.encode = some x ∧ a.payload ≠ b.payload := by
  obtain ⟨y, hy, rfl⟩ := encode_eq_some.mp hx
  cases a with
  | post r =>
    obtain ⟨hprint, rfl⟩ := Request.encode_eq_some.mp hy
    have hlong : 24 ≤ ((Request.post r.post).pieces.flatten ++ (post r).payload.encode).length := by
      have hend : 8 ≤ ((post r).payload.encode).length := by simp [payload, Payload.encode]
      rw [List.length_append, Request.length_pieces_post]
      omega
    obtain ⟨g, hsource, hdest, hflat⟩ := Request.exists_get r.post.source r.post.dest hlong
    refine ⟨get ⟨g, []⟩, encode_eq_some.mpr ⟨_, Request.encode_eq_some.mpr ⟨?_, rfl⟩, ?_⟩, ?_⟩
    · refine ⟨?_, ?_⟩
      · show g.source.Printable
        rw [hsource]
        exact hprint.1
      · show g.dest.Printable
        rw [hdest]
        exact hprint.2
    · show g.source.kind ++ g.source.idText ++ (g.dest.kind ++ (g.dest.idText ++ (Request.get g).pieces.flatten))
        ++ [] = _
      rw [hsource, hdest, hflat]
      simp [request, Request.sourceChain, Request.destChain]
    · simp [payload]
  | get r =>
    refine ⟨get { r with values := r.values ++ [⟨[], none⟩] }, encode_eq_some.mpr ⟨y, hy, ?_⟩, fun h => ?_⟩
    · simp [payload, Payload.encode]
    · simp [payload] at h

/-- Responses with the same bytes have the same request and payload exactly if their requests have the same length and
the keys and values are cut and present alike. Every response has bytes that are also those of another payload. -/
theorem response_encode_unambiguous_iff (a : Response) :
    ((∀ (b : Response) x, a.encode = some x → b.encode = some x →
        a.request.encode = b.request.encode ∧ a.payload = b.payload) ↔ ¬ a.request.Printable) ∧
      ∀ (b : Response) x, a.encode = some x → b.encode = some x →
        (a.request.encode = b.request.encode ∧ a.payload = b.payload ↔
          a.request.size = b.request.size ∧ a.payload.layout = b.payload.layout) := by
  refine ⟨⟨fun h hprint => ?_, fun h b x hx => ?_⟩, fun b x hx hx' => ⟨fun h => ?_, fun h => ?_⟩⟩
  · have hx := encode_eq_some.mpr ⟨_, Request.encode_eq_some.mpr ⟨hprint, rfl⟩, rfl⟩
    obtain ⟨b, hx', hne⟩ := exists_payload_ne hx
    exact hne (h b _ hx hx').2
  · obtain ⟨y, hy, -⟩ := encode_eq_some.mp hx
    exact absurd (Request.encode_eq_some.mp hy).1 h
  · obtain ⟨y, hy, -⟩ := encode_eq_some.mp hx
    have hy' : b.request.encode = some y := h.1 ▸ hy
    rw [h.2, ← Request.length_of_encode hy, ← Request.length_of_encode hy']
    exact ⟨rfl, rfl⟩
  · exact same_of_size hx hx' h.1 h.2

/-- An absent value and an empty one, and a byte of the body that goes to the response. -/
theorem hashResponse_ambiguous :
    let g : GetRequest := ⟨.evm 1, .evm 2, 0, asBytes "from", [asBytes "key"], 7, [], 0⟩
    let p : PostRequest := ⟨.evm 1, .evm 2, 0, asBytes "from", asBytes "a", 0, asBytes "bc"⟩
    let absent : Response := get ⟨g, [⟨asBytes "key", none⟩]⟩
    let empty : Response := get ⟨g, [⟨asBytes "key", some []⟩]⟩
    let long : Response := post ⟨p, asBytes "d", 0⟩
    let short : Response := post ⟨{ p with body := asBytes "b" }, asBytes "cd", 0⟩
    absent.encode.isSome = true ∧ absent.encode = empty.encode ∧ absent.payload ≠ empty.payload ∧
      long.encode.isSome = true ∧ long.encode = short.encode ∧
      long.request.encode ≠ short.request.encode ∧ long.payload ≠ short.payload ∧
      ∀ keccak256 : Bytes → H256, hashResponse keccak256 absent = hashResponse keccak256 empty ∧
        hashResponse keccak256 long = hashResponse keccak256 short := by
  refine ⟨by decide, by decide, by decide, by decide, by decide, by decide, by decide, fun keccak256 => ⟨?_, ?_⟩⟩
  · exact congrArg (keccak256 <$> ·) (by decide)
  · exact congrArg (keccak256 <$> ·) (by decide)

end Response

end Hyperbridge.Ismp
