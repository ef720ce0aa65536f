import Hyperbridge.Ismp.Messaging
import Hyperbridge.Lib.Abi

/-!
# The bodies of token gateway requests

A token gateway request moves an asset. Its body is an action byte and an ABI encoded struct, with or without
a call to be made at the destination. The pallets decode the struct with `alloy`, which is asked to validate:
what it accepts is the encoding of what it returns, and nothing follows it.
-/

namespace Hyperbridge.TokenGateway

open Lib

/-- What `&body[1..]` of an empty body panics with. -/
def sliceText : String := "range start index 1 out of range for slice of length 0"

/-- `Body`. -/
structure Body where
  amount : U256
  assetId : H256
  redeem : Bool
  fromAccount : H256
  toAccount : H256
  deriving DecidableEq

namespace Body

variable (b : Body)

def words : List H256 := [b.amount.toWord, b.assetId, boolWord b.redeem, b.fromAccount, b.toAccount]

def abiEncode : Bytes := abiWords b.words

/-- Five words from word `i` on. -/
def readFrom (data : Bytes) (i : Nat) : Option Body := do
  let amount ← abiWord data i
  let assetId ← abiWord data (i + 1)
  let redeem ← abiWord data (i + 2)
  let redeem ← readBool redeem
  let fromAccount ← abiWord data (i + 3)
  let toAccount ← abiWord data (i + 4)
  some ⟨U256.ofWord amount, assetId, redeem, fromAccount, toAccount⟩

def abiDecode (data : Bytes) : Option Body := (readFrom data 0).filter fun b => b.abiEncode = data

theorem length_abiEncode : b.abiEncode.length = 160 := length_abiWords b.words

theorem readFrom_words (rest : Bytes) : readFrom (abiWords b.words ++ rest) 0 = some b := by
  have hword (i : Nat) (hi : i < 5) : abiWord (abiWords b.words ++ rest) i = b.words[i]? :=
    abiWord_abiWords (show i < b.words.length from hi) rest
  unfold readFrom
  rw [hword 0 (by decide), hword (0 + 1) (by decide), hword (0 + 2) (by decide), hword (0 + 3) (by decide),
    hword (0 + 4) (by decide)]
  simp [words, readBool_boolWord, U256.ofWord_toWord]

theorem readFrom_abiEncode : readFrom b.abiEncode 0 = some b := by
  have h := b.readFrom_words []
  rwa [List.append_nil] at h

theorem abiDecode_eq_some {data : Bytes} {b : Body} : abiDecode data = some b ↔ b.abiEncode = data := by
  rw [abiDecode, Option.filter_eq_some_iff, decide_eq_true_eq]
  constructor
  · exact fun h => h.2
  · rintro rfl
    exact ⟨readFrom_abiEncode b, rfl⟩

end Body

/-- `BodyWithCall`. -/
structure BodyWithCall where
  body : Body
  data : Bytes
  deriving DecidableEq

namespace BodyWithCall

def abiEncode (b : BodyWithCall) : Bytes :=
  abiWords (BytesN.ofNat 32 32 :: b.body.words ++ [BytesN.ofNat 32 192]) ++ abiBytes b.data

def abiDecode (data : Bytes) : Option BodyWithCall := do
  let body ← Body.readFrom data 1
  let length ← abiWord data 7
  let call : BodyWithCall := ⟨body, (data.drop 256).take (beValue length.bytes)⟩
  if call.abiEncode = data then some call else none

def read (data : Bytes) : Option BodyWithCall := do
  let offset ← abiWord data 0
  let tuple := data.drop (beValue offset.bytes)
  let body ← Body.readFrom tuple 0
  let offset ← abiWord tuple 5
  let tail := tuple.drop (beValue offset.bytes)
  let length ← abiWord tail 0
  let call := (tail.drop 32).take (beValue length.bytes)
  if call.length = beValue length.bytes then some ⟨body, call⟩ else none

theorem length_abiEncode (b : BodyWithCall) : 160 < b.abiEncode.length := by
  rw [abiEncode, List.length_append, length_abiWords]
  show 160 < 32 * 7 + _
  omega

/-- The contract reads what the pallets encode. -/
theorem read_abiEncode (b : BodyWithCall) (hdata : b.data.length < 2 ^ 256) : read b.abiEncode = some b := by
  let tuple : Bytes := abiWords (b.body.words ++ [BytesN.ofNat 32 192]) ++ abiBytes b.data
  have hencode : b.abiEncode = (BytesN.ofNat 32 32).bytes ++ tuple := List.append_assoc ..
  have hwords : tuple = abiWords b.body.words ++ ((BytesN.ofNat 32 192).bytes ++ abiBytes b.data) := by
    simp [tuple, abiWords]
  have hlt : 5 < (b.body.words ++ [BytesN.ofNat 32 192]).length := by simp [Body.words]
  have hoffset : abiWord tuple 5 = some (BytesN.ofNat 32 192) := abiWord_abiWords hlt _
  have htail : tuple.drop 192 = abiBytes b.data := List.drop_left' (length_abiWords _)
  have hlength : abiWord (abiBytes b.data) 0 = some (BytesN.ofNat 32 b.data.length) := by
    rw [abiBytes, List.append_assoc]
    exact abiWord_cons_zero _ _
  have hcall : ((abiBytes b.data).drop 32).take b.data.length = b.data := by
    rw [abiBytes, List.append_assoc, List.drop_left' (BytesN.length_bytes _), List.take_left' rfl]
  have hbody : Body.readFrom tuple 0 = some b.body := by
    rw [hwords]
    exact b.body.readFrom_words _
  have htuple : b.abiEncode.drop 32 = tuple := by
    rw [hencode]
    exact List.drop_left' (BytesN.length_bytes _)
  have hfirst : abiWord b.abiEncode 0 = some (BytesN.ofNat 32 32) := by
    rw [hencode]
    exact abiWord_cons_zero _ _
  have h32 : beValue (BytesN.ofNat 32 32).bytes = 32 := beValue_ofNat (by decide)
  have h192 : beValue (BytesN.ofNat 32 192).bytes = 192 := beValue_ofNat (by decide)
  simp only [read, hfirst, h32, htuple, hbody, hoffset, h192, htail, hlength, beValue_ofNat hdata, hcall,
    Option.bind_eq_bind, Option.bind_some, if_true]

end BodyWithCall

end Hyperbridge.TokenGateway
