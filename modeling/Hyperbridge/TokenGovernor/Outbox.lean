import Hyperbridge.TokenGovernor.Unsigned

/-!
# What the governor sends

The requests that are dispatched end up in the mountain range. An `Outbox` reads them there, in the order in which they
were dispatched. Of a request the governor chooses the chain, the contract and the body; the rest is filled in by
pallet-ismp.
-/

namespace Hyperbridge.TokenGovernor

open Lib Exec Ismp TokenGateway

variable {Other : Type} {T : Config Other} {K : Runtime Other} {w w' : World Other}

/-- What the governor chooses of a request. -/
structure Message where
  dest : StateMachine
  toModule : Bytes
  body : Bytes
  deriving DecidableEq

def Message.ofPost (post : PostRequest) : Message := ⟨post.dest, post.toModule, post.body⟩

structure Outbox (T : Config Other) (K : Runtime Other) where
  posts : Other → List PostRequest
  posts_mmrPush : ∀ post o, posts (T.mmrPush (.request (.post post)) o).2 = posts o ++ [post]
  posts_set : ∀ s o, posts (K.storage.set s o) = posts o

def Outbox.messages (B : Outbox T K) (w : World Other) : List Message := (B.posts w.host.other).map Message.ofPost

/-- The messages are sent, in this order. -/
def Outbox.Sends (B : Outbox T K) (w w' : World Other) (messages : List Message) : Prop :=
  B.messages w' = B.messages w ++ messages

variable {B : Outbox T K}

theorem Outbox.sends_nil (w : World Other) : B.Sends w w [] := (List.append_nil _).symm

theorem Outbox.Sends.append {v : World Other} {ms ms' : List Message} (h : B.Sends w v ms) (h' : B.Sends v w' ms') :
    B.Sends w w' (ms ++ ms') := by
  unfold Sends at *
  rw [h', h, List.append_assoc]

theorem Outbox.sends_updateStorage (f : Storage → Storage) (w : World Other) : B.Sends w (updateStorage K f w) [] := by
  refine Eq.trans ?_ (List.append_nil _).symm
  exact congrArg (List.map Message.ofPost) (B.posts_set _ _)

/-- One message is sent. -/
theorem send_ok {dest : StateMachine} {address : H160} {body : Bytes} {u : Unit} (hT : Apart T K) (B : Outbox T K)
    (h : (send T dest address body).run w = (.ok u, w')) :
    storageOf K w' = storageOf K w ∧ B.Sends w w' [⟨dest, address.bytes, body⟩] := by
  obtain ⟨c, v, hdispatch, h⟩ := bind_ok.mp h
  obtain ⟨-, rfl⟩ := Prod.mk.inj h
  obtain ⟨other, hcollected, -, -, rfl⟩ := dispatchRequest_ok (mapErr_ok.mp hdispatch)
  -- there is no fee
  obtain rfl : other = w.host.other := hcollected
  constructor
  · exact hT.mmrPush _ _
  · refine (congrArg _ (B.posts_mmrPush _ _)).trans ?_
    rw [List.map_append]
    rfl

/-- The storage, with the requests beside it. -/
def loggedRuntime : Runtime (Storage × List PostRequest) where
  storage :=
    { get := Prod.fst
      set := fun s o => (s, o.2)
      get_set := fun _ _ => rfl
      set_get := fun _ => rfl
      set_set := fun _ _ _ => rfl }
  treasuryAccount := BytesN.zero 32
  secp256k1EcdsaRecover signature _ := some signature
  decodeErrorText _ := "type check failed"

def leafPosts : Leaf → List PostRequest
  | .request (.post post) => [post]
  | _ => []

def loggedGovernor : Config (Storage × List PostRequest) :=
  { runtimeConfig (.polkadot 3367) (.polkadot 2000) silentClient fun _ _ _ other => .ok other with
    mmrPush := fun leaf o => (⟨0, 0⟩, o.1, o.2 ++ leafPosts leaf) }

theorem logged_apart : Apart loggedGovernor loggedRuntime where
  transfer _ _ _ _ _ h := by rw [← Except.ok.inj h]
  mmrPush _ _ := rfl

def loggedOutbox : Outbox loggedGovernor loggedRuntime where
  posts := Prod.snd
  posts_mmrPush _ _ := rfl
  posts_set _ _ := rfl

def loggedWorld (gateways : StateMachine → Option H160) : World (Storage × List PostRequest) :=
  ⟨{ sampleHost with other := ({ emptyStorage with tokenGatewayParams := gateways }, []) }, []⟩

end Hyperbridge.TokenGovernor
