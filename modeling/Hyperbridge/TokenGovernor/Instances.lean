import Hyperbridge.Ismp.Commitments
import Hyperbridge.TokenGovernor.Outbox

/-!
# New instances of the gateway

When a chain gets a gateway with a new address, the gateways of all other chains are to be told. The loop goes over the
updated chains and, for each, over the gateways there are. It addresses its message to the gateway of the other chain
and dispatches it to the chain that was updated, where that address means nothing. So no other chain is ever told.
-/

namespace Hyperbridge.TokenGovernor

open Lib Exec Ismp TokenGateway

structure TokenGatewayParamsUpdate where
  callDispatcher : Option H160
  address : Option H160

/-- A `BTreeMap`: no chain twice. -/
structure GatewayUpdates where
  entries : List (StateMachine × TokenGatewayParamsUpdate)
  nodup : (entries.map Prod.fst).Nodup

def encodeContractInstance (chain : Bytes) (moduleId : H160) : Bytes :=
  5 :: (abiWords [BytesN.ofNat 32 32, BytesN.ofNat 32 64, addressWord moduleId] ++ abiBytes chain)

variable (entry : StateMachine × TokenGatewayParamsUpdate)

/-- An address that is not given is zero. -/
def setGateway (gateways : StateMachine → Option H160) :
    StateMachine → Option H160 :=
  Function.update gateways entry.1 (some (entry.2.address.getD (BytesN.zero 20)))

def setGatewayParams (s : Storage) : Storage :=
  { s with tokenGatewayParams := setGateway entry s.tokenGatewayParams }

section Model

variable {Other : Type} (T : Config Other) (K : Runtime Other)
  (iter : (StateMachine → Option H160) → List (StateMachine × H160))

def setAll (entries : List (StateMachine × TokenGatewayParamsUpdate)) : Exec (World Other) Error Unit :=
  forEach (fun entry => modify (updateStorage K (setGatewayParams entry))) entries

/-- To the chain that was updated. -/
def announceTo (updated : StateMachine) (body : Bytes) (gateway : StateMachine × H160) :
    Exec (World Other) Error Unit :=
  if gateway.1 = updated then pure () else send T updated gateway.2 body

def announce (updated : StateMachine) : Exec (World Other) Error Unit := do
  let params ← gets fun w => (storageOf K w).tokenGatewayParams updated
  let address ← expect "Params set in previous loop; qed" params
  let chain ← expect displayPanic updated.toText
  let gateways ← gets fun w => iter (storageOf K w).tokenGatewayParams
  forEach (announceTo T updated (encodeContractInstance chain address)) gateways

/-- `add_new_gateway_instance`. -/
def addNewGatewayInstance (updates : GatewayUpdates) : Exec (World Other) Error Unit := do
  setAll K updates.entries
  forEach (announce T K iter) (updates.entries.map Prod.fst)

end Model

variable {Other : Type} {T : Config Other} {K : Runtime Other} {B : Outbox T K} {w w' : World Other}
  {iter : (StateMachine → Option H160) → List (StateMachine × H160)}

def GatewayUpdates.apply (updates : GatewayUpdates) (gateways : StateMachine → Option H160) :
    StateMachine → Option H160 :=
  updates.entries.foldl (fun gateways entry => setGateway entry gateways) gateways

variable (gateways : StateMachine → Option H160)

/-- What is said about a chain. -/
def announcement (updated : StateMachine) : Option Bytes := do
  let chain ← updated.toText
  let address ← gateways updated
  some (encodeContractInstance chain address)

/-- The messages for one updated chain. -/
def announcements (all : List (StateMachine × H160)) (updated : StateMachine) :
    List Message :=
  (all.filter fun gateway => gateway.1 ≠ updated).map fun gateway =>
    ⟨updated, gateway.2.bytes, (announcement gateways updated).getD []⟩

theorem setAll_ok {entries : List (StateMachine × TokenGatewayParamsUpdate)} {u : Unit}
    (h : (setAll K entries).run w = (.ok u, w')) :
    (storageOf K w').tokenGatewayParams =
        entries.foldl (fun gateways entry => setGateway entry gateways) (storageOf K w).tokenGatewayParams ∧
      B.Sends w w' [] := by
  induction entries generalizing w with
  | nil =>
    obtain ⟨-, rfl⟩ := Prod.mk.inj h
    exact ⟨rfl, Outbox.sends_nil w⟩
  | cons entry entries ih =>
    obtain ⟨_, v, hfirst, hrest⟩ := forEach_cons_ok.mp h
    obtain ⟨-, rfl⟩ := Prod.mk.inj hfirst
    obtain ⟨hgateways, hsends⟩ := ih hrest
    refine ⟨?_, (Outbox.sends_updateStorage _ w).append hsends⟩
    rw [hgateways, storageOf_updateStorage]
    rfl

theorem announceTo_loop (hT : Apart T K) (B : Outbox T K) {updated : StateMachine} {body : Bytes}
    {gateways : List (StateMachine × H160)} {u : Unit}
    (h : (forEach (announceTo T updated body) gateways).run w = (.ok u, w')) :
    storageOf K w' = storageOf K w ∧
      B.Sends w w' ((gateways.filter fun gateway => gateway.1 ≠ updated).map fun gateway =>
        ⟨updated, gateway.2.bytes, body⟩) := by
  induction gateways generalizing w with
  | nil =>
    obtain ⟨-, rfl⟩ := Prod.mk.inj h
    exact ⟨rfl, Outbox.sends_nil w⟩
  | cons gateway gateways ih =>
    obtain ⟨_, v, hfirst, hrest⟩ := forEach_cons_ok.mp h
    obtain ⟨hstorage, hsends⟩ := ih hrest
    unfold announceTo at hfirst
    by_cases hself : gateway.1 = updated
    · rw [if_pos hself] at hfirst
      obtain ⟨-, rfl⟩ := Prod.mk.inj hfirst
      rw [List.filter_cons_of_neg (by simpa using hself)]
      exact ⟨hstorage, hsends⟩
    · rw [if_neg hself] at hfirst
      obtain ⟨hstorage', hsends'⟩ := send_ok hT B hfirst
      rw [List.filter_cons_of_pos (by simpa using hself)]
      exact ⟨hstorage.trans hstorage', hsends'.append hsends⟩

theorem announce_ok (hT : Apart T K) (B : Outbox T K) {updated : StateMachine} {u : Unit}
    (h : (announce T K iter updated).run w = (.ok u, w')) :
    storageOf K w' = storageOf K w ∧ (announcement (storageOf K w).tokenGatewayParams updated).isSome = true ∧
      B.Sends w w' (announcements (storageOf K w).tokenGatewayParams
        (iter (storageOf K w).tokenGatewayParams) updated) := by
  rw [announce, gets_bind_run] at h
  obtain ⟨address, haddress, h⟩ := expect_bind_ok.mp h
  obtain ⟨chain, hchain, h⟩ := expect_bind_ok.mp h
  rw [gets_bind_run] at h
  obtain ⟨hstorage, hsends⟩ := announceTo_loop hT B h
  have hbody : announcement (storageOf K w).tokenGatewayParams updated =
    some (encodeContractInstance chain address) := by
    simp [announcement, hchain, haddress]
  unfold announcements
  rw [hbody]
  exact ⟨hstorage, rfl, hsends⟩

theorem announce_loop (hT : Apart T K) (B : Outbox T K) {chains : List StateMachine} {u : Unit}
    (h : (forEach (announce T K iter) chains).run w = (.ok u, w')) :
    storageOf K w' = storageOf K w ∧
      (∀ chain ∈ chains, (announcement (storageOf K w).tokenGatewayParams chain).isSome = true) ∧
      B.Sends w w' (chains.flatMap
        (announcements (storageOf K w).tokenGatewayParams (iter (storageOf K w).tokenGatewayParams))) := by
  induction chains generalizing w with
  | nil =>
    obtain ⟨-, rfl⟩ := Prod.mk.inj h
    exact ⟨rfl, fun _ hmem => absurd hmem List.not_mem_nil, Outbox.sends_nil w⟩
  | cons chain chains ih =>
    obtain ⟨_, v, hfirst, hrest⟩ := forEach_cons_ok.mp h
    obtain ⟨hstorage, hsome, hsends⟩ := announce_ok hT B hfirst
    obtain ⟨hstorage', hsome', hsends'⟩ := ih hrest
    rw [hstorage] at hstorage' hsome' hsends'
    exact ⟨hstorage', List.forall_mem_cons.mpr ⟨hsome, hsome'⟩, hsends.append hsends'⟩

theorem addNewGatewayInstance_ok (hT : Apart T K) (B : Outbox T K) {updates : GatewayUpdates} {u : Unit}
    (h : (addNewGatewayInstance T K iter updates).run w = (.ok u, w')) :
    let gateways := updates.apply (storageOf K w).tokenGatewayParams
    (storageOf K w').tokenGatewayParams = gateways ∧
      (∀ chain ∈ updates.entries.map Prod.fst, (announcement gateways chain).isSome = true) ∧
      B.Sends w w' ((updates.entries.map Prod.fst).flatMap (announcements gateways (iter gateways))) := by
  obtain ⟨_, v, hset, h⟩ := bind_ok.mp h
  obtain ⟨hgateways, hsends⟩ := setAll_ok (B := B) hset
  obtain ⟨hstorage, hsome, hsends'⟩ := announce_loop hT B h
  rw [hgateways] at hsome hsends'
  refine ⟨?_, hsome, hsends.append hsends'⟩
  rw [hstorage, hgateways]
  rfl

theorem encodeContractInstance_chain {c c' : StateMachine} {chain chain' : Bytes} {address address' : H160}
    (hc : c.toText = some chain) (hc' : c'.toText = some chain')
    (h : encodeContractInstance chain address = encodeContractInstance chain' address') : c = c' := by
  have hbodies := List.append_inj_right (List.cons.inj h).2 (by rw [length_abiWords, length_abiWords]; rfl)
  obtain ⟨-, rfl⟩ := StateMachine.toText_eq_some.mp hc
  obtain ⟨-, rfl⟩ := StateMachine.toText_eq_some.mp hc'
  have hzeros (n : Nat) : (List.replicate n (0 : UInt8)).takeWhile isDigit = [] := by
    cases n <;> rfl
  exact (StateMachine.eq_of_text_append (hzeros _) (hzeros _) (zeros_of_abiBytes_eq hbodies)).1

/-- The chain can be read off the body. -/
theorem announcement_inj {gateways : StateMachine → Option H160} {c c' : StateMachine} {body : Bytes}
    (h : announcement gateways c = some body) (h' : announcement gateways c' = some body) : c = c' := by
  simp only [announcement, Option.bind_eq_bind, Option.bind_eq_some_iff, Option.some.injEq] at h h'
  obtain ⟨chain, hchain, address, -, rfl⟩ := h
  obtain ⟨chain', hchain', address', -, hsame⟩ := h'
  exact encodeContractInstance_chain hchain hchain' hsame.symm

def Enumerates (all : List (StateMachine × H160)) : Prop :=
  ∀ chain address, (chain, address) ∈ all ↔ gateways chain = some address

def AnnouncedEverywhere (updated : List StateMachine) (sent : List Message) : Prop :=
  ∀ u ∈ updated, ∀ c address, c ≠ u → gateways c = some address →
    ∃ body, announcement gateways u = some body ∧ sent.count ⟨c, address.bytes, body⟩ = 1

/-- There is no other chain to tell. -/
def OnlyGateway (updated : List StateMachine) : Prop :=
  ∀ u ∈ updated, ∀ c, gateways c ≠ none → c = u

theorem dest_mem_announcements {gateways : StateMachine → Option H160} {all : List (StateMachine × H160)}
    {updated : List StateMachine} (hsome : ∀ u ∈ updated, (announcement gateways u).isSome = true) {m : Message}
    (h : m ∈ updated.flatMap (announcements gateways all)) :
    m.dest ∈ updated ∧ announcement gateways m.dest = some m.body := by
  obtain ⟨u, hu, hm⟩ := List.mem_flatMap.mp h
  obtain ⟨gateway, -, rfl⟩ := List.mem_map.mp hm
  obtain ⟨body, hbody⟩ := Option.isSome_iff_exists.mp (hsome u hu)
  refine ⟨hu, ?_⟩
  dsimp only
  rw [hbody, Option.getD_some]

/-- A call that succeeds sends, for every updated chain and every gateway of another one, one message: to the updated
chain. So the updates are announced everywhere exactly if there is no other chain to announce them to. -/
theorem announced_everywhere_iff (hT : Apart T K) (B : Outbox T K) {updates : GatewayUpdates}
    (hiter : Enumerates (updates.apply (storageOf K w).tokenGatewayParams)
      (iter (updates.apply (storageOf K w).tokenGatewayParams)))
    (h : (addNewGatewayInstance T K iter updates).run w = (.ok (), w')) :
    let gateways := updates.apply (storageOf K w).tokenGatewayParams
    let updated := updates.entries.map Prod.fst
    ∃ sent, B.Sends w w' sent ∧ (storageOf K w').tokenGatewayParams = gateways ∧
      (∀ u ∈ updated, ∀ c address, c ≠ u → gateways c = some address →
        ∃ body, announcement gateways u = some body ∧ ⟨u, address.bytes, body⟩ ∈ sent) ∧
      (∀ m ∈ sent, m.dest ∈ updated ∧ announcement gateways m.dest = some m.body) ∧
      (AnnouncedEverywhere gateways updated sent ↔ OnlyGateway gateways updated) := by
  intro gateways updated
  obtain ⟨hgateways, hsome, hsends⟩ := addNewGatewayInstance_ok hT B h
  refine ⟨_, hsends, hgateways, fun u hu c address hne hc => ?_, fun m hm => dest_mem_announcements hsome hm, ?_, ?_⟩
  · obtain ⟨body, hbody⟩ := Option.isSome_iff_exists.mp (hsome u hu)
    refine ⟨body, hbody, List.mem_flatMap.mpr ⟨u, hu, List.mem_map.mpr ⟨(c, address), ?_, ?_⟩⟩⟩
    · exact List.mem_filter.mpr ⟨(hiter c address).mpr hc, by simpa using hne⟩
    · dsimp only
      rw [hbody, Option.getD_some]
  · intro hannounced u hu c hc
    by_contra hne
    obtain ⟨address, hc⟩ := Option.ne_none_iff_exists'.mp hc
    obtain ⟨body, hbody, hcount⟩ := hannounced u hu c address hne hc
    have hmem := List.count_pos_iff.mp (hcount ▸ Nat.one_pos)
    -- whatever goes to a chain announces that chain
    have hdest := (dest_mem_announcements hsome hmem).2
    exact hne (announcement_inj hdest hbody)
  · intro honly u hu c address hne hc
    exact absurd (honly u hu c (by simp [hc])) hne

/-- The gateways of chains 1 and 10. -/
def twoChains : List (StateMachine × H160) :=
  [.evm 1, .evm 10].filterMap fun chain => (gateways chain).map fun address => (chain, address)

def oneGatewayWorld : World (Storage × List PostRequest) :=
  loggedWorld fun chain => if chain = .evm 1 then some (BytesN.ofNat 20 0xaa) else none

theorem nodup_oneUpdate : ([(StateMachine.evm 10, TokenGatewayParamsUpdate.mk none (some (BytesN.ofNat 20 0xbb)))].map
    Prod.fst).Nodup := List.nodup_singleton _

/-- Chain 10 gets a gateway. -/
def oneUpdate : GatewayUpdates where
  entries := [(.evm 10, ⟨none, some (BytesN.ofNat 20 0xbb)⟩)]
  nodup := nodup_oneUpdate

def twoGateways : StateMachine → Option H160 :=
  oneUpdate.apply (storageOf loggedRuntime oneGatewayWorld).tokenGatewayParams

theorem twoGateways_eq (chain : StateMachine) :
    twoGateways chain = if chain = .evm 10 then some (BytesN.ofNat 20 0xbb)
      else if chain = .evm 1 then some (BytesN.ofNat 20 0xaa) else none := by
  by_cases h : chain = .evm 10
  · rw [h]
    rfl
  · rw [if_neg h]
    exact Function.update_of_ne h ..

theorem twoChains_enumerates : Enumerates twoGateways (twoChains twoGateways) := by
  intro chain address
  rw [twoGateways_eq]
  simp only [twoChains, List.mem_filterMap, List.mem_cons, List.not_mem_nil, or_false, Option.map_eq_some_iff,
    Prod.mk.injEq]
  constructor
  · rintro ⟨c, -, _, hc, rfl, rfl⟩
    rwa [twoGateways_eq] at hc
  · intro h
    refine ⟨chain, ?_, address, by rwa [twoGateways_eq], rfl, rfl⟩
    split_ifs at h with h10 h1
    · exact .inr h10
    · exact .inl h1

def announcedWorld : World (Storage × List PostRequest) :=
  ((addNewGatewayInstance loggedGovernor loggedRuntime twoChains oneUpdate).run oneGatewayWorld).2

theorem announced_run :
    (addNewGatewayInstance loggedGovernor loggedRuntime twoChains oneUpdate).run oneGatewayWorld =
      (.ok (), announcedWorld) := run_of_fst_ok (by decide +kernel)

theorem announced_everywhere_iff_sample :
    ∃ sent, loggedOutbox.Sends oneGatewayWorld announcedWorld sent ∧
      (AnnouncedEverywhere twoGateways [.evm 10] sent ↔ OnlyGateway twoGateways [.evm 10]) := by
  obtain ⟨sent, hsends, -, -, -, hiff⟩ :=
    announced_everywhere_iff logged_apart loggedOutbox twoChains_enumerates announced_run
  exact ⟨sent, hsends, hiff⟩

/-- The one message about chain 10 goes to chain 10 itself, for the gateway of chain 1; chain 1 is told nothing. -/
theorem announced_to_itself :
    (addNewGatewayInstance loggedGovernor loggedRuntime twoChains oneUpdate).run oneGatewayWorld =
        (.ok (), announcedWorld) ∧
      loggedOutbox.Sends oneGatewayWorld announcedWorld [⟨.evm 10, (BytesN.ofNat 20 0xaa).bytes,
        encodeContractInstance (asBytes "EVM-10") (BytesN.ofNat 20 0xbb)⟩] ∧
      twoGateways (.evm 1) = some (BytesN.ofNat 20 0xaa) ∧
      ∀ m ∈ loggedOutbox.messages announcedWorld, m.dest ≠ .evm 1 :=
  ⟨announced_run, by unfold Outbox.Sends; decide +kernel, by decide +kernel, by decide +kernel⟩

end Hyperbridge.TokenGovernor
