import Hyperbridge.TokenGovernor.Outbox

/-!
# The chains an asset is listed on

`SupportedChains` is written when the creation of an asset is sent to a chain, and the removal of a chain sends a
deregistration and leaves the map as it is. After a removal the map is wrong for good, the chain cannot be added again,
and every further removal is sent.

What a call does is stated first as an effect on the storage, with the notices it sends; the calls of the pallet refine
that.
-/

namespace Hyperbridge.TokenGovernor

open Lib Exec Ismp TokenGateway

/-- What is sent to a chain. -/
inductive Notice where
  | creation (assetId : H256) (metadata : AssetMetadata) (target : ChainWithSupply)
  | erc20Creation (assetId : H256) (metadata : AssetMetadata) (target : AssetRegistration)
  | deregistration (assetId : H256) (chain : StateMachine)
  | adminChange (assetId : H256) (change : StateMachine × H160)

namespace Notice

def chain : Notice → StateMachine
  | creation _ _ target => target.chain
  | erc20Creation _ _ target => target.chain
  | deregistration _ chain => chain
  | adminChange _ change => change.1

def body : Notice → Except Error Bytes
  | creation _ metadata target => deploymentBody metadata target.chain target.supply
  | erc20Creation _ metadata target => do
      let body ← okOr (SolAssetMetadata.ofMetadata { metadata with decimals := target.decimals }) .invalidUtf8
      .ok { body with
        erc20 := target.erc20.getD body.erc20, erc6160 := target.erc6160.getD body.erc6160 }.encodeRequest
  | deregistration assetId chain => .ok (
      if chain.isSubstrate then Codecs.deregisterAssets.encode ⟨⟨[assetId], length_one_id_le assetId⟩⟩
      else encodeDeregister assetId)
  | adminChange assetId change => .ok (encodeChangeAdmin assetId change.2)

def recipient {Other : Type} (T : Config Other) (gateways : StateMachine → Option H160) : Notice → Option H160
  | creation _ _ target =>
      if target.chain.isSubstrate then some (tokenGatewayId T.keccak256) else gateways target.chain
  | erc20Creation _ _ target => gateways target.chain
  | deregistration _ chain => if chain.isSubstrate then some (tokenGatewayId T.keccak256) else gateways chain
  | adminChange _ change => gateways change.1

/-- The message carries the notice. -/
def Is {Other : Type} (T : Config Other) (gateways : StateMachine → Option H160) (n : Notice) (m : Message) : Prop :=
  ∃ address body, n.recipient T gateways = some address ∧ n.body = .ok body ∧ m = ⟨n.chain, address.bytes, body⟩

def lists (assetId : H256) (chain : StateMachine) : Notice → Option Bool
  | creation assetId' _ target => if assetId' = assetId ∧ target.chain = chain then some true else none
  | erc20Creation assetId' _ target => if assetId' = assetId ∧ target.chain = chain then some true else none
  | deregistration assetId' chain' => if assetId' = assetId ∧ chain' = chain then some false else none
  | adminChange _ _ => none

end Notice

variable (assetId : H256) (chain : StateMachine)

/-- The listing notices of an asset on a chain. -/
def listings (notices : List Notice) : List Bool :=
  notices.filterMap (Notice.lists assetId chain)

variable (s : Storage)

/-- Only creations are recorded. -/
def Notice.record : Notice → Storage
  | creation assetId _ target => support assetId target.chain s
  | erc20Creation assetId _ target => support assetId target.chain s
  | deregistration _ _ => s
  | adminChange _ _ => s

abbrev Effect := Storage × List Notice

/-- Notices are recorded one by one. -/
def told (notices : List Notice) : Effect := (notices.foldl Notice.record s, notices)

/-- Each step sees what the earlier ones recorded. -/
def noticesOf {α : Type} (step : α → Storage → List Notice) : List α → Storage → List Notice
  | [], _ => []
  | a :: as, s => step a s ++ noticesOf step as (told s (step a s)).1

variable (metadata : AssetMetadata)

/-- Nothing if the chain is supported. -/
def chainAdded (target : ChainWithSupply) (s : Storage) : List Notice :=
  if s.supportedChains assetId target.chain then [] else [.creation assetId metadata target]

def ifSupported (n : Notice) (s : Storage) : List Notice :=
  if s.supportedChains assetId chain then [n] else []

def chainRemoved : List Notice :=
  ifSupported assetId chain (.deregistration assetId chain) s

def adminChanged (change : StateMachine × H160) (s : Storage) : List Notice :=
  ifSupported assetId change.1 (.adminChange assetId change) s

/-- The calls that list or remove. -/
inductive ListingCall where
  | registerAsset (asset : ERC6160AssetRegistration) (who : AccountId)
  | createErc20Asset (asset : ERC20AssetRegistration)
  | updateErc6160AssetImpl (update : ERC6160AssetUpdate)

def updated (update : ERC6160AssetUpdate) (s : Storage) : Effect :=
  let added := noticesOf (chainAdded update.assetId metadata) update.addChains.1 s
  let removed := noticesOf (chainRemoved update.assetId) update.removeChains.1 (told s added).1
  let changed := noticesOf (adminChanged update.assetId) update.newAdmins.1 (told s (added ++ removed)).1
  told s (added ++ removed ++ changed)

def created {α : Type} (who : AccountId) (notice : α → Notice)
    (targets : List α) (s : Storage) : Effect :=
  (insertAsset assetId metadata who (told s (targets.map notice)).1, targets.map notice)

/-- What each call does. -/
def ListingCall.effect {Other : Type} (T : Config Other) (s : Storage) : ListingCall → Effect
  | registerAsset asset who =>
      let assetId := T.keccak256 asset.symbol.1
      created assetId asset.metadata who (.creation assetId asset.metadata) asset.chains s
  | createErc20Asset asset =>
      let assetId := T.keccak256 asset.symbol.1
      let metadata : AssetMetadata := ⟨asset.name, asset.symbol, 0, none⟩
      let last := asset.chains.getLast?.elim metadata fun target => { metadata with decimals := target.decimals }
      created assetId last palletAccount (.erc20Creation assetId metadata) asset.chains s
  | updateErc6160AssetImpl update =>
      (s.assetMetadatas update.assetId).elim (s, []) fun metadata => updated metadata update s

section Notices

variable {s : Storage} {ns ns' : List Notice} {a : H256} {c : StateMachine} {b : Bool}

theorem listings_append : listings a c (ns ++ ns') = listings a c ns ++ listings a c ns' := List.filterMap_append

theorem mem_listings : b ∈ listings a c ns ↔ ∃ n ∈ ns, n.lists a c = some b := List.mem_filterMap

theorem told_append : told s (ns ++ ns') = ((told (told s ns).1 ns').1, ns ++ ns') := by
  rw [told, List.foldl_append, told, told]

theorem told_fields (s : Storage) (ns : List Notice) : (told s ns).1.assetOwners = s.assetOwners ∧
    (told s ns).1.assetMetadatas = s.assetMetadatas ∧ (told s ns).1.tokenGatewayParams = s.tokenGatewayParams := by
  induction ns generalizing s with
  | nil => exact ⟨rfl, rfl, rfl⟩
  | cons n ns ih =>
    obtain ⟨howners, hmetadatas, hgateways⟩ := ih (n.record s)
    cases n <;> exact ⟨howners, hmetadatas, hgateways⟩

theorem supported_support {assetId : H256} {chain : StateMachine} :
    (support assetId chain s).supportedChains a c = true ↔ s.supportedChains a c = true ∨ assetId = a ∧ chain = c := by
  dsimp only [support]
  by_cases ha : a = assetId
  · subst ha
    rw [Function.update_self]
    by_cases hc : c = chain
    · simp [hc]
    · simp [hc, Ne.symm hc]
  · simp [ha, Ne.symm ha]

theorem told_supported :
    (told s ns).1.supportedChains a c = true ↔ s.supportedChains a c = true ∨ true ∈ listings a c ns := by
  unfold told
  induction ns generalizing s with
  | nil => simp [listings]
  | cons n ns ih =>
    have hrecord : (n.record s).supportedChains a c = true ↔ s.supportedChains a c = true ∨
      n.lists a c = some true := by
      cases n <;> simp [Notice.record, Notice.lists, supported_support]
    rw [List.foldl_cons, ih, hrecord, mem_listings, mem_listings, List.exists_mem_cons_iff, or_assoc]

theorem mem_noticesOf {α : Type} {step : α → Storage → List Notice} {as : List α} {n : Notice}
    (h : n ∈ noticesOf step as s) : ∃ t ∈ as, ∃ s',
      (∀ a c, s.supportedChains a c = true → s'.supportedChains a c = true) ∧
      n ∈ step t s' := by
  induction as generalizing s with
  | nil => cases h
  | cons t as ih =>
    obtain hfirst | hrest := List.mem_append.mp h
    · exact ⟨t, List.mem_cons_self .., s, fun _ _ => id, hfirst⟩
    · obtain ⟨t', ht', s', hkept, hn⟩ := ih hrest
      exact ⟨t', List.mem_cons_of_mem _ ht', s', fun a c hs => hkept a c (told_supported.mpr (.inl hs)), hn⟩

theorem noticesOf_map {α : Type} {notice : α → Notice} (as : List α) (s : Storage) :
    noticesOf (fun t _ => [notice t]) as s = as.map notice := by
  induction as generalizing s with
  | nil => rfl
  | cons t as ih => rw [noticesOf, ih, List.map_cons, List.singleton_append]

end Notices

variable {Other : Type} {T : Config Other} {K : Runtime Other} {B : Outbox T K} {w w' w₀ : World Other}

structure Does (B : Outbox T K) (w w' : World Other) (effect : Effect) : Prop where
  storage : storageOf K w' = effect.1
  sends : ∃ ms, List.Forall₂ (Notice.Is T (storageOf K w).tokenGatewayParams) effect.2 ms ∧ B.Sends w w' ms

section Calls

variable {assetId : H256} {metadata : AssetMetadata} {u : Unit}

theorem does_nothing (w : World Other) : Does B w w (told (storageOf K w) []) :=
  ⟨rfl, [], .nil, Outbox.sends_nil w⟩

theorem Does.append {v : World Other} {ns ns' : List Notice} (h : Does B w v (told (storageOf K w) ns))
    (h' : Does B v w' (told (storageOf K v) ns')) : Does B w w' (told (storageOf K w) (ns ++ ns')) := by
  obtain ⟨hstorage, ms, hms, hsends⟩ := h
  obtain ⟨hstorage', ms', hms', hsends'⟩ := h'
  rw [hstorage] at hstorage' hms'
  rw [(told_fields _ ns).2.2] at hms'
  exact ⟨by rw [hstorage', told_append], ms ++ ms', List.rel_append hms hms', hsends.append hsends'⟩

theorem does_updateStorage {e : Effect} {f : Storage → Storage} (h : Does B w w' e) :
    Does B w (updateStorage K f w') (f e.1, e.2) := by
  obtain ⟨hstorage, ms, hms, hsends⟩ := h
  refine ⟨by rw [storageOf_updateStorage, hstorage], ms, hms, ?_⟩
  rw [← List.append_nil ms]
  exact hsends.append (Outbox.sends_updateStorage f w')

/-- A loop does what its turns do. -/
theorem does_forEach {α : Type} {f : α → Exec (World Other) Error Unit} (step : α → Storage → List Notice)
    (hf : ∀ a w w', (f a).run w = (.ok (), w') → Does B w w' (told (storageOf K w) (step a (storageOf K w))))
    {as : List α} (h : (forEach f as).run w = (.ok u, w')) :
    Does B w w' (told (storageOf K w) (noticesOf step as (storageOf K w))) := by
  induction as generalizing w with
  | nil =>
    obtain ⟨-, rfl⟩ := Prod.mk.inj h
    exact does_nothing w
  | cons a as ih =>
    obtain ⟨_, v, hfirst, hrest⟩ := forEach_cons_ok.mp h
    have hdone := hf a w v hfirst
    have hrest := hdone.append (ih hrest)
    rwa [hdone.storage] at hrest

theorem does_send (hT : Apart T K) (B : Outbox T K) {n : Notice} {dest : StateMachine} {address : H160} {body : Bytes}
    (hchain : n.chain = dest) (haddress : n.recipient T (storageOf K w).tokenGatewayParams = some address)
    (hbody : n.body = .ok body) (h : (send T dest address body).run w = (.ok u, w')) :
    Does B w w' (storageOf K w, [n]) := by
  obtain ⟨hstorage, hsends⟩ := send_ok hT B h
  subst hchain
  exact ⟨hstorage, _, .cons ⟨address, body, haddress, hbody, rfl⟩ .nil, hsends⟩

theorem gatewayAddress_ok {chain : StateMachine} {address : H160} :
    (gatewayAddress T K chain).run w = (.ok address, w') ↔
      (if chain.isSubstrate then some (tokenGatewayId T.keccak256) else (storageOf K w).tokenGatewayParams chain) =
        some address ∧ w = w' := by
  unfold gatewayAddress contractAddress
  split
  · simp [Prod.ext_iff]
  · simp [query_ok, okOr_eq_ok]

theorem deploy_does (hT : Apart T K) (B : Outbox T K) {target : ChainWithSupply}
    (h : (deploy T K assetId metadata target).run w = (.ok u, w')) :
    Does B w w' (told (storageOf K w) [.creation assetId metadata target]) := by
  obtain ⟨address, _, haddress, h⟩ := bind_ok.mp h
  obtain ⟨hgateway, rfl⟩ := gatewayAddress_ok.mp haddress
  obtain ⟨body, hbody, h⟩ := ofExcept_bind_ok.mp h
  obtain ⟨_, v, hsend, h⟩ := bind_ok.mp h
  obtain ⟨-, rfl⟩ := Prod.mk.inj h
  exact does_updateStorage (does_send (n := .creation assetId metadata target) hT B rfl hgateway hbody hsend)

theorem deployErc20_does (hT : Apart T K) (B : Outbox T K) {target : AssetRegistration}
    (h : (deployErc20 T K assetId metadata target).run w = (.ok u, w')) :
    Does B w w' (told (storageOf K w) [.erc20Creation assetId metadata target]) := by
  obtain ⟨body, hbody, h⟩ := ofExcept_bind_ok.mp h
  obtain ⟨address, haddress, h⟩ := query_bind_ok.mp h
  obtain ⟨_, v, hsend, h⟩ := bind_ok.mp h
  obtain ⟨-, rfl⟩ := Prod.mk.inj h
  have hnotice : (Notice.erc20Creation assetId metadata target).body = .ok { body with
      erc20 := target.erc20.getD body.erc20, erc6160 := target.erc6160.getD body.erc6160 }.encodeRequest := by
    rw [Notice.body, hbody]
    rfl
  have hgateway : (storageOf K w).tokenGatewayParams target.chain = some address := okOr_eq_ok.mp haddress
  exact does_updateStorage (does_send (n := .erc20Creation assetId metadata target) hT B rfl hgateway hnotice hsend)

theorem addChain_does (hT : Apart T K) (B : Outbox T K) {target : ChainWithSupply}
    (h : (addChain T K assetId metadata target).run w = (.ok u, w')) :
    Does B w w' (told (storageOf K w) (chainAdded assetId metadata target (storageOf K w))) := by
  rw [addChain, gets_bind_run] at h
  unfold chainAdded
  by_cases hsupported : (storageOf K w).supportedChains assetId target.chain = true
  · rw [if_pos hsupported] at h ⊢
    obtain ⟨-, rfl⟩ := Prod.mk.inj h
    exact does_nothing w
  · rw [if_neg hsupported] at h ⊢
    exact deploy_does hT B h

theorem does_ifSupported {chain : StateMachine} {n : Notice} {x : Exec (World Other) Error Unit}
    (h : (if (storageOf K w).supportedChains assetId chain then x else pure ()).run w = (.ok u, w'))
    (hx : x.run w = (.ok u, w') → Does B w w' (told (storageOf K w) [n])) :
    Does B w w' (told (storageOf K w) (ifSupported assetId chain n (storageOf K w))) := by
  unfold ifSupported
  by_cases hsupported : (storageOf K w).supportedChains assetId chain = true
  · rw [if_pos hsupported] at h ⊢
    exact hx h
  · rw [if_neg hsupported] at h ⊢
    obtain ⟨-, rfl⟩ := Prod.mk.inj h
    exact does_nothing w

theorem removeChain_does (hT : Apart T K) (B : Outbox T K) {chain : StateMachine}
    (h : (removeChain T K assetId chain).run w = (.ok u, w')) :
    Does B w w' (told (storageOf K w) (chainRemoved assetId chain (storageOf K w))) := by
  rw [removeChain, gets_bind_run] at h
  refine does_ifSupported h fun h => ?_
  obtain ⟨address, _, haddress, h⟩ := bind_ok.mp h
  obtain ⟨hgateway, rfl⟩ := gatewayAddress_ok.mp haddress
  exact does_send (n := .deregistration assetId chain) hT B rfl hgateway rfl h

theorem changeAdmin_does (hT : Apart T K) (B : Outbox T K) {change : StateMachine × H160}
    (h : (changeAdmin T K assetId change).run w = (.ok u, w')) :
    Does B w w' (told (storageOf K w) (adminChanged assetId change (storageOf K w))) := by
  rw [changeAdmin, gets_bind_run] at h
  refine does_ifSupported h fun h => ?_
  obtain ⟨address, haddress, h⟩ := query_bind_ok.mp h
  exact does_send (n := .adminChange assetId change) hT B rfl (okOr_eq_ok.mp haddress) rfl h

theorem updateErc6160AssetImpl_does (hT : Apart T K) (B : Outbox T K) {update : ERC6160AssetUpdate}
    (h : (updateErc6160AssetImpl T K update).run w = (.ok u, w')) :
    ∃ metadata, (storageOf K w).assetMetadatas update.assetId = some metadata ∧
      Does B w w' (updated metadata update (storageOf K w)) := by
  obtain ⟨metadata, hmetadata, h⟩ := query_bind_ok.mp h
  obtain ⟨_, v, hadd, h⟩ := bind_ok.mp h
  obtain ⟨_, v', hremove, h⟩ := bind_ok.mp h
  have hadded := does_forEach _ (fun _ _ _ => addChain_does hT B) hadd
  have hremoved := hadded.append (does_forEach _ (fun _ _ _ => removeChain_does hT B) hremove)
  have hchanged := hremoved.append (does_forEach _ (fun _ _ _ => changeAdmin_does hT B) h)
  rw [hremoved.storage, hadded.storage] at hchanged
  exact ⟨metadata, okOr_eq_ok.mp hmetadata, hchanged⟩

end Calls

def ListingCall.Runs (T : Config Other) (K : Runtime Other) (w w' : World Other) : ListingCall → Prop
  | registerAsset asset who => (TokenGovernor.registerAsset T K asset who).run w = (.ok (), w')
  | createErc20Asset asset => (TokenGovernor.createErc20Asset T K asset).run w = (.ok (), w')
  | updateErc6160AssetImpl update => (TokenGovernor.updateErc6160AssetImpl T K update).run w = (.ok (), w')

/-- What the call checks. -/
def ListingCall.Admitted (T : Config Other) (s : Storage) : ListingCall → Prop
  | registerAsset asset _ => s.assetOwners (T.keccak256 asset.symbol.1) = none
  | createErc20Asset asset => s.assetOwners (T.keccak256 asset.symbol.1) = none
  | updateErc6160AssetImpl update => (s.assetMetadatas update.assetId).isSome

/-- Every call has its effect. -/
theorem ListingCall.does (hT : Apart T K) (B : Outbox T K) {call : ListingCall} (h : call.Runs T K w w') :
    call.Admitted T (storageOf K w) ∧ Does B w w' (call.effect T (storageOf K w)) := by
  cases call with
  | registerAsset asset who =>
    obtain ⟨hnone, v, hdeploy, rfl⟩ := registerAsset_ok.mp h
    have hdoes := does_forEach (fun t _ => [.creation _ _ t]) (fun _ _ _ => deploy_does hT B) hdeploy
    rw [noticesOf_map] at hdoes
    exact ⟨hnone, does_updateStorage hdoes⟩
  | createErc20Asset asset =>
    obtain ⟨_, _, hnew, h⟩ := bind_ok.mp h
    obtain ⟨hnone, rfl⟩ := ensureNew_ok.mp hnew
    obtain ⟨_, v, hdeploy, h⟩ := bind_ok.mp h
    obtain ⟨-, rfl⟩ := Prod.mk.inj h
    have hdoes := does_forEach (fun t _ => [.erc20Creation _ _ t]) (fun _ _ _ => deployErc20_does hT B) hdeploy
    rw [noticesOf_map] at hdoes
    exact ⟨hnone, does_updateStorage hdoes⟩
  | updateErc6160AssetImpl update =>
    obtain ⟨metadata, hmetadata, hdoes⟩ := updateErc6160AssetImpl_does hT B h
    refine ⟨by rw [Admitted, hmetadata]; rfl, ?_⟩
    rw [effect, hmetadata]
    exact hdoes

structure ListsRightly (s : Storage) (effect : Effect) : Prop where
  new : ∀ a c, s.supportedChains a c = true → true ∉ listings a c effect.2
  supported : ∀ a c, effect.1.supportedChains a c = true ↔ s.supportedChains a c = true ∨ true ∈ listings a c effect.2
  last : ∀ a c, false ∈ listings a c effect.2 →
    (listings a c effect.2).getLast? = some false ∧ effect.1.supportedChains a c = true

structure Owned (s : Storage) (effect : Effect) : Prop where
  stays : ∀ a, (s.assetOwners a).isSome = true → (effect.1.assetOwners a).isSome = true
  listed : ∀ a c, true ∈ listings a c effect.2 → (effect.1.assetOwners a).isSome = true
  known : ∀ a, (effect.1.assetMetadatas a).isSome = true → (effect.1.assetOwners a).isSome = true

structure Recorded (s : Storage) (log : List Notice) : Prop where
  listed : ∀ a c, s.supportedChains a c = true ↔ true ∈ listings a c log
  last : ∀ a c, false ∈ listings a c log →
    (listings a c log).getLast? = some false ∧ s.supportedChains a c = true
  owned : ∀ a c, s.supportedChains a c = true → (s.assetOwners a).isSome = true
  known : ∀ a, (s.assetMetadatas a).isSome = true → (s.assetOwners a).isSome = true

section Registry

variable {s : Storage} {log : List Notice} {a : H256} {c : StateMachine} {b : Bool}

section Created

variable {α : Type} {assetId : H256} {metadata : AssetMetadata} {who : AccountId} {notice : α → Notice}
  {targets : List α} (hnotice : ∀ t a c b, (notice t).lists a c = some b → b = true ∧ a = assetId)

include hnotice

theorem mem_listings_created (h : b ∈ listings a c (targets.map notice)) : b = true ∧ a = assetId := by
  obtain ⟨n, hn, hb⟩ := mem_listings.mp h
  obtain ⟨t, -, rfl⟩ := List.mem_map.mp hn
  exact hnotice t a c b hb

theorem listsRightly_created (hrec : Recorded s log) (hnew : s.assetOwners assetId = none) :
    ListsRightly s (created assetId metadata who notice targets s) := by
  refine ⟨fun a c hs hmem => ?_, fun a c => told_supported, fun a c hmem => ?_⟩
  · obtain ⟨-, rfl⟩ := mem_listings_created hnotice hmem
    have howner := hrec.owned a c hs
    rw [hnew] at howner
    cases howner
  · obtain ⟨hfalse, -⟩ := mem_listings_created hnotice hmem
    cases hfalse

theorem owned_created (hrec : Recorded s log) : Owned s (created assetId metadata who notice targets s) := by
  obtain ⟨howners, hmetadatas, -⟩ := told_fields s (targets.map notice)
  have howner (a : H256) : ((created assetId metadata who notice targets s).1.assetOwners a).isSome = true ↔
      a = assetId ∨ (s.assetOwners a).isSome = true := by
    dsimp only [created, insertAsset]
    rw [howners]
    by_cases ha : a = assetId
    · simp [ha]
    · simp [ha]
  refine ⟨fun a ha => (howner a).mpr (.inr ha), fun a c hmem => ?_, fun a hknown => (howner a).mpr ?_⟩
  · exact (howner a).mpr (.inl (mem_listings_created hnotice hmem).2)
  · dsimp only [created, insertAsset] at hknown
    rw [hmetadatas] at hknown
    by_cases ha : a = assetId
    · exact .inl ha
    · rw [Function.update_of_ne ha] at hknown
      exact .inr (hrec.known a hknown)

end Created

theorem lists_creation {assetId : H256} {metadata : AssetMetadata} (t : ChainWithSupply) (a : H256) (c : StateMachine)
    (b : Bool) (h : (Notice.creation assetId metadata t).lists a c = some b) : b = true ∧ a = assetId := by
  obtain ⟨⟨rfl, -⟩, hb⟩ := Option.ite_none_right_eq_some.mp h
  exact ⟨(Option.some.inj hb).symm, rfl⟩

theorem lists_erc20Creation {assetId : H256} {metadata : AssetMetadata} (t : AssetRegistration) (a : H256)
    (c : StateMachine) (b : Bool) (h : (Notice.erc20Creation assetId metadata t).lists a c = some b) :
    b = true ∧ a = assetId := by
  obtain ⟨⟨rfl, -⟩, hb⟩ := Option.ite_none_right_eq_some.mp h
  exact ⟨(Option.some.inj hb).symm, rfl⟩

section Updated

variable {metadata : AssetMetadata} {update : ERC6160AssetUpdate}

theorem mem_listings_added {targets : List ChainWithSupply} {assetId : H256}
    (h : b ∈ listings a c (noticesOf (chainAdded assetId metadata) targets s)) :
    b = true ∧ a = assetId ∧ ¬ s.supportedChains a c = true := by
  obtain ⟨n, hn, hb⟩ := mem_listings.mp h
  obtain ⟨t, -, s', hkept, hn⟩ := mem_noticesOf hn
  unfold chainAdded at hn
  split at hn
  · cases hn
  · rename_i hsupported
    obtain rfl := List.mem_singleton.mp hn
    obtain ⟨⟨rfl, rfl⟩, htrue⟩ := Option.ite_none_right_eq_some.mp hb
    exact ⟨(Option.some.inj htrue).symm, rfl, mt (hkept _ _) hsupported⟩

theorem noticesOf_ifSupported {α : Type} {assetId : H256} (chainOf : α → StateMachine) {notice : α → Notice}
    (hnotice : ∀ t s, (notice t).record s = s) (as : List α) (s : Storage) :
    noticesOf (fun t s => ifSupported assetId (chainOf t) (notice t) s) as s =
      (as.filter fun t => s.supportedChains assetId (chainOf t)).map notice := by
  induction as with
  | nil => rfl
  | cons t as ih =>
    have hsame : (told s (ifSupported assetId (chainOf t) (notice t) s)).1 = s := by
      unfold ifSupported
      split
      · exact hnotice t s
      · rfl
    rw [noticesOf, hsame, ih, ifSupported, List.filter_cons]
    split <;> rfl

theorem mem_listings_removed {chains : List StateMachine} {assetId : H256} :
    b ∈ listings a c (noticesOf (chainRemoved assetId) chains s) ↔
      b = false ∧ a = assetId ∧ c ∈ chains ∧ s.supportedChains a c = true := by
  rw [mem_listings]
  unfold chainRemoved
  rw [noticesOf_ifSupported (fun chain => chain) fun _ _ => rfl]
  constructor
  · rintro ⟨n, hn, hb⟩
    obtain ⟨chain, hchain, rfl⟩ := List.mem_map.mp hn
    obtain ⟨hmem, hsupported⟩ := List.mem_filter.mp hchain
    obtain ⟨⟨rfl, rfl⟩, hfalse⟩ := Option.ite_none_right_eq_some.mp hb
    exact ⟨(Option.some.inj hfalse).symm, rfl, hmem, hsupported⟩
  · rintro ⟨rfl, rfl, hc, hs⟩
    exact ⟨.deregistration a c, List.mem_map.mpr ⟨c, List.mem_filter.mpr ⟨hc, hs⟩, rfl⟩, if_pos ⟨rfl, rfl⟩⟩

theorem listings_updated : listings a c (updated metadata update s).2 =
    listings a c (noticesOf (chainAdded update.assetId metadata) update.addChains.1 s) ++
      listings a c (noticesOf (chainRemoved update.assetId) update.removeChains.1
        (told s (noticesOf (chainAdded update.assetId metadata) update.addChains.1 s)).1) := by
  dsimp only [updated, told]
  unfold adminChanged
  rw [listings_append, listings_append, noticesOf_ifSupported Prod.fst fun _ _ => rfl]
  refine (congrArg _ ?_).trans (List.append_nil _)
  rw [listings, List.filterMap_map, List.filterMap_eq_nil_iff]
  exact fun _ _ => rfl

theorem false_mem_listings_updated : false ∈ listings a c (updated metadata update s).2 ↔
    a = update.assetId ∧ c ∈ update.removeChains.1 ∧ (updated metadata update s).1.supportedChains a c = true := by
  have hadded : ¬ false ∈ listings a c (noticesOf (chainAdded update.assetId metadata) update.addChains.1 s) :=
    fun h => Bool.false_ne_true (mem_listings_added h).1
  have htrue : true ∈ listings a c (updated metadata update s).2 ↔
      true ∈ listings a c (noticesOf (chainAdded update.assetId metadata) update.addChains.1 s) := by
    rw [listings_updated, List.mem_append, mem_listings_removed]
    simp
  have hsupported : (updated metadata update s).1.supportedChains a c = true ↔
      s.supportedChains a c = true ∨ true ∈ listings a c (updated metadata update s).2 := told_supported
  rw [hsupported, htrue, listings_updated, List.mem_append, mem_listings_removed, told_supported]
  tauto

theorem listsRightly_updated (metadata : AssetMetadata) (update : ERC6160AssetUpdate) :
    ListsRightly s (updated metadata update s) := by
  refine ⟨fun a c hs hmem => ?_, fun a c => told_supported,
    fun a c hmem => ⟨?_, (false_mem_listings_updated.mp hmem).2.2⟩⟩
  · rw [listings_updated, List.mem_append, mem_listings_removed] at hmem
    obtain hmem | ⟨hfalse, -⟩ := hmem
    · exact (mem_listings_added hmem).2.2 hs
    · cases hfalse
  · -- the removals come last
    rw [listings_updated] at hmem ⊢
    rcases List.mem_append.mp hmem with hadded | hremoved
    · exact absurd (mem_listings_added hadded).1 Bool.false_ne_true
    · obtain ⟨b, hb⟩ := Option.ne_none_iff_exists'.mp (mt List.getLast?_eq_none_iff.mp (List.ne_nil_of_mem hremoved))
      rw [List.getLast?_append, hb, (mem_listings_removed.mp (List.mem_of_getLast? hb)).1]
      rfl

theorem owned_updated (hrec : Recorded s log) (hknown : (s.assetMetadatas update.assetId).isSome = true) :
    Owned s (updated metadata update s) := by
  obtain ⟨howners, hmetadatas, -⟩ := told_fields s (updated metadata update s).2
  change (updated metadata update s).1.assetOwners = _ at howners
  change (updated metadata update s).1.assetMetadatas = _ at hmetadatas
  refine ⟨fun a ha => by rwa [howners], fun a c hmem => ?_, fun a h => ?_⟩
  · rw [listings_updated, List.mem_append, mem_listings_removed] at hmem
    obtain hmem | ⟨hfalse, -⟩ := hmem
    · obtain ⟨-, rfl, -⟩ := mem_listings_added hmem
      rw [howners]
      exact hrec.known _ hknown
    · cases hfalse
  · rw [hmetadatas] at h
    rw [howners]
    exact hrec.known a h

end Updated

/-- Every admitted call lists rightly. -/
theorem ListingCall.listsRightly {call : ListingCall} (hrec : Recorded s log) (hadmitted : call.Admitted T s) :
    ListsRightly s (call.effect T s) ∧ Owned s (call.effect T s) := by
  cases call with
  | registerAsset asset who => exact ⟨listsRightly_created lists_creation hrec hadmitted,
    owned_created lists_creation hrec⟩
  | createErc20Asset asset =>
    exact ⟨listsRightly_created lists_erc20Creation hrec hadmitted, owned_created lists_erc20Creation hrec⟩
  | updateErc6160AssetImpl update =>
    obtain ⟨metadata, hmetadata⟩ := Option.isSome_iff_exists.mp hadmitted
    rw [effect, hmetadata]
    exact ⟨listsRightly_updated metadata update, owned_updated hrec hadmitted⟩

/-- The map stays a record. -/
theorem Recorded.step {call : ListingCall} (hrec : Recorded s log) (hadmitted : call.Admitted T s) :
    Recorded (call.effect T s).1 (log ++ (call.effect T s).2) := by
  obtain ⟨hlists, howned⟩ := call.listsRightly hrec hadmitted
  refine ⟨fun a c => ?_, fun a c hmem => ?_, fun a c hs => ?_, howned.known⟩
  · rw [hlists.supported, hrec.listed, listings_append, List.mem_append]
  · rw [listings_append] at hmem ⊢
    by_cases hnow : false ∈ listings a c (call.effect T s).2
    · obtain ⟨hlast, hsupported⟩ := hlists.last a c hnow
      rw [List.getLast?_append, hlast]
      exact ⟨rfl, hsupported⟩
    · -- a chain that was removed before is told nothing
      obtain ⟨hlast, hsupported⟩ := hrec.last a c ((List.mem_append.mp hmem).resolve_right hnow)
      have hnone : listings a c (call.effect T s).2 = [] := by
        rw [List.eq_nil_iff_forall_not_mem]
        intro b
        cases b with
        | false => exact hnow
        | true => exact hlists.new a c hsupported
      rw [hnone, List.append_nil]
      exact ⟨hlast, (hlists.supported a c).mpr (.inl hsupported)⟩
  · rcases (hlists.supported a c).mp hs with hbefore | hnow
    · exact howned.stays a (hrec.owned a c hbefore)
    · exact howned.listed a c hnow

end Registry

def SameRegistry (K : Runtime Other) (w w' : World Other) : Prop :=
  (storageOf K w').supportedChains = (storageOf K w).supportedChains ∧
    (storageOf K w').assetOwners = (storageOf K w).assetOwners ∧
    (storageOf K w').assetMetadatas = (storageOf K w).assetMetadatas

/-- Notices of the calls; in between what is registered stays. -/
inductive ListingRun (T : Config Other) (K : Runtime Other) (w₀ : World Other) : List Notice → World Other → Prop
  | start : ListingRun T K w₀ [] w₀
  | call {log : List Notice} {w w' : World Other} {call : ListingCall} (run : ListingRun T K w₀ log w)
      (hcall : call.Runs T K w w') : ListingRun T K w₀ (log ++ (call.effect T (storageOf K w)).2) w'
  | elsewhere {log : List Notice} {w w' : World Other} (run : ListingRun T K w₀ log w) (hsame : SameRegistry K w w') :
      ListingRun T K w₀ log w'

/-- At the start nothing is listed. -/
structure Unlisted (s : Storage) : Prop where
  none : ∀ assetId chain, s.supportedChains assetId chain = false
  known : ∀ assetId, (s.assetMetadatas assetId).isSome = true → (s.assetOwners assetId).isSome = true

theorem Unlisted.recorded {s : Storage} (h : Unlisted s) : Recorded s [] where
  listed a c := by simp [h.none, listings]
  last a c hmem := by cases hmem
  owned a c hs := by simp [h.none] at hs
  known := h.known

theorem ListingRun.recorded {log : List Notice} (hT : Apart T K) (B : Outbox T K) (h₀ : Unlisted (storageOf K w₀))
    (hrun : ListingRun T K w₀ log w) : Recorded (storageOf K w) log := by
  induction hrun with
  | start => exact h₀.recorded
  | call run hcall ih =>
    obtain ⟨hadmitted, hdoes⟩ := ListingCall.does hT B hcall
    rw [hdoes.storage]
    exact ih.step hadmitted
  | elsewhere run hsame ih =>
    obtain ⟨hsupported, howners, hmetadatas⟩ := hsame
    obtain ⟨hlisted, hlast, howned, hknown⟩ := ih
    rw [← hsupported] at hlisted hlast howned
    rw [← howners] at howned hknown
    rw [← hmetadatas] at hknown
    exact ⟨hlisted, hlast, howned, hknown⟩

def AccurateFor (log : List Notice) (assetId : H256) (chain : StateMachine) : Prop :=
  s.supportedChains assetId chain = true ↔ (listings assetId chain log).getLast? = some true

theorem Recorded.accurate_iff {s : Storage} {log : List Notice} (h : Recorded s log) (assetId : H256)
    (chain : StateMachine) : AccurateFor s log assetId chain ↔ false ∉ listings assetId chain log := by
  constructor
  · intro haccurate hmem
    obtain ⟨hlast, hsupported⟩ := h.last assetId chain hmem
    rw [haccurate.mp hsupported] at hlast
    cases hlast
  · intro hnone
    unfold AccurateFor
    rw [h.listed]
    constructor
    · intro hmem
      obtain ⟨b, hb⟩ := Option.ne_none_iff_exists'.mp (mt List.getLast?_eq_none_iff.mp (List.ne_nil_of_mem hmem))
      cases b with
      | true => exact hb
      | false => exact absurd (List.mem_of_getLast? hb) hnone
    · exact fun hlast => List.mem_of_getLast? hlast

/-- In every reachable state: a call that succeeds sends the notices of its effect. The map records the creations. It is
right about an asset and a chain exactly if no deregistration has been sent; once one has been sent, the map still has
the chain, no update adds it again, and every update that removes it sends another deregistration. -/
theorem registry_accurate_iff {log : List Notice} (hT : Apart T K) (B : Outbox T K) (h₀ : Unlisted (storageOf K w₀))
    (hrun : ListingRun T K w₀ log w) :
    (∀ (call : ListingCall) w', call.Runs T K w w' → Does B w w' (call.effect T (storageOf K w))) ∧
      ∀ assetId chain,
        ((storageOf K w).supportedChains assetId chain = true ↔ true ∈ listings assetId chain log) ∧
        (AccurateFor (storageOf K w) log assetId chain ↔ false ∉ listings assetId chain log) ∧
        (false ∈ listings assetId chain log →
          (storageOf K w).supportedChains assetId chain = true ∧ (listings assetId chain log).getLast? = some false ∧
          ∀ update w', update.assetId = assetId → (ListingCall.updateErc6160AssetImpl update).Runs T K w w' →
            let sent := ((ListingCall.updateErc6160AssetImpl update).effect T (storageOf K w)).2
            true ∉ listings assetId chain sent ∧
              (chain ∈ update.removeChains.1 → false ∈ listings assetId chain sent)) := by
  have hrec := hrun.recorded hT B h₀
  refine ⟨fun call w' hcall => (ListingCall.does hT B hcall).2, fun assetId chain => ⟨hrec.listed assetId chain,
    hrec.accurate_iff assetId chain, fun hmem => ?_⟩⟩
  obtain ⟨hlast, hsupported⟩ := hrec.last assetId chain hmem
  refine ⟨hsupported, hlast, fun update w' hasset hcall => ?_⟩
  obtain ⟨hadmitted, -⟩ := ListingCall.does hT B hcall
  obtain ⟨hlists, -⟩ := ListingCall.listsRightly hrec hadmitted
  obtain ⟨metadata, hmetadata⟩ := Option.isSome_iff_exists.mp hadmitted
  refine ⟨hlists.new assetId chain hsupported, fun hremove => ?_⟩
  have hstill := (hlists.supported assetId chain).mpr (.inl hsupported)
  rw [ListingCall.effect, hmetadata] at hstill ⊢
  exact false_mem_listings_updated.mpr ⟨hasset.symm, hremove, hstill⟩

def listedRegistration : ListingCall :=
  .registerAsset ⟨⟨asBytes "Unit", length_sampleName⟩, ⟨asBytes "UNIT", length_sampleSymbol⟩,
    [⟨.polkadot 2002, none⟩], none⟩
    (BytesN.zero 32)

theorem length_noTargets : ([] : List ChainWithSupply).length ≤ 100 := Nat.zero_le _

theorem length_oneChain : [StateMachine.polkadot 2002].length ≤ 100 := Nat.le_of_ble_eq_true rfl

theorem length_noAdmins : ([] : List (StateMachine × H160)).length ≤ 100 := Nat.zero_le _

def sampleRemoval : ERC6160AssetUpdate where
  assetId := sampleAssetId
  addChains := ⟨[], length_noTargets⟩
  removeChains := ⟨[.polkadot 2002], length_oneChain⟩
  newAdmins := ⟨[], length_noAdmins⟩

def unlistedWorld : World (Storage × List PostRequest) := loggedWorld fun _ => none

theorem unlisted_sample : Unlisted (storageOf loggedRuntime unlistedWorld) := ⟨fun _ _ => rfl, fun _ h => by cases h⟩

/-- The asset is created on chain 2002. -/
def listedWorld : World (Storage × List PostRequest) :=
  ((registerAsset loggedGovernor loggedRuntime
    ⟨⟨asBytes "Unit", length_sampleName⟩, ⟨asBytes "UNIT", length_sampleSymbol⟩, [⟨.polkadot 2002, none⟩], none⟩
    (BytesN.zero 32)).run unlistedWorld).2

/-- It is removed there. -/
def removedWorld : World (Storage × List PostRequest) :=
  ((updateErc6160AssetImpl loggedGovernor loggedRuntime sampleRemoval).run listedWorld).2

def removedLog : List Notice :=
  (listedRegistration.effect loggedGovernor (storageOf loggedRuntime unlistedWorld)).2 ++
    ((ListingCall.updateErc6160AssetImpl sampleRemoval).effect loggedGovernor (storageOf loggedRuntime listedWorld)).2

theorem removed_run : ListingRun loggedGovernor loggedRuntime unlistedWorld removedLog removedWorld := by
  have hlisted : listedRegistration.Runs loggedGovernor loggedRuntime unlistedWorld listedWorld :=
    run_of_fst_ok (by decide +kernel)
  have hremoved : (ListingCall.updateErc6160AssetImpl sampleRemoval).Runs loggedGovernor loggedRuntime listedWorld
      removedWorld := run_of_fst_ok (by decide +kernel)
  exact .call (.call .start hlisted) hremoved

theorem removed_listings : listings sampleAssetId (.polkadot 2002) removedLog = [true, false] := by decide +kernel

theorem registry_accurate_iff_removed :
    ListingRun loggedGovernor loggedRuntime unlistedWorld removedLog removedWorld ∧
      (AccurateFor (storageOf loggedRuntime removedWorld) removedLog sampleAssetId (.polkadot 2002) ↔
        false ∉ listings sampleAssetId (.polkadot 2002) removedLog) :=
  ⟨removed_run, ((registry_accurate_iff logged_apart loggedOutbox unlisted_sample removed_run).2 _ _).2.1⟩

/-- The asset is created on the chain and removed from it. The last message was the deregistration, and the map still
has the chain. -/
theorem removed_chain_still_supported :
    Unlisted (storageOf loggedRuntime unlistedWorld) ∧
      ListingRun loggedGovernor loggedRuntime unlistedWorld removedLog removedWorld ∧
      (loggedOutbox.messages removedWorld).map (·.dest) = [.polkadot 2002, .polkadot 2002] ∧
      listings sampleAssetId (.polkadot 2002) removedLog = [true, false] ∧
      (storageOf loggedRuntime removedWorld).supportedChains sampleAssetId (.polkadot 2002) = true ∧
      ¬ AccurateFor (storageOf loggedRuntime removedWorld) removedLog sampleAssetId (.polkadot 2002) := by
  have hsupported : (storageOf loggedRuntime removedWorld).supportedChains sampleAssetId (.polkadot 2002) = true := by
    decide +kernel
  refine ⟨unlisted_sample, removed_run, by decide +kernel, removed_listings, hsupported, fun haccurate => ?_⟩
  have hlast := haccurate.mp hsupported
  rw [removed_listings] at hlast
  cases hlast

end Hyperbridge.TokenGovernor
