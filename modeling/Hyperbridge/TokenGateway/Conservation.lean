import Hyperbridge.Evm.Delivery
import Hyperbridge.Lib.Total
import Hyperbridge.TokenGateway.Contract
import Mathlib.Data.Fintype.Basic

/-!
# What the gateways hold, owe and have under way

Gateways on several chains, requests in flight, and every interleaving of teleports, deliveries and timeouts.

The quantity is the ERC20 tokens in custody, less the ERC6160 tokens there are, less what is in flight: each event moves
it between these. The one exception is a delivery that gives the gateway its own ERC20 tokens, since the receiver may be
any account (`quantity_conserved_iff`).
-/

namespace Hyperbridge.TokenGateway

open Lib Exec
open Evm (PostRequest DispatchPost Block)

structure Caller (g : Contract) where
  address : H160
  external : address ≠ g.address

variable {ι : Type}

inductive Event (gateways : ι → Contract) where
  | teleport (i : ι) (b : Block) (caller : Caller (gateways i)) (value : U256) (p : TeleportParams)
  | deliver (place : Nat) (j : ι) (returns : Bool)
  | timeout (place : Nat)

structure System (ι : Type) where
  chains : ι → Chain
  inFlight : List (ι × PostRequest)
  received : List (ι × Body)

/-- The request a teleport has emitted. -/
def lastSent (c : Chain) : Option PostRequest :=
  match c.evm.trace.getLast? with
  | some (.emitted (.postRequestEvent request _)) => some request
  | _ => none

/-- The request is addressed to this gateway. -/
def Contract.Receives (g : Contract) (request : PostRequest) : Prop :=
  request.dest = g.stateMachine ∧ request.toModule = g.address.bytes

instance (g : Contract) (request : PostRequest) : Decidable (g.Receives request) :=
  inferInstanceAs (Decidable (_ ∧ _))

namespace System

variable [DecidableEq ι] (gateways : ι → Contract)

/-- What fails leaves the system as it was. -/
def step (s : System ι) : Event gateways → System ι
  | .teleport i b caller value p =>
    match ((gateways i).teleport b caller.address value p).run (s.chains i) with
    | (.ok _, c) =>
      { s with
        chains := Function.update s.chains i c
        inFlight := s.inFlight ++ (lastSent c).toList.map fun request => (i, request) }
    | _ => s
  | .deliver place j returns =>
    match s.inFlight[place]? with
    | some (_, request) =>
      if (gateways j).Receives request then
        match ((gateways j).onAccept request returns).run (s.chains j) with
        | (.ok _, c) =>
          { chains := Function.update s.chains j c
            inFlight := s.inFlight.eraseIdx place
            received := s.received ++ (Contract.decodeBody request.body).toOption.toList.map fun body => (j, body) }
        | _ => s
      else s
    | none => s
  | .timeout place =>
    match s.inFlight[place]? with
    | some (i, request) =>
      match ((gateways i).onPostRequestTimeout request).run (s.chains i) with
      | (.ok _, c) =>
        { s with chains := Function.update s.chains i c, inFlight := s.inFlight.eraseIdx place }
      | _ => s
    | none => s

def run (s : System ι) (events : List (Event gateways)) : System ι := events.foldl (step gateways) s

end System

namespace Contract

variable (g : Contract) (asset : H256) (c : Chain)

/-- The ERC20 tokens the gateway holds. -/
def custody : Nat :=
  if g.erc20s asset = BytesN.zero 20 then 0 else (c.tokens (g.erc20s asset)).balances g.address

/-- The ERC6160 tokens there are. -/
def supply : Nat :=
  if g.erc6160s asset = BytesN.zero 20 then 0 else (c.tokens (g.erc6160s asset)).totalSupply

def net : ℤ := g.custody asset c - g.supply asset c

structure Standard : Prop where
  feeToken : g.feeToken ≠ g.erc20s asset
  weth : g.weth ≠ g.erc6160s asset

def Misdirected (body : Body) : Prop :=
  bytes32ToAddress body.toAccount = g.address ∧ g.erc20s body.assetId ≠ BytesN.zero 20 ∧
    (body.redeem = true ∨ g.erc6160s body.assetId = g.erc20s body.assetId)

instance (body : Body) : Decidable (g.Misdirected body) := inferInstanceAs (Decidable (_ ∧ _ ∧ (_ ∨ _)))

def retained (body : Body) : ℤ := if g.Misdirected body then body.amount.toNat else 0

end Contract

/-- The amount of a request. -/
def carried (request : PostRequest) : Nat :=
  match Contract.decodeBody request.body with
  | .ok body => body.amount.toNat
  | .error _ => 0

def amountInFlight (inFlight : List (ι × PostRequest)) : ℤ := (inFlight.map fun sent => (carried sent.2 : ℤ)).sum

/-- Custody less supply less what is in flight. -/
def System.quantity [Fintype ι] (gateways : ι → Contract) (asset : H256) (s : System ι) : ℤ :=
  ∑ i, ((gateways i).custody asset (s.chains i) : ℤ) - ∑ i, ((gateways i).supply asset (s.chains i) : ℤ) -
    amountInFlight s.inFlight

namespace Contract

variable {g : Contract} {asset : H256} {c c' : Chain}

variable {u : Unit}

theorem onToken_ok {token : H160} {f : Token → Call Token} (h : (onToken token f).run c = (.ok u, c')) :
    ∃ t, f (c.tokens token) = .ok t ∧ c' = ⟨c.evm, Function.update c.tokens token t⟩ := by
  obtain ⟨t, ht, hrun⟩ := query_bind_ok.mp h
  exact ⟨t, ht, (Prod.mk.inj hrun).2.symm⟩

variable {token : H160} {t : Token} {gain : H160 → ℤ} {grown : ℤ}

theorem custody_update (h : Token.Changes gain grown (c.tokens token) t) :
    (g.custody asset ⟨c.evm, Function.update c.tokens token t⟩ : ℤ) =
      g.custody asset c + if g.erc20s asset ≠ BytesN.zero 20 ∧ g.erc20s asset = token then gain g.address else 0 := by
  unfold custody
  by_cases hzero : g.erc20s asset = BytesN.zero 20
  · simp [hzero]
  · by_cases htoken : g.erc20s asset = token
    · subst htoken
      simp [hzero, h.balances]
    · simp [hzero, htoken]

theorem supply_update (h : Token.Changes gain grown (c.tokens token) t) :
    (g.supply asset ⟨c.evm, Function.update c.tokens token t⟩ : ℤ) =
      g.supply asset c + if g.erc6160s asset ≠ BytesN.zero 20 ∧ g.erc6160s asset = token then grown else 0 := by
  unfold supply
  by_cases hzero : g.erc6160s asset = BytesN.zero 20
  · simp [hzero]
  · by_cases htoken : g.erc6160s asset = token
    · subst htoken
      simp [hzero, h.supply]
    · simp [hzero, htoken]

/-- One token changes. -/
theorem net_update (h : Token.Changes gain grown (c.tokens token) t) :
    g.net asset ⟨c.evm, Function.update c.tokens token t⟩ = g.net asset c +
      (if g.erc20s asset ≠ BytesN.zero 20 ∧ g.erc20s asset = token then gain g.address else 0) -
      (if g.erc6160s asset ≠ BytesN.zero 20 ∧ g.erc6160s asset = token then grown else 0) := by
  unfold net
  rw [custody_update h, supply_update h]
  omega

theorem net_congr (h : c'.tokens = c.tokens) : g.net asset c' = g.net asset c := by
  unfold net custody supply
  rw [h]

variable {caller : H160} {value : U256} {p : TeleportParams}

theorem takeFunds_ok {left : U256} (hstandard : g.Standard p.assetId)
    (hcaller : caller ≠ g.address) (h : (g.takeFunds caller value p).run c = (.ok left, c')) :
    g.net p.assetId c' = g.net p.assetId c + p.amount.toNat := by
  simp only [takeFunds] at h
  split at h
  · rename_i hcustody
    split at h
    · rename_i hwrap
      obtain ⟨_, c₁, hdeposit, hrest⟩ := bind_ok.mp h
      obtain ⟨t, ht, rfl⟩ := onToken_ok hdeposit
      cases ht
      cases hrest
      rw [net_update (Token.deposit_changes _ _ _), if_pos ⟨hcustody.1, hwrap.2⟩, Token.only_self,
        if_neg fun hsame => hstandard.weth hsame.2.symm, sub_zero]
    · obtain ⟨_, c₁, htransfer, hrest⟩ := bind_ok.mp h
      obtain ⟨t, ht, rfl⟩ := onToken_ok htransfer
      cases hrest
      rw [net_update (Token.transferFrom_ok ht), if_pos ⟨hcustody.1, rfl⟩, Token.only_self,
        Token.only_of_ne _ hcaller.symm, sub_zero, ite_self, sub_zero]
  · split at h
    · rename_i hburn
      obtain ⟨_, c₁, hburnt, hrest⟩ := bind_ok.mp h
      obtain ⟨t, ht, rfl⟩ := onToken_ok hburnt
      cases hrest
      rw [net_update (Token.burn_ok ht), Token.only_of_ne _ hcaller.symm, neg_zero, ite_self, if_pos ⟨hburn, rfl⟩]
      omega
    · cases h

variable {amount : U256} {recipient : H160}

theorem net_feeToken {spender sender : H160} (hstandard : g.Standard asset)
    (h : (onToken g.feeToken fun t => t.transferFrom amount spender sender recipient).run c = (.ok u, c')) :
    g.net asset c' = g.net asset c := by
  obtain ⟨t, ht, rfl⟩ := onToken_ok h
  rw [net_update (Token.transferFrom_ok ht), if_neg fun hsame => hstandard.feeToken hsame.2.symm, ite_self]
  omega

theorem net_swap {fee : U256} {tokens : H160 → Token} (hstandard : g.Standard asset)
    (h : g.swap fee c.tokens = .ok tokens) : g.net asset ⟨c.evm, tokens⟩ = g.net asset c := by
  unfold net custody supply
  rw [g.swap_balance _ _ _ h, g.swap_supply _ _ _ h _ hstandard.weth.symm]

variable {b : Block} {commitment : H256}

theorem dispatchPost_ok {L : Evm.Libraries} {post : DispatchPost}
    {w w' : Evm.World} (h : (Evm.dispatchPost L b caller post .noCode).run w = (.ok commitment, w')) :
    ∃ request trace, w'.trace = trace ++ [.emitted (.postRequestEvent request post.fee)] ∧
      request.body = post.body := by
  obtain ⟨_, -, h⟩ := query_bind_ok.mp h
  obtain ⟨fee, -, h⟩ := query_bind_ok.mp h
  obtain ⟨_, w₁, -, h⟩ := bind_ok.mp h
  obtain ⟨timeoutTimestamp, -, h⟩ := query_bind_ok.mp h
  cases h
  exact ⟨_, w₁.trace, rfl, rfl⟩

theorem dispatch_ok {post : DispatchPost} {pay : U256 → Code Unit}
    (h : (g.dispatch b post pay).run c = (.ok commitment, c')) :
    ∃ fee c₁ request, (pay fee).run c = (.ok (), c₁) ∧ c'.tokens = c₁.tokens ∧ lastSent c' = some request ∧
      request.body = post.body := by
  obtain ⟨fee, -, h⟩ := query_bind_ok.mp h
  obtain ⟨_, c₁, hpay, h⟩ := bind_ok.mp h
  obtain ⟨w, hw, rfl⟩ := zoom_ok.mp h
  obtain ⟨request, trace, htrace, hbody⟩ := dispatchPost_ok hw
  refine ⟨fee, c₁, request, hpay, rfl, ?_, hbody⟩
  have hlast : (Chain.host.set w c₁).evm.trace.getLast? = some (.emitted (.postRequestEvent request post.fee)) := by
    show w.trace.getLast? = _
    rw [htrace, List.getLast?_concat]
  rw [lastSent, hlast]

theorem send_ok (hstandard : g.Standard asset) (h : (g.send b caller value p).run c = (.ok commitment, c')) :
    g.net asset c' = g.net asset c ∧ ∃ request, lastSent c' = some request ∧ request.body = p.encode caller := by
  simp only [send] at h
  split at h
  · obtain ⟨fee, c₁, request, hpay, htokens, hsent, hbody⟩ := dispatch_ok h
    obtain ⟨tokens, hswap, hpay⟩ := query_bind_ok.mp hpay
    cases hpay
    exact ⟨(net_congr htokens).trans (net_swap hstandard hswap), request, hsent, hbody⟩
  · obtain ⟨fee, -, h⟩ := query_bind_ok.mp h
    obtain ⟨_, c₁, hcollect, h⟩ := bind_ok.mp h
    obtain ⟨fee', c₂, request, hpay, htokens, hsent, hbody⟩ := dispatch_ok h
    have hnet : g.net asset c₂ = g.net asset c :=
      (net_feeToken hstandard hpay).trans (net_feeToken hstandard hcollect)
    exact ⟨(net_congr htokens).trans hnet, request, hsent, hbody⟩

/-- A teleport sends what it has taken in. -/
theorem teleport_ok (hstandard : g.Standard p.assetId) (hcaller : caller ≠ g.address)
    (h : (g.teleport b caller value p).run c = (.ok commitment, c')) :
    g.net p.assetId c' = g.net p.assetId c + p.amount.toNat ∧ p.amount ≠ 0 ∧
      ∃ request, lastSent c' = some request ∧ request.body = p.encode caller := by
  obtain ⟨-, h⟩ := throwIf_bind_ok.mp h
  obtain ⟨hamount, h⟩ := throwIf_bind_ok.mp h
  obtain ⟨left, c₁, htake, hsend⟩ := bind_ok.mp h
  obtain ⟨hnet, hsent⟩ := send_ok hstandard hsend
  exact ⟨hnet.trans (takeFunds_ok hstandard hcaller htake), of_decide_eq_false hamount, hsent⟩

theorem net_transfer (herc20 : g.erc20s asset ≠ BytesN.zero 20)
    (h : (onToken (g.erc20s asset) fun t => t.transfer amount g.address recipient).run c = (.ok u, c')) :
    g.net asset c' = g.net asset c - amount.toNat + Token.only recipient amount g.address := by
  obtain ⟨t, ht, rfl⟩ := onToken_ok h
  rw [net_update (Token.transfer_ok ht), if_pos ⟨herc20, rfl⟩, Token.only_self, ite_self]
  omega

theorem net_mint (herc6160 : g.erc6160s asset ≠ BytesN.zero 20)
    (h : (onToken (g.erc6160s asset) fun t => t.mint amount recipient).run c = (.ok u, c')) :
    g.net asset c' = g.net asset c - amount.toNat +
      if g.erc20s asset ≠ BytesN.zero 20 ∧ g.erc20s asset = g.erc6160s asset then
        Token.only recipient amount g.address else 0 := by
  obtain ⟨t, ht, rfl⟩ := onToken_ok h
  have hgrown : g.erc6160s asset ≠ BytesN.zero 20 ∧ g.erc6160s asset = g.erc6160s asset := ⟨herc6160, rfl⟩
  rw [net_update (Token.mint_ok ht), if_pos hgrown]
  omega

theorem handleIncomingAsset_ok {body : Body} (h : (g.handleIncomingAsset body).run c = (.ok u, c')) :
    g.net body.assetId c' = g.net body.assetId c - body.amount.toNat + g.retained body := by
  simp only [handleIncomingAsset] at h
  split at h
  · rename_i hredeem
    have hiff : g.address = bytes32ToAddress body.toAccount ↔ g.Misdirected body :=
      ⟨fun hself => ⟨hself.symm, hredeem.1, Or.inl hredeem.2⟩, fun hmis => hmis.1.symm⟩
    rw [net_transfer hredeem.1 h, Token.only, if_congr hiff rfl rfl, retained]
  · rename_i hmint
    split at h
    · rename_i herc6160
      have hiff : (g.erc20s body.assetId ≠ BytesN.zero 20 ∧ g.erc20s body.assetId = g.erc6160s body.assetId) ∧
          g.address = bytes32ToAddress body.toAccount ↔ g.Misdirected body := by
        refine ⟨fun hself => ⟨hself.2.symm, hself.1.1, Or.inr hself.1.2.symm⟩, fun hmis => ?_⟩
        have hsame := hmis.2.2.resolve_left fun hredeem => hmint ⟨hmis.2.1, hredeem⟩
        exact ⟨⟨hmis.2.1, hsame.symm⟩, hmis.1.symm⟩
      rw [net_mint herc6160 h, Token.only, ← ite_and, if_congr hiff rfl rfl, retained]
    · cases h

/-- A timeout gives back what was sent. -/
theorem onPostRequestTimeout_ok {request : PostRequest} {body : Body}
    (hbody : decodeBody request.body = .ok body) (hsender : bytes32ToAddress body.fromAccount ≠ g.address)
    (h : (g.onPostRequestTimeout request).run c = (.ok u, c')) :
    g.net body.assetId c' = g.net body.assetId c - body.amount.toNat := by
  simp only [onPostRequestTimeout, hbody, ofExcept_bind_ok] at h
  obtain ⟨_, hbody', h⟩ := h
  cases hbody'
  split at h
  · rename_i hrefund
    rw [net_transfer hrefund.1 h, Token.only_of_ne _ hsender.symm, add_zero]
  · split at h
    · rename_i herc6160
      rw [net_mint herc6160 h, Token.only_of_ne _ hsender.symm, ite_self, add_zero]
    · cases h

theorem onAccept_ok {request : PostRequest} {returns : Bool} (h : (g.onAccept request returns).run c = (.ok u, c')) :
    ∃ body, decodeBody request.body = .ok body ∧ (g.handleIncomingAsset body).run c = (.ok (), c') := by
  unfold onAccept at h
  split at h
  · cases h
  · split at h
    · obtain ⟨_, -, h⟩ := ofExcept_bind_ok.mp h
      obtain ⟨body, hbody, h⟩ := ofExcept_bind_ok.mp h
      obtain ⟨_, c₁, hasset, h⟩ := bind_ok.mp h
      obtain ⟨-, rfl⟩ := throwIf_ok.mp h
      exact ⟨body, hbody, hasset⟩
    · split at h <;> cases h

end Contract

section Runs

variable [DecidableEq ι] [Fintype ι] {gateways : ι → Contract} {asset : H256}

def Sent (gateways : ι → Contract) (asset : H256) (sent : ι × PostRequest) : Prop :=
  ∃ body, Contract.decodeBody sent.2.body = .ok body ∧ body.assetId = asset ∧ body.amount ≠ 0 ∧
    bytes32ToAddress body.fromAccount ≠ (gateways sent.1).address

def Event.Moves (asset : H256) : Event gateways → Prop
  | .teleport _ _ _ _ p => p.assetId = asset
  | _ => True

def System.retained (gateways : ι → Contract) (s : System ι) : ℤ :=
  (s.received.map fun got => (gateways got.1).retained got.2).sum

structure Accounted (gateways : ι → Contract) (asset : H256) (s₀ s : System ι) : Prop where
  sent : ∀ sent ∈ s.inFlight, Sent gateways asset sent
  amounts : ∀ got ∈ s.received, got.2.amount ≠ 0
  quantity : s.quantity gateways asset = s₀.quantity gateways asset + s.retained gateways

theorem carried_eq {request : PostRequest} {body : Body} (h : Contract.decodeBody request.body = .ok body) :
    carried request = body.amount.toNat := by rw [carried, h]

omit [DecidableEq ι] [Fintype ι] in
theorem amountInFlight_concat (inFlight : List (ι × PostRequest)) (sent : ι × PostRequest) :
    amountInFlight (inFlight ++ [sent]) = amountInFlight inFlight + carried sent.2 := by
  simp [amountInFlight]

omit [DecidableEq ι] [Fintype ι] in
theorem amountInFlight_eraseIdx {inFlight : List (ι × PostRequest)} {place : Nat} {sent : ι × PostRequest}
    (h : inFlight[place]? = some sent) :
    amountInFlight (inFlight.eraseIdx place) = amountInFlight inFlight - carried sent.2 := by
  obtain ⟨hlt, rfl⟩ := List.getElem?_eq_some_iff.mp h
  have hperm := (List.getElem_cons_eraseIdx_perm hlt).map fun sent => (carried sent.2 : ℤ)
  have hsum := hperm.sum_eq
  rw [List.map_cons, List.sum_cons] at hsum
  rw [amountInFlight, amountInFlight, ← hsum]
  omega

theorem quantity_update (s : System ι) (i : ι) (c : Chain) (inFlight : List (ι × PostRequest))
    (received : List (ι × Body)) :
    System.quantity gateways asset ⟨Function.update s.chains i c, inFlight, received⟩ =
      s.quantity gateways asset + ((gateways i).net asset c - (gateways i).net asset (s.chains i)) -
        (amountInFlight inFlight - amountInFlight s.inFlight) := by
  have hquantity (s : System ι) : s.quantity gateways asset =
      total (fun i c => (gateways i).net asset c) s.chains - amountInFlight s.inFlight := by
    simp only [System.quantity, total, Contract.net, Finset.sum_sub_distrib]
  have hwrite := total_update (fun i c => (gateways i).net asset c) s.chains i c
  rw [hquantity, hquantity]
  simp only
  omega

section Steps

variable (hstandard : ∀ i, (gateways i).Standard asset) {s₀ s : System ι} (hs : Accounted gateways asset s₀ s)

include hs

include hstandard in
theorem Accounted.teleport {i : ι} {b : Block} {caller : Caller (gateways i)} {value : U256} {p : TeleportParams}
    (hasset : p.assetId = asset) : Accounted gateways asset s₀ (s.step gateways (.teleport i b caller value p)) := by
  simp only [System.step]
  split
  · rename_i commitment c hrun
    subst hasset
    obtain ⟨hnet, hamount, request, hsent, hbody⟩ := Contract.teleport_ok (hstandard i) caller.external hrun
    have hdecode : Contract.decodeBody request.body = .ok (p.body caller.address) := hbody ▸ decodeBody_encode p _
    rw [hsent, Option.toList_some, List.map_singleton]
    refine ⟨fun sent hmem => ?_, hs.amounts, ?_⟩
    · rcases List.mem_append.mp hmem with hold | hnew
      · exact hs.sent sent hold
      · cases List.mem_singleton.mp hnew
        refine ⟨_, hdecode, rfl, hamount, ?_⟩
        rw [TeleportParams.body, bytes32ToAddress_addressToBytes32]
        exact caller.external
    · show _ = _ + s.retained gateways
      have hcarried : carried request = p.amount.toNat := carried_eq hdecode
      rw [quantity_update, hnet, amountInFlight_concat, hcarried, hs.quantity]
      omega
  · exact hs

/-- Deliveries may leave tokens in custody. -/
theorem Accounted.deliver (place : Nat) (j : ι) (returns : Bool) :
    Accounted gateways asset s₀ (s.step gateways (.deliver place j returns)) := by
  simp only [System.step]
  split
  · rename_i i request hplace
    split
    · split
      · rename_i c hrun
        obtain ⟨body, hbody, hasset⟩ := Contract.onAccept_ok hrun
        obtain ⟨body', hbody', hid, hamount, -⟩ := hs.sent _ (List.mem_of_getElem? hplace)
        cases hbody.symm.trans hbody'
        subst hid
        have hnet := Contract.handleIncomingAsset_ok hasset
        have hgot : (Contract.decodeBody request.body).toOption.toList.map (fun body => (j, body)) = [(j, body)] := by
          rw [hbody]
          rfl
        rw [hgot]
        refine ⟨fun sent hmem => hs.sent sent (List.mem_of_mem_eraseIdx hmem), fun got hmem => ?_, ?_⟩
        · rcases List.mem_append.mp hmem with hold | hnew
          · exact hs.amounts got hold
          · cases List.mem_singleton.mp hnew
            exact hamount
        · have hretained : System.retained gateways ⟨Function.update s.chains j c, s.inFlight.eraseIdx place,
              s.received ++ [(j, body)]⟩ = s.retained gateways + (gateways j).retained body := by
            simp [System.retained]
          rw [quantity_update, hnet, amountInFlight_eraseIdx hplace, carried_eq hbody, hs.quantity, hretained]
          omega
      · exact hs
    · exact hs
  · exact hs

theorem Accounted.timeout (place : Nat) : Accounted gateways asset s₀ (s.step gateways (.timeout place)) := by
  simp only [System.step]
  split
  · rename_i i request hplace
    split
    · rename_i c hrun
      obtain ⟨body, hbody, rfl, -, hsender⟩ := hs.sent _ (List.mem_of_getElem? hplace)
      have hnet : (gateways i).net body.assetId c = _ := Contract.onPostRequestTimeout_ok hbody hsender hrun
      refine ⟨fun sent hmem => hs.sent sent (List.mem_of_mem_eraseIdx hmem), hs.amounts, ?_⟩
      show _ = _ + s.retained gateways
      rw [quantity_update, hnet, amountInFlight_eraseIdx hplace, carried_eq hbody, hs.quantity]
      omega
    · exact hs
  · exact hs

end Steps

theorem accounted_run (hstandard : ∀ i, (gateways i).Standard asset) {s₀ s : System ι}
    (hs : Accounted gateways asset s₀ s) {events : List (Event gateways)} (hevents : ∀ e ∈ events, e.Moves asset) :
    Accounted gateways asset s₀ (s.run gateways events) := by
  induction events generalizing s with
  | nil => exact hs
  | cons e events ih =>
    refine ih ?_ fun e he => hevents e (List.mem_cons_of_mem _ he)
    cases e with
    | teleport i b caller value p => exact hs.teleport hstandard (hevents _ List.mem_cons_self)
    | deliver place j returns => exact hs.deliver place j returns
    | timeout place => exact hs.timeout place

omit [DecidableEq ι] [Fintype ι] in
theorem retained_eq_zero_iff {s : System ι} (hamounts : ∀ got ∈ s.received, got.2.amount ≠ 0) :
    s.retained gateways = 0 ↔ ∀ got ∈ s.received, ¬ (gateways got.1).Misdirected got.2 := by
  have hnonneg : ∀ r ∈ s.received.map fun got => (gateways got.1).retained got.2, 0 ≤ r := by
    rintro r hr
    obtain ⟨got, -, rfl⟩ := List.mem_map.mp hr
    unfold Contract.retained
    split <;> omega
  constructor
  · intro hsum got hgot hmis
    have hzero := List.all_zero_of_le_zero_le_of_sum_eq_zero hnonneg hsum (List.mem_map_of_mem hgot)
    rw [Contract.retained, if_pos hmis, Int.natCast_eq_zero] at hzero
    exact hamounts got hgot (BitVec.eq_of_toNat_eq hzero)
  · intro hall
    refine List.sum_eq_zero fun r hr => ?_
    obtain ⟨got, hgot, rfl⟩ := List.mem_map.mp hr
    exact if_neg (hall got hgot)

end Runs

namespace Sample

def asset : H256 := BytesN.ofNat 32 1

def gateway (stateMachine : Bytes) (erc20 erc6160 : H160) : Contract where
  libraries :=
    { Evm.sampleLibraries (fun _ => BytesN.ofNat 32 2) (fun _ => BytesN.ofNat 32 3) (fun _ _ => BytesN.zero 32) with
      evm := fun id => if id = 1 then Evm.sampleChain else Evm.otherChain }
  stateMachine := stateMachine
  address := BytesN.ofNat 20 7
  host := BytesN.ofNat 20 8
  feeToken := BytesN.ofNat 20 9
  weth := BytesN.ofNat 20 10
  erc20s _ := erc20
  erc6160s _ := erc6160
  instances _ := BytesN.zero 20
  swap _ _ := .error (.require "")
  swap_balance _ _ _ h := by cases h
  swap_supply _ _ _ h := by cases h

def gateways : Fin 2 → Contract
  | 0 => gateway Evm.sampleChain (BytesN.ofNat 20 20) (BytesN.ofNat 20 61)
  | 1 => gateway Evm.otherChain (BytesN.zero 20) (BytesN.ofNat 20 61)

def user : (i : Fin 2) → Caller (gateways i)
  | 0 => ⟨BytesN.ofNat 20 11, by decide⟩
  | 1 => ⟨BytesN.ofNat 20 11, by decide⟩

def start : System (Fin 2) where
  chains i := {
    evm := ⟨Evm.sampleHost (BytesN.zero 32), []⟩
    tokens := fun token =>
      if i = 0 ∧ token = BytesN.ofNat 20 20 then
        ⟨fun a => if a = BytesN.ofNat 20 11 then 5 else 0, 5, fun _ _ => 2 ^ 256 - 1⟩
      else ⟨fun _ => 0, 0, fun _ _ => 0⟩ }
  inFlight := []
  received := []

def block (chainid : U256) : Block := ⟨1000, chainid, fun _ _ => .error (.require "")⟩

def five (dest : Bytes) (redeem : Bool) (recipient : H160) (data : Bounded UInt8 (2 ^ 64 - 1)) : TeleportParams :=
  ⟨5, 0, asset, redeem, addressToBytes32 recipient, dest, 0, 0, data⟩

/-- Five units there and back, to the recipient. -/
def roundTrip (recipient : H160) : List (Event gateways) :=
  [.teleport 0 (block 1) (user 0) 0 (five Evm.otherChain false (BytesN.ofNat 20 11) ⟨[], by decide⟩),
   .deliver 0 1 true,
   .teleport 1 (block 97) (user 1) 0 (five Evm.sampleChain true recipient ⟨[1], by decide⟩),
   .deliver 0 0 true]

theorem standard : (i : Fin 2) → (gateways i).Standard asset
  | 0 => ⟨by decide, by decide⟩
  | 1 => ⟨by decide, by decide⟩

theorem moves_roundTrip (recipient : H160) : ∀ e ∈ roundTrip recipient, e.Moves asset := by
  simp [roundTrip, Event.Moves, five]

end Sample

end Hyperbridge.TokenGateway
