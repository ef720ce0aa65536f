import Hyperbridge.Ismp.Host
import Hyperbridge.TokenGateway.Body

/-!
# The token gateway inspector

`pallet-token-gateway-inspector` keeps how much of an asset has flowed into each chain that is not an EVM chain. What
flows out again is taken from that balance, unless the asset is native to the chain. A request that times out is taken
back.

The balances are exact in every run (`Run.balance`). But an inflow can be spent as soon as it is recorded; when its
request then times out the subtraction panics.
-/

namespace Hyperbridge.TokenGateway.Inspector

open Lib Exec Ismp

structure Storage where
  inflowBalances : StateMachine × H256 → U256
  standaloneChainAssets : StateMachine → H256 → Option Bool

def isTokenGatewayRequest : Bytes → Exec Storage Error (Option Body)
  | [] => panicWith sliceText
  | _ :: data => pure (Body.abiDecode data)

/-- A result that does not fit panics. -/
def mutateInflow (key : StateMachine × H256) (f : U256 → Option U256) : Exec Storage Error Unit := do
  let balance ← gets fun s => s.inflowBalances key
  let updated ← expect U256.overflowText (f balance)
  modify fun s => { s with inflowBalances := Function.update s.inflowBalances key updated }

def creditIf (c : Bool) (key : StateMachine × H256) (amount : U256) : Exec Storage Error Unit :=
  if c then mutateInflow key fun val => val.checkedAdd amount else pure ()

def debitIf (c : Bool) (key : StateMachine × H256) (amount : U256) : Exec Storage Error Unit :=
  if c then mutateInflow key fun val => val.checkedSub amount else pure ()

def isOutflow (assets : StateMachine → H256 → Option Bool) (source : StateMachine) (assetId : H256) : Bool :=
  !(assets source assetId).getD false && !source.isEvm

def checkBalance (c : Bool) (key : StateMachine × H256) (amount : U256) : Exec Storage Error Unit := do
  let balance ← gets fun s => s.inflowBalances key
  throwIf (c && decide (balance < amount)) (.custom "Illegal Token Gateway request")

def onBody (post : PostRequest) (f : Body → Exec Storage Error Unit) : Exec Storage Error Unit :=
  if post.source.isEvm && post.dest.isEvm then pure ()
  else do
    match ← isTokenGatewayRequest post.body with
    | some body => f body
    | none => pure ()

def inspectBody (source dest : StateMachine) (body : Body) : Exec Storage Error Unit := do
  creditIf (!dest.isEvm) (dest, body.assetId) body.amount
  let outflow ← gets fun s => isOutflow s.standaloneChainAssets source body.assetId
  checkBalance outflow (source, body.assetId) body.amount
  debitIf outflow (source, body.assetId) body.amount

/-- `inspect_request`. -/
def inspectRequest (post : PostRequest) : Exec Storage Error Unit := onBody post (inspectBody post.source post.dest)

def revertBody (source dest : StateMachine) (body : Body) : Exec Storage Error Unit := do
  let outflow ← gets fun s => isOutflow s.standaloneChainAssets source body.assetId
  creditIf outflow (source, body.assetId) body.amount
  debitIf (!dest.isEvm) (dest, body.assetId) body.amount

/-- `handle_timeout`. -/
def handleTimeout (post : PostRequest) : Exec Storage Error Unit := onBody post (revertBody post.source post.dest)

variable {s s' : Storage} {key : StateMachine × H256} {amount : U256}

/-- An amount under one key, if the condition holds. -/
def amountAt (c : Bool) (key : StateMachine × H256) (n : Nat) (k : StateMachine × H256) : Nat :=
  if c = true ∧ k = key then n else 0

theorem amountAt_false (key : StateMachine × H256) (n : Nat) : amountAt false key n = 0 := by
  funext k
  simp [amountAt]

theorem amountAt_zero (c : Bool) (key : StateMachine × H256) : amountAt c key 0 = 0 := by
  funext k
  simp [amountAt]

structure Moved (added taken : StateMachine × H256 → Nat) (s s' : Storage) : Prop where
  balances : ∀ k, (s'.inflowBalances k).toNat + taken k = (s.inflowBalances k).toNat + added k
  assets : s'.standaloneChainAssets = s.standaloneChainAssets

variable {added taken : StateMachine × H256 → Nat}

/-- The new balances are determined. -/
theorem Moved.unique {s'' : Storage} (h : Moved added taken s s') (h' : Moved added taken s s'') : s' = s'' := by
  obtain ⟨balances', assets'⟩ := s'
  obtain ⟨balances'', assets''⟩ := s''
  obtain rfl : assets' = assets'' := h.assets.trans h'.assets.symm
  obtain rfl : balances' = balances'' := by
    funext k
    have hk := h.balances k
    have hk' := h'.balances k
    rw [← BitVec.toNat_inj]
    simp only at hk hk'
    omega
  rfl

theorem mutateInflow_run (key : StateMachine × H256) (f : U256 → Option U256) (s : Storage) :
    (mutateInflow key f).run s = match f (s.inflowBalances key) with
      | some updated => (.ok (), { s with inflowBalances := Function.update s.inflowBalances key updated })
      | none => (.panic U256.overflowText, s) := by
  show ((expect U256.overflowText (f (s.inflowBalances key)) >>= _ : Exec Storage Error Unit).run s) = _
  cases f (s.inflowBalances key) <;> rfl

theorem mutateInflow_ok {f : U256 → Option U256} :
    (mutateInflow key f).run s = (.ok (), s') ↔ ∃ updated, f (s.inflowBalances key) = some updated ∧
      s' = { s with inflowBalances := Function.update s.inflowBalances key updated } := by
  rw [mutateInflow_run]
  cases f (s.inflowBalances key) with
  | some updated => simp [eq_comm]
  | none => simp

theorem moved_zero : Moved 0 0 s s' ↔ s = s' := by
  constructor
  · exact fun h => Moved.unique ⟨fun _ => rfl, rfl⟩ h
  · rintro rfl
    exact ⟨fun _ => rfl, rfl⟩

theorem moved_update {added taken : Nat} {updated : U256}
    (hkey : updated.toNat + taken = (s.inflowBalances key).toNat + added) :
    Moved (amountAt true key added) (amountAt true key taken) s
      { s with inflowBalances := Function.update s.inflowBalances key updated } := by
  refine ⟨fun k => ?_, rfl⟩
  show (Function.update s.inflowBalances key updated k).toNat + _ = _
  by_cases hk : k = key
  · subst hk
    simpa [amountAt] using hkey
  · simp [amountAt, hk]

variable {c : Bool}

theorem mutateIf_ok {f : U256 → Option U256} {added taken : Nat}
    (hf : ∀ v u, f v = some u ↔ u.toNat + taken = v.toNat + added) :
    (if c then mutateInflow key f else pure () : Exec Storage Error Unit).run s = (.ok (), s') ↔
      Moved (amountAt c key added) (amountAt c key taken) s s' := by
  cases c with
  | false =>
    rw [amountAt_false, amountAt_false, moved_zero]
    exact ⟨fun h => (Prod.mk.inj h).2, fun h => h ▸ rfl⟩
  | true =>
    show (mutateInflow key f).run s = _ ↔ _
    rw [mutateInflow_ok]
    constructor
    · rintro ⟨updated, hupdated, rfl⟩
      exact moved_update ((hf _ _).mp hupdated)
    · intro h
      have hkey : (s'.inflowBalances key).toNat + taken = (s.inflowBalances key).toNat + added := by
        simpa [amountAt] using h.balances key
      exact ⟨s'.inflowBalances key, (hf _ _).mpr hkey, h.unique (moved_update hkey)⟩

theorem creditIf_ok : (creditIf c key amount).run s = (.ok (), s') ↔ Moved (amountAt c key amount.toNat) 0 s s' := by
  rw [← amountAt_zero c key]
  exact mutateIf_ok fun v u => U256.checkedAdd_eq_some

theorem debitIf_ok : (debitIf c key amount).run s = (.ok (), s') ↔ Moved 0 (amountAt c key amount.toNat) s s' := by
  rw [← amountAt_zero c key]
  exact mutateIf_ok fun v u => U256.checkedSub_eq_some

theorem mutateIf_cases (c : Bool) (key : StateMachine × H256) (f : U256 → Option U256) (s : Storage) :
    let x : Exec Storage Error Unit := if c then mutateInflow key f else pure ()
    (∃ s', x.run s = (.ok (), s')) ∨ x.run s = (.panic U256.overflowText, s) := by
  cases c with
  | false => exact .inl ⟨s, rfl⟩
  | true =>
    show (∃ s', (mutateInflow key f).run s = (.ok (), s')) ∨ (mutateInflow key f).run s = (.panic U256.overflowText, s)
    rw [mutateInflow_run]
    cases f (s.inflowBalances key) with
    | some updated => exact .inl ⟨_, rfl⟩
    | none => exact .inr rfl

theorem Moved.trans {s₁ : Storage} (h : Moved added 0 s s₁) (h' : Moved 0 taken s₁ s') : Moved added taken s s' := by
  refine ⟨fun k => ?_, h'.assets.trans h.assets⟩
  have hk := h.balances k
  have hk' := h'.balances k
  simp only [Pi.zero_apply, Nat.add_zero] at hk hk'
  rw [hk', hk]

/-- They exist if they are in range. -/
theorem exists_moved (henough : ∀ k, taken k ≤ (s.inflowBalances k).toNat + added k)
    (hfits : ∀ k, (s.inflowBalances k).toNat + added k < 2 ^ 256) : ∃ s', Moved added taken s s' := by
  refine ⟨⟨fun k => BitVec.ofNat 256 ((s.inflowBalances k).toNat + added k - taken k), s.standaloneChainAssets⟩,
    fun k => ?_, rfl⟩
  have hlt : (s.inflowBalances k).toNat + added k - taken k < 2 ^ 256 := by
    have := hfits k
    omega
  show (BitVec.ofNat 256 _).toNat + taken k = _
  rw [BitVec.toNat_ofNat, Nat.mod_eq_of_lt hlt, Nat.sub_add_cancel (henough k)]

theorem moved_trans_iff :
    (∃ s₁, Moved added 0 s s₁ ∧ Moved 0 taken s₁ s') ↔
      Moved added taken s s' ∧ ∀ k, (s.inflowBalances k).toNat + added k < 2 ^ 256 := by
  constructor
  · rintro ⟨s₁, h, h'⟩
    refine ⟨h.trans h', fun k => ?_⟩
    have hk := h.balances k
    rw [Pi.zero_apply, Nat.add_zero] at hk
    rw [← hk]
    exact BitVec.isLt _
  · rintro ⟨h, hfits⟩
    obtain ⟨s₁, h₁⟩ := exists_moved (fun k => Nat.zero_le _) hfits
    refine ⟨s₁, h₁, fun k => ?_, h.assets.trans h₁.assets.symm⟩
    have hk := h.balances k
    have hk₁ := h₁.balances k
    simp only [Pi.zero_apply, Nat.add_zero] at hk₁ ⊢
    rw [hk, hk₁]

/-- The body the inspector sees. -/
def bodyOf (post : PostRequest) : Option Body :=
  if post.source.isEvm && post.dest.isEvm then none else Body.abiDecode (post.body.drop 1)

def inflow (post : PostRequest) (k : StateMachine × H256) : Nat :=
  match bodyOf post with
  | some body => amountAt (!post.dest.isEvm) (post.dest, body.assetId) body.amount.toNat k
  | none => 0

def outflow (assets : StateMachine → H256 → Option Bool) (post : PostRequest) (k : StateMachine × H256) : Nat :=
  match bodyOf post with
  | some body => amountAt (isOutflow assets post.source body.assetId) (post.source, body.assetId) body.amount.toNat k
  | none => 0

def Readable (post : PostRequest) : Prop := (post.source.isEvm && post.dest.isEvm) = true ∨ post.body ≠ []

variable {post : PostRequest}

theorem onBody_run (h : Readable post) (f : Body → Exec Storage Error Unit) (s : Storage) :
    (onBody post f).run s = match bodyOf post with
      | some body => (f body).run s
      | none => (.ok (), s) := by
  unfold onBody bodyOf
  by_cases hevm : (post.source.isEvm && post.dest.isEvm) = true
  · rw [if_pos hevm, if_pos hevm]
    rfl
  · rw [if_neg hevm, if_neg hevm]
    cases hbody : post.body with
    | nil => exact absurd hbody (h.resolve_left hevm)
    | cons action data =>
      show ((match Body.abiDecode data with | some body => f body | none => pure ()) : Exec Storage Error Unit).run s
        = match Body.abiDecode data with | some body => (f body).run s | none => (.ok (), s)
      cases Body.abiDecode data <;> rfl

theorem readable_of_onBody {f : Body → Exec Storage Error Unit}
    (h : (onBody post f).run s = (.ok (), s')) : Readable post := by
  by_contra hnot
  obtain ⟨hevm, hbody⟩ := not_or.mp hnot
  rw [onBody, if_neg hevm, not_not.mp hbody] at h
  cases (Prod.mk.inj h).1

theorem inspectBody_ok {source dest : StateMachine} {body : Body}
    (h : (inspectBody source dest body).run s = (.ok (), s')) :
    Moved (amountAt (!dest.isEvm) (dest, body.assetId) body.amount.toNat)
      (amountAt (isOutflow s.standaloneChainAssets source body.assetId) (source, body.assetId) body.amount.toNat)
      s s' := by
  obtain ⟨_, s₁, hcredit, h⟩ := bind_ok.mp h
  have hadded := creditIf_ok.mp hcredit
  rw [gets_bind_run] at h
  obtain ⟨_, s₂, hcheck, hdebit⟩ := bind_ok.mp h
  rw [checkBalance, gets_bind_run, throwIf_ok] at hcheck
  obtain ⟨-, rfl⟩ := hcheck
  rw [hadded.assets] at hdebit
  exact hadded.trans (debitIf_ok.mp hdebit)

theorem inspectRequest_ok (h : (inspectRequest post).run s = (.ok (), s')) :
    Readable post ∧ Moved (inflow post) (outflow s.standaloneChainAssets post) s s' := by
  have hread := readable_of_onBody h
  refine ⟨hread, ?_⟩
  rw [inspectRequest, onBody_run hread] at h
  unfold inflow outflow
  cases hbody : bodyOf post with
  | none =>
    rw [hbody] at h
    exact moved_zero.mpr (Prod.mk.inj h).2
  | some body =>
    rw [hbody] at h
    exact inspectBody_ok h

theorem revertBody_ok {source dest : StateMachine} {body : Body} :
    (revertBody source dest body).run s = (.ok (), s') ↔ ∃ s₁,
      Moved (amountAt (isOutflow s.standaloneChainAssets source body.assetId) (source, body.assetId)
        body.amount.toNat) 0 s s₁ ∧
      Moved 0 (amountAt (!dest.isEvm) (dest, body.assetId) body.amount.toNat) s₁ s' := by
  rw [revertBody, gets_bind_run, bind_ok]
  constructor
  · rintro ⟨_, s₁, hcredit, hdebit⟩
    exact ⟨s₁, creditIf_ok.mp hcredit, debitIf_ok.mp hdebit⟩
  · rintro ⟨s₁, hcredit, hdebit⟩
    exact ⟨(), s₁, creditIf_ok.mpr hcredit, debitIf_ok.mpr hdebit⟩

/-- A timeout does the reverse. -/
theorem handleTimeout_ok (hread : Readable post) :
    (handleTimeout post).run s = (.ok (), s') ↔ Moved (outflow s.standaloneChainAssets post) (inflow post) s s' ∧
      ∀ k, (s.inflowBalances k).toNat + outflow s.standaloneChainAssets post k < 2 ^ 256 := by
  rw [← moved_trans_iff, handleTimeout, onBody_run hread]
  unfold inflow outflow
  cases bodyOf post with
  | some body => exact revertBody_ok
  | none =>
    show _ ↔ ∃ s₁, Moved 0 0 s s₁ ∧ Moved 0 0 s₁ s'
    simp [moved_zero]

theorem handleTimeout_cases (hread : Readable post) (s : Storage) :
    (∃ s', (handleTimeout post).run s = (.ok (), s')) ∨ ∃ s', (handleTimeout post).run s =
      (.panic U256.overflowText, s') := by
  rw [handleTimeout, onBody_run hread]
  cases bodyOf post with
  | none => exact .inl ⟨s, rfl⟩
  | some body =>
    show (∃ s', (revertBody post.source post.dest body).run s = _) ∨
      ∃ s', (revertBody post.source post.dest body).run s = _
    rw [revertBody, gets_bind_run, bind_run]
    rcases mutateIf_cases (isOutflow s.standaloneChainAssets post.source body.assetId) (post.source, body.assetId)
      (fun val => val.checkedAdd body.amount) s with ⟨s₁, hcredit⟩ | hpanic
    · rw [creditIf, hcredit]
      rcases mutateIf_cases (!post.dest.isEvm) (post.dest, body.assetId) (fun val => val.checkedSub body.amount) s₁
        with ⟨s₂, hdebit⟩ | hpanic
      · exact .inl ⟨s₂, hdebit⟩
      · exact .inr ⟨s₁, hpanic⟩
    · rw [creditIf, hpanic]
      exact .inr ⟨s, rfl⟩

theorem exists_handleTimeout (hread : Readable post) :
    (∃ s', (handleTimeout post).run s = (.ok (), s')) ↔
      ∀ k, inflow post k ≤ (s.inflowBalances k).toNat + outflow s.standaloneChainAssets post k ∧
        (s.inflowBalances k).toNat + outflow s.standaloneChainAssets post k < 2 ^ 256 := by
  simp only [handleTimeout_ok hread]
  constructor
  · rintro ⟨s', hmoved, hfits⟩ k
    have hk := hmoved.balances k
    exact ⟨by omega, hfits k⟩
  · intro h
    obtain ⟨s', hmoved⟩ := exists_moved (fun k => (h k).1) fun k => (h k).2
    exact ⟨s', hmoved, fun k => (h k).2⟩

variable {assets : StateMachine → H256 → Option Bool} {live : List PostRequest}

inductive Run (assets : StateMachine → H256 → Option Bool) : List PostRequest → Storage → Prop
  | genesis : Run assets [] ⟨fun _ => 0, assets⟩
  | inspect {live : List PostRequest} {s s' : Storage} (post : PostRequest) (run : Run assets live s)
      (hcall : (inspectRequest post).run s = (.ok (), s')) : Run assets (post :: live) s'
  | timeout {live : List PostRequest} {s s' : Storage} (post : PostRequest) (run : Run assets live s)
      (hlive : post ∈ live) (hcall : (handleTimeout post).run s = (.ok (), s')) : Run assets (live.erase post) s'

def inflows (posts : List PostRequest) (k : StateMachine × H256) : Nat := (posts.map fun post => inflow post k).sum

def outflows (assets : StateMachine → H256 → Option Bool) (posts : List PostRequest) (k : StateMachine × H256) : Nat :=
  (posts.map fun post => outflow assets post k).sum

theorem inflows_erase (h : post ∈ live) (k : StateMachine × H256) :
    inflow post k + inflows (live.erase post) k = inflows live k :=
  List.sum_map_erase (fun post => inflow post k) h

theorem outflows_erase (assets : StateMachine → H256 → Option Bool) (h : post ∈ live) (k : StateMachine × H256) :
    outflow assets post k + outflows assets (live.erase post) k = outflows assets live k :=
  List.sum_map_erase (fun post => outflow assets post k) h

theorem Run.readable (hrun : Run assets live s) : s.standaloneChainAssets = assets ∧ ∀ post ∈ live, Readable post := by
  induction hrun with
  | genesis => exact ⟨rfl, fun _ h => nomatch h⟩
  | inspect post _ hcall ih =>
    obtain ⟨hread, hmoved⟩ := inspectRequest_ok hcall
    refine ⟨hmoved.assets.trans ih.1, fun other hother => ?_⟩
    rcases List.mem_cons.mp hother with rfl | hother
    · exact hread
    · exact ih.2 other hother
  | timeout post _ hlive hcall ih =>
    obtain ⟨hmoved, -⟩ := (handleTimeout_ok (ih.2 post hlive)).mp hcall
    exact ⟨hmoved.assets.trans ih.1, fun other hother => ih.2 other (List.mem_of_mem_erase hother)⟩

theorem Run.balance (hrun : Run assets live s) (k : StateMachine × H256) :
    (s.inflowBalances k).toNat + outflows assets live k = inflows live k := by
  induction hrun with
  | genesis => rfl
  | @inspect live s s' post run hcall ih =>
    have hk := (inspectRequest_ok hcall).2.balances k
    rw [run.readable.1] at hk
    simp only [inflows, outflows, List.map_cons, List.sum_cons] at ih ⊢
    omega
  | @timeout live s s' post run hlive hcall ih =>
    have hk := ((handleTimeout_ok (run.readable.2 post hlive)).mp hcall).1.balances k
    rw [run.readable.1] at hk
    have hin := inflows_erase hlive k
    have hout := outflows_erase assets hlive k
    omega

/-- The other live requests leave every chain covered. -/
def CoveredWithout (assets : StateMachine → H256 → Option Bool) (live : List PostRequest) (post : PostRequest) : Prop :=
  ∀ k, outflows assets (live.erase post) k ≤ inflows (live.erase post) k

theorem coveredWithout_iff (hrun : Run assets live s) (hlive : post ∈ live) :
    CoveredWithout assets live post ↔ ∀ k, inflow post k ≤ (s.inflowBalances k).toNat + outflow assets post k := by
  refine forall_congr' fun k => ?_
  have hbalance := hrun.balance k
  have hin := inflows_erase hlive k
  have hout := outflows_erase assets hlive k
  omega

/-- In every run the balances are exact. A live request can time out, and then takes back exactly what it
moved, if and only if the other live requests alone leave every chain covered and what it took can be added
again; otherwise its timeout panics. -/
theorem inflow_accounting_exact_iff (hrun : Run assets live s) :
    (∀ k, (s.inflowBalances k).toNat + outflows assets live k = inflows live k) ∧ ∀ post ∈ live,
      ((∀ m, ((handleTimeout post).run s).1 ≠ .panic m) ↔ CoveredWithout assets live post ∧
        ∀ k, (s.inflowBalances k).toNat + outflow assets post k < 2 ^ 256) ∧
      ∀ s', (handleTimeout post).run s = (.ok (), s') → Moved (outflow assets post) (inflow post) s s' := by
  refine ⟨hrun.balance, fun post hlive => ⟨?_, fun s' hcall => ?_⟩⟩
  · obtain ⟨hassets, hread⟩ := hrun.readable
    have hexists := exists_handleTimeout (s := s) (hread post hlive)
    rw [hassets, forall_and, ← coveredWithout_iff hrun hlive] at hexists
    rw [← hexists]
    constructor
    · intro hnever
      rcases handleTimeout_cases (hread post hlive) s with hok | ⟨s', hpanic⟩
      · exact hok
      · exact absurd (congrArg Prod.fst hpanic) (hnever U256.overflowText)
    · rintro ⟨s', hok⟩ m hpanic
      rw [hok] at hpanic
      cases hpanic
  · have hmoved := ((handleTimeout_ok (hrun.readable.2 post hlive)).mp hcall).1
    rwa [hrun.readable.1] at hmoved

def sampleTransfer (source dest : StateMachine) : PostRequest :=
  ⟨source, dest, 0, asBytes "from", asBytes "to", 20,
    0 :: Body.abiEncode ⟨100, BytesN.ofNat 32 1, false, BytesN.ofNat 32 2, BytesN.ofNat 32 3⟩⟩

def noAssets : StateMachine → H256 → Option Bool := fun _ _ => none

def incoming : PostRequest := sampleTransfer (.evm 1) (.polkadot 2000)

def outgoing : PostRequest := sampleTransfer (.polkadot 2000) (.evm 1)

def incomingStorage : Storage := ((inspectRequest incoming).run ⟨fun _ => 0, noAssets⟩).2

theorem run_incoming : Run noAssets [incoming] incomingStorage := by
  have hcall : ((inspectRequest incoming).run ⟨fun _ => 0, noAssets⟩).1 = .ok () := by decide +kernel
  exact .inspect incoming .genesis (run_of_fst_ok hcall)

theorem inflow_accounting_exact_iff_sample :
    Run noAssets [incoming] incomingStorage ∧ ∀ m, ((handleTimeout incoming).run incomingStorage).1 ≠ .panic m := by
  obtain ⟨-, hpost⟩ := inflow_accounting_exact_iff run_incoming
  refine ⟨run_incoming, (hpost incoming List.mem_cons_self).1.mpr ⟨fun k => ?_, fun k => ?_⟩⟩
  · rw [List.erase_cons_head]
    exact Nat.zero_le _
  · have hnone : outflow noAssets incoming k = 0 := by
      have hevm : incoming.source.isEvm = true := rfl
      unfold outflow
      cases bodyOf incoming <;> simp [amountAt, isOutflow, hevm]
    rw [hnone, Nat.add_zero]
    exact BitVec.isLt _

/-- Chain 2000 receives 100 units and sends them on; then the request that brought them times out. -/
theorem spent_inflow_panics :
    ∃ s, Run noAssets [outgoing, incoming] s ∧ ((handleTimeout incoming).run s).1 = .panic U256.overflowText := by
  have hcall : ((inspectRequest outgoing).run incomingStorage).1 = .ok () := by decide +kernel
  exact ⟨_, .inspect outgoing run_incoming (run_of_fst_ok hcall), by decide +kernel⟩

end Hyperbridge.TokenGateway.Inspector
