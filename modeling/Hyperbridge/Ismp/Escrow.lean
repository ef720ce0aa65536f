import Hyperbridge.Ismp.Refunds
import Hyperbridge.Lib.Total

/-!
# The account for relayer fees

Fees are paid into one account and recorded with the messages they are for. The account is solvent if it holds at least
what is recorded. The only payment out of it is the refund after a timeout, of the fee that is recorded when the
callback has returned.

`Le` compares what is left over in two worlds. A module that only dispatches and funds messages moves along it.
-/

namespace Hyperbridge.Ismp.Escrow

open Lib Exec

variable {Other : Type} {T : Config Other} {balance : Other → Bytes → Nat} {w w' : World Other} {fee : FeeMetadata}

def feeAt : Option RequestMetadata → Nat
  | some metadata => metadata.fee.fee
  | none => 0

/-- The sum of all recorded fees. -/
noncomputable def fees (h : Host Other) : Nat :=
  total (fun _ => feeAt) h.requestCommitments + total (fun _ => feeAt) h.responseCommitments

def held (T : Config Other) (balance : Other → Bytes → Nat) (w : World Other) : Nat :=
  balance w.host.other T.relayerFeeAccount

/-- The account holds at least what is recorded. -/
def Solvent (T : Config Other) (balance : Other → Bytes → Nat) (w : World Other) : Prop :=
  fees w.host ≤ held T balance w

/-- No less is left over. -/
def Le (T : Config Other) (balance : Other → Bytes → Nat) (w w' : World Other) : Prop :=
  held T balance w + fees w'.host ≤ held T balance w' + fees w.host

instance : IsPreorder (World Other) (Le T balance) where
  refl _ := Nat.le_refl _
  trans a b c hab hbc := by
    unfold Le at *
    omega

theorem Le.solvent (h : Le T balance w w') (hw : Solvent T balance w) : Solvent T balance w' := by
  unfold Le at h
  unfold Solvent at *
  omega

theorem Le.of_held (hrequests : w'.host.requestCommitments = w.host.requestCommitments)
    (hresponses : w'.host.responseCommitments = w.host.responseCommitments)
    (hheld : held T balance w ≤ held T balance w') : Le T balance w w' := by
  rw [Le, fees, fees, hrequests, hresponses]
  omega

theorem Le.of_same (hrequests : w'.host.requestCommitments = w.host.requestCommitments)
    (hresponses : w'.host.responseCommitments = w.host.responseCommitments) (hother : w'.host.other = w.host.other) :
    Le T balance w w' :=
  .of_held hrequests hresponses (by rw [held, held, hother])

/-- Transfers move balances, and the mountain range does not. -/
structure Currency (T : Config Other) (balance : Other → Bytes → Nat) : Prop where
  moves : MovesBalance T balance
  mmrPush : ∀ leaf other account, balance (T.mmrPush leaf other).2 account = balance other account

theorem held_of_collected (hT : Currency T balance) (hpayer : fee.payer ≠ T.relayerFeeAccount) {o o' : Other}
    (h : Collected T fee o o') : balance o' T.relayerFeeAccount = balance o T.relayerFeeAccount + fee.fee := by
  unfold Collected at h
  split at h
  · rename_i hzero
    rw [h, hzero, Nat.add_zero]
  · have hmove := hT.moves _ _ _ _ _ h T.relayerFeeAccount
    rw [if_neg (Ne.symm hpayer), if_pos rfl] at hmove
    exact hmove

theorem le_held_of_collected (hT : Currency T balance) {o o' : Other} (h : Collected T fee o o') :
    balance o T.relayerFeeAccount ≤ balance o' T.relayerFeeAccount := by
  unfold Collected at h
  split at h
  · rw [h]
  · have hmove := hT.moves _ _ _ _ _ h T.relayerFeeAccount
    rw [if_pos rfl] at hmove
    split at hmove <;> omega

theorem Le.of_request {c : H256} {entry : Option RequestMetadata}
    (hrequests : w'.host.requestCommitments = Function.update w.host.requestCommitments c entry)
    (hresponses : w'.host.responseCommitments = w.host.responseCommitments)
    (hheld : held T balance w + feeAt entry ≤ held T balance w' + feeAt (w.host.requestCommitments c)) :
    Le T balance w w' := by
  have htotal := total_update (fun _ => feeAt) w.host.requestCommitments c entry
  rw [Le, fees, fees, hrequests, hresponses]
  omega

theorem Le.of_response {c : H256} {entry : Option RequestMetadata}
    (hrequests : w'.host.requestCommitments = w.host.requestCommitments)
    (hresponses : w'.host.responseCommitments = Function.update w.host.responseCommitments c entry)
    (hheld : held T balance w + feeAt entry ≤ held T balance w' + feeAt (w.host.responseCommitments c)) :
    Le T balance w w' := by
  have htotal := total_update (fun _ => feeAt) w.host.responseCommitments c entry
  rw [Le, fees, fees, hrequests, hresponses]
  omega

theorem Le.of_insert {m : MessageCommitment} {metadata : RequestMetadata} {other : Other}
    (hend : w' = ⟨m.insert metadata { w.host with other := other }, w.trace⟩)
    (hheld : held T balance w + metadata.fee.fee ≤ balance other T.relayerFeeAccount + feeAt (m.metadata w.host)) :
    Le T balance w w' := by
  subst hend
  cases m with
  | request c => exact .of_request rfl rfl hheld
  | response c => exact .of_response rfl rfl hheld

theorem held_of_pushed (hT : Currency T balance) (hpayer : fee.payer ≠ T.relayerFeeAccount) {other : Other}
    {leaf : Leaf}
    (hcollected : Collected T fee w.host.other other) (hother : w'.host.other = (T.mmrPush leaf other).2) :
    held T balance w' = held T balance w + fee.fee := by
  rw [held, held, hother, hT.mmrPush, held_of_collected hT hpayer hcollected]

theorem fees_dispatchRequest {request : DispatchRequest} {c : H256}
    (h : (dispatchRequest T request fee).run w = (.ok c, w')) : fees w'.host = fees w.host + fee.fee := by
  obtain ⟨other, -, -, hnone, hend⟩ := dispatchRequest_ok h
  have htotal := total_update (fun _ => feeAt) w.host.requestCommitments c
    (some ⟨(T.mmrPush (.request (stamped T w request)) other).1, fee, false⟩)
  rw [hnone] at htotal
  rw [hend]
  dsimp only [fees, withCommitment, feeAt] at htotal ⊢
  omega

/-- A dispatch pays in what it records. -/
theorem le_dispatchRequest (hT : Currency T balance) (hpayer : fee.payer ≠ T.relayerFeeAccount)
    {request : DispatchRequest} {c : H256} (h : (dispatchRequest T request fee).run w = (.ok c, w')) :
    Le T balance w w' := by
  obtain ⟨other, hcollected, -, -, hend⟩ := dispatchRequest_ok h
  have hheld : held T balance w' = held T balance w + fee.fee :=
    held_of_pushed hT hpayer hcollected (by rw [hend]; rfl)
  rw [Le, hheld, fees_dispatchRequest h]
  omega

theorem le_dispatchPostResponse (hT : Currency T balance) (hpayer : fee.payer ≠ T.relayerFeeAccount)
    {response : PostResponse} {c : H256} (h : (dispatchPostResponse T response fee).run w = (.ok c, w')) :
    Le T balance w w' := by
  obtain ⟨other, mmr, reqCommitment, hcollected, -, hend⟩ := dispatchPostResponse_ok h
  have hheld : held T balance w' = held T balance w + fee.fee :=
    held_of_pushed hT hpayer hcollected (by rw [hend])
  refine .of_response (c := c) (by rw [hend]) (by rw [hend]) ?_
  rw [hheld]
  exact Nat.le_add_right _ _

theorem le_fundMessage (hT : Currency T balance) {account : Bytes} (haccount : account ≠ T.relayerFeeAccount)
    {m : MessageCommitment} {amount : Nat} (h : (fundMessage T account m amount).run w = (.ok (), w')) :
    Le T balance w w' := by
  obtain ⟨metadata, other, hmetadata, htransfer, hend⟩ := fundMessage_ok h
  have hmove := hT.moves _ _ _ _ _ htransfer T.relayerFeeAccount
  rw [if_neg (Ne.symm haccount), if_pos rfl, Nat.add_zero] at hmove
  refine .of_insert hend ?_
  rw [hmetadata, held, hmove]
  dsimp only [feeAt]
  omega

/-! ### Dispatches that fail

A module may go on after an error of the dispatcher. A fee that has been collected for nothing is left over. -/

/-- The account gains, and no message is recorded. -/
def Pays (T : Config Other) (balance : Other → Bytes → Nat) (w w' : World Other) : Prop :=
  w'.host.requestCommitments = w.host.requestCommitments ∧ w'.host.responseCommitments = w.host.responseCommitments ∧
    held T balance w ≤ held T balance w'

instance : IsPreorder (World Other) (Pays T balance) where
  refl _ := ⟨rfl, rfl, Nat.le_refl _⟩
  trans _ _ _ hab hbc := ⟨hbc.1.trans hab.1, hbc.2.1.trans hab.2.1, hab.2.2.trans hbc.2.2⟩

theorem Pays.le (h : Pays T balance w w') : Le T balance w w' := .of_held h.1 h.2.1 h.2.2

theorem pays_collectFee (hT : Currency T balance) (fee : FeeMetadata) : Keeps (Pays T balance) (collectFee T fee) := by
  unfold collectFee
  split
  · exact Keeps.pure _
  · rename_i hfee
    refine keeps_transferFee fun w other htransfer => ⟨rfl, rfl, ?_⟩
    have hcollected : Collected T fee w.host.other other := by
      rw [Collected, if_neg hfee]
      exact htransfer
    exact le_held_of_collected hT hcollected

theorem failsClean_commitRequest (request : Request) (fee : FeeMetadata) :
    FailsClean (commitRequest T request fee) := by
  refine FailsClean.bind (keeps_requestHash _) fun c => FailsClean.bind (Keeps.gets _) fun known => ?_
  exact FailsClean.bind (Keeps.throwIf _ _) fun _ => FailsClean.of_total fun w => ⟨_, _, rfl⟩

theorem failsClean_commitResponse (response : Response) (fee : FeeMetadata) :
    FailsClean (commitResponse T response fee) := by
  refine FailsClean.bind (keeps_requestHash _) fun c => FailsClean.bind (Keeps.gets _) fun responded => ?_
  refine FailsClean.bind (Keeps.throwIf _ _) fun _ => FailsClean.bind (keeps_responseHash _) fun c => ?_
  exact FailsClean.of_total fun w => ⟨_, _, rfl⟩

theorem failsClean_answer (response : PostResponse) (fee : FeeMetadata) : FailsClean (do
    let reqCommitment ← requestHash T response.request
    let receipt ← gets fun w => w.host.requestReceipts reqCommitment
    throwIf receipt.isNone (.unknownRequest (.ofRequest response.request))
    commitResponse T (.post response) fee) := by
  refine FailsClean.bind (keeps_requestHash _) fun c => FailsClean.bind (Keeps.gets _) fun receipt => ?_
  exact FailsClean.bind (Keeps.throwIf _ _) fun _ => failsClean_commitResponse _ _

theorem keeps_of_collected {α : Type} (hT : Currency T balance) {k : Unit → Pallet Other α}
    (hok : ∀ w a w', (collectFee T fee >>= k).run w = (.ok a, w') → Le T balance w w')
    (hfail : ∀ w e w', (k ()).run w = (.err e, w') → Pays T balance w w') :
    Keeps (Le T balance) (collectFee T fee >>= k) := by
  intro w hret
  rcases hrun : (collectFee T fee >>= k).run w with ⟨a | e | m, w'⟩
  · exact hok w a w' hrun
  · have hpays := pays_collectFee hT fee w
    rw [bind_run] at hrun
    rcases hfee : (collectFee T fee).run w with ⟨u | e' | m, w₁⟩ <;> rw [hfee] at hrun hpays
    · exact (trans_of (Pays T balance) (hpays rfl) (hfail w₁ e w' hrun)).le
    · obtain ⟨-, rfl⟩ := Prod.mk.inj hrun
      exact (hpays rfl).le
    · cases hrun
  · rw [hrun] at hret
    cases hret

theorem keeps_le_dispatchPostResponse (hT : Currency T balance) (hpayer : fee.payer ≠ T.relayerFeeAccount)
    (response : PostResponse) : Keeps (Le T balance) (dispatchPostResponse T response fee) := by
  refine keeps_of_collected hT (fun w a w' h => le_dispatchPostResponse hT hpayer h) fun w e w' h => ?_
  rw [failsClean_answer response fee _ _ _ h]
  exact refl_of (Pays T balance) w

theorem le_under {receipts : Bool} {timeout : Timeout} {u : World Other} (hu : timeout.under T receipts w = some u) :
    Le T balance w u := by
  cases timeout with
  | request r =>
    obtain ⟨c, -, rfl⟩ := Option.map_eq_some_iff.mp hu
    exact .of_request rfl rfl (Nat.le_add_right _ _)
  | response p =>
    obtain ⟨q, -, hu⟩ := Option.bind_eq_some_iff.mp hu
    obtain ⟨c, -, hu⟩ := Option.bind_eq_some_iff.mp hu
    rw [← Option.some.inj hu]
    exact .of_response rfl rfl (Nat.le_add_right _ _)

def NoResend (T : Config Other) : Prop :=
  ∀ id m, T.router id = .ok m → ∀ timeout u v, (m.onTimeout timeout).run u = (.ok (), v) →
    recordedFee T u.host timeout = none → ∀ fee, recordedFee T v.host timeout = some fee → fee.fee = 0

section Modules

variable (hmodules : ModulesKeep T (Le T balance))

include hmodules

theorem le_acceptResult {signer : Bytes} {post : PostRequest} {event : Event}
    (h : (acceptResult T signer post).run w = (.ok (.ok event), w')) : Le T balance w w' := by
  obtain ⟨cb, c, w₂, hcb, -, hcall, hend⟩ := dispatchAccept_ok (acceptResult_ok h)
  obtain ⟨inner, hinner, rfl⟩ := moduleForId_ok hcb
  have hbefore : Le T balance w (underReceipt w signer post c) := .of_same rfl rfl rfl
  have hnote : Le T balance w₂ w' := .of_same (by rw [hend]) (by rw [hend]) (by rw [hend])
  have hcallback := ((hmodules _ inner hinner).1 post).of_ok hcall
  exact trans_of (Le T balance) hbefore (trans_of (Le T balance) hcallback hnote)

theorem le_dispatchResponseTo {moduleId signer : Bytes}
    {receipt response : Response} {event : Pallet Other Event} {e : Event} (hevent : Keeps Eq event)
    (h : (dispatchResponseTo T moduleId signer receipt response event).run w = (.ok (.ok e), w')) :
    Le T balance w w' := by
  obtain ⟨cb, c, stored, rc, w₂, hcb, -, hcall, hend⟩ := dispatchResponseTo_ok hevent h
  obtain ⟨inner, hinner, rfl⟩ := moduleForId_ok hcb
  have hcallback := ((hmodules _ inner hinner).2.1 response).of_ok hcall
  have hnote : Le T balance w₂ w' := .of_same (by rw [hend]) (by rw [hend]) (by rw [hend])
  refine trans_of (Le T balance) ?_ (trans_of (Le T balance) hcallback hnote)
  exact .of_same rfl rfl rfl

variable (hresend : NoResend T)

include hresend

theorem le_onTimeout {id : Bytes} {inner : IsmpModule Other}
    (hinner : T.router id = .ok inner) {timeout : Timeout} (hnone : recordedFee T w.host timeout = none)
    (h : ((refundingModule T inner).onTimeout timeout).run w = (.ok (), w')) : Le T balance w w' := by
  obtain ⟨v, hrun, hback⟩ := refundingModule_ok h
  have hkeeps := ((hmodules id inner hinner).2.2 timeout).of_ok hrun
  have hsame : w' = v := by
    cases hfee : recordedFee T v.host timeout with
    | none =>
      rw [hfee] at hback
      exact hback
    | some fee =>
      rw [hfee, PaysBack, hresend id inner hinner timeout w v hrun hnone fee hfee, if_neg (Nat.lt_irrefl 0)] at hback
      exact hback
  rw [hsame]
  exact hkeeps

theorem le_timesOut {timeout : Timeout} (h : TimesOut T w w' timeout) : Le T balance w w' := by
  obtain ⟨receipts, event, h⟩ := timesOut_iff.mp h
  obtain ⟨inner, u, -, w₂, hinner, hu, -, hcall, rfl⟩ := timedOut_ok h
  have hnote : Le T balance w₂ ⟨w₂.host, w₂.trace ++ [.timedOut timeout true]⟩ := .of_same rfl rfl rfl
  have hcallback := le_onTimeout hmodules hresend hinner (recordedFee_under hu) hcall
  exact trans_of (Le T balance) (le_under hu) (trans_of (Le T balance) hcallback hnote)

theorem le_timesOutAll {timeouts : List Timeout} (h : TimesOutAll T timeouts w w') : Le T balance w w' := by
  induction timeouts generalizing w with
  | nil =>
    rw [show w' = w from h]
    exact refl_of (Le T balance) w
  | cons timeout timeouts ih =>
    obtain ⟨w₁, hfirst, hrest⟩ := h
    exact trans_of (Le T balance) (le_timesOut hmodules hresend hfirst) (ih hrest)

/-- Handling a message leaves no less over. -/
theorem le_message {msg : Message} {res : MessageResult}
    (h : (handleIncomingMessage T msg).run w = (.ok res, w')) (hok : res.AllOk) : Le T balance w w' := by
  cases msg with
  | consensus m =>
    have hstep := (consensusStep_updateClient m).of_ok h
    exact .of_same hstep.requestCommitments hstep.responseCommitments hstep.other
  | fraudProof m =>
    have hstep := (consensusStep_freezeClient m).of_ok h
    exact .of_same hstep.requestCommitments hstep.responseCommitments hstep.other
  | request m =>
    obtain ⟨-, results, hcollect, rfl⟩ := handleRequest_ok h
    refine collect_ok_along (fun post v result v' hturn hresult => ?_) hok hcollect
    obtain ⟨event, rfl⟩ := hresult
    exact le_acceptResult hmodules hturn
  | response m =>
    cases hdatagram : m.datagram with
    | response responses =>
      obtain ⟨-, results, hcollect, rfl⟩ := handleResponse_response_ok hdatagram h
      refine collect_ok_along (fun response v result v' hturn hresult => ?_) hok hcollect
      obtain ⟨event, rfl⟩ := hresult
      exact le_dispatchResponseTo hmodules ((keeps_responseHash _).bind fun _ => Keeps.pure _) hturn
    | request requests =>
      obtain ⟨sm, state, gets, results, -, -, hcollect, rfl⟩ := handleResponse_request_ok hdatagram h
      refine collect_ok_along (fun get v result v' hturn hresult => ?_) hok hcollect
      obtain ⟨event, rfl⟩ := hresult
      obtain ⟨values, -, hturn⟩ := reads_bind_ok.mp hturn
      exact le_dispatchResponseTo hmodules ((keeps_requestHash _).bind fun _ => Keeps.pure _) hturn
  | timeout m => exact le_timesOutAll hmodules hresend (timesOutAll_handleTimeout h hok)

theorem le_handleMessages {messages : List Message}
    {events : List Event} (h : (handleMessages T messages).run w = (.ok events, w')) : Le T balance w w' := by
  obtain ⟨results, hcollect, hok⟩ := handleMessages_allOk h
  exact collect_ok_along (fun _ _ _ _ hmessage hres => le_message hmodules hresend hmessage hres) hok hcollect

end Modules

inductive Run (T : Config Other) (balance : Other → Bytes → Nat) (w₀ : World Other) : List Bytes → World Other → Prop
  | start : Run T balance w₀ [] w₀
  | request {payers : List Bytes} {w w' : World Other} {request : DispatchRequest} {fee : FeeMetadata} {c : H256}
      (run : Run T balance w₀ payers w) (hcall : (dispatchRequest T request fee).run w = (.ok c, w')) :
      Run T balance w₀ (payers ++ [fee.payer]) w'
  | response {payers : List Bytes} {w w' : World Other} {response : PostResponse} {fee : FeeMetadata} {c : H256}
      (run : Run T balance w₀ payers w) (hcall : (dispatchPostResponse T response fee).run w = (.ok c, w')) :
      Run T balance w₀ (payers ++ [fee.payer]) w'
  | fund {payers : List Bytes} {w w' : World Other} {account : Bytes} {m : MessageCommitment} {amount : Nat}
      (run : Run T balance w₀ payers w) (hcall : (fundMessage T account m amount).run w = (.ok (), w')) :
      Run T balance w₀ (payers ++ [account]) w'
  | handle {payers : List Bytes} {w w' : World Other} {messages : List Message} {events : List Event}
      (run : Run T balance w₀ payers w) (hcall : (handleMessages T messages).run w = (.ok events, w')) :
      Run T balance w₀ payers w'
  | elsewhere {payers : List Bytes} {w w' : World Other} (run : Run T balance w₀ payers w)
      (hstep : Pays T balance w w') : Run T balance w₀ payers w'

theorem Run.le {w₀ : World Other} {payers : List Bytes} (hT : Currency T balance)
    (hmodules : ModulesKeep T (Le T balance)) (hresend : NoResend T) (hrun : Run T balance w₀ payers w)
    (hpayers : ∀ payer ∈ payers, payer ≠ T.relayerFeeAccount) : Le T balance w₀ w := by
  induction hrun with
  | start => exact refl_of (Le T balance) w₀
  | request run hcall ih =>
    rw [List.forall_mem_append, List.forall_mem_singleton] at hpayers
    exact trans_of (Le T balance) (ih hpayers.1) (le_dispatchRequest hT hpayers.2 hcall)
  | response run hcall ih =>
    rw [List.forall_mem_append, List.forall_mem_singleton] at hpayers
    exact trans_of (Le T balance) (ih hpayers.1) (le_dispatchPostResponse hT hpayers.2 hcall)
  | fund run hcall ih =>
    rw [List.forall_mem_append, List.forall_mem_singleton] at hpayers
    exact trans_of (Le T balance) (ih hpayers.1) (le_fundMessage hT hpayers.2 hcall)
  | handle run hcall ih => exact trans_of (Le T balance) (ih hpayers) (le_handleMessages hmodules hresend hcall)
  | elsewhere run hstep ih => exact trans_of (Le T balance) (ih hpayers) hstep.le

/-- From a solvent state, over every run in which the account for the fees pays for no message, and no module records
a message again, with a fee, when it is told that it has timed out, the account stays solvent. -/
theorem fee_escrow_solvent {w₀ : World Other} {payers : List Bytes} (hT : Currency T balance)
    (hmodules : ModulesKeep T (Le T balance)) (hresend : NoResend T) (hrun : Run T balance w₀ payers w)
    (hpayers : ∀ payer ∈ payers, payer ≠ T.relayerFeeAccount) (hstart : Solvent T balance w₀) : Solvent T balance w :=
  (hrun.le hT hmodules hresend hpayers).solvent hstart

abbrev Balances := fun balance : Bytes → Nat => balance

theorem currency_balanceConfig : Currency balanceConfig Balances := ⟨movesBalance_balanceConfig, fun _ _ _ => rfl⟩

theorem solvent_of_empty {T : Config (Bytes → Nat)} {w : World (Bytes → Nat)}
    (hrequests : w.host.requestCommitments = fun _ => none) (hresponses : w.host.responseCommitments = fun _ => none) :
    Solvent T Balances w := by
  have hzero : total (fun _ => feeAt) (fun _ : H256 => (none : Option RequestMetadata)) = 0 :=
    total_eq_zero fun _ => rfl
  rw [Solvent, fees, hrequests, hresponses, hzero]
  exact Nat.zero_le _

theorem run_paidWorld : Run balanceConfig Balances ⟨balanceHost, []⟩ [samplePayer] paidWorld :=
  .request .start dispatch_paidWorld

theorem fee_escrow_solvent_sample :
    Run balanceConfig Balances ⟨balanceHost, []⟩ [samplePayer, samplePayer] keptWorld ∧
      Solvent balanceConfig Balances keptWorld := by
  have hfunded : Run balanceConfig Balances ⟨balanceHost, []⟩ [samplePayer, samplePayer] fundedWorld :=
    .fund run_paidWorld fund_paidWorld
  have hrun : Run balanceConfig Balances ⟨balanceHost, []⟩ [samplePayer, samplePayer] keptWorld :=
    .handle hfunded handle_paidTimeout
  have hmodules : ModulesKeep balanceConfig (Le balanceConfig Balances) := by
    intro id m hm
    obtain rfl := Except.ok.inj hm
    exact ⟨fun _ => Keeps.pure (), fun _ => Keeps.pure (), fun _ => Keeps.pure ()⟩
  have hresend : NoResend balanceConfig := by
    intro id m hm timeout u v h hnone fee hfee
    obtain rfl := Except.ok.inj hm
    obtain ⟨-, rfl⟩ := Prod.mk.inj h
    rw [hnone] at hfee
    cases hfee
  exact ⟨hrun, fee_escrow_solvent currency_balanceConfig hmodules hresend hrun (by decide) (solvent_of_empty rfl rfl)⟩

/-- It sends a response again when it times out. -/
def resendModule : IsmpModule (Bytes → Nat) where
  onAccept _ := pure ()
  onResponse _ := pure ()
  onTimeout
    | .response r => do
        let _ ← dispatchPostResponse balanceConfig r ⟨samplePayer, 5⟩
        pure ()
    | .request _ => pure ()

def resendConfig : Config (Bytes → Nat) := { balanceConfig with router := fun _ => .ok resendModule }

def answeredRequest : PostRequest := ⟨.polkadot 2000, .polkadot 3367, 0, [2], [1], 0, [3]⟩

def sampleAnswer : PostResponse := ⟨answeredRequest, [4], 22⟩

def receivedWorld : World (Bytes → Nat) :=
  ⟨{ balanceHost with
      requestReceipts := fun c => if c = sampleCommitmentOf answeredRequest then some [9] else none }, []⟩

def answeredWorld : World (Bytes → Nat) :=
  ((dispatchPostResponse resendConfig sampleAnswer ⟨samplePayer, 0⟩).run receivedWorld).2

/-- The response has been sent again on its timeout. -/
def resentWorld : World (Bytes → Nat) :=
  ((handleMessages resendConfig [.timeout (.postResponse [sampleAnswer] ⟨sampleHeight, []⟩)]).run answeredWorld).2

theorem run_resentWorld : Run resendConfig Balances receivedWorld [samplePayer] resentWorld := by
  have hanswer :
    ((dispatchPostResponse resendConfig sampleAnswer ⟨samplePayer, 0⟩).run receivedWorld).1.isOk = true := by
    decide +kernel
  obtain ⟨c, hanswer⟩ := exists_run_ok hanswer
  have hanswered : Run resendConfig Balances receivedWorld [samplePayer] answeredWorld := .response .start hanswer
  have htimeout : ((handleMessages resendConfig [.timeout (.postResponse [sampleAnswer] ⟨sampleHeight, []⟩)]).run
      answeredWorld).1.isOk = true := by decide +kernel
  obtain ⟨events, htimeout⟩ := exists_run_ok htimeout
  exact .handle hanswered htimeout

theorem modulesKeep_resendConfig : ModulesKeep resendConfig (Le resendConfig Balances) := by
  intro id m hm
  obtain rfl := Except.ok.inj hm
  refine ⟨fun _ => Keeps.pure (), fun _ => Keeps.pure (), fun t => ?_⟩
  cases t with
  | request r => exact Keeps.pure ()
  | response r =>
    have hpayer : (⟨samplePayer, 5⟩ : FeeMetadata).payer ≠ balanceConfig.relayerFeeAccount := by decide
    exact (keeps_le_dispatchPostResponse currency_balanceConfig hpayer r).bind fun _ => Keeps.pure ()

def selfPaidWorld : World (Bytes → Nat) :=
  ((dispatchRequest balanceConfig (.post ⟨.polkadot 2000, [1], [2], 10, [4]⟩)
    ⟨balanceConfig.relayerFeeAccount, 5⟩).run paidWorld).2

/-- A module sends a response again when it times out. It has paid for it, the fee is refunded at once, and the response
is recorded with the fee while the account is empty. Or the account pays for a request itself. -/
theorem fee_escrow_insolvent :
    (Currency resendConfig Balances ∧ ModulesKeep resendConfig (Le resendConfig Balances) ∧
      Solvent resendConfig Balances receivedWorld ∧ Run resendConfig Balances receivedWorld [samplePayer] resentWorld ∧
      ¬ Solvent resendConfig Balances resentWorld) ∧
    Solvent balanceConfig Balances ⟨balanceHost, []⟩ ∧
      Run balanceConfig Balances ⟨balanceHost, []⟩ [samplePayer, balanceConfig.relayerFeeAccount] selfPaidWorld ∧
      ¬ Solvent balanceConfig Balances selfPaidWorld := by
  refine ⟨⟨⟨movesBalance_balanceConfig, fun _ _ _ => rfl⟩, modulesKeep_resendConfig, solvent_of_empty rfl rfl,
    run_resentWorld, fun hsolvent => ?_⟩, solvent_of_empty rfl rfl, ?_⟩
  · have hentry : feeAt (resentWorld.host.responseCommitments
        (sampleDigest ((Response.post sampleAnswer).encode.getD []))) = 5 := by decide +kernel
    have hheld : held resendConfig Balances resentWorld = 0 := by decide +kernel
    have hle := le_total (fun _ => feeAt) resentWorld.host.responseCommitments
      (sampleDigest ((Response.post sampleAnswer).encode.getD []))
    rw [Solvent, hheld, fees] at hsolvent
    omega
  · have hsecond : ((dispatchRequest balanceConfig (.post ⟨.polkadot 2000, [1], [2], 10, [4]⟩)
        ⟨balanceConfig.relayerFeeAccount, 5⟩).run paidWorld).1.isOk = true := by decide +kernel
    obtain ⟨c', hsecond⟩ := exists_run_ok hsecond
    refine ⟨.request run_paidWorld hsecond, fun hsolvent => ?_⟩
    have hheld : held balanceConfig Balances selfPaidWorld = 5 := by decide +kernel
    have hfees := fees_dispatchRequest dispatch_paidWorld
    have hfees' := fees_dispatchRequest hsecond
    rw [Solvent, hheld, selfPaidWorld, hfees', hfees] at hsolvent
    dsimp only at hsolvent
    omega

end Hyperbridge.Ismp.Escrow
