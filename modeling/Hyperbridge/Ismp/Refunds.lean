import Hyperbridge.Ismp.Delivery
import Hyperbridge.Ismp.Dispatch

/-!
# Refunds of relayer fees

Whoever dispatches a message may pay a fee for its delivery, and anyone may add to it with `fund_message`. When the
message times out, the wrapper around the callbacks of modules pays back the fee it finds under the commitment. But the
timeout handlers delete the commitment before the callback: the refund is made only if the module has written it back.
-/

namespace Hyperbridge.Ismp

open Lib Exec

variable {Other : Type} (T : Config Other)

inductive FundError where
  | messageNotFound
  | currency (text : String)
  deriving DecidableEq

/-- `fund_message`. -/
def fundMessage (account : Bytes) (commitment : MessageCommitment) (amount : Nat) :
    Exec (World Other) FundError Unit := do
  let metadata ← query fun w => okOr (commitment.metadata w.host) .messageNotFound
  let other ← query fun w =>
    match T.transfer account T.relayerFeeAccount amount w.host.other with
    | .ok other => .ok other
    | .error err => .error (.currency err)
  let fee : FeeMetadata := { metadata.fee with fee := metadata.fee.fee + amount }
  modify fun w => { w with host := commitment.insert { metadata with fee := fee } { w.host with other := other } }

/-- What the fee of a message is recorded under. -/
def commitmentOf : Timeout → Option MessageCommitment
  | .request r => (hashRequest T.keccak256 r).map .request
  | .response r => (hashResponse T.keccak256 (.post r)).map .response

variable {T} {w w' v v' : World Other} {timeout : Timeout} {fee : FeeMetadata}

theorem recordedFee_eq (h : Host Other) (timeout : Timeout) :
    recordedFee T h timeout = (commitmentOf T timeout).bind fun m => (m.metadata h).map (·.fee) := by
  cases timeout with
  | request r =>
    rw [recordedFee, commitmentOf]
    cases hashRequest T.keccak256 r <;> rfl
  | response r =>
    rw [recordedFee, commitmentOf]
    cases hashResponse T.keccak256 (.post r) <;> rfl

inductive Funded (T : Config Other) (timeout : Timeout) : FeeMetadata → World Other → Prop
  | request {w w' : World Other} {fee : FeeMetadata} {c : H256} (r : Request) (message : DispatchRequest)
      (hdispatch : (dispatchRequest T message fee).run w = (.ok c, w')) (hhash : hashRequest T.keccak256 r = some c)
      (htimeout : timeout = .request r) : Funded T timeout fee w'
  | response {w w' : World Other} {fee : FeeMetadata} {c : H256} (r : PostResponse)
      (hdispatch : (dispatchPostResponse T r fee).run w = (.ok c, w')) (htimeout : timeout = .response r) :
      Funded T timeout fee w'
  | topUp {w w' : World Other} {fee : FeeMetadata} (account : Bytes) (m : MessageCommitment) (amount : Nat)
      (run : Funded T timeout fee w) (hcommitment : commitmentOf T timeout = some m)
      (hcall : (fundMessage T account m amount).run w = (.ok (), w')) :
      Funded T timeout { fee with fee := fee.fee + amount } w'
  | elsewhere {w w' : World Other} {fee : FeeMetadata} (run : Funded T timeout fee w)
      (hsame : recordedFee T w'.host timeout = recordedFee T w.host timeout) : Funded T timeout fee w'

theorem fundMessage_ok {account : Bytes} {m : MessageCommitment} {amount : Nat}
    (h : (fundMessage T account m amount).run w = (.ok (), w')) :
    ∃ metadata other, m.metadata w.host = some metadata ∧
      T.transfer account T.relayerFeeAccount amount w.host.other = .ok other ∧
      w' = ⟨m.insert { metadata with fee := { metadata.fee with fee := metadata.fee.fee + amount } }
        { w.host with other := other }, w.trace⟩ := by
  obtain ⟨metadata, hmetadata, h⟩ := query_bind_ok.mp h
  obtain ⟨other, hother, h⟩ := query_bind_ok.mp h
  obtain ⟨-, rfl⟩ := Prod.mk.inj h
  refine ⟨metadata, other, okOr_eq_ok.mp hmetadata, ?_, rfl⟩
  split at hother
  · rename_i htransfer
    rwa [Except.ok.inj hother] at htransfer
  · cases hother

/-- All that was paid is recorded. -/
theorem Funded.recorded (h : Funded T timeout fee w) : recordedFee T w.host timeout = some fee := by
  induction h with
  | request r message hdispatch hhash htimeout =>
    obtain ⟨other, -, -, -, rfl⟩ := dispatchRequest_ok hdispatch
    simp [htimeout, recordedFee, hhash, withCommitment]
  | response r hdispatch htimeout =>
    obtain ⟨other, mmr, reqCommitment, -, hhash, rfl⟩ := dispatchPostResponse_ok hdispatch
    simp [htimeout, recordedFee, hhash]
  | topUp account m amount _ hcommitment hcall ih =>
    obtain ⟨metadata, other, hmetadata, -, rfl⟩ := fundMessage_ok hcall
    rw [recordedFee_eq, hcommitment, Option.bind_some] at ih ⊢
    rw [hmetadata, Option.map_some, Option.some.injEq] at ih
    rw [MessageCommitment.metadata_insert, if_pos rfl, Option.map_some, ih]
  | elsewhere _ hsame ih => exact hsame.trans ih

def TimesOut (T : Config Other) (v v' : World Other) : Timeout → Prop
  | .request r => ∃ event, (dispatchRequestTimeout T r).run v = (.ok (.ok event), v') ∨
      (dispatchGetTimeout T r).run v = (.ok (.ok event), v')
  | .response r => ∃ event, (dispatchResponseTimeout T r).run v = (.ok (.ok event), v')

theorem timesOut_iff : TimesOut T v v' timeout ↔
    ∃ receipts event, (timeOut T receipts timeout).run v = (.ok (.ok event), v') := by
  cases timeout with
  | request r =>
    constructor
    · rintro ⟨event, h | h⟩
      · exact ⟨true, event, h⟩
      · exact ⟨false, event, h⟩
    · rintro ⟨_ | _, event, h⟩
      · exact ⟨event, .inr h⟩
      · exact ⟨event, .inl h⟩
  | response r => exact ⟨fun h => ⟨true, h⟩, fun ⟨_, h⟩ => h⟩

theorem timesOut_ok (h : TimesOut T v v' timeout) :
    ∃ inner u u₂, T.router timeout.sourceModule = .ok inner ∧ u.host.other = v.host.other ∧
      recordedFee T u.host timeout = none ∧
      ((refundingModule T inner).onTimeout timeout).run u = (.ok (), u₂) ∧ v'.host = u₂.host := by
  obtain ⟨receipts, event, h⟩ := timesOut_iff.mp h
  obtain ⟨inner, u, -, u₂, hinner, hu, -, hcall, rfl⟩ := timedOut_ok h
  exact ⟨inner, u, u₂, hinner, other_under hu, recordedFee_under hu, hcall, rfl⟩

/-- The timeouts are made in order. -/
def TimesOutAll (T : Config Other) : List Timeout → World Other → World Other → Prop
  | [], w, w' => w' = w
  | timeout :: timeouts, w, w' => ∃ w₁, TimesOut T w w₁ timeout ∧ TimesOutAll T timeouts w₁ w'

theorem timesOutAll_of_collect {receipts : Bool} {timeouts : List Timeout} {results : List (Except Error Event)}
    (hok : ∀ result ∈ results, ∃ event, result = .ok event)
    (h : (collect (timeOut T receipts) timeouts).run w = (.ok results, w')) : TimesOutAll T timeouts w w' := by
  induction timeouts generalizing w results with
  | nil => exact (Prod.mk.inj h).2.symm
  | cons timeout timeouts ih =>
    obtain ⟨result, w₁, rest, hfirst, hrest, rfl⟩ := collect_cons_ok.mp h
    obtain ⟨event, rfl⟩ := hok result List.mem_cons_self
    exact ⟨w₁, timesOut_iff.mpr ⟨receipts, event, hfirst⟩, ih (fun r hr => hok r (List.mem_cons_of_mem _ hr)) hrest⟩

theorem timesOutAll_handleTimeout {msg : TimeoutMessage} {res : MessageResult}
    (h : (handleTimeout T msg).run w = (.ok res, w')) (hok : res.AllOk) : TimesOutAll T msg.timeouts w w' := by
  obtain ⟨-, results, hcollect, rfl⟩ := handleTimeout_ok_iff.mp h
  exact timesOutAll_of_collect hok hcollect

theorem timesOutAll_handleMessages {messages : List Message} {events : List Event}
    (hok : (handleMessages T messages).run w = (.ok events, w')) {msg : TimeoutMessage}
    (hmsg : .timeout msg ∈ messages) :
    ∃ v v', TimesOutAll T msg.timeouts v v' ∧ (messages = [.timeout msg] → v = w ∧ v' = w') := by
  obtain ⟨results, hcollect, hall⟩ := handleMessages_allOk hok
  by_cases halone : messages = [.timeout msg]
  · subst halone
    obtain ⟨res, w₁, rest, hrun, hrest, rfl⟩ := collect_cons_ok.mp hcollect
    obtain ⟨-, rfl⟩ := Prod.mk.inj hrest
    exact ⟨w, w₁, timesOutAll_handleTimeout hrun (hall res List.mem_cons_self), fun _ => ⟨rfl, rfl⟩⟩
  · obtain ⟨res, hres, v, v', hrun⟩ := collect_ok_mem hmsg hcollect
    exact ⟨v, v', timesOutAll_handleTimeout hrun (hall res hres), fun heq => absurd heq halone⟩

/-- A transfer moves its amount and no other balance. -/
def MovesBalance (T : Config Other) (balance : Other → Bytes → Nat) : Prop :=
  ∀ source target amount other other', T.transfer source target amount other = .ok other' → ∀ a,
    balance other' a + (if a = source then amount else 0) = balance other a + (if a = target then amount else 0)

/-- The fee has gone from the fee account to its payer. -/
def Refunded (T : Config Other) (balance : Other → Bytes → Nat) (fee : FeeMetadata) (v v' : World Other) : Prop :=
  balance v'.host.other fee.payer = balance v.host.other fee.payer + fee.fee ∧
    balance v'.host.other T.relayerFeeAccount + fee.fee = balance v.host.other T.relayerFeeAccount

/-- Neither of the two balances has moved. -/
def Untouched (T : Config Other) (balance : Other → Bytes → Nat) (fee : FeeMetadata) (u u' : World Other) : Prop :=
  balance u'.host.other fee.payer = balance u.host.other fee.payer ∧
    balance u'.host.other T.relayerFeeAccount = balance u.host.other T.relayerFeeAccount

theorem refunded_iff_of_paysBack {balance : Other → Bytes → Nat} (hbalance : MovesBalance T balance)
    (hpositive : 0 < fee.fee) (hpayer : fee.payer ≠ T.relayerFeeAccount) {recorded : Option FeeMetadata}
    (h : PaysBack T v v' recorded) : Refunded T balance fee v v' ↔ recorded = some fee := by
  have hsame (heq : v' = v) : ¬ Refunded T balance fee v v' := by
    rintro ⟨hup, -⟩
    rw [heq] at hup
    omega
  cases recorded with
  | none => exact ⟨fun hrefund => absurd hrefund (hsame h), fun heq => by cases heq⟩
  | some found =>
    rw [Option.some.injEq]
    unfold PaysBack at h
    dsimp only at h
    split at h
    · rename_i hfound
      obtain ⟨other, htransfer, rfl⟩ := h
      have hto := hbalance _ _ _ _ _ htransfer fee.payer
      have hfrom := hbalance _ _ _ _ _ htransfer T.relayerFeeAccount
      rw [if_neg hpayer] at hto
      rw [if_pos rfl] at hfrom
      constructor
      · rintro ⟨hup, hdown⟩
        dsimp only at hup hdown
        have hsamePayer : fee.payer = found.payer := by
          by_contra hne
          rw [if_neg hne] at hto
          omega
        have hother : T.relayerFeeAccount ≠ found.payer := fun heq => hpayer (hsamePayer.trans heq.symm)
        rw [if_neg hother] at hfrom
        obtain ⟨payer, amount⟩ := found
        obtain ⟨payer', amount'⟩ := fee
        obtain rfl : payer' = payer := hsamePayer
        congr 1
        dsimp only at hfrom hdown
        omega
      · rintro rfl
        rw [if_pos rfl] at hto
        rw [if_neg (Ne.symm hpayer)] at hfrom
        exact ⟨by simpa using hto, by simpa using hfrom⟩
    · rename_i hfound
      refine ⟨fun hrefund => absurd hrefund (hsame h), ?_⟩
      rintro rfl
      exact absurd hpositive hfound

/-- A successful call times out the messages that are listed, one after the other. When a message with a fee is timed
out, nothing is recorded for it any more as the callback of its module starts. If the module moves neither of the two
balances, the fee is refunded exactly if it is recorded again when the module returns. -/
theorem timeout_refunded_iff {balance : Other → Bytes → Nat} (hbalance : MovesBalance T balance) :
    (∀ messages events w w', (handleMessages T messages).run w = (.ok events, w') → ∀ msg, .timeout msg ∈ messages →
      ∃ v v', TimesOutAll T msg.timeouts v v' ∧ (messages = [.timeout msg] → v = w ∧ v' = w')) ∧
    ∀ timeout v v' fee, TimesOut T v v' timeout → Funded T timeout fee v → 0 < fee.fee →
      fee.payer ≠ T.relayerFeeAccount →
      ∃ inner u u', T.router timeout.sourceModule = .ok inner ∧ (inner.onTimeout timeout).run u = (.ok (), u') ∧
        u.host.other = v.host.other ∧ recordedFee T u.host timeout = none ∧
        (Untouched T balance fee u u' →
          (Refunded T balance fee v v' ↔ recordedFee T u'.host timeout = recordedFee T v.host timeout)) := by
  refine ⟨fun messages events w w' hok msg hmsg => timesOutAll_handleMessages hok hmsg, ?_⟩
  intro timeout v v' fee htimes hfunded hpositive hpayer
  obtain ⟨inner, u, u₂, hinner, hother, hnone, hcall, hend⟩ := timesOut_ok htimes
  obtain ⟨u', hrun, hback⟩ := refundingModule_ok hcall
  refine ⟨inner, u, u', hinner, hrun, hother, hnone, ?_⟩
  rintro ⟨hpayerSame, haccountSame⟩
  have hiff := refunded_iff_of_paysBack hbalance hpositive hpayer hback
  rw [hfunded.recorded, ← hiff]
  unfold Refunded
  rw [hend, hpayerSame, haccountSame, hother]

def moveBalance (source target : Bytes) (amount : Nat) (balance : Bytes → Nat) : Except String (Bytes → Nat) :=
  if balance source < amount then .error "Token(FundsUnavailable)"
  else .ok fun a => balance a - (if a = source then amount else 0) + (if a = target then amount else 0)

def balanceConfig : Config (Bytes → Nat) := runtimeConfig (.polkadot 3367) (.polkadot 2000) silentClient moveBalance

theorem movesBalance_balanceConfig : MovesBalance balanceConfig fun balance => balance := by
  intro source target amount balance balance' h a
  change moveBalance source target amount balance = .ok balance' at h
  unfold moveBalance at h
  split at h
  · cases h
  · obtain rfl := Except.ok.inj h
    by_cases ha : a = source
    · subst ha
      simp only [if_true]
      omega
    · simp [ha]

def samplePayer : Bytes := asBytes "payer"

def balanceHost : Host (Bytes → Nat) :=
  { trackingHost sampleHeight ⟨50, none, BytesN.zero 32⟩ 12000000000 with other :=
    fun a => if a = samplePayer then 100 else 0 }

def paidRequest : PostRequest := ⟨.polkadot 3367, .polkadot 2000, 0, [1], [2], 22, [3]⟩

def paidCommitment : H256 := sampleCommitmentOf paidRequest

/-- A fee of five is paid with the request. -/
def paidWorld : World (Bytes → Nat) :=
  ((dispatchRequest balanceConfig (.post ⟨.polkadot 2000, [1], [2], 10, [3]⟩) ⟨samplePayer, 5⟩).run ⟨balanceHost, []⟩).2

/-- Three more are added. -/
def fundedWorld : World (Bytes → Nat) :=
  ((fundMessage balanceConfig samplePayer (.request paidCommitment) 3).run paidWorld).2

theorem dispatch_paidWorld :
    (dispatchRequest balanceConfig (.post ⟨.polkadot 2000, [1], [2], 10, [3]⟩) ⟨samplePayer, 5⟩).run ⟨balanceHost, []⟩ =
      (.ok paidCommitment, paidWorld) := by
  refine run_of_fst_ok ?_
  decide +kernel

theorem fund_paidWorld :
    (fundMessage balanceConfig samplePayer (.request paidCommitment) 3).run paidWorld = (.ok (), fundedWorld) := by
  refine run_of_fst_ok ?_
  decide +kernel

theorem funded_sample : Funded balanceConfig (.request (.post paidRequest)) ⟨samplePayer, 8⟩ fundedWorld := by
  have hhash : hashRequest balanceConfig.keccak256 (.post paidRequest) = some paidCommitment := by decide +kernel
  have hcommitment : commitmentOf balanceConfig (.request (.post paidRequest)) = some (.request paidCommitment) := by
    rw [commitmentOf, hhash]
    rfl
  have hpaid : Funded balanceConfig (.request (.post paidRequest)) ⟨samplePayer, 5⟩ paidWorld :=
    .request _ _ dispatch_paidWorld hhash rfl
  exact .topUp samplePayer _ 3 hpaid hcommitment fund_paidWorld

def paidTimeout : TimeoutMessage := .post [.post paidRequest] ⟨sampleHeight, []⟩

/-- After the timeout. -/
def keptWorld : World (Bytes → Nat) := ((handleMessages balanceConfig [.timeout paidTimeout]).run fundedWorld).2

theorem handle_paidTimeout : (handleMessages balanceConfig [.timeout paidTimeout]).run fundedWorld =
    (.ok [.postRequestTimeoutHandled paidCommitment (.polkadot 3367) (.polkadot 2000)], keptWorld) := by
  have hcall : ((handleMessages balanceConfig [.timeout paidTimeout]).run fundedWorld).1 =
      .ok [.postRequestTimeoutHandled paidCommitment (.polkadot 3367) (.polkadot 2000)] := by decide +kernel
  exact run_of_fst_ok hcall

theorem timeout_refunded_iff_sample :
    ¬ Refunded balanceConfig (fun balance => balance) ⟨samplePayer, 8⟩ fundedWorld keptWorld := by
  obtain ⟨hcalls, hitem⟩ := timeout_refunded_iff movesBalance_balanceConfig
  obtain ⟨v, v', ⟨w₁, htimes, hend⟩, halone⟩ := hcalls _ _ _ _ handle_paidTimeout _ List.mem_cons_self
  obtain rfl : v' = w₁ := hend
  obtain ⟨hbefore, hafter⟩ := halone rfl
  rw [hbefore, hafter] at htimes
  obtain ⟨inner, u, u', hinner, hrun, -, hnone, hiff⟩ := hitem _ _ _ _ htimes funded_sample (by decide) (by decide)
  intro hrefunded
  obtain rfl := Except.ok.inj hinner
  obtain ⟨-, rfl⟩ := Prod.mk.inj hrun
  have hrecorded := (hiff ⟨rfl, rfl⟩).mp hrefunded
  rw [hnone, funded_sample.recorded] at hrecorded
  cases hrecorded

/-- Eight units were paid for a request that times out. The call succeeds, and they stay in the fee account. -/
theorem timed_out_fee_kept :
    ∃ w', Funded balanceConfig (.request (.post paidRequest)) ⟨samplePayer, 8⟩ fundedWorld ∧
      (handleMessages balanceConfig [.timeout paidTimeout]).run fundedWorld =
        (.ok [.postRequestTimeoutHandled paidCommitment (.polkadot 3367) (.polkadot 2000)], w') ∧
      w'.host.other samplePayer = 92 ∧ w'.host.other balanceConfig.relayerFeeAccount = 8 :=
  ⟨keptWorld, funded_sample, handle_paidTimeout, by decide +kernel, by decide +kernel⟩

end Hyperbridge.Ismp
