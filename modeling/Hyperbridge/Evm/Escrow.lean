import Hyperbridge.Evm.Delivery
import Hyperbridge.Lib.Escrow
import Mathlib.Data.Fintype.BigOperators
import Mathlib.Data.Fintype.Sum
import Mathlib.Data.Sum.Basic

/-!
# Relayer fees held by the EVM host

The host takes a payment for every message it sends, records the relayer fee under the commitment and pays it back when
the message times out. Every run of the contracts, with all the calls that modules make, is a run of `Lib.Escrow`: a
dispatch opens an entry, `fundRequest` and `fundResponse` raise it, and a timeout lifts it before the callback and pays
or returns it after (`Reports`).
-/

namespace Hyperbridge.Evm

open Lib Exec
open Escrow (Kind Act Run Gauge)
open Beefy (StateCommitment)

/-- The commitment of a request or of a response. -/
abbrev Slot := H256 ⊕ H256

/-- The recorded fees of both kinds. -/
def book (h : Host) : Slot → FeeMetadata := Sum.elim h.requestCommitments h.responseCommitments

/-- The sum of all recorded fees. -/
noncomputable def fees (h : Host) : Nat :=
  total (fun _ m => m.fee.toNat) h.requestCommitments + total (fun _ m => m.fee.toNat) h.responseCommitments

def escrow : Kind FeeMetadata where
  blank := .none
  live m := m.sender ≠ BytesN.zero 20
  grows m m' := m'.sender = m.sender ∧ m.fee.toNat ≤ m'.fee.toNat

theorem not_live_blank : ¬ escrow.live escrow.blank := fun h => h rfl

theorem live_of_grows (m m' : FeeMetadata) (hgrows : escrow.grows m m') (hlive : escrow.live m) : escrow.live m' := by
  have hsender : m'.sender = m.sender := hgrows.1
  show m'.sender ≠ _
  rwa [hsender]

def money : Gauge Slot escrow where
  weight _ m := m.fee.toNat
  gain
    | .opens _ m => m.fee.toNat
    | .raises _ m m' => m'.fee.toNat - m.fee.toNat
    | _ => 0
  paid
    | .pays _ m => m.fee.toNat
    | _ => 0
  blank _ := rfl
  opens _ _ := le_rfl
  raises _ m m' _ hgrows := by
    have := hgrows.2
    simp only
    omega
  pays _ _ _ := le_rfl
  free a ha := by
    cases a with
    | pays i m => exact absurd rfl (ha i m)
    | opens _ _ | raises _ _ _ | lifts _ _ | returns _ _ => rfl

variable (commitment : H256)

theorem book_setRequestCommitment (metadata : FeeMetadata) (h : Host) :
    book (setRequestCommitment commitment metadata h) = Function.update (book h) (.inl commitment) metadata :=
  Sum.elim_update_left ..

theorem book_setResponseCommitment (metadata : FeeMetadata) (h : Host) :
    book (setResponseCommitment commitment metadata h) = Function.update (book h) (.inr commitment) metadata :=
  Sum.elim_update_right ..

theorem book_setResponded (responded : Bool) (h : Host) :
    book (setResponded commitment responded h) = book h := rfl

theorem total_book (h : Host) : total money.weight (book h) = fees h := by
  rw [total, Fintype.sum_sum_type]
  rfl

/-- The entry a timeout callback is about. -/
def Callback.slot (L : Libraries) : Callback → Option Slot
  | .onPostRequestTimeout request => some (.inl (L.hashPost request))
  | .onGetTimeout request => some (.inl (L.hashGet request))
  | .onPostResponseTimeout response => some (.inr (L.hashPostResponse response))
  | _ => none

def Event.slot (L : Libraries) : Event → Option (Slot × U256)
  | .postRequestEvent request fee => some (.inl (L.hashPost request), fee)
  | .getRequestEvent request fee => some (.inl (L.hashGet request), fee)
  | .postResponseEvent response _ fee => some (.inr (L.hashPostResponse response), fee)
  | _ => none

namespace Trace

def dispatched (L : Libraries) : Trace → Option (Slot × U256)
  | .emitted event => event.slot L
  | _ => none

def timedOut (L : Libraries) : Trace → Option Slot
  | .called callback true => callback.slot L
  | _ => none

def refund : Trace → Option FeeMetadata
  | .refunded metadata => some metadata
  | _ => none

def payment : Trace → Nat
  | .collected amount => amount.toNat
  | _ => 0

/-- What a log entry adds to the fee tokens of the host. -/
def flow (self : H160) : Trace → Int
  | .collected amount => amount.toNat
  | .refunded metadata => if metadata.sender = self then 0 else -metadata.fee.toNat
  | _ => 0

end Trace

def settlements (L : Libraries) : List Trace → List (Slot × Option FeeMetadata)
  | [] => []
  | t :: trace => match t.timedOut L with
    | some slot => (slot, trace.head?.bind Trace.refund) :: settlements L trace
    | none => settlements L trace

/-- The fee tokens of the host after this log. -/
def balance (self : H160) (tokens : Nat) (trace : List Trace) : Int := tokens + (trace.map (Trace.flow self)).sum

def opening : Act Slot FeeMetadata → Option (Slot × U256)
  | .opens slot metadata => some (slot, metadata.fee)
  | _ => none

def settling : Act Slot FeeMetadata → Option (Slot × Option FeeMetadata)
  | .pays slot metadata => some (slot, if metadata.fee = 0 then none else some metadata)
  | _ => none

structure Reports (L : Libraries) (spare : Int) (acts : List (Act Slot FeeMetadata)) (added : List Trace) : Prop where
  openings : acts.filterMap opening = added.filterMap (Trace.dispatched L)
  settled : acts.filterMap settling = settlements L added
  refunds : added.filterMap Trace.refund = (settlements L added).filterMap Prod.snd
  head : added.head?.bind Trace.refund = none
  funds : ((acts.map money.gain).sum : Int) + spare ≤ (added.map Trace.payment).sum

variable {L : Libraries} {b : Block}

theorem settlements_append {trace added : List Trace} (hhead : added.head?.bind Trace.refund = none) :
    settlements L (trace ++ added) = settlements L trace ++ settlements L added := by
  induction trace with
  | nil => rfl
  | cons t trace ih =>
    have hnext : (trace ++ added).head?.bind Trace.refund = trace.head?.bind Trace.refund := by
      cases trace with
      | nil => exact hhead
      | cons _ _ => rfl
    rw [List.cons_append, settlements, settlements, ih, hnext]
    cases t.timedOut L <;> rfl

theorem Reports.append {spare spare' : Int} {acts acts' : List (Act Slot FeeMetadata)} {added added' : List Trace}
    (h : Reports L spare acts added) (h' : Reports L spare' acts' added') :
    Reports L (spare + spare') (acts ++ acts') (added ++ added') where
  openings := by rw [List.filterMap_append, List.filterMap_append, h.openings, h'.openings]
  settled := by rw [List.filterMap_append, settlements_append h'.head, h.settled, h'.settled]
  refunds := by
    rw [List.filterMap_append, settlements_append h'.head, List.filterMap_append, h.refunds, h'.refunds]
  head := by
    cases added with
    | nil => exact h'.head
    | cons _ _ => exact h.head
  funds := by
    have hfunds := h.funds
    have hfunds' := h'.funds
    rw [List.map_append, List.sum_append, List.map_append, List.sum_append, Nat.cast_add, Nat.cast_add]
    omega

theorem Reports.nil : Reports L 0 [] [] := ⟨rfl, rfl, rfl, rfl, le_rfl⟩

def Moves (L : Libraries) (spare : Int) (pending pending' : Multiset (Slot × FeeMetadata)) (w w' : World) : Prop :=
  ∃ acts added, w'.trace = w.trace ++ added ∧ Reports L spare acts added ∧
    Run escrow acts ⟨book w.host, pending⟩ ⟨book w'.host, pending'⟩

variable {spare spare' : Int} {pending pending' pending'' : Multiset (Slot × FeeMetadata)} {w w' w'' : World}

namespace Moves

theorem trans (h : Moves L spare pending pending' w w') (h' : Moves L spare' pending' pending'' w' w'') :
    Moves L (spare + spare') pending pending'' w w'' := by
  obtain ⟨acts, added, htrace, hreports, hrun⟩ := h
  obtain ⟨acts', added', htrace', hreports', hrun'⟩ := h'
  refine ⟨acts ++ acts', added ++ added', ?_, hreports.append hreports', hrun.append hrun'⟩
  rw [htrace', htrace, List.append_assoc]

theorem weaken (h : Moves L spare pending pending' w w') (hspare : spare' ≤ spare) :
    Moves L spare' pending pending' w w' := by
  obtain ⟨acts, added, htrace, hreports, hrun⟩ := h
  refine ⟨acts, added, htrace, { hreports with funds := ?_ }, hrun⟩
  have := hreports.funds
  omega

theorem act {a : Act Slot FeeMetadata} {added : List Trace} (htrace : w'.trace = w.trace ++ added)
    (hreports : Reports L spare [a] added)
    (hstep : Escrow.Step escrow a ⟨book w.host, pending⟩ ⟨book w'.host, pending'⟩) :
    Moves L spare pending pending' w w' :=
  ⟨[a], added, htrace, hreports, .single hstep⟩

theorem beside {h : Host} (hbook : book h = book w.host) : Moves L 0 pending pending w ⟨h, w.trace⟩ := by
  refine ⟨[], [], (List.append_nil _).symm, .nil, ?_⟩
  rw [hbook]
  exact .nil _

theorem note {t : Trace} (hdispatched : t.dispatched L = none) (htimedOut : t.timedOut L = none)
    (hrefund : t.refund = none) : Moves L t.payment pending pending w ⟨w.host, w.trace ++ [t]⟩ := by
  refine ⟨[], [t], rfl, ⟨?_, ?_, ?_, hrefund, by simp⟩, .nil _⟩
  · simp [hdispatched]
  · simp [settlements, htimedOut]
  · simp [settlements, htimedOut, hrefund]

section Acts

variable {slot : Slot} {metadata : FeeMetadata} {h : Host}

theorem opens {event : Event} (hevent : event.slot L = some (slot, metadata.fee))
    (hbook : book h = Function.update (book w.host) slot metadata) :
    Moves L (-metadata.fee.toNat) pending pending w ⟨h, w.trace ++ [.emitted event]⟩ := by
  refine act (a := .opens slot metadata) rfl ⟨?_, rfl, rfl, rfl, ?_⟩ ?_
  · simp [opening, Trace.dispatched, hevent]
  · simp [money, Trace.payment]
  · rw [hbook]
    exact .opens slot metadata _ _

theorem raises (hlive : escrow.live (book w.host slot)) (hgrows : escrow.grows (book w.host slot) metadata)
    (hbook : book h = Function.update (book w.host) slot metadata) :
    Moves L (-(metadata.fee.toNat - (book w.host slot).fee.toNat)) pending pending w ⟨h, w.trace⟩ := by
  refine act (a := .raises slot (book w.host slot) metadata) (List.append_nil _).symm ⟨rfl, rfl, rfl, rfl, ?_⟩ ?_
  · have := hgrows.2
    simp only [List.map_cons, List.map_nil, List.sum_cons, List.sum_nil, money]
    omega
  · rw [hbook]
    exact .raises _ rfl hlive hgrows

theorem lifts (hmetadata : book w.host slot = metadata) (hlive : escrow.live metadata)
    (hbook : book h = Function.update (book w.host) slot .none) :
    Moves L 0 pending ((slot, metadata) ::ₘ pending) w ⟨h, w.trace⟩ := by
  refine act (a := .lifts slot metadata) (List.append_nil _).symm ⟨rfl, rfl, rfl, rfl, le_rfl⟩ ?_
  rw [hbook]
  exact .lifts _ hmetadata hlive

theorem returns (hbook : book h = Function.update (book w.host) slot metadata) :
    Moves L 0 ((slot, metadata) ::ₘ pending) pending w ⟨h, w.trace⟩ := by
  refine act (a := .returns slot metadata) (List.append_nil _).symm ⟨rfl, rfl, rfl, rfl, le_rfl⟩ ?_
  rw [hbook]
  exact .returns slot metadata _ _

theorem pays {callback : Callback} (hcallback : callback.slot L = some slot) (hlive : escrow.live metadata) :
    Moves L 0 ((slot, metadata) ::ₘ pending) pending w ⟨w.host, w.trace ++
      (.called callback true :: if metadata.fee = 0 then [] else [.refunded metadata])⟩ := by
  refine act (a := .pays slot metadata) rfl ?_ (.pays _ _ hlive)
  have htimedOut : (Trace.called callback true).timedOut L = some slot := hcallback
  by_cases hfee : metadata.fee = 0
  · have hsettled : settlements L [.called callback true] = [(slot, none)] := by
      simp [settlements, htimedOut]
    have hpays : settling (.pays slot metadata) = some (slot, none) := by rw [settling, if_pos hfee]
    rw [if_pos hfee]
    refine ⟨rfl, ?_, ?_, rfl, le_rfl⟩
    · rw [hsettled, List.filterMap_cons_some hpays, List.filterMap_nil]
    · rw [hsettled]
      rfl
  · have hsettled : settlements L [.called callback true, .refunded metadata] = [(slot, some metadata)] := by
      simp [settlements, hcallback, Trace.timedOut, Trace.refund]
    have hpays : settling (.pays slot metadata) = some (slot, some metadata) := by rw [settling, if_neg hfee]
    rw [if_neg hfee]
    refine ⟨rfl, ?_, ?_, rfl, le_rfl⟩
    · rw [hsettled, List.filterMap_cons_some hpays, List.filterMap_nil]
    · rw [hsettled]
      rfl

end Acts

end Moves

def Refines (L : Libraries) (w w' : World) : Prop := ∀ pending, Moves L 0 pending pending w w'

instance : IsPreorder World (Refines L) where
  refl _ _ := Moves.beside rfl
  trans _ _ _ h h' pending := (h pending).trans (h' pending)

/-- A payment was taken and is not recorded yet. -/
def Paid (L : Libraries) (amount : U256) (w w' : World) : Prop :=
  ∀ pending, Moves L amount.toNat pending pending w w'

variable {amount : U256}

theorem Paid.refines (h : Paid L amount w w') : Refines L w w' :=
  fun pending => (h pending).weaken (Int.natCast_nonneg _)

theorem refines_writes {f : Host → Host} (hf : ∀ h, book (f h) = book h) : Keeps (Refines L) (writes f) :=
  keeps_writes fun w _ => Moves.beside (hf w.host)

theorem refines_note {t : Trace} (hdispatched : t.dispatched L = none) (htimedOut : t.timedOut L = none)
    (hrefund : t.refund = none) : Keeps (Refines L) (note t) :=
  keeps_note fun _ _ => (Moves.note hdispatched htimedOut hrefund).weaken (Int.natCast_nonneg _)

variable {event : Event}

theorem refines_emit (hevent : event.slot L = none) : Keeps (Refines L) (emit event) :=
  refines_note hevent rfl rfl

theorem refines_called {callback : Callback} {success : Bool} (hcallback : success = true → callback.slot L = none) :
    Keeps (Refines L) (note (.called callback success)) := by
  refine refines_note rfl ?_ rfl
  cases success with
  | true => exact hcallback rfl
  | false => rfl

theorem refines_deliver {callback : Callback} {receipted : Host → Bool} {mark unmark : Host → Host}
    {m : Module} (hcallback : callback.slot L = none) (hevent : event.slot L = none)
    (hmark : ∀ h, book (mark h) = book h) (hunmark : ∀ h, book (unmark h) = book h) (hm : m.Keeps (Refines L)) :
    Keeps (Refines L) (deliver callback receipted mark unmark event m) :=
  keeps_deliver (fun _ => refines_note rfl rfl rfl) (refines_writes hmark) hm
    (fun _ => refines_called fun _ => hcallback)
    (refines_emit hevent) (refines_writes hunmark)

theorem refines_handleConsensus (proof : Bytes) : Keeps (Refines L) (handleConsensus b proof) :=
  keeps_handleConsensus (fun _ hf => refines_writes fun h => by rw [book, book, (hf h).2.2.1, (hf h).2.2.2])
    (fun _ _ => refines_emit rfl) proof

variable {α β : Type} {P : World → Prop}

theorem checks_bind_world {f : Host → Call α} {g : α → Code β} (hw : P w)
    (hg : ∀ a, f w.host = .ok a → P ((g a).run w).2) : P ((checks f >>= g).run w).2 := by
  rw [bind_run, checks, query_run]
  cases hf : f w.host with
  | error e => exact hw
  | ok a => exact hg a hf

theorem ofExcept_bind_world {x : Call α} {g : α → Code β} (hw : P w)
    (hg : ∀ a, P ((g a).run w).2) : P ((ofExcept x >>= g).run w).2 := by
  cases x with
  | error e => exact hw
  | ok a => exact hg a

theorem mustCall_bind_world {m : Module} {x : Code β} (hw : P (m.call w).1)
    (hx : P (x.run (m.call w).1).2) : P ((mustCall m >>= fun _ => x).run w).2 := by
  have hrun : (mustCall m >>= fun _ => x).run w =
      (throwIf (!(m.call w).2) (.require "") >>= fun _ => x).run (m.call w).1 := rfl
  rw [hrun]
  cases (m.call w).2 with
  | true => exact hx
  | false => exact hw

theorem refines_collectFee {fee : U256} {payment : Module} {x : Code α} (hp : payment.Keeps (Refines L))
    (hx : ∀ w', Paid L fee w w' → Refines L w (x.run w').2) :
    Refines L w ((collectFee fee payment >>= fun _ => x).run w).2 := by
  have hcollect : Paid L fee w ⟨w.host, w.trace ++ [.collected fee]⟩ := fun _ => Moves.note rfl rfl rfl
  have hpaid : Paid L fee w (payment.call ⟨w.host, w.trace ++ [.collected fee]⟩).1 := by
    intro pending
    simpa using (hcollect pending).trans (hp _ pending)
  have hrun : (collectFee fee payment >>= fun _ => x).run w =
      (mustCall payment >>= fun _ => x).run ⟨w.host, w.trace ++ [.collected fee]⟩ := rfl
  rw [hrun]
  exact mustCall_bind_world hpaid.refines (hx _ hpaid)

variable {h : Host}

theorem Paid.opens {slot : Slot} (hpaid : Paid L amount w w')
    (metadata : FeeMetadata) (hamount : metadata.fee.toNat ≤ amount.toNat)
    (hevent : event.slot L = some (slot, metadata.fee))
    (hbook : book h = Function.update (book w'.host) slot metadata) :
    Refines L w ⟨h, w'.trace ++ [.emitted event]⟩ := by
  intro pending
  refine ((hpaid pending).trans (Moves.opens hevent hbook)).weaken ?_
  omega

theorem messageFee_ok {dest : Bytes} {length : Nat} {relayerFee fee : U256}
    (hfee : messageFee L dest length relayerFee h = .ok fee) : relayerFee.toNat ≤ fee.toNat := by
  obtain ⟨charge, -, hadd⟩ := except_bind_ok.mp hfee
  rw [U256.add_ok.mp hadd]
  exact Nat.le_add_left _ _

variable {caller : H160} {payment : Module} (hp : payment.Keeps (Refines L))

include hp

theorem refines_dispatchPost {post : DispatchPost} : Keeps (Refines L) (dispatchPost L b caller post payment) := by
  intro w _
  refine checks_bind_world (refl_of _ w) fun _ _ => checks_bind_world (refl_of _ w) fun fee hfee => ?_
  refine refines_collectFee hp fun w' hpaid => checks_bind_world hpaid.refines fun lapse _ => ?_
  exact hpaid.opens ⟨post.payer, post.fee⟩ (messageFee_ok hfee) rfl (book_setRequestCommitment _ _ _)

theorem refines_dispatchGet {get : DispatchGet} : Keeps (Refines L) (dispatchGet L b caller get payment) := by
  intro w _
  refine checks_bind_world (refl_of _ w) fun _ _ => checks_bind_world (refl_of _ w) fun fee _ => ?_
  refine refines_collectFee hp fun w' hpaid => checks_bind_world hpaid.refines fun lapse _ => ?_
  exact hpaid.opens ⟨caller, fee⟩ le_rfl rfl (book_setRequestCommitment _ _ _)

theorem refines_dispatchPostResponse {post : DispatchPostResponse} :
    Keeps (Refines L) (dispatchPostResponse L b caller post payment) := by
  intro w _
  refine checks_bind_world (refl_of _ w) fun _ _ => checks_bind_world (refl_of _ w) fun _ _ => ?_
  refine checks_bind_world (refl_of _ w) fun fee hfee => ?_
  refine refines_collectFee hp fun w' hpaid => checks_bind_world hpaid.refines fun lapse _ => ?_
  refine hpaid.opens ⟨post.payer, post.fee⟩ (messageFee_ok hfee) rfl ?_
  exact (book_setResponded _ _ _).trans (book_setResponseCommitment _ _ _)

omit hp in
theorem Paid.raises {metadata : FeeMetadata} {unknown : Revert}
    (hpaid : Paid L amount w w') (slot : Slot) (hfunded : funded (book w'.host slot) amount unknown = .ok metadata)
    (hevent : event.slot L = none) (hbook : book h = Function.update (book w'.host) slot metadata) :
    Refines L w ⟨h, w'.trace ++ [.emitted event]⟩ := by
  rw [funded, except_check_ok, revertIf_ok] at hfunded
  obtain ⟨hlive, hfunded⟩ := hfunded
  obtain ⟨fee, hadd, hmetadata⟩ := except_bind_ok.mp hfunded
  have hfee := U256.add_ok.mp hadd
  cases hmetadata
  intro pending
  have hgrows : escrow.grows (book w'.host slot) { book w'.host slot with fee := fee } :=
    ⟨rfl, by simp only [hfee]; omega⟩
  have hraises : Moves L _ pending pending w' ⟨h, w'.trace⟩ := Moves.raises hlive hgrows hbook
  have hemitted : Moves L 0 pending pending ⟨h, w'.trace⟩ ⟨h, w'.trace ++ [.emitted event]⟩ :=
    Moves.note (t := .emitted event) hevent rfl rfl
  refine (((hpaid pending).trans hraises).trans hemitted).weaken ?_
  simp only
  omega

theorem refines_fundRequest {commitment : H256} : Keeps (Refines L) (fundRequest commitment amount payment) := by
  intro w _
  refine refines_collectFee hp fun w' hpaid => checks_bind_world hpaid.refines fun metadata hfunded => ?_
  exact hpaid.raises (.inl commitment) hfunded rfl (book_setRequestCommitment _ _ _)

theorem refines_fundResponse {commitment : H256} : Keeps (Refines L) (fundResponse commitment amount payment) := by
  intro w _
  refine refines_collectFee hp fun w' hpaid => checks_bind_world hpaid.refines fun metadata hfunded => ?_
  exact hpaid.raises (.inr commitment) hfunded rfl (book_setResponseCommitment _ _ _)

omit hp

section TimeOut

variable {m refund : Module} (hm : m.Keeps (Refines L)) (hrefund : refund.Keeps (Refines L)) {callback : Callback}
  {slot : Slot} {metadata : FeeMetadata} {event : Event} {remove restore : Host → Host}

include hrefund

theorem refines_settleTimeOut (hevent : event.slot L = none) {h : Host} {trace : List Trace} (hpaid : Refines L w
      ⟨h, trace ++ (.called callback true :: if metadata.fee = 0 then [] else [.refunded metadata])⟩) :
    Refines L w ((settleTimeOut restore metadata event refund true).run ⟨h, trace ++ [.called callback true]⟩).2 := by
  have hemit (w : World) : Refines L w ((emit event).run w).2 := refines_emit hevent w rfl
  by_cases hfee : metadata.fee = 0
  · have hsettle : settleTimeOut restore metadata event refund true = emit event := by simp [settleTimeOut, hfee]
    rw [if_pos hfee] at hpaid
    rw [hsettle]
    exact trans_of _ hpaid (hemit _)
  · have hsettle : settleTimeOut restore metadata event refund true =
        (note (.refunded metadata) >>= fun _ => mustCall refund >>= fun _ => emit event) := if_pos hfee
    rw [if_neg hfee] at hpaid
    have hrefunded := trans_of _ hpaid (hrefund _)
    rw [hsettle, note, modify_bind_run, List.append_assoc]
    exact mustCall_bind_world hrefunded (trans_of _ hrefunded (hemit _))

include hm

theorem refines_timeOut (hcallback : callback.slot L = some slot) (hevent : event.slot L = none)
    (hmetadata : book w.host slot = metadata) (hlive : escrow.live metadata)
    (hremove : ∀ h, book (remove h) = Function.update (book h) slot .none)
    (hrestore : ∀ h, book (restore h) = Function.update (book h) slot metadata) :
    Refines L w ((timeOut callback remove restore metadata event m refund).run w).2 := by
  let w₁ : World := (m.call ⟨remove w.host, w.trace⟩).1
  have hrun : (timeOut callback remove restore metadata event m refund).run w =
      (do note (.called callback (m.call ⟨remove w.host, w.trace⟩).2)
          settleTimeOut restore metadata event refund (m.call ⟨remove w.host, w.trace⟩).2 : Code Unit).run w₁ := rfl
  have hlifted (pending : Multiset (Slot × FeeMetadata)) : Moves L 0 pending ((slot, metadata) ::ₘ pending) w w₁ :=
    (Moves.lifts hmetadata hlive (hremove w.host)).trans (hm _ _)
  rw [hrun]
  cases (m.call ⟨remove w.host, w.trace⟩).2 with
  | false =>
    intro pending
    have hcalled : Moves L 0 ((slot, metadata) ::ₘ pending) ((slot, metadata) ::ₘ pending) w₁
        ⟨w₁.host, w₁.trace ++ [.called callback false]⟩ := Moves.note (t := .called callback false) rfl rfl rfl
    exact ((hlifted pending).trans hcalled).trans (Moves.returns (hrestore w₁.host))
  | true =>
    refine refines_settleTimeOut hrefund hevent fun pending => ?_
    exact (hlifted pending).trans (Moves.pays hcallback hlive)

variable {state : StateCommitment} {proof : List Bytes} {i : Nat}

omit hm hrefund in
theorem refines_checkTimeout {timeoutTimestamp : UInt64} {storage : Bytes} {commitment : H256}
    {sent : Host → H256 → FeeMetadata} {x : FeeMetadata → Code Unit} (slot : Slot)
    (hsent : ∀ h, book h slot = sent h commitment)
    (hx : ∀ w metadata, book w.host slot = metadata → escrow.live metadata → Refines L w ((x metadata).run w).2) :
    Keeps (Refines L) (checks (checkTimeout L state proof i timeoutTimestamp storage commitment sent) >>=
      fun metadata => note (.timingOut callback state) >>= fun _ => x metadata) := by
  intro w _
  refine checks_bind_world (refl_of _ w) fun metadata hcheck => ?_
  obtain ⟨hmetadata, hlive⟩ := checkTimeout_metadata hcheck
  have hnoted : Refines L w ⟨w.host, w.trace ++ [.timingOut callback state]⟩ := fun _ =>
    Moves.note (t := .timingOut callback state) rfl rfl rfl
  exact trans_of _ hnoted (hx _ metadata ((hsent w.host).trans hmetadata.symm) hlive)

theorem refines_timeOutPost {request : PostRequest} :
    Keeps (Refines L) (timeOutPost L state proof i request m refund) := by
  refine refines_checkTimeout (.inl (L.hashPost request)) (fun _ => rfl) fun w metadata hmetadata hlive => ?_
  refine ofExcept_bind_world (refl_of _ w) fun _ => ?_
  exact refines_timeOut hm hrefund rfl rfl hmetadata hlive (book_setRequestCommitment _ _)
    (book_setRequestCommitment _ _)

theorem refines_timeOutGet {request : GetRequest} :
    Keeps (Refines L) (timeOutGet L state proof i request m refund) := by
  refine refines_checkTimeout (.inl (L.hashGet request)) (fun _ => rfl) fun w metadata hmetadata hlive => ?_
  exact refines_timeOut hm hrefund rfl rfl hmetadata hlive (book_setRequestCommitment _ _)
    (book_setRequestCommitment _ _)

theorem refines_timeOutResponse {response : PostResponse} :
    Keeps (Refines L) (timeOutResponse L state proof i response m refund) := by
  refine refines_checkTimeout (.inr (L.hashPostResponse response)) (fun _ => rfl) fun w metadata hmetadata hlive => ?_
  refine ofExcept_bind_world (refl_of _ w) fun _ => ?_
  refine refines_timeOut hm hrefund rfl rfl hmetadata hlive (fun h => ?_) fun h => ?_
  · exact (book_setResponded _ _ _).trans (book_setResponseCommitment _ _ _)
  · exact (book_setResponded _ _ _).trans (book_setResponseCommitment _ _ _)

end TimeOut

theorem refines_entries (L : Libraries) (b : Block) : EntriesKeep L b (Refines L) := by
  intro entry caller ms transfers hms htransfers
  cases entry with
  | handleConsensus proof => exact refines_handleConsensus proof
  | handlePostRequests message =>
    refine keeps_handlePostRequests hms message fun request m hm => (Keeps.ofExcept _).bind fun _ => ?_
    split
    · exact refines_deliver rfl rfl (fun _ => rfl) (fun _ => rfl) hm
    · exact Keeps.pure ()
  | handlePostResponses message =>
    refine keeps_handlePostResponses hms message fun leaf _ m hm => (Keeps.ofExcept _).bind fun _ => ?_
    exact refines_deliver rfl rfl (fun _ => rfl) (fun _ => rfl) hm
  | handleGetResponses message =>
    exact keeps_handleGetResponses hms message fun response m hm =>
      refines_deliver rfl rfl (fun _ => rfl) (fun _ => rfl) hm
  | handlePostRequestTimeouts message =>
    exact keeps_handleTimeouts hms htransfers message fun _ _ _ _ _ _ hm hrefund => refines_timeOutPost hm hrefund
  | handlePostResponseTimeouts message =>
    exact keeps_handleTimeouts hms htransfers message fun _ _ _ _ _ _ hm hrefund => refines_timeOutResponse hm hrefund
  | handleGetRequestTimeouts message =>
    exact keeps_handleTimeouts hms htransfers message fun _ _ _ _ _ _ hm hrefund => refines_timeOutGet hm hrefund
  | dispatchPost post => exact Neutral.keeps_paying htransfers fun _ hp => refines_dispatchPost hp
  | dispatchGet get => exact Neutral.keeps_paying htransfers fun _ hp => refines_dispatchGet hp
  | dispatchPostResponse post => exact Neutral.keeps_paying htransfers fun _ hp => refines_dispatchPostResponse hp
  | fundRequest commitment amount => exact Neutral.keeps_paying htransfers fun _ hp => refines_fundRequest hp
  | fundResponse commitment amount => exact Neutral.keeps_paying htransfers fun _ hp => refines_fundResponse hp
  | setFrozenState status =>
    refine (keeps_checks _).bind fun _ => Keeps.bind (refines_writes fun _ => rfl) fun _ => ?_
    exact refines_emit rfl

theorem le_sum_flow (self : H160) (trace : List Trace) :
    ((trace.map Trace.payment).sum : Int) - ((trace.filterMap Trace.refund).map (·.fee.toNat)).sum ≤
      (trace.map (Trace.flow self)).sum := by
  rw [sum_map_filterMap]
  induction trace with
  | nil => simp
  | cons t trace ih =>
    have hone : (t.payment : Int) - (t.refund.elim 0 (·.fee.toNat) : Nat) ≤ t.flow self := by
      cases t with
      | refunded metadata =>
        simp only [Trace.payment, Trace.refund, Trace.flow, Option.elim_some]
        split <;> omega
      | collected _ | delivering _ _ | timingOut _ _ | called _ _ | emitted _ =>
        simp [Trace.payment, Trace.refund, Trace.flow]
    simp only [List.map_cons, List.sum_cons, Nat.cast_add]
    omega

theorem sum_settling (acts : List (Act Slot FeeMetadata)) :
    (((acts.filterMap settling).filterMap Prod.snd).map (·.fee.toNat)).sum = (acts.map money.paid).sum := by
  have hone (a : Act Slot FeeMetadata) : ((settling a).bind Prod.snd).elim 0 (·.fee.toNat) = money.paid a := by
    cases a with
    | pays slot metadata =>
      by_cases hfee : metadata.fee = 0
      · simp [settling, hfee, money]
      · simp only [settling, if_neg hfee]
        rfl
    | opens _ _ | raises _ _ _ | lifts _ _ | returns _ _ => rfl
  rw [List.filterMap_filterMap, sum_map_filterMap]
  exact congrArg List.sum (List.map_congr_left fun a _ => hone a)

/-- A run keeps the fees covered. -/
theorem Refines.backed (h : Refines L w w') (self : H160) (tokens : Nat) :
    fees w'.host - balance self tokens w'.trace ≤ fees w.host - balance self tokens w.trace := by
  obtain ⟨acts, added, htrace, hreports, hrun⟩ := h 0
  have hgauge := hrun.gauge money
  have hflow := le_sum_flow self added
  have hfunds := hreports.funds
  rw [hreports.refunds, ← hreports.settled, sum_settling] at hflow
  simp only [Gauge.content, total_book, Multiset.map_zero, Multiset.sum_zero] at hgauge
  rw [balance, balance, htrace, List.map_append, List.sum_append]
  omega

/-- A host that has sent nothing yet. -/
structure Deployment where
  host : Host
  requests : ∀ commitment, host.requestCommitments commitment = .none
  responses : ∀ commitment, host.responseCommitments commitment = .none

namespace Deployment

def after (D : Deployment) (L : Libraries) (steps : List (Block × Transaction)) : World :=
  runChain L steps ⟨D.host, []⟩

variable (D : Deployment)

theorem book_eq : book D.host = fun _ => escrow.blank := by
  funext slot
  cases slot with
  | inl commitment => exact D.requests commitment
  | inr commitment => exact D.responses commitment

theorem fees_eq_zero : fees D.host = 0 := by
  rw [← total_book, book_eq]
  exact total_eq_zero fun slot => money.blank slot

theorem refines_after (L : Libraries) (steps : List (Block × Transaction)) : Refines L ⟨D.host, []⟩ (D.after L steps) :=
  runChain_keeps (refines_entries L) steps _

/-- After every run the fee tokens of the host cover the recorded fees, and the run was one of an escrow that started
empty: it opened what the log says was dispatched, and paid exactly at the timeout callbacks that succeeded, each time
the entry recorded for the message, to its sender. No other refund is made, and none of a message more often than it was
dispatched. -/
theorem fees_backed_and_refunded_once (L : Libraries) (steps : List (Block × Transaction)) (self : H160)
    (tokens : Nat) :
    fees (D.after L steps).host ≤ balance self tokens (D.after L steps).trace ∧
    (∃ acts, Run escrow acts ⟨fun _ => .none, 0⟩ ⟨book (D.after L steps).host, 0⟩ ∧
      acts.filterMap opening = (D.after L steps).trace.filterMap (Trace.dispatched L) ∧
      acts.filterMap settling = settlements L (D.after L steps).trace) ∧
    (D.after L steps).trace.filterMap Trace.refund = (settlements L (D.after L steps).trace).filterMap Prod.snd ∧
    ∀ slot, (settlements L (D.after L steps).trace).countP (·.1 = slot) ≤
      ((D.after L steps).trace.filterMap (Trace.dispatched L)).countP (·.1 = slot) := by
  have hrefines := D.refines_after L steps
  obtain ⟨acts, added, htrace, hreports, hrun⟩ := hrefines 0
  rw [D.book_eq] at hrun
  rw [List.nil_append] at htrace
  subst htrace
  refine ⟨?_, ⟨acts, hrun, hreports.openings, hreports.settled⟩, hreports.refunds, fun slot => ?_⟩
  · have hbacked := hrefines.backed self tokens
    rw [D.fees_eq_zero] at hbacked
    simp only [balance, List.map_nil, List.sum_nil] at hbacked ⊢
    omega
  · have hopened : acts.countP (fun a => a.openedAt = some slot) = (acts.filterMap opening).countP (·.1 = slot) := by
      rw [List.countP_filterMap]
      exact List.countP_congr fun a _ => by cases a <;> simp [Act.openedAt, opening]
    have hpaid : acts.countP (fun a => a.paidAt = some slot) = (acts.filterMap settling).countP (·.1 = slot) := by
      rw [List.countP_filterMap]
      exact List.countP_congr fun a _ => by cases a <;> simp [Act.paidAt, settling]
    rw [← hreports.settled, ← hreports.openings, ← hpaid, ← hopened]
    exact hrun.paid_le_opened not_live_blank live_of_grows slot

end Deployment

theorem requestCommitments_sampleHost (root commitment : H256) :
    (sampleHost root).requestCommitments commitment = .none :=
  rfl

theorem responseCommitments_sampleHost (root commitment : H256) :
    (sampleHost root).responseCommitments commitment = .none :=
  rfl

def sampleDeployment : Deployment :=
  ⟨sampleHost sampleRequestHash, requestCommitments_sampleHost _, responseCommitments_sampleHost _⟩

/-- No message has arrived on the other chain. -/
def absentLibraries : Libraries :=
  { sampleLibraries (fun _ => sampleRequestHash) (fun _ => BytesN.zero 32) fun _ _ => BytesN.zero 32 with
    verifySubstrateProof := fun _ _ keys => .ok (keys.map fun key => ⟨key, []⟩) }

def fundedRequest : PostRequest :=
  ⟨sampleChain, otherChain, 0, sampleRelayer.address.bytes, List.replicate 20 0x22, 1500, []⟩

def timeOutFunded (calls transfers : List Reaction) : Transaction :=
  .mk sampleRelayer (.handlePostRequestTimeouts ⟨[fundedRequest], sampleHeight, []⟩) calls transfers

def fundedSteps : List (Block × Transaction) :=
  [.mk sampleRelayer (.dispatchPost ⟨otherChain, List.replicate 20 0x22, [], 500, 5, BytesN.ofNat 20 3⟩) []
      [.reacts [] true],
    .mk sampleRelayer (.fundRequest sampleRequestHash 3) [] [.reacts [] true],
    timeOutFunded [.reacts [] false] [],
    timeOutFunded [.reacts [timeOutFunded [.reacts [] true] [.reacts [] true]] true] [.reacts [] true]].map
    fun transaction => (sampleBlock, transaction)

theorem fees_backed_and_refunded_once_sample :
    let w := sampleDeployment.after absentLibraries fundedSteps
    w.trace.filterMap (Trace.dispatched absentLibraries) = [(.inl sampleRequestHash, 5)] ∧
      .called (.onPostRequestTimeout fundedRequest) false ∈ w.trace ∧
      settlements absentLibraries w.trace = [(.inl sampleRequestHash, some ⟨BytesN.ofNat 20 3, 8⟩)] ∧
      fees w.host = 0 := by
  intro w
  obtain ⟨hbacked, -⟩ :=
    sampleDeployment.fees_backed_and_refunded_once absentLibraries fundedSteps (BytesN.ofNat 20 9) 0
  have hbalance : balance (BytesN.ofNat 20 9) 0 w.trace = 0 := by decide +kernel
  refine ⟨by decide +kernel, by decide +kernel, by decide +kernel, ?_⟩
  have hle : (fees w.host : Int) ≤ 0 := hbalance ▸ hbacked
  omega

end Hyperbridge.Evm
