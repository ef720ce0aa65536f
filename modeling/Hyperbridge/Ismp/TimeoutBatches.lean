import Hyperbridge.Ismp.Refunds

/-!
# Timeouts whose callback fails

A timeout takes the entries of its message out of the storage, makes the callback, and puts them back when it fails. All
kinds are `Tables.take` and `Tables.putBack` on the maps of their kind (`timeOut_ok`), under the commitment of the
message and that of its request. So a batch leaves the entries of a failed message as they were if no other message of
the batch has one of its keys.
-/

namespace Hyperbridge.Ismp

open Lib Lib.Exec

structure Entries where
  commitment : Option RequestMetadata
  relayer : Option Bytes
  responded : Bool
  deriving DecidableEq

/-- The maps of one kind of message. -/
structure Tables where
  commitments : H256 → Option RequestMetadata
  relayers : H256 → Option Bytes
  responded : H256 → Bool

structure Slot where
  commitment : H256
  request : H256
  receipt : Bool
  answer : Bool

def Slot.Apart (k l : Slot) : Prop := k.commitment ≠ l.commitment ∧ k.request ≠ l.request

theorem Slot.Apart.symm {k l : Slot} (h : k.Apart l) : l.Apart k := ⟨h.1.symm, h.2.symm⟩

namespace Tables

variable {s s' : Tables} {k l : Slot}

def entries (s : Tables) (k : Slot) : Entries :=
  ⟨s.commitments k.commitment, s.relayers k.request, s.responded k.request⟩

/-- The entries are deleted. -/
def take (s : Tables) (k : Slot) : Tables where
  commitments := Function.update s.commitments k.commitment none
  relayers := if k.receipt then Function.update s.relayers k.request none else s.relayers
  responded := if k.answer then Function.update s.responded k.request false else s.responded

/-- The entries that were found are written again. -/
def putBack (s : Tables) (k : Slot) (e : Entries) : Tables where
  commitments := Function.update s.commitments k.commitment e.commitment
  relayers := if k.receipt && e.relayer.isSome then Function.update s.relayers k.request e.relayer else s.relayers
  responded := if k.answer then Function.update s.responded k.request true else s.responded

/-- Entries come back if the callback failed. -/
def settle (s : Tables) (k : Slot) (e : Entries) (ok : Bool) : Tables := if ok then s else s.putBack k e

theorem ite_update_of_ne {α : Type} {f : H256 → α} {c : Prop} [Decidable c] {key key' : H256} (h : key ≠ key') (v : α) :
    (if c then Function.update f key v else f) key' = f key' := by
  split
  · exact Function.update_of_ne h.symm ..
  · rfl

theorem entries_take (h : k.Apart l) : (s.take k).entries l = s.entries l := by
  simp only [entries, take, Function.update_of_ne h.1.symm, ite_update_of_ne h.2]

theorem entries_putBack (h : k.Apart l) (e : Entries) : (s.putBack k e).entries l = s.entries l := by
  simp only [entries, putBack, Function.update_of_ne h.1.symm, ite_update_of_ne h.2]

theorem entries_settle (h : k.Apart l) (e : Entries) (ok : Bool) : (s.settle k e ok).entries l = s.entries l := by
  unfold settle
  split
  · rfl
  · exact entries_putBack h e

/-- A turn whose callback does not touch the storage. -/
def turn (s : Tables) (k : Slot) (ok : Bool) : Tables := (s.take k).settle k (s.entries k) ok

/-- A failed turn restores the commitment. -/
theorem commitments_turn_false : (s.turn k false).commitments = s.commitments := by
  show Function.update (Function.update s.commitments k.commitment none) k.commitment (s.commitments k.commitment) = _
  rw [Function.update_idem, Function.update_eq_self]

theorem commitments_turn_true :
    (s.turn k true).commitments = Function.update s.commitments k.commitment none := rfl

theorem responded_turn_false :
    (s.turn k false).responded = if k.answer then Function.update s.responded k.request true else s.responded := by
  show (if k.answer then Function.update (s.take k).responded k.request true else (s.take k).responded) = _
  by_cases hanswer : k.answer = true
  · rw [if_pos hanswer, if_pos hanswer, take, if_pos hanswer, Function.update_idem]
  · rw [if_neg hanswer, if_neg hanswer, take, if_neg hanswer]

theorem responded_turn_true :
    (s.turn k true).responded = if k.answer then Function.update s.responded k.request false else s.responded := rfl

theorem commitment_take : ((s.take k).entries k).commitment = none := Function.update_self ..

theorem entries_putBack_self {e : Entries} (he : s.entries k = e) (hsame : s'.entries k = (s.take k).entries k)
    (hanswered : k.answer = true → e.responded = true) : (s'.putBack k e).entries k = e := by
  obtain ⟨commitment, relayer, responded⟩ := e
  simp only [entries, take, Entries.mk.injEq] at he hsame
  obtain ⟨-, hrelayerBefore, hrespondedBefore⟩ := he
  obtain ⟨-, hrelayer, hresponded⟩ := hsame
  simp only [entries, putBack, Entries.mk.injEq, Function.update_self, true_and]
  constructor
  · by_cases hreceipt : k.receipt = true
    · rw [if_pos hreceipt, Function.update_self] at hrelayer
      cases relayer with
      | none => rw [if_neg (by simp), hrelayer]
      | some relayer => rw [if_pos (by simp [hreceipt]), Function.update_self]
    · rw [if_neg hreceipt] at hrelayer
      rw [if_neg (by simp [hreceipt]), hrelayer, hrelayerBefore]
  · by_cases hanswer : k.answer = true
    · rw [if_pos hanswer, Function.update_self, ← hanswered hanswer]
    · rw [if_neg hanswer] at hresponded ⊢
      rw [hresponded, hrespondedBefore]

end Tables

variable {Other : Type} {T : Config Other}

namespace Timeout

def isResponse : Timeout → Bool
  | request _ => false
  | response _ => true

/-- The commitment of the message and that of its request. -/
def keys (T : Config Other) : Timeout → Option (H256 × H256)
  | request r => do
      let c ← hashRequest T.keccak256 r
      some (c, c)
  | response r => do
      let q ← hashRequest T.keccak256 r.request
      let c ← hashResponse T.keccak256 (.post r)
      some (c, q)

/-- Only routed messages have a receipt to take. -/
def takesReceipt (T : Config Other) (receipts : Bool) : Timeout → Bool
  | request r => receipts && isRouted T r.sourceChain
  | response p => isRouted T p.sourceChain

def slot (T : Config Other) (receipts : Bool) (t : Timeout) : Option Slot :=
  (t.keys T).map fun k => ⟨k.1, k.2, t.takesReceipt T receipts, t.isResponse⟩

def tables (h : Host Other) : Timeout → Tables
  | request _ => ⟨h.requestCommitments, h.requestReceipts, h.responded⟩
  | response _ => ⟨h.responseCommitments, fun q => (h.responseReceipts q).map (·.relayer), h.responded⟩

def entries (T : Config Other) (h : Host Other) (t : Timeout) : Option Entries :=
  (t.slot T true).map (t.tables h).entries

end Timeout

section Turn

variable {cb : IsmpModule Other} {t : Timeout} {r : Request} {p : PostResponse} {c q : H256}
  {v v' : World Other}

variable {receipts : Bool} {k : Slot}

theorem slot_request (hc : hashRequest T.keccak256 r = some c) :
    (Timeout.request r).slot T receipts = some ⟨c, c, receipts && isRouted T r.sourceChain, false⟩ := by
  rw [Timeout.slot, Timeout.keys, hc]
  rfl

theorem slot_response (hq : hashRequest T.keccak256 p.request = some q)
    (hc : hashResponse T.keccak256 (.post p) = some c) :
    (Timeout.response p).slot T receipts = some ⟨c, q, isRouted T p.sourceChain, true⟩ := by
  rw [Timeout.slot, Timeout.keys, hq, hc]
  rfl

theorem tables_underTimeout (v : World Other) (r : Request) (c : H256) (routed : Bool) :
    (Timeout.request r).tables (underTimeout v r c routed).host =
      ((Timeout.request r).tables v.host).take ⟨c, c, routed, false⟩ := rfl

theorem tables_underResponseTimeout (v : World Other) (p : PostResponse) (c q : H256) (routed : Bool) :
    (Timeout.response p).tables (underResponseTimeout v p c q routed).host =
      ((Timeout.response p).tables v.host).take ⟨c, q, routed, true⟩ := by
  simp only [Timeout.tables, Tables.take, underResponseTimeout, Tables.mk.injEq, true_and, if_true, and_true]
  cases routed with
  | false => rfl
  | true => exact Function.comp_update (Option.map ResponseReceipt.relayer) ..

theorem tables_restoredRequest (h : Host Other) (r : Request) (c : H256) (m : RequestMetadata) (routed answered : Bool)
    (receipt : Option Bytes) :
    (Timeout.request r).tables (restoredRequest h c m (if routed then receipt else none)) =
      ((Timeout.request r).tables h).putBack ⟨c, c, routed, false⟩ ⟨some m, receipt, answered⟩ := by
  cases routed <;> cases receipt <;> rfl

theorem tables_restoredResponse (h : Host Other) (p : PostResponse) (c q : H256) (m : RequestMetadata)
    (routed answered : Bool) (receipt : Option Bytes) :
    (Timeout.response p).tables (restoredResponse h c q m (if routed then receipt else none)) =
      ((Timeout.response p).tables h).putBack ⟨c, q, routed, true⟩ ⟨some m, receipt, answered⟩ := by
  simp only [Timeout.tables, Tables.putBack, restoredResponse, Tables.mk.injEq, true_and, if_true, and_true]
  cases routed with
  | false => cases receipt <;> rfl
  | true =>
    cases receipt with
    | none => rfl
    | some relayer => exact Function.comp_update (Option.map ResponseReceipt.relayer) ..

variable {u u' : World Other} {res : Except Error Unit} {x : Except Error Event}

theorem tables_under (hu : t.under T receipts v = some u) (hk : t.slot T receipts = some k) :
    t.tables u.host = (t.tables v.host).take k := by
  cases t with
  | request r =>
    obtain ⟨c, hc, rfl⟩ := Option.map_eq_some_iff.mp hu
    rw [slot_request hc, Option.some.injEq] at hk
    rw [← hk]
    exact tables_underTimeout v r c _
  | response p =>
    obtain ⟨q, hq, hu⟩ := Option.bind_eq_some_iff.mp hu
    obtain ⟨c, hc, hu⟩ := Option.bind_eq_some_iff.mp hu
    rw [slot_response hq hc, Option.some.injEq] at hk
    rw [← hk, ← Option.some.inj hu]
    exact tables_underResponseTimeout v p c q _

theorem exists_under (hk : t.slot T receipts = some k) (v : World Other) : ∃ u, t.under T receipts v = some u := by
  obtain ⟨keys, hkeys, -⟩ := Option.map_eq_some_iff.mp hk
  cases t with
  | request r =>
    obtain ⟨c, hc, -⟩ := Option.bind_eq_some_iff.mp hkeys
    exact ⟨_, by rw [Timeout.under, hc]; rfl⟩
  | response p =>
    obtain ⟨q, hq, hkeys⟩ := Option.bind_eq_some_iff.mp hkeys
    obtain ⟨c, hc, -⟩ := Option.bind_eq_some_iff.mp hkeys
    exact ⟨_, by rw [Timeout.under, hq, hc]; rfl⟩

theorem taken_eq (t : Timeout) (h : Host Other) : t.taken T receipts h = (t.slot T receipts).bind fun k =>
    ((t.tables h).entries k).commitment.map
      fun m => (m, if k.receipt then ((t.tables h).entries k).relayer else none) := by
  cases t with
  | request r =>
    cases hc : hashRequest T.keccak256 r with
    | none => rw [Timeout.taken, Timeout.slot, Timeout.keys, hc]; rfl
    | some c => rw [taken_request hc, slot_request hc]; rfl
  | response p =>
    cases hq : hashRequest T.keccak256 p.request with
    | none => rw [Timeout.taken, Timeout.slot, Timeout.keys, hq]; rfl
    | some q =>
      cases hc : hashResponse T.keccak256 (.post p) with
      | none => rw [Timeout.taken, Timeout.slot, Timeout.keys, hq, hc]; rfl
      | some c => rw [taken_response hq hc, slot_response hq hc]; rfl

theorem slot_of_taken {taken : RequestMetadata × Option Bytes} (h : t.taken T receipts v.host = some taken) :
    ∃ k, t.slot T receipts = some k ∧ ((t.tables v.host).entries k).commitment.isSome = true := by
  rw [taken_eq] at h
  obtain ⟨k, hk, h⟩ := Option.bind_eq_some_iff.mp h
  obtain ⟨m, hm, -⟩ := Option.map_eq_some_iff.mp h
  exact ⟨k, hk, Option.isSome_of_eq_some hm⟩

theorem tables_restored {h h' : Host Other} {taken : RequestMetadata × Option Bytes} (hk : t.slot T receipts = some k)
    (htaken : t.taken T receipts v.host = some taken) (hrestored : t.restored T h taken = some h') :
    t.tables h' = (t.tables h).putBack k ((t.tables v.host).entries k) := by
  cases t with
  | request r =>
    obtain ⟨c, hc, rfl⟩ := Option.map_eq_some_iff.mp hrestored
    rw [taken_request hc] at htaken
    obtain ⟨m, hm, rfl⟩ := Option.map_eq_some_iff.mp htaken
    rw [slot_request hc, Option.some.injEq] at hk
    rw [← hk, Tables.entries, show ((Timeout.request r).tables v.host).commitments c = some m from hm]
    exact tables_restoredRequest h r c m _ _ _
  | response p =>
    obtain ⟨q, hq, hrestored⟩ := Option.bind_eq_some_iff.mp hrestored
    obtain ⟨c, hc, hrestored⟩ := Option.bind_eq_some_iff.mp hrestored
    rw [taken_response hq hc] at htaken
    obtain ⟨m, hm, rfl⟩ := Option.map_eq_some_iff.mp htaken
    rw [slot_response hq hc, Option.some.injEq] at hk
    rw [← hk, ← Option.some.inj hrestored, Tables.entries,
      show ((Timeout.response p).tables v.host).commitments c = some m from hm]
    exact tables_restoredResponse h p c q m _ _ _

theorem timeOut_turn (hcb : moduleForId T t.sourceModule = .ok cb) (hk : t.slot T receipts = some k)
    (hknown : ((t.tables v.host).entries k).commitment.isSome = true) (hu : t.under T receipts v = some u)
    (hcall : (attempt (cb.onTimeout t)).run u = (.ok res, u')) :
    ∃ x v', (timeOut T receipts t).run v = (.ok x, v') ∧ x.isOk = res.isOk ∧
      t.tables v'.host = (t.tables u'.host).settle k ((t.tables v.host).entries k) res.isOk := by
  obtain ⟨m, hm⟩ := Option.isSome_iff_exists.mp hknown
  have htaken : t.taken T receipts v.host =
      some (m, if k.receipt then ((t.tables v.host).entries k).relayer else none) := by
    rw [taken_eq, hk, Option.bind_some, hm, Option.map_some]
  obtain ⟨x, h', hrun, hx, hend⟩ := settle_run htaken res ⟨u'.host, u'.trace ++ [.timedOut t res.isOk]⟩
  refine ⟨x, _, (timeOut_run hcb hu htaken).trans (bind_ok.mpr ⟨res, u', hcall, hrun⟩), hx, ?_⟩
  cases hok : res.isOk with
  | true =>
    rw [hok] at hend
    obtain rfl := Option.some.inj hend
    rfl
  | false =>
    rw [hok] at hend
    exact tables_restored hk htaken hend

end Turn

structure Turn (Other : Type) where
  timeout : Timeout
  start : World Other
  before : World Other
  result : Except Error Unit
  after : World Other
  finish : World Other
  report : Except Error Event

namespace Turn

/-- The turn is one of the handler. -/
structure Made (T : Config Other) (receipts : Bool) (a : Turn Other) : Prop where
  begun : a.timeout.under T receipts a.start = some a.before
  called : ∃ cb, moduleForId T a.timeout.sourceModule = .ok cb ∧
    (attempt (cb.onTimeout a.timeout)).run a.before = (.ok a.result, a.after)
  ended : (timeOut T receipts a.timeout).run a.start = (.ok a.report, a.finish)

/-- The callback leaves the entries of the message alone. -/
def Spares (T : Config Other) (a : Turn Other) (t : Timeout) : Prop :=
  t.entries T a.after.host = t.entries T a.before.host

end Turn

/-- The turns of a batch, one after the other. -/
inductive Turns (T : Config Other) (receipts : Bool) : World Other → List (Turn Other) → World Other → Prop
  | done (w : World Other) : Turns T receipts w [] w
  | turn {a : Turn Other} {turns : List (Turn Other)} {w' : World Other} (ha : a.Made T receipts)
      (hrest : Turns T receipts a.finish turns w') : Turns T receipts a.start (a :: turns) w'

def NoTrace (T : Config Other) (w w' : World Other) (turns : List (Turn Other)) : Prop :=
  ∀ a ∈ turns, (∀ b ∈ turns, b.Spares T a.timeout) →
    match a.result with
    | .error _ => a.timeout.entries T w'.host = a.timeout.entries T w.host
    | .ok _ => (a.timeout.entries T w'.host).map (·.commitment) = some none ∧
        ∀ b ∈ turns, b.timeout ≠ a.timeout → a.Spares T b.timeout →
          b.timeout.entries T a.finish.host = b.timeout.entries T a.start.host

def Separate (T : Config Other) (w : World Other) (timeouts : List Timeout) : Prop :=
  (timeouts.Pairwise fun s t => ∀ k l, s.keys T = some k → t.keys T = some l → k.1 ≠ l.1 ∧ k.2 ≠ l.2) ∧
    ∀ t ∈ timeouts, t.isResponse = true → ∀ k, t.keys T = some k → w.host.responded k.2 = true

section Batch

variable {receipts : Bool} {a : Turn Other} {t : Timeout} {k l : Slot} {turns : List (Turn Other)} {w w' : World Other}

theorem tables_congr {s t : Timeout} (h : s.isResponse = t.isResponse) (host : Host Other) :
    s.tables host = t.tables host := by
  cases s <;> cases t
  · rfl
  · cases h
  · cases h
  · rfl

theorem keys_of_slot (hk : t.slot T receipts = some k) :
    t.keys T = some (k.commitment, k.request) ∧ k.answer = t.isResponse := by
  obtain ⟨keys, hkeys, rfl⟩ := Option.map_eq_some_iff.mp hk
  exact ⟨hkeys, rfl⟩

theorem slot_of_keys {keys : H256 × H256} (h : t.keys T = some keys) :
    t.slot T receipts = some ⟨keys.1, keys.2, t.takesReceipt T receipts, t.isResponse⟩ := by
  rw [Timeout.slot, h]
  rfl

theorem entries_of_slot (hk : t.slot T receipts = some k) (h : Host Other) :
    t.entries T h = some ((t.tables h).entries k) := by
  rw [Timeout.entries, slot_of_keys (keys_of_slot hk).1]
  rfl

theorem entries_eq_iff (hk : t.slot T receipts = some k) {h h' : Host Other} :
    t.entries T h = t.entries T h' ↔ (t.tables h).entries k = (t.tables h').entries k := by
  rw [entries_of_slot hk, entries_of_slot hk, Option.some.injEq]

theorem responded_tables (t : Timeout) (h : Host Other) : (t.tables h).responded = h.responded := by
  cases t <;> rfl

theorem responded_entries (t : Timeout) (h : Host Other) (k : Slot) :
    ((t.tables h).entries k).responded = h.responded k.request := congrFun (responded_tables t h) _

namespace Turn.Made

theorem slot (ha : a.Made T receipts) : ∃ k, a.timeout.slot T receipts = some k ∧
    ((a.timeout.tables a.start.host).entries k).commitment.isSome = true := by
  obtain ⟨-, -, taken, -, -, -, -, htaken, -⟩ := timeOut_ok ha.ended
  exact slot_of_taken htaken

theorem tables_before (ha : a.Made T receipts) (hk : a.timeout.slot T receipts = some k) :
    a.timeout.tables a.before.host = (a.timeout.tables a.start.host).take k := tables_under ha.begun hk

theorem tables_finish (ha : a.Made T receipts) (hk : a.timeout.slot T receipts = some k) :
    a.timeout.tables a.finish.host = (a.timeout.tables a.after.host).settle k
      ((a.timeout.tables a.start.host).entries k) a.result.isOk := by
  obtain ⟨cb, hcb, hcall⟩ := ha.called
  obtain ⟨k', hk', hknown⟩ := ha.slot
  rw [hk, Option.some.injEq] at hk'
  subst hk'
  obtain ⟨x, v', hrun, -, htables⟩ := timeOut_turn hcb hk hknown ha.begun hcall
  obtain ⟨-, rfl⟩ := Prod.mk.inj (hrun.symm.trans ha.ended)
  exact htables

theorem entries_of_apart (ha : a.Made T receipts) (hkind : a.timeout.isResponse = t.isResponse)
    (hk : a.timeout.slot T receipts = some k) (hl : t.slot T receipts = some l) (hapart : k.Apart l)
    (hspares : a.Spares T t) : t.entries T a.finish.host = t.entries T a.start.host := by
  rw [Spares, entries_eq_iff hl] at hspares
  rw [entries_eq_iff hl]
  rw [← tables_congr hkind] at hspares ⊢
  rw [← tables_congr hkind, ha.tables_finish hk, Tables.entries_settle hapart]
  rw [← tables_congr hkind, ha.tables_before hk, Tables.entries_take hapart] at hspares
  exact hspares

theorem entries_of_error (ha : a.Made T receipts) (hspares : a.Spares T a.timeout) {e : Error}
    (herror : a.result = .error e)
    (hanswered : a.timeout.isResponse = true → ∀ k, a.timeout.keys T = some k → a.start.host.responded k.2 = true) :
    a.timeout.entries T a.finish.host = a.timeout.entries T a.start.host := by
  obtain ⟨k, hk, -⟩ := ha.slot
  rw [Spares, entries_eq_iff hk, ha.tables_before hk] at hspares
  rw [entries_eq_iff hk, ha.tables_finish hk, herror]
  refine Tables.entries_putBack_self rfl hspares ?_
  intro hanswer
  rw [responded_entries]
  exact hanswered ((keys_of_slot hk).2.symm.trans hanswer) _ (keys_of_slot hk).1

theorem commitment_of_ok (ha : a.Made T receipts) (hspares : a.Spares T a.timeout) (hok : a.result = .ok ()) :
    (a.timeout.entries T a.finish.host).map (·.commitment) = some none := by
  obtain ⟨k, hk, -⟩ := ha.slot
  rw [Spares, entries_eq_iff hk, ha.tables_before hk] at hspares
  rw [entries_of_slot hk, ha.tables_finish hk, hok]
  show some ((a.timeout.tables a.after.host).entries k).commitment = some none
  rw [hspares, Tables.commitment_take]

end Turn.Made

namespace Turns

theorem split {done rest : List (Turn Other)} (h : Turns T receipts w (done ++ a :: rest) w') :
    Turns T receipts w done a.start ∧ a.Made T receipts ∧ Turns T receipts a.finish rest w' := by
  induction done generalizing w with
  | nil =>
    cases h with
    | turn ha hrest => exact ⟨.done _, ha, hrest⟩
  | cons b done ih =>
    cases h with
    | turn hb hrest =>
      obtain ⟨hdone, ha, hend⟩ := ih hrest
      exact ⟨.turn hb hdone, ha, hend⟩

theorem made (h : Turns T receipts w turns w') (ha : a ∈ turns) : a.Made T receipts := by
  obtain ⟨done, rest, rfl⟩ := List.append_of_mem ha
  exact h.split.2.1

theorem entries_of_apart (h : Turns T receipts w turns w') (hl : t.slot T receipts = some l)
    (hother : ∀ a ∈ turns, a.timeout.isResponse = t.isResponse ∧ a.Spares T t ∧
      ∀ k, a.timeout.slot T receipts = some k → k.Apart l) : t.entries T w'.host = t.entries T w.host := by
  induction h with
  | done w => rfl
  | turn ha hrest ih =>
    obtain ⟨hkind, hspares, hapart⟩ := hother _ List.mem_cons_self
    obtain ⟨k, hk, -⟩ := ha.slot
    rw [ih fun b hb => hother b (List.mem_cons_of_mem _ hb)]
    exact ha.entries_of_apart hkind hk hl (hapart k hk) hspares

/-- A handled batch is a list of turns. -/
theorem of_collect {ts : List Timeout} {results : List (Except Error Event)}
    (h : (collect (timeOut T receipts) ts).run w = (.ok results, w')) :
    ∃ turns, turns.map Turn.timeout = ts ∧ turns.map Turn.report = results ∧ Turns T receipts w turns w' := by
  induction ts generalizing w results with
  | nil =>
    obtain ⟨rfl, rfl⟩ := pure_ok.mp h
    exact ⟨[], rfl, rfl, .done _⟩
  | cons t ts ih =>
    obtain ⟨x, v, rest, hturn, hrest, rfl⟩ := collect_cons_ok.mp h
    obtain ⟨turns, rfl, rfl, hturns⟩ := ih hrest
    obtain ⟨cb, u, -, res, u', hcb, hu, -, hcall, -⟩ := timeOut_ok hturn
    have hmade : Turn.Made T receipts ⟨t, w, u, res, u', v, x⟩ := ⟨hu, ⟨cb, hcb, hcall⟩, hturn⟩
    exact ⟨_, rfl, rfl, turn hmade hturns⟩

end Turns

theorem keys_request (h : t.isResponse = false) : (t.keys T).map Prod.snd = (t.keys T).map Prod.fst := by
  cases t with
  | request r =>
    rw [Timeout.keys]
    cases hashRequest T.keccak256 r <;> rfl
  | response p => cases h

theorem apart_of_keys {s t : Timeout} (hs : s.slot T receipts = some k) (ht : t.slot T receipts = some l)
    (h : ∀ k l, s.keys T = some k → t.keys T = some l → k.1 ≠ l.1 ∧ k.2 ≠ l.2) : k.Apart l :=
  h _ _ (keys_of_slot hs).1 (keys_of_slot ht).1

theorem apart_of_pairwise {done rest : List (Turn Other)} {l : Slot} (hl : a.timeout.slot T receipts = some l)
    (hpairs : ((done ++ a :: rest).map Turn.timeout).Pairwise fun s t =>
      ∀ k l, s.keys T = some k → t.keys T = some l → k.1 ≠ l.1 ∧ k.2 ≠ l.2) :
    ∀ b ∈ done ++ rest, ∀ k, b.timeout.slot T receipts = some k → k.Apart l := by
  rw [List.map_append, List.map_cons, List.pairwise_append, List.pairwise_cons] at hpairs
  obtain ⟨-, ⟨hafter, -⟩, hbefore⟩ := hpairs
  intro b hb k hk
  rcases List.mem_append.mp hb with hb | hb
  · exact apart_of_keys hk hl (hbefore _ (List.mem_map_of_mem hb) _ List.mem_cons_self)
  · exact (apart_of_keys hl hk (hafter _ (List.mem_map_of_mem hb))).symm

theorem responded_of_entries {u v : World Other} (hk : t.slot T receipts = some k)
    (h : t.entries T u.host = t.entries T v.host) : u.host.responded k.request = v.host.responded k.request := by
  have hmark := congrArg Entries.responded ((entries_eq_iff hk).mp h)
  rwa [responded_entries, responded_entries] at hmark

theorem noTrace_of_separate (h : Turns T receipts w turns w')
    (hkind : ∀ a ∈ turns, ∀ b ∈ turns, a.timeout.isResponse = b.timeout.isResponse)
    (hseparate : Separate T w (turns.map Turn.timeout)) : NoTrace T w w' turns := by
  intro a ha hspares
  obtain ⟨hpairs, hanswered⟩ := hseparate
  obtain ⟨done, rest, rfl⟩ := List.append_of_mem ha
  obtain ⟨hdone, hmade, hrest⟩ := h.split
  obtain ⟨l, hl, -⟩ := hmade.slot
  have hapart := apart_of_pairwise hl hpairs
  have hfirst : a.timeout.entries T a.start.host = a.timeout.entries T w.host := by
    apply hdone.entries_of_apart hl
    intro b hb
    have hmem : b ∈ done ++ a :: rest := List.mem_append_left _ hb
    exact ⟨hkind b hmem a ha, hspares b hmem, hapart b (List.mem_append_left _ hb)⟩
  have hlast : a.timeout.entries T w'.host = a.timeout.entries T a.finish.host := by
    apply hrest.entries_of_apart hl
    intro b hb
    have hmem : b ∈ done ++ a :: rest := List.mem_append_right _ (List.mem_cons_of_mem _ hb)
    exact ⟨hkind b hmem a ha, hspares b hmem, hapart b (List.mem_append_right _ hb)⟩
  have hmarked (hresponse : a.timeout.isResponse = true) (k : H256 × H256) (hk : a.timeout.keys T = some k) :
      a.start.host.responded k.2 = true := by
    have hslot : a.timeout.slot T true = some _ := slot_of_keys hk
    rw [responded_of_entries hslot hfirst]
    exact hanswered _ (List.mem_map_of_mem ha) hresponse k hk
  cases hresult : a.result with
  | error e =>
    show a.timeout.entries T w'.host = a.timeout.entries T w.host
    rw [hlast, hmade.entries_of_error (hspares a ha) hresult hmarked, hfirst]
  | ok _ =>
    refine ⟨?_, ?_⟩
    · rw [hlast]
      exact hmade.commitment_of_ok (hspares a ha) hresult
    · intro b hb hne hsparesOther
      obtain ⟨k, hk, -⟩ := (h.made hb).slot
      have hother : b ∈ done ++ rest := by
        rcases List.mem_append.mp hb with hb | hb
        · exact List.mem_append_left _ hb
        · exact List.mem_append_right _ ((List.mem_cons.mp hb).resolve_left fun heq => hne (congrArg _ heq))
      exact hmade.entries_of_apart (hkind a ha b hb) hl hk (hapart b hother k hk).symm hsparesOther

end Batch

section Handler

variable {msg : TimeoutMessage} {w w' : World Other} {res : MessageResult}

theorem known_of_passes (h : Passes T w msg) {t : Timeout} (ht : t ∈ msg.timeouts) {k : Slot}
    (hk : t.slot T msg.receipts = some k) : ((t.tables w.host).entries k).commitment.isSome = true := by
  cases msg with
  | post requests proof =>
    obtain ⟨r, hr, rfl⟩ := List.mem_map.mp ht
    obtain ⟨_, _, _, -, -, hcheck, -⟩ := h
    obtain ⟨-, c, hc, hknown, -⟩ := checkRequestTimeout_ok (hcheck r hr)
    rw [slot_request hc, Option.some.injEq] at hk
    rw [← hk]
    exact hknown
  | postResponse responses proof =>
    obtain ⟨p, hp, rfl⟩ := List.mem_map.mp ht
    obtain ⟨_, _, _, -, -, hcheck, -⟩ := h
    obtain ⟨-, c, hc, hknown, -⟩ := checkResponseTimeout_ok (hcheck p hp)
    obtain ⟨keys, hkeys, rfl⟩ := Option.map_eq_some_iff.mp hk
    obtain ⟨q, -, hkeys⟩ := Option.bind_eq_some_iff.mp hkeys
    obtain ⟨c', hc', hkeys⟩ := Option.bind_eq_some_iff.mp hkeys
    obtain rfl : c' = c := Option.some.inj (hc'.symm.trans hc)
    rw [← Option.some.inj hkeys]
    exact hknown
  | get requests =>
    obtain ⟨r, hr, rfl⟩ := List.mem_map.mp ht
    obtain ⟨c, hc, hknown, -⟩ := checkTimedOut_ok (h r hr)
    rw [slot_request hc, Option.some.injEq] at hk
    rw [← hk]
    exact hknown

theorem isResponse_timeouts {s t : Timeout} (hs : s ∈ msg.timeouts) (ht : t ∈ msg.timeouts) :
    s.isResponse = t.isResponse := by
  cases msg <;> obtain ⟨_, -, rfl⟩ := List.mem_map.mp hs <;> obtain ⟨_, -, rfl⟩ := List.mem_map.mp ht <;> rfl

end Handler

def deciding (chosen : Option Timeout) : IsmpModule Other where
  onAccept _ := pure ()
  onResponse _ := pure ()
  onTimeout t := if chosen = some t then pure () else throw (.custom "Timeout rejected")

def withRouter (T : Config Other) (router : Bytes → Except Error (IsmpModule Other)) : Config Other :=
  { T with router := router }

/-- Every message goes to the deciding module. -/
def withModule (T : Config Other) (chosen : Option Timeout) : Config Other :=
  withRouter T fun _ => .ok (deciding chosen)

section Deciding

variable {chosen : Option Timeout} {receipts : Bool} {t : Timeout} {v u : World Other} {k : Slot}

theorem feeOf_under (hu : t.under T receipts v = some u) : (feeOf T t).run u = (.ok none, u) := by
  have hnone := recordedFee_under hu
  cases t with
  | request r =>
    obtain ⟨c, hc, -⟩ := Option.map_eq_some_iff.mp hu
    rw [recordedFee, hc] at hnone
    exact requestHash_bind_ok.mpr ⟨c, hc, by rw [← hnone]; rfl⟩
  | response p =>
    obtain ⟨q, hq, hu⟩ := Option.bind_eq_some_iff.mp hu
    obtain ⟨c, hc, hu⟩ := Option.bind_eq_some_iff.mp hu
    rw [recordedFee, hc] at hnone
    exact responseHash_bind_ok.mpr ⟨c, hc, by rw [← hnone]; rfl⟩

theorem deciding_run (hu : t.under (withModule T chosen) receipts v = some u) :
    (attempt ((refundingModule (withModule T chosen) (deciding chosen)).onTimeout t)).run u =
      (.ok (if chosen = some t then .ok () else .error (.custom "Timeout rejected")), u) := by
  have hfee := feeOf_under hu
  rw [attempt_run, refundingModule]
  by_cases hchosen : chosen = some t
  · have hinner : ((deciding chosen : IsmpModule Other).onTimeout t).run u = (.ok (), u) := by
      simp [deciding, hchosen]
    rw [if_pos hchosen, bind_run, hinner]
    dsimp only
    rw [bind_run, hfee]
    rfl
  · have hinner : ((deciding chosen : IsmpModule Other).onTimeout t).run u =
      (.err (.custom "Timeout rejected"), u) := by
      simp [deciding, hchosen]
    rw [if_neg hchosen, bind_run, hinner]

theorem exists_made (chosen : Option Timeout) (hk : t.slot T receipts = some k)
    (hknown : ((t.tables v.host).entries k).commitment.isSome = true) :
    ∃ a : Turn Other, a.timeout = t ∧ a.start = v ∧ a.Made (withModule T chosen) receipts := by
  have hslot : t.slot (withModule T chosen) receipts = some k := hk
  have hcb : moduleForId (withModule T chosen) t.sourceModule =
    .ok (refundingModule (withModule T chosen) (deciding chosen)) := rfl
  obtain ⟨u, hu⟩ := exists_under hslot v
  obtain ⟨x, v', hrun, -⟩ := timeOut_turn hcb hslot hknown hu (deciding_run hu)
  exact ⟨⟨t, v, u, _, u, v', x⟩, rfl, rfl, hu, ⟨_, hcb, deciding_run hu⟩, hrun⟩

namespace Turn.Made

variable {a : Turn Other}

theorem decided (ha : a.Made (withModule T chosen) receipts) :
    a.result.isOk = decide (chosen = some a.timeout) ∧ a.after = a.before := by
  obtain ⟨cb, hcb, hcall⟩ := ha.called
  obtain rfl := Except.ok.inj hcb
  obtain ⟨hres, hafter⟩ := Prod.mk.inj ((deciding_run ha.begun).symm.trans hcall)
  rw [← Outcome.ok.inj hres]
  refine ⟨?_, hafter.symm⟩
  by_cases hchosen : chosen = some a.timeout
  · rw [if_pos hchosen, decide_eq_true hchosen]
    rfl
  · rw [if_neg hchosen, decide_eq_false hchosen]
    rfl

theorem tables_decided (ha : a.Made (withModule T chosen) receipts) (hk : a.timeout.slot T receipts = some k) :
    a.timeout.tables a.finish.host = (a.timeout.tables a.start.host).turn k (decide (chosen = some a.timeout)) := by
  obtain ⟨hok, hafter⟩ := ha.decided
  rw [ha.tables_finish hk, hafter, ha.tables_before hk, hok]
  rfl

end Turn.Made

/-- With that module the batch is handled too. -/
theorem collect_deciding {ts : List Timeout} (hkind : ∀ s ∈ ts, ∀ t ∈ ts, s.isResponse = t.isResponse)
    (hknown : ∀ t ∈ ts, ∃ k, t.slot T receipts = some k ∧ ((t.tables v.host).entries k).commitment.isSome = true)
    (hpair : ts.Pairwise fun s t => chosen = some s → (s.keys T).map Prod.fst ≠ (t.keys T).map Prod.fst) :
    ∃ results v', (collect (timeOut (withModule T chosen) receipts) ts).run v = (.ok results, v') := by
  induction ts generalizing v with
  | nil => exact ⟨[], v, rfl⟩
  | cons t ts ih =>
    rw [List.pairwise_cons] at hpair
    obtain ⟨k, hk, hthis⟩ := hknown t List.mem_cons_self
    obtain ⟨a, rfl, rfl, ha⟩ := exists_made chosen hk hthis
    have hnext (t : Timeout) (ht : t ∈ ts) : ∃ l, t.slot T receipts = some l ∧
        ((t.tables a.finish.host).entries l).commitment.isSome = true := by
      obtain ⟨l, hl, hcommitted⟩ := hknown t (List.mem_cons_of_mem _ ht)
      have hsame := hkind t (List.mem_cons_of_mem _ ht) a.timeout List.mem_cons_self
      refine ⟨l, hl, ?_⟩
      rw [tables_congr hsame] at hcommitted ⊢
      have hkeep : (a.timeout.tables a.finish.host).commitments l.commitment =
          (a.timeout.tables a.start.host).commitments l.commitment := by
        rw [ha.tables_decided hk]
        by_cases hchosen : chosen = some a.timeout
        · rw [decide_eq_true hchosen, Tables.commitments_turn_true, Function.update_of_ne]
          have hne := hpair.1 t ht hchosen
          rw [(keys_of_slot hk).1, (keys_of_slot hl).1] at hne
          exact fun heq => hne (congrArg some heq.symm)
        · rw [decide_eq_false hchosen, Tables.commitments_turn_false]
      exact (congrArg Option.isSome hkeep).trans hcommitted
    obtain ⟨results, v', hrest⟩ :=
      ih (fun s hs t ht => hkind s (List.mem_cons_of_mem _ hs) t (List.mem_cons_of_mem _ ht))
      hnext hpair.2
    exact ⟨a.report :: results, v', collect_cons_ok.mpr ⟨_, _, results, ha.ended, hrest, rfl⟩⟩

section Conflicts

variable {turns : List (Turn Other)} {w w' : World Other}

theorem commitments_of_failed (h : Turns (withModule T chosen) receipts w turns w')
    (hfailed : ∀ a ∈ turns, chosen ≠ some a.timeout) (hkind : ∀ a ∈ turns, a.timeout.isResponse = t.isResponse) :
    (t.tables w'.host).commitments = (t.tables w.host).commitments := by
  induction h with
  | done w => rfl
  | turn ha hrest ih =>
    obtain ⟨k, hk, -⟩ := ha.slot
    have hsame := hkind _ List.mem_cons_self
    rw [ih (fun b hb => hfailed b (List.mem_cons_of_mem _ hb)) (fun b hb => hkind b (List.mem_cons_of_mem _ hb)),
      ← tables_congr hsame, ha.tables_decided hk, decide_eq_false (hfailed _ List.mem_cons_self),
      Tables.commitments_turn_false, tables_congr hsame]

theorem responded_of_failed (h : Turns (withModule T chosen) receipts w turns w')
    (hfailed : ∀ a ∈ turns, chosen ≠ some a.timeout) {q : H256} (hq : w.host.responded q = true) :
    w'.host.responded q = true := by
  induction h with
  | done w => exact hq
  | turn ha hrest ih =>
    obtain ⟨k, hk, -⟩ := ha.slot
    apply ih fun b hb => hfailed b (List.mem_cons_of_mem _ hb)
    rw [← responded_tables, ha.tables_decided hk, decide_eq_false (hfailed _ List.mem_cons_self),
      Tables.responded_turn_false, responded_tables]
    split
    · rw [Function.update_apply]
      split
      · rfl
      · exact hq
    · exact hq

theorem entries_of_noTrace (h : Turns (withModule T chosen) receipts w turns w') (hquiet : NoTrace T w w' turns)
    {a : Turn Other} (ha : a ∈ turns) (hchosen : chosen ≠ some a.timeout) :
    a.timeout.entries T w'.host = a.timeout.entries T w.host := by
  have hspares (b : Turn Other) (hb : b ∈ turns) : b.Spares T a.timeout := by
    rw [Turn.Spares, (h.made hb).decided.2]
  have hkept := hquiet a ha hspares
  obtain ⟨hresult, -⟩ := (h.made ha).decided
  rw [decide_eq_false hchosen] at hresult
  cases hres : a.result with
  | error e =>
    rw [hres] at hkept
    exact hkept
  | ok _ =>
    rw [hres] at hresult
    cases hresult

theorem not_noTrace_of_unmarked (h : Turns (withModule T none) receipts w turns w') {a : Turn Other} (ha : a ∈ turns)
    (hresponse : a.timeout.isResponse = true) {keys : H256 × H256} (hkeys : a.timeout.keys T = some keys)
    (hmark : w.host.responded keys.2 = false) : ¬ NoTrace T w w' turns := by
  intro hquiet
  have hentries := entries_of_noTrace h hquiet ha (by simp)
  have hslot : a.timeout.slot T receipts = some _ := slot_of_keys hkeys
  obtain ⟨done, rest, rfl⟩ := List.append_of_mem ha
  obtain ⟨-, hmade, hrest⟩ := h.split
  have hset : a.finish.host.responded keys.2 = true := by
    rw [← responded_tables a.timeout, hmade.tables_decided hslot, decide_eq_false (by simp),
      Tables.responded_turn_false,
      if_pos hresponse]
    exact Function.update_self ..
  have hend := responded_of_failed hrest (by simp) hset
  rw [responded_of_entries hslot hentries, hmark] at hend
  cases hend

section Pair

variable {done rest : List (Turn Other)} {a b : Turn Other}

theorem timeout_ne_of_nodup (hdistinct : ((done ++ b :: rest).map Turn.timeout).Nodup) :
    (∀ c ∈ done, some b.timeout ≠ some c.timeout) ∧ ∀ c ∈ rest, some b.timeout ≠ some c.timeout := by
  rw [List.map_append, List.map_cons, List.nodup_append, List.nodup_cons] at hdistinct
  obtain ⟨-, ⟨hrest, -⟩, hdone⟩ := hdistinct
  constructor
  · intro c hc heq
    exact hdone _ (List.mem_map_of_mem hc) _ List.mem_cons_self (Option.some.inj heq).symm
  · intro c hc heq
    rw [Option.some.inj heq] at hrest
    exact hrest (List.mem_map_of_mem hc)

variable (h : Turns (withModule T (some b.timeout)) receipts w (done ++ b :: rest) w') (ha : a ∈ done)
  (hdistinct : ((done ++ b :: rest).map Turn.timeout).Nodup) (hk : a.timeout.slot T receipts = some k)

include h ha hdistinct hk

theorem not_noTrace_of_commitment (hkind : ∀ c ∈ done ++ b :: rest, c.timeout.isResponse = a.timeout.isResponse)
    (hsame : (a.timeout.keys T).map Prod.fst = (b.timeout.keys T).map Prod.fst)
    (hknown : ((a.timeout.tables w.host).entries k).commitment.isSome = true) :
    ¬ NoTrace T w w' (done ++ b :: rest) := by
  intro hquiet
  obtain ⟨hdone, hafter⟩ := timeout_ne_of_nodup hdistinct
  have hentries := entries_of_noTrace h hquiet (List.mem_append_left _ ha) (hdone a ha)
  obtain ⟨-, hmade, hrest⟩ := h.split
  obtain ⟨l, hl, -⟩ := hmade.slot
  have hkeys : b.timeout.keys T = some (l.commitment, l.request) := (keys_of_slot hl).1
  rw [(keys_of_slot hk).1, hkeys] at hsame
  have hcommitment : k.commitment = l.commitment := Option.some.inj hsame
  have hgone : ((a.timeout.tables w'.host).entries k).commitment = none := by
    have hlater : ∀ c ∈ rest, c.timeout.isResponse = a.timeout.isResponse := fun c hc =>
      hkind c (List.mem_append_right _ (List.mem_cons_of_mem _ hc))
    show (a.timeout.tables w'.host).commitments k.commitment = none
    rw [commitments_of_failed hrest hafter hlater,
      ← tables_congr (hkind b (List.mem_append_right _ List.mem_cons_self)), hmade.tables_decided hl,
        decide_eq_true rfl,
      Tables.commitments_turn_true, hcommitment, Function.update_self]
  rw [← (entries_eq_iff hk).mp hentries, hgone] at hknown
  cases hknown

/-- The same with two answers to one request. -/
theorem not_noTrace_of_request (hkind : ∀ c ∈ done ++ b :: rest, c.timeout.isResponse = true)
    (hsame : (a.timeout.keys T).map Prod.snd = (b.timeout.keys T).map Prod.snd)
    (hapart : ∀ c ∈ rest, ∀ k l, c.timeout.keys T = some k → b.timeout.keys T = some l → k.1 ≠ l.1 ∧ k.2 ≠ l.2)
    (hmark : w.host.responded k.request = true) : ¬ NoTrace T w w' (done ++ b :: rest) := by
  intro hquiet
  have hentries := entries_of_noTrace h hquiet (List.mem_append_left _ ha) ((timeout_ne_of_nodup hdistinct).1 a ha)
  obtain ⟨-, hmade, hrest⟩ := h.split
  obtain ⟨l, hl, -⟩ := hmade.slot
  have hb : b ∈ done ++ b :: rest := List.mem_append_right _ List.mem_cons_self
  have hkeys : b.timeout.keys T = some (l.commitment, l.request) := (keys_of_slot hl).1
  rw [(keys_of_slot hk).1, hkeys] at hsame
  have hrequest : k.request = l.request := Option.some.inj hsame
  have hcleared : b.finish.host.responded l.request = false := by
    rw [← responded_tables b.timeout, hmade.tables_decided hl, decide_eq_true rfl, Tables.responded_turn_true,
      if_pos ((keys_of_slot hl).2.trans (hkind b hb)), Function.update_self]
  have hlast : b.timeout.entries (withModule T (some b.timeout)) w'.host =
      b.timeout.entries (withModule T (some b.timeout)) b.finish.host := by
    apply hrest.entries_of_apart hl
    intro c hc
    have hmem : c ∈ done ++ b :: rest := List.mem_append_right _ (List.mem_cons_of_mem _ hc)
    refine ⟨(hkind c hmem).trans (hkind b hb).symm, ?_, ?_⟩
    · rw [Turn.Spares, (h.made hmem).decided.2]
    · intro k hk
      exact apart_of_keys hk hl (hapart c hc)
  have hend := responded_of_entries hk hentries
  rw [hmark, hrequest, responded_of_entries hl hlast, hcleared] at hend
  cases hend

end Pair

end Conflicts

end Deciding

theorem exists_last {α β : Type} {f : α → β} {l : List α} (h : ¬ (l.map f).Nodup) :
    ∃ done x rest, l = done ++ x :: rest ∧ (∃ a ∈ done, f a = f x) ∧ ∀ b ∈ rest, f b ≠ f x := by
  induction l with
  | nil => exact absurd List.nodup_nil h
  | cons a l ih =>
    by_cases hl : (l.map f).Nodup
    · rw [List.map_cons, List.nodup_cons, not_and_or, not_not] at h
      obtain hmem | hmore := h
      · obtain ⟨x, hx, heq⟩ := List.mem_map.mp hmem
        obtain ⟨done, rest, rfl⟩ := List.append_of_mem hx
        refine ⟨a :: done, x, rest, rfl, ⟨a, List.mem_cons_self, heq.symm⟩, ?_⟩
        intro b hb heq'
        rw [List.map_append, List.map_cons, List.nodup_append, List.nodup_cons] at hl
        apply hl.2.1.1
        rw [← heq']
        exact List.mem_map_of_mem hb
      · exact absurd hl hmore
    · obtain ⟨done, x, rest, rfl, ⟨b, hb, heq⟩, hlast⟩ := ih hl
      exact ⟨a :: done, x, rest, rfl, ⟨b, List.mem_cons_of_mem _ hb, heq⟩, hlast⟩

theorem pairwise_of_last {α β : Type} {f : α → β} {done rest : List α} {x : α} (hdistinct : (done ++ x :: rest).Nodup)
    (hlast : ∀ b ∈ rest, f b ≠ f x) : (done ++ x :: rest).Pairwise fun a b => some x = some a → f a ≠ f b := by
  rw [List.nodup_append, List.nodup_cons] at hdistinct
  obtain ⟨-, ⟨hrest, -⟩, hdone⟩ := hdistinct
  have hne (a : α) (ha : a ∈ done ∨ a ∈ rest) : some x ≠ some a := by
    intro heq
    obtain rfl := Option.some.inj heq
    rcases ha with ha | ha
    · exact hdone x ha x List.mem_cons_self rfl
    · exact hrest ha
  rw [List.pairwise_append, List.pairwise_cons]
  refine ⟨?_, ⟨?_, ?_⟩, ?_⟩
  · apply List.pairwise_of_forall_mem_list
    intro a ha b hb heq
    exact absurd heq (hne a (.inl ha))
  · intro b hb _ heq
    exact hlast b hb heq.symm
  · apply List.pairwise_of_forall_mem_list
    intro a ha b hb heq
    exact absurd heq (hne a (.inr ha))
  · intro a ha b hb heq
    exact absurd heq (hne a (.inl ha))

section Batches

variable {msg : TimeoutMessage} {w w' : World Other} {res : MessageResult}

/-- Every run of the batch leaves no trace. -/
def LeavesNoTrace (T : Config Other) (msg : TimeoutMessage) (w : World Other)
    (router : Bytes → Except Error (IsmpModule Other)) : Prop :=
  ∀ res w', (handleTimeout (withRouter T router) msg).run w = (.ok res, w') →
    ∃ turns, Turns (withRouter T router) msg.receipts w turns w' ∧ turns.map Turn.timeout = msg.timeouts ∧
      res = .timeout (turns.map Turn.report) ∧ NoTrace T w w' turns

section Handled

variable (h : (handleTimeout T msg).run w = (.ok res, w'))

include h

theorem slot_of_handled {t : Timeout} (ht : t ∈ msg.timeouts) :
    ∃ k, t.slot T msg.receipts = some k ∧ ((t.tables w.host).entries k).commitment.isSome = true := by
  obtain ⟨hpasses, results, hcollect, -⟩ := handleTimeout_ok_iff.mp h
  obtain ⟨x, -, u, v, hturn⟩ := collect_ok_mem ht hcollect
  obtain ⟨-, -, taken, -, -, -, -, htaken, -⟩ := timeOut_ok hturn
  obtain ⟨k, hk, -⟩ := slot_of_taken htaken
  exact ⟨k, hk, known_of_passes hpasses ht hk⟩

variable (hall : ∀ router, LeavesNoTrace T msg w router)

include hall

theorem exists_decided_turns (chosen : Option Timeout)
    (hpair : msg.timeouts.Pairwise fun s t => chosen = some s → (s.keys T).map Prod.fst ≠ (t.keys T).map Prod.fst) :
    ∃ turns v, Turns (withModule T chosen) msg.receipts w turns v ∧ turns.map Turn.timeout = msg.timeouts ∧
      NoTrace T w v turns := by
  obtain ⟨results, v, hcollect⟩ := collect_deciding (fun s hs t ht => isResponse_timeouts hs ht)
    (fun t ht => slot_of_handled h ht) hpair
  have hpasses : Passes (withModule T chosen) w msg := by
    have horiginal := (handleTimeout_ok_iff.mp h).1
    cases msg <;> exact horiginal
  have hrun := handleTimeout_ok_iff.mpr ⟨hpasses, results, hcollect, rfl⟩
  obtain ⟨turns, hturns, htimeouts, -, hquiet⟩ := hall _ _ _ hrun
  exact ⟨turns, v, hturns, htimeouts, hquiet⟩

theorem responded_of_noTrace {t : Timeout} (ht : t ∈ msg.timeouts)
    (hresponse : t.isResponse = true) {keys : H256 × H256} (hkeys : t.keys T = some keys) :
    w.host.responded keys.2 = true := by
  by_contra hmark
  have hpair : msg.timeouts.Pairwise fun s t => none = some s → (s.keys T).map Prod.fst ≠ (t.keys T).map Prod.fst := by
    apply List.pairwise_of_forall
    intro s t heq
    cases heq
  obtain ⟨turns, v, hturns, htimeouts, hquiet⟩ := exists_decided_turns h hall none hpair
  rw [← htimeouts] at ht
  obtain ⟨a, ha, rfl⟩ := List.mem_map.mp ht
  exact not_noTrace_of_unmarked hturns ha hresponse hkeys (Bool.eq_false_iff.mpr hmark) hquiet

variable (hdistinct : msg.timeouts.Nodup)

include hdistinct

theorem exists_turn_pair {done rest : List Timeout} {x s : Timeout} (hlist : msg.timeouts = done ++ x :: rest)
    (hs : s ∈ done) (hlast : ∀ t ∈ rest, (t.keys T).map Prod.fst ≠ (x.keys T).map Prod.fst) :
    ∃ first last a b v, Turns (withModule T (some b.timeout)) msg.receipts w (first ++ b :: last) v ∧
      ((first ++ b :: last).map Turn.timeout).Nodup ∧ (∀ c ∈ first ++ b :: last, c.timeout ∈ msg.timeouts) ∧ a ∈ first ∧
      a.timeout = s ∧ b.timeout = x ∧ last.map Turn.timeout = rest ∧ NoTrace T w v (first ++ b :: last) := by
  have hpair := pairwise_of_last (hlist ▸ hdistinct) hlast
  rw [← hlist] at hpair
  obtain ⟨turns, v, hturns, htimeouts, hquiet⟩ := exists_decided_turns h hall _ hpair
  have hmem (c : Turn Other) (hc : c ∈ turns) : c.timeout ∈ msg.timeouts := htimeouts ▸ List.mem_map_of_mem hc
  obtain ⟨first, others, rfl, rfl, hothers⟩ := List.map_eq_append_iff.mp (htimeouts.trans hlist)
  obtain ⟨b, last, rfl, rfl, rfl⟩ := List.map_eq_cons_iff.mp hothers
  obtain ⟨a, ha, rfl⟩ := List.mem_map.mp hs
  exact ⟨first, last, a, b, v, hturns, htimeouts ▸ hdistinct, hmem, ha, rfl, rfl, rfl, hquiet⟩

/-- No trace means no common commitment. -/
theorem nodup_commitments : (msg.timeouts.map fun t => (t.keys T).map Prod.fst).Nodup := by
  by_contra hsome
  obtain ⟨done, x, rest, hlist, ⟨s, hs, hsame⟩, hlast⟩ := exists_last hsome
  obtain ⟨first, last, a, b, v, hturns, hnodup, hmem, ha, rfl, rfl, -, hquiet⟩ :=
    exists_turn_pair h hall hdistinct hlist hs hlast
  have hfirst := hmem a (List.mem_append_left _ ha)
  obtain ⟨k, hk, hknown⟩ := slot_of_handled h hfirst
  refine not_noTrace_of_commitment hturns ha hnodup hk (fun c hc => ?_) hsame hknown hquiet
  exact isResponse_timeouts (hmem c hc) hfirst

theorem nodup_requests (hresponses : ∀ t ∈ msg.timeouts, t.isResponse = true) :
    (msg.timeouts.map fun t => (t.keys T).map Prod.snd).Nodup := by
  by_contra hsome
  have hcommitments := nodup_commitments h hall hdistinct
  obtain ⟨done, x, rest, hlist, ⟨s, hs, hsame⟩, hlast⟩ := exists_last hsome
  have hother : ∀ t ∈ rest, (t.keys T).map Prod.fst ≠ (x.keys T).map Prod.fst := by
    rw [hlist, List.map_append, List.map_cons, List.nodup_append, List.nodup_cons] at hcommitments
    intro t ht heq
    apply hcommitments.2.1.1
    rw [← heq]
    exact List.mem_map_of_mem ht
  obtain ⟨first, last, a, b, v, hturns, hnodup, hmem, ha, rfl, rfl, rfl, hquiet⟩ :=
    exists_turn_pair h hall hdistinct hlist hs hother
  have hfirst := hmem a (List.mem_append_left _ ha)
  obtain ⟨k, hk, -⟩ := slot_of_handled h hfirst
  have hmark : w.host.responded k.request = true :=
    responded_of_noTrace h hall hfirst (hresponses _ hfirst) (keys_of_slot hk).1
  refine not_noTrace_of_request hturns ha hnodup hk (fun c hc => hresponses _ (hmem c hc)) hsame ?_ hmark hquiet
  intro c hc k l hk hl
  have hfst := hother _ (List.mem_map_of_mem hc)
  have hsnd := hlast _ (List.mem_map_of_mem hc)
  rw [hk, hl] at hfst hsnd
  exact ⟨fun heq => hfst (congrArg some heq), fun heq => hsnd (congrArg some heq)⟩

end Handled

/-- A batch of distinct messages is handled. Whatever the modules of the messages answer, the messages whose callback
fails keep their entries, the others lose their commitment and nothing else changes, exactly if no two messages of the
batch have the same commitment or answer the same request, and the requests of its responses are marked as answered. -/
theorem failed_timeouts_leave_no_trace_iff (h : (handleTimeout T msg).run w = (.ok res, w'))
    (hdistinct : msg.timeouts.Nodup) : (∀ router, LeavesNoTrace T msg w router) ↔ Separate T w msg.timeouts := by
  constructor
  · intro hall
    have hcommitments := nodup_commitments h hall hdistinct
    have hrequests : (msg.timeouts.map fun t => (t.keys T).map Prod.snd).Nodup := by
      by_cases hresponses : ∀ t ∈ msg.timeouts, t.isResponse = true
      · exact nodup_requests h hall hdistinct hresponses
      · have hsame : (msg.timeouts.map fun t => (t.keys T).map Prod.snd) =
            msg.timeouts.map fun t => (t.keys T).map Prod.fst := by
          apply List.map_congr_left
          intro t ht
          apply keys_request
          by_contra hresponse
          apply hresponses
          intro s hs
          exact (isResponse_timeouts hs ht).trans (Bool.not_eq_false _ ▸ hresponse)
        rw [hsame]
        exact hcommitments
    refine ⟨?_, fun t ht hresponse keys hkeys => responded_of_noTrace h hall ht hresponse hkeys⟩
    rw [List.Nodup, List.pairwise_map] at hcommitments hrequests
    refine (hcommitments.and hrequests).imp ?_
    intro s t hne k l hk hl
    rw [hk, hl] at hne
    exact ⟨fun heq => hne.1 (congrArg some heq), fun heq => hne.2 (congrArg some heq)⟩
  · intro hseparate router res w' hrun
    obtain ⟨-, results, hcollect, rfl⟩ := handleTimeout_ok_iff.mp hrun
    obtain ⟨turns, htimeouts, rfl, hturns⟩ := Turns.of_collect hcollect
    refine ⟨turns, hturns, htimeouts, rfl, ?_⟩
    have hkind : ∀ a ∈ turns, ∀ b ∈ turns, a.timeout.isResponse = b.timeout.isResponse := by
      intro a ha b hb
      have hmem : a.timeout ∈ msg.timeouts ∧ b.timeout ∈ msg.timeouts := by
        rw [← htimeouts]
        exact ⟨List.mem_map_of_mem ha, List.mem_map_of_mem hb⟩
      exact isResponse_timeouts hmem.1 hmem.2
    have hquiet : NoTrace (withRouter T router) w w' turns := noTrace_of_separate hturns hkind (htimeouts ▸ hseparate)
    exact hquiet

end Batches

def secondRequest : PostRequest := ⟨.polkadot 3367, .polkadot 2000, 1, [1], [2], 22, [3, 4]⟩

def twoWorld : World (Bytes → Nat) :=
  ((dispatchRequest balanceConfig (.post ⟨.polkadot 2000, [1], [2], 10, [3, 4]⟩) ⟨samplePayer, 5⟩).run paidWorld).2

def twoTimeouts : TimeoutMessage := .post [.post paidRequest, .post secondRequest] ⟨sampleHeight, []⟩

theorem separate_twoTimeouts : Separate balanceConfig twoWorld twoTimeouts.timeouts := by
  have hkeys : (Timeout.request (.post paidRequest)).keys balanceConfig ≠
      (Timeout.request (.post secondRequest)).keys balanceConfig := by decide +kernel
  constructor
  · refine List.pairwise_pair.mpr ?_
    intro k l hk hl
    rw [hk, hl] at hkeys
    have hk' := keys_request (T := balanceConfig) (t := .request (.post paidRequest)) rfl
    have hl' := keys_request (T := balanceConfig) (t := .request (.post secondRequest)) rfl
    rw [hk] at hk'
    rw [hl] at hl'
    have hne : k.1 ≠ l.1 := by
      intro heq
      have hsnd : k.2 = l.2 := (Option.some.inj hk').trans (heq.trans (Option.some.inj hl').symm)
      exact hkeys (congrArg some (Prod.ext heq hsnd))
    refine ⟨hne, ?_⟩
    rw [Option.some.inj hk', Option.some.inj hl']
    exact hne
  · intro t ht hresponse
    obtain ⟨r, -, rfl⟩ := List.mem_map.mp ht
    cases hresponse

theorem failed_timeouts_leave_no_trace_iff_sample :
    LeavesNoTrace balanceConfig twoTimeouts twoWorld fun _ => .ok (deciding (some (.request (.post paidRequest)))) := by
  have hok : ((handleTimeout balanceConfig twoTimeouts).run twoWorld).1 = .ok (.timeout
      [.ok (.postRequestTimeoutHandled paidCommitment (.polkadot 3367) (.polkadot 2000)),
        .ok (.postRequestTimeoutHandled (sampleCommitmentOf secondRequest) (.polkadot 3367) (.polkadot 2000))]) := by
    decide +kernel
  have hdistinct : twoTimeouts.timeouts.Nodup := by decide +kernel
  have hall := (failed_timeouts_leave_no_trace_iff (run_of_fst_ok hok) hdistinct).mpr separate_twoTimeouts
  exact hall _

/-- The body of `paidRequest` is at the end of `to`. -/
def twinRequest : PostRequest := ⟨.polkadot 3367, .polkadot 2000, 0, [1], [2, 3], 22, []⟩

def twinConfig : Config (Bytes → Nat) := withModule balanceConfig (some (.request (.post paidRequest)))

def twinTimeouts : TimeoutMessage := .post [.post twinRequest, .post paidRequest] ⟨sampleHeight, []⟩

/-- The callback of the twin fails and changes nothing, that of the request returns, and the commitment of the twin with
its metadata is gone. -/
theorem failed_timeout_loses_commitment :
    ∃ w', twinTimeouts.timeouts.Nodup ∧
      (handleTimeout twinConfig twinTimeouts).run fundedWorld = (.ok (.timeout [.error (.custom "Timeout rejected"),
        .ok (.postRequestTimeoutHandled paidCommitment (.polkadot 3367) (.polkadot 2000))]), w') ∧
      (Timeout.request (.post twinRequest)).entries twinConfig fundedWorld.host =
        some ⟨some ⟨⟨0, 0⟩, ⟨samplePayer, 8⟩, false⟩, none, false⟩ ∧
      (Timeout.request (.post twinRequest)).entries twinConfig w'.host = some ⟨none, none, false⟩ := by
  have hok : ((handleTimeout twinConfig twinTimeouts).run fundedWorld).1 =
    .ok (.timeout [.error (.custom "Timeout rejected"),
      .ok (.postRequestTimeoutHandled paidCommitment (.polkadot 3367) (.polkadot 2000))]) := by decide +kernel
  exact ⟨_, by decide +kernel, run_of_fst_ok hok, by decide +kernel, by decide +kernel⟩

end Hyperbridge.Ismp
