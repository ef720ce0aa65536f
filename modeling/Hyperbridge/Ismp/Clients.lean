import Hyperbridge.Ismp.Delivery
import Hyperbridge.Lib.History

/-!
# State commitments over time

A consensus client is created (`create_client`), brought up to date (`update_client`), and a fisherman can veto single
commitments (`delete_state_commitment`). Three maps are written: the commitments, their times, and the latest height of
a state machine. A veto resets the latest height to one and does not clear the time. Runs are logged call by call, and
the commitments judged by the log.
-/

namespace Hyperbridge.Ismp

open Lib Exec

structure CreateConsensusState where
  consensusState : Bytes
  consensusClientId : ConsensusClientId
  consensusStateId : ConsensusStateId
  unbondingPeriod : UInt64
  challengePeriods : List (StateMachine × UInt64)
  stateMachineCommitments : List (StateMachineId × StateCommitmentHeight)

structure UpdateConsensusState where
  consensusStateId : ConsensusStateId
  unbondingPeriod : Option UInt64
  challengePeriods : List (StateMachine × UInt64)

variable {Other : Type} (T : Config Other)

def storeUnbondingPeriod (id : ConsensusStateId) (period : UInt64) : Pallet Other Unit :=
  writes fun h => { h with unbondingPeriod := Function.update h.unbondingPeriod id (some period) }

def storeChallengePeriod (id : ConsensusStateId) (entry : StateMachine × UInt64) : Pallet Other Unit :=
  writes fun h =>
    { h with challengePeriod := Function.update h.challengePeriod ⟨entry.1, id⟩ (some entry.2) }

def storeInitialCommitment (entry : StateMachineId × StateCommitmentHeight) : Pallet Other Unit :=
  writes fun h =>
    { h with
      stateCommitments :=
        Function.update h.stateCommitments ⟨entry.1, entry.2.height⟩ (some entry.2.commitment)
      stateMachineUpdateTime :=
        Function.update h.stateMachineUpdateTime ⟨entry.1, entry.2.height⟩ (some (asSecs h.now))
      latestStateMachineHeight := Function.update h.latestStateMachineHeight entry.1 (some entry.2.height) }

/-- `create_client`, also for a consensus state that exists. -/
def createClient (message : CreateConsensusState) : Pallet Other (ConsensusClientId × ConsensusStateId) := do
  let id := message.consensusStateId
  let _ ← ofExcept (consensusClient T message.consensusClientId)
  writes fun h => { h with consensusStates := Function.update h.consensusStates id (some message.consensusState) }
  storeUnbondingPeriod id message.unbondingPeriod
  writes fun h =>
    { h with consensusStateClient := Function.update h.consensusStateClient id (some message.consensusClientId) }
  forEach (storeChallengePeriod id) message.challengePeriods
  forEach storeInitialCommitment message.stateMachineCommitments
  writes fun h =>
    { h with consensusClientUpdateTime := Function.update h.consensusClientUpdateTime id (some (asSecs h.now)) }
  pure (message.consensusClientId, id)

/-- `update_consensus_state`: the periods that are given. -/
def updateConsensusState (message : UpdateConsensusState) : Pallet Other Unit := do
  match message.unbondingPeriod with
  | some period => storeUnbondingPeriod message.consensusStateId period
  | none => pure ()
  forEach (storeChallengePeriod message.consensusStateId) message.challengePeriods

def deleteStateCommitment (height : StateMachineHeight) : Pallet Other Unit :=
  writes fun h =>
    { h with
      stateCommitments := Function.update h.stateCommitments height none
      latestStateMachineHeight :=
        if h.latestStateMachineHeight height.id = some height.height then
          Function.update h.latestStateMachineHeight height.id (some 1)
        else h.latestStateMachineHeight }

namespace Fishermen

inductive Error where
  | alreadyAdded
  | notInSet
  | unauthorizedAction
  | vetoFailed
  deriving DecidableEq

abbrev Storage (Other : Type) := Lens Other (Bytes → Bool)

variable (fishermen : Storage Other) (account : Bytes)

def isFisherman (w : World Other) : Bool := fishermen.get w.host.other account

def setFisherman (member : Bool) (w : World Other) : World Other :=
  others.set (fishermen.set (Function.update (fishermen.get w.host.other) account member) w.host.other) w

def add : Exec (World Other) Error Unit := do
  let known ← gets (isFisherman fishermen account)
  throwIf known .alreadyAdded
  modify (setFisherman fishermen account true)

def remove : Exec (World Other) Error Unit := do
  let known ← gets (isFisherman fishermen account)
  throwIf (!known) .notInSet
  modify (setFisherman fishermen account false)

/-- `veto_state_commitment`, by a fisherman. -/
def vetoStateCommitment (height : StateMachineHeight) :
    Exec (World Other) Error StateCommitment := do
  let known ← gets (isFisherman fishermen account)
  throwIf (!known) .unauthorizedAction
  let commitment ← mapErr (fun _ => .vetoFailed) (reads fun h => h.stateMachineCommitment height)
  mapErr (fun _ => .vetoFailed) (deleteStateCommitment height)
  pure commitment

end Fishermen

/-- The commitment is new. -/
def Stored (w w' : World Other) (height : StateMachineHeight) : Prop :=
  w.host.stateCommitments height = none ∧ (w'.host.stateCommitments height).isSome

def Dates (w w' : World Other) (height : StateMachineHeight) : Prop :=
  (Stored w w' height ∧ w'.host.stateMachineUpdateTime height = some (asSecs w.host.now)) ∨
    (w'.host.stateCommitments height = w.host.stateCommitments height ∧
      w'.host.stateMachineUpdateTime height = w.host.stateMachineUpdateTime height)

def Greatest (w w' : World Other) (id : StateMachineId) (height : UInt64) : Prop :=
  Stored w w' ⟨id, height⟩ ∧ ∀ height', Stored w w' ⟨id, height'⟩ → height' ≤ height

structure Raises (w w' : World Other) (id : StateMachineId) : Prop where
  le : w.host.latestCommitmentHeight id ≤ w'.host.latestCommitmentHeight id
  greatest : (∃ height, Stored w w' ⟨id, height⟩) →
    ∃ height, Greatest w w' id height ∧ w'.host.latestStateMachineHeight id = some height
  same : (∀ height, ¬ Stored w w' ⟨id, height⟩) →
    w'.host.latestStateMachineHeight id = w.host.latestStateMachineHeight id

/-- What an update does to the commitments. -/
structure Extends (w w' : World Other) : Prop where
  now : w'.host.now = w.host.now
  dates : ∀ height, Dates w w' height
  raises : ∀ id, Raises w w' id

variable {T} {w w' w'' : World Other}

variable {height : StateMachineHeight}

theorem Dates.kept {s : StateCommitment} (h : Dates w w' height)
    (hs : w.host.stateCommitments height = some s) : w'.host.stateCommitments height = some s := by
  rcases h with ⟨hstored, -⟩ | ⟨hsame, -⟩
  · rw [hstored.1] at hs
    cases hs
  · rw [hsame, hs]

theorem not_stored_self (height : StateMachineHeight) : ¬ Stored w w height := by
  rintro ⟨hnone, hsome⟩
  rw [hnone] at hsome
  cases hsome

theorem stored_trans (hab : Dates w w' height) (hbc : Dates w' w'' height) :
    Stored w w'' height ↔ Stored w w' height ∨ Stored w' w'' height := by
  constructor
  · rintro ⟨hnone, hsome⟩
    cases hmid : w'.host.stateCommitments height with
    | none => exact .inr ⟨hmid, hsome⟩
    | some s => exact .inl ⟨hnone, by rw [hmid]; rfl⟩
  · rintro (⟨hnone, hsome⟩ | ⟨hnone, hsome⟩)
    · obtain ⟨s, hs⟩ := Option.isSome_iff_exists.mp hsome
      exact ⟨hnone, by rw [hbc.kept hs]; rfl⟩
    · refine ⟨?_, hsome⟩
      by_contra hne
      obtain ⟨s, hs⟩ := Option.ne_none_iff_exists'.mp hne
      rw [hab.kept hs] at hnone
      cases hnone

theorem Dates.trans (hnow : w'.host.now = w.host.now) (hab : Dates w w' height)
    (hbc : Dates w' w'' height) : Dates w w'' height := by
  have hstored := stored_trans hab hbc
  rcases hbc with ⟨hstore, htime⟩ | ⟨hsame, htime⟩
  · exact .inl ⟨hstored.mpr (.inr hstore), by rw [htime, hnow]⟩
  · rcases hab with ⟨hstore', htime'⟩ | ⟨hsame', htime'⟩
    · exact .inl ⟨hstored.mpr (.inl hstore'), htime.trans htime'⟩
    · exact .inr ⟨hsame.trans hsame', htime.trans htime'⟩

variable {id : StateMachineId}

theorem Raises.trans (hdates : ∀ height, Dates w w' height) (hdates' : ∀ height, Dates w' w'' height)
    (hab : Raises w w' id) (hbc : Raises w' w'' id) : Raises w w'' id := by
  have hstored (height : UInt64) := stored_trans (hdates ⟨id, height⟩) (hdates' ⟨id, height⟩)
  refine ⟨UInt64.le_trans hab.le hbc.le, fun hsome => ?_, fun hnone => ?_⟩
  · by_cases hsecond : ∃ height, Stored w' w'' ⟨id, height⟩
    · -- the second step ends above the first one
      obtain ⟨height, hgreatest, hlatest⟩ := hbc.greatest hsecond
      refine ⟨height, ⟨(hstored height).mpr (.inr hgreatest.1), fun height' hheight' => ?_⟩, hlatest⟩
      rcases (hstored height').mp hheight' with hfirst | hlast
      · obtain ⟨top, htop, hlatest'⟩ := hab.greatest ⟨height', hfirst⟩
        have hle := hbc.le
        rw [Host.latestCommitmentHeight, Host.latestCommitmentHeight, hlatest, hlatest'] at hle
        exact UInt64.le_trans (htop.2 height' hfirst) hle
      · exact hgreatest.2 height' hlast
    · have hnone (height : UInt64) : ¬ Stored w' w'' ⟨id, height⟩ := fun h => hsecond ⟨height, h⟩
      obtain ⟨height, hheight⟩ := hsome
      obtain ⟨top, htop, hlatest⟩ := hab.greatest ⟨height, ((hstored height).mp hheight).resolve_right (hnone height)⟩
      refine ⟨top, ⟨(hstored top).mpr (.inl htop.1), fun height' hheight' => ?_⟩, (hbc.same hnone).trans hlatest⟩
      exact htop.2 height' (((hstored height').mp hheight').resolve_right (hnone height'))
  · have hfirst := hab.same fun height h => hnone height ((hstored height).mpr (.inl h))
    have hsecond := hbc.same fun height h => hnone height ((hstored height).mpr (.inr h))
    exact hsecond.trans hfirst

theorem Extends.of_same (hnow : w'.host.now = w.host.now)
    (hcommitments : w'.host.stateCommitments = w.host.stateCommitments)
    (htime : w'.host.stateMachineUpdateTime = w.host.stateMachineUpdateTime)
    (hlatest : w'.host.latestStateMachineHeight = w.host.latestStateMachineHeight) : Extends w w' := by
  have hstored (height : StateMachineHeight) : ¬ Stored w w' height := by
    rw [Stored, hcommitments]
    exact not_stored_self height
  refine ⟨hnow, fun height => .inr ⟨by rw [hcommitments], by rw [htime]⟩, fun id => ⟨?_, ?_, fun _ => by rw [hlatest]⟩⟩
  · rw [Host.latestCommitmentHeight, Host.latestCommitmentHeight, hlatest]
    exact UInt64.le_refl _
  · rintro ⟨height, h⟩
    exact absurd h (hstored _)

instance : IsPreorder (World Other) Extends where
  refl _ := .of_same rfl rfl rfl rfl
  trans _ _ _ hab hbc :=
    ⟨hbc.now.trans hab.now, fun height => (hab.dates height).trans hab.now (hbc.dates height),
      fun id => (hab.raises id).trans hab.dates hbc.dates (hbc.raises id)⟩

structure StoredFrom (id : StateMachineId) (previousLatest : UInt64) (cs : List StateCommitmentHeight)
    (last result : Option UInt64) (w w' : World Other) : Prop where
  now : w'.host.now = w.host.now
  latest : w'.host.latestStateMachineHeight = w.host.latestStateMachineHeight
  dates : ∀ height, Dates w w' height
  mem : ∀ height, Stored w w' height → height.id = id ∧ previousLatest ≤ height.height ∧
    ∃ c ∈ cs, c.height = height.height
  result : (result = last ∧ ∀ height, ¬ Stored w w' height) ∨ ∃ height, result = some height ∧ Greatest w w' id height

def withState (id : StateMachineId) (c : StateCommitmentHeight) (w : World Other) : World Other :=
  ⟨{ w.host with
      stateCommitments := Function.update w.host.stateCommitments ⟨id, c.height⟩ (some c.commitment)
      stateMachineUpdateTime :=
        Function.update w.host.stateMachineUpdateTime ⟨id, c.height⟩ (some (asSecs w.host.now)) }, w.trace⟩

theorem stateCommitments_withState (id : StateMachineId) (c : StateCommitmentHeight) (w : World Other) :
    (withState id c w).host.stateCommitments ⟨id, c.height⟩ = some c.commitment := Function.update_self ..

variable {c : StateCommitmentHeight}

theorem dates_withState (hnew : w.host.stateCommitments ⟨id, c.height⟩ = none) (height : StateMachineHeight) :
    Dates w (withState id c w) height := by
  by_cases heq : height = ⟨id, c.height⟩
  · rw [heq]
    refine .inl ⟨⟨hnew, ?_⟩, Function.update_self ..⟩
    rw [stateCommitments_withState]
    rfl
  · exact .inr ⟨Function.update_of_ne heq .., Function.update_of_ne heq ..⟩

theorem stored_withState (hnew : w.host.stateCommitments ⟨id, c.height⟩ = none) (height : StateMachineHeight) :
    Stored w (withState id c w) height ↔ height = ⟨id, c.height⟩ := by
  constructor
  · rintro ⟨hnone, hsome⟩
    by_contra hne
    have hsame : (withState id c w).host.stateCommitments height = w.host.stateCommitments height :=
      Function.update_of_ne hne ..
    rw [hsame, hnone] at hsome
    cases hsome
  · rintro rfl
    refine ⟨hnew, ?_⟩
    rw [stateCommitments_withState]
    rfl

variable {previousLatest : UInt64} {cs : List StateCommitmentHeight}

theorem StoredFrom.cons {last result : Option UInt64}
    (hnew : w.host.stateCommitments ⟨id, c.height⟩ = none) (hle : previousLatest ≤ c.height)
    (hsorted : ∀ c' ∈ cs, c.height ≤ c'.height)
    (h : StoredFrom id previousLatest cs (some c.height) result (withState id c w) w') :
    StoredFrom id previousLatest (c :: cs) last result w w' := by
  have hhead := dates_withState hnew
  have hnow : (withState id c w).host.now = w.host.now := rfl
  have hstored (height : StateMachineHeight) :
      Stored w w' height ↔ height = ⟨id, c.height⟩ ∨ Stored (withState id c w) w' height := by
    rw [stored_trans (hhead height) (h.dates height), stored_withState hnew]
  refine ⟨h.now, h.latest, fun height => (hhead height).trans hnow (h.dates height), fun height hheight => ?_, .inr ?_⟩
  · rcases (hstored height).mp hheight with rfl | hrest
    · exact ⟨rfl, hle, c, List.mem_cons_self .., rfl⟩
    · obtain ⟨hid, hprevious, c', hmem, hc'⟩ := h.mem height hrest
      exact ⟨hid, hprevious, c', List.mem_cons_of_mem _ hmem, hc'⟩
  · rcases h.result with ⟨hlast, hnone⟩ | ⟨top, htop, hgreatest⟩
    · refine ⟨c.height, hlast, (hstored _).mpr (.inl rfl), fun height' hheight' => ?_⟩
      rcases (hstored _).mp hheight' with heq | hrest
      · rw [(StateMachineHeight.mk.inj heq).2]
        exact UInt64.le_refl _
      · exact absurd hrest (hnone _)
    · refine ⟨top, htop, (hstored _).mpr (.inr hgreatest.1), fun height' hheight' => ?_⟩
      rcases (hstored _).mp hheight' with heq | hrest
      · -- the list is sorted, so what comes later is not below
        obtain ⟨-, -, c', hmem, hc'⟩ := h.mem _ hgreatest.1
        rw [(StateMachineHeight.mk.inj heq).2]
        exact UInt64.le_trans (hsorted c' hmem) (UInt64.le_of_eq hc')
      · exact hgreatest.2 height' hrest

theorem storeCommitments_ok {last result : Option UInt64} (hsorted : cs.Pairwise fun a b => a.height ≤ b.height)
    (h : (storeCommitments id previousLatest cs last).run w = (.ok result, w')) :
    StoredFrom id previousLatest cs last result w w' := by
  induction cs generalizing last w with
  | nil =>
    obtain ⟨hlast, rfl⟩ := Prod.mk.inj h
    refine ⟨rfl, rfl, fun _ => .inr ⟨rfl, rfl⟩, fun _ hstored => absurd hstored (not_stored_self _), .inl ⟨?_, ?_⟩⟩
    · exact (Outcome.ok.inj hlast).symm
    · exact not_stored_self
  | cons c cs ih =>
    obtain ⟨hhead, hrest⟩ := List.pairwise_cons.mp hsorted
    simp only [storeCommitments, gets_bind_run] at h
    split at h
    · have hskip := ih hrest h
      refine ⟨hskip.now, hskip.latest, hskip.dates, fun height hheight => ?_, hskip.result⟩
      obtain ⟨hid, hprevious, c', hmem, hc'⟩ := hskip.mem height hheight
      exact ⟨hid, hprevious, c', List.mem_cons_of_mem _ hmem, hc'⟩
    · rename_i hnew
      simp only [Bool.or_eq_true, decide_eq_true_eq, not_or, UInt64.not_lt, Option.not_isSome_iff_eq_none] at hnew
      exact .cons hnew.2 hnew.1 hhead (ih hrest h)

theorem exists_storeCommitments_run (id : StateMachineId) (previousLatest : UInt64) (cs : List StateCommitmentHeight)
    (last : Option UInt64) (w : World Other) :
    ∃ result w', (storeCommitments id previousLatest cs last).run w = (.ok result, w') := by
  induction cs generalizing last w with
  | nil => exact ⟨last, w, rfl⟩
  | cons c cs ih =>
    simp only [storeCommitments, gets_bind_run]
    split
    · exact ih last w
    · exact ih (some c.height) _

theorem StoredFrom.extends_of_none (h : StoredFrom id previousLatest cs none none w w') : Extends w w' := by
  have hnone : ∀ height, ¬ Stored w w' height := by
    rcases h.result with ⟨-, hnone⟩ | ⟨_, hsome, -⟩
    · exact hnone
    · cases hsome
  refine ⟨h.now, h.dates, fun id' => ⟨?_, fun ⟨height, hheight⟩ => absurd hheight (hnone _), fun _ => by rw [h.latest]⟩⟩
  rw [Host.latestCommitmentHeight, Host.latestCommitmentHeight, h.latest]
  exact UInt64.le_refl _

def withLatest (id : StateMachineId) (latest : UInt64) (w : World Other) : World Other :=
  ⟨{ w.host with
    latestStateMachineHeight := Function.update w.host.latestStateMachineHeight id (some latest) }, w.trace⟩

theorem StoredFrom.extends_of_some {latest : UInt64}
    (h : StoredFrom id (w.host.latestCommitmentHeight id) cs none (some latest) w w') :
    Extends w (withLatest id latest w') := by
  have hgreatest : Greatest w w' id latest := by
    rcases h.result with ⟨hlast, -⟩ | ⟨height, hheight, hgreatest⟩
    · cases hlast
    · obtain rfl := Option.some.inj hheight
      exact hgreatest
  refine ⟨h.now, h.dates, fun id' => ?_⟩
  by_cases hid : id' = id
  · subst hid
    have hlatest : (withLatest id' latest w').host.latestStateMachineHeight id' = some latest := Function.update_self ..
    refine ⟨?_, fun _ => ⟨latest, hgreatest, hlatest⟩, fun hnone => absurd hgreatest.1 (hnone latest)⟩
    rw [Host.latestCommitmentHeight.eq_def (withLatest id' latest w').host, hlatest]
    exact (h.mem _ hgreatest.1).2.1
  · have hlatest : (withLatest id latest w').host.latestStateMachineHeight id' = w.host.latestStateMachineHeight id' :=
      (Function.update_of_ne hid ..).trans (congrFun h.latest id')
    refine ⟨?_, fun ⟨height, hheight⟩ => absurd (h.mem _ hheight).1 hid, fun _ => hlatest⟩
    rw [Host.latestCommitmentHeight, Host.latestCommitmentHeight, hlatest]
    exact UInt64.le_refl _

theorem pairwise_sorted (cs : List StateCommitmentHeight) :
    (cs.insertionSort fun a b => a.height ≤ b.height).Pairwise fun a b => a.height ≤ b.height := by
  have : Std.Total fun a b : StateCommitmentHeight => a.height ≤ b.height := ⟨fun a b => UInt64.le_total ..⟩
  have : IsTrans StateCommitmentHeight fun a b => a.height ≤ b.height := ⟨fun _ _ _ => UInt64.le_trans⟩
  exact List.pairwise_insertionSort _ cs

theorem exists_updateStateMachine_run (id : ConsensusStateId) (entry : StateMachine × List StateCommitmentHeight)
    (w : World Other) : ∃ update w', (updateStateMachine id entry).run w = (.ok update, w') := by
  obtain ⟨result, w', hrun⟩ := exists_storeCommitments_run ⟨entry.1, id⟩ (w.host.latestCommitmentHeight ⟨entry.1, id⟩)
    (entry.2.insertionSort fun a b => a.height ≤ b.height) none w
  rw [updateStateMachine, gets_bind_run, bind_run, hrun]
  cases result with
  | none => exact ⟨none, w', rfl⟩
  | some latest => exact ⟨_, withLatest ⟨entry.1, id⟩ latest w', rfl⟩

theorem extends_updateStateMachine (id : ConsensusStateId) (entry : StateMachine × List StateCommitmentHeight) :
    Keeps Extends (updateStateMachine id entry : Pallet Other _) := by
  intro w _
  obtain ⟨result, w', hrun⟩ := exists_storeCommitments_run ⟨entry.1, id⟩ (w.host.latestCommitmentHeight ⟨entry.1, id⟩)
    (entry.2.insertionSort fun a b => a.height ≤ b.height) none w
  have hstored := storeCommitments_ok (pairwise_sorted entry.2) hrun
  rw [updateStateMachine, gets_bind_run, bind_run, hrun]
  cases result with
  | none => exact hstored.extends_of_none
  | some latest => exact hstored.extends_of_some

/-- An update extends the commitments. -/
theorem extends_updateClient (msg : ConsensusMessage) : Keeps Extends (updateClient T msg) := by
  refine (keeps_reads _).bind fun verified => Keeps.bind (Keeps.modify fun w => ?_) fun _ => ?_
  · exact .of_same rfl rfl rfl rfl
  · exact (Keeps.collect fun entry _ => extends_updateStateMachine _ entry).bind fun _ => Keeps.pure _

theorem failsClean_updateClient (msg : ConsensusMessage) : FailsClean (updateClient T msg) := by
  refine FailsClean.bind (keeps_reads _) fun verified => FailsClean.of_total fun w => ?_
  have htotal (entry : StateMachine × List StateCommitmentHeight) (v : World Other) :=
    exists_updateStateMachine_run msg.consensusStateId entry v
  obtain ⟨updates, w', hupdates⟩ := exists_collect_run htotal verified.2 _
  exact ⟨_, w', bind_ok.mpr ⟨(), _, rfl, bind_ok.mpr ⟨updates, w', hupdates, rfl⟩⟩⟩

/-- Commitments, update times and the clock are as they were. -/
structure Unmoved (w w' : World Other) : Prop where
  stateCommitments : w'.host.stateCommitments = w.host.stateCommitments
  stateMachineUpdateTime : w'.host.stateMachineUpdateTime = w.host.stateMachineUpdateTime
  now : w'.host.now = w.host.now

instance : IsPreorder (World Other) Unmoved where
  refl _ := ⟨rfl, rfl, rfl⟩
  trans _ _ _ hab hbc := ⟨hbc.1.trans hab.1, hbc.2.trans hab.2, hbc.3.trans hab.3⟩

theorem unmoved_storeChallengePeriods (id : ConsensusStateId) (periods : List (StateMachine × UInt64)) :
    Keeps Unmoved (forEach (storeChallengePeriod id) periods : Pallet Other Unit) :=
  Keeps.forEach fun _ _ => Keeps.modify fun _ => ⟨rfl, rfl, rfl⟩

theorem unmoved_updateConsensusState (message : UpdateConsensusState) :
    Keeps Unmoved (updateConsensusState message : Pallet Other Unit) := by
  unfold updateConsensusState
  cases message.unbondingPeriod with
  | none => exact (Keeps.pure _).bind fun _ => unmoved_storeChallengePeriods _ _
  | some period =>
    exact Keeps.bind (Keeps.modify fun _ => ⟨rfl, rfl, rfl⟩) fun _ => unmoved_storeChallengePeriods _ _

def CreateConsensusState.Has (message : CreateConsensusState) (height : StateMachineHeight) : Prop :=
  ∃ c, (height.id, c) ∈ message.stateMachineCommitments ∧ c.height = height.height

theorem storeInitialCommitments_ok {entries : List (StateMachineId × StateCommitmentHeight)} {u : Unit}
    (h : (forEach storeInitialCommitment entries).run w = (.ok u, w')) :
    w'.host.now = w.host.now ∧ ∀ height,
      ((∃ c, (height.id, c) ∈ entries ∧ c.height = height.height) ∧ (w'.host.stateCommitments height).isSome ∧
        w'.host.stateMachineUpdateTime height = some (asSecs w.host.now)) ∨
      ((¬ ∃ c, (height.id, c) ∈ entries ∧ c.height = height.height) ∧
        w'.host.stateCommitments height = w.host.stateCommitments height ∧
        w'.host.stateMachineUpdateTime height = w.host.stateMachineUpdateTime height) := by
  induction entries generalizing w with
  | nil =>
    obtain ⟨-, rfl⟩ := Prod.mk.inj h
    exact ⟨rfl, fun height => .inr ⟨by simp, rfl, rfl⟩⟩
  | cons entry entries ih =>
    obtain ⟨_, w₁, hhead, hrest⟩ := bind_ok.mp h
    obtain ⟨-, rfl⟩ := Prod.mk.inj hhead
    obtain ⟨hnow, hheights⟩ := ih hrest
    refine ⟨hnow, fun height => ?_⟩
    rcases hheights height with ⟨⟨c, hmem, hc⟩, hsome, htime⟩ | ⟨hnot, hsame, htime⟩
    · exact .inl ⟨⟨c, List.mem_cons_of_mem _ hmem, hc⟩, hsome, htime⟩
    · by_cases heq : height = ⟨entry.1, entry.2.height⟩
      · subst heq
        have hstored := hsame.trans (Function.update_self ..)
        exact .inl ⟨⟨entry.2, List.mem_cons_self .., rfl⟩, by rw [hstored]; rfl, htime.trans (Function.update_self ..)⟩
      · refine .inr ⟨?_, hsame.trans (Function.update_of_ne heq ..), htime.trans (Function.update_of_ne heq ..)⟩
        rintro ⟨c, hmem, hc⟩
        rcases List.mem_cons.mp hmem with hentry | hmem
        · refine heq ?_
          rw [← hentry, hc]
        · exact hnot ⟨c, hmem, hc⟩

theorem createClient_ok {message : CreateConsensusState} {r : ConsensusClientId × ConsensusStateId}
    (h : (createClient T message).run w = (.ok r, w')) :
    w'.host.now = w.host.now ∧ ∀ height, (message.Has height ∧ (w'.host.stateCommitments height).isSome ∧
        w'.host.stateMachineUpdateTime height = some (asSecs w.host.now)) ∨
      (¬ message.Has height ∧ w'.host.stateCommitments height = w.host.stateCommitments height ∧
        w'.host.stateMachineUpdateTime height = w.host.stateMachineUpdateTime height) := by
  obtain ⟨_, -, h⟩ := ofExcept_bind_ok.mp h
  simp only [storeUnbondingPeriod, writes, modify_bind_run] at h
  obtain ⟨_, w₁, hperiods, h⟩ := bind_ok.mp h
  obtain ⟨_, w₂, hcommitments, h⟩ := bind_ok.mp h
  obtain ⟨-, rfl⟩ := Prod.mk.inj h
  have hunmoved := (unmoved_storeChallengePeriods _ _).of_ok hperiods
  obtain ⟨hnow, hheights⟩ := storeInitialCommitments_ok hcommitments
  rw [hunmoved.now, hunmoved.stateCommitments, hunmoved.stateMachineUpdateTime] at hheights
  exact ⟨hnow.trans hunmoved.now, hheights⟩

theorem vetoStateCommitment_ok {fishermen : Fishermen.Storage Other} {account : Bytes}
    {s : StateCommitment} : (Fishermen.vetoStateCommitment fishermen account height).run w = (.ok s, w') ↔
      Fishermen.isFisherman fishermen account w = true ∧ w.host.stateCommitments height = some s ∧
        (deleteStateCommitment height).run w = (.ok (), w') := by
  rw [Fishermen.vetoStateCommitment, gets_bind_run, throwIf_bind_ok, bind_ok, Bool.not_eq_false']
  refine and_congr_right fun _ => ?_
  simp only [mapErr_ok, bind_ok, reads, query_ok, Host.stateMachineCommitment, okOr_eq_ok]
  constructor
  · rintro ⟨s', w₁, ⟨hs, rfl⟩, _, w₂, hdelete, h⟩
    obtain ⟨rfl, rfl⟩ := pure_ok.mp h
    exact ⟨hs, hdelete⟩
  · rintro ⟨hs, hdelete⟩
    exact ⟨s, w, ⟨hs, rfl⟩, (), w', hdelete, rfl⟩

namespace Clients

inductive Call where
  | create (message : CreateConsensusState)
  | update (msg : ConsensusMessage)
  | delete (height : StateMachineHeight)

def Call.Runs (T : Config Other) (w w' : World Other) : Call → Prop
  | create message => ∃ r, (createClient T message).run w = (.ok r, w')
  | update msg => ∃ r, (updateClient T msg).run w = (.ok r, w')
  | delete height => (deleteStateCommitment height).run w = (.ok (), w')

structure Entry (Other : Type) where
  before : World Other
  call : Call
  after : World Other

/-- The call stored this value at the height. -/
def Entry.Stores (e : Entry Other) (height : StateMachineHeight) (s : StateCommitment) : Prop :=
  e.after.host.stateCommitments height = some s ∧ match e.call with
    | .create message => message.Has height
    | .update _ => e.before.host.stateCommitments height = none
    | .delete _ => False

/-- The call stored or deleted the value at the height. -/
def Entry.Touches (height : StateMachineHeight) (e : Entry Other) : Prop :=
  (∃ s, e.Stores height s) ∨ e.call = .delete height

inductive Run (T : Config Other) (w₀ : World Other) : List (Entry Other) → World Other → Prop
  | start : Run T w₀ [] w₀
  | call {log : List (Entry Other)} {w w' : World Other} {call : Call} (run : Run T w₀ log w)
      (hcall : call.Runs T w w') : Run T w₀ (log ++ [⟨w, call, w'⟩]) w'
  | tick {log : List (Entry Other)} {w : World Other} {now : Duration} (run : Run T w₀ log w)
      (hnow : w.host.now ≤ now) : Run T w₀ log ⟨{ w.host with now := now }, w.trace⟩
  | elsewhere {log : List (Entry Other)} {w w' : World Other} (run : Run T w₀ log w) (hsame : Unmoved w w') :
      Run T w₀ log w'

theorem Call.Runs.cases {call : Call} (h : call.Runs T w w') (height : StateMachineHeight) :
    (∃ s, Entry.Stores ⟨w, call, w'⟩ height s ∧ w'.host.stateMachineUpdateTime height = some (asSecs w.host.now)) ∨
    w'.host.stateCommitments height = none ∨
    (¬ Entry.Touches height ⟨w, call, w'⟩ ∧ w'.host.stateCommitments height = w.host.stateCommitments height ∧
      w'.host.stateMachineUpdateTime height = w.host.stateMachineUpdateTime height) := by
  cases call with
  | create message =>
    obtain ⟨r, h⟩ := h
    rcases (createClient_ok h).2 height with ⟨hhas, hsome, htime⟩ | ⟨hnot, hsame, htime⟩
    · obtain ⟨s, hs⟩ := Option.isSome_iff_exists.mp hsome
      exact .inl ⟨s, ⟨hs, hhas⟩, htime⟩
    · refine .inr (.inr ⟨?_, hsame, htime⟩)
      rintro (⟨s, -, hhas⟩ | hdelete)
      · exact hnot hhas
      · cases hdelete
  | update msg =>
    obtain ⟨r, h⟩ := h
    rcases ((extends_updateClient msg).of_ok h).dates height with ⟨⟨hnone, hsome⟩, htime⟩ | ⟨hsame, htime⟩
    · obtain ⟨s, hs⟩ := Option.isSome_iff_exists.mp hsome
      exact .inl ⟨s, ⟨hs, hnone⟩, htime⟩
    · refine .inr (.inr ⟨?_, hsame, htime⟩)
      rintro (⟨s, hs, hnone⟩ | hdelete)
      · exact absurd (hs.symm.trans (hsame.trans hnone)) (Option.some_ne_none s)
      · cases hdelete
  | delete height' =>
    obtain ⟨-, rfl⟩ := Prod.mk.inj h
    by_cases heq : height = height'
    · subst heq
      exact .inr (.inl (Function.update_self ..))
    · refine .inr (.inr ⟨?_, Function.update_of_ne heq .., rfl⟩)
      rintro (⟨s, -, hfalse⟩ | hdelete)
      · exact hfalse
      · exact heq (Call.delete.inj hdelete).symm

theorem Call.Runs.now {call : Call} (h : call.Runs T w w') : w'.host.now = w.host.now := by
  cases call with
  | create message =>
    obtain ⟨r, h⟩ := h
    exact (createClient_ok h).1
  | update msg =>
    obtain ⟨r, h⟩ := h
    exact ((extends_updateClient msg).of_ok h).now
  | delete height =>
    obtain ⟨-, rfl⟩ := Prod.mk.inj h
    rfl

def Dated (log : List (Entry Other)) (w : World Other) : Prop :=
  ∀ height s, w.host.stateCommitments height = some s → ∃ e, Last (Entry.Touches height) log e ∧ e.Stores height s ∧
    w.host.stateMachineUpdateTime height = some (asSecs e.before.host.now) ∧ e.before.host.now ≤ w.host.now

theorem Dated.call {log : List (Entry Other)} {call : Call} (hdated : Dated log w) (h : call.Runs T w w') :
    Dated (log ++ [⟨w, call, w'⟩]) w' := by
  intro height s hs
  rcases h.cases height with ⟨s', hstores, htime⟩ | hnone | ⟨huntouched, hsame, htime⟩
  · obtain rfl : s' = s := Option.some.inj (hstores.1.symm.trans hs)
    exact ⟨_, .of_new log (.inl ⟨s', hstores⟩), hstores, htime, Nat.le_of_eq h.now.symm⟩
  · rw [hnone] at hs
    cases hs
  · obtain ⟨e, hlast, hstores, htime', hnow⟩ := hdated height s (hsame.symm.trans hs)
    exact ⟨e, hlast.append huntouched, hstores, htime.trans htime', Nat.le_trans hnow (Nat.le_of_eq h.now.symm)⟩

theorem Run.dated {w₀ : World Other} {log : List (Entry Other)}
    (hempty : ∀ height, w₀.host.stateCommitments height = none) (hrun : Run T w₀ log w) : Dated log w := by
  induction hrun with
  | start =>
    intro height s hs
    rw [hempty] at hs
    cases hs
  | call run hcall ih => exact ih.call hcall
  | tick run hnow ih =>
    intro height s hs
    obtain ⟨e, hlast, hstores, htime, hle⟩ := ih height s hs
    exact ⟨e, hlast, hstores, htime, Nat.le_trans hle hnow⟩
  | elsewhere run hsame ih =>
    intro height s hs
    rw [hsame.stateCommitments] at hs
    rw [hsame.stateMachineUpdateTime, hsame.now]
    exact ih height s hs

/-- An update changes no commitment that is stored, never lowers the latest height of a state machine, and sets it to
the greatest height it stored for it, if any. Over every run from empty maps, the value at a height was stored by the
last call that touched the height, and its update time is the clock of that call in whole seconds. -/
theorem state_commitments_immutable (T : Config Other) :
    (∀ msg w r w', (updateClient T msg).run w = (.ok r, w') →
      (∀ height s, w.host.stateCommitments height = some s → w'.host.stateCommitments height = some s) ∧
      (∀ id, w.host.latestCommitmentHeight id ≤ w'.host.latestCommitmentHeight id) ∧
      (∀ id, (∃ height, Stored w w' ⟨id, height⟩) →
        ∃ height, Greatest w w' id height ∧ w'.host.latestStateMachineHeight id = some height) ∧
      ∀ id, (∀ height, ¬ Stored w w' ⟨id, height⟩) →
        w'.host.latestStateMachineHeight id = w.host.latestStateMachineHeight id) ∧
    (∀ msg w e w', (updateClient T msg).run w = (.err e, w') → w' = w) ∧
    ∀ w₀ log w, (∀ height, w₀.host.stateCommitments height = none) → Run T w₀ log w →
      ∀ height s, w.host.stateCommitments height = some s → ∃ e, Last (Entry.Touches height) log e ∧ e.Stores height s ∧
        w.host.stateMachineUpdateTime height = some (asSecs e.before.host.now) := by
  refine ⟨fun msg w r w' h => ?_, fun msg w e w' h => failsClean_updateClient msg w e w' h,
    fun w₀ log w hempty hrun height s hs => ?_⟩
  · have hextends := (extends_updateClient msg).of_ok h
    refine ⟨fun height s hs => (hextends.dates height).kept hs, fun id => (hextends.raises id).le,
      fun id => (hextends.raises id).greatest, fun id => (hextends.raises id).same⟩
  · obtain ⟨e, hlast, hstores, htime, -⟩ := hrun.dated hempty height s hs
    exact ⟨e, hlast, hstores, htime⟩

def stateAt (timestamp : UInt64) : StateCommitment := ⟨timestamp, none, BytesN.zero 32⟩

def updatingConfig : Config Unit :=
  { sampleConfig with
    consensusClients :=
      [{ consensusClientId := sampleConsensusId
         verifyConsensus := fun _ _ _ _ => .ok ([1], [(.polkadot 2000, [⟨stateAt 30, 3⟩, ⟨stateAt 20, 2⟩])])
         verifyFraudProof := fun _ _ _ _ => .error (.custom "no fraud proof")
         stateMachine := fun _ => .error (.custom "unsupported state machine") }] }

def updatingWorld : World Unit :=
  ⟨{ sampleHost with
     consensusStates := fun _ => some [0]
     consensusClientUpdateTime := fun _ => some 10
     unbondingPeriod := fun _ => some 100 }, []⟩

def updatedWorld : World Unit := ((updateClient updatingConfig ⟨[], sampleConsensusId, []⟩).run updatingWorld).2

/-- Height 1 was stored before; heights 2 and 3 are new, and 3 becomes the latest one. -/
theorem state_commitments_immutable_sample :
    (updateClient updatingConfig ⟨[], sampleConsensusId, []⟩).run updatingWorld =
        (.ok (.consensusMessage [.stateMachineUpdated sampleHeight.id 3]), updatedWorld) ∧
      updatedWorld.host.stateCommitments sampleHeight = some (stateAt 10) ∧
      updatedWorld.host.stateCommitments ⟨sampleHeight.id, 2⟩ = some (stateAt 20) ∧
      updatedWorld.host.stateCommitments ⟨sampleHeight.id, 3⟩ = some (stateAt 30) ∧
      updatedWorld.host.latestStateMachineHeight sampleHeight.id = some 3 ∧
      updatedWorld.host.stateMachineUpdateTime ⟨sampleHeight.id, 3⟩ = some 12 := by
  have hcall : ((updateClient updatingConfig ⟨[], sampleConsensusId, []⟩).run updatingWorld).1 =
      .ok (.consensusMessage [.stateMachineUpdated sampleHeight.id 3]) := by decide +kernel
  have hrun := run_of_fst_ok hcall
  have hkept := ((state_commitments_immutable updatingConfig).1 _ _ _ _ hrun).1 sampleHeight (stateAt 10)
    (by decide +kernel)
  exact ⟨hrun, hkept, by decide +kernel, by decide +kernel, by decide +kernel, by decide +kernel⟩

end Clients

end Hyperbridge.Ismp
