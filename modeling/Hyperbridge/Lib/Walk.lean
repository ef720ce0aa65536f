import Mathlib.Data.List.Chain
import Mathlib.Data.List.Nodup
import Mathlib.Data.Finset.Card
import Mathlib.Logic.Relation

/-!
# Walks along a partial function

`walk next goal n a` follows `next` from `a` until it stands at `goal`, for at most `n` steps. Such a loop need
not end: the fuel is enough when it is the number of points that have a next one, because a walk that ends
passes no point twice.
-/

namespace Hyperbridge.Lib

inductive Walked (α : Type*) where
  | arrived (route : List α)
  | lost
  | running
  deriving DecidableEq

variable {α : Type*}

inductive Route (next : α → Option α) (goal : α) : α → List α → α → Prop
  | stop {a : α} (h : a = goal ∨ next a = none) : Route next goal a [] a
  | step {a b e : α} {l : List α} (hne : a ≠ goal) (hnext : next a = some b) (rest : Route next goal b l e) :
      Route next goal a (a :: l) e

variable {next : α → Option α} {goal a b e : α} {l : List α}

namespace Route

/-- A walk has one route. -/
theorem unique (h : Route next goal a l e) {l' : List α} {e' : α} (h' : Route next goal a l' e') :
    l = l' ∧ e = e' := by
  induction h generalizing l' e' with
  | stop hstop =>
    cases h' with
    | stop _ => exact ⟨rfl, rfl⟩
    | step hne hnext _ =>
      rcases hstop with heq | hnone
      · exact absurd heq hne
      · rw [hnone] at hnext
        cases hnext
  | step hne hnext _ ih =>
    cases h' with
    | stop hstop =>
      rcases hstop with heq | hnone
      · exact absurd heq hne
      · rw [hnone] at hnext
        cases hnext
    | step _ hnext' rest =>
      obtain rfl := Option.some.inj (hnext.symm.trans hnext')
      obtain ⟨rfl, rfl⟩ := ih rest
      exact ⟨rfl, rfl⟩

theorem suffix_of_mem (h : Route next goal a l e) {x : α} (hx : x ∈ l) : ∃ l', Route next goal x l' e ∧ l' <:+ l := by
  induction h with
  | stop _ => cases hx
  | @step a b e l hne hnext rest ih =>
    rcases List.mem_cons.mp hx with rfl | hx
    · exact ⟨_, .step hne hnext rest, List.suffix_rfl⟩
    · obtain ⟨l', hl', hsuffix⟩ := ih hx
      exact ⟨l', hl', hsuffix.trans (List.suffix_cons a l)⟩

/-- No point is passed twice. -/
theorem nodup (h : Route next goal a l e) : l.Nodup := by
  induction h with
  | stop _ => exact List.nodup_nil
  | @step a b e l hne hnext rest ih =>
    refine List.nodup_cons.mpr ⟨fun hmem => ?_, ih⟩
    -- the walk from `a` would be shorter than itself
    obtain ⟨l', hl', hsuffix⟩ := rest.suffix_of_mem hmem
    obtain ⟨hsame, -⟩ := hl'.unique (.step hne hnext rest)
    have hlen := hsuffix.length_le
    rw [hsame, List.length_cons] at hlen
    omega

theorem head_mem (h : Route next goal a l e) (hne : a ≠ e) : a ∈ l := by
  cases h with
  | stop _ => exact absurd rfl hne
  | step _ _ _ => exact List.mem_cons_self

theorem goal_not_mem (h : Route next goal a l e) : goal ∉ l := by
  induction h with
  | stop _ => exact List.not_mem_nil
  | step hne _ _ ih =>
    intro hmem
    rcases List.mem_cons.mp hmem with heq | hmem
    · exact hne heq.symm
    · exact ih hmem

theorem start (h : Route next goal a l e) : a = e ∨ next a ≠ none := by
  cases h with
  | stop _ => exact .inl rfl
  | step _ hnext _ => exact .inr (by simp [hnext])

theorem mem_of_next (h : Route next goal a l e) {dom : List α} (hdom : ∀ x, next x ≠ none → x ∈ dom) : l ⊆ dom := by
  induction h with
  | stop _ => exact List.nil_subset _
  | @step a b e l hne hnext rest ih =>
    refine List.cons_subset.mpr ⟨hdom a ?_, ih⟩
    rw [hnext]
    exact Option.some_ne_none b

theorem length_le (h : Route next goal a l e) {dom : List α} (hdom : ∀ x, next x ≠ none → x ∈ dom) :
    l.length ≤ dom.length :=
  (h.nodup.subperm (h.mem_of_next hdom)).length_le

theorem head?_eq (h : Route next goal a l e) : (l ++ [e]).head? = some a := by
  cases h <;> rfl

theorem isChain (h : Route next goal a l e) : (l ++ [e]).IsChain fun x y => next x = some y := by
  induction h with
  | stop _ => exact List.isChain_singleton _
  | step hne hnext rest ih =>
    rw [List.cons_append, List.isChain_cons]
    refine ⟨fun y hy => ?_, ih⟩
    rw [rest.head?_eq] at hy
    rw [hnext, Option.mem_some.mp hy]

theorem mono {next' : α → Option α} (hnext : ∀ x y, next x = some y → next' x = some y)
    (h : Route next goal a l e) (he : e = goal) : Route next' goal a l e := by
  induction h with
  | stop _ => exact .stop (.inl he)
  | step hne hstep _ ih => exact .step hne (hnext _ _ hstep) (ih he)

end Route

/-- `b` is reached from `a`, in no step or in some. -/
def Leads (next : α → Option α) : α → α → Prop := Relation.ReflTransGen fun a b => next a = some b

/-- In at least one step. -/
def LeadsOn (next : α → Option α) : α → α → Prop := Relation.TransGen fun a b => next a = some b

theorem leads_next {x : α} (hnext : next a = some b) : Leads next a x ↔ a = x ∨ Leads next b x := by
  rw [Leads, Relation.ReflTransGen.cases_head_iff]
  refine or_congr_right ⟨?_, fun h => ⟨b, hnext, h⟩⟩
  rintro ⟨b', hnext', h⟩
  obtain rfl := Option.some.inj (hnext.symm.trans hnext')
  exact h

theorem leadsOn_next {x : α} (hnext : next a = some b) : LeadsOn next a x ↔ Leads next b x := by
  rw [LeadsOn, Relation.TransGen.head'_iff]
  refine ⟨?_, fun h => ⟨b, hnext, h⟩⟩
  rintro ⟨b', hnext', h⟩
  obtain rfl := Option.some.inj (hnext.symm.trans hnext')
  exact h

theorem Route.leads_iff (h : Route next goal a l e) {x : α} : Leads next a x ↔ x ∈ l ∨ Leads next e x := by
  induction h with
  | stop _ => simp
  | step hne hnext _ ih => rw [leads_next hnext, ih, List.mem_cons, or_assoc, eq_comm]

theorem Leads.exists_route (h : Leads next a goal) : ∃ l, Route next goal a l goal := by
  induction h using Relation.ReflTransGen.head_induction_on with
  | refl => exact ⟨[], .stop (.inl rfl)⟩
  | @head a b hnext _ ih =>
    by_cases hgoal : a = goal
    · subst hgoal
      exact ⟨[], .stop (.inl rfl)⟩
    · obtain ⟨l, hroute⟩ := ih
      exact ⟨a :: l, .step hgoal hnext hroute⟩

theorem exists_route_iff : (∃ l, Route next goal a l goal) ↔ Leads next a goal := by
  refine ⟨?_, Leads.exists_route⟩
  rintro ⟨l, hroute⟩
  exact hroute.leads_iff.mpr (.inr .refl)

theorem Route.leadsOn_self_iff (h : Route next goal a l goal) (hgoal : next goal = some b) :
    LeadsOn next a a ↔ Leads next b a := by
  have hnodup := h.nodup
  cases h with
  | stop _ => exact leadsOn_next hgoal
  | step hne hnext rest =>
    have hnot := (List.nodup_cons.mp hnodup).1
    rw [leadsOn_next hnext, rest.leads_iff, leads_next hgoal]
    simp [hnot, Ne.symm hne]

/-- One point earlier. -/
def Walked.cons (a : α) : Walked α → Walked α
  | arrived route => arrived (a :: route)
  | lost => lost
  | running => running

theorem cons_eq_arrived {w : Walked α} {route : List α} :
    w.cons a = .arrived route ↔ ∃ rest, w = .arrived rest ∧ a :: rest = route := by
  cases w <;> simp [Walked.cons]

theorem cons_eq_running {w : Walked α} : w.cons a = .running ↔ w = .running := by
  cases w <;> simp [Walked.cons]

section Loop

variable [DecidableEq α]

/-- The route lists the points from the first to the goal. -/
def walk (next : α → Option α) (goal : α) : Nat → α → Walked α
  | 0, a => if a = goal then .arrived [a] else .running
  | fuel + 1, a =>
    if a = goal then .arrived [a]
    else match next a with
      | none => .lost
      | some b => (walk next goal fuel b).cons a

theorem walk_goal (n : Nat) : walk next goal n goal = .arrived [goal] := by
  cases n <;> exact if_pos rfl

theorem walk_some (n : Nat) (hne : a ≠ goal) (hnext : next a = some b) :
    walk next goal (n + 1) a = (walk next goal n b).cons a := by
  rw [walk, if_neg hne, hnext]

theorem Route.walk (h : Route next goal a l e) (he : e = goal) {n : Nat} (hn : l.length ≤ n) :
    walk next goal n a = .arrived (l ++ [goal]) := by
  induction h generalizing n with
  | stop _ =>
    subst he
    exact walk_goal n
  | @step a b e l hne hnext rest ih =>
    rw [List.length_cons] at hn
    obtain ⟨m, rfl⟩ : ∃ m, n = m + 1 := ⟨n - 1, by omega⟩
    rw [walk_some m hne hnext, ih he (by omega)]
    rfl

/-- Where the walk arrives, it took a route. -/
theorem route_of_walk {n : Nat} {route : List α} (h : walk next goal n a = .arrived route) :
    ∃ l, Route next goal a l goal ∧ route = l ++ [goal] := by
  induction n generalizing a route with
  | zero =>
    rw [walk] at h
    split at h
    · rename_i heq
      subst heq
      exact ⟨[], .stop (.inl rfl), (Walked.arrived.inj h).symm⟩
    · cases h
  | succ n ih =>
    rw [walk] at h
    split at h
    · rename_i heq
      subst heq
      exact ⟨[], .stop (.inl rfl), (Walked.arrived.inj h).symm⟩
    · rename_i hne
      cases hnext : next a with
      | none =>
        rw [hnext] at h
        cases h
      | some b =>
        rw [hnext] at h
        obtain ⟨rest, hrest, rfl⟩ := cons_eq_arrived.mp h
        obtain ⟨l, hroute, rfl⟩ := ih hrest
        exact ⟨a :: l, .step hne hnext hroute, rfl⟩

theorem walk_mono {n m : Nat} (hnm : n ≤ m) (h : walk next goal n a ≠ .running) :
    walk next goal m a = walk next goal n a := by
  induction n generalizing a m with
  | zero =>
    by_cases hgoal : a = goal
    · subst hgoal
      rw [walk_goal, walk_goal]
    · exact absurd (if_neg hgoal) h
  | succ n ih =>
    obtain ⟨m, rfl⟩ : ∃ k, m = k + 1 := ⟨m - 1, by omega⟩
    rw [walk] at h ⊢
    by_cases hgoal : a = goal
    · rw [if_pos hgoal, hgoal, walk_goal]
    · rw [if_neg hgoal] at h ⊢
      rw [walk, if_neg hgoal]
      cases hnext : next a with
      | none => rfl
      | some b =>
        rw [hnext] at h
        exact congrArg (Walked.cons a) (ih (by omega) fun hrun => h (cons_eq_running.mpr hrun))

theorem walk_eq_arrived {dom : List α} (hdom : ∀ x, next x ≠ none → x ∈ dom) {n : Nat} (hn : dom.length ≤ n)
    {route : List α} : walk next goal n a = .arrived route ↔ ∃ l, Route next goal a l goal ∧ route = l ++ [goal] := by
  refine ⟨route_of_walk, ?_⟩
  rintro ⟨l, hroute, rfl⟩
  exact hroute.walk rfl ((hroute.length_le hdom).trans hn)

theorem passed_of_walk_running (hno : ∀ x, ¬ LeadsOn next x x) {n : Nat} (h : walk next goal n a = .running) :
    ∃ l : List α, l.length = n ∧ l.Nodup ∧ ∀ x ∈ l, next x ≠ none ∧ Leads next a x := by
  induction n generalizing a with
  | zero => exact ⟨[], rfl, List.nodup_nil, fun x hx => absurd hx List.not_mem_nil⟩
  | succ n ih =>
    rw [walk] at h
    split at h
    · cases h
    · cases hnext : next a with
      | none =>
        rw [hnext] at h
        cases h
      | some b =>
        rw [hnext] at h
        obtain ⟨l, hlength, hnodup, hpassed⟩ := ih (cons_eq_running.mp h)
        refine ⟨a :: l, by rw [List.length_cons, hlength], ?_, ?_⟩
        · refine List.nodup_cons.mpr ⟨fun hmem => hno a ?_, hnodup⟩
          exact (leadsOn_next hnext).mpr (hpassed a hmem).2
        · intro x hx
          rcases List.mem_cons.mp hx with rfl | hmem
          · exact ⟨by simp [hnext], Relation.ReflTransGen.refl⟩
          · exact ⟨(hpassed x hmem).1, (leads_next hnext).mpr (.inr (hpassed x hmem).2)⟩

theorem exists_circle_of_walk_running {dom : List α} (hdom : ∀ x, next x ≠ none → x ∈ dom) {n : Nat}
    (hn : dom.length < n) (h : walk next goal n a = .running) : ∃ x, LeadsOn next x x := by
  by_contra hno
  push Not at hno
  obtain ⟨l, hlength, hnodup, hpassed⟩ := passed_of_walk_running hno h
  have hle := (hnodup.subperm fun x hx => hdom x (hpassed x hx).1).length_le
  omega

end Loop

end Hyperbridge.Lib
