import Hyperbridge.Lib.Total
import Mathlib.Algebra.BigOperators.Group.Multiset.Basic
import Mathlib.Algebra.Order.BigOperators.Group.List

/-!
# Escrows

Money is held for the entries of a map. An entry is opened, can be raised, and leaves in two steps: it is lifted out of
the map, and later paid or returned. Whatever happens in between, it is paid at most once.

`Gauge` measures entries. Over a run, what is held and what was paid never exceeds what was put in (`Run.gauge`):
measured in money the escrow is solvent, measured by counting no more entries are paid than were opened.
-/

namespace Hyperbridge.Lib.Escrow

structure Kind (ε : Type) where
  blank : ε
  live : ε → Prop
  grows : ε → ε → Prop

structure Store (ι ε : Type) where
  recorded : ι → ε
  pending : Multiset (ι × ε)

/-- What can happen to an entry. -/
inductive Act (ι ε : Type) where
  | opens (i : ι) (e : ε)
  | raises (i : ι) (e e' : ε)
  | lifts (i : ι) (e : ε)
  | returns (i : ι) (e : ε)
  | pays (i : ι) (e : ε)

variable {ι ε : Type} [DecidableEq ι] (K : Kind ε)

inductive Step : Act ι ε → Store ι ε → Store ι ε → Prop
  | opens (i : ι) (e : ε) (r : ι → ε) (p : Multiset (ι × ε)) : Step (.opens i e) ⟨r, p⟩ ⟨Function.update r i e, p⟩
  | raises {i : ι} {e e' : ε} {r : ι → ε} (p : Multiset (ι × ε)) (hi : r i = e) (hlive : K.live e)
      (hgrows : K.grows e e') : Step (.raises i e e') ⟨r, p⟩ ⟨Function.update r i e', p⟩
  | lifts {i : ι} {e : ε} {r : ι → ε} (p : Multiset (ι × ε)) (hi : r i = e) (hlive : K.live e) :
      Step (.lifts i e) ⟨r, p⟩ ⟨Function.update r i K.blank, (i, e) ::ₘ p⟩
  | returns (i : ι) (e : ε) (r : ι → ε) (p : Multiset (ι × ε)) :
      Step (.returns i e) ⟨r, (i, e) ::ₘ p⟩ ⟨Function.update r i e, p⟩
  | pays {i : ι} {e : ε} (r : ι → ε) (p : Multiset (ι × ε)) (hlive : K.live e) :
      Step (.pays i e) ⟨r, (i, e) ::ₘ p⟩ ⟨r, p⟩

inductive Run : List (Act ι ε) → Store ι ε → Store ι ε → Prop
  | nil (s : Store ι ε) : Run [] s s
  | cons {a : Act ι ε} {acts : List (Act ι ε)} {s t u : Store ι ε} (hstep : Step K a s t) (hrun : Run acts t u) :
      Run (a :: acts) s u

variable {K} {a : Act ι ε} {acts acts' : List (Act ι ε)} {s t u : Store ι ε}

theorem Run.single (hstep : Step K a s t) : Run K [a] s t := .cons hstep (.nil t)

theorem Run.append (hrun : Run K acts s t) (hrun' : Run K acts' t u) : Run K (acts ++ acts') s u := by
  induction hrun with
  | nil s => exact hrun'
  | cons hstep _ ih => exact .cons hstep (ih hrun')

structure Gauge (ι : Type) {ε : Type} (K : Kind ε) where
  weight : ι → ε → Nat
  gain : Act ι ε → Nat
  paid : Act ι ε → Nat
  blank : ∀ i, weight i K.blank = 0
  opens : ∀ i e, weight i e ≤ gain (.opens i e)
  raises : ∀ i e e', K.live e → K.grows e e' → weight i e' ≤ weight i e + gain (.raises i e e')
  pays : ∀ i e, K.live e → paid (.pays i e) ≤ weight i e
  free : ∀ a, (∀ i e, a ≠ .pays i e) → paid a = 0

variable [Fintype ι] (G : Gauge ι K)

/-- What the recorded and the pending entries measure. -/
def Gauge.content (s : Store ι ε) : Nat :=
  total G.weight s.recorded + (s.pending.map fun entry => G.weight entry.1 entry.2).sum

/-- No step pays more than it takes. -/
theorem Step.gauge (hstep : Step K a s t) : G.content t + G.paid a ≤ G.content s + G.gain a := by
  cases hstep with
  | opens i e r p =>
    have hwrite := total_update G.weight r i e
    have hgain := G.opens i e
    have hpaid : G.paid (.opens i e) = 0 := G.free _ (by simp)
    simp only [Gauge.content]
    omega
  | @raises i e e' r p hi hlive hgrows =>
    have hwrite := total_update G.weight r i e'
    have hgain := G.raises i e e' hlive hgrows
    have hpaid : G.paid (.raises i e e') = 0 := G.free _ (by simp)
    rw [hi] at hwrite
    simp only [Gauge.content]
    omega
  | @lifts i e r p hi hlive =>
    have hwrite := total_update G.weight r i K.blank
    have hpaid : G.paid (.lifts i e) = 0 := G.free _ (by simp)
    rw [hi, G.blank] at hwrite
    simp only [Gauge.content, Multiset.map_cons, Multiset.sum_cons]
    omega
  | returns i e r p =>
    have hwrite := total_update G.weight r i e
    have hpaid : G.paid (.returns i e) = 0 := G.free _ (by simp)
    simp only [Gauge.content, Multiset.map_cons, Multiset.sum_cons]
    omega
  | @pays i e r p hlive =>
    have hpaid := G.pays i e hlive
    simp only [Gauge.content, Multiset.map_cons, Multiset.sum_cons]
    omega

theorem Run.gauge (hrun : Run K acts s t) :
    G.content t + (acts.map G.paid).sum ≤ G.content s + (acts.map G.gain).sum := by
  induction hrun with
  | nil s => simp
  | cons hstep _ ih =>
    have hone := hstep.gauge G
    simp only [List.map_cons, List.sum_cons]
    omega

omit [DecidableEq ι] in
theorem Gauge.content_empty : G.content ⟨fun _ => K.blank, 0⟩ = 0 := by
  rw [content, total_eq_zero fun i => G.blank i]
  simp

def Act.openedAt : Act ι ε → Option ι
  | .opens i _ => some i
  | _ => none

def Act.paidAt : Act ι ε → Option ι
  | .pays i _ => some i
  | _ => none

open Classical in
/-- The live entries at one place. -/
noncomputable def counting (K : Kind ε) (hblank : ¬ K.live K.blank)
    (hgrows : ∀ e e', K.grows e e' → K.live e → K.live e')
    (i : ι) : Gauge ι K where
  weight j e := if j = i ∧ K.live e then 1 else 0
  gain a := if a.openedAt = some i then 1 else 0
  paid a := if a.paidAt = some i then 1 else 0
  blank j := by simp [hblank]
  opens j e := by
    by_cases hj : j = i <;> simp [Act.openedAt, hj]
    split <;> simp
  raises j e e' hlive h := by simp [hlive, hgrows e e' h hlive, Act.openedAt]
  pays j e hlive := by simp [Act.paidAt, hlive]
  free a ha := by
    cases a with
    | pays j e => exact absurd rfl (ha j e)
    | opens _ _ | raises _ _ _ | lifts _ _ | returns _ _ => rfl

omit [DecidableEq ι] [Fintype ι] in
theorem countP_eq_sum (p : Act ι ε → Prop) [DecidablePred p] (acts : List (Act ι ε)) :
    acts.countP (fun a => decide (p a)) = (acts.map fun a => if p a then 1 else 0).sum := by
  induction acts with
  | nil => rfl
  | cons a acts ih => simp [List.countP_cons, ih, Nat.add_comm]

theorem Run.paid_le_opened (hblank : ¬ K.live K.blank) (hgrows : ∀ e e', K.grows e e' → K.live e → K.live e')
    (hrun : Run K acts ⟨fun _ => K.blank, 0⟩ t) (i : ι) :
    acts.countP (fun a => a.paidAt = some i) ≤ acts.countP (fun a => a.openedAt = some i) := by
  have hgauge := hrun.gauge (counting K hblank hgrows i)
  rw [Gauge.content_empty] at hgauge
  rw [countP_eq_sum, countP_eq_sum]
  simp only [counting] at hgauge
  omega

end Hyperbridge.Lib.Escrow
