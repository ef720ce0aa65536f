import Mathlib.Order.Defs.PartialOrder
import Mathlib.Tactic.Common

/-!
# At most once, guarded by a marker

Something happens at most once because a marker is set before it is tried and is looked at before it is tried again.
`Once σ` names the marker, the number of times the thing has happened, and a condition `good` on the history.

`Le` relates a state to a later one: if that is good, nothing happens while the marker is set, and `Safe` is kept. It is
a preorder, so it can be proved step by step. `Le.deliver` is the step that counts. `Counts` is for steps of which one
knows how often they do it.
-/

namespace Hyperbridge.Lib

structure Once (σ : Type) where
  marked : σ → Prop
  count : σ → Nat
  good : σ → Prop

namespace Once

variable {σ : Type} (o : Once σ)

/-- It happened at most once, and if it did the marker is set. -/
def Safe (s : σ) : Prop := o.count s ≤ 1 ∧ (o.count s = 1 → o.marked s)

/-- A stretch with a good end keeps the marker and `Safe`. -/
def Le (s t : σ) : Prop :=
  o.good t → o.good s ∧ (o.marked s → o.marked t ∧ o.count t = o.count s) ∧ (o.Safe s → o.Safe t)

instance : IsPreorder σ o.Le where
  refl s hs := ⟨hs, fun hm => ⟨hm, rfl⟩, id⟩
  trans s t u hst htu hu := by
    obtain ⟨ht, hmark, hsafe⟩ := htu hu
    obtain ⟨hs, hmark', hsafe'⟩ := hst ht
    refine ⟨hs, fun hm => ?_, fun h => hsafe (hsafe' h)⟩
    obtain ⟨hmt, hct⟩ := hmark' hm
    obtain ⟨hmu, hcu⟩ := hmark hmt
    exact ⟨hmu, hcu.trans hct⟩

variable {o} {s t : σ}

/-- Nothing happens and no marker is lost. -/
theorem Le.of_quiet (hgood : o.good t → o.good s) (hmark : o.marked s → o.marked t)
    (hcount : o.count t = o.count s) : o.Le s t := by
  intro ht
  refine ⟨hgood ht, fun hm => ⟨hmark hm, hcount⟩, ?_⟩
  rintro ⟨hle, hone⟩
  refine ⟨hcount ▸ hle, fun h => hmark (hone ?_)⟩
  rw [← hcount, h]

theorem Safe.count_eq_zero (h : o.Safe s) (hm : ¬ o.marked s) : o.count s = 0 := by
  have hne : o.count s ≠ 1 := fun hone => hm (h.2 hone)
  have hle := h.1
  omega

theorem Le.deliver {s₁ s₂ : σ} (hunmarked : o.good t → ¬ o.marked s) (hgood : o.good s₁ → o.good s)
    (hmarked : o.marked s₁) (hcount : o.count s₁ = o.count s) (hcall : o.Le s₁ s₂) (hgood' : o.good t → o.good s₂)
    (hend : (o.marked s₂ → o.marked t) ∧ o.count t = o.count s₂ + 1 ∨ o.count t = o.count s₂) : o.Le s t := by
  intro ht
  obtain ⟨h₁, hmark, -⟩ := hcall (hgood' ht)
  obtain ⟨hm₂, hc₂⟩ := hmark hmarked
  refine ⟨hgood h₁, fun hm => absurd hm (hunmarked ht), fun hsafe => ?_⟩
  have hzero := hsafe.count_eq_zero (hunmarked ht)
  rcases hend with ⟨hmt, hct⟩ | hct
  · exact ⟨by omega, fun _ => hmt hm₂⟩
  · refine ⟨by omega, fun h => ?_⟩
    omega

variable (o) in
def Earns (s t : σ) : Prop := o.count s ≤ o.count t ∧ (o.marked t → o.marked s ∨ o.count s < o.count t)

instance : IsPreorder σ o.Earns where
  refl _ := ⟨Nat.le_refl _, .inl⟩
  trans s t u hst htu := by
    obtain ⟨hle, hnew⟩ := hst
    obtain ⟨hle', hnew'⟩ := htu
    refine ⟨Nat.le_trans hle hle', fun hu => ?_⟩
    rcases hnew' hu with ht | hlt
    · exact (hnew ht).imp id fun hlt => by omega
    · exact .inr (by omega)

theorem Earns.deliver {s₁ s₂ : σ} (hcount : o.count s₁ = o.count s) (hcall : o.Earns s₁ s₂)
    (hend : o.count t = o.count s₂ + 1 ∨ o.count t = o.count s₂ ∧ ¬ o.marked t) : o.Earns s t := by
  have hle := hcall.1
  rcases hend with hone | ⟨hsame, hunmarked⟩
  · exact ⟨by omega, fun _ => .inr (by omega)⟩
  · exact ⟨by omega, fun hm => absurd hm hunmarked⟩

theorem Safe.count_eq_one_iff (hsafe : o.Safe t) (hs : ¬ o.marked s) (hearns : o.Earns s t) :
    o.count t = 1 ↔ o.marked t := by
  refine ⟨hsafe.2, fun hm => ?_⟩
  have hlt := (hearns.2 hm).resolve_left hs
  have hle := hsafe.1
  omega

end Once

/-- It happens `k` times, and if it happens the marker is set. -/
def Counts {σ : Type} (count : σ → Nat) (marked : σ → Prop) (k : Nat) (s t : σ) : Prop :=
  count t = count s + k ∧ (marked s ∨ 0 < k → marked t)

namespace Counts

variable {σ : Type} {count : σ → Nat} {marked : σ → Prop} {s t : σ}

theorem of_quiet (hcount : count t = count s) (hmarked : marked s → marked t) : Counts count marked 0 s t :=
  ⟨hcount, fun h => hmarked (h.resolve_right (Nat.lt_irrefl 0))⟩

theorem add (k m : Nat) (s t u : σ) (h : Counts count marked k s t) (h' : Counts count marked m t u) :
    Counts count marked (k + m) s u := by
  obtain ⟨hcount, hmarked⟩ := h
  obtain ⟨hcount', hmarked'⟩ := h'
  refine ⟨by omega, fun hor => hmarked' ?_⟩
  by_cases hm : 0 < m
  · exact .inr hm
  · exact .inl (hmarked (hor.imp id fun hpos => by omega))

end Counts

end Hyperbridge.Lib
