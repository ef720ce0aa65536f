import Hyperbridge.Lib.Exec

/-!
# Computations on a part of the state

A `Lens σ τ` names a part `τ` of a state `σ`. A computation over the part becomes one over the whole with
`zoom`, and then it changes nothing but the part. The storage of a pallet is such a part of the storage of
the runtime.
-/

namespace Hyperbridge.Lib

structure Lens (σ τ : Type) where
  get : σ → τ
  set : τ → σ → σ
  get_set : ∀ t s, get (set t s) = t
  set_get : ∀ s, set (get s) s = s
  set_set : ∀ t t' s, set t (set t' s) = set t s

namespace Lens

variable {σ τ υ : Type}

attribute [simp] get_set set_get set_set

def comp (l : Lens σ τ) (m : Lens τ υ) : Lens σ υ where
  get s := m.get (l.get s)
  set u s := l.set (m.set u (l.get s)) s
  get_set u s := by rw [l.get_set, m.get_set]
  set_get s := by rw [m.set_get, l.set_get]
  set_set u u' s := by rw [l.get_set, m.set_set, l.set_set]

end Lens

namespace Exec

variable {σ τ ε α : Type}

/-- `x` runs on the part. -/
def zoom (l : Lens σ τ) (x : Exec τ ε α) : Exec σ ε α where
  run s := ((x.run (l.get s)).1, l.set (x.run (l.get s)).2 s)

theorem zoom_ok {l : Lens σ τ} {x : Exec τ ε α} {s s' : σ} {a : α} :
    (zoom l x).run s = (.ok a, s') ↔ ∃ t, x.run (l.get s) = (.ok a, t) ∧ s' = l.set t s := by
  show ((x.run (l.get s)).1, l.set (x.run (l.get s)).2 s) = (.ok a, s') ↔ _
  constructor
  · intro h
    obtain ⟨hout, rfl⟩ := Prod.mk.inj h
    exact ⟨(x.run (l.get s)).2, Prod.ext hout rfl, rfl⟩
  · rintro ⟨t, ht, rfl⟩
    rw [ht]

/-- Only the part changes. -/
theorem Keeps.zoom {R : σ → σ → Prop} {l : Lens σ τ} (h : ∀ s t, R s (l.set t s)) (x : Exec τ ε α) :
    Keeps R (zoom l x) := fun s _ => h s _

end Exec

end Hyperbridge.Lib
