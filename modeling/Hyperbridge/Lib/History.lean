import Mathlib.Data.List.Basic

/-!
# The last entry of a log that concerns something

A log is a list, its newest entry is at the end. `Last P log e` says that `e` is the last entry of the log with `P`:
what was done by `e` has not been touched since.
-/

namespace Hyperbridge.Lib

variable {ε : Type}

def Last (P : ε → Prop) (log : List ε) (e : ε) : Prop :=
  ∃ before after, log = before ++ e :: after ∧ P e ∧ ∀ e' ∈ after, ¬ P e'

namespace Last

variable {P : ε → Prop} {log : List ε} {e e' : ε}

theorem of_new (log : List ε) (h : P e) : Last P (log ++ [e]) e :=
  ⟨log, [], rfl, h, fun _ hmem => absurd hmem List.not_mem_nil⟩

theorem append (h : Last P log e) (hnew : ¬ P e') : Last P (log ++ [e']) e := by
  obtain ⟨before, after, rfl, hP, hafter⟩ := h
  refine ⟨before, after ++ [e'], by simp, hP, fun e'' hmem => ?_⟩
  rcases List.mem_append.mp hmem with hmem | hmem
  · exact hafter e'' hmem
  · rw [List.mem_singleton.mp hmem]
    exact hnew

end Last

end Hyperbridge.Lib
