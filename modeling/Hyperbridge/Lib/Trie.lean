import Hyperbridge.Lib.Bytes
import Hyperbridge.Lib.Exec

/-!
# Tries known by their root

A verifier knows the root of a Merkle trie, and a prover sends nodes of it. A lookup walks from the root through these
nodes; it finds a value, or that there is none, or comes to a missing node. `TrieLookup.Sound`: it never says anything
that is not so in the trie with that root. What is looked up is gathered in an ordered map.
-/

namespace Hyperbridge.Lib

abbrev TrieLookup := List Bytes → H256 → Bytes → Except String (Option Bytes)

def TrieLookup.Sound (get : TrieLookup) (content : H256 → Bytes → Option Bytes) : Prop :=
  ∀ nodes root key value, get nodes root key = .ok value → value = content root key

section Maps

variable {κ ν : Type} [Ord κ] [Std.TransOrd κ] [Std.LawfulEqOrd κ] {m : Std.TreeMap κ ν} {l : List (κ × ν)}
  {a : κ} {v : ν}

theorem getElem?_insertMany_of_notMem (h : a ∉ l.map Prod.fst) : (m.insertMany l)[a]? = m[a]? := by
  induction l generalizing m with
  | nil => rfl
  | cons kv l ih =>
    rw [List.map_cons, List.mem_cons, not_or] at h
    have hne : compare kv.1 a ≠ .eq := fun heq => h.1 (Std.LawfulEqOrd.eq_of_compare heq).symm
    rw [Std.TreeMap.insertMany_cons, ih h.2, Std.TreeMap.getElem?_insert, if_neg hne]

theorem getElem?_insertMany_iff {R : κ → ν → Prop} (hfun : ∀ k v v', R k v → R k v' → v = v')
    (hl : ∀ kv ∈ l, R kv.1 kv.2) (h : a ∈ l.map Prod.fst) : (m.insertMany l)[a]? = some v ↔ R a v := by
  induction l generalizing m with
  | nil => cases h
  | cons kv l ih =>
    rw [Std.TreeMap.insertMany_cons]
    by_cases hlater : a ∈ l.map Prod.fst
    · exact ih (fun kv hkv => hl kv (List.mem_cons_of_mem _ hkv)) hlater
    · have hhead : kv.1 = a := by
        rcases List.mem_cons.mp h with h | h
        · exact h.symm
        · exact absurd h hlater
      subst hhead
      have hkv := hl kv List.mem_cons_self
      rw [getElem?_insertMany_of_notMem hlater, Std.TreeMap.getElem?_insert_self, Option.some.injEq]
      exact ⟨fun h => h ▸ hkv, fun h => hfun _ _ _ hkv h⟩

end Maps

section Reads

variable {ε α β : Type} {f : α → Except ε β} {xs : List α} {ys : List β}

theorem map_fst_zip_of_mapM (h : xs.mapM f = .ok ys) : (xs.zip ys).map Prod.fst = xs := by
  rw [List.map_fst_zip]
  exact (except_mapM_ok.mp h).length_eq.le

theorem of_mem_zip_of_mapM (h : xs.mapM f = .ok ys) {xy : α × β} (hxy : xy ∈ xs.zip ys) : f xy.1 = .ok xy.2 :=
  List.forall₂_iff_zip.mp (except_mapM_ok.mp h) |>.2 hxy

end Reads

end Hyperbridge.Lib
