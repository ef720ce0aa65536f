import Mathlib.Algebra.BigOperators.Group.List.Basic
import Mathlib.Data.List.Forall2
import Mathlib.Order.Defs.PartialOrder
import Mathlib.Tactic.Common

/-!
# Computations with state, errors and panics

`Exec σ ε α` is a computation over a state `σ` that returns a value, returns an error, or panics. What it wrote before
an error stays written; `attempt` makes an error a value again, and nothing catches a panic.

`bind_ok` and its relatives take a computation that returned apart into its steps. `Keeps R x` says that `x` moves the
state along `R` unless it panics; for a preorder `R` it composes, so a frame condition follows from those of the
primitive steps.
-/

namespace Hyperbridge.Lib

inductive Outcome (ε α : Type) where
  | ok (value : α)
  | err (error : ε)
  | panic (message : String)
  deriving DecidableEq, Repr

def Outcome.returns {ε α : Type} : Outcome ε α → Bool
  | .ok _ => true
  | .err _ => true
  | .panic _ => false

def Outcome.isOk {ε α : Type} : Outcome ε α → Bool
  | .ok _ => true
  | .err _ => false
  | .panic _ => false

structure Exec (σ ε α : Type) where
  run : σ → Outcome ε α × σ

/-- How a pure computation ends without a result. -/
inductive Fault where
  | error (text : String)
  | panic (text : String)
  | diverges
  deriving DecidableEq

/-- `map_err` with a fixed text. -/
def reword {α : Type} (text : String) : Except Fault α → Except Fault α
  | .error (.error _) => .error (.error text)
  | x => x

variable {α : Type} {a : α}

theorem reword_ok {text : String} {x : Except Fault α} : reword text x = .ok a ↔ x = .ok a := by
  rcases x with (_ | _ | _) | b <;> simp [reword]

def okOr {ε α : Type} (x : Option α) (e : ε) : Except ε α :=
  match x with
  | some a => .ok a
  | none => .error e

variable {ε : Type} {e : ε}

theorem okOr_eq_ok {x : Option α} : okOr x e = .ok a ↔ x = some a := by
  cases x <;> simp [okOr]

variable {β : Type} {x : Except ε α} {f : α → Except ε β} {b : β}

theorem except_bind_ok : (x >>= f) = .ok b ↔ ∃ a, x = .ok a ∧ f a = .ok b := by
  cases x with
  | error e => simp [bind, Except.bind]
  | ok a => simp [bind, Except.bind]

theorem except_bind_error : (x >>= f) = .error e ↔ x = .error e ∨ ∃ a, x = .ok a ∧ f a = .error e := by
  cases x with
  | error e' => simp [bind, Except.bind]
  | ok a => simp [bind, Except.bind]

theorem except_check_ok {x : Except ε Unit} {f : Unit → Except ε β} :
    (x >>= f) = .ok b ↔ x = .ok () ∧ f () = .ok b := by
  rw [except_bind_ok]
  exact ⟨fun ⟨_, h⟩ => h, fun h => ⟨(), h⟩⟩

theorem except_mapError_ok {δ : Type} {f : ε → δ} : x.mapError f = .ok a ↔ x = .ok a := by
  cases x <;> simp [Except.mapError]

def errIf {ε : Type} (c : Prop) [Decidable c] (e : ε) : Except ε Unit := if c then .error e else .ok ()

theorem errIf_ok {c : Prop} [Decidable c] : errIf c e = .ok () ↔ ¬ c := by
  unfold errIf
  split <;> simp_all

theorem errIf_bind_ok {c : Prop} [Decidable c] {f : Unit → Except ε β} :
    (errIf c e >>= f) = .ok b ↔ ¬ c ∧ f () = .ok b := by
  rw [except_check_ok, errIf_ok]

theorem except_map_ok {f : α → β} : f <$> x = .ok b ↔ ∃ a, x = .ok a ∧ f a = b := by
  cases x with
  | error e => simp [Functor.map, Except.map]
  | ok a => simp [Functor.map, Except.map]

variable {xs : List α} {ys : List β}

theorem except_mapM_ok : xs.mapM f = .ok ys ↔ List.Forall₂ (fun x y => f x = .ok y) xs ys := by
  induction xs generalizing ys with
  | nil =>
    rw [List.mapM_nil, List.forall₂_nil_left_iff]
    exact ⟨fun h => (Except.ok.inj h).symm, fun h => congrArg _ h.symm⟩
  | cons x xs ih =>
    rw [List.mapM_cons, except_bind_ok, List.forall₂_cons_left_iff]
    constructor
    · rintro ⟨y, hy, hrest⟩
      obtain ⟨rest, hmap, hend⟩ := except_bind_ok.mp hrest
      exact ⟨y, rest, hy, ih.mp hmap, (Except.ok.inj hend).symm⟩
    · rintro ⟨y, rest, hy, hrest, rfl⟩
      exact ⟨y, hy, except_bind_ok.mpr ⟨rest, ih.mpr hrest, rfl⟩⟩

/-- An invariant of the turns holds at the end. -/
theorem except_foldlM_ok (P : β → Prop) {f : β → α → Except ε β} {b' : β}
    (hf : ∀ b, ∀ x ∈ xs, ∀ b', P b → f b x = .ok b' → P b') (hb : P b) (h : xs.foldlM f b = .ok b') : P b' := by
  induction xs generalizing b with
  | nil =>
    rw [← Except.ok.inj h]
    exact hb
  | cons x xs ih =>
    rw [List.foldlM_cons] at h
    obtain ⟨c, hc, hrest⟩ := except_bind_ok.mp h
    exact ih (fun b y hy => hf b y (List.mem_cons_of_mem _ hy)) (hf b x List.mem_cons_self c hb hc) hrest

theorem except_forM_ok {f : α → Except ε Unit} : xs.forM f = .ok () ↔ ∀ x ∈ xs, f x = .ok () := by
  induction xs with
  | nil => exact iff_of_true rfl (by simp)
  | cons x xs ih =>
    rw [List.forall_mem_cons, ← ih]
    change (f x >>= fun _ => xs.forM f) = .ok () ↔ _
    constructor
    · intro h
      obtain ⟨_, hx, hxs⟩ := except_bind_ok.mp h
      exact ⟨hx, hxs⟩
    · rintro ⟨hx, hxs⟩
      exact except_bind_ok.mpr ⟨(), hx, hxs⟩

/-- An invariant may speak of the elements done. -/
theorem except_foldlM_induct (I : List α → β → Prop) {f : β → α → Except ε β}
    {b' : β} (hstep : ∀ done x rest b b', xs = done ++ x :: rest → I done b → f b x = .ok b' → I (done ++ [x]) b')
    (hb : I [] b) (h : xs.foldlM f b = .ok b') : I xs b' := by
  suffices hrun : ∀ rest done b, xs = done ++ rest → I done b → rest.foldlM f b = .ok b' → I xs b' from
    hrun xs [] b rfl hb h
  intro rest
  induction rest with
  | nil =>
    intro done b hxs hb h
    rw [hxs, List.append_nil, ← Except.ok.inj h]
    exact hb
  | cons x rest ih =>
    intro done b hxs hb h
    rw [List.foldlM_cons] at h
    obtain ⟨c, hc, hrest⟩ := except_bind_ok.mp h
    refine ih (done ++ [x]) c ?_ (hstep done x rest b c hxs hb hc) hrest
    rw [hxs, List.append_assoc, List.singleton_append]

theorem exists_foldlM_ok {f : β → α → Except ε β} {P : α → Prop}
    (hf : ∀ b a, (∃ b', f b a = .ok b') ↔ P a) (b : β) : (∃ b', xs.foldlM f b = .ok b') ↔ ∀ a ∈ xs, P a := by
  induction xs generalizing b with
  | nil => exact iff_of_true ⟨b, rfl⟩ (by simp)
  | cons x xs ih =>
    rw [List.forall_mem_cons, List.foldlM_cons]
    simp only [except_bind_ok]
    constructor
    · rintro ⟨b', c, hc, hrest⟩
      exact ⟨(hf b x).mp ⟨c, hc⟩, (ih c).mp ⟨b', hrest⟩⟩
    · rintro ⟨hx, hxs⟩
      obtain ⟨c, hc⟩ := (hf b x).mpr hx
      obtain ⟨b', hrest⟩ := (ih c).mpr hxs
      exact ⟨b', c, hc, hrest⟩

theorem mem_foldlM_ok {ι : Type} (mem : ι → β → Prop) {Q : α → ι → Prop} {f : β → α → Except ε β} {b' : β}
    (hf : ∀ b a b', f b a = .ok b' → ∀ i, mem i b' ↔ mem i b ∨ Q a i) (h : xs.foldlM f b = .ok b') (i : ι) :
    mem i b' ↔ mem i b ∨ ∃ a ∈ xs, Q a i := by
  induction xs generalizing b with
  | nil => simp [Except.ok.inj h]
  | cons x xs ih =>
    rw [List.foldlM_cons] at h
    obtain ⟨c, hc, hrest⟩ := except_bind_ok.mp h
    rw [ih hrest, hf b x c hc, List.exists_mem_cons_iff, or_assoc]

/-- A loop fails at its first failing turn. -/
theorem except_foldlM_error {f : β → α → Except ε β} :
    xs.foldlM f b = .error e ↔
      ∃ done x rest c, xs = done ++ x :: rest ∧ done.foldlM f b = .ok c ∧ f c x = .error e := by
  constructor
  · intro h
    induction xs generalizing b with
    | nil => cases h
    | cons x xs ih =>
      rw [List.foldlM_cons] at h
      cases hx : f b x with
      | error e' =>
        rw [hx] at h
        exact ⟨[], x, xs, b, rfl, rfl, hx.trans h⟩
      | ok c =>
        rw [hx] at h
        obtain ⟨done, y, rest, d, rfl, hdone, hy⟩ := ih h
        refine ⟨x :: done, y, rest, d, rfl, ?_, hy⟩
        rw [List.foldlM_cons, hx]
        exact hdone
  · rintro ⟨done, x, rest, c, rfl, hdone, hx⟩
    rw [List.foldlM_append, hdone]
    show (x :: rest).foldlM f c = _
    rw [List.foldlM_cons, hx]
    rfl

/-- All its errors satisfy `P`. -/
def FailsOnly {ε α : Type} (P : ε → Prop) (x : Except ε α) : Prop := ∀ e, x = .error e → P e

namespace FailsOnly

variable {ε α β : Type} {P : ε → Prop} {x : Except ε α}

theorem ok (a : α) : FailsOnly P (.ok a) := by
  intro e h
  cases h

theorem error {e : ε} (he : P e) : FailsOnly P (.error e : Except ε α) := by
  intro e' h
  obtain rfl := Except.error.inj h
  exact he

theorem bind {f : α → Except ε β} (hx : FailsOnly P x) (hf : ∀ a, x = .ok a → FailsOnly P (f a)) :
    FailsOnly P (x >>= f) := by
  intro e h
  rcases except_bind_error.mp h with hfails | ⟨a, ha, hfails⟩
  · exact hx e hfails
  · exact hf a ha e hfails

theorem okOr {o : Option α} {e : ε} (he : P e) : FailsOnly P (Lib.okOr o e) := by
  cases o with
  | none => exact error he
  | some a => exact ok a

theorem errIf {c : Prop} [Decidable c] {e : ε} (he : P e) : FailsOnly P (Lib.errIf c e) := by
  unfold Lib.errIf
  split
  · exact error he
  · exact ok ()

theorem mapError {δ : Type} {y : Except δ α} {f : δ → ε} (hf : ∀ e, P (f e)) : FailsOnly P (y.mapError f) := by
  cases y with
  | error e => exact error (hf e)
  | ok a => exact ok a

theorem mapM {f : α → Except ε β} {xs : List α} (hf : ∀ a ∈ xs, FailsOnly P (f a)) : FailsOnly P (xs.mapM f) := by
  induction xs with
  | nil =>
    rw [List.mapM_nil]
    exact ok []
  | cons a xs ih =>
    rw [List.forall_mem_cons] at hf
    rw [List.mapM_cons]
    exact bind hf.1 fun b _ => bind (ih hf.2) fun bs _ => ok (b :: bs)

theorem foldlM {f : β → α → Except ε β} {xs : List α} (hf : ∀ b, ∀ a ∈ xs, FailsOnly P (f b a)) (b : β) :
    FailsOnly P (xs.foldlM f b) := by
  intro e h
  obtain ⟨done, a, rest, c, rfl, -, hstep⟩ := except_foldlM_error.mp h
  exact hf c a (by simp) e hstep

end FailsOnly

theorem forall_mem_iff_of_forall₂ {P : α → Prop} {Q : β → Prop}
    (h : List.Forall₂ (fun x y => Q y ↔ P x) xs ys) : (∀ y ∈ ys, Q y) ↔ ∀ x ∈ xs, P x := by
  induction h with
  | nil => simp
  | cons hhead _ ih => rw [List.forall_mem_cons, List.forall_mem_cons, hhead, ih]

theorem forall₂_mem {R : α → β → Prop} (h : List.Forall₂ R xs ys) {x : α} (hx : x ∈ xs) : ∃ y ∈ ys, R x y := by
  induction h with
  | nil => cases hx
  | cons hxy _ ih =>
    rcases List.mem_cons.mp hx with rfl | hmem
    · exact ⟨_, List.mem_cons_self, hxy⟩
    · obtain ⟨y, hy, hr⟩ := ih hmem
      exact ⟨y, List.mem_cons_of_mem _ hy, hr⟩

/-- The first error, or all values. -/
def collectResults {ε α : Type} : List (Except ε α) → Except ε (List α)
  | [] => .ok []
  | .ok a :: rest => (a :: ·) <$> collectResults rest
  | .error e :: _ => .error e

theorem eq_map_of_collectResults {rs : List (Except ε α)} {as : List α}
    (h : collectResults rs = .ok as) : rs = as.map .ok := by
  induction rs generalizing as with
  | nil =>
    cases h
    rfl
  | cons r rs ih =>
    cases r with
    | error e => cases h
    | ok a =>
      rw [collectResults] at h
      cases hrest : collectResults rs with
      | error e =>
        rw [hrest] at h
        cases h
      | ok bs =>
        rw [hrest] at h
        cases h
        rw [ih hrest, List.map_cons]

namespace Exec

variable {σ ε δ α β : Type}

def andThen (x : Exec σ ε α) (f : α → Exec σ ε β) : Exec σ ε β where
  run s :=
    match x.run s with
    | (.ok a, t) => (f a).run t
    | (.err e, t) => (.err e, t)
    | (.panic m, t) => (.panic m, t)

instance : Monad (Exec σ ε) where
  pure a := ⟨fun s => (.ok a, s)⟩
  bind := andThen

def gets (f : σ → α) : Exec σ ε α := ⟨fun s => (.ok (f s), s)⟩

def modify (f : σ → σ) : Exec σ ε Unit := ⟨fun s => (.ok (), f s)⟩

def throw (e : ε) : Exec σ ε α := ⟨fun s => (.err e, s)⟩

def panicWith (m : String) : Exec σ ε α := ⟨fun s => (.panic m, s)⟩

def ofExcept : Except ε α → Exec σ ε α
  | .ok a => pure a
  | .error e => throw e

def query (f : σ → Except ε α) : Exec σ ε α where
  run s :=
    match f s with
    | .ok a => (.ok a, s)
    | .error e => (.err e, s)

def expect (m : String) : Option α → Exec σ ε α
  | some a => pure a
  | none => panicWith m

def throwIf (c : Bool) (e : ε) : Exec σ ε Unit := if c then throw e else pure ()

/-- The error of `x` as a value; a panic goes through. -/
def attempt (x : Exec σ ε α) : Exec σ ε (Except ε α) where
  run s :=
    match x.run s with
    | (.ok a, t) => (.ok (.ok a), t)
    | (.err e, t) => (.ok (.error e), t)
    | (.panic m, t) => (.panic m, t)

def optional (x : Exec σ ε α) : Exec σ ε (Option α) where
  run s :=
    match x.run s with
    | (.ok a, t) => (.ok (some a), t)
    | (.err _, t) => (.ok none, t)
    | (.panic m, t) => (.panic m, t)

def mapErr (f : ε → δ) (x : Exec σ ε α) : Exec σ δ α where
  run s :=
    match x.run s with
    | (.ok a, t) => (.ok a, t)
    | (.err e, t) => (.err (f e), t)
    | (.panic m, t) => (.panic m, t)

def forEach (f : α → Exec σ ε Unit) : List α → Exec σ ε Unit
  | [] => pure ()
  | a :: as => do f a; forEach f as

def collect (f : α → Exec σ ε β) : List α → Exec σ ε (List β)
  | [] => pure []
  | a :: as => do
      let b ← f a
      let bs ← collect f as
      pure (b :: bs)

@[simp] theorem pure_run (a : α) (s : σ) : (pure a : Exec σ ε α).run s = (.ok a, s) := rfl

@[simp] theorem gets_run (f : σ → α) (s : σ) : (gets f : Exec σ ε α).run s = (.ok (f s), s) := rfl

@[simp] theorem modify_run (f : σ → σ) (s : σ) : (modify f : Exec σ ε Unit).run s = (.ok (), f s) := rfl

@[simp] theorem throw_run (e : ε) (s : σ) : (throw e : Exec σ ε α).run s = (.err e, s) := rfl

@[simp] theorem panicWith_run (m : String) (s : σ) : (panicWith m : Exec σ ε α).run s = (.panic m, s) := rfl

theorem bind_run (x : Exec σ ε α) (f : α → Exec σ ε β) (s : σ) :
    (x >>= f).run s = match x.run s with
      | (.ok a, t) => (f a).run t
      | (.err e, t) => (.err e, t)
      | (.panic m, t) => (.panic m, t) := rfl

theorem query_run (f : σ → Except ε α) (s : σ) : (query f : Exec σ ε α).run s = match f s with
      | .ok a => (.ok a, s)
      | .error e => (.err e, s) := rfl

theorem attempt_run (x : Exec σ ε α) (s : σ) : (attempt x).run s = match x.run s with
      | (.ok a, t) => (.ok (.ok a), t)
      | (.err e, t) => (.ok (.error e), t)
      | (.panic m, t) => (.panic m, t) := rfl

theorem optional_run (x : Exec σ ε α) (s : σ) : (optional x).run s = match x.run s with
      | (.ok a, t) => (.ok (some a), t)
      | (.err _, t) => (.ok none, t)
      | (.panic m, t) => (.panic m, t) := rfl

theorem mapErr_run (f : ε → δ) (x : Exec σ ε α) (s : σ) : (mapErr f x).run s = match x.run s with
      | (.ok a, t) => (.ok a, t)
      | (.err e, t) => (.err (f e), t)
      | (.panic m, t) => (.panic m, t) := rfl

@[simp] theorem pure_bind_run (a : α) (f : α → Exec σ ε β) (s : σ) : (pure a >>= f).run s = (f a).run s := rfl

@[simp] theorem gets_bind_run (g : σ → α) (f : α → Exec σ ε β) (s : σ) :
    (gets g >>= f).run s = (f (g s)).run s := rfl

@[simp] theorem modify_bind_run (g : σ → σ) (f : Unit → Exec σ ε β) (s : σ) :
    (modify g >>= f).run s = (f ()).run (g s) := rfl

variable {x : Exec σ ε α} {f : α → Exec σ ε β} {s t : σ} {b : β}

theorem bind_ok : (x >>= f).run s = (.ok b, t) ↔ ∃ a u, x.run s = (.ok a, u) ∧ (f a).run u = (.ok b, t) := by
  rw [bind_run]
  rcases hx : x.run s with ⟨_ | _ | _, u⟩ <;> simp

variable {e : ε}

theorem bind_err :
    (x >>= f).run s = (.err e, t) ↔ x.run s = (.err e, t) ∨ ∃ a u, x.run s = (.ok a, u) ∧
      (f a).run u = (.err e, t) := by
  rw [bind_run]
  rcases x.run s with ⟨a | e' | m, u⟩ <;> simp

variable {a : α}

theorem run_of_fst_ok (h : (x.run s).1 = .ok a) : x.run s = (.ok a, (x.run s).2) :=
  Prod.ext h rfl

theorem exists_run_ok (h : (x.run s).1.isOk = true) : ∃ a, x.run s = (.ok a, (x.run s).2) := by
  rcases hx : x.run s with ⟨a | e | m, t⟩
  · exact ⟨a, rfl⟩
  · rw [hx] at h
    cases h
  · rw [hx] at h
    cases h

theorem pure_ok {a b : α} : (pure a : Exec σ ε α).run s = (.ok b, t) ↔ a = b ∧ s = t := by
  simp

theorem bind_pure_ok {g : α → β} :
    (x >>= fun a => pure (g a)).run s = (.ok b, t) ↔ ∃ a, x.run s = (.ok a, t) ∧ b = g a := by
  simp only [bind_ok, pure_ok]
  constructor
  · rintro ⟨a, u, hx, rfl, rfl⟩
    exact ⟨a, hx, rfl⟩
  · rintro ⟨a, hx, rfl⟩
    exact ⟨a, t, hx, rfl, rfl⟩

variable {c : Bool} {u : Unit}

theorem throwIf_ok : (throwIf c e : Exec σ ε Unit).run s = (.ok u, t) ↔ c = false ∧ s = t := by
  cases c <;> simp [throwIf]

theorem ofExcept_ok {x : Except ε α} : (ofExcept x : Exec σ ε α).run s = (.ok a, t) ↔ x = .ok a ∧ s = t := by
  cases x <;> simp [ofExcept]

theorem throwIf_bind_ok {f : Unit → Exec σ ε β} :
    (throwIf c e >>= f).run s = (.ok b, t) ↔ c = false ∧ (f ()).run s = (.ok b, t) := by
  cases c with
  | true => simp [throwIf, bind_run]
  | false => simp [throwIf]

variable {g : σ → Except ε α}

theorem query_ok : (query g : Exec σ ε α).run s = (.ok a, t) ↔ g s = .ok a ∧ s = t := by
  rw [query_run]
  cases g s <;> simp

theorem query_bind_ok : (query g >>= f).run s = (.ok b, t) ↔ ∃ a, g s = .ok a ∧ (f a).run s = (.ok b, t) := by
  rw [bind_run, query_run]
  cases g s <;> simp

theorem query_bind_err :
    (query g >>= f).run s = (.err e, t) ↔ (g s = .error e ∧ s = t) ∨ ∃ a, g s = .ok a ∧ (f a).run s = (.err e, t) := by
  rw [bind_run, query_run]
  cases g s <;> simp

variable {m : String}

theorem expect_bind_ok {x : Option α} :
    (expect m x >>= f).run s = (.ok b, t) ↔ ∃ a, x = some a ∧ (f a).run s = (.ok b, t) := by
  cases x with
  | none => simp [expect, bind_run]
  | some a => simp [expect]

theorem ofExcept_bind_ok {x : Except ε α} :
    (ofExcept x >>= f).run s = (.ok b, t) ↔ ∃ a, x = .ok a ∧ (f a).run s = (.ok b, t) := by
  cases x with
  | error e => simp [ofExcept, bind_run]
  | ok a => simp [ofExcept]

theorem mapErr_ok {f : ε → δ} : (mapErr f x).run s = (.ok a, t) ↔ x.run s = (.ok a, t) := by
  rw [mapErr_run]
  rcases x.run s with ⟨_ | _ | _, u⟩ <;> simp

theorem attempt_of_returns {f : Except ε α → Exec σ ε β} (h : ((attempt x >>= f).run s).1.returns = true) :
    (x.run s).1.returns = true ∧ ∃ r, (attempt x).run s = (.ok r, (x.run s).2) := by
  rw [bind_run, attempt_run] at h
  rw [attempt_run]
  rcases hx : x.run s with ⟨a | e | m, t⟩
  · exact ⟨rfl, .ok a, rfl⟩
  · exact ⟨rfl, .error e, rfl⟩
  · rw [hx] at h
    cases h

/-- A traversal of steps that return returns. -/
theorem exists_collect_run (hf : ∀ a s, ∃ b t, (f a).run s = (.ok b, t)) (as : List α) (s : σ) :
    ∃ bs t, (collect f as).run s = (.ok bs, t) := by
  induction as generalizing s with
  | nil => exact ⟨[], s, rfl⟩
  | cons a as ih =>
    obtain ⟨b, s₁, hb⟩ := hf a s
    obtain ⟨bs, t, hbs⟩ := ih s₁
    exact ⟨b :: bs, t, bind_ok.mpr ⟨b, s₁, hb, bind_ok.mpr ⟨bs, t, hbs, rfl⟩⟩⟩

variable {as : List α}

theorem forEach_cons_ok {f : α → Exec σ ε Unit} :
    (forEach f (a :: as)).run s = (.ok u, t) ↔
      ∃ v s', (f a).run s = (.ok v, s') ∧ (forEach f as).run s' = (.ok u, t) :=
  bind_ok

variable {bs : List β}

theorem collect_cons_ok :
    (collect f (a :: as)).run s = (.ok bs, t) ↔
      ∃ b s₁ rest, (f a).run s = (.ok b, s₁) ∧ (collect f as).run s₁ = (.ok rest, t) ∧ bs = b :: rest := by
  constructor
  · intro h
    obtain ⟨b, s₁, hb, h⟩ := bind_ok.mp h
    obtain ⟨rest, s₂, hrest, h⟩ := bind_ok.mp h
    obtain ⟨hbs, rfl⟩ := Prod.mk.inj h
    exact ⟨b, s₁, rest, hb, hrest, (Outcome.ok.inj hbs).symm⟩
  · rintro ⟨b, s₁, rest, hb, hrest, rfl⟩
    exact bind_ok.mpr ⟨b, s₁, hb, bind_ok.mpr ⟨rest, t, hrest, rfl⟩⟩

/-- The computation ends in a panic. -/
def Panics (x : Exec σ ε α) (s : σ) : Prop := ∃ m t, x.run s = (.panic m, t)

theorem panics_bind : Panics (x >>= f) s ↔ Panics x s ∨ ∃ a t, x.run s = (.ok a, t) ∧ Panics (f a) t := by
  unfold Panics
  rw [bind_run]
  cases hx : x.run s with
  | mk outcome t => cases outcome <;> simp

theorem panics_modify_bind {g : σ → σ} {f : Unit → Exec σ ε β} :
    Panics (modify g >>= f) s ↔ Panics (f ()) (g s) := Iff.rfl

theorem panics_query_bind : Panics (query g >>= f) s ↔ ∃ a, g s = .ok a ∧ Panics (f a) s := by
  unfold Panics
  rw [bind_run, query_run]
  cases g s <;> simp

@[simp] theorem not_panics_pure (a : α) (s : σ) : ¬ Panics (pure a : Exec σ ε α) s := by
  rintro ⟨m, t, h⟩
  cases h

@[simp] theorem not_panics_gets (f : σ → α) (s : σ) : ¬ Panics (gets f : Exec σ ε α) s := by
  rintro ⟨m, t, h⟩
  cases h

@[simp] theorem not_panics_modify (f : σ → σ) (s : σ) : ¬ Panics (modify f : Exec σ ε Unit) s := by
  rintro ⟨m, t, h⟩
  cases h

@[simp] theorem not_panics_ofExcept (x : Except ε α) (s : σ) : ¬ Panics (ofExcept x : Exec σ ε α) s := by
  rintro ⟨m, t, h⟩
  cases x <;> cases h

@[simp] theorem not_panics_query (f : σ → Except ε α) (s : σ) : ¬ Panics (query f : Exec σ ε α) s := by
  rintro ⟨m, t, h⟩
  rw [query_run] at h
  cases hf : f s <;> rw [hf] at h <;> cases h

@[simp] theorem not_panics_throwIf (c : Bool) (e : ε) (s : σ) : ¬ Panics (throwIf c e : Exec σ ε Unit) s := by
  rintro ⟨m, t, h⟩
  cases c <;> cases h

@[simp] theorem panics_expect {x : Option α} : Panics (expect m x : Exec σ ε α) s ↔ x = none := by
  cases x with
  | none => exact ⟨fun _ => rfl, fun _ => ⟨m, s, rfl⟩⟩
  | some a => exact ⟨fun h => absurd h (not_panics_pure a s), fun h => by cases h⟩

@[simp] theorem panics_mapErr {f : ε → δ} : Panics (mapErr f x) s ↔ Panics x s := by
  unfold Panics
  rw [mapErr_run]
  cases x.run s with
  | mk outcome t => cases outcome <;> simp

theorem not_panics_forEach {f : α → Exec σ ε Unit} (hf : ∀ a ∈ as, ∀ s, ¬ Panics (f a) s) (s : σ) :
    ¬ Panics (forEach f as) s := by
  induction as generalizing s with
  | nil => exact not_panics_pure () s
  | cons a as ih =>
    intro h
    rcases panics_bind.mp h with hfirst | ⟨_, t, -, hrest⟩
    · exact hf a List.mem_cons_self s hfirst
    · exact ih (fun b hb => hf b (List.mem_cons_of_mem a hb)) t hrest

/-- The computation ends in this panic. -/
def PanicsWith (m : String) (x : Exec σ ε α) (s : σ) : Prop := ∃ t, x.run s = (.panic m, t)

theorem panicsWith_bind :
    PanicsWith m (x >>= f) s ↔ PanicsWith m x s ∨ ∃ a t, x.run s = (.ok a, t) ∧ PanicsWith m (f a) t := by
  unfold PanicsWith
  rw [bind_run]
  cases hx : x.run s with
  | mk outcome t => cases outcome <;> simp

theorem panicsWith_gets_bind {g : σ → α} :
    PanicsWith m (gets g >>= f) s ↔ PanicsWith m (f (g s)) s := Iff.rfl

theorem panicsWith_modify_bind {g : σ → σ} {f : Unit → Exec σ ε β} :
    PanicsWith m (modify g >>= f) s ↔ PanicsWith m (f ()) (g s) := Iff.rfl

theorem panicsWith_query_bind : PanicsWith m (query g >>= f) s ↔ ∃ a, g s = .ok a ∧ PanicsWith m (f a) s := by
  unfold PanicsWith
  rw [bind_run, query_run]
  cases g s <;> simp

theorem panicsWith_ofExcept_bind {x : Except ε α} :
    PanicsWith m (ofExcept x >>= f) s ↔ ∃ a, x = .ok a ∧ PanicsWith m (f a) s := by
  cases x with
  | ok a =>
    constructor
    · exact fun h => ⟨a, rfl, h⟩
    · rintro ⟨b, hb, h⟩
      obtain rfl := Except.ok.inj hb
      exact h
  | error e =>
    refine iff_of_false ?_ fun ⟨a, h, _⟩ => by cases h
    rintro ⟨t, h⟩
    cases h

theorem panicsWith_throwIf_bind {f : Unit → Exec σ ε β} :
    PanicsWith m (throwIf c e >>= f) s ↔ c = false ∧ PanicsWith m (f ()) s := by
  cases c with
  | false => exact (and_iff_right rfl).symm
  | true =>
    refine iff_of_false ?_ fun h => by cases h.1
    rintro ⟨t, h⟩
    cases h

theorem panicsWith_panicWith {m' : String} : PanicsWith m (panicWith m' : Exec σ ε α) s ↔ m' = m := by
  constructor
  · rintro ⟨t, h⟩
    exact Outcome.panic.inj (Prod.mk.inj h).1
  · rintro rfl
    exact ⟨s, rfl⟩

theorem panicsWith_expect_bind {m' : String} {x : Option α} :
    PanicsWith m (expect m' x >>= f) s ↔ (x = none ∧ m' = m) ∨ ∃ a, x = some a ∧ PanicsWith m (f a) s := by
  cases x with
  | none =>
    have hrun : PanicsWith m (expect m' none >>= f) s ↔ m' = m := panicsWith_panicWith
    simp [hrun]
  | some a =>
    have hrun : PanicsWith m (expect m' (some a) >>= f) s ↔ PanicsWith m (f a) s := Iff.rfl
    simp [hrun]

theorem PanicsWith.panics (h : PanicsWith m x s) : Panics x s := ⟨m, h⟩

/-- Unless it panics, `x` moves the state along `R`. -/
def Keeps (R : σ → σ → Prop) (x : Exec σ ε α) : Prop := ∀ s, (x.run s).1.returns = true → R s (x.run s).2

namespace Keeps

variable {R : σ → σ → Prop} [IsPreorder σ R]

theorem pure (a : α) : Keeps R (Pure.pure a : Exec σ ε α) := fun s _ => refl_of R s

theorem gets (f : σ → α) : Keeps R (Exec.gets f : Exec σ ε α) := fun s _ => refl_of R s

theorem throw (e : ε) : Keeps R (Exec.throw e : Exec σ ε α) := fun s _ => refl_of R s

omit [IsPreorder σ R] in
theorem panicWith (m : String) : Keeps R (Exec.panicWith m : Exec σ ε α) := by
  intro s hret
  cases hret

theorem ofExcept (x : Except ε α) : Keeps R (Exec.ofExcept x : Exec σ ε α) := by
  intro s _
  cases x <;> exact refl_of R s

theorem query (f : σ → Except ε α) : Keeps R (Exec.query f : Exec σ ε α) := by
  intro s _
  rw [query_run]
  cases f s <;> exact refl_of R s

theorem expect (m : String) (x : Option α) : Keeps R (Exec.expect m x : Exec σ ε α) := by
  intro s _
  cases x <;> exact refl_of R s

theorem throwIf (c : Bool) (e : ε) : Keeps R (Exec.throwIf c e : Exec σ ε Unit) := by
  intro s _
  cases c <;> exact refl_of R s

omit [IsPreorder σ R] in
theorem modify {f : σ → σ} (h : ∀ s, R s (f s)) : Keeps R (Exec.modify f : Exec σ ε Unit) :=
  fun s _ => h s

variable {x : Exec σ ε α} {f : α → Exec σ ε β}

theorem bind (hx : Keeps R x) (hf : ∀ a, Keeps R (f a)) : Keeps R (x >>= f) := by
  intro s
  have hs := hx s
  rw [bind_run]
  rcases h : x.run s with ⟨a | e | m, t⟩ <;> rw [h] at hs
  · intro hret
    exact trans_of R (hs rfl) (hf a t hret)
  · exact hs
  · intro hret
    cases hret

theorem ofExcept_bind {x : Except ε α} (hf : ∀ a, x = .ok a → Keeps R (f a)) : Keeps R (Exec.ofExcept x >>= f) := by
  cases x with
  | ok a => exact hf a rfl
  | error e => exact Keeps.throw e

theorem query_bind {P : σ → Prop} {g : σ → Except ε α} (hRP : ∀ s t, (P s → R s t) → R s t)
    (hf : ∀ s a, P s → g s = .ok a → Keeps R (f a)) : Keeps R (Exec.query g >>= f) := by
  intro s hret
  refine hRP s _ fun hs => ?_
  rw [bind_run, query_run] at hret ⊢
  cases hg : g s with
  | error e => exact refl_of R s
  | ok a =>
    rw [hg] at hret
    exact hf s a hs hg s hret

omit [IsPreorder σ R] in
theorem expect_bind {m : String} {x : Option α}
    (hf : ∀ a, x = some a → Keeps R (f a)) : Keeps R (Exec.expect m x >>= f) := by
  cases x with
  | some a => exact hf a rfl
  | none =>
    intro s hret
    cases hret

omit [IsPreorder σ R] in
theorem attempt (hx : Keeps R x) : Keeps R x.attempt := by
  intro s
  have hs := hx s
  rw [attempt_run]
  rcases h : x.run s with ⟨_ | _ | _, t⟩ <;> rw [h] at hs <;> exact hs

omit [IsPreorder σ R] in
theorem optional (hx : Keeps R x) : Keeps R x.optional := by
  intro s
  have hs := hx s
  rw [optional_run]
  rcases h : x.run s with ⟨_ | _ | _, t⟩ <;> rw [h] at hs <;> exact hs

omit [IsPreorder σ R] in
theorem mapErr {f : ε → δ} (hx : Keeps R x) : Keeps R (x.mapErr f) := by
  intro s
  have hs := hx s
  rw [mapErr_run]
  rcases h : x.run s with ⟨_ | _ | _, t⟩ <;> rw [h] at hs <;> exact hs

theorem forEach {f : α → Exec σ ε Unit} {as : List α} (hf : ∀ a ∈ as, Keeps R (f a)) :
    Keeps R (Exec.forEach f as) := by
  induction as with
  | nil => exact pure ()
  | cons a as ih =>
    exact bind (hf a (by simp)) fun _ => ih fun b hb => hf b (by simp [hb])

theorem collect {as : List α} (hf : ∀ a ∈ as, Keeps R (f a)) : Keeps R (Exec.collect f as) := by
  induction as with
  | nil => exact pure []
  | cons a as ih =>
    exact bind (hf a (by simp)) fun b => bind (ih fun c hc => hf c (by simp [hc])) fun bs => pure (b :: bs)

omit [IsPreorder σ R] in
theorem mono {R' : σ → σ → Prop} (h : ∀ s t, R s t → R' s t) (hx : Keeps R x) : Keeps R' x :=
  fun s hret => h s _ (hx s hret)

theorem of_readOnly (hx : Keeps Eq x) : Keeps R x := by
  intro s hret
  rw [← hx s hret]
  exact refl_of R s

omit [IsPreorder σ R] in
theorem of_ok {a : α} {s t : σ} (hx : Keeps R x) (h : x.run s = (.ok a, t)) : R s t := by
  have hs := hx s
  rw [h] at hs
  exact hs rfl

end Keeps

/-- An error leaves the state as it was. -/
def FailsClean (x : Exec σ ε α) : Prop := ∀ s e t, x.run s = (.err e, t) → t = s

namespace FailsClean

variable {x : Exec σ ε α} {f : α → Exec σ ε β}

theorem of_total (hx : ∀ s, ∃ a t, x.run s = (.ok a, t)) : FailsClean x := by
  intro s e t h
  obtain ⟨a, u, ha⟩ := hx s
  rw [ha] at h
  cases h

theorem bind (hx : Keeps Eq x) (hf : ∀ a, FailsClean (f a)) : FailsClean (x >>= f) := by
  intro s e t h
  have hs := hx s
  rw [bind_run] at h
  rcases hrun : x.run s with ⟨a | e' | m, u⟩ <;> rw [hrun] at h hs
  · obtain rfl : s = u := hs rfl
    exact hf a s e t h
  · obtain ⟨-, rfl⟩ := Prod.mk.inj h
    exact (hs rfl).symm
  · cases h

end FailsClean

theorem run_of_readOnly (hx : Keeps Eq x) (h : (x.run s).1 = .ok a) : x.run s = (.ok a, s) := by
  have hrun := run_of_fst_ok h
  rw [← hx.of_ok hrun] at hrun
  exact hrun

theorem forEach_ok_of_readOnly {f : α → Exec σ ε Unit} (hf : ∀ a, Keeps Eq (f a)) :
    (forEach f as).run s = (.ok u, t) ↔ s = t ∧ ∀ a ∈ as, (f a).run s = (.ok (), s) := by
  induction as generalizing s with
  | nil => exact ⟨fun h => ⟨(Prod.mk.inj h).2, by simp⟩, fun h => by rw [h.1]; rfl⟩
  | cons a as ih =>
    rw [forEach_cons_ok, List.forall_mem_cons]
    constructor
    · rintro ⟨v, s', hfa, hrest⟩
      obtain rfl := (hf a).of_ok hfa
      obtain ⟨rfl, hall⟩ := ih.mp hrest
      exact ⟨rfl, hfa, hall⟩
    · rintro ⟨rfl, hfa, hall⟩
      exact ⟨(), s, hfa, ih.mpr ⟨rfl, hall⟩⟩

theorem collect_ok_of_readOnly (hf : ∀ a, Keeps Eq (f a)) (h : (collect f as).run s = (.ok bs, t)) :
    s = t ∧ List.Forall₂ (fun a b => (f a).run s = (.ok b, s)) as bs := by
  induction as generalizing s bs with
  | nil =>
    obtain ⟨rfl, rfl⟩ := pure_ok.mp h
    exact ⟨rfl, .nil⟩
  | cons a as ih =>
    obtain ⟨b, s₁, rest, hfa, hrest, rfl⟩ := collect_cons_ok.mp h
    obtain rfl := (hf a).of_ok hfa
    obtain ⟨rfl, hall⟩ := ih hrest
    exact ⟨rfl, .cons hfa hall⟩

theorem collect_ok_mem (ha : a ∈ as)
    (h : (collect f as).run s = (.ok bs, t)) : ∃ b ∈ bs, ∃ u v, (f a).run u = (.ok b, v) := by
  induction as generalizing s bs with
  | nil => cases ha
  | cons a' as ih =>
    obtain ⟨b, s₁, rest, hb, hrest, rfl⟩ := collect_cons_ok.mp h
    rcases List.mem_cons.mp ha with rfl | ha
    · exact ⟨b, List.mem_cons_self, s, s₁, hb⟩
    · obtain ⟨b', hb', hturn⟩ := ih ha hrest
      exact ⟨b', List.mem_cons_of_mem b hb', hturn⟩

variable {G : β → Prop}

theorem collect_ok_invariant {P : List α → σ → Prop}
    (hturn : ∀ done a s b t, P done s → (f a).run s = (.ok b, t) → G b → P (done ++ [a]) t) {done : List α}
    (hbs : ∀ b ∈ bs, G b) (h : (collect f as).run s = (.ok bs, t)) (hs : P done s) :
    P (done ++ as) t := by
  induction as generalizing done s bs with
  | nil =>
    obtain ⟨-, rfl⟩ := Prod.mk.inj h
    rwa [List.append_nil]
  | cons a as ih =>
    obtain ⟨b, s₁, rest, hb, hrest, rfl⟩ := collect_cons_ok.mp h
    have hfirst := hturn done a s b s₁ hs hb (hbs b List.mem_cons_self)
    have hlast := ih (fun b' hb' => hbs b' (List.mem_cons_of_mem b hb')) hrest hfirst
    rwa [List.append_assoc] at hlast

theorem collect_ok_along {R : σ → σ → Prop} [IsPreorder σ R]
    (hturn : ∀ a s b t, (f a).run s = (.ok b, t) → G b → R s t)
    (hbs : ∀ b ∈ bs, G b) (h : (collect f as).run s = (.ok bs, t)) : R s t := by
  have hstep (_ : List α) (a u b v) (hu : R s u) (hrun : (f a).run u = (.ok b, v)) (hb : G b) : R s v :=
    trans_of R hu (hturn a u b v hrun hb)
  exact @collect_ok_invariant σ ε α β f s t as bs G (fun _ => R s) hstep [] hbs h (refl_of R s)

theorem collect_ok_graded {M : Type} {Q : M → σ → σ → Prop} {one : M} {mul : M → M → M} (hone : ∀ s, Q one s s)
    (hmul : ∀ m n s t u, Q m s t → Q n t u → Q (mul m n) s u) {grade : α → M}
    (hf : ∀ a ∈ as, ∀ s b t, (f a).run s = (.ok b, t) → G b → Q (grade a) s t) (hbs : ∀ b ∈ bs, G b)
    (h : (collect f as).run s = (.ok bs, t)) : Q (as.foldr (fun a m => mul (grade a) m) one) s t := by
  induction as generalizing s bs with
  | nil =>
    obtain ⟨-, rfl⟩ := Prod.mk.inj h
    exact hone s
  | cons a as ih =>
    obtain ⟨b, s₁, rest, hb, hrest, rfl⟩ := collect_cons_ok.mp h
    refine hmul _ _ s s₁ t (hf a List.mem_cons_self s b s₁ hb (hbs b List.mem_cons_self)) ?_
    exact ih (fun a' ha' => hf a' (List.mem_cons_of_mem a ha'))
      (fun b' hb' => hbs b' (List.mem_cons_of_mem b hb')) hrest

/-- Amounts of the turns add up. -/
theorem forEach_ok_sum {M : Type} [AddMonoid M] {Q : M → σ → σ → Prop} (hzero : ∀ s, Q 0 s s)
    (hadd : ∀ m n s t u, Q m s t → Q n t u → Q (m + n) s u) {body : α → Exec σ ε Unit} {grade : α → M}
    (hf : ∀ a ∈ as, ∀ s t, (body a).run s = (.ok (), t) → Q (grade a) s t) {u : Unit}
    (h : (forEach body as).run s = (.ok u, t)) : Q (as.map grade).sum s t := by
  induction as generalizing s with
  | nil =>
    obtain ⟨-, rfl⟩ := Prod.mk.inj h
    exact hzero s
  | cons a as ih =>
    obtain ⟨_, s₁, hfirst, hrest⟩ := forEach_cons_ok.mp h
    rw [List.map_cons, List.sum_cons]
    exact hadd _ _ s s₁ t (hf a List.mem_cons_self s s₁ hfirst)
      (ih (fun a' ha' => hf a' (List.mem_cons_of_mem a ha')) hrest)

theorem collect_ok_exists {Q : Prop → σ → σ → Prop} (hrefl : ∀ s, Q False s s)
    (htrans : ∀ p q s t u, Q p s t → Q q t u → Q (p ∨ q) s u) {P : α → Prop}
    (hf : ∀ a ∈ as, ∀ s b t, (f a).run s = (.ok b, t) → G b → Q (P a) s t)
    (hbs : ∀ b ∈ bs, G b) (h : (collect f as).run s = (.ok bs, t)) : Q (∃ a ∈ as, P a) s t := by
  have hfold : (as.foldr (fun a p => P a ∨ p) False) = ∃ a ∈ as, P a := by
    clear hf h
    induction as with
    | nil => simp
    | cons a as ih => rw [List.foldr_cons, ih, ← List.exists_mem_cons_iff]
  rw [← hfold]
  exact collect_ok_graded hrefl htrans hf hbs h

theorem collect_ok_sum {M : Type} [AddMonoid M] {Q : M → σ → σ → Prop} (hzero : ∀ s, Q 0 s s)
    (hadd : ∀ m n s t u, Q m s t → Q n t u → Q (m + n) s u) {grade : α → M}
    (hf : ∀ a ∈ as, ∀ s b t, (f a).run s = (.ok b, t) → G b → Q (grade a) s t) (hbs : ∀ b ∈ bs, G b)
    (h : (collect f as).run s = (.ok bs, t)) : Q (as.map grade).sum s t := by
  have hsum : (as.map grade).sum = as.foldr (fun a m => grade a + m) 0 := by
    rw [List.sum_eq_foldr, List.foldr_map]
  rw [hsum]
  exact collect_ok_graded hzero hadd hf hbs h

end Exec

end Hyperbridge.Lib
