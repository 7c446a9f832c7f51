import Mathlib.Logic.Function.Iterate
import Mathlib.Order.Basic

/-!
# Synchronous machines

A machine of one clock: a state after reset, and the state after each edge as a
function of the input and the state before it. Between edges the input is
presented by an *environment*, which may look at the state — a memory that answers
an address the machine drives is such an environment — and may be constrained by a
relation between states and inputs.

## What is proved

* `Machine.Inductive.run` and `Machine.Inductive.reachable` — the invariant rule:
  a property of the reset state that every permitted edge preserves holds after
  every number of edges of every run, and of every reachable state.
* `Machine.reachable_run` — the states of a run are reachable.
* `Machine.runFrom_eq_of_le` — runs that agree once, and in their inputs from then on,
  agree for ever.
* `Machine.forall_run_of_recurs` — in a constant environment, what holds until a run comes back
  to a state holds for ever.
* `Machine.run_stream_map` — a machine that sees its inputs through a map runs as the machine
  behind the map.
* `Machine.Lockstep.runFrom` — a relation that every common input preserves relates two
  machines' runs edge for edge.
-/

namespace RiscvCore

universe u v

/-- A synchronous machine with states `σ` and inputs `ι`. -/
structure Machine (σ : Type u) (ι : Type v) where
  /-- The state after reset. -/
  init : σ
  /-- The state after an edge. -/
  next : ι → σ → σ

namespace Machine

variable {σ : Type u} {ι : Type v} (m : Machine σ ι)

/-- An environment: the input it presents in each cycle, given the state. -/
abbrev Env (σ : Type u) (ι : Type v) := ℕ → σ → ι

/-- The state from `s` after a number of edges under an environment. -/
def runFrom (s : σ) (e : Env σ ι) : ℕ → σ
  | 0 => s
  | t + 1 => m.next (e t (runFrom s e t)) (runFrom s e t)

theorem runFrom_succ (s : σ) (e : Env σ ι) (t : ℕ) :
    m.runFrom s e (t + 1) = m.next (e t (m.runFrom s e t)) (m.runFrom s e t) := rfl

/-- The state after a number of edges from reset. -/
def run (e : Env σ ι) : ℕ → σ := m.runFrom m.init e

@[simp] theorem run_zero (e : Env σ ι) : m.run e 0 = m.init := rfl

theorem run_succ (e : Env σ ι) (t : ℕ) : m.run e (t + 1) = m.next (e t (m.run e t)) (m.run e t) := rfl

/-! ### Invariants -/

/-- The states that runs permitted by `P` reach. -/
inductive Reachable (P : σ → ι → Prop) : σ → Prop where
  /-- The reset state. -/
  | init : Reachable P m.init
  /-- An edge under a permitted input. -/
  | next {s : σ} {i : ι} : Reachable P s → P s i → Reachable P (m.next i s)

/-- `I` holds after reset and every edge permitted by `P` preserves it. -/
structure Inductive (P : σ → ι → Prop) (I : σ → Prop) : Prop where
  init : I m.init
  next : ∀ s i, P s i → I s → I (m.next i s)

variable {m} {P : σ → ι → Prop} {I : σ → Prop}

theorem Inductive.reachable (h : m.Inductive P I) {s : σ} (hs : m.Reachable P s) : I s := by
  induction hs with
  | init => exact h.init
  | next _ hP ih => exact h.next _ _ hP ih

theorem reachable_run {e : Env σ ι} (he : ∀ t s, P s (e t s)) (t : ℕ) : m.Reachable P (m.run e t) := by
  induction t with
  | zero => exact .init
  | succ t ih => exact ih.next (he t _)

theorem Inductive.run (h : m.Inductive P I) {e : Env σ ι} (he : ∀ t s, P s (e t s)) (t : ℕ) :
    I (m.run e t) := h.reachable (reachable_run he t)

/-! ### Two runs -/

/-- The environment that presents a stream of inputs, whatever the state. -/
def stream (i : ℕ → ι) : Env σ ι := fun t _ => i t

/-- Runs in the same state at some edge, with the same environment from then on, are in
the same state at every later one. -/
theorem runFrom_eq_of_le {s s' : σ} {e e' : Env σ ι} {k : ℕ}
    (hk : m.runFrom s e k = m.runFrom s' e' k) (he : ∀ t, k ≤ t → e t = e' t) {n : ℕ} (hn : k ≤ n) :
    m.runFrom s e n = m.runFrom s' e' n := by
  obtain ⟨d, rfl⟩ := Nat.exists_eq_add_of_le hn
  induction d with
  | zero => exact hk
  | succ d ih =>
    rw [← Nat.add_assoc, runFrom_succ, runFrom_succ, ih (Nat.le_add_right k d),
      he _ (Nat.le_add_right k d)]

/-- A run that comes back to a state, in an environment that does not depend on the cycle, goes
round for ever. -/
theorem run_add_period {e : Env σ ι} {j p : ℕ} (hrec : m.run e (j + p) = m.run e j)
    (he : ∀ t t', e t = e t') (d : ℕ) : m.run e (j + d + p) = m.run e (j + d) := by
  induction d with
  | zero => exact hrec
  | succ d ih =>
    rw [show j + (d + 1) + p = j + d + p + 1 by omega, run_succ, ih, he (j + d + p) (j + d)]
    exact (m.run_succ e (j + d)).symm

/-- What holds until a run comes back to a state holds for ever. -/
theorem forall_run_of_recurs {P : σ → Prop} {e : Env σ ι} {j p : ℕ} (hp : 0 < p)
    (hrec : m.run e (j + p) = m.run e j) (he : ∀ t t', e t = e t')
    (h : ∀ t, t < j + p → P (m.run e t)) (t : ℕ) : P (m.run e t) := by
  induction t using Nat.strongRecOn with
  | ind t ih =>
    rcases Nat.lt_or_ge t (j + p) with hlt | hge
    · exact h t hlt
    · obtain ⟨d, rfl⟩ := Nat.exists_eq_add_of_le hge
      rw [show j + p + d = j + d + p by omega, run_add_period hrec he d]
      exact ih (j + d) (by omega)

/-- A machine that is another one behind a map of its inputs runs as that one on the mapped
stream. -/
theorem run_stream_map {κ : Type v} {k : Machine σ κ} {f : ι → κ} (h0 : m.init = k.init)
    (h : ∀ i s, m.next i s = k.next (f i) s) (i : ℕ → ι) (t : ℕ) :
    m.run (stream i) t = k.run (stream fun n => f (i n)) t := by
  induction t with
  | zero => exact h0
  | succ t ih =>
    rw [run_succ, run_succ, ih]
    exact h _ _

section Lockstep

variable {τ : Type u} {m' : Machine τ ι} {R : σ → τ → Prop}

/-- Every common input keeps related states of two machines related. -/
def Lockstep (m : Machine σ ι) (m' : Machine τ ι) (R : σ → τ → Prop) : Prop :=
  ∀ i s t, R s t → R (m.next i s) (m'.next i t)

theorem Lockstep.runFrom (h : Lockstep m m' R) (i : ℕ → ι) {s : σ} {t : τ} (hst : R s t) (n : ℕ) :
    R (m.runFrom s (stream i) n) (m'.runFrom t (stream i) n) := by
  induction n with
  | zero => exact hst
  | succ n ih => exact h _ _ _ ih

/-- Machines with related reset states stay related from reset on. -/
theorem Lockstep.run (h : Lockstep m m' R) (h0 : R m.init m'.init) (i : ℕ → ι) (n : ℕ) :
    R (m.run (stream i) n) (m'.run (stream i) n) := h.runFrom i h0 n

end Lockstep

end Machine

end RiscvCore
