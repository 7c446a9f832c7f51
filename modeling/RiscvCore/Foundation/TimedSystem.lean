import Mathlib.Data.Nat.Count
import Mathlib.Order.Monotone.Basic

/-!
# Systems whose steps take time

A deterministic system in which a step takes a number of cycles that depends on the state
(`Timed`): the reference for a machine that does one thing after another, but not one thing
a cycle. `Timed.clock` is the cycle in which each step begins.

A run *realizes* such a system if whenever it is at the beginning of a step, it is at the
beginning of the next one when the step's time has passed (`Timed.Realizes`). What is in
between is the run's own affair.

## What is proved

* `Timed.Realizes.run` — the run rule: a run that realizes every permitted step is at the
  beginning of step `n` at the clock of `n`, as long as the steps before it are permitted.
* `Timed.exists_clock_le` — every cycle belongs to a step, if every step takes time.
* `Timed.clock_eq_add_count` — with steps of one cycle, or of two under a condition, the clock
  is the number of steps and of conditions met.
-/

namespace RiscvCore

universe u

/-- A deterministic system with the number of cycles that the step from each state takes. -/
structure Timed (α : Type u) where
  /-- The state after a step. -/
  next : α → α
  /-- The cycles of the step. -/
  cost : α → ℕ

namespace Timed

variable {α : Type u} (m : Timed α) (s : α)

/-- The state after a number of steps. -/
def state : ℕ → α
  | 0 => s
  | n + 1 => m.next (state n)

/-- The cycle in which a step begins, counted from the first. -/
def clock : ℕ → ℕ
  | 0 => 0
  | n + 1 => clock n + m.cost (m.state s n)

@[simp] theorem state_zero : m.state s 0 = s := rfl

theorem state_succ (n : ℕ) : m.state s (n + 1) = m.next (m.state s n) := rfl

@[simp] theorem clock_zero : m.clock s 0 = 0 := rfl

theorem clock_succ (n : ℕ) : m.clock s (n + 1) = m.clock s n + m.cost (m.state s n) := rfl

variable {m s}

/-- A property that every step keeps holds after every number of steps. -/
theorem state_of_invariant {I : α → Prop} (h0 : I s) (h : ∀ a, I a → I (m.next a)) (n : ℕ) :
    I (m.state s n) := by
  induction n with
  | zero => exact h0
  | succ n ih => exact h _ ih

/-! ### Realization -/

/-- Where `R t a` says that a run is at the beginning of a step from `a` in cycle `t`: after a
permitted step's time it is at the beginning of the next. -/
def Realizes (m : Timed α) (R : ℕ → α → Prop) (ok : α → Prop) : Prop :=
  ∀ t a, R t a → ok a → R (t + m.cost a) (m.next a)

/-- **The run rule.** -/
theorem Realizes.run {R : ℕ → α → Prop} {ok : α → Prop} (h : m.Realizes R ok) {t : ℕ}
    (h0 : R t s) {n : ℕ} (hok : ∀ k < n, ok (m.state s k)) :
    R (t + m.clock s n) (m.state s n) := by
  induction n with
  | zero => exact h0
  | succ n ih =>
    have hn := h _ _ (ih fun k hk => hok k (Nat.lt_succ_of_lt hk)) (hok n (Nat.lt_succ_self n))
    rwa [Nat.add_assoc] at hn

/-! ### The clock -/

theorem clock_strictMono (hpos : ∀ a, 0 < m.cost a) : StrictMono (m.clock s) := by
  refine strictMono_nat_of_lt_succ fun n => ?_
  rw [clock_succ]
  exact Nat.lt_add_of_pos_right (hpos _)

/-- **Every cycle belongs to a step.** -/
theorem exists_clock_le (hpos : ∀ a, 0 < m.cost a) (t : ℕ) :
    ∃ n, m.clock s n ≤ t ∧ t < m.clock s (n + 1) := by
  induction t with
  | zero =>
    refine ⟨0, Nat.le_refl 0, ?_⟩
    rw [clock_succ]
    exact Nat.lt_add_left _ (hpos _)
  | succ t ih =>
    obtain ⟨n, hle, hlt⟩ := ih
    rcases Nat.lt_or_ge (t + 1) (m.clock s (n + 1)) with h | h
    · exact ⟨n, Nat.le_succ_of_le hle, h⟩
    · exact ⟨n + 1, h, Nat.lt_of_le_of_lt hlt (clock_strictMono hpos (Nat.lt_succ_self _))⟩

/-- A step that takes a cycle, and one more where `p` holds. -/
theorem clock_eq_add_count {p : α → Prop} [DecidablePred p]
    (h : ∀ a, m.cost a = if p a then 2 else 1) (n : ℕ) :
    m.clock s n = n + Nat.count (fun k => p (m.state s k)) n := by
  induction n with
  | zero => rfl
  | succ n ih =>
    rw [clock_succ, ih, h, Nat.count_succ]
    split_ifs <;> omega

end Timed

end RiscvCore
