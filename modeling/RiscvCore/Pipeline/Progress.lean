import RiscvCore.Pipeline.Datapath
import RiscvCore.Pipeline.LoadUse

/-!
# Progress

What the core does for ever, from any cycle on in which reset stays released.

* `progress` — an instruction enters ID at most two cycles later, unless a load from its own
  destination is stalled: then none ever does again, and the load issues once more in every cycle.
* `issueCycles` — an instruction issues once, twice if a stall holds it, or in every cycle if it is
  that load.
* `restarts` — a jump or a taken branch that reaches ID behind a bubble, as the first
  instruction after reset and the one at the target of every redirect do, goes to address 0.
-/

namespace RiscvCore.Pipeline

open Rtl

variable {r : Run} {t : ℕ}

/-! ### Deadlock -/

/-- The load in ID waits for itself. -/
def Run.Stuck (r : Run) (t : ℕ) : Prop :=
  (r.st t).hduStall = true ∧ SelfLoad (r.st t).ifId.instr

section Deadlock

theorem Run.Stuck.not_exMispredict (h : r.Stuck t) : (r.st t).exMispredict = false :=
  not_exMispredict_of_load h.2.1

/-- **It still waits a cycle later**, behind its own copy in EX. -/
theorem Run.Stuck.succ (h : r.Stuck t) (hr : (r.inp t).rstN = true) : r.Stuck (t + 1) := by
  have hm := h.not_exMispredict
  refine ⟨(hduStall_succ_iff hr hm h.1).mpr h.2, ?_⟩
  rw [Run.ifId_hold hr hm h.1]
  exact h.2

theorem Run.Stuck.not_enters (h : r.Stuck t) : ¬ r.Enters t := by
  intro he
  obtain ⟨-, -, hs⟩ := Run.enters_iff.mp he
  rw [h.1] at hs
  exact Bool.false_ne_true hs.symm

theorem Run.Stuck.issues (h : r.Stuck t) (hr : (r.inp t).rstN = true) : r.Issues t := by
  obtain ⟨u, hu⟩ := idAt_of_hduStall h.1
  exact ⟨hr, h.not_exMispredict, by rw [hu]; rfl⟩

variable (hr : ∀ v, t ≤ v → (r.inp v).rstN = true)
include hr

/-- It waits for ever: it stays in ID and issues in every cycle. -/
theorem Run.Stuck.forever (h : r.Stuck t) {v : ℕ} (hv : t ≤ v) :
    r.Stuck v ∧ r.idAt v = r.idAt t := by
  obtain ⟨d, rfl⟩ := Nat.exists_eq_add_of_le hv
  induction d with
  | zero => exact ⟨h, rfl⟩
  | succ d ih =>
    obtain ⟨hs, hid⟩ := ih (Nat.le_add_right t d)
    have hrd := hr (t + d) (Nat.le_add_right t d)
    exact ⟨hs.succ hrd, (idAt_hold hrd hs.not_exMispredict hs.1).trans hid⟩

/-- A redirect leaves a bubble in ID, so the instruction at its target enters in the next
cycle. -/
theorem enters_succ_of_exMispredict (hm : (r.st t).exMispredict = true) : r.Enters (t + 1) := by
  obtain ⟨hs, hm1⟩ := Run.quiet_of_bubble (Run.ifId_flush (hr t le_rfl) hm)
  exact Run.enters_iff.mpr ⟨hr _ (Nat.le_succ t), hm1, hs⟩

theorem exists_enters_of_not_stuck (h : ¬ r.Stuck t) : ∃ v, t ≤ v ∧ v ≤ t + 2 ∧ r.Enters v := by
  cases hm : (r.st t).exMispredict with
  | true => exact ⟨t + 1, by omega, by omega, enters_succ_of_exMispredict hr hm⟩
  | false =>
    cases hs : (r.st t).hduStall with
    | false => exact ⟨t, le_rfl, by omega, Run.enters_iff.mpr ⟨hr t le_rfl, hm, hs⟩⟩
    | true =>
      -- the stall lasts one cycle, and what was stalled may redirect in the next
      have hs1 : (r.st (t + 1)).hduStall = false := by
        rw [← Bool.not_eq_true, hduStall_succ_iff (hr t le_rfl) hm hs]
        exact fun hself => h ⟨hs, hself⟩
      cases hm1 : (r.st (t + 1)).exMispredict with
      | true =>
        have hr1 : ∀ v, t + 1 ≤ v → (r.inp v).rstN = true := fun v hv => hr v (by omega)
        exact ⟨t + 2, by omega, le_rfl, enters_succ_of_exMispredict hr1 hm1⟩
      | false =>
        exact ⟨t + 1, by omega, by omega, Run.enters_iff.mpr ⟨hr _ (Nat.le_succ t), hm1, hs1⟩⟩

end Deadlock

/-- What becomes of the core from cycle `t` on. -/
structure Progress (r : Run) (t : ℕ) : Prop where
  /-- It makes progress within two cycles, -/
  moves : ¬ r.Stuck t → ∃ v, t ≤ v ∧ v ≤ t + 2 ∧ r.Enters v
  /-- or never again, while what is in ID issues over and over. -/
  halts : r.Stuck t → ∀ v, t ≤ v → ¬ r.Enters v ∧ r.Issues v ∧ r.idAt v = r.idAt t

/-- **Progress**: the core moves on unless a load waits for itself. -/
theorem progress (r : Run) (t : ℕ) (hr : ∀ v, t ≤ v → (r.inp v).rstN = true) : Progress r t where
  moves := exists_enters_of_not_stuck hr
  halts h v hv := by
    obtain ⟨hs, hid⟩ := h.forever hr hv
    exact ⟨hs.not_enters, hs.issues (hr v hv), hid⟩

/-- The second load waits for itself in cycle 3. -/
theorem progress_selfLoad : Progress (.ofWords selfLoad) 3 := progress _ 3 fun _ _ => rfl

/-! ### How often an instruction executes -/

/-- The instruction fetched in cycle `u` issues in cycle `t`. -/
def Run.IssuesOf (r : Run) (u t : ℕ) : Prop := r.Issues t ∧ r.idAt t = some u

section Issues

variable {u : ℕ} (hr : ∀ v, u ≤ v → (r.inp v).rstN = true) (he : r.Enters u)
include hr he

/-- It is still in ID in the second cycle if it is stalled in the first. -/
theorem idAt_second_iff : r.idAt (u + 2) = some u ↔
    (r.st (u + 1)).exMispredict = false ∧ (r.st (u + 1)).hduStall = true := by
  constructor
  · intro h
    exact (hduStall_of_idAt he h).2
  · rintro ⟨hm, hs⟩
    exact (idAt_hold (hr _ (by omega)) hm hs).trans he

theorem stuck_of_idAt {d : ℕ} (h : r.idAt (u + 3 + d) = some u) : r.Stuck (u + 1) := by
  have h2 : r.idAt (u + 2) = some u := Run.idAt_of_le h (by omega) (by omega)
  have h3 : r.idAt (u + 3) = some u := Run.idAt_of_le h (by omega) (by omega)
  obtain ⟨hm, hs⟩ := (idAt_second_iff hr he).mp h2
  refine ⟨hs, (hduStall_succ_iff (hr _ (by omega)) hm hs).mp ?_⟩
  exact (hduStall_of_idAt h2 h3).2.2

end Issues

/-- In which cycles the instruction fetched in cycle `u` issues. -/
structure IssueCycles (r : Run) (u : ℕ) : Prop where
  /-- In the cycle after the fetch, unless it redirects. -/
  first : r.IssuesOf u (u + 1) ↔ (r.st (u + 1)).exMispredict = false
  /-- In the one after that, if it was stalled and does not redirect now. -/
  second : r.IssuesOf u (u + 2) ↔ (r.st (u + 1)).exMispredict = false ∧
    (r.st (u + 1)).hduStall = true ∧ (r.st (u + 2)).exMispredict = false
  /-- In all others if it waits for itself, and otherwise in none. -/
  later : ∀ d, r.IssuesOf u (u + 3 + d) ↔ r.Stuck (u + 1)

/-- **How often an instruction executes**: once; twice behind a load of one of its registers; for
ever if it is a load that waits for itself; not at all, or once in vain, if it redirects. -/
theorem issueCycles (r : Run) (u : ℕ) (hr : ∀ v, u ≤ v → (r.inp v).rstN = true) (he : r.Enters u) :
    IssueCycles r u where
  first := by
    constructor
    · exact fun h => h.1.2.1
    · exact fun hm => ⟨⟨hr _ (by omega), hm, by rw [he]; rfl⟩, he⟩
  second := by
    constructor
    · rintro ⟨hi, hid⟩
      obtain ⟨hm, hs⟩ := (idAt_second_iff hr he).mp hid
      exact ⟨hm, hs, hi.2.1⟩
    · rintro ⟨hm, hs, hm2⟩
      have hid := (idAt_second_iff hr he).mpr ⟨hm, hs⟩
      exact ⟨⟨hr _ (by omega), hm2, by rw [hid]; rfl⟩, hid⟩
  later d := by
    constructor
    · exact fun h => stuck_of_idAt hr he h.2
    · intro h
      have hr1 : ∀ v, u + 1 ≤ v → (r.inp v).rstN = true := fun v hv => hr v (by omega)
      obtain ⟨hs, hid⟩ := h.forever hr1 (v := u + 3 + d) (by omega)
      exact ⟨hs.issues (hr _ (by omega)), hid.trans he⟩

/-- The `add` behind the load, fetched in cycle 1. -/
theorem issueCycles_hazardLoad : IssueCycles (.ofWords hazardLoad) 1 :=
  issueCycles _ 1 (fun _ _ => rfl) (by unfold Run.Enters; decide +kernel)

/-! ### Restarts -/

/-- The bubble that an empty ID hands over is the one that a flush leaves. -/
theorem issue_bubble (rf : RegFile) : issue rf .bubble = .bubble := by
  have h0 : ∀ a, a = 0#5 → rfRead rf a = 0#32 := fun a h => h ▸ rfRead_zero rf
  rw [issue, h0 _ (by decide), h0 _ (by decide)]
  decide

/-- **A redirect behind a bubble goes to address 0**: to the sum of the bubble's address and
operand. -/
theorem restarts (r : Run) (t : ℕ) (hr : (r.inp (t + 1)).rstN = true) (hid : r.idAt t = none)
    (hm : (r.st (t + 1)).exMispredict = true) : (r.st (t + 2)).ifStage.pc = 0#32 := by
  have hex : (r.st (t + 1)).idEx = .bubble := by
    obtain hb | ⟨-, -, hload⟩ := r.idEx_cases t
    · exact hb
    · rw [hload, idExIn_eq_issue, Run.ifId_of_idAt_none hid, issue_bubble]
  rw [Run.pc_redirect hr hm, hex]
  rfl

/-- `nop; nop; addi x0, x0, 16; jal x0, 12; nop; nop; jal x0, 0`: the first jump goes to the
second, which is meant to loop. -/
def trampoline : List Data :=
  [instrNop, instrNop, 0x01000013#32, 0x00C0006F#32, instrNop, instrNop, 0x0000006F#32]

/-- The second jump restarts the program. -/
theorem restarts_trampoline : ((Run.ofWords trampoline).st 7).ifStage.pc = 0#32 :=
  restarts _ 5 rfl (by decide +kernel) (by decide +kernel)

end RiscvCore.Pipeline
