import RiscvCore.Pipeline.Provenance

/-!
# Undisturbed runs

As long as a program neither redirects nor stalls, the core fetches its words in order:
in cycle `t` the program counter is `4 * t`, ID holds the word before it (`slot`), and the
branch target buffer stays empty. `Sequential.succ` is the step; what is in ID and EX
decides whether the next cycle is disturbed.
-/

namespace RiscvCore.Pipeline

open Rtl

/-- The word of the program at address `4 * i`. -/
def word (M : Data → Data) (i : ℕ) : Data := M (BitVec.ofNat 32 (4 * i))

/-- The contents of the IF/ID register in each cycle of an undisturbed run. -/
def slot (M : Data → Data) : ℕ → PrIfId
  | 0 => .bubble
  | k + 1 => ⟨BitVec.ofNat 32 (4 * k), word M k⟩

/-- A program without branches or jumps. -/
def ControlFree (M : Data → Data) : Prop := ∀ i, ¬ IsControl (word M i)

/-- A load-use pair: `w` is a load into a register other than `x0` that a raw source field
of `v`, the word behind it, names. -/
def LoadUse (w v : Data) : Prop :=
  opcodeField w = some .load ∧ rdField w ≠ 0#5 ∧ (rdField w = rs1Field v ∨ rdField w = rs2Field v)

instance (w v : Data) : Decidable (LoadUse w v) := by unfold LoadUse; infer_instance

/-- The run executes `M`: reset stays released and the bus answers with the word of `M`. -/
def Run.Executes (r : Run) (M : Data → Data) : Prop :=
  ∀ t, (r.inp t).rstN = true ∧ (r.inp t).instrData = M (r.st t).ifStage.pc

theorem Run.executes_program (imem : Imem) (M : Data → Data) (D : ℕ → Data) :
    (Run.program imem M D).Executes M := fun _ => ⟨rfl, rfl⟩

section Slots

variable {M : Data → Data}

theorem not_isControl_zero : ¬ IsControl 0#32 := by decide

theorem not_isControl_slot (h : ControlFree M) (t : ℕ) : ¬ IsControl (slot M t).instr := by
  cases t with
  | zero => exact not_isControl_zero
  | succ k => exact h k

/-- Nothing stalls on, or behind, the bubble of the first cycle. -/
theorem not_loadUse_slot {t : ℕ} (h : ∀ i, t = i + 2 → ¬ LoadUse (word M i) (word M (i + 1))) :
    ¬ LoadUse (slot M (t - 1)).instr (slot M t).instr := by
  have h0 : ∀ v, ¬ LoadUse 0#32 v := fun v h => absurd h.1 (by decide)
  rcases t with _ | _ | i
  · exact h0 _
  · exact h0 _
  · exact h i rfl

end Slots

/-- Cycle `t` of a run that has not been disturbed yet. -/
structure Sequential (M : Data → Data) (r : Run) (t : ℕ) : Prop where
  pc : (r.st t).ifStage.pc = BitVec.ofNat 32 (4 * t)
  btb : ∀ j, ((r.st t).ifStage.btb j).valid = false
  ifId : (r.st t).ifId = slot M t
  idAt : r.idAt t = if t = 0 then none else some (t - 1)
  exLoad : (r.st t).idEx.memToReg = (cuOf (slot M (t - 1)).instr).memToReg
  exRd : (r.st t).idEx.rdAddr = rdField (slot M (t - 1)).instr

namespace Sequential

variable {M : Data → Data} {r : Run} {t : ℕ}

theorem zero : Sequential M r 0 where
  pc := rfl
  btb _ := rfl
  ifId := rfl
  idAt := rfl
  exLoad := rfl
  exRd := (by decide : (0#5 : Address) = rdField 0#32)

theorem not_exMispredict (h : Sequential M r t) (hc : ¬ IsControl (slot M t).instr) :
    (r.st t).exMispredict = false :=
  not_exMispredict_of_not_isControl (h.ifId ▸ hc)

theorem hduStall_iff (h : Sequential M r t) : (r.st t).hduStall = true ↔
    LoadUse (slot M (t - 1)).instr (slot M t).instr := by
  rw [Core.hduStall_iff, h.exLoad, h.exRd, h.ifId, cuOf_memToReg, decide_eq_true_eq]
  rfl

/-- An undisturbed cycle is followed by another cycle of the sequence. -/
theorem succ (hx : r.Executes M) (h : Sequential M r t) (hm : (r.st t).exMispredict = false)
    (hs : (r.st t).hduStall = false) : Sequential M r (t + 1) where
  pc := by
    have hit : btbHit (r.st t).ifStage.btb (r.st t).ifStage.pc = false := by
      simp [btbHit, h.btb]
    rw [Run.st_succ, Core.next_pc _ (hx t).1, if_neg (by simp [hm]), if_neg (by simp [hit]),
      if_neg (by simp [hs]), h.pc]
    exact (BitVec.ofNat_add (4 * t) 4).symm
  btb j := by rw [Run.btb_hold (hx t).1 hm]; exact h.btb j
  ifId := by
    rw [Run.ifId_load (hx t).1 hm hs, (hx t).2, h.pc]
    rfl
  idAt := Run.enters_iff.mpr ⟨(hx t).1, hm, hs⟩
  exLoad := by rw [Run.idEx_load (hx t).1 hm, Nat.add_sub_cancel, ← h.ifId]; rfl
  exRd := by rw [Run.idEx_load (hx t).1 hm, Nat.add_sub_cancel, ← h.ifId]; rfl

/-- Up to the first load-use pair a branch-free program runs undisturbed. -/
theorem of_noLoadUse (hx : r.Executes M) (hc : ControlFree M) {n : ℕ}
    (hn : ∀ i, i + 2 < n → ¬ LoadUse (word M i) (word M (i + 1))) : ∀ t ≤ n, Sequential M r t := by
  intro t ht
  induction t with
  | zero => exact zero
  | succ t ih =>
    have h := ih (by omega)
    refine h.succ hx (h.not_exMispredict (not_isControl_slot hc t)) ?_
    rw [← Bool.not_eq_true, h.hduStall_iff]
    exact not_loadUse_slot fun i hi => hn i (by omega)

/-- What is in ID issues, from cycle 1 on. -/
theorem issues_iff (hx : r.Executes M) (h : Sequential M r t)
    (hm : (r.st t).exMispredict = false) : r.Issues t ↔ 0 < t := by
  rw [Run.Issues, h.idAt]
  rcases t with _ | t <;> simp [(hx _).1, hm]

end Sequential

end RiscvCore.Pipeline
