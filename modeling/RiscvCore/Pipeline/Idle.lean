import RiscvCore.Pipeline.Retirement
import RiscvCore.Pipeline.Schedule

/-!
# Programs that do nothing

The core *ignores* a word that is no control-flow instruction, no store and writes no register. As
long as only such words are on the instruction bus it does nothing but count: the registers stay
zero, nothing is stored, stalled or redirected, and the program counter is four times the edges
since the last reset (`idles`). It ignores NOPs, and so it does every word with an unknown opcode:
it has no way to refuse one. The program of the smoke test consists of these.
-/

namespace RiscvCore.Pipeline

open Rtl

/-- A word that the core ignores. -/
structure Ignored (w : Data) : Prop where
  control : ¬ IsControl w
  store : opcodeField w ≠ some .store
  silent : Silent w

instance (w : Data) : Decidable (Ignored w) :=
  decidable_of_iff (¬ IsControl w ∧ opcodeField w ≠ some .store ∧ Silent w)
    ⟨fun ⟨h1, h2, h3⟩ => ⟨h1, h2, h3⟩, fun h => ⟨h.control, h.store, h.silent⟩⟩

theorem ignored_zero : Ignored 0#32 := by decide

theorem ignored_instrNop : Ignored instrNop := by decide

/-- An unknown opcode is ignored. -/
theorem ignored_of_opcodeField_none {w : Data} (h : opcodeField w = none) : Ignored w where
  control := by simp [IsControl, h]
  store := by simp [h]
  silent := by
    rintro ⟨hwe, -, -⟩
    rw [cuOf, h] at hwe
    exact Bool.false_ne_true hwe

/-- A load that is ignored is one into `x0`. -/
theorem Ignored.rdField_of_load {w : Data} (h : Ignored w) (hl : (cuOf w).memToReg = true) :
    rdField w = 0#5 := by
  have hop : opcodeField w = some .load := by simpa using hl
  have hwe : (cuOf w).regWe = true := by
    rw [cuOf, hop]
    rfl
  by_contra h0
  exact h.silent ⟨hwe, rfl, h0⟩

/-! ### The invariant -/

/-- Nothing is going on in the front of the core. -/
structure Idle (c : Core) : Prop where
  ifId : Ignored c.ifId.instr
  load : c.idEx.memToReg = true → c.idEx.rdAddr = 0#5
  btb : c.ifStage.btb = btbReset

namespace Idle

theorem reset : Idle .reset where
  ifId := ignored_zero
  load _ := rfl
  btb := rfl

variable {c : Core} (h : Idle c)
include h

theorem exMispredict : c.exMispredict = false := not_exMispredict_of_not_isControl h.ifId.control

theorem hduStall : c.hduStall = false := by
  rw [← Bool.not_eq_true, Core.hduStall_iff]
  rintro ⟨hl, h0, -⟩
  exact h0 (h.load hl)

theorem dmemWe : c.dmemWe = false := by simp [h.ifId.store]

variable {imem : Imem} {i : CoreIn}

/-- The program counter counts. -/
theorem next_pc (hr : i.rstN = true) : (c.next imem i).ifStage.pc = c.ifStage.pc + 4#32 := by
  have hmiss : btbHit c.ifStage.btb c.ifStage.pc = false := by
    rw [h.btb]
    rfl
  rw [Core.next_pc _ hr, if_neg (by simp [h.exMispredict]), if_neg (by simp [hmiss]),
    if_neg (by simp [h.hduStall])]

/-- **An ignored word keeps the core idle.** -/
theorem next (hi : Ignored i.instrData) : Idle (c.next imem i) := by
  cases hr : i.rstN with
  | false =>
    rw [Core.next_of_reset _ hr]
    exact reset
  | true =>
    have hm : ¬ c.exMispredict = true := by simp [h.exMispredict]
    have hs : ¬ c.hduStall = true := by simp [h.hduStall]
    refine ⟨?_, ?_, ?_⟩
    · rw [Core.next_ifId _ hr, if_neg hm, if_neg hs]
      exact hi
    · rw [Core.next_idEx _ hr, if_neg hm]
      exact h.ifId.rdField_of_load
    · rw [Core.next_btb _ hr, if_neg hm, h.btb]

end Idle

/-! ### Runs -/

/-- The edges since the reset was released; none while it is low. -/
def Run.uptime (r : Run) : ℕ → ℕ
  | 0 => 0
  | t + 1 => if (r.inp t).rstN = true ∧ (r.inp (t + 1)).rstN = true then r.uptime t + 1 else 0

theorem Run.uptime_of_reset {r : Run} {t : ℕ} (h : (r.inp t).rstN = false) : r.uptime t = 0 := by
  cases t with
  | zero => rfl
  | succ t => rw [uptime, if_neg (by simp [h])]

section Runs

variable {r : Run} (h : ∀ t, Ignored (r.inp t).instrData)
include h

theorem idle_st (t : ℕ) : Idle (r.st t) := by
  induction t with
  | zero => exact .reset
  | succ t ih =>
    rw [Run.st_succ]
    exact ih.next (h t)

theorem idle_shown (t : ℕ) : Idle (r.shown t) := by
  cases hr : (r.inp t).rstN with
  | false =>
    rw [Run.shown_of_reset r hr]
    exact .reset
  | true =>
    rw [Run.shown_eq hr]
    exact idle_st h t

theorem pc_of_ignored (t : ℕ) : (r.shown t).ifStage.pc = BitVec.ofNat 32 (4 * r.uptime t) := by
  induction t with
  | zero => cases hr : (r.inp 0).rstN <;> rw [Run.shown, hr] <;> rfl
  | succ t ih =>
    cases hr1 : (r.inp (t + 1)).rstN with
    | false =>
      rw [Run.shown_of_reset r hr1, Run.uptime_of_reset hr1]
      rfl
    | true =>
      rw [Run.shown_eq hr1, Run.uptime]
      cases hr : (r.inp t).rstN with
      | false =>
        rw [Run.st_succ_of_reset r hr]
        rfl
      | true =>
        rw [Run.shown_eq hr] at ih
        rw [Run.st_succ, (idle_st h t).next_pc hr, ih, if_pos ⟨rfl, hr1⟩]
        exact (BitVec.ofNat_add (4 * r.uptime t) 4).symm

end Runs

/-- A core that has done nothing but count `n` edges. -/
structure Dormant (c : Core) (n : ℕ) : Prop where
  regs : ∀ a, c.rf a = 0#32
  pc : c.ifStage.pc = BitVec.ofNat 32 (4 * n)
  dmemWe : c.dmemWe = false
  noStall : c.hduStall = false
  noRedirect : c.exMispredict = false

/-- **Ignored words do nothing**, in any order, with any answers of the data memory and any
resets. -/
theorem idles (r : Run) (h : ∀ t, Ignored (r.inp t).instrData) (t : ℕ) :
    Dormant (r.shown t) (r.uptime t) where
  regs := rf_of_not_writes (fun u => (h u).silent.not_writes) t
  pc := pc_of_ignored h t
  dmemWe := (idle_shown h t).dmemWe
  noStall := (idle_shown h t).hduStall
  noRedirect := (idle_shown h t).exMispredict

/-- `smoke.mem`, less its NOPs: none of the words has an opcode that the core knows. -/
def smoke : List Data := [0x3C01000A#32, 0x20220005#32, 0x3C03000B#32, 0x20640010#32]

theorem idles_smoke :
    Dormant ((Run.ofWords smoke).shown 1000) ((Run.ofWords smoke).uptime 1000) := by
  have hnone : ∀ w ∈ smoke, opcodeField w = none := by
    simp only [smoke, List.forall_mem_cons, List.not_mem_nil, false_imp_iff, implies_true, and_true]
    decide
  have hignored : ∀ a, Ignored (image smoke a) := by
    intro a
    rcases image_mem_or smoke a with hm | hn
    · exact ignored_of_opcodeField_none (hnone _ hm)
    · rw [hn]
      exact ignored_instrNop
  exact idles (.ofWords smoke) (fun t => hignored _) 1000

end RiscvCore.Pipeline
