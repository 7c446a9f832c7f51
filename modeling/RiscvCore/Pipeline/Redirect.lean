import RiscvCore.Pipeline.Run

/-!
# Redirects

In a cycle with `ex_mispredict` three registers change course at once: the program counter
takes the target, and IF/ID and ID/EX are flushed, whatever the stall and the branch target
buffer say. `squashes_of_exMispredict` is what follows: the word fetched in that cycle is
forgotten, the two bubbles left behind the redirect do nothing on their way to write-back,
and the three older instructions write back as if nothing had happened.
-/

namespace RiscvCore.Pipeline

open Rtl

/-- The run that differs from `r` only in the word on the instruction bus in cycle `t`. -/
def Run.presenting (r : Run) (t : ℕ) (w : Data) : Run :=
  ⟨r.imem, fun n c => if n = t then { r.bus n c with instrData := w } else r.bus n c⟩

/-- **A redirect in cycle `t` squashes exactly what is behind it.** -/
structure Squashes (r : Run) (t : ℕ) : Prop where
  /-- Fetch goes on at the target. -/
  target : (r.st (t + 1)).ifStage.pc = (r.st t).ex.targetAddr
  /-- The word fetched in cycle `t` leaves no trace in any state, and so in no output. -/
  forgets : ∀ w n, (r.presenting t w).st n = r.st n
  noStall : (r.st (t + 1)).hduStall = false
  noRedirect : (r.st (t + 1)).exMispredict = false
  noStore : (r.st (t + 1)).dmemWe = false
  /-- What is in EX in cycle `t + 1` is in WB in cycle `t + 3`, and writes nothing. -/
  exSilent : (r.st (t + 3)).memWb.regWriteEn = false
  /-- What is in ID in cycle `t + 1` is in WB in cycle `t + 4`, and writes nothing. -/
  idSilent : (r.st (t + 4)).memWb.regWriteEn = false
  wbWrites : (r.st t).memWb.regWriteEn = true → (r.st t).memWb.rdAddr ≠ 0#5 →
    (r.st (t + 1)).rf (r.st t).memWb.rdAddr = (r.st t).memWb.aluResult
  memWrites : (r.st t).exMem.regWriteEn = true → (r.st t).exMem.rdAddr ≠ 0#5 →
    (r.st (t + 2)).rf (r.st t).exMem.rdAddr = (r.st t).exMem.aluResult
  exWrites : (r.st t).idEx.regWriteEn = true → (r.st t).idEx.rdAddr ≠ 0#5 →
    (r.st (t + 3)).rf (r.st t).idEx.rdAddr = (r.st t).ex.aluResult

section Redirect

variable {r : Run} {t : ℕ}

theorem Run.presenting_bus_of_ne {w : Data} {n : ℕ} (h : n ≠ t) :
    (r.presenting t w).bus n = r.bus n := by
  funext c
  exact if_neg h

/-- Before the cycle in which they differ the two runs are the same. -/
theorem Run.presenting_st_of_le (w : Data) {n : ℕ} (h : n ≤ t) :
    (r.presenting t w).st n = r.st n := by
  induction n with
  | zero => rfl
  | succ n ih =>
    rw [st_succ, st_succ, inp, inp, ih (by omega), presenting_bus_of_ne (by omega)]
    rfl

/-- A flush drops the word on the instruction bus. -/
theorem next_eq_of_exMispredict {c : Core} (hm : c.exMispredict = true) (imem : Imem) (i : CoreIn)
    (w : Data) : c.next imem { i with instrData := w } = c.next imem i := by
  have hif : ∀ d, c.ifId.next i.rstN c.hduStall c.exMispredict c.instrAddr d = .bubble := by
    intro d
    simp [PrIfId.next, hm]
  simp only [Core.next, hif]

/-- In a cycle with a redirect the presented word does not matter. -/
theorem presenting_st_eq (hm : (r.st t).exMispredict = true) (w : Data) (n : ℕ) :
    (r.presenting t w).st n = r.st n := by
  rcases Nat.lt_or_ge t n with hn | hn
  · refine Machine.runFrom_eq_of_le (k := t + 1) ?_ (fun k hk => ?_) hn
    · show (r.presenting t w).st (t + 1) = r.st (t + 1)
      rw [Run.st_succ, Run.st_succ, Run.inp, Run.presenting_st_of_le w le_rfl]
      have hb : (r.presenting t w).bus t (r.st t) = { r.inp t with instrData := w } := if_pos rfl
      rw [hb]
      exact next_eq_of_exMispredict hm _ _ _
    · exact Run.presenting_bus_of_ne (by omega)
  · exact Run.presenting_st_of_le w hn

/-! ### What is in front of a redirect -/

theorem rf_of_memWb (hr : (r.inp t).rstN = true) (he : (r.st t).memWb.regWriteEn = true)
    (h0 : (r.st t).memWb.rdAddr ≠ 0#5) :
    (r.st (t + 1)).rf (r.st t).memWb.rdAddr = (r.st t).memWb.aluResult := by
  rw [Run.st_succ, Core.next_rf _ hr, if_pos ⟨he, h0⟩, Function.update_self]

theorem rf_of_exMem (hr : (r.inp t).rstN = true) (hr1 : (r.inp (t + 1)).rstN = true)
    (he : (r.st t).exMem.regWriteEn = true) (h0 : (r.st t).exMem.rdAddr ≠ 0#5) :
    (r.st (t + 2)).rf (r.st t).exMem.rdAddr = (r.st t).exMem.aluResult := by
  have hwb : (r.st (t + 1)).memWb = (r.st t).memWbIn (r.inp t).dmemRdata := Run.memWb_load hr
  have h := rf_of_memWb hr1
  rw [hwb] at h
  exact h he h0

theorem rf_of_idEx (hr : (r.inp t).rstN = true) (hr1 : (r.inp (t + 1)).rstN = true)
    (hr2 : (r.inp (t + 2)).rstN = true) (he : (r.st t).idEx.regWriteEn = true)
    (h0 : (r.st t).idEx.rdAddr ≠ 0#5) :
    (r.st (t + 3)).rf (r.st t).idEx.rdAddr = (r.st t).ex.aluResult := by
  have hmem : (r.st (t + 1)).exMem = (r.st t).exMemIn := Run.exMem_load hr
  have h := rf_of_exMem hr1 hr2
  rw [hmem] at h
  exact h he h0

/-! ### What is behind it -/

theorem regWriteEn_of_exMem (h : (r.st t).exMem.regWriteEn = false) :
    (r.st (t + 1)).memWb.regWriteEn = false := by
  obtain hb | hl := r.memWb_cases t
  · rw [hb]
    rfl
  · rw [hl]
    exact h

theorem regWriteEn_of_idEx (h : (r.st t).idEx.regWriteEn = false) :
    (r.st (t + 2)).memWb.regWriteEn = false := by
  refine regWriteEn_of_exMem ?_
  obtain hb | hl := r.exMem_cases t
  · rw [hb]
    rfl
  · rw [hl]
    exact h

theorem regWriteEn_of_ifId_bubble (h : (r.st t).ifId = .bubble) :
    (r.st (t + 3)).memWb.regWriteEn = false := by
  refine regWriteEn_of_idEx ?_
  obtain hb | ⟨-, -, hl⟩ := r.idEx_cases t
  · rw [hb]
    rfl
  · rw [hl]
    show (cuOf (r.st t).ifId.instr).regWe = false
    rw [h]
    rfl

end Redirect

/-- **Redirects squash**: in every run, whatever came before, a cycle with `ex_mispredict`,
if reset stays released until the instruction in EX has written back. -/
theorem squashes_of_exMispredict (r : Run) (t : ℕ) (hm : (r.st t).exMispredict = true)
    (hr : ∀ n, t ≤ n → n ≤ t + 2 → (r.inp n).rstN = true) : Squashes r t := by
  have hr0 : (r.inp t).rstN = true := hr t le_rfl (by omega)
  have hr1 : (r.inp (t + 1)).rstN = true := hr (t + 1) (by omega) (by omega)
  have hr2 : (r.inp (t + 2)).rstN = true := hr (t + 2) (by omega) le_rfl
  have hid : (r.st (t + 1)).ifId = .bubble := Run.ifId_flush hr0 hm
  have hex : (r.st (t + 1)).idEx = .bubble := Run.idEx_flush hr0 hm
  obtain ⟨hs, hm'⟩ := Run.quiet_of_bubble hid
  refine ⟨Run.pc_redirect hr0 hm, presenting_st_eq hm, hs, hm', ?_, ?_,
    regWriteEn_of_ifId_bubble hid, rf_of_memWb hr0, rf_of_exMem hr0 hr1, rf_of_idEx hr0 hr1 hr2⟩
  · rw [Core.dmemWe_eq, hid]
    decide
  · exact regWriteEn_of_idEx (by rw [hex]; rfl)

/-- `lw x1, 0(x0); jal x0, 0x8000`, whose immediate has `x1` in the place of `rs1`. -/
def loadJump : List Data := [0x00002083#32, 0x0000806F#32]

/-- In cycle 2 the jump both stalls behind the load and redirects. -/
theorem squashes_of_exMispredict_loadJump :
    ((Run.ofWords loadJump).st 2).hduStall = true ∧ Squashes (.ofWords loadJump) 2 :=
  ⟨by decide +kernel, squashes_of_exMispredict _ 2 (by decide +kernel) fun _ _ _ => rfl⟩

end RiscvCore.Pipeline
