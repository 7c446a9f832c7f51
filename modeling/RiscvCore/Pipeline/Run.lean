import RiscvCore.Rtl.CoreTop
import Mathlib.Data.List.GetD

/-!
# Runs of the core

A run is the core from reset with whatever its two buses and its reset pin present
in each cycle; a run of a program has reset released and the word at `instr_addr_o`
on the instruction bus (`Run.program`).

The registers of the core do not say which instruction a stage is working on. A run
does: `Run.idAt t` is the cycle in which the instruction held by the IF/ID register in
cycle `t` was fetched, or `none` when the register holds the bubble of a reset or a
flush. An instruction that leaves ID unsquashed (`Run.Issues`) is in EX in the next
cycle, in MEM in the one after and in WB in the third, since those registers never
stall.
-/

namespace RiscvCore.Pipeline

open Rtl

/-- A run of `core_top`: the words of its local instruction memory, and the buses. -/
structure Run where
  imem : Imem
  bus : Machine.Env Core CoreIn

/-- The run of the program `M` with data `D` on the data bus: reset is released and the
instruction bus answers combinationally with the word of `M` at `instr_addr_o`. -/
def Run.program (imem : Imem) (M : Data → Data) (D : ℕ → Data) : Run :=
  ⟨imem, fun t c => ⟨true, M c.instrAddr, D t⟩⟩

/-- The program `p` from address 0 on, followed by NOPs. -/
def image (p : List Data) (a : Data) : Data := p.getD (a.toNat / 4) instrNop

/-- A word of the image is one of the program's or a NOP. -/
theorem image_mem_or (p : List Data) (a : Data) : image p a ∈ p ∨ image p a = instrNop := by
  unfold image
  by_cases h : a.toNat / 4 < p.length
  · rw [List.getD_eq_getElem _ _ h]
    exact .inl (List.getElem_mem h)
  · exact .inr (List.getD_eq_default _ _ (Nat.le_of_not_lt h))

/-- The run of the program `p`, with zero on the data bus and in the local memory. -/
def Run.ofWords (p : List Data) : Run := .program (fun _ => 0#32) (image p) fun _ => 0#32

namespace Run

variable (r : Run)

/-- The state in a cycle, counted from the release of reset. -/
def st (t : ℕ) : Core := (coreTop r.imem).run r.bus t

/-- The inputs in a cycle. -/
def inp (t : ℕ) : CoreIn := r.bus t (r.st t)

/-- What the registers show in a cycle: their reset values if the reset is low. -/
def shown (t : ℕ) : Core := (r.st t).shown (r.inp t).rstN

@[simp] theorem st_zero : r.st 0 = .reset := Machine.run_zero _ r.bus

theorem st_succ (t : ℕ) : r.st (t + 1) = (r.st t).next r.imem (r.inp t) :=
  Machine.run_succ _ r.bus t

@[simp] theorem inp_program (imem : Imem) (M : Data → Data) (D : ℕ → Data) (t : ℕ) :
    (program imem M D).inp t = ⟨true, M ((program imem M D).st t).ifStage.pc, D t⟩ := rfl

/-! ### An edge of a run -/

theorem st_succ_of_reset {t : ℕ} (h : (r.inp t).rstN = false) : r.st (t + 1) = .reset :=
  (r.st t).next_of_reset h

theorem shown_of_reset {t : ℕ} (h : (r.inp t).rstN = false) : r.shown t = .reset := by
  rw [shown, h, Core.shown_false]

variable {r} {t : ℕ} (h : (r.inp t).rstN = true)
include h

theorem shown_eq : r.shown t = r.st t := by
  rw [shown, h, Core.shown_true]

theorem ifId_flush (hm : (r.st t).exMispredict = true) : (r.st (t + 1)).ifId = .bubble := by
  rw [st_succ, Core.next_ifId _ h, if_pos hm]

theorem ifId_hold (hm : (r.st t).exMispredict = false) (hs : (r.st t).hduStall = true) :
    (r.st (t + 1)).ifId = (r.st t).ifId := by
  rw [st_succ, Core.next_ifId _ h, if_neg (by simp [hm]), if_pos hs]

theorem ifId_load (hm : (r.st t).exMispredict = false) (hs : (r.st t).hduStall = false) :
    (r.st (t + 1)).ifId = ⟨(r.st t).ifStage.pc, (r.inp t).instrData⟩ := by
  rw [st_succ, Core.next_ifId _ h, if_neg (by simp [hm]), if_neg (by simp [hs])]

theorem idEx_flush (hm : (r.st t).exMispredict = true) : (r.st (t + 1)).idEx = .bubble := by
  rw [st_succ, Core.next_idEx _ h, if_pos hm]

theorem idEx_load (hm : (r.st t).exMispredict = false) :
    (r.st (t + 1)).idEx = (r.st t).idExIn := by
  rw [st_succ, Core.next_idEx _ h, if_neg (by simp [hm])]

theorem exMem_load : (r.st (t + 1)).exMem = (r.st t).exMemIn := Core.next_exMem _ h

theorem memWb_load : (r.st (t + 1)).memWb = (r.st t).memWbIn (r.inp t).dmemRdata :=
  Core.next_memWb _ h

theorem pc_redirect (hm : (r.st t).exMispredict = true) :
    (r.st (t + 1)).ifStage.pc = alignTarget ((r.st t).idEx.pc + (r.st t).idEx.imm) := by
  rw [st_succ, Core.next_pc _ h, if_pos hm]

theorem btb_hold (hm : (r.st t).exMispredict = false) :
    (r.st (t + 1)).ifStage.btb = (r.st t).ifStage.btb := by
  rw [st_succ, Core.next_btb _ h, if_neg (by simp [hm])]

end Run

/-! ### What an edge brings into EX, MEM and WB -/

namespace Run

variable (r : Run) (t : ℕ)

/-- EX gets a bubble, or what ID hands over. -/
theorem idEx_cases : (r.st (t + 1)).idEx = .bubble ∨
    (r.inp t).rstN = true ∧ (r.st t).exMispredict = false ∧
      (r.st (t + 1)).idEx = (r.st t).idExIn := by
  cases hr : (r.inp t).rstN with
  | false =>
    rw [st_succ_of_reset r hr]
    exact .inl rfl
  | true =>
    cases hm : (r.st t).exMispredict with
    | false => exact .inr ⟨rfl, rfl, idEx_load hr hm⟩
    | true => exact .inl (idEx_flush hr hm)

/-- A load in EX was in ID in the cycle before. -/
theorem load_of_memToReg (h : (r.st (t + 1)).idEx.memToReg = true) :
    (r.st (t + 1)).idEx = (r.st t).idExIn ∧ opcodeField (r.st t).ifId.instr = some .load := by
  obtain hb | ⟨-, -, hl⟩ := r.idEx_cases t
  · rw [hb] at h
    exact absurd h Bool.false_ne_true
  · rw [hl] at h
    have hcu : (cuOf (r.st t).ifId.instr).memToReg = true := h
    exact ⟨hl, by simpa using hcu⟩

/-- MEM gets a bubble, or what EX hands over. -/
theorem exMem_cases :
    (r.st (t + 1)).exMem = .bubble ∨ (r.st (t + 1)).exMem = (r.st t).exMemIn := by
  cases hr : (r.inp t).rstN with
  | false =>
    rw [st_succ_of_reset r hr]
    exact .inl rfl
  | true => exact .inr (exMem_load hr)

/-- WB gets a bubble, or what MEM hands over. -/
theorem memWb_cases : (r.st (t + 1)).memWb = .bubble ∨
    (r.st (t + 1)).memWb = (r.st t).memWbIn (r.inp t).dmemRdata := by
  cases hr : (r.inp t).rstN with
  | false =>
    rw [st_succ_of_reset r hr]
    exact .inl rfl
  | true => exact .inr (memWb_load hr)

end Run

/-! ### What is in ID -/

namespace Run

variable (r : Run)

/-- The cycle in which the instruction in ID was fetched; `none` for a bubble. -/
def idAt : ℕ → Option ℕ
  | 0 => none
  | t + 1 =>
      if (r.inp t).rstN = false ∨ (r.st t).exMispredict = true then none
      else if (r.st t).hduStall = true then idAt t
      else some t

/-- The instruction fetched in cycle `t` enters ID. -/
def Enters (t : ℕ) : Prop := r.idAt (t + 1) = some t

/-- The instruction in ID in cycle `t` goes on to EX. -/
def Issues (t : ℕ) : Prop :=
  (r.inp t).rstN = true ∧ (r.st t).exMispredict = false ∧ (r.idAt t).isSome = true

instance (t : ℕ) : Decidable (r.Issues t) := by unfold Issues; infer_instance

/-- After the instruction fetched in cycle `u`, the next instruction to enter ID is the
one at address `q`. -/
def NextEnters (u : ℕ) (q : Data) : Prop :=
  ∃ t, u < t ∧ r.Enters t ∧ (r.st t).ifStage.pc = q ∧ ∀ v, u < v → v < t → ¬ r.Enters v

variable {r}

/-- A bubble in ID is the word zero at address zero. -/
theorem ifId_of_idAt_none {t : ℕ} (h : r.idAt t = none) : (r.st t).ifId = .bubble := by
  induction t with
  | zero => rfl
  | succ t ih =>
    unfold idAt at h
    cases hr : (r.inp t).rstN with
    | false => rw [st_succ_of_reset r hr]; rfl
    | true =>
      cases hm : (r.st t).exMispredict with
      | false =>
        cases hs : (r.st t).hduStall with
        | false => simp [hr, hm, hs] at h
        | true =>
          rw [ifId_hold hr hm hs]
          exact ih (by simpa [hr, hm, hs] using h)
      | true => exact ifId_flush hr hm

/-- What one edge says of an occupied ID stage: the instruction was just fetched, or it
was held by a stall. -/
theorem idAt_succ_eq_some {t u : ℕ} (h : r.idAt (t + 1) = some u) :
    (r.inp t).rstN = true ∧ (r.st t).exMispredict = false ∧
      (((r.st t).hduStall = false ∧ u = t) ∨ ((r.st t).hduStall = true ∧ r.idAt t = some u)) := by
  unfold idAt at h
  split_ifs at h with h1 h2
  · simp only [not_or, Bool.not_eq_false, Bool.not_eq_true] at h1
    exact ⟨h1.1, h1.2, .inr ⟨h2, h⟩⟩
  · simp only [not_or, Bool.not_eq_false, Bool.not_eq_true] at h1
    exact ⟨h1.1, h1.2, .inl ⟨by simpa using h2, by simpa using h.symm⟩⟩

/-- The instruction in ID was fetched before. -/
theorem lt_of_idAt {t u : ℕ} (h : r.idAt t = some u) : u < t := by
  induction t with
  | zero => simp [idAt] at h
  | succ t ih =>
    obtain ⟨-, -, ⟨-, rfl⟩ | ⟨-, h'⟩⟩ := idAt_succ_eq_some h
    · exact Nat.lt_succ_self _
    · exact Nat.lt_succ_of_lt (ih h')

/-- The IF/ID register holds what was fetched. -/
theorem ifId_of_idAt {t u : ℕ} (h : r.idAt t = some u) :
    (r.st t).ifId = ⟨(r.st u).ifStage.pc, (r.inp u).instrData⟩ := by
  induction t with
  | zero => simp [idAt] at h
  | succ t ih =>
    obtain ⟨hr, hm, ⟨hs, rfl⟩ | ⟨hs, h'⟩⟩ := idAt_succ_eq_some h
    · exact ifId_load hr hm hs
    · rw [ifId_hold hr hm hs, ih h']

/-- An instruction enters ID exactly when nothing resets, squashes or stalls it. -/
theorem enters_iff {t : ℕ} : r.Enters t ↔
    (r.inp t).rstN = true ∧ (r.st t).exMispredict = false ∧ (r.st t).hduStall = false := by
  constructor
  · intro h
    obtain ⟨hr, hm, ⟨hs, -⟩ | ⟨-, h'⟩⟩ := idAt_succ_eq_some h
    · exact ⟨hr, hm, hs⟩
    · exact absurd (lt_of_idAt h') (Nat.lt_irrefl _)
  · rintro ⟨hr, hm, hs⟩
    simp [Enters, idAt, hr, hm, hs]

/-- An instruction in ID got there when it was fetched, and stays until it leaves. -/
theorem idAt_of_le {t u v : ℕ} (h : r.idAt t = some u) (huv : u < v) (hvt : v ≤ t) :
    r.idAt v = some u := by
  induction t with
  | zero => omega
  | succ t ih =>
    rcases Nat.lt_or_ge t v with hv | hv
    · rw [show v = t + 1 by omega, h]
    · obtain ⟨-, -, ⟨-, rfl⟩ | ⟨-, h'⟩⟩ := idAt_succ_eq_some h
      · omega
      · exact ih h' hv

theorem NextEnters.unique {u : ℕ} {p q : Data} (hp : r.NextEnters u p) (hq : r.NextEnters u q) :
    p = q := by
  obtain ⟨t, ht, et, rfl, nt⟩ := hp
  obtain ⟨t', ht', et', rfl, nt'⟩ := hq
  rcases Nat.lt_trichotomy t t' with hlt | rfl | hlt
  · exact absurd et (nt' t ht hlt)
  · rfl
  · exact absurd et' (nt t' ht' hlt)

/-- Knowing the next address, whether another one is it is a comparison. -/
theorem NextEnters.iff_eq {u : ℕ} {p : Data} (hp : r.NextEnters u p) (q : Data) :
    r.NextEnters u q ↔ p = q :=
  ⟨hp.unique, fun h => h ▸ hp⟩

/-- A bubble in ID neither stalls nor redirects. -/
theorem quiet_of_bubble {c : Core} (h : c.ifId = .bubble) :
    c.hduStall = false ∧ c.exMispredict = false := by
  constructor
  · rw [← Bool.not_eq_true, Core.hduStall_iff, h]
    rintro ⟨-, h0, h1 | h1⟩ <;> exact h0 h1
  · rw [← Bool.not_eq_true, Core.exMispredict_iff, h]
    simp [PrIfId.bubble, opcodeField, Opcode.ofBits, Opcode.bits]

end Run

end RiscvCore.Pipeline
