import RiscvCore.Pipeline.Datapath
import RiscvCore.Pipeline.Forwarding
import Mathlib.Order.Interval.Finset.Nat

/-!
# Operands from far enough back

An instruction whose source registers were last written at least four instructions
before it reads them from the register file: the three stages ahead of it hold the three
instructions before it at most. `Distant` counts instructions in the order in which they
pass through ID; `settled_of_distant` turns the count into what EX, MEM and WB do not write while
the instruction is in ID, so nothing is forwarded for it and, if its two address fields
are both such registers, it does not stall.
-/

namespace RiscvCore.Pipeline

open Rtl

/-- The word `w` writes register `a`, which is not `x0`. -/
def Writes (w : Data) (a : Address) : Prop := (cuOf w).regWe = true ∧ rdField w = a ∧ a ≠ 0#5

instance (w : Data) (a : Address) : Decidable (Writes w a) := by unfold Writes; infer_instance

/-- The instructions that are in ID after cycle `s` and no later than cycle `t`, by the
cycle of their fetch. -/
def Run.decodedIn (r : Run) (s t : ℕ) : Finset (Option ℕ) :=
  ((Finset.Ioc s t).image r.idAt).erase none

/-- Register `a` was last written at least four instructions before the one fetched in
cycle `u`: behind every earlier writer at least three other instructions come first. -/
def Distant (r : Run) (u : ℕ) (a : Address) : Prop :=
  ∀ s ≤ u, r.Issues s → Writes (r.st s).ifId.instr a →
    3 ≤ ((r.decodedIn s u).erase (r.idAt s)).card

instance (r : Run) (u : ℕ) (a : Address) : Decidable (Distant r u a) := by
  unfold Distant; infer_instance

/-- The instruction `i`, fetched in cycle `u`, reaches ID, and its source registers were
last written at least four instructions earlier. -/
structure Decodes (r : Run) (u : ℕ) (i : Rv32i.Instr) : Prop where
  enters : r.Enters u
  decode : Rv32i.decode (r.inp u).instrData = some i
  distant : ∀ a ∈ i.sources, Distant r u a

/-- The instruction in EX writes register `a`. -/
def ExWrites (c : Core) (a : Address) : Prop := c.idEx.regWriteEn = true ∧ c.idEx.rdAddr = a

/-- No instruction in EX, MEM or WB writes `a`, if `a` is not `x0`. -/
def Settled (c : Core) (a : Address) : Prop :=
  a ≠ 0#5 → ¬ ExWrites c a ∧ ¬ MemWrites c a ∧ ¬ WbWrites c a

section Settled

variable {c : Core} {a : Address}

theorem Settled.not_pending (h : Settled c a) : ¬ Pending c a := by
  rintro ⟨h0, hm | hw⟩
  · exact (h h0).2.1 hm
  · exact (h h0).2.2 hw

theorem Settled.forward (h : Settled c a) (v : Data) : c.forward a v = v :=
  forward_of_not_pending h.not_pending v

end Settled

section Trace

variable {r : Run} {t u : ℕ} {a : Address}

theorem issues_of_exWrites (h : ExWrites (r.st (t + 1)) a) (ha : a ≠ 0#5) :
    r.Issues t ∧ Writes (r.st t).ifId.instr a := by
  obtain hb | ⟨hr, hm, hl⟩ := r.idEx_cases t
  · rw [ExWrites, hb] at h
    exact absurd h.1 Bool.false_ne_true
  · rw [ExWrites, hl] at h
    have hw : Writes (r.st t).ifId.instr a := ⟨h.1, h.2, ha⟩
    refine ⟨⟨hr, hm, ?_⟩, hw⟩
    -- a bubble writes nothing
    cases hid : r.idAt t with
    | none =>
      rw [Run.ifId_of_idAt_none hid] at hw
      exact absurd hw.1 Bool.false_ne_true
    | some v => rfl

theorem exWrites_of_memWrites (h : MemWrites (r.st (t + 1)) a) : ExWrites (r.st t) a := by
  obtain hb | hl := r.exMem_cases t
  · rw [MemWrites, hb] at h
    exact absurd h.1 Bool.false_ne_true
  · rwa [MemWrites, hl] at h

theorem memWrites_of_wbWrites (h : WbWrites (r.st (t + 1)) a) : MemWrites (r.st t) a := by
  obtain hb | hl := r.memWb_cases t
  · rw [WbWrites, hb] at h
    exact absurd h.1 Bool.false_ne_true
  · rwa [WbWrites, hl] at h

/-- At most one instruction is in ID in a cycle. -/
theorem card_decodedIn_le (r : Run) (s t : ℕ) (x : Option ℕ) :
    ((r.decodedIn s t).erase x).card ≤ t - s :=
  calc ((r.decodedIn s t).erase x).card
      ≤ (r.decodedIn s t).card := Finset.card_erase_le
    _ ≤ ((Finset.Ioc s t).image r.idAt).card := Finset.card_erase_le
    _ ≤ (Finset.Ioc s t).card := Finset.card_image_le
    _ = t - s := Nat.card_Ioc s t

/-- A writer that is at most three cycles ahead is too close. -/
theorem Distant.not_issues (h : Distant r u a) {s : ℕ} (hs : s ≤ u) (hu : u ≤ s + 2)
    (hi : r.Issues s) : ¬ Writes (r.st s).ifId.instr a := by
  intro hw
  have h3 := h s hs hi hw
  have hle := card_decodedIn_le r s u (r.idAt s)
  omega

/-- **What was last written at least four instructions earlier is settled.** -/
theorem settled_of_distant (h : Distant r u a) : Settled (r.st (u + 1)) a := by
  intro ha
  refine ⟨fun hx => ?_, fun hm => ?_, fun hw => ?_⟩
  · obtain ⟨hi, hw⟩ := issues_of_exWrites hx ha
    exact h.not_issues le_rfl (by omega) hi hw
  · rcases u with _ | u
    · exact absurd (exWrites_of_memWrites hm).1 Bool.false_ne_true
    · obtain ⟨hi, hw⟩ := issues_of_exWrites (exWrites_of_memWrites hm) ha
      exact h.not_issues (by omega) (by omega) hi hw
  · rcases u with _ | _ | u
    · exact absurd (memWrites_of_wbWrites hw).1 Bool.false_ne_true
    · exact absurd (exWrites_of_memWrites (memWrites_of_wbWrites hw)).1 Bool.false_ne_true
    · obtain ⟨hi, hw⟩ := issues_of_exWrites (exWrites_of_memWrites (memWrites_of_wbWrites hw)) ha
      exact h.not_issues (by omega) (by omega) hi hw

theorem regWriteEn_of_memToReg (r : Run) (t : ℕ) (h : (r.st t).idEx.memToReg = true) :
    (r.st t).idEx.regWriteEn = true := by
  rcases t with _ | t
  · exact absurd h Bool.false_ne_true
  obtain ⟨hex, hop⟩ := r.load_of_memToReg t h
  rw [hex]
  show (cuOf (r.st t).ifId.instr).regWe = true
  rw [cuOf, hop]
  rfl

theorem not_hduStall_of_settled (h1 : Settled (r.st t) (rs1Field (r.st t).ifId.instr))
    (h2 : Settled (r.st t) (rs2Field (r.st t).ifId.instr)) : (r.st t).hduStall = false := by
  rw [← Bool.not_eq_true, Core.hduStall_iff]
  rintro ⟨hl, h0, hrs | hrs⟩
  · exact (h1 (hrs ▸ h0)).1 ⟨regWriteEn_of_memToReg r t hl, hrs⟩
  · exact (h2 (hrs ▸ h0)).1 ⟨regWriteEn_of_memToReg r t hl, hrs⟩

end Trace

/-! ### Write-back -/

/-- The instruction in ID in cycle `s` issues, and three cycles later writes `v` to
register `a`, which is not `x0`. -/
def Run.WritesBack (r : Run) (s : ℕ) (a : Address) (v : Data) : Prop :=
  r.Issues s ∧ a ≠ 0#5 ∧ WbWrites (r.st (s + 3)) a ∧ (r.st (s + 3)).wbDataOut = v

section WritesBack

variable {r : Run} (hr : ∀ t, (r.inp t).rstN = true) {s : ℕ}
include hr

/-- The result of an instruction that issues in cycle `s` reaches write-back. -/
theorem memWb_of_issues (hi : r.Issues s) :
    (r.st (s + 3)).memWb.aluResult = (r.st (s + 1)).ex.aluResult ∧
      (r.st (s + 3)).memWb.rdAddr = rdField (r.st s).ifId.instr ∧
      (r.st (s + 3)).memWb.regWriteEn = (cuOf (r.st s).ifId.instr).regWe := by
  rw [Run.memWb_load (hr _)]
  show (r.st (s + 2)).exMem.aluResult = _ ∧ (r.st (s + 2)).exMem.rdAddr = _ ∧
    (r.st (s + 2)).exMem.regWriteEn = _
  rw [Run.exMem_load (hr _)]
  show _ ∧ (r.st (s + 1)).idEx.rdAddr = _ ∧ (r.st (s + 1)).idEx.regWriteEn = _
  rw [Run.idEx_load (hr s) hi.2.1]
  exact ⟨rfl, rfl, rfl⟩

/-- An instruction that issues writes its destination, if it writes one, with what the ALU
made of it. -/
theorem writesBack_iff (hi : r.Issues s) (a : Address) (v : Data) :
    r.WritesBack s a v ↔ Writes (r.st s).ifId.instr a ∧ (r.st (s + 1)).ex.aluResult = v := by
  obtain ⟨hv, hrd, hwe⟩ := memWb_of_issues hr hi
  simp only [Run.WritesBack, WbWrites, Core.wbDataOut_eq, hv, hrd, hwe, Writes]
  tauto

end WritesBack

end RiscvCore.Pipeline
