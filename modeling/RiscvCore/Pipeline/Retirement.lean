import RiscvCore.Pipeline.Operands
import RiscvCore.Units.RegisterFile

/-!
# Retirement

In every run, whatever is on the buses and on the reset pin: an instruction that issues and writes
a register does so once, three cycles after it issues, and nothing else is ever written. So a
register shows what EX made of the last instruction that writes it among those that issued at least
four cycles ago, with no reset since; or zero, if there is none (`retires`). Hazards, stalls and
redirects have no say in that: a stalled instruction issues once more each cycle, and retires as
often.

The register file of the core is the `rf` of `Units.RegisterFile` under a stream of inputs
(`rf_eq_rfAt`), and what is on its write port is traced back to ID (`wbWrites_add_three_iff`).
-/

namespace RiscvCore.Pipeline

open Rtl RiscvCore.Units

/-- The inputs of the register file in a cycle of a run. -/
def rfIn (r : Run) (t : ℕ) : RfIn where
  rstN := (r.inp t).rstN
  rs1Addr := rs1Field (r.st t).ifId.instr
  rs2Addr := rs2Field (r.st t).ifId.instr
  rdAddr := (r.st t).memWb.rdAddr
  rdData := (r.st t).wbDataOut
  rdWe := (r.st t).wb.regWriteEn

/-- At the edge that ends cycle `t` the register file writes `x` to `a`, which is not `x0`. -/
def RegWrites (r : Run) (t : ℕ) (a : Address) (x : Data) : Prop :=
  ((r.inp t).rstN = true ∧ WbWrites (r.st t) a ∧ a ≠ 0#5) ∧ (r.st t).wbDataOut = x

/-- The instruction that issues in cycle `s` writes `a`, and no reset stops it up to cycle `t`. -/
structure Carries (r : Run) (s t : ℕ) (a : Address) : Prop where
  issues : r.Issues s
  writes : Writes (r.st s).ifId.instr a
  noReset : ∀ v, s ≤ v → v ≤ t → (r.inp v).rstN = true

/-- `s` is the cycle in which the last instruction issued that has written `a` by cycle `t`. -/
structure LastWriter (r : Run) (t : ℕ) (a : Address) (s : ℕ) : Prop extends Carries r s t a where
  retired : s + 3 < t
  last : ∀ s', s < s' → s' + 3 < t → r.Issues s' → ¬ Writes (r.st s').ifId.instr a

section Retire

variable {r : Run} {t s : ℕ} {a : Address}

theorem rf_eq_rfAt (r : Run) (t : ℕ) : (r.st t).rf = rfAt (rfIn r) t := by
  induction t with
  | zero => rfl
  | succ t ih =>
    rw [Run.st_succ]
    show rfNext (r.inp t).rstN (r.st t).memWb.rdAddr (r.st t).wbDataOut (r.st t).wb.regWriteEn
        (r.st t).rf = _
    rw [ih]
    rfl

/-! ### The way to write-back -/

theorem exWrites_succ_iff (h0 : a ≠ 0#5) :
    ExWrites (r.st (t + 1)) a ↔ r.Issues t ∧ Writes (r.st t).ifId.instr a := by
  refine ⟨fun h => issues_of_exWrites h h0, ?_⟩
  rintro ⟨⟨hr, hm, -⟩, hwe, hrd, -⟩
  rw [ExWrites, Run.idEx_load hr hm]
  exact ⟨hwe, hrd⟩

theorem memWrites_succ_iff_of_reset :
    MemWrites (r.st (t + 1)) a ↔ (r.inp t).rstN = true ∧ ExWrites (r.st t) a := by
  cases hr : (r.inp t).rstN with
  | false =>
    rw [MemWrites, Run.st_succ_of_reset r hr]
    exact iff_of_false (fun h => Bool.false_ne_true h.1) fun h => Bool.false_ne_true h.1
  | true =>
    rw [MemWrites, Run.exMem_load hr]
    exact (and_iff_right rfl).symm

theorem wbWrites_succ_iff_of_reset :
    WbWrites (r.st (t + 1)) a ↔ (r.inp t).rstN = true ∧ MemWrites (r.st t) a := by
  cases hr : (r.inp t).rstN with
  | false =>
    rw [WbWrites, Run.st_succ_of_reset r hr]
    exact iff_of_false (fun h => Bool.false_ne_true h.1) fun h => Bool.false_ne_true h.1
  | true =>
    rw [WbWrites, Run.memWb_load hr]
    exact (and_iff_right rfl).symm

/-- **What WB writes was issued three cycles before**, and there was no reset on the way. -/
theorem wbWrites_add_three_iff (h0 : a ≠ 0#5) : WbWrites (r.st (s + 3)) a ↔
    (r.inp (s + 2)).rstN = true ∧ (r.inp (s + 1)).rstN = true ∧ r.Issues s ∧
      Writes (r.st s).ifId.instr a := by
  rw [wbWrites_succ_iff_of_reset, memWrites_succ_iff_of_reset, exWrites_succ_iff h0]

theorem aluResult_memWb (h2 : (r.inp (s + 2)).rstN = true) (h1 : (r.inp (s + 1)).rstN = true) :
    (r.st (s + 3)).memWb.aluResult = (r.st (s + 1)).ex.aluResult := by
  rw [Run.memWb_load h2]
  show (r.st (s + 2)).exMem.aluResult = _
  rw [Run.exMem_load h1]
  rfl

/-! ### The write port -/

theorem writes_rfIn_iff {u : ℕ} : (rfPort (rfIn r u)).Writes a ↔
    (r.inp u).rstN = true ∧ WbWrites (r.st u) a ∧ a ≠ 0#5 := by
  rw [writes_rfPort_iff, WbWrites, and_assoc]
  rfl

theorem writes_rfIn_add_three_iff : (rfPort (rfIn r (s + 3))).Writes a ↔ Carries r s (s + 3) a := by
  rw [writes_rfIn_iff]
  constructor
  · rintro ⟨h3, hwb, h0⟩
    obtain ⟨h2, h1, hi, hw⟩ := (wbWrites_add_three_iff h0).mp hwb
    refine ⟨hi, hw, fun v hv hv3 => ?_⟩
    obtain rfl | rfl | rfl | rfl : v = s ∨ v = s + 1 ∨ v = s + 2 ∨ v = s + 3 := by omega
    exacts [hi.1, h1, h2, h3]
  · intro h
    have h0 := h.writes.2.2
    refine ⟨h.noReset _ (by omega) le_rfl, ?_, h0⟩
    exact (wbWrites_add_three_iff h0).mpr
      ⟨h.noReset _ (by omega) (by omega), h.noReset _ (by omega) (by omega), h.issues, h.writes⟩

/-- In the first three cycles nothing is written. -/
theorem exists_add_three_of_writes {u : ℕ} (h : (rfPort (rfIn r u)).Writes a) : ∃ s, u = s + 3 := by
  have hwb := (writes_rfIn_iff.mp h).2.1
  rcases u with _ | _ | _ | s
  · exact absurd hwb.1 Bool.false_ne_true
  · exact absurd (wbWrites_succ_iff_of_reset.mp hwb).2.1 Bool.false_ne_true
  · have hm := (wbWrites_succ_iff_of_reset.mp hwb).2
    exact absurd (memWrites_succ_iff_of_reset.mp hm).2.1 Bool.false_ne_true
  · exact ⟨s, rfl⟩

theorem Carries.wbDataOut_eq (h : Carries r s t a) (ht : s + 3 ≤ t) :
    (r.st (s + 3)).wbDataOut = (r.st (s + 1)).ex.aluResult :=
  aluResult_memWb (h.noReset _ (by omega) (by omega)) (h.noReset _ (by omega) (by omega))

/-- **What is written was issued three cycles before, and what was issued is written.** -/
theorem regWrites_iff {x : Data} : RegWrites r t a x ↔
    ∃ s, s + 3 = t ∧ Carries r s t a ∧ (r.st (s + 1)).ex.aluResult = x := by
  rw [RegWrites, ← writes_rfIn_iff]
  constructor
  · rintro ⟨hw, hx⟩
    obtain ⟨s, rfl⟩ := exists_add_three_of_writes hw
    have hc := writes_rfIn_add_three_iff.mp hw
    exact ⟨s, rfl, hc, (hc.wbDataOut_eq le_rfl).symm.trans hx⟩
  · rintro ⟨s, rfl, hc, hx⟩
    exact ⟨writes_rfIn_add_three_iff.mpr hc, (hc.wbDataOut_eq le_rfl).trans hx⟩

/-! ### The last writer -/

theorem lastWrite_iff : LastWrite (rfIn r) t a (s + 3) ↔ LastWriter r t a s := by
  constructor
  · rintro ⟨⟨hlt, hw, hsince⟩, ht⟩
    obtain ⟨hi, hwr, h3⟩ := writes_rfIn_add_three_iff.mp hw
    have hres : ∀ v, s ≤ v → v ≤ t → (r.inp v).rstN = true := by
      intro v hv hvt
      rcases Nat.eq_or_lt_of_le hvt with rfl | hlt'
      · exact ht
      rcases Nat.lt_or_ge (s + 3) v with hgt | hle
      · exact (hsince v hgt hlt').1
      · exact h3 v hv hle
    refine ⟨⟨hi, hwr, hres⟩, hlt, fun s' hs' hs't hi' hw' => ?_⟩
    refine (hsince (s' + 3) (by omega) hs't).2 (writes_rfIn_add_three_iff.mpr ⟨hi', hw', ?_⟩)
    exact fun v hv hv3 => hres v (by omega) (by omega)
  · rintro ⟨hc, hlt, hlast⟩
    have hw : Carries r s (s + 3) a :=
      ⟨hc.issues, hc.writes, fun v hv hv3 => hc.noReset v hv (by omega)⟩
    have ht : (r.inp t).rstN = true := hc.noReset t (by omega) le_rfl
    refine ⟨⟨hlt, writes_rfIn_add_three_iff.mpr hw, fun v hv hvt => ?_⟩, ht⟩
    refine ⟨hc.noReset v (by omega) hvt.le, fun hwv => ?_⟩
    obtain ⟨s', rfl⟩ := exists_add_three_of_writes hwv
    have hc' := writes_rfIn_add_three_iff.mp hwv
    exact hlast s' (by omega) hvt hc'.issues hc'.writes

/-! ### What a register shows -/

theorem rf_shown_eq (r : Run) (t : ℕ) : (r.shown t).rf = rfShownAt (rfIn r) t := by
  cases hr : (r.inp t).rstN with
  | false =>
    rw [Run.shown_of_reset r hr]
    exact (if_pos hr).symm
  | true =>
    rw [Run.shown_eq hr, rf_eq_rfAt]
    exact (if_neg (by simp [rfIn, hr])).symm

theorem rf_of_lastWriter (h : LastWriter r t a s) :
    (r.shown t).rf a = (r.st (s + 1)).ex.aluResult := by
  rw [rf_shown_eq, rfShownAt_eq, WritePort.Stands.shown_eq (lastWrite_iff.mpr h)]
  exact h.wbDataOut_eq h.retired.le

theorem rf_of_not_lastWriter (h : ∀ s, ¬ LastWriter r t a s) : (r.shown t).rf a = 0#32 := by
  rw [rf_shown_eq, rfShownAt_eq, WritePort.shown_of_not_stands]
  intro u hu
  obtain ⟨s, rfl⟩ := exists_add_three_of_writes hu.latest.writes
  exact h s (lastWrite_iff.mp hu)

/-- If nothing on the bus writes a register, none shows anything. -/
theorem rf_of_not_writes (h : ∀ u b, ¬ Writes (r.inp u).instrData b) (t : ℕ) (a : Address) :
    (r.shown t).rf a = 0#32 := by
  refine rf_of_not_lastWriter fun s hs => ?_
  obtain ⟨u, hu⟩ := Option.isSome_iff_exists.mp hs.issues.2.2
  have hw := hs.writes
  rw [Run.ifId_of_idAt hu] at hw
  exact h u a hw

end Retire

/-- What is written to register `a` in cycle `t` and what it shows, by the instructions that have
issued. -/
structure Retires (r : Run) (t : ℕ) (a : Address) : Prop where
  once : ∀ x, RegWrites r t a x ↔
    ∃ s, s + 3 = t ∧ Carries r s t a ∧ (r.st (s + 1)).ex.aluResult = x
  written : ∀ s, LastWriter r t a s → (r.shown t).rf a = (r.st (s + 1)).ex.aluResult
  notWritten : (∀ s, ¬ LastWriter r t a s) → (r.shown t).rf a = 0#32

/-- **Instructions retire in order, each once, three cycles after they issue.** -/
theorem retires (r : Run) (t : ℕ) (a : Address) : Retires r t a where
  once _ := regWrites_iff
  written _ := rf_of_lastWriter
  notWritten := rf_of_not_lastWriter

end RiscvCore.Pipeline
