import RiscvCore.Pipeline.Operands

/-!
# What replaces an operand

The operand muxes of EX put the result of MEM or WB in the place of a latched operand
whenever a field of the instruction in ID names the register that the stage writes. What
was latched — an old register value, an immediate, a program counter — does not enter into
it: `Core.forward_eq_iff` says when what comes out is a given value.

Two consequences. A consumer that is in ID while its producer is in WB latches the old
register value, and gets the new one only if the instruction behind it happens to pick it
(`readsWriteBack_iff`). And an immediate, or the program counter of `AUIPC`, is lost to any
coincidence of register numbers (`keepsOperands_iff`).
-/

namespace RiscvCore.Pipeline

open Rtl

theorem forward_eq_iff {c : Core} {b : Address} {old v : Data} : c.forward b old = v ↔
    (b ≠ 0#5 → MemWrites c b → c.exMem.aluResult = v) ∧
      (b ≠ 0#5 → WbWrites c b → ¬ MemWrites c b → c.memWb.aluResult = v) ∧
      (¬ Pending c b → old = v) := by
  by_cases hp : Pending c b
  · obtain ⟨h0, hw⟩ := hp
    by_cases hm : MemWrites c b
    · rw [forward_of_memWrites h0 hm]
      exact ⟨fun h => ⟨fun _ _ => h, fun _ _ hn => absurd hm hn, fun hn => absurd ⟨h0, hw⟩ hn⟩,
        fun h => h.1 h0 hm⟩
    · have hwb := hw.resolve_left hm
      rw [forward_of_wbWrites h0 hwb hm]
      exact ⟨fun h => ⟨fun _ hm' => absurd hm' hm, fun _ _ _ => h, fun hn => absurd ⟨h0, hw⟩ hn⟩,
        fun h => h.2.1 h0 hwb hm⟩
  · rw [forward_of_not_pending hp]
    exact ⟨fun h => ⟨fun h0 hm => absurd ⟨h0, .inl hm⟩ hp, fun h0 hw _ => absurd ⟨h0, .inr hw⟩ hp,
      fun _ => h⟩, fun h => h.2.2 hp⟩

/-! ### Reading a register that is being written -/

section NextCycle

variable {r : Run} {t : ℕ} {b : Address} (hr : (r.inp t).rstN = true)
include hr

theorem memWrites_succ_iff : MemWrites (r.st (t + 1)) b ↔ ExWrites (r.st t) b := by
  rw [MemWrites, Run.exMem_load hr]
  rfl

theorem wbWrites_succ_iff : WbWrites (r.st (t + 1)) b ↔ MemWrites (r.st t) b := by
  rw [WbWrites, Run.memWb_load hr]
  rfl

end NextCycle

/-- The register `a`, not `x0`, is written by WB and by no stage behind it, in a cycle in
which an R-type instruction goes on from ID to EX and the next one follows it. -/
structure WrittenBack (r : Run) (t : ℕ) (a : Address) : Prop where
  rstN : (r.inp t).rstN = true
  noStall : (r.st t).hduStall = false
  noRedirect : (r.st t).exMispredict = false
  rType : opcodeField (r.st t).ifId.instr = some .rType
  ne_zero : a ≠ 0#5
  wb : WbWrites (r.st t) a
  notMem : ¬ MemWrites (r.st t) a
  notEx : ¬ ExWrites (r.st t) a

/-- **Reading during write-back**: an operand that names the register which WB is writing
is, in EX, the value written. -/
def ReadsWriteBack (r : Run) : Prop :=
  ∀ t a, WrittenBack r t a →
    (rs1Field (r.st t).ifId.instr = a → (r.st (t + 1)).exIn.opAFwd = (r.st t).wbDataOut) ∧
    (rs2Field (r.st t).ifId.instr = a → (r.st (t + 1)).exIn.opBFwd = (r.st t).wbDataOut)

/-- The instruction being fetched stands in for the write to `a`: what its source field `b`
picks up in the next cycle, the result now in EX, the one now in MEM or, where it names
neither, the old content of `a`, is the value in WB. -/
def StandsIn (c : Core) (a b : Address) : Prop :=
  (b ≠ 0#5 → ExWrites c b → c.ex.aluResult = c.wbDataOut) ∧
  (b ≠ 0#5 → MemWrites c b → ¬ ExWrites c b → c.exMem.aluResult = c.wbDataOut) ∧
  (¬ (b ≠ 0#5 ∧ (ExWrites c b ∨ MemWrites c b)) → c.rf a = c.wbDataOut)

/-- In every such cycle the instruction being fetched stands in. -/
def AlwaysStandsIn (r : Run) : Prop :=
  ∀ t a, WrittenBack r t a →
    (rs1Field (r.st t).ifId.instr = a → StandsIn (r.st t) a (rs1Field (r.inp t).instrData)) ∧
    (rs2Field (r.st t).ifId.instr = a → StandsIn (r.st t) a (rs2Field (r.inp t).instrData))

/-- An operand latched from register `a` becomes the value in WB exactly where the
instruction being fetched stands in. -/
theorem WrittenBack.forward_eq_iff {r : Run} {t : ℕ} {a : Address} (h : WrittenBack r t a)
    (b : Address) : (r.st (t + 1)).forward b (rfRead (r.st t).rf a) = (r.st t).wbDataOut ↔
      StandsIn (r.st t) a b := by
  have hread : rfRead (r.st t).rf a = (r.st t).rf a := if_neg h.ne_zero
  have hmem : (r.st (t + 1)).exMem.aluResult = (r.st t).ex.aluResult := by
    rw [Run.exMem_load h.rstN]
    rfl
  have hwb : (r.st (t + 1)).memWb.aluResult = (r.st t).exMem.aluResult := by
    rw [Run.memWb_load h.rstN]
    rfl
  rw [Pipeline.forward_eq_iff, StandsIn, Pending, memWrites_succ_iff h.rstN,
    wbWrites_succ_iff h.rstN, hmem, hwb, hread]

/-- **Reading during write-back works exactly where the next instruction stands in.** -/
theorem readsWriteBack_iff (r : Run) : ReadsWriteBack r ↔ AlwaysStandsIn r := by
  refine forall₃_congr fun t a h => ?_
  have hid : (r.st (t + 1)).ifId = ⟨(r.st t).ifStage.pc, (r.inp t).instrData⟩ :=
    Run.ifId_load h.rstN h.noRedirect h.noStall
  have hex : (r.st (t + 1)).idEx = issue (r.st t).rf (r.st t).ifId := Run.idEx_load h.rstN h.noRedirect
  have hsrc : (cuOf (r.st t).ifId.instr).aluSrc = false := by
    rw [cuOf, h.rType]
    rfl
  rw [Core.exIn_opAFwd, Core.exIn_opBFwd, hid, hex]
  refine and_congr (forall_congr' fun ha => ?_) (forall_congr' fun ha => ?_)
  · have h1 : (issue (r.st t).rf (r.st t).ifId).regData1 = rfRead (r.st t).rf a := by
      simp [issue, h.rType, ha]
    rw [h1]
    exact h.forward_eq_iff _
  · have h2 : (issue (r.st t).rf (r.st t).ifId).regData2 = rfRead (r.st t).rf a := by
      simp [issue, hsrc, ha]
    rw [h2]
    exact h.forward_eq_iff _

/-- `addi x1, x0, 5`, two NOPs and `add x4, x1, x1`. -/
def thirdBehind : List Data := [0x00500093#32, 0x00000013#32, 0x00000013#32, 0x00108233#32]

/-- With `addi` in WB and `add` in ID, the old `x1` is latched, and the next word, a NOP,
picks nothing up. -/
theorem not_readsWriteBack_thirdBehind : ¬ ReadsWriteBack (.ofWords thirdBehind) := by
  intro h
  have h1 := (h 4 1#5
    { rstN := rfl
      noStall := by decide +kernel
      noRedirect := by decide +kernel
      rType := by decide +kernel
      ne_zero := by decide
      wb := by decide +kernel
      notMem := by decide +kernel
      notEx := by unfold ExWrites; decide +kernel }).1 (by decide +kernel)
  revert h1
  decide +kernel

/-! ### Immediates and program counters -/

/-- **Immediates and program counters are not forwarded over**: an instruction that was in ID
with `alu_src` set has its immediate as second operand in EX, and an `AUIPC` has its own
address as first operand. -/
def KeepsOperands (r : Run) : Prop :=
  ∀ t, (r.inp t).rstN = true → (r.st t).exMispredict = false →
    (cuOf (r.st t).ifId.instr).aluSrc = true →
    (r.st (t + 1)).exIn.opBFwd = immGen (r.st t).ifId.instr ∧
      (opcodeField (r.st t).ifId.instr = some .auipc →
        (r.st (t + 1)).exIn.opAFwd = (r.st t).ifId.pc)

/-- Where source field `b` names a register that MEM or WB writes, the result there happens
to be `v`. -/
def Coincides (c : Core) (b : Address) (v : Data) : Prop :=
  (b ≠ 0#5 → MemWrites c b → c.exMem.aluResult = v) ∧
    (b ≠ 0#5 → WbWrites c b → ¬ MemWrites c b → c.memWb.aluResult = v)

/-- In every such cycle the fields of the instruction in ID name no register in flight, or one
whose result is the operand it replaces. -/
def AlwaysCoincides (r : Run) : Prop :=
  ∀ t, (r.inp t).rstN = true → (r.st t).exMispredict = false →
    (cuOf (r.st t).ifId.instr).aluSrc = true →
    Coincides (r.st (t + 1)) (rs2Field (r.st (t + 1)).ifId.instr) (immGen (r.st t).ifId.instr) ∧
      (opcodeField (r.st t).ifId.instr = some .auipc →
        Coincides (r.st (t + 1)) (rs1Field (r.st (t + 1)).ifId.instr) (r.st t).ifId.pc)

/-- An operand keeps its value exactly where what would replace it coincides with it. -/
theorem forward_eq_self_iff {c : Core} {b : Address} {v : Data} :
    c.forward b v = v ↔ Coincides c b v := by
  rw [forward_eq_iff, Coincides, ← and_assoc]
  exact and_iff_left fun _ => rfl

/-- **Operands are kept exactly where every replacement coincides.** -/
theorem keepsOperands_iff (r : Run) : KeepsOperands r ↔ AlwaysCoincides r := by
  refine forall_congr' fun t => forall₃_congr fun hr hm hsrc => ?_
  have hex : (r.st (t + 1)).idEx = issue (r.st t).rf (r.st t).ifId := Run.idEx_load hr hm
  rw [Core.exIn_opAFwd, Core.exIn_opBFwd, hex]
  refine and_congr ?_ (forall_congr' fun hop => ?_)
  · have h2 : (issue (r.st t).rf (r.st t).ifId).regData2 = immGen (r.st t).ifId.instr :=
      if_pos hsrc
    rw [h2]
    exact forward_eq_self_iff
  · have h1 : (issue (r.st t).rf (r.st t).ifId).regData1 = (r.st t).ifId.pc := if_pos hop
    rw [h1]
    exact forward_eq_self_iff

/-- `addi x1, x0, 5; addi x2, x0, 7; add x3, x0, x1`. -/
def immediateLost : List Data := [0x00500093#32, 0x00700113#32, 0x001001B3#32]

/-- With the second `addi` in EX, the `rs2` field of `add` in ID puts the result of the first
in the place of the immediate. -/
theorem not_keepsOperands_immediateLost : ¬ KeepsOperands (.ofWords immediateLost) := by
  intro h
  have h1 := (h 2 rfl (by decide +kernel) (by decide +kernel)).1
  revert h1
  decide +kernel

end RiscvCore.Pipeline
