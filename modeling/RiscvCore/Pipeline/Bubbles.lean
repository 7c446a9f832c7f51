import RiscvCore.Pipeline.Datapath
import RiscvCore.Pipeline.LiveResults
import RiscvCore.Pipeline.Provenance

/-!
# The two bubbles

The design has two IF/ID registers and two words for an empty one: `pr_if_id` resets and
flushes to zero, the register inside `if_stage` to `INSTR_NOP`. The words decode
differently, since a NOP has its register write enabled and takes its second operand from
the immediate. `sameOutputs_nop` says that it does not matter which of them `pr_if_id` uses:
the write enable of an instruction for `x0` is never looked at, and either operand is zero.
-/

namespace RiscvCore.Pipeline

open Rtl

/-! ### The core with the other bubble -/

/-- `INSTR_NOP` at address zero. -/
def nopBubble : PrIfId := ⟨0#32, instrNop⟩

/-- A clock edge of `pr_if_id`, were it to reset and flush to `INSTR_NOP`. -/
def ifIdNextNop (rstN stall flush : Bool) (pc instr : Data) (q : PrIfId) : PrIfId :=
  if rstN = false then nopBubble
  else if flush = true then nopBubble
  else if stall = false then ⟨pc, instr⟩
  else q

/-- `core_top` with that register. -/
def coreTopNop (imem : Imem) : Machine Core CoreIn where
  init := { Core.reset with ifId := nopBubble }
  next i c := { c.next imem i with
    ifId := ifIdNextNop i.rstN c.hduStall c.exMispredict c.instrAddr i.instrData c.ifId }

/-- What ID makes of a NOP differs from what it makes of the zero word in the write enable. -/
theorem issue_nopBubble (rf : RegFile) :
    issue rf nopBubble = { issue rf .bubble with regWriteEn := true } := rfl

/-! ### The bisimulation -/

/-- The same in EX but for the write enable of an instruction for `x0`. -/
def SameEx (q q' : PrIdEx) : Prop :=
  q' = { q with regWriteEn := q'.regWriteEn } ∧ (q.rdAddr ≠ 0#5 → q.regWriteEn = q'.regWriteEn)

/-- The same in MEM but for the write enable of an instruction for `x0`. -/
def SameMem (q q' : PrExMem) : Prop :=
  q' = { q with regWriteEn := q'.regWriteEn } ∧ (q.rdAddr ≠ 0#5 → q.regWriteEn = q'.regWriteEn)

/-- The same in WB but for the write enable of an instruction for `x0`. -/
def SameWb (q q' : PrMemWb) : Prop :=
  q' = { q with regWriteEn := q'.regWriteEn } ∧ (q.rdAddr ≠ 0#5 → q.regWriteEn = q'.regWriteEn)

/-- States that agree but for which bubble is in ID, and for the write enables of
instructions for `x0`. -/
structure SameButBubbles (c c' : Core) : Prop where
  ifStage : c.ifStage = c'.ifStage
  rf : c.rf = c'.rf
  ifId : c.ifId = c'.ifId ∨ c.ifId = .bubble ∧ c'.ifId = nopBubble
  ex : SameEx c.idEx c'.idEx
  mem : SameMem c.exMem c'.exMem
  wb : SameWb c.memWb c'.memWb

/-- What the two cores have in common in a cycle: the program counter, the branch target
buffer, the register file and all outputs. -/
structure SameOutputs (c c' : Core) : Prop where
  pc : c.ifStage.pc = c'.ifStage.pc
  btb : c.ifStage.btb = c'.ifStage.btb
  rf : c.rf = c'.rf
  instrAddr : c.instrAddr = c'.instrAddr
  dmemAddr : c.dmemAddr = c'.dmemAddr
  dmemWdata : c.dmemWdata = c'.dmemWdata
  dmemWe : c.dmemWe = c'.dmemWe

namespace SameButBubbles

variable {c c' : Core} (h : SameButBubbles c c')
include h

/-! What ID sees in a bubble is the same in either. -/

theorem rs1Field_eq : rs1Field c.ifId.instr = rs1Field c'.ifId.instr := by
  rcases h.ifId with he | ⟨he, he'⟩
  · rw [he]
  · rw [he, he']
    rfl

theorem rs2Field_eq : rs2Field c.ifId.instr = rs2Field c'.ifId.instr := by
  rcases h.ifId with he | ⟨he, he'⟩
  · rw [he]
  · rw [he, he']
    rfl

/-- Neither bubble has an opcode that anything but the ALU looks at. -/
theorem opcodeField_iff {o : Opcode} (ho : o ≠ .iType) :
    opcodeField c.ifId.instr = some o ↔ opcodeField c'.ifId.instr = some o := by
  rcases h.ifId with he | ⟨he, he'⟩
  · rw [he]
  · have h0 : opcodeField PrIfId.bubble.instr = none := by decide
    have hn : opcodeField nopBubble.instr = some .iType := by decide
    rw [he, he', h0, hn]
    simp [Ne.symm ho]

theorem liveMem_eq : liveMem c = liveMem c' := by
  refine liveMem_congr (fun a h0 => ?_) fun a _ _ => ?_
  · rw [MemWrites, MemWrites, h.mem.1]
    refine and_congr_left fun hrd => ?_
    rw [h.mem.2 (hrd ▸ h0)]
  · rw [h.mem.1]

theorem liveWb_eq : liveWb c = liveWb c' := by
  refine liveWb_congr (fun a h0 => ?_) fun a _ _ => ?_
  · rw [WbWrites, WbWrites, h.wb.1]
    refine and_congr_left fun hrd => ?_
    rw [h.wb.2 (hrd ▸ h0)]
  · rw [h.wb.1]

theorem hduStall : c.hduStall = c'.hduStall := by
  rw [Bool.eq_iff_iff, Core.hduStall_iff, Core.hduStall_iff, h.ex.1, h.rs1Field_eq, h.rs2Field_eq]

theorem opAFwd : c.exIn.opAFwd = c'.exIn.opAFwd := by
  rw [Core.exIn_opAFwd, Core.exIn_opAFwd, h.ex.1, h.rs1Field_eq,
    forward_congr h.liveMem_eq h.liveWb_eq]

theorem opBFwd : c.exIn.opBFwd = c'.exIn.opBFwd := by
  rw [Core.exIn_opBFwd, Core.exIn_opBFwd, h.ex.1, h.rs2Field_eq,
    forward_congr h.liveMem_eq h.liveWb_eq]

theorem exMispredict : c.exMispredict = c'.exMispredict := by
  rw [Bool.eq_iff_iff, Core.exMispredict_iff, Core.exMispredict_iff, h.opAFwd, h.opBFwd,
    h.opcodeField_iff (o := .branch) (by decide), h.opcodeField_iff (o := .jal) (by decide),
    h.opcodeField_iff (o := .jalr) (by decide)]

theorem targetAddr : c.ex.targetAddr = c'.ex.targetAddr := by
  rw [Core.ex_targetAddr, Core.ex_targetAddr, h.ex.1]

theorem aluResult : c.ex.aluResult = c'.ex.aluResult := by
  rw [Core.ex_aluResult, Core.ex_aluResult, h.opAFwd, h.opBFwd, h.ex.1]

/-- ID hands over the same but for the write enable of an instruction for `x0`. -/
theorem idExIn : SameEx c.idExIn c'.idExIn := by
  rw [idExIn_eq_issue, idExIn_eq_issue, h.rf]
  rcases h.ifId with he | ⟨he, he'⟩
  · rw [he]
    exact ⟨rfl, fun _ => rfl⟩
  · rw [he, he', issue_nopBubble]
    exact ⟨rfl, fun hne => absurd rfl hne⟩

theorem exMemIn : SameMem c.exMemIn c'.exMemIn := by
  refine ⟨?_, h.ex.2⟩
  rw [Core.exMemIn, Core.exMemIn, h.aluResult, h.ex.1]

theorem memWbIn (d : Data) : SameWb (c.memWbIn d) (c'.memWbIn d) := by
  refine ⟨?_, h.mem.2⟩
  rw [Core.memWbIn, Core.memWbIn, Core.mem, Core.mem, h.mem.1]
  rfl

theorem sameOutputs : SameOutputs c c' where
  pc := congrArg IfStage.pc h.ifStage
  btb := congrArg IfStage.btb h.ifStage
  rf := h.rf
  instrAddr := congrArg IfStage.pc h.ifStage
  dmemAddr := (congrArg PrExMem.aluResult h.mem.1).symm
  dmemWdata := (congrArg PrExMem.regData2 h.mem.1).symm
  dmemWe := by
    rw [Core.dmemWe_eq, Core.dmemWe_eq, decide_eq_decide]
    exact h.opcodeField_iff (by decide)

end SameButBubbles

/-- The reset states of the two cores. -/
theorem sameButBubbles_init (imem : Imem) :
    SameButBubbles (coreTop imem).init (coreTopNop imem).init :=
  ⟨rfl, rfl, .inr ⟨rfl, rfl⟩, ⟨rfl, fun _ => rfl⟩, ⟨rfl, fun _ => rfl⟩, ⟨rfl, fun _ => rfl⟩⟩

/-- After an edge IF/ID is the same again, or each core has its bubble there. -/
theorem SameButBubbles.next_ifId {c c' : Core} (h : SameButBubbles c c') (imem : Imem) {i : CoreIn}
    (hr : i.rstN = true) : (c.next imem i).ifId = ((coreTopNop imem).next i c').ifId ∨
      (c.next imem i).ifId = .bubble ∧ ((coreTopNop imem).next i c').ifId = nopBubble := by
  have hn : ((coreTopNop imem).next i c').ifId = ifIdNextNop true c.hduStall c.exMispredict
      c.instrAddr i.instrData c'.ifId := by
    rw [h.hduStall, h.exMispredict, Core.instrAddr, h.ifStage, ← hr]
    rfl
  rw [Core.next_ifId _ hr, hn, ifIdNextNop]
  cases c.exMispredict with
  | false =>
    cases c.hduStall with
    | false => exact .inl rfl
    | true => exact h.ifId
  | true => exact .inr ⟨rfl, rfl⟩

/-- **The step**: an edge of the two cores preserves the relation. -/
theorem lockstep_sameButBubbles (imem : Imem) :
    Machine.Lockstep (coreTop imem) (coreTopNop imem) SameButBubbles := by
  intro i c c' h
  cases hr : i.rstN with
  | false =>
    have hn : (coreTop imem).next i c = (coreTop imem).init := Core.next_of_reset c hr
    have hn' : (coreTopNop imem).next i c' = (coreTopNop imem).init := by
      simp only [coreTopNop, Core.next_of_reset _ hr, ifIdNextNop, hr]
      rfl
    rw [hn, hn']
    exact sameButBubbles_init imem
  | true =>
    refine ⟨next_ifStage_congr h.ifStage h.hduStall h.exMispredict h.targetAddr imem i,
      next_rf_congr h.rf h.liveWb_eq imem i, h.next_ifId imem hr, ?_, ?_, ?_⟩
    · show SameEx (c.next imem i).idEx (c'.next imem i).idEx
      rw [Core.next_idEx _ hr, Core.next_idEx _ hr, ← h.exMispredict]
      split_ifs
      · exact ⟨rfl, fun _ => rfl⟩
      · exact h.idExIn
    · show SameMem (c.next imem i).exMem (c'.next imem i).exMem
      rw [Core.next_exMem _ hr, Core.next_exMem _ hr]
      exact h.exMemIn
    · show SameWb (c.next imem i).memWb (c'.next imem i).memWb
      rw [Core.next_memWb _ hr, Core.next_memWb _ hr]
      exact h.memWbIn _

/-- **The two bubbles are interchangeable**: from reset, under the same inputs, the two cores
have the same outputs, program counter, branch target buffer and register file in every
cycle. -/
theorem sameOutputs_nop (imem : Imem) (i : ℕ → CoreIn) (t : ℕ) :
    SameOutputs ((coreTop imem).run (Machine.stream i) t)
      ((coreTopNop imem).run (Machine.stream i) t) :=
  ((lockstep_sameButBubbles imem).run (sameButBubbles_init imem) i t).sameOutputs

end RiscvCore.Pipeline
