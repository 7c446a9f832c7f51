import RiscvCore.Foundation.SyncMachine
import RiscvCore.Rtl.IfStage
import RiscvCore.Rtl.IdStage
import RiscvCore.Rtl.ExStage
import RiscvCore.Rtl.MemWbStage

/-!
# The core

`rtl/pr` and `rtl/core_top.sv`: the four pipeline registers, and the wiring of the
stages. A state of the core is the contents of its registers; the wires of
`core_top` are functions of a state, and `Core.next` is one clock edge.

A reset is taken at clock edges. Every register of the core is also reset at `negedge rst_ni`,
so in a cycle with the reset low it shows its reset value: that is `Core.shown`, of which the
wires are functions then, and from which an edge leads to the same state (`next_of_reset`).

The wiring is as in the source, with its constants: the ID/EX register never
stalls, the branch comparator is fixed to `BC_BEQ`, the address generator to the
program counter as base, the load-store unit to `LSU_WORD` and the write-back
multiplexer to `WB_ALU`; the forwarding unit compares the source addresses of the
instruction in ID, and the data memory's write enable is the one decoded in ID.
-/

namespace RiscvCore.Rtl

/-! ### The pipeline registers -/

/-- `pr_if_id`. -/
structure PrIfId where
  pc : Data
  instr : Data
  deriving DecidableEq, Repr

/-- `pr_if_id` after reset or flush. -/
def PrIfId.bubble : PrIfId := ⟨0#32, 0#32⟩

/-- A clock edge of `pr_if_id`. -/
def PrIfId.next (rstN stall flush : Bool) (pc instr : Data) (q : PrIfId) : PrIfId :=
  if rstN = false then .bubble
  else if flush = true then .bubble
  else if stall = false then ⟨pc, instr⟩
  else q

/-- `pr_id_ex`. -/
structure PrIdEx where
  pc : Data
  regData1 : Data
  regData2 : Data
  imm : Data
  aluOp : AluCtrl
  rdAddr : Address
  regWriteEn : Bool
  memToReg : Bool
  deriving DecidableEq, Repr

/-- `pr_id_ex` after reset or flush. -/
def PrIdEx.bubble : PrIdEx := ⟨0#32, 0#32, 0#32, 0#32, .add, regZero, false, false⟩

/-- A clock edge of `pr_id_ex`, holding `q` and with `d` at its data inputs. -/
def PrIdEx.next (rstN stall flush : Bool) (q d : PrIdEx) : PrIdEx :=
  if rstN = false then .bubble
  else if flush = true then .bubble
  else if stall = false then d
  else q

/-- `pr_ex_mem`. -/
structure PrExMem where
  aluResult : Data
  regData2 : Data
  rdAddr : Address
  regWriteEn : Bool
  memToReg : Bool
  deriving DecidableEq, Repr

/-- `pr_ex_mem` after reset. -/
def PrExMem.bubble : PrExMem := ⟨0#32, 0#32, regZero, false, false⟩

/-- A clock edge of `pr_ex_mem`, holding `q` and with `d` at its data inputs. -/
def PrExMem.next (rstN stall : Bool) (q d : PrExMem) : PrExMem :=
  if rstN = false then .bubble
  else if stall = false then d
  else q

/-- `pr_mem_wb`. -/
structure PrMemWb where
  aluResult : Data
  memData : Data
  rdAddr : Address
  regWriteEn : Bool
  memToReg : Bool
  deriving DecidableEq, Repr

/-- `pr_mem_wb` after reset. -/
def PrMemWb.bubble : PrMemWb := ⟨0#32, 0#32, regZero, false, false⟩

/-- A clock edge of `pr_mem_wb`, holding `q` and with `d` at its data inputs. -/
def PrMemWb.next (rstN stall : Bool) (q d : PrMemWb) : PrMemWb :=
  if rstN = false then .bubble
  else if stall = false then d
  else q

/-! ### The state and the ports -/

/-- The registers of `core_top`. -/
@[ext]
structure Core where
  ifStage : IfStage
  ifId : PrIfId
  rf : RegFile
  idEx : PrIdEx
  exMem : PrExMem
  memWb : PrMemWb

/-- The core after reset. -/
def Core.reset : Core := ⟨.reset, .bubble, fun _ => 0#32, .bubble, .bubble, .bubble⟩

/-- The registers as they show in a cycle. -/
def Core.shown (rstN : Bool) (c : Core) : Core := if rstN = false then .reset else c

@[simp] theorem Core.shown_false (c : Core) : c.shown false = .reset := rfl

@[simp] theorem Core.shown_true (c : Core) : c.shown true = c := rfl

/-- The inputs of `core_top`. -/
structure CoreIn where
  /-- `rst_ni`. -/
  rstN : Bool
  /-- `instr_data_i`. -/
  instrData : Data
  /-- `dmem_rdata_i`. -/
  dmemRdata : Data

namespace Core

variable (c : Core)

/-! ### The wires -/

/-- The outputs of `u_wb_stage`. -/
def wb : WbOut := wbStage c.memWb.aluResult c.memWb.memData c.memWb.aluResult .alu c.memWb.regWriteEn

/-- `wb_data_out`. -/
def wbDataOut : Data := c.wb.wbData

/-- The outputs of `u_id_stage`. -/
def id : IdOut := idStage c.rf c.ifId.instr c.ifId.pc c.idEx.rdAddr c.idEx.memToReg

/-- `hdu_stall`. -/
def hduStall : Bool := c.id.stall

/-- The inputs of `u_ex_stage`. -/
def exIn : ExIn where
  aluCtrl := c.idEx.aluOp
  opA := c.idEx.regData1
  opB := c.idEx.regData2
  -- the addresses are those of the instruction in ID
  opAAddr := c.id.rs1Addr
  opBAddr := c.id.rs2Addr
  bcCtrl := .beq
  pc := c.idEx.pc
  imm := c.idEx.imm
  jalrSel := false
  rdAddrMem := c.exMem.rdAddr
  rdAddrWb := c.memWb.rdAddr
  regWeMem := c.exMem.regWriteEn
  regWeWb := c.memWb.regWriteEn
  aluResultMem := c.exMem.aluResult
  wbData := c.wbDataOut

/-- The outputs of `u_ex_stage`. -/
def ex : ExOut := exStage c.exIn

/-- `ex_mispredict`. -/
def exMispredict : Bool := (c.id.branch && c.ex.bcTaken) || c.id.jump

/-- The outputs of `u_mem_stage`. -/
def mem (dmemRdata : Data) : MemOut :=
  memStage .word .alu c.id.memWe c.exMem.regWriteEn c.exMem.aluResult c.exMem.regData2
    c.exMem.aluResult dmemRdata

/-- What `u_pr_id_ex` is fed. -/
def idExIn : PrIdEx where
  pc := c.ifId.pc
  regData1 := c.id.operandA
  regData2 := c.id.operandB
  imm := c.id.operandB
  aluOp := c.id.aluCtrl
  rdAddr := c.id.rdAddr
  regWriteEn := c.id.regWe
  memToReg := c.id.memToReg

/-- What `u_pr_ex_mem` is fed. -/
def exMemIn : PrExMem where
  aluResult := c.ex.aluResult
  regData2 := c.idEx.regData2
  rdAddr := c.idEx.rdAddr
  regWriteEn := c.idEx.regWriteEn
  memToReg := c.idEx.memToReg

/-- What `u_pr_mem_wb` is fed. -/
def memWbIn (dmemRdata : Data) : PrMemWb where
  aluResult := (c.mem dmemRdata).wbAluResult
  memData := (c.mem dmemRdata).wbLsuData
  rdAddr := c.exMem.rdAddr
  regWriteEn := c.exMem.regWriteEn
  memToReg := c.exMem.memToReg

/-- The inputs of `u_if_stage`. -/
def ifIn (rstN : Bool) : IfIn where
  rstN := rstN
  stall := c.hduStall
  flush := c.exMispredict
  exMispredict := c.exMispredict
  exPcCorr := c.ex.targetAddr

/-! ### The outputs -/

/-- `instr_addr_o`. -/
def instrAddr : Data := c.ifStage.pc

/-- `dmem_addr_o`. -/
def dmemAddr : Data := c.exMem.aluResult

/-- `dmem_wdata_o`. -/
def dmemWdata : Data := c.exMem.regData2

/-- `dmem_we_o`, which does not depend on the data memory's answer. -/
def dmemWe : Bool := (c.mem 0#32).memWe

/-! ### A clock edge -/

/-- A clock edge of `core_top`, with `imem` the words of its local instruction memory. -/
def next (imem : Imem) (i : CoreIn) : Core where
  ifStage := c.ifStage.next imem (c.ifIn i.rstN)
  ifId := c.ifId.next i.rstN c.hduStall c.exMispredict c.instrAddr i.instrData
  rf := rfNext i.rstN c.memWb.rdAddr c.wbDataOut c.wb.regWriteEn c.rf
  idEx := c.idEx.next i.rstN false c.exMispredict c.idExIn
  exMem := c.exMem.next i.rstN false c.exMemIn
  memWb := c.memWb.next i.rstN false (c.memWbIn i.dmemRdata)

/-! ### What the wires say

Every later proof reads the wires through these lemmas. -/

/-- The value an operand mux of the EX stage passes on for source address `a` and
latched value `v`. -/
def forward (a : Address) (v : Data) : Data :=
  computeMuxFwdCtrl
    (computeFwdCtrl a c.exMem.rdAddr c.exMem.regWriteEn c.memWb.rdAddr c.memWb.regWriteEn)
    c.exMem.aluResult c.wbDataOut v

@[simp] theorem wbDataOut_eq : c.wbDataOut = c.memWb.aluResult := rfl

@[simp] theorem wb_regWriteEn : c.wb.regWriteEn = c.memWb.regWriteEn := rfl

theorem exIn_opAFwd : c.exIn.opAFwd = c.forward (rs1Field c.ifId.instr) c.idEx.regData1 := rfl

theorem exIn_opBFwd : c.exIn.opBFwd = c.forward (rs2Field c.ifId.instr) c.idEx.regData2 := rfl

theorem ex_aluResult : c.ex.aluResult = Rtl.aluResult c.idEx.aluOp c.exIn.opAFwd c.exIn.opBFwd := rfl

theorem ex_targetAddr : c.ex.targetAddr = alignTarget (c.idEx.pc + c.idEx.imm) := rfl

theorem hduStall_iff : c.hduStall = true ↔
    c.idEx.memToReg = true ∧ c.idEx.rdAddr ≠ 0#5 ∧
      (c.idEx.rdAddr = rs1Field c.ifId.instr ∨ c.idEx.rdAddr = rs2Field c.ifId.instr) := by
  show (hdu _ _ _ _).stall = true ↔ _
  unfold hdu
  split_ifs with h
  · simpa using ⟨h.1.1, h.1.2, h.2⟩
  · simp only [false_iff]
    rintro ⟨h1, h2, h3⟩
    exact h ⟨⟨h1, h2⟩, h3⟩

theorem exMispredict_iff : c.exMispredict = true ↔
    (opcodeField c.ifId.instr = some .branch ∧ c.exIn.opAFwd = c.exIn.opBFwd) ∨
      opcodeField c.ifId.instr = some .jal ∨ opcodeField c.ifId.instr = some .jalr := by
  have hid : c.id.branch = (cuOf c.ifId.instr).branch ∧ c.id.jump = (cuOf c.ifId.instr).jump :=
    ⟨rfl, rfl⟩
  have htaken : c.ex.bcTaken = (c.exIn.opAFwd == c.exIn.opBFwd) := rfl
  simp [exMispredict, hid.1, hid.2, htaken]

@[simp] theorem dmemWe_eq : c.dmemWe = decide (opcodeField c.ifId.instr = some .store) :=
  cuOf_memWe c.ifId.instr

/-! ### An edge out of reset, register by register -/

section Edge

variable {imem : Imem} {i : CoreIn}

/-- In reset every register takes its reset value. -/
theorem next_of_reset (h : i.rstN = false) : c.next imem i = reset := by
  simp [next, ifIn, IfStage.next, PrIfId.next, rfNext, PrIdEx.next, PrExMem.next, PrMemWb.next,
    btbNext, h, reset, IfStage.reset]

variable (h : i.rstN = true)
include h

theorem next_pc : (c.next imem i).ifStage.pc =
    if c.exMispredict = true then alignTarget (c.idEx.pc + c.idEx.imm)
    else if btbHit c.ifStage.btb c.ifStage.pc = true then
      btbPredictTarget c.ifStage.btb c.ifStage.pc
    else if c.hduStall = true then c.ifStage.pc
    else c.ifStage.pc + 4#32 := by
  simp [next, ifIn, IfStage.next, IfStage.pcNext, ex_targetAddr, h]

theorem next_btb : (c.next imem i).ifStage.btb =
    if c.exMispredict = true then
      Function.update c.ifStage.btb (btbIdx 4 c.ifStage.idPc)
        ⟨true, c.ifStage.idPc, alignTarget (c.idEx.pc + c.idEx.imm)⟩
    else c.ifStage.btb := by
  simp [next, ifIn, IfStage.next, btbNext, ex_targetAddr, h]

theorem next_idInstr : (c.next imem i).ifStage.idInstr =
    if c.exMispredict = true then instrNop
    else if c.hduStall = true then c.ifStage.idInstr
    else Rtl.imem imem c.ifStage.pc := by
  simp only [next, ifIn, IfStage.next, h]
  cases c.hduStall <;> simp

theorem next_idPc : (c.next imem i).ifStage.idPc =
    if c.exMispredict = true then 0#32
    else if c.hduStall = true then c.ifStage.idPc
    else c.ifStage.pc := by
  simp only [next, ifIn, IfStage.next, h]
  cases c.hduStall <;> simp

theorem next_ifId : (c.next imem i).ifId =
    if c.exMispredict = true then .bubble
    else if c.hduStall = true then c.ifId
    else ⟨c.ifStage.pc, i.instrData⟩ := by
  simp only [next, PrIfId.next, instrAddr, h]
  cases c.hduStall <;> simp

theorem next_idEx : (c.next imem i).idEx = if c.exMispredict = true then .bubble else c.idExIn := by
  simp [next, PrIdEx.next, h]

theorem next_exMem : (c.next imem i).exMem = c.exMemIn := by
  simp [next, PrExMem.next, h]

theorem next_memWb : (c.next imem i).memWb = c.memWbIn i.dmemRdata := by
  simp [next, PrMemWb.next, h]

theorem next_rf : (c.next imem i).rf =
    if c.memWb.regWriteEn = true ∧ c.memWb.rdAddr ≠ 0#5 then
      Function.update c.rf c.memWb.rdAddr c.memWb.aluResult
    else c.rf := by
  simp only [next, rfNext, h, wb_regWriteEn]
  rfl

end Edge

end Core

/-- `core_top`. -/
def coreTop (imem : Imem) : Machine Core CoreIn where
  init := .reset
  next i c := c.next imem i

end RiscvCore.Rtl
