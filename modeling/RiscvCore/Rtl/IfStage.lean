import RiscvCore.Rtl.RiscvTypesPkg

/-!
# Instruction fetch

`rtl/if`: the instruction memory `imem`, the branch target buffer `btb`, and
`ifStage`, which owns the program counter, the buffer and an IF/ID register of its
own (`id_pc_o`, `id_instr_o`) beside the one `core_top` uses.

A reset is taken at clock edges: a state is what the registers hold when no reset has fallen
since the last edge. What the buffer shows while `rst_ni` is low is `btbShown`.
-/

namespace RiscvCore.Rtl

/-! ### The instruction memory -/

/-- The words of `imem`: `data_t mem[0:1023]`. -/
abbrev Imem := BitVec 10 → Data

/-- `imem`: the index is `addr_i[DATA_WIDTH_BITS+1:2]`, five bits. -/
def imem (mem : Imem) (addr : Data) : Data := mem ((addr.extractLsb' 2 5).setWidth 10)

/-! ### The branch target buffer -/

/-- `btb_entry_t`. -/
structure BtbEntry where
  valid : Bool
  tag : Data
  target : Data
  deriving DecidableEq, Repr

/-- The buffer of `2 ^ k` entries: `k` is `IDX_WIDTH`. -/
abbrev Btb (k : ℕ) := BitVec k → BtbEntry

section Btb

variable {k : ℕ}

/-- `read_idx` and `write_idx`: `pc[IDX_WIDTH+1:2]`. -/
def btbIdx (k : ℕ) (pc : Data) : BitVec k := pc.extractLsb' 2 k

/-- The buffer after reset. -/
def btbReset : Btb k := fun _ => ⟨false, 0#32, 0#32⟩

/-- `hit_o`. -/
def btbHit (mem : Btb k) (pcIf : Data) : Bool :=
  (mem (btbIdx k pcIf)).valid && (mem (btbIdx k pcIf)).tag == pcIf

/-- `predict_target_o`. -/
def btbPredictTarget (mem : Btb k) (pcIf : Data) : Data :=
  if btbHit mem pcIf = true then (mem (btbIdx k pcIf)).target else 0#32

/-- The `always_ff` block of `btb`. -/
def btbNext (rstN update : Bool) (actualPc actualTarget : Data) (mem : Btb k) : Btb k :=
  if rstN = false then btbReset
  else if update = true then Function.update mem (btbIdx k actualPc) ⟨true, actualPc, actualTarget⟩
  else mem

/-- The buffer as a lookup finds it: the `always_ff` block also runs at `negedge rst_ni`, so it is
clear as long as the reset is low. -/
def btbShown (rstN : Bool) (mem : Btb k) : Btb k := if rstN = false then btbReset else mem

end Btb

/-! ### The stage -/

/-- The registers of `if_stage`. -/
@[ext]
structure IfStage where
  /-- `pc_current`. -/
  pc : Data
  /-- The buffer, of `BTB_DEPTH = 16` entries. -/
  btb : Btb 4
  /-- `id_instr_o`. -/
  idInstr : Data
  /-- `id_pc_o`. -/
  idPc : Data

/-- The stage after reset. -/
def IfStage.reset : IfStage := ⟨0#32, btbReset, instrNop, 0#32⟩

/-- The inputs of `if_stage`. -/
structure IfIn where
  rstN : Bool
  stall : Bool
  flush : Bool
  exMispredict : Bool
  exPcCorr : Data

/-- `pc_next`. -/
def IfStage.pcNext (s : IfStage) (i : IfIn) : Data :=
  if i.exMispredict = true then i.exPcCorr
  else if btbHit s.btb s.pc = true then btbPredictTarget s.btb s.pc
  else if i.stall = true then s.pc
  else s.pc + 4#32

/-- A clock edge of `if_stage`: the program counter, the buffer and the IF/ID register. -/
def IfStage.next (mem : Imem) (i : IfIn) (s : IfStage) : IfStage where
  pc := if i.rstN = false then 0#32 else s.pcNext i
  btb := btbNext i.rstN i.exMispredict s.idPc i.exPcCorr s.btb
  idInstr :=
    if i.rstN = false then instrNop
    else if i.flush = true then instrNop
    else if i.stall = false then imem mem s.pc
    else s.idInstr
  idPc :=
    if i.rstN = false then 0#32
    else if i.flush = true then 0#32
    else if i.stall = false then s.pc
    else s.idPc

end RiscvCore.Rtl
