import Mathlib.Data.BitVec
import Mathlib.Logic.Function.Basic

/-!
# The RV32I instruction set

The user-level integer instruction set as a sequential machine: the instructions,
their encodings (`decode`), and what one instruction does to the program counter
and the registers (`step`). A register state carries the fact that `x0` reads as
zero. Memory is seen from the processor's side only: a load takes its data from a
function of its kind and address. `FENCE`, `ECALL` and `EBREAK` are left out, as
are exceptions: an illegal word has no step.
-/

namespace RiscvCore.Rv32i

/-- A register-wide word. -/
abbrev Word := BitVec 32

/-- A register number. -/
abbrev Reg := BitVec 5

/-! ### Registers -/

/-- A register state: `x0` is zero. -/
@[ext]
structure Regs where
  /-- The contents of a register. -/
  get : Reg → Word
  get_zero : get 0#5 = 0#32

/-- All registers zero. -/
def Regs.zero : Regs := ⟨fun _ => 0#32, rfl⟩

/-- Write a register; a write to `x0` is ignored. -/
def Regs.set (R : Regs) (r : Reg) (v : Word) : Regs where
  get := if r = 0#5 then R.get else Function.update R.get r v
  get_zero := by
    split_ifs with h
    · exact R.get_zero
    · rw [Function.update_of_ne (Ne.symm h), R.get_zero]

@[simp] theorem Regs.get_set_zero (R : Regs) (v : Word) : (R.set 0#5 v) = R := by
  ext r
  simp [Regs.set]

theorem Regs.get_set_self {R : Regs} {r : Reg} (h : r ≠ 0#5) (v : Word) : (R.set r v).get r = v := by
  simp [Regs.set, h]

theorem Regs.get_set_of_ne {R : Regs} {r s : Reg} (h : s ≠ r) (v : Word) :
    (R.set r v).get s = R.get s := by
  unfold Regs.set
  split_ifs
  · rfl
  · exact Function.update_of_ne h _ _

/-! ### Instructions -/

/-- The register-register and register-immediate operations. -/
inductive AluOp where
  | add | sub | sll | slt | sltu | xor | srl | sra | or | and
  deriving DecidableEq, Repr

/-- The value of an operation; a shift uses the low five bits of its second operand. -/
def AluOp.eval : AluOp → Word → Word → Word
  | .add, a, b => a + b
  | .sub, a, b => a - b
  | .sll, a, b => a <<< (b.extractLsb' 0 5).toNat
  | .slt, a, b => if a.toInt < b.toInt then 1#32 else 0#32
  | .sltu, a, b => if a.toNat < b.toNat then 1#32 else 0#32
  | .xor, a, b => a ^^^ b
  | .srl, a, b => a >>> (b.extractLsb' 0 5).toNat
  | .sra, a, b => a.sshiftRight (b.extractLsb' 0 5).toNat
  | .or, a, b => a ||| b
  | .and, a, b => a &&& b

/-- The conditional branches. -/
inductive BranchOp where
  | beq | bne | blt | bge | bltu | bgeu
  deriving DecidableEq, Repr

/-- Whether a branch is taken. -/
def BranchOp.Holds : BranchOp → Word → Word → Prop
  | .beq, a, b => a = b
  | .bne, a, b => a ≠ b
  | .blt, a, b => a.toInt < b.toInt
  | .bge, a, b => b.toInt ≤ a.toInt
  | .bltu, a, b => a.toNat < b.toNat
  | .bgeu, a, b => b.toNat ≤ a.toNat

instance (o : BranchOp) (a b : Word) : Decidable (o.Holds a b) := by
  cases o <;> unfold BranchOp.Holds <;> infer_instance

/-- The loads. -/
inductive LoadOp where
  | lb | lh | lw | lbu | lhu
  deriving DecidableEq, Repr

/-- The stores. -/
inductive StoreOp where
  | sb | sh | sw
  deriving DecidableEq, Repr

/-- An instruction, its immediate sign-extended or shifted to a word. -/
inductive Instr where
  | op (o : AluOp) (rd rs1 rs2 : Reg)
  | opImm (o : AluOp) (rd rs1 : Reg) (imm : Word)
  | lui (rd : Reg) (imm : Word)
  | auipc (rd : Reg) (imm : Word)
  | load (o : LoadOp) (rd rs1 : Reg) (imm : Word)
  | store (o : StoreOp) (rs1 rs2 : Reg) (imm : Word)
  | branch (o : BranchOp) (rs1 rs2 : Reg) (imm : Word)
  | jal (rd : Reg) (imm : Word)
  | jalr (rd rs1 : Reg) (imm : Word)
  deriving DecidableEq, Repr

/-- The registers an instruction reads. -/
def Instr.sources : Instr → List Reg
  | .op _ _ rs1 rs2 => [rs1, rs2]
  | .opImm _ _ rs1 _ => [rs1]
  | .lui _ _ => []
  | .auipc _ _ => []
  | .load _ _ rs1 _ => [rs1]
  | .store _ rs1 rs2 _ => [rs1, rs2]
  | .branch _ rs1 rs2 _ => [rs1, rs2]
  | .jal _ _ => []
  | .jalr _ rs1 _ => [rs1]

/-! ### Encodings -/

section Fields

variable (w : Word)

/-- Bits 6–0. -/
def opcode : BitVec 7 := w.extractLsb' 0 7

/-- Bits 14–12. -/
def funct3 : BitVec 3 := w.extractLsb' 12 3

/-- Bits 31–25. -/
def funct7 : BitVec 7 := w.extractLsb' 25 7

/-- Bits 11–7. -/
def rd : Reg := w.extractLsb' 7 5

/-- Bits 19–15. -/
def rs1 : Reg := w.extractLsb' 15 5

/-- Bits 24–20. -/
def rs2 : Reg := w.extractLsb' 20 5

/-- The I-immediate. -/
def iImm : Word := (w.extractLsb' 20 12).signExtend 32

/-- The S-immediate. -/
def sImm : Word := (w.extractLsb' 25 7 ++ w.extractLsb' 7 5).signExtend 32

/-- The B-immediate. -/
def bImm : Word :=
  (w.extractLsb' 31 1 ++ w.extractLsb' 7 1 ++ w.extractLsb' 25 6 ++ w.extractLsb' 8 4 ++
    0#1).signExtend 32

/-- The U-immediate. -/
def uImm : Word := w.extractLsb' 12 20 ++ 0#12

/-- The J-immediate. -/
def jImm : Word :=
  (w.extractLsb' 31 1 ++ w.extractLsb' 12 8 ++ w.extractLsb' 20 1 ++ w.extractLsb' 21 10 ++
    0#1).signExtend 32

end Fields

/-- The operation of an `OP` instruction. -/
def AluOp.ofOp (f3 : BitVec 3) (f7 : BitVec 7) : Option AluOp :=
  if f7 = 0b0000000#7 then
    if f3 = 0b000#3 then some .add
    else if f3 = 0b001#3 then some .sll
    else if f3 = 0b010#3 then some .slt
    else if f3 = 0b011#3 then some .sltu
    else if f3 = 0b100#3 then some .xor
    else if f3 = 0b101#3 then some .srl
    else if f3 = 0b110#3 then some .or
    else some .and
  else if f7 = 0b0100000#7 then
    if f3 = 0b000#3 then some .sub
    else if f3 = 0b101#3 then some .sra
    else none
  else none

/-- The operation of an `OP-IMM` instruction: the shifts check `funct7`. -/
def AluOp.ofOpImm (f3 : BitVec 3) (f7 : BitVec 7) : Option AluOp :=
  if f3 = 0b000#3 then some .add
  else if f3 = 0b001#3 then if f7 = 0b0000000#7 then some .sll else none
  else if f3 = 0b010#3 then some .slt
  else if f3 = 0b011#3 then some .sltu
  else if f3 = 0b100#3 then some .xor
  else if f3 = 0b101#3 then
    if f7 = 0b0000000#7 then some .srl else if f7 = 0b0100000#7 then some .sra else none
  else if f3 = 0b110#3 then some .or
  else some .and

/-- The `funct3` of an operation. -/
def AluOp.code3 : AluOp → BitVec 3
  | .add | .sub => 0b000#3
  | .sll => 0b001#3
  | .slt => 0b010#3
  | .sltu => 0b011#3
  | .xor => 0b100#3
  | .srl | .sra => 0b101#3
  | .or => 0b110#3
  | .and => 0b111#3

/-- The `funct7` of an operation. -/
def AluOp.code7 : AluOp → BitVec 7
  | .sub | .sra => 0b0100000#7
  | _ => 0b0000000#7

section Codes

variable {f3 : BitVec 3} {f7 : BitVec 7} {o : AluOp}

/-- The function fields of an `OP` instruction are the codes of its operation. -/
theorem AluOp.codes_of_ofOp (h : AluOp.ofOp f3 f7 = some o) : f3 = o.code3 ∧ f7 = o.code7 := by
  unfold AluOp.ofOp at h
  -- once `f7` is known, only the patterns of `f3` are left
  by_cases hbase : f7 = 0b0000000#7
  · subst hbase
    cases o <;> revert f3 <;> decide
  · rw [if_neg hbase] at h
    by_cases hvariant : f7 = 0b0100000#7
    · subst hvariant
      cases o <;> revert f3 <;> decide
    · rw [if_neg hvariant] at h
      cases h

/-- The function fields of an `OP-IMM` instruction, which is no subtraction, likewise; `funct7`
is a field of the shifts only. -/
theorem AluOp.codes_of_ofOpImm (h : AluOp.ofOpImm f3 f7 = some o) :
    o ≠ .sub ∧ f3 = o.code3 ∧ (o = .sll ∨ o = .srl ∨ o = .sra → f7 = o.code7) := by
  unfold AluOp.ofOpImm at h
  by_cases hbase : f7 = 0b0000000#7
  · subst hbase
    cases o <;> revert f3 <;> decide
  · by_cases hvariant : f7 = 0b0100000#7
    · subst hvariant
      cases o <;> revert f3 <;> decide
    · simp only [if_neg hbase, if_neg hvariant] at h
      have hshift : o ≠ .sub ∧ f3 = o.code3 ∧ ¬ (o = .sll ∨ o = .srl ∨ o = .sra) := by
        cases o <;> revert f3 <;> decide
      exact ⟨hshift.1, hshift.2.1, fun hs => absurd hs hshift.2.2⟩

end Codes

/-- The branch a `funct3` names. -/
def BranchOp.ofFunct3 (f3 : BitVec 3) : Option BranchOp :=
  if f3 = 0b000#3 then some .beq
  else if f3 = 0b001#3 then some .bne
  else if f3 = 0b100#3 then some .blt
  else if f3 = 0b101#3 then some .bge
  else if f3 = 0b110#3 then some .bltu
  else if f3 = 0b111#3 then some .bgeu
  else none

/-- The load a `funct3` names. -/
def LoadOp.ofFunct3 (f3 : BitVec 3) : Option LoadOp :=
  if f3 = 0b000#3 then some .lb
  else if f3 = 0b001#3 then some .lh
  else if f3 = 0b010#3 then some .lw
  else if f3 = 0b100#3 then some .lbu
  else if f3 = 0b101#3 then some .lhu
  else none

/-- The store a `funct3` names. -/
def StoreOp.ofFunct3 (f3 : BitVec 3) : Option StoreOp :=
  if f3 = 0b000#3 then some .sb
  else if f3 = 0b001#3 then some .sh
  else if f3 = 0b010#3 then some .sw
  else none

/-- The instruction a word encodes. -/
def decode (w : Word) : Option Instr :=
  if opcode w = 0b0110011#7 then
    (AluOp.ofOp (funct3 w) (funct7 w)).map fun o => .op o (rd w) (rs1 w) (rs2 w)
  else if opcode w = 0b0010011#7 then
    (AluOp.ofOpImm (funct3 w) (funct7 w)).map fun o => .opImm o (rd w) (rs1 w) (iImm w)
  else if opcode w = 0b0000011#7 then
    (LoadOp.ofFunct3 (funct3 w)).map fun o => .load o (rd w) (rs1 w) (iImm w)
  else if opcode w = 0b0100011#7 then
    (StoreOp.ofFunct3 (funct3 w)).map fun o => .store o (rs1 w) (rs2 w) (sImm w)
  else if opcode w = 0b1100011#7 then
    (BranchOp.ofFunct3 (funct3 w)).map fun o => .branch o (rs1 w) (rs2 w) (bImm w)
  else if opcode w = 0b1101111#7 then some (.jal (rd w) (jImm w))
  else if opcode w = 0b1100111#7 then
    if funct3 w = 0b000#3 then some (.jalr (rd w) (rs1 w) (iImm w)) else none
  else if opcode w = 0b0110111#7 then some (.lui (rd w) (uImm w))
  else if opcode w = 0b0010111#7 then some (.auipc (rd w) (uImm w))
  else none

/-- The word `w` encodes an instruction: its opcode and function fields name the
instruction, and its other fields are the instruction's operands. -/
def Encodes (w : Word) : Instr → Prop
  | .op o d a b =>
      opcode w = 0b0110011#7 ∧ AluOp.ofOp (funct3 w) (funct7 w) = some o ∧
        d = rd w ∧ a = rs1 w ∧ b = rs2 w
  | .opImm o d a imm =>
      opcode w = 0b0010011#7 ∧ AluOp.ofOpImm (funct3 w) (funct7 w) = some o ∧
        d = rd w ∧ a = rs1 w ∧ imm = iImm w
  | .load o d a imm =>
      opcode w = 0b0000011#7 ∧ LoadOp.ofFunct3 (funct3 w) = some o ∧
        d = rd w ∧ a = rs1 w ∧ imm = iImm w
  | .store o a b imm =>
      opcode w = 0b0100011#7 ∧ StoreOp.ofFunct3 (funct3 w) = some o ∧
        a = rs1 w ∧ b = rs2 w ∧ imm = sImm w
  | .branch o a b imm =>
      opcode w = 0b1100011#7 ∧ BranchOp.ofFunct3 (funct3 w) = some o ∧
        a = rs1 w ∧ b = rs2 w ∧ imm = bImm w
  | .jal d imm => opcode w = 0b1101111#7 ∧ d = rd w ∧ imm = jImm w
  | .jalr d a imm =>
      opcode w = 0b1100111#7 ∧ funct3 w = 0b000#3 ∧ d = rd w ∧ a = rs1 w ∧ imm = iImm w
  | .lui d imm => opcode w = 0b0110111#7 ∧ d = rd w ∧ imm = uImm w
  | .auipc d imm => opcode w = 0b0010111#7 ∧ d = rd w ∧ imm = uImm w

section Decode

variable {w : Word} {i : Instr}

/-- What decodes is encoded. -/
theorem encodes_of_decode (h : decode w = some i) : Encodes w i := by
  unfold decode at h
  obtain ⟨hop, h⟩ | ⟨-, h⟩ := ite_eq_iff.mp h
  · obtain ⟨o, ho, rfl⟩ := Option.map_eq_some_iff.mp h
    exact ⟨hop, ho, rfl, rfl, rfl⟩
  obtain ⟨hopImm, h⟩ | ⟨-, h⟩ := ite_eq_iff.mp h
  · obtain ⟨o, ho, rfl⟩ := Option.map_eq_some_iff.mp h
    exact ⟨hopImm, ho, rfl, rfl, rfl⟩
  obtain ⟨hload, h⟩ | ⟨-, h⟩ := ite_eq_iff.mp h
  · obtain ⟨o, ho, rfl⟩ := Option.map_eq_some_iff.mp h
    exact ⟨hload, ho, rfl, rfl, rfl⟩
  obtain ⟨hstore, h⟩ | ⟨-, h⟩ := ite_eq_iff.mp h
  · obtain ⟨o, ho, rfl⟩ := Option.map_eq_some_iff.mp h
    exact ⟨hstore, ho, rfl, rfl, rfl⟩
  obtain ⟨hbranch, h⟩ | ⟨-, h⟩ := ite_eq_iff.mp h
  · obtain ⟨o, ho, rfl⟩ := Option.map_eq_some_iff.mp h
    exact ⟨hbranch, ho, rfl, rfl, rfl⟩
  obtain ⟨hjal, h⟩ | ⟨-, h⟩ := ite_eq_iff.mp h
  · obtain rfl := Option.some.inj h
    exact ⟨hjal, rfl, rfl⟩
  obtain ⟨hjalr, h⟩ | ⟨-, h⟩ := ite_eq_iff.mp h
  · obtain ⟨hf3, h⟩ | ⟨-, h⟩ := ite_eq_iff.mp h
    · obtain rfl := Option.some.inj h
      exact ⟨hjalr, hf3, rfl, rfl, rfl⟩
    · cases h
  obtain ⟨hlui, h⟩ | ⟨-, h⟩ := ite_eq_iff.mp h
  · obtain rfl := Option.some.inj h
    exact ⟨hlui, rfl, rfl⟩
  obtain ⟨hauipc, h⟩ | ⟨-, h⟩ := ite_eq_iff.mp h
  · obtain rfl := Option.some.inj h
    exact ⟨hauipc, rfl, rfl⟩
  · cases h

end Decode

/-! ### Execution -/

/-- A word with its low bit cleared. -/
def evenPart (a : Word) : Word := a &&& ~~~1#32

/-- The address of a load or store. -/
def effAddr (R : Regs) (r : Reg) (imm : Word) : Word := R.get r + imm

/-- Whether a load's address is naturally aligned. -/
def LoadOp.Aligned : LoadOp → Word → Prop
  | .lb, _ | .lbu, _ => True
  | .lh, a | .lhu, a => a.toNat % 2 = 0
  | .lw, a => a.toNat % 4 = 0

/-- What a load makes of the little-endian word that holds the addressed bytes: the
bytes, sign- or zero-extended. -/
def LoadOp.extract : LoadOp → Word → Word → Word
  | .lb, a, m => (m.extractLsb' (8 * (a.toNat % 4)) 8).signExtend 32
  | .lh, a, m => (m.extractLsb' (8 * (a.toNat % 4)) 16).signExtend 32
  | .lw, _, m => m
  | .lbu, a, m => (m.extractLsb' (8 * (a.toNat % 4)) 8).setWidth 32
  | .lhu, a, m => (m.extractLsb' (8 * (a.toNat % 4)) 16).setWidth 32

/-- How many bytes a store writes. -/
def StoreOp.bytes : StoreOp → ℕ
  | .sb => 1
  | .sh => 2
  | .sw => 4

/-- The register an instruction writes and the value, for an instruction at `pc` and
with `ld` the data of each load. -/
def Instr.result (ld : LoadOp → Word → Word) (pc : Word) (R : Regs) : Instr → Option (Reg × Word)
  | .op o rd rs1 rs2 => some (rd, o.eval (R.get rs1) (R.get rs2))
  | .opImm o rd rs1 imm => some (rd, o.eval (R.get rs1) imm)
  | .lui rd imm => some (rd, imm)
  | .auipc rd imm => some (rd, pc + imm)
  | .load o rd rs1 imm => some (rd, ld o (effAddr R rs1 imm))
  | .store _ _ _ _ => none
  | .branch _ _ _ _ => none
  | .jal rd _ => some (rd, pc + 4#32)
  | .jalr rd _ _ => some (rd, pc + 4#32)

/-- The register an instruction writes. -/
def Instr.dest : Instr → Option Reg
  | .op _ rd _ _ => some rd
  | .opImm _ rd _ _ => some rd
  | .lui rd _ => some rd
  | .auipc rd _ => some rd
  | .load _ rd _ _ => some rd
  | .store _ _ _ _ => none
  | .branch _ _ _ _ => none
  | .jal rd _ => some rd
  | .jalr rd _ _ => some rd

/-- The address of the instruction after this one. -/
def Instr.nextPc (pc : Word) (R : Regs) : Instr → Word
  | .branch o rs1 rs2 imm => if o.Holds (R.get rs1) (R.get rs2) then pc + imm else pc + 4#32
  | .jal _ imm => pc + imm
  | .jalr _ rs1 imm => evenPart (R.get rs1 + imm)
  | _ => pc + 4#32

/-- The registers after an instruction. -/
def Instr.retire (ld : LoadOp → Word → Word) (pc : Word) (i : Instr) (R : Regs) : Regs :=
  match i.result ld pc R with
  | some (r, v) => R.set r v
  | none => R

/-- The state of the sequential machine. -/
@[ext]
structure Arch where
  pc : Word
  regs : Regs

/-- The state before the first instruction. -/
def Arch.init : Arch := ⟨0#32, Regs.zero⟩

/-- One instruction, fetched from `M`. -/
def step (M : Word → Word) (ld : LoadOp → Word → Word) (s : Arch) : Option Arch :=
  (decode (M s.pc)).map fun i => ⟨i.nextPc s.pc s.regs, i.retire ld s.pc s.regs⟩

/-- A number of instructions. -/
def steps (M : Word → Word) (ld : LoadOp → Word → Word) : ℕ → Arch → Option Arch
  | 0, s => some s
  | n + 1, s => (steps M ld n s).bind (step M ld)

/-! ### Destinations -/

theorem Instr.result_map_fst (ld : LoadOp → Word → Word) (pc : Word) (R : Regs) (i : Instr) :
    (i.result ld pc R).map Prod.fst = i.dest := by
  cases i <;> rfl

/-- An instruction with no destination but `x0` leaves the registers as they are. -/
theorem Instr.retire_eq_self {i : Instr} (h : ∀ d, i.dest = some d → d = 0#5)
    (ld : LoadOp → Word → Word) (pc : Word) (R : Regs) : i.retire ld pc R = R := by
  have hfst := i.result_map_fst ld pc R
  unfold Instr.retire
  cases hr : i.result ld pc R with
  | none => rfl
  | some x =>
    rw [hr] at hfst
    show R.set x.1 x.2 = R
    rw [h x.1 hfst.symm, Regs.get_set_zero]

section Idle

variable {M : Word → Word} (hM : ∀ a i d, decode (M a) = some i → i.dest = some d → d = 0#5)
  (ld : LoadOp → Word → Word)
include hM

/-- One instruction of a program without other destinations. -/
theorem regs_of_step {s s' : Arch} (h : step M ld s = some s') : s'.regs = s.regs := by
  obtain ⟨i, hi, rfl⟩ := Option.map_eq_some_iff.mp h
  exact Instr.retire_eq_self (fun d => hM s.pc i d hi) ld s.pc s.regs

/-- A number of instructions of a program without other destinations. -/
theorem regs_of_steps {n : ℕ} {s s' : Arch} (h : steps M ld n s = some s') : s'.regs = s.regs := by
  induction n generalizing s' with
  | zero =>
    obtain rfl := Option.some.inj h
    rfl
  | succ n ih =>
    obtain ⟨u, hu, hstep⟩ := Option.bind_eq_some_iff.mp h
    exact (regs_of_step hM ld hstep).trans (ih hu)

end Idle

end RiscvCore.Rv32i
