import RiscvCore.Foundation.TimedSystem
import RiscvCore.Pipeline.LoadUse
import RiscvCore.Pipeline.Operands
import RiscvCore.Pipeline.StraightLine

/-!
# The core as an in-order machine

What `core_top` is for: executing the program's instructions one after another, each with
the registers that the ones before it leave. `InOrder.step` is that machine with the core's
own meaning of instructions and without its pipeline. It keeps the redirect logic of the
source: a jump, and a branch if the operands of the instruction *before* it are equal, goes to
the sum of that instruction's address and second operand, and is not executed itself. It keeps
the branch target buffer, and that an instruction behind a load of one of its registers is
executed twice.

`Timely` is the timing contract: what a program must keep to for the pipeline to work as
this machine does. It is about the registers that the instructions in flight name, and says for each
operand when forwarding, which looks at the wrong instruction's fields, gets it right all
the same. `InOrderRefinement` proves that the contract is enough.
-/

namespace RiscvCore.Pipeline

open Rtl

/-! ### Operands -/

/-- Where the decode stage takes an operand from. -/
inductive Source where
  /-- A port of the register file. -/
  | reg (a : Address)
  /-- The program counter or the immediate. -/
  | val (v : Data)

/-- The value of an operand. -/
def Source.read (rf : RegFile) : Source → Data
  | .reg a => rfRead rf a
  | .val v => v

/-- The source of the first operand. -/
def sourceA (x : PrIfId) : Source :=
  if opcodeField x.instr = some .auipc then .val x.pc else .reg (rs1Field x.instr)

/-- The source of the second operand. -/
def sourceB (x : PrIfId) : Source :=
  if (cuOf x.instr).aluSrc = true then .val (immGen x.instr) else .reg (rs2Field x.instr)

theorem issue_regData1 (rf : RegFile) (x : PrIfId) :
    (issue rf x).regData1 = (sourceA x).read rf := by
  unfold sourceA
  split_ifs with h <;> simp [issue, h, Source.read]

theorem issue_regData2 (rf : RegFile) (x : PrIfId) :
    (issue rf x).regData2 = (sourceB x).read rf := by
  unfold sourceB
  split_ifs with h <;> simp [issue, h, Source.read]

/-- The immediate that EX gets is the second operand. -/
theorem issue_imm (rf : RegFile) (x : PrIfId) : (issue rf x).imm = (sourceB x).read rf :=
  (issue_regData2 rf x : (issue rf x).regData2 = _)

/-- Retiring an instruction changes the register it writes. -/
theorem retire_apply (rf : RegFile) (x : PrIfId) (a : Address) :
    retire rf x a = if Writes x.instr a then value rf x else rf a := by
  by_cases ha : Writes x.instr a
  · obtain ⟨hwe, rfl, h0⟩ := ha
    rw [if_pos ⟨hwe, rfl, h0⟩, retire, if_pos ⟨hwe, h0⟩, Function.update_self]
  · rw [if_neg ha, retire]
    split_ifs with hd
    · refine Function.update_of_ne ?_ _ _
      rintro rfl
      exact ha ⟨hd.1, rfl, hd.2⟩
    · rfl

/-! ### The machine -/

/-- The address that fetch goes on to from `pc`. -/
def nextFetch (btb : Btb 4) (pc : Data) : Data :=
  if btbHit btb pc = true then btbPredictTarget btb pc else pc + 4#32

/-- The state of the machine between two instructions. -/
structure InOrder where
  /-- The address of the next instruction. -/
  pc : Data
  /-- The registers before the last instruction. -/
  prior : RegFile
  /-- The last instruction; a bubble after a redirect. -/
  last : PrIfId
  /-- The word before it, -/
  w1 : Data
  /-- the one before that, -/
  w2 : Data
  /-- and the one before that. -/
  w3 : Data
  /-- The branch target buffer. -/
  btb : Btb 4

namespace InOrder

/-- Before the first instruction. -/
def init : InOrder := ⟨0#32, fun _ => 0#32, .bubble, 0#32, 0#32, 0#32, btbReset⟩

section State

variable (s : InOrder)

/-- The registers. -/
def regs : RegFile := retire s.prior s.last

/-- What the last instruction hands over to EX. -/
def front : PrIdEx := issue s.prior s.last

/-- Where a redirect goes. -/
def target : Data := alignTarget (s.front.pc + s.front.imm)

/-- The word `w` redirects. -/
def Redirects (w : Data) : Prop :=
  (opcodeField w = some .branch ∧ s.front.regData1 = s.front.regData2) ∨
    opcodeField w = some .jal ∨ opcodeField w = some .jalr

instance (w : Data) : Decidable (s.Redirects w) := by unfold Redirects; infer_instance

variable {s} in
theorem Redirects.isControl {w : Data} (h : s.Redirects w) : IsControl w :=
  h.imp_left And.left

/-- After a redirect by the next instruction. -/
def redirect : InOrder where
  pc := s.target
  prior := s.regs
  last := .bubble
  w1 := 0#32
  w2 := s.last.instr
  w3 := s.w1
  btb := Function.update s.btb (btbIdx 4 s.pc) ⟨true, s.pc, s.target⟩

/-- After the next instruction, `w`, if it does not redirect. -/
def advance (w : Data) : InOrder where
  pc := if LoadUse s.last.instr w then s.pc else nextFetch s.btb s.pc
  prior := s.regs
  last := ⟨s.pc, w⟩
  w1 := s.last.instr
  w2 := s.w1
  w3 := s.w2
  btb := s.btb

end State

/-- One instruction of the program `M`. -/
def step (M : Data → Data) (s : InOrder) : InOrder :=
  if s.Redirects (M s.pc) then s.redirect else s.advance (M s.pc)

/-- The machine, with the cycles that the core takes: a redirect costs one more. -/
def machine (M : Data → Data) : Timed InOrder where
  next := step M
  cost s := if s.Redirects (M s.pc) then 2 else 1

theorem machine_cost_pos (M : Data → Data) (s : InOrder) : 0 < (machine M).cost s := by
  show 0 < if _ then 2 else 1
  split_ifs <;> decide

/-- The state before instruction `n`. -/
def before (M : Data → Data) (n : ℕ) : InOrder := (machine M).state init n

/-- The cycle in which instruction `n` is in ID: instruction 0 is there one cycle after
reset. -/
def turn (M : Data → Data) (n : ℕ) : ℕ := 1 + (machine M).clock init n

/-- Instruction `n` is preceded in ID by the instructions before it, one bubble after each of
their redirects, and the bubble of reset. -/
theorem turn_eq (M : Data → Data) (n : ℕ) :
    turn M n = 1 + (n + Nat.count (fun k => (before M k).Redirects (M (before M k).pc)) n) := by
  rw [turn, Timed.clock_eq_add_count (p := fun s => s.Redirects (M s.pc)) fun _ => rfl]
  rfl

/-! ### The timing contract -/

section Contract

variable (s : InOrder)

/-- Register `a` is the destination of one of the two words before the last instruction, whose
results are forwarded. -/
def Flies (a : Address) : Prop := Writes s.w1 a ∨ Writes s.w2 a

instance (a : Address) : Decidable (s.Flies a) := by unfold Flies; infer_instance

/-- An operand from `o` of the last instruction reaches it although the forwarding unit looks
for register `b`: if its register flies, `b` is the same one; if not, the register file had
it in time, and nothing is forwarded for `b`. -/
def Reaches (b : Address) : Source → Prop
  | .reg a => s.Flies a ∧ b = a ∨ ¬ s.Flies a ∧ ¬ Writes s.w3 a ∧ ¬ s.Flies b
  | .val _ => ¬ s.Flies b

instance (b : Address) (o : Source) : Decidable (s.Reaches b o) := by
  unfold Reaches
  cases o <;> infer_instance

/-- The register file had an operand from `o` of the last instruction in time. -/
def Ready : Source → Prop
  | .reg a => ¬ s.Flies a ∧ ¬ Writes s.w3 a
  | .val _ => True

instance (o : Source) : Decidable (s.Ready o) := by
  unfold Ready
  cases o <;> infer_instance

/-- **The timing contract** for the next instruction, `w`. -/
structure Timely (w : Data) : Prop where
  /-- The operands of the last instruction reach it, if its result or a branch depends on
  them. -/
  operands : Writes s.last.instr (rdField s.last.instr) ∨ opcodeField w = some .branch →
    s.Reaches (rs1Field w) (sourceA s.last) ∧ s.Reaches (rs2Field w) (sourceB s.last)
  /-- The second operand, which is not forwarded to the target, was ready for a redirect. -/
  target : s.Redirects w → s.Ready (sourceB s.last)
  /-- The instruction behind one that a load holds back is not predicted. -/
  held : LoadUse s.last.instr w → btbHit s.btb (nextFetch s.btb s.pc) = false

theorem timely_iff (w : Data) : s.Timely w ↔
    (Writes s.last.instr (rdField s.last.instr) ∨ opcodeField w = some .branch →
      s.Reaches (rs1Field w) (sourceA s.last) ∧ s.Reaches (rs2Field w) (sourceB s.last)) ∧
    (s.Redirects w → s.Ready (sourceB s.last)) ∧
    (LoadUse s.last.instr w → btbHit s.btb (nextFetch s.btb s.pc) = false) :=
  ⟨fun h => ⟨h.operands, h.target, h.held⟩, fun ⟨h1, h2, h3⟩ => ⟨h1, h2, h3⟩⟩

instance (w : Data) : Decidable (s.Timely w) := decidable_of_iff _ (s.timely_iff w).symm

end Contract

end InOrder

end RiscvCore.Pipeline
