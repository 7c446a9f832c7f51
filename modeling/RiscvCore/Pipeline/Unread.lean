import RiscvCore.Pipeline.Run

/-!
# What the core never looks at

The word on the data bus reaches the MEM/WB register and the words of the local instruction
memory reach the IF/ID register inside `if_stage`; nothing is made of either. So two runs that
are served alike on the instruction bus and the reset pin are the same but for these two registers,
whatever the data memory answers and whatever `imem` was loaded with
(`sameButUnread_served`): no output and no other register ever tells them apart.
-/

namespace RiscvCore.Pipeline

open Rtl

/-- A run in which reset is `rst`, the instruction bus is answered by a memory that may change
from cycle to cycle, and the data bus carries `D`. -/
def Run.served (imem : Imem) (rst : ℕ → Bool) (I : ℕ → Data → Data) (D : ℕ → Data) : Run :=
  ⟨imem, fun t c => ⟨rst t, I t c.instrAddr, D t⟩⟩

/-- The states are the same but for `id_instr_o` of `if_stage` and `mem_data_o` of `pr_mem_wb`. -/
def SameButUnread (c c' : Core) : Prop :=
  c' = { c with
    ifStage := { c.ifStage with idInstr := c'.ifStage.idInstr }
    memWb := { c.memWb with memData := c'.memWb.memData } }

namespace SameButUnread

variable {c c' : Core} (h : SameButUnread c c')
include h

/-- The outputs are the same. -/
theorem outputs : c'.instrAddr = c.instrAddr ∧ c'.dmemAddr = c.dmemAddr ∧
    c'.dmemWdata = c.dmemWdata ∧ c'.dmemWe = c.dmemWe := by
  rw [h]
  exact ⟨rfl, rfl, rfl, rfl⟩

/-- **An edge keeps the states the same**, with anything on the data bus and in the local
memories. -/
theorem next {i i' : CoreIn} (hr : i'.rstN = i.rstN) (hd : i'.instrData = i.instrData)
    (imem imem' : Imem) : SameButUnread (c.next imem i) (c'.next imem' i') := by
  cases hrst : i.rstN with
  | false =>
    rw [Core.next_of_reset _ hrst, Core.next_of_reset _ (hr.trans hrst)]
    rfl
  | true =>
    have hif : (c'.next imem' i').ifStage =
        { (c.next imem i).ifStage with idInstr := (c'.next imem' i').ifStage.idInstr } := by
      rw [h]
      simp only [Core.next, Core.ifIn, IfStage.next, hr]
      rfl
    have hwb : (c'.next imem' i').memWb =
        { (c.next imem i).memWb with memData := (c'.next imem' i').memWb.memData } := by
      rw [Core.next_memWb _ (hr.trans hrst), Core.next_memWb _ hrst, h]
      rfl
    have hrest : (c'.next imem' i').ifId = (c.next imem i).ifId ∧
        (c'.next imem' i').rf = (c.next imem i).rf ∧
          (c'.next imem' i').idEx = (c.next imem i).idEx ∧
            (c'.next imem' i').exMem = (c.next imem i).exMem := by
      rw [h]
      simp only [Core.next, hr, hd]
      exact ⟨rfl, rfl, rfl, rfl⟩
    obtain ⟨hid, hrf, hex, hmem⟩ := hrest
    show Core.mk (c'.next imem' i').ifStage (c'.next imem' i').ifId (c'.next imem' i').rf
      (c'.next imem' i').idEx (c'.next imem' i').exMem (c'.next imem' i').memWb = _
    rw [hid, hrf, hex, hmem]
    exact congrArg₂ (fun f m => Core.mk f _ _ _ _ m) hif hwb

end SameButUnread

/-- **The data bus and the local instruction memory are never looked at.** -/
theorem sameButUnread_served (imem imem' : Imem) (rst : ℕ → Bool) (I : ℕ → Data → Data)
    (D D' : ℕ → Data) (t : ℕ) :
    SameButUnread ((Run.served imem rst I D).st t) ((Run.served imem' rst I D').st t) := by
  induction t with
  | zero => rfl
  | succ t ih =>
    have hd : ((Run.served imem' rst I D').inp t).instrData =
        ((Run.served imem rst I D).inp t).instrData := congrArg (I t) ih.outputs.1
    have hr : ((Run.served imem' rst I D').inp t).rstN =
        ((Run.served imem rst I D).inp t).rstN := rfl
    rw [Run.st_succ, Run.st_succ]
    exact ih.next hr hd _ _

end RiscvCore.Pipeline
