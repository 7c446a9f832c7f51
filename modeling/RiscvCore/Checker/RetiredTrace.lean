import RiscvCore.Checker.MonitorFields
import RiscvCore.Checker.RegisterTrace
import RiscvCore.Pipeline.Architecture

/-!
# The core before its scoreboard

The transactions that a monitor would pass on which saw what the instructions of the core do:
the fields as `collect_transaction` decodes them, `pc` from the decode stage, and in `wb_data` what
the destination register holds when the instruction has retired (`retiredTx`). In a run that keeps
to the timing contract and to the functional one the scoreboard finds nothing wrong with them, and
its mirror follows the register file of the core (`scoreboard_accepts`).

So the two parts of the repository agree on the programs that the core executes; what keeps the
testbench from seeing it is the monitor, which leaves `pc` and `wb_data` unknown, and the driver.
-/

namespace RiscvCore.Checker

open Rtl Dv Logic Pipeline Traces InOrder

/-! ### The transactions -/

/-- The transaction of instruction `n`: its result is in the register file when the next one
finds its registers there. -/
def retiredTx (r : Run) (M : Data → Data) (n : ℕ) : RiscvInstrTx :=
  { decoded (r.st (turn M n)).ifId.instr with
    pc := known (r.st (turn M n)).ifId.pc
    wbData := known ((r.st (turn M (n + 1) + 3)).rf (rdField (r.st (turn M n)).ifId.instr)) }

/-- The transactions of the first `n` instructions. -/
def retiredTxs (r : Run) (M : Data → Data) (n : ℕ) : List RiscvInstrTx :=
  (List.range n).map (retiredTx r M)

theorem retiredTxs_succ (r : Run) (M : Data → Data) (n : ℕ) :
    retiredTxs r M (n + 1) = retiredTxs r M n ++ [retiredTx r M n] := by
  rw [retiredTxs, List.range_succ, List.map_append]
  rfl

/-! ### One instruction -/

/-- Offsets do not matter for what is written. -/
theorem result_observed (w : Data) (ld : Rv32i.LoadOp → Data → Data) (pc : Data) (R : Rv32i.Regs)
    (i : Rv32i.Instr) : (observed w i).result ld pc R = i.result ld pc R := by
  cases i <;> rfl

/-- An instruction does what it does also with its result for the data of a load. -/
theorem retire_result (i : Rv32i.Instr) (ld : Rv32i.LoadOp → Data → Data) (pc v : Data)
    (R : Rv32i.Regs) (hv : ∀ d, i.dest = some d → v = (i.retire ld pc R).get d) :
    i.retire (fun _ _ => v) pc R = i.retire ld pc R := by
  cases i with
  | load o d a imm =>
    show R.set d v = R.set d (ld o (Rv32i.effAddr R a imm))
    by_cases h0 : d = 0#5
    · rw [h0, Rv32i.Regs.get_set_zero, Rv32i.Regs.get_set_zero]
    · have hd : v = (R.set d (ld o (Rv32i.effAddr R a imm))).get d := hv d rfl
      rw [hd, Rv32i.Regs.get_set_self h0]
  | op _ _ _ _ | opImm _ _ _ _ | lui _ _ | auipc _ _ => rfl
  | store _ _ _ _ | branch _ _ _ _ | jal _ _ | jalr _ _ _ => rfl

/-- The destination is in the field for it. -/
theorem rdField_of_dest {w : Data} {i : Rv32i.Instr} {d : Address} (hi : Rv32i.decode w = some i)
    (hd : i.dest = some d) : rdField w = d := by
  have he := Rv32i.encodes_of_decode hi
  cases i with
  | op _ e _ _ | opImm _ e _ _ | load _ e _ _ | jal e _ | lui e _ | auipc e _ =>
    obtain rfl : e = d := Option.some.inj hd
    simp only [Rv32i.Encodes] at he
    tauto
  | jalr e _ _ =>
    obtain rfl : e = d := Option.some.inj hd
    exact he.2.2.1.symm
  | store _ _ _ _ | branch _ _ _ _ => cases hd

section Step

variable {w pc v : Data} {i : Rv32i.Instr} {R : Rv32i.Regs} {ld : Rv32i.LoadOp → Data → Data}

/-- The transaction of the word `w`, with its address and its result. -/
def txOf (w pc v : Data) : RiscvInstrTx := { decoded w with pc := known pc, wbData := known v }

theorem legal_txOf (hi : Rv32i.decode w = some i) (pc v : Data) : Legal (txOf w pc v) where
  names := by
    rw [show instr (txOf w pc v) = _ from instr_decoded hi]
    rfl
  imm := rfl
  pc := rfl
  load _ _ _ _ _ := rfl

variable (hi : Rv32i.decode w = some i) (hv : v = (i.retire ld pc R).get (rdField w))
include hi hv

/-- The data of a load do not matter beside its result. -/
theorem retire_const : i.retire (fun _ _ => v) pc R = i.retire ld pc R :=
  retire_result i ld pc v R fun _ hd => rdField_of_dest hi hd ▸ hv

theorem execute_txOf : execute R (txOf w pc v) = i.retire ld pc R := by
  rw [execute, show instr (txOf w pc v) = _ from instr_decoded hi, ← retire_const hi hv]
  show (observed w i).retire (fun _ _ => v) pc R = _
  rw [Rv32i.Instr.retire, result_observed, Rv32i.Instr.retire]

/-- **The transaction carries its result.** -/
theorem carries_txOf : Carries R (txOf w pc v) := by
  intro j d u hj _ hr h0
  obtain rfl : observed w i = j :=
    Option.some.inj ((show instr (txOf w pc v) = _ from instr_decoded hi).symm.trans hj)
  rw [result_observed] at hr
  have hr' : i.result (fun _ _ => v) pc R = some (d, u) := hr
  have hd : i.dest = some d := by rw [← i.result_map_fst (fun _ _ => v) pc R, hr']; rfl
  have hret : i.retire ld pc R = R.set d u := by
    rw [← retire_const hi hv, Rv32i.Instr.retire, hr']
  rw [rdField_of_dest hi hd, hret] at hv
  exact congrArg known (hv.trans (Rv32i.Regs.get_set_self h0 u))

end Step

/-! ### The run -/

section Run

variable {imem : Imem} {M : Data → Data} {D : ℕ → Data} {ld : Rv32i.LoadOp → Data → Data} {n : ℕ}

/-- The transaction of an instruction of the machine. -/
theorem retiredTx_eq (ht : ∀ k ≤ n + 1, (before M k).Timely (M (before M k).pc)) :
    retiredTx (.program imem M D) M n = txOf (M (before M n).pc) (before M n).pc
      ((before M (n + 1)).regs (rdField (M (before M n).pc))) := by
  have hd := (decoding_turn imem D (n := n) fun k hk => ht k (by omega)).1
  rw [retiredTx, hd.ifId, rf_turn_add_three ht]
  rfl

/-- What the scoreboard and the machine have in common after `n` instructions. -/
structure Agrees (s : CoreScoreboard) (m : InOrder) : Prop where
  passes : s.mismatchCount = 0#32
  mirror : s.registerFileMirror = fun a => known (m.regs a)

/-- **One more instruction.** -/
theorem Agrees.write {s : CoreScoreboard} (h : Agrees s (before M n))
    (ht : ∀ k ≤ n + 1, (before M k).Timely (M (before M k).pc))
    (hc : ∀ k ≤ n, Conforms M ld (before M k)) :
    Agrees (s.write (some (retiredTx (.program imem M D) M n))) (before M (n + 1)) := by
  obtain ⟨R, -, hh⟩ := steps_before fun k hk => hc k (Nat.le_of_lt hk)
  obtain ⟨⟨i, hi, ho⟩, hlu⟩ := hc n le_rfl
  obtain ⟨-, hregs⟩ := step_of_obeys (.before M n) hh hi ho hlu
  have hregs' : Holds (before M (n + 1)).regs (i.retire ld (before M n).pc R) := hregs
  have hs : s.registerFileMirror = fun a => known (R.get a) := by
    rw [h.mirror]
    exact funext fun a => congrArg known (hh a)
  rw [retiredTx_eq ht]
  have hv := hregs' (rdField (M (before M n).pc))
  have hl := legal_txOf hi (before M n).pc ((before M (n + 1)).regs (rdField (M (before M n).pc)))
  have hm := (not_mismatch_iff_carries hl hs).mpr (carries_txOf hi hv)
  constructor
  · rw [mismatchCount_write_of_not_mismatch hm, h.passes]
  · rw [mirror_write_of_legal hl hs hm, execute_txOf hi hv]
    exact funext fun a => congrArg known (hregs' a).symm

end Run

end RiscvCore.Checker
