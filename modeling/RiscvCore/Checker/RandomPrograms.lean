import RiscvCore.Checker.RandomDestinations
import RiscvCore.Pipeline.Retirement

/-!
# Random programs

What a program of generated words does to the two sides that a random test compares. The words that
the core writes back are those that the scoreboard takes for an instruction that writes back
(`isWritebackInstr_decoded_iff`), and no generated word is one. So the registers of the core are
zero throughout, as those of the instruction set and of the mirror are, and the scoreboard counts
what it hears without comparing anything (`exercisesNothing`).
-/

namespace RiscvCore.Checker

open Rtl Dv Pipeline

/-- **The scoreboard and the core agree on which words write back.** -/
theorem isWritebackInstr_decoded_iff (w : Data) :
    isWritebackInstr (decoded w) = true ↔ Writes w (rdField w) := by
  have hrd : ((decoded w).rd != regZero) = true ↔ rdField w ≠ 0#5 := bne_iff_ne
  have hw : Writes w (rdField w) ↔ (cuOf w).regWe = true ∧ rdField w ≠ 0#5 := by simp [Writes]
  have hop : Opcode.ofBits (decoded w).opcode = opcodeField w := rfl
  rw [hw, isWritebackInstr, hop, cuOf]
  cases opcodeField w with
  | none => simp [cu, cuDefault]
  | some o => cases o <;> simp [cu, cuDefault, hrd]

/-- A generated word writes no register of the core. -/
theorem RandomWord.not_writes {w : Data} (h : RandomWord w) (a : Address) : ¬ Writes w a := by
  rintro ⟨hwe, rfl, h0⟩
  have hwb := (isWritebackInstr_decoded_iff w).mpr ⟨hwe, rfl, h0⟩
  rw [isWritebackInstr_decoded h] at hwb
  exact Bool.false_ne_true hwb

/-- The words on the instruction bus in the first `t` cycles. -/
def busWords (r : Run) (t : ℕ) : List Data := (List.range t).map fun k => (r.inp k).instrData

/-- A run that puts nothing to the test. -/
structure ExercisesNothing (imem : Imem) (M : Data → Data) (D : ℕ → Data) : Prop where
  /-- The core writes no register, -/
  core : ∀ t a, ((Run.program imem M D).st t).rf a = 0#32
  /-- it should write none, -/
  isa : ∀ ld n s, Rv32i.steps M ld n .init = some s → s.regs = .zero
  /-- and the scoreboard, given all that is on the bus, counts. -/
  report : ∀ t, (feed ((busWords (.program imem M D) t).map decoded)).reportPhase =
    [.report (BitVec.ofNat 32 t) 0#32 0#32]

/-- **A random program exercises nothing.** -/
theorem exercisesNothing (imem : Imem) (M : Data → Data) (D : ℕ → Data)
    (hM : ∀ a, RandomWord (M a)) : ExercisesNothing imem M D where
  core t a := by
    rw [← Run.shown_eq (r := .program imem M D) (t := t) rfl]
    refine rf_of_not_writes (fun _ b => ?_) t a
    exact (hM _).not_writes b
  isa ld _ _ h := regs_of_randomWords hM ld h
  report t := by
    have hwords : ∀ w ∈ busWords (.program imem M D) t, RandomWord w := by
      intro w hw
      obtain ⟨k, -, rfl⟩ := List.mem_map.mp hw
      exact hM _
    rw [reportPhase_randomWords _ hwords, busWords, List.length_map, List.length_range]

/-- `addi x0, x1, 5` at every address. -/
theorem exercisesNothing_addi :
    ExercisesNothing (fun _ => 0#32) (fun _ => 0x00508013#32) fun _ => 0#32 := by
  have hfields : SameFields .iType (generated .iType 5#32) (decoded 0x00508013#32) :=
    ⟨by decide, by decide, by decide, by decide, fun _ => by decide, by decide⟩
  have hrandom : (generated .iType 5#32).Randomized :=
    ⟨by decide, rfl, by decide, by decide, by decide, by decide⟩
  exact exercisesNothing _ _ _ fun _ =>
    ⟨generated .iType 5#32, hrandom, .iType, by decide, by decide, hfields⟩

end RiscvCore.Checker
