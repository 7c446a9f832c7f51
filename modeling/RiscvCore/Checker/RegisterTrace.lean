import RiscvCore.Foundation.Traces
import RiscvCore.Checker.ReferenceModel

/-!
# A passing scoreboard

Fed with transactions whose fields are known and name instructions, the scoreboard counts
no mismatch exactly when every transaction carries the value that its instruction writes
after the earlier ones, executed in order from registers that are all zero; and then its
mirror holds the registers (`registerTrace`). The invariant is that the mirror is the
register state as long as nothing has been counted.
-/

namespace RiscvCore.Checker

open Rtl Dv Logic Traces

/-- The fields of a transaction name an instruction and are known; so is the data of a load. -/
structure Legal (tx : RiscvInstrTx) : Prop where
  names : (instr tx).isSome = true
  imm : tx.imm.IsKnown
  pc : tx.pc.IsKnown
  load : ∀ o d a imm, instr tx = some (.load o d a imm) → tx.wbData.IsKnown

/-- The registers after the instruction of a transaction; a load takes the data on `wb_data`. -/
def execute (R : Rv32i.Regs) (tx : RiscvInstrTx) : Rv32i.Regs :=
  match instr tx with
  | some i => i.retire (fun _ _ => tx.wbData.val) tx.pc.val R
  | none => R

/-- The registers after the instructions of a sequence of transactions, from all zero. -/
def executed (txs : List RiscvInstrTx) : Rv32i.Regs := txs.foldl execute .zero

/-- A transaction that writes a register other than `x0`, and is no load, carries the value that
its instruction writes in the registers `R`. -/
def Carries (R : Rv32i.Regs) (tx : RiscvInstrTx) : Prop :=
  ∀ i d v, instr tx = some i → (∀ o e a imm, i ≠ .load o e a imm) →
    i.result (fun _ _ => tx.wbData.val) tx.pc.val R = some (d, v) → d ≠ 0#5 → tx.wbData = known v

/-- **The register trace is correct.** -/
def CorrectTrace (txs : List RiscvInstrTx) : Prop := AtEach (fun p tx => Carries (executed p) tx) txs

/-- The scoreboard after a sequence of transactions. -/
def feed (txs : List RiscvInstrTx) : CoreScoreboard :=
  txs.foldl (fun s tx => s.write (some tx)) .build

section Step

variable {s : CoreScoreboard} {R : Rv32i.Regs} {tx : RiscvInstrTx} (hl : Legal tx)
  (hs : s.registerFileMirror = fun a => known (R.get a))
include hl hs

/-- What is expected of a legal transaction while the mirror holds the registers. -/
theorem expected_of_legal {i : Rv32i.Instr} (hi : instr tx = some i) :
    expected s.registerFileMirror tx.pc tx.wbData i =
      (i.result (fun _ _ => tx.wbData.val) tx.pc.val R).map fun x => (x.1, known x.2) := by
  have h := expected_known R tx.pc.val tx.wbData i
    fun o d a imm hload => hl.load o d a imm (hload ▸ hi)
  rw [← hl.pc.eq_known] at h
  rw [hs, h]

/-- The check passes exactly when the value is carried. -/
theorem not_mismatch_iff_carries : ¬ s.Mismatch tx ↔ Carries R tx := by
  obtain ⟨i, hi⟩ := Option.isSome_iff_exists.mp hl.names
  rw [mismatch_iff hi hl.imm, expected_of_legal hl hs hi]
  constructor
  · intro hn j d v hj _ hr hd
    obtain rfl := Option.some.inj (hi.symm.trans hj)
    by_contra hne
    exact hn ⟨d, known v, by rw [hr]; rfl, hd, hne⟩
  · rintro hc ⟨d, v, he, hd, hne⟩
    obtain ⟨⟨d', v'⟩, hr, heq⟩ := Option.map_eq_some_iff.mp he
    obtain ⟨rfl, rfl⟩ := Prod.mk.inj heq
    by_cases hload : ∃ o e a imm, i = .load o e a imm
    · obtain ⟨o, e, a, imm, rfl⟩ := hload
      obtain ⟨-, rfl⟩ := Prod.mk.inj (Option.some.inj hr)
      exact hne (hl.load o e a imm hi).eq_known
    · exact hne (hc i d' v' hi (fun o e a imm he => hload ⟨o, e, a, imm, he⟩) hr hd)

omit hl hs in
/-- Advancing a mirror that holds the registers sets a register. -/
theorem advance_known (d : Address) (v : Data) :
    advance (fun a => known (R.get a)) (some (d, known v)) = fun a => known ((R.set d v).get a) := by
  funext a
  simp only [advance, Rv32i.Regs.set]
  split_ifs with h0
  · rfl
  · by_cases ha : a = d
    · subst ha
      simp
    · simp [ha]

/-- A passed check keeps the registers in the mirror. -/
theorem mirror_write_of_legal (hm : ¬ s.Mismatch tx) :
    (s.write (some tx)).registerFileMirror = fun a => known ((execute R tx).get a) := by
  obtain ⟨i, hi⟩ := Option.isSome_iff_exists.mp hl.names
  have hex : execute R tx = i.retire (fun _ _ => tx.wbData.val) tx.pc.val R := by
    rw [execute, hi]
  rw [mirror_write hi hl.imm hm, expected_of_legal hl hs hi, hex, hs, Rv32i.Instr.retire]
  cases i.result (fun _ _ => tx.wbData.val) tx.pc.val R with
  | none => rfl
  | some x => exact advance_known x.1 x.2

end Step

/-- **A passing scoreboard means a correct register trace.** -/
theorem registerTrace (txs : List RiscvInstrTx) (hlegal : ∀ tx ∈ txs, Legal tx)
    (hlen : txs.length < 2 ^ 32) :
    ((feed txs).mismatchCount = 0#32 ↔ CorrectTrace txs) ∧
      ((feed txs).mismatchCount = 0#32 →
        (∀ a, (feed txs).registerFileMirror a = known ((executed txs).get a)) ∧
          (feed txs).registerFileMirror 0#5 = known 0#32) := by
  have hcount : (feed txs).mismatchCount = 0#32 ↔ AtEach (fun p tx => ¬ (feed p).Mismatch tx) txs :=
    counter_eq_zero_iff (c := CoreScoreboard.mismatchCount) rfl
      (fun _ _ => mismatchCount_write_of_mismatch)
      (fun _ _ => mismatchCount_write_of_not_mismatch) hlen
  have hstep : ∀ p tx, Legal tx →
      (feed p).registerFileMirror = (fun a => known ((executed p).get a)) →
      (¬ (feed p).Mismatch tx ↔ Carries (executed p) tx) ∧
        (¬ (feed p).Mismatch tx → (feed (p ++ [tx])).registerFileMirror =
          fun a => known ((executed (p ++ [tx])).get a)) := by
    intro p tx hl hs
    refine ⟨not_mismatch_iff_carries hl hs, fun hm => ?_⟩
    rw [feed, executed, List.foldl_append, List.foldl_append]
    exact mirror_write_of_legal hl hs hm
  obtain ⟨hiff, hinv⟩ := atEach_iff_of_invariant (I := fun p =>
    (feed p).registerFileMirror = fun a => known ((executed p).get a)) rfl hstep hlegal
  refine ⟨hcount.trans hiff, fun h0 => ?_⟩
  have hmirror := hinv (hcount.mp h0)
  exact ⟨congrFun hmirror, (congrFun hmirror 0#5).trans (by rw [Rv32i.Regs.get_zero])⟩

/-- `addi x1, x0, 5` and `add x2, x1, x1`, with their results. -/
def addTwice : List RiscvInstrTx :=
  [⟨0b0010011#7, 0#5, 0#5, 1#5, 0#3, 0#7, known 5#32, known 0#32, known 5#32⟩,
    ⟨0b0110011#7, 1#5, 1#5, 2#5, 0#3, 0#7, known 0#32, known 4#32, known 10#32⟩]

theorem registerTrace_addTwice :
    ((feed addTwice).mismatchCount = 0#32 ↔ CorrectTrace addTwice) ∧
      ((feed addTwice).mismatchCount = 0#32 →
        (∀ a, (feed addTwice).registerFileMirror a = known ((executed addTwice).get a)) ∧
          (feed addTwice).registerFileMirror 0#5 = known 0#32) :=
  registerTrace addTwice
    (by
      simp only [addTwice, List.forall_mem_cons]
      exact ⟨⟨rfl, rfl, rfl, fun _ _ _ _ h => by cases h⟩,
        ⟨rfl, rfl, rfl, fun _ _ _ _ h => by cases h⟩, by simp⟩)
    (by decide)

end RiscvCore.Checker
