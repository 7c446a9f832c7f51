import RiscvCore.Foundation.Traces
import RiscvCore.Checker.RegisterTrace

/-!
# The mirror and the results of the design

The scoreboard advances its mirror on a passed check only. Two sequences of transactions
that differ in the results of instructions other than loads therefore leave the same
mirrors exactly if, transaction by transaction, the check decides alike on both, or the
register already holds what is expected of it (`sameMirrors_iff`): a single mismatch can
leave the mirror behind, and with it the expectations of all later checks.
-/

namespace RiscvCore.Checker

open Rtl Dv Logic Traces

/-- Two transactions that differ at most in `wb_data`, and not at all if they are loads. -/
structure SameButResult (x y : RiscvInstrTx) : Prop where
  fields : { x with wbData := y.wbData } = y
  load : Opcode.ofBits x.opcode = some .load → x.wbData = y.wbData

/-- Two sequences, given as the list of pairs, leave the same mirror; so do their prefixes. -/
def SameMirrors (ps : List (RiscvInstrTx × RiscvInstrTx)) : Prop :=
  ∀ p, p <+: ps →
    (feed (p.map Prod.fst)).registerFileMirror = (feed (p.map Prod.snd)).registerFileMirror

/-- The check decides alike on `x` and `y`, or the register that `x` writes holds what is
expected. -/
def Undisturbed (s : CoreScoreboard) (x y : RiscvInstrTx) : Prop :=
  (s.Mismatch x ↔ s.Mismatch y) ∨ s.registerFileMirror x.rd = expectedData s.registerFileMirror x

/-- The mirror after a transaction. -/
theorem mirror_write_eq (s : CoreScoreboard) (tx : RiscvInstrTx) :
    (s.write (some tx)).registerFileMirror =
      if isWritebackInstr tx = true ∧ ¬ s.Mismatch tx then
        Function.update s.registerFileMirror tx.rd (expectedData s.registerFileMirror tx)
      else s.registerFileMirror := by
  unfold CoreScoreboard.write CoreScoreboard.Mismatch
  by_cases hwb : isWritebackInstr tx = true <;>
    by_cases hne : tx.wbData = expectedData s.registerFileMirror tx <;> simp [hwb, hne]

section Pair

variable {x y : RiscvInstrTx} (h : SameButResult x y)
include h

theorem isWritebackInstr_congr : isWritebackInstr y = isWritebackInstr x := by
  rw [← h.fields]
  rfl

theorem rd_congr : y.rd = x.rd := by
  rw [← h.fields]

theorem expectedData_congr (mirror : Address → Data4) :
    expectedData mirror y = expectedData mirror x := by
  have hl := h.load
  rw [← h.fields]
  unfold expectedData
  cases hop : Opcode.ofBits x.opcode with
  | none => rfl
  | some o =>
    cases o with
    | load => exact (hl hop).symm
    | _ => rfl

/-- What one pair does to mirrors that were the same. -/
theorem mirror_write_eq_iff {s s' : CoreScoreboard}
    (hs : s.registerFileMirror = s'.registerFileMirror) :
    (s.write (some x)).registerFileMirror = (s'.write (some y)).registerFileMirror ↔
      Undisturbed s x y := by
  have hmis : s'.Mismatch y ↔ s.Mismatch y := by
    unfold CoreScoreboard.Mismatch
    rw [hs]
  rw [mirror_write_eq, mirror_write_eq, ← hs, isWritebackInstr_congr h, rd_congr h,
    expectedData_congr h, Undisturbed]
  simp only [hmis]
  by_cases hwb : isWritebackInstr x = true
  · by_cases hx : s.Mismatch x <;> by_cases hy : s.Mismatch y <;>
      simp [hwb, hx, hy, Function.eq_update_self_iff, eq_comm]
  · have hx : ¬ s.Mismatch x := fun hm => hwb hm.1
    have hy : ¬ s.Mismatch y := fun hm => hwb (isWritebackInstr_congr h ▸ hm.1)
    simp [hwb, hx, hy]

end Pair

/-- **The mirror is independent of the results exactly as long as no check disturbs it.** -/
theorem sameMirrors_iff (ps : List (RiscvInstrTx × RiscvInstrTx))
    (h : ∀ x ∈ ps, SameButResult x.1 x.2) :
    SameMirrors ps ↔ AtEach (fun p x => Undisturbed (feed (p.map Prod.fst)) x.1 x.2) ps := by
  refine forall_prefix_iff (R := fun p => (feed (p.map Prod.fst)).registerFileMirror =
    (feed (p.map Prod.snd)).registerFileMirror) rfl (fun p x hx hp => ?_) h
  rw [List.map_append, List.map_append, feed, feed, List.foldl_append, List.foldl_append]
  exact mirror_write_eq_iff hx hp

/-- `addi x1, x0, 5` with the result `v`. -/
def addFive (v : Data) : RiscvInstrTx :=
  ⟨0b0010011#7, 0#5, 0#5, 1#5, 0#3, 0#7, known 5#32, known 0#32, known v⟩

/-- `addi x2, x1, 1` with the result `v`. -/
def addOne (v : Data) : RiscvInstrTx :=
  ⟨0b0010011#7, 1#5, 0#5, 2#5, 0#3, 0#7, known 1#32, known 4#32, known v⟩

/-- Two designs that agree on `x1`; then one of them is wrong about it, then both about `x2`, which
is added up from `x1`, then none, then one. -/
def twoDesigns : List (RiscvInstrTx × RiscvInstrTx) :=
  [(addFive 5#32, addFive 5#32), (addFive 5#32, addFive 6#32), (addOne 7#32, addOne 8#32),
    (addOne 6#32, addOne 6#32), (addOne 6#32, addOne 7#32)]

/-- The mirrors stay the same all the while. -/
theorem sameMirrors_twoDesigns :
    (SameMirrors twoDesigns ↔
      AtEach (fun p x => Undisturbed (feed (p.map Prod.fst)) x.1 x.2) twoDesigns) ∧
    SameMirrors twoDesigns := by
  have hload : ∀ x ∈ twoDesigns, Opcode.ofBits x.1.opcode ≠ some .load := by decide
  have hfields : ∀ x ∈ twoDesigns, { x.1 with wbData := x.2.wbData } = x.2 := by decide
  have hinits : ∀ p ∈ twoDesigns.inits, ∀ a, (feed (p.map Prod.fst)).registerFileMirror a =
      (feed (p.map Prod.snd)).registerFileMirror a := by
    decide +kernel
  exact ⟨sameMirrors_iff _ fun x hx => ⟨hfields x hx, fun h => absurd h (hload x hx)⟩,
    fun p hp => funext (hinits p ((List.mem_inits _ _).mpr hp))⟩

/-- After a wrong result of `addi x1, x0, 5` the mirror of `x1` is behind. -/
theorem not_sameMirrors_of_mismatch :
    ¬ ∀ ps : List (RiscvInstrTx × RiscvInstrTx), (∀ x ∈ ps, SameButResult x.1 x.2) →
      (feed (ps.map Prod.fst)).registerFileMirror = (feed (ps.map Prod.snd)).registerFileMirror := by
  intro h
  have hps := h [(addFive 5#32, addFive 6#32)] (by
    intro x hx
    obtain rfl := List.mem_singleton.mp hx
    exact ⟨rfl, by decide⟩)
  exact absurd (congrFun hps 1#5) (by decide)

end RiscvCore.Checker
