import RiscvCore.Foundation.Traces
import RiscvCore.Checker.MonitorFields
import RiscvCore.Pipeline.Run

/-!
# False alarms

The monitor never assigns `pc` and `wb_data`, so both are unknown in every transaction. The
check `wb_data !== expected_data` then fails for an instruction that writes a register
unless `expected_data` is unknown in every bit, and the mirror is advanced by unknown words
only: as long as no mismatch has been counted, the registers that have been written are
unknown in the mirror, and the others are zero. `noFalseAlarm_iff` says which correct runs
pass in this way.
-/

namespace RiscvCore.Checker

open Rtl Dv Logic Traces

/-! ### Correct runs -/

/-- A sample of the bus while an instruction of the program `M` retires in state `s`: its word on
the instruction bus, and its result on the write-back port. -/
structure Shows (M : Data → Data) (ld : Rv32i.LoadOp → Data → Data) (s : Rv32i.Arch) (b : MonCb) :
    Prop where
  valid : b.imemValid = true
  addr : b.imemAddr = s.pc
  rdata : b.imemRdata = M s.pc
  wb : ∀ i d v, Rv32i.decode (M s.pc) = some i → i.result ld s.pc s.regs = some (d, v) → d ≠ 0#5 →
    b.wbRegWe = true ∧ b.wbRegAddr = d ∧ b.wbRegData = v

/-- The architecturally correct runs of the program `M`, as sampled on the bus, one instruction
in each cycle, with the state they lead to. -/
inductive CorrectRun (M : Data → Data) : List MonCb → Rv32i.Arch → Prop where
  /-- Before the first instruction. -/
  | start : CorrectRun M [] .init
  /-- One more instruction. -/
  | retire {bs : List MonCb} {s s' : Rv32i.Arch} {ld : Rv32i.LoadOp → Data → Data} {b : MonCb} :
      CorrectRun M bs s → Rv32i.step M ld s = some s' → Shows M ld s b → CorrectRun M (bs ++ [b]) s'

/-- The sample of an instruction's retirement. -/
def sample (M : Data → Data) (ld : Rv32i.LoadOp → Data → Data) (s : Rv32i.Arch) : MonCb :=
  match (Rv32i.decode (M s.pc)).bind fun i => i.result ld s.pc s.regs with
  | some (d, v) => ⟨s.pc, M s.pc, true, d, v, true⟩
  | none => ⟨s.pc, M s.pc, true, 0#5, 0#32, false⟩

theorem shows_sample (M : Data → Data) (ld : Rv32i.LoadOp → Data → Data) (s : Rv32i.Arch) :
    Shows M ld s (sample M ld s) := by
  rcases hx : (Rv32i.decode (M s.pc)).bind fun i => i.result ld s.pc s.regs with _ | ⟨d, v⟩
  · have hs : sample M ld s = ⟨s.pc, M s.pc, true, 0#5, 0#32, false⟩ := by rw [sample, hx]
    refine hs ▸ ⟨rfl, rfl, rfl, fun i d v hi hr => ?_⟩
    simp [hi, hr] at hx
  · have hs : sample M ld s = ⟨s.pc, M s.pc, true, d, v, true⟩ := by rw [sample, hx]
    refine hs ▸ ⟨rfl, rfl, rfl, fun i e u hi hr _ => ?_⟩
    rw [hi, Option.bind_some, hr] at hx
    obtain ⟨rfl, rfl⟩ := Prod.mk.inj (Option.some.inj hx)
    exact ⟨rfl, rfl, rfl⟩

/-- Any run can be sampled for one more instruction. -/
theorem CorrectRun.sample {M : Data → Data} {bs : List MonCb} {s s' : Rv32i.Arch}
    (h : CorrectRun M bs s) (ld : Rv32i.LoadOp → Data → Data) (hs : Rv32i.step M ld s = some s') :
    CorrectRun M (bs ++ [Checker.sample M ld s]) s' := h.retire hs (shows_sample M ld s)

/-- The samples of the first `n` instructions of a program. -/
def samples (M : Data → Data) (ld : Rv32i.LoadOp → Data → Data) : ℕ → List MonCb
  | 0 => []
  | n + 1 => samples M ld n ++ ((Rv32i.steps M ld n .init).map (sample M ld)).toList

theorem correctRun_samples {M : Data → Data} {ld : Rv32i.LoadOp → Data → Data} {n : ℕ}
    {s : Rv32i.Arch} (h : Rv32i.steps M ld n .init = some s) :
    CorrectRun M (samples M ld n) s := by
  induction n generalizing s with
  | zero =>
    obtain rfl := Option.some.inj h
    exact .start
  | succ n ih =>
    obtain ⟨s', hs', hstep⟩ := Option.bind_eq_some_iff.mp h
    rw [samples, hs']
    exact (ih hs').sample ld hstep

/-- The scoreboard after what the monitor makes of a sample. -/
def observe (s : CoreScoreboard) (b : MonCb) : CoreScoreboard :=
  match collectTransaction b with
  | some tx => s.write (some tx)
  | none => s

/-- **No false alarm**: `mismatch_count` is zero all along the run. -/
def NoFalseAlarm (bs : List MonCb) : Prop :=
  ∀ p, p <+: bs → (p.foldl observe .build).mismatchCount = 0#32

/-! ### What passes -/

/-- The instructions on the bus. -/
def instrs (bs : List MonCb) : List Rv32i.Instr := bs.filterMap fun b => Rv32i.decode b.imemRdata

/-- Register `a`, which is not `x0`, is the destination of one of the instructions. -/
def written (is : List Rv32i.Instr) (a : Address) : Bool :=
  a != 0#5 && is.any fun i => i.dest == some a

/-- Whether an operation is unknown in every bit, if each operand is so or else is zero. -/
def opUnknown : Rv32i.AluOp → Bool → Bool → Bool
  | .slt, _, _ => false
  | .sltu, _, _ => false
  | .and, p, q => p && q
  | _, p, q => p || q

/-- An operation on an unknown word and this immediate is unknown in every bit. -/
def OpImmUnknown : Rv32i.AluOp → Data → Prop
  | .slt, _ => False
  | .sltu, _ => False
  | .and, imm => imm = .allOnes 32
  | .or, imm => imm = 0#32
  | .sll, imm => imm.extractLsb' 0 5 = 0#5
  | .srl, imm => imm.extractLsb' 0 5 = 0#5
  | _, _ => True

/-- What the reference model expects of an instruction is unknown in every bit, with `T` the
registers written before: it takes its value from `pc` or `wb_data`, or computes it from
unknown registers. -/
def ExpectsUnknown (T : Address → Bool) : Rv32i.Instr → Prop
  | .op o _ a b => opUnknown o (T a) (T b) = true
  | .opImm o _ a imm => T a = true ∧ OpImmUnknown o imm
  | .lui _ _ => False
  | _ => True

/-- Every instruction that writes a register other than `x0` is expected to be unknown. -/
def OnlyUnknown (bs : List MonCb) : Prop :=
  AtEach (fun p b => ∀ i d, Rv32i.decode b.imemRdata = some i → i.dest = some d → d ≠ 0#5 →
    ExpectsUnknown (written (instrs p)) i) bs

/-! ### The reference model on unknown registers -/

/-- A register of the mirror: unknown or zero. -/
def cell (p : Bool) : Data4 := if p = true then allX 32 else known 0#32

theorem eval4_allX_known (o : Rv32i.AluOp) (imm : Data) :
    eval4 o (allX 32) (known imm) = allX 32 ↔ OpImmUnknown o imm := by
  cases o with
  | and => exact allX_and_known imm
  | or => exact allX_or_known imm
  | sll =>
    rw [eval4, extract_known]
    exact allX_shiftLeft_known _
  | srl =>
    rw [eval4, extract_known]
    exact allX_shiftRight_known _
  | slt | sltu =>
    rw [eval4, compare_allX_left, flag, mux_none_known]
    exact iff_of_false (by decide) id
  | add | sub | xor | sra => simp [eval4, OpImmUnknown]

theorem eval4_cell_known (o : Rv32i.AluOp) (p : Bool) (imm : Data) :
    eval4 o (cell p) (known imm) = allX 32 ↔ p = true ∧ OpImmUnknown o imm := by
  cases p with
  | false =>
    show eval4 o (known 0#32) (known imm) = allX 32 ↔ _
    rw [eval4_known]
    simp
  | true =>
    show eval4 o (allX 32) (known imm) = allX 32 ↔ _
    rw [eval4_allX_known]
    simp

theorem eval4_cell (o : Rv32i.AluOp) (p q : Bool) :
    eval4 o (cell p) (cell q) = allX 32 ↔ opUnknown o p q = true := by
  cases q with
  | false =>
    show eval4 o (cell p) (known 0#32) = allX 32 ↔ _
    rw [eval4_cell_known]
    cases o <;> simp [OpImmUnknown, opUnknown]
  | true =>
    show eval4 o (cell p) (allX 32) = allX 32 ↔ _
    cases o with
    | and =>
      rw [eval4, and_allX]
      cases p <;> simp [cell, known, allX, opUnknown]
    | or =>
      rw [eval4, or_allX]
      cases p <;> simp [cell, known, allX, opUnknown]
    | slt | sltu =>
      rw [eval4, compare_allX_right, flag, mux_none_known]
      exact iff_of_false (by decide) Bool.false_ne_true
    | add | sub | sll | xor | srl | sra => simp [eval4, opUnknown]

/-- The expected value is unknown exactly where `ExpectsUnknown` says. -/
theorem eq_allX_iff_of_expected {T : Address → Bool} {i : Rv32i.Instr} {d : Address} {v : Data4}
    (h : expected (fun a => cell (T a)) (allX 32) (allX 32) i = some (d, v)) :
    v = allX 32 ↔ ExpectsUnknown T i := by
  cases i with
  | op o e a b =>
    obtain ⟨rfl, rfl⟩ := Prod.mk.inj (Option.some.inj h)
    exact eval4_cell o _ _
  | opImm o e a imm =>
    obtain ⟨rfl, rfl⟩ := Prod.mk.inj (Option.some.inj h)
    exact eval4_cell_known o _ _
  | lui e imm =>
    obtain ⟨rfl, rfl⟩ := Prod.mk.inj (Option.some.inj h)
    exact iff_of_false (known_ne_allX imm) id
  | load _ _ _ _ | auipc _ _ | jal _ _ | jalr _ _ _ =>
    obtain ⟨rfl, rfl⟩ := Prod.mk.inj (Option.some.inj h)
    exact iff_of_true (by simp) trivial
  | store _ _ _ _ | branch _ _ _ _ => cases h

theorem written_concat (is : List Rv32i.Instr) (i : Rv32i.Instr) (a : Address) :
    written (is ++ [i]) a = (written is a || (a != 0#5 && i.dest == some a)) := by
  simp [written, Bool.and_or_distrib_left]

/-- Advancing by an unknown word makes one more register unknown, unless it is `x0`. -/
theorem advance_cell (T : Address → Bool) {d : Address} {v : Data4} (hv : d ≠ 0#5 → v = allX 32) :
    advance (fun a => cell (T a)) (some (d, v)) =
      fun a => cell (T a || (a != 0#5 && d == a)) := by
  funext a
  simp only [advance]
  split_ifs with h0
  · subst h0
    by_cases ha : a = 0#5
    · simp [ha]
    · simp [beq_eq_false_iff_ne.mpr (Ne.symm ha)]
  · rw [hv h0]
    by_cases ha : a = d
    · subst ha
      simp [h0, cell]
    · simp [ha, beq_eq_false_iff_ne.mpr (Ne.symm ha)]

/-! ### One sample -/

section Step

variable {is : List Rv32i.Instr} {s : CoreScoreboard} {w : Data} {i : Rv32i.Instr}
  (hi : Rv32i.decode w = some i) (hs : s.registerFileMirror = fun a => cell (written is a))
include hi hs

/-- The check passes exactly when nothing or an unknown value is expected. -/
theorem not_mismatch_iff_expectsUnknown : ¬ s.Mismatch (decoded w) ↔
    ∀ d, i.dest = some d → d ≠ 0#5 → ExpectsUnknown (written is) i := by
  rw [mismatch_iff (instr_decoded hi) rfl, expected_observed, hs]
  constructor
  · intro hn d hd h0
    obtain ⟨v, he⟩ := (dest_eq_some_iff (fun a => cell (written is a)) _ _).mp hd
    refine (eq_allX_iff_of_expected he).mp ?_
    by_contra hne
    exact hn ⟨d, v, he, h0, Ne.symm hne⟩
  · rintro h ⟨d, v, he, h0, hne⟩
    have hd : i.dest = some d := (dest_eq_some_iff _ _ _).mpr ⟨v, he⟩
    exact hne ((eq_allX_iff_of_expected he).mpr (h d hd h0)).symm

/-- A passed check makes the destination unknown in the mirror. -/
theorem mirror_write_of_unknown (hm : ¬ s.Mismatch (decoded w)) :
    (s.write (some (decoded w))).registerFileMirror = fun a => cell (written (is ++ [i]) a) := by
  have hx := (not_mismatch_iff_expectsUnknown hi hs).mp hm
  rw [mirror_write (instr_decoded hi) rfl hm, expected_observed, hs]
  show advance (fun a => cell (written is a))
    (expected (fun a => cell (written is a)) (allX 32) (allX 32) i) = _
  cases he : expected (fun a => cell (written is a)) (allX 32) (allX 32) i with
  | none =>
    have hd : i.dest = none := by
      rw [← expected_map_fst, he]
      rfl
    funext a
    simp [advance, written_concat, hd]
  | some x =>
    have hd : i.dest = some x.1 := (dest_eq_some_iff _ _ _).mpr ⟨x.2, he⟩
    rw [advance_cell _ fun h0 => (eq_allX_iff_of_expected he).mpr (hx x.1 hd h0)]
    funext a
    rw [written_concat, hd]
    rfl

end Step

/-! ### Runs -/

/-- A valid sample whose word is an instruction. -/
def ShowsInstr (b : MonCb) : Prop := b.imemValid = true ∧ (Rv32i.decode b.imemRdata).isSome = true

theorem CorrectRun.showsInstr {M : Data → Data} {bs : List MonCb} {s : Rv32i.Arch}
    (h : CorrectRun M bs s) : ∀ b ∈ bs, ShowsInstr b := by
  induction h with
  | start => simp
  | retire _ hstep hb ih =>
    intro b hmem
    rcases List.mem_append.mp hmem with hmem | hmem
    · exact ih b hmem
    · obtain rfl := List.mem_singleton.mp hmem
      refine ⟨hb.valid, ?_⟩
      rw [hb.rdata]
      obtain ⟨i, hi, -⟩ := Option.map_eq_some_iff.mp hstep
      rw [hi]
      rfl

theorem observe_of_valid {b : MonCb} (h : b.imemValid = true) (s : CoreScoreboard) :
    observe s b = s.write (some (decoded b.imemRdata)) := by
  rw [observe, collectTransaction, if_pos h]

theorem observe_of_not_valid {b : MonCb} (h : ¬ b.imemValid = true) (s : CoreScoreboard) :
    observe s b = s := by
  rw [observe, collectTransaction, if_neg h]

/-- A sample is counted as a mismatch. -/
def Counted (p : List MonCb) (b : MonCb) : Prop :=
  b.imemValid = true ∧ (p.foldl observe .build).Mismatch (decoded b.imemRdata)

/-- No false alarm means that no sample is counted. -/
theorem noFalseAlarm_iff_not_counted (bs : List MonCb) :
    NoFalseAlarm bs ↔ AtEach (fun p b => ¬ Counted p b) bs := by
  refine counter_eq_zero_forall_iff (f := observe) (c := CoreScoreboard.mismatchCount)
    (B := fun s b => b.imemValid = true ∧ s.Mismatch (decoded b.imemRdata)) (s := .build) rfl
    (fun s b hb => ?_) (fun s b hb => ?_) (by decide) bs
  · rw [observe_of_valid hb.1]
    exact mismatchCount_write_of_mismatch hb.2
  · by_cases hv : b.imemValid = true
    · rw [observe_of_valid hv]
      exact mismatchCount_write_of_not_mismatch fun hm => hb ⟨hv, hm⟩
    · rw [observe_of_not_valid hv]

/-- The mirror after the samples `p` while nothing has been counted. -/
def Unknowns (p : List MonCb) : Prop :=
  (p.foldl observe .build).registerFileMirror = fun a => cell (written (instrs p) a)

theorem unknowns_nil : Unknowns [] := by
  funext a
  simp [CoreScoreboard.build, instrs, written, cell]

/-- **The step**: a sample that is not counted keeps the invariant, and it is not counted exactly
when it is expected to be unknown. -/
theorem not_counted_iff {p : List MonCb} {b : MonCb} (hb : ShowsInstr b) (hs : Unknowns p) :
    (¬ Counted p b ↔ ∀ i d, Rv32i.decode b.imemRdata = some i → i.dest = some d → d ≠ 0#5 →
      ExpectsUnknown (written (instrs p)) i) ∧ (¬ Counted p b → Unknowns (p ++ [b])) := by
  obtain ⟨hv, hsome⟩ := hb
  obtain ⟨i, hi⟩ := Option.isSome_iff_exists.mp hsome
  rw [Counted, and_iff_right hv]
  constructor
  · rw [not_mismatch_iff_expectsUnknown hi hs]
    constructor
    · intro hu j d hj hd h0
      obtain rfl := Option.some.inj (hi.symm.trans hj)
      exact hu d hd h0
    · exact fun hu d => hu i d hi
  · intro hm
    have hinstrs : instrs (p ++ [b]) = instrs p ++ [i] := by simp [instrs, hi]
    rw [Unknowns, List.foldl_append, hinstrs]
    show (observe (p.foldl observe .build) b).registerFileMirror = _
    rw [observe_of_valid hv]
    exact mirror_write_of_unknown hi hs hm

/-- **There is no false alarm in exactly the runs that write registers with expected unknowns
only.** -/
theorem noFalseAlarm_iff {M : Data → Data} {bs : List MonCb} {s : Rv32i.Arch}
    (h : CorrectRun M bs s) : NoFalseAlarm bs ↔ OnlyUnknown bs := by
  have hiff := (atEach_iff_of_invariant unknowns_nil (fun _ _ hb hs => not_counted_iff hb hs)
    h.showsInstr).1
  exact (noFalseAlarm_iff_not_counted bs).trans hiff

/-- `lw x1, 0(x0); addi x2, x1, 5; jal x3, 8; nop; add x4, x2, x1`. -/
def loadAddJump : List Data :=
  [0x00002083#32, 0x00508113#32, 0x008001EF#32, instrNop, 0x00110233#32]

/-- The load, the addition behind it, the jump and the addition at its target. -/
def loadAddJumpSamples : List MonCb := samples (Pipeline.image loadAddJump) (fun _ _ => 7#32) 4

/-- None of them raises an alarm. -/
theorem noFalseAlarm_iff_loadAddJump :
    (NoFalseAlarm loadAddJumpSamples ↔ OnlyUnknown loadAddJumpSamples) ∧
      NoFalseAlarm loadAddJumpSamples := by
  have hsteps :
      (Rv32i.steps (Pipeline.image loadAddJump) (fun _ _ => 7#32) 4 .init).isSome = true := by
    decide +kernel
  obtain ⟨s, hs⟩ := Option.isSome_iff_exists.mp hsteps
  have hinits : ∀ p ∈ loadAddJumpSamples.inits,
      (p.foldl observe .build).mismatchCount = 0#32 := by
    decide +kernel
  exact ⟨noFalseAlarm_iff (correctRun_samples hs), fun p hp =>
    hinits p ((List.mem_inits _ _).mpr hp)⟩

/-- The first instruction of a program, sampled from reset, with zero for loaded data. -/
def firstSample (p : List Data) : List MonCb :=
  [sample (Pipeline.image p) (fun _ _ => 0#32) .init]

/-- `addi x1, x0, 5`. -/
def addiFive : List Data := [0x00500093#32]

/-- Five is expected, and `wb_data` is unknown. -/
theorem not_noFalseAlarm_addiFive :
    (∃ s, CorrectRun (Pipeline.image addiFive) (firstSample addiFive) s) ∧
      ¬ NoFalseAlarm (firstSample addiFive) := by
  refine ⟨⟨_, CorrectRun.start.sample (fun _ _ => 0#32) rfl⟩, fun h => ?_⟩
  have h1 := h (firstSample addiFive) (List.prefix_refl _)
  revert h1
  decide +kernel

end RiscvCore.Checker
