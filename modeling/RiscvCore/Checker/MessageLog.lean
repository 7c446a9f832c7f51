import RiscvCore.Dv.CoreScoreboard
import RiscvCore.Foundation.Traces

/-!
# The scoreboard's log

What the messages of a simulation, shown at every verbosity, say about the scoreboard that wrote
them, for every sequence of calls of `write`, with null pointers and unknown opcodes and of any
length. `replay` is what somebody who sees nothing but the log makes of a message.

* `replay_messageLog` — the log is complete: replayed from the initial state it gives the
  scoreboard, with its mirror and its counters.
* `reportPhase_eq` — the verdict is one about the log: the summary prints numbers of messages
  modulo `2 ^ 32`, and the test fails unless `2 ^ 32` divides the number of mismatches.
-/

namespace RiscvCore.Checker

open Rtl Dv Traces

/-! ### The meaning of messages -/

/-- What a message says of the scoreboard. -/
def replay (s : CoreScoreboard) (m : Message) : CoreScoreboard :=
  match m with
  | .mismatch _ _ _ _ =>
      { s with
        completedInstrs := s.completedInstrs + 1#32
        mismatchCount := s.mismatchCount + 1#32 }
  | .matched _ rd val =>
      { s with
        completedInstrs := s.completedInstrs + 1#32
        matchCount := s.matchCount + 1#32
        registerFileMirror := Function.update s.registerFileMirror rd val }
  | .noWb _ _ => { s with completedInstrs := s.completedInstrs + 1#32 }
  | .nullTx | .unhandledOpcode _ | .report _ _ _ | .statusFail => s

/-- `SB_MATCH`. -/
def isMatch : Message → Bool
  | .matched _ _ _ => true
  | _ => false

/-- `SB_MISMATCH`. -/
def isMismatch : Message → Bool
  | .mismatch _ _ _ _ => true
  | _ => false

/-- `SB_NO_WB`. -/
def isNoWb : Message → Bool
  | .noWb _ _ => true
  | _ => false

/-- The messages that end a call of `write` with a transaction. -/
def isOutcome (m : Message) : Bool := isMatch m || isMismatch m || isNoWb m

/-- The scoreboard after a sequence of calls of `write`. -/
def received (txs : List (Option RiscvInstrTx)) : CoreScoreboard :=
  txs.foldl CoreScoreboard.write .build

/-- The messages of these calls. -/
def messageLog (txs : List (Option RiscvInstrTx)) : List Message :=
  log CoreScoreboard.write CoreScoreboard.messages .build txs

/-! ### One call -/

section Call

variable (s : CoreScoreboard)

/-- The messages of a call say what it does: a match prints the actual value, which is the expected
one that the mirror takes. -/
theorem replay_messages (tx : Option RiscvInstrTx) :
    (s.messages tx).foldl replay s = s.write tx := by
  cases tx with
  | none => rfl
  | some tx =>
    have hop : (if Opcode.ofBits tx.opcode = none then [Message.unhandledOpcode tx.opcode]
        else []).foldl replay s = s := by
      split_ifs <;> rfl
    rw [CoreScoreboard.messages, List.foldl_append, hop, CoreScoreboard.write]
    split_ifs with hwb hne
    · rfl
    · rw [← not_ne_iff.mp hne]
      rfl
    · rfl

/-- A call with a transaction has one outcome. -/
theorem countP_isOutcome_messages (tx : Option RiscvInstrTx) :
    (s.messages tx).countP isOutcome = if tx.isSome = true then 1 else 0 := by
  cases tx with
  | none => rfl
  | some tx =>
    have hop : (if Opcode.ofBits tx.opcode = none then [Message.unhandledOpcode tx.opcode]
        else []).countP isOutcome = 0 := by
      split_ifs <;> rfl
    rw [CoreScoreboard.messages, List.countP_append, hop, Option.isSome_some, if_pos rfl]
    split_ifs <;> rfl

end Call

/-! ### The log -/

section Log

variable (txs : List (Option RiscvInstrTx))

/-- Every transaction has its outcome in the log. -/
theorem countP_isOutcome_log (s : CoreScoreboard) :
    (log CoreScoreboard.write CoreScoreboard.messages s txs).countP isOutcome =
      txs.countP Option.isSome := by
  induction txs generalizing s with
  | nil => rfl
  | cons tx txs ih =>
    rw [log, List.countP_append, countP_isOutcome_messages, ih, List.countP_cons, Nat.add_comm]

/-- Each outcome is of one kind. -/
theorem countP_isOutcome (l : List Message) :
    l.countP isOutcome = l.countP isMatch + l.countP isMismatch + l.countP isNoWb := by
  induction l with
  | nil => rfl
  | cons m l ih =>
    rw [List.countP_cons, List.countP_cons, List.countP_cons, List.countP_cons, ih]
    cases m <;> simp [isOutcome, isMatch, isMismatch, isNoWb] <;> omega

end Log

/-! ### Counters -/

section Counters

variable (l : List Message)

theorem completedInstrs_replay :
    (l.foldl replay .build).completedInstrs = BitVec.ofNat 32 (l.countP isOutcome) := by
  rw [counter_foldl (c := CoreScoreboard.completedInstrs) (p := isOutcome)]
  · exact BitVec.zero_add _
  · intro s m
    cases m <;> rfl

theorem matchCount_replay :
    (l.foldl replay .build).matchCount = BitVec.ofNat 32 (l.countP isMatch) := by
  rw [counter_foldl (c := CoreScoreboard.matchCount) (p := isMatch)]
  · exact BitVec.zero_add _
  · intro s m
    cases m <;> rfl

theorem mismatchCount_replay :
    (l.foldl replay .build).mismatchCount = BitVec.ofNat 32 (l.countP isMismatch) := by
  rw [counter_foldl (c := CoreScoreboard.mismatchCount) (p := isMismatch)]
  · exact BitVec.zero_add _
  · intro s m
    cases m <;> rfl

end Counters

/-- What the report phase says after a log `l` of calls with `n` transactions. -/
structure Summarizes (phase : List Message) (l : List Message) (n : ℕ) : Prop where
  /-- The summary, and the verdict. -/
  phase : phase =
    .report (BitVec.ofNat 32 n) (BitVec.ofNat 32 (l.countP isMatch))
        (BitVec.ofNat 32 (l.countP isMismatch)) ::
      if 2 ^ 32 ∣ l.countP isMismatch then [] else [.statusFail]
  /-- Every transaction is accounted for. -/
  total : n = l.countP isMatch + l.countP isMismatch + l.countP isNoWb

/-- **The report is a summary of the log.** -/
theorem reportPhase_eq (txs : List (Option RiscvInstrTx)) :
    Summarizes (received txs).reportPhase (messageLog txs) (txs.countP Option.isSome) := by
  have hlog : (messageLog txs).foldl replay .build = received txs := foldl_log replay_messages _ _
  have hn : (messageLog txs).countP isOutcome = txs.countP Option.isSome :=
    countP_isOutcome_log txs .build
  refine ⟨?_, ?_⟩
  · have hzero : BitVec.ofNat 32 ((messageLog txs).countP isMismatch) ≠ 0#32 ↔
        ¬ 2 ^ 32 ∣ (messageLog txs).countP isMismatch := by
      rw [Ne, BitVec.toNat_inj.symm, BitVec.toNat_ofNat, Nat.dvd_iff_mod_eq_zero]
      rfl
    rw [← hn, CoreScoreboard.reportPhase, ← hlog, completedInstrs_replay, matchCount_replay,
      mismatchCount_replay]
    congr 1
    split_ifs with h1 h2 h2
    · exact absurd h2 (hzero.mp h1)
    · rfl
    · rfl
    · exact absurd (hzero.mpr h2) h1
  · rw [← hn, countP_isOutcome]

end RiscvCore.Checker
