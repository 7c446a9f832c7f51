import RiscvCore.Dv.CoreTb
import RiscvCore.Pipeline.Idle

/-!
# What the testbench tests

Every simulation ends in the build phase: `core_tb` stores its interface as `virtual core_if`, and
the driver looks for a `virtual core_if.driver` (`Untested.stops`).

Nor would a configuration in which the look-ups succeed help. The pins never leave their reset
values, since `drive_transaction` drives none. So the monitor sees no valid instruction, the
scoreboard is never called, and how a simulation ends is the same for every design, every sequence
of items and every number of cycles (`Untested.verdict`). The core itself fetches the word zero all
the while, which it ignores.
-/

namespace RiscvCore.Checker

open Rtl Dv Pipeline

universe u

/-- Nothing has reached the pins or the scoreboard. -/
structure Untouched {σ : Type u} (s : CoreTb σ) : Prop where
  drvCb : s.drvCb = resetSignals
  scoreboard : s.scoreboard = .build

section Pins

variable {σ : Type u} (d : Dut σ)

/-- The monitor collects nothing. -/
theorem Untouched.collectTransaction_eq {s : CoreTb σ} (h : Untouched s) (i : TbIn) :
    collectTransaction (s.monCb d i) = none := by
  refine if_neg ?_
  show ¬ s.drvCb.imemValid = true
  rw [h.drvCb]
  exact Bool.false_ne_true

/-- **No item changes that**, whatever the design does. -/
theorem untouched_inductive : (coreTb d).Inductive (fun _ _ => True) Untouched where
  init := ⟨rfl, rfl⟩
  next s i _ h := by
    refine ⟨?_, ?_⟩
    · show (if _ then _ else _) = _
      split_ifs
      · cases i.req with
        | none => exact h.drvCb
        | some tx => exact h.drvCb
      · exact h.drvCb
    · show (if _ then _ else _) = _
      rw [h.collectTransaction_eq d i]
      split_ifs <;> exact h.scoreboard

theorem untouched_run (i : ℕ → TbIn) (t : ℕ) : Untouched ((coreTb d).run (Machine.stream i) t) :=
  (untouched_inductive d).run (fun _ _ => trivial) t

/-- A simulation that gets past the build phase is a run of the testbench. -/
theorem eq_run_of_simulate {d : Dut σ} {db : ConfigDb} {i : ℕ → TbIn} {t : ℕ} {s : CoreTb σ}
    (h : simulate d db i t = .ok s) : s = (coreTb d).run (Machine.stream i) t := by
  unfold simulate at h
  cases hb : buildPhase db with
  | error e =>
    rw [hb] at h
    cases h
  | ok _ =>
    rw [hb] at h
    exact (Except.ok.inj h).symm

end Pins

/-! ### The core in the testbench -/

/-- The core's run in the testbench: the buses carry zeros. -/
def tbRun (imem : Imem) (i : ℕ → TbIn) : Run := ⟨imem, fun t _ => ⟨(i t).rstN, 0#32, 0#32⟩⟩

theorem dut_run (imem : Imem) (i : ℕ → TbIn) (t : ℕ) :
    ((coreTb (uDut imem)).run (Machine.stream i) t).dut = (tbRun imem i).st t := by
  induction t with
  | zero => rfl
  | succ t ih =>
    have h := (untouched_run (uDut imem) i t).drvCb
    rw [Machine.run_succ, Run.st_succ, ← ih]
    show Core.next _ imem ⟨_, DrvCb.imemRdata _, DrvCb.dmemRdata _⟩ = _
    rw [h]
    rfl

/-- What a simulation of `t` cycles shows. -/
structure Untested (imem : Imem) (i : ℕ → TbIn) (t : ℕ) : Prop where
  /-- As it is set up, it ends before the first cycle. -/
  stops : ∀ (σ : Type u) (d : Dut σ), simulate d coreTbConfig i t =
    .error ⟨"DRV_NO_VIF", "Virtual interface driver modport handle not found"⟩
  /-- However it is set up, every design passes that gets so far, with a summary of nothing. -/
  verdict : ∀ (db : ConfigDb) (σ : Type u) (d : Dut σ),
    (simulate d db i t).map (fun s => s.scoreboard.reportPhase) =
      (buildPhase db).map fun _ => [.report 0#32 0#32 0#32]
  /-- The core has written no register, stores nothing, and has fetched straight ahead. -/
  core : ∀ (db : ConfigDb) (s : CoreTb Core), simulate (uDut imem) db i t = .ok s →
    Dormant (s.dut.shown (i t).rstN) ((tbRun imem i).uptime t)

end RiscvCore.Checker
