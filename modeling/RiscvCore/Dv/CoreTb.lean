import RiscvCore.Dv.CoreScoreboard
import RiscvCore.Dv.MemMonitor
import RiscvCore.Foundation.SyncMachine
import RiscvCore.Rtl.CoreTop

/-!
# The driver and the testbench

`dv/env/memory_agent/mem_driver.sv` and what `dv/core_tb.sv` and `dv/env/core_env.sv` connect: the
driver on the pins of a design under test, the monitor on the same pins, and behind it the
scoreboard.

A simulation has two parts. In `build_phase` the driver and the monitor look up their handles of
the interface, and a look-up that fails is fatal. From there on the testbench is a machine whose
edges are those of the clock, from the first one on, at which the driver's reset values reach the
pins. Nothing drives `wb_reg_addr`, `wb_reg_data` and `wb_reg_we`, so these are inputs.
-/

namespace RiscvCore.Dv

open Rtl

universe u

/-! ### The build phase -/

/-- The types of the handles of `core_if` that are set or looked up. -/
inductive VifType where
  /-- `virtual core_if`. -/
  | coreIf
  /-- `virtual core_if.driver`. -/
  | driver
  /-- `virtual core_if.monitor`. -/
  | monitor
  deriving DecidableEq

/-- `uvm_config_db`, as far as the field `"vif"` goes: under which types there is a handle for
every component. A look-up finds what was set under the same type only. -/
abbrev ConfigDb := VifType → Bool

/-- `set`, for all components `"*"`. -/
def ConfigDb.set (db : ConfigDb) (T : VifType) : ConfigDb := Function.update db T true

/-- What `core_tb` sets before it calls `run_test`. -/
def coreTbConfig : ConfigDb := .set (fun _ => false) .coreIf

/-- A message of `uvm_fatal`, which ends the simulation. -/
structure UvmFatal where
  id : String
  message : String
  deriving DecidableEq

/-- `build_phase` of `mem_driver`. -/
def MemDriver.buildPhase (db : ConfigDb) : Except UvmFatal Unit :=
  if db .driver = true then .ok ()
  else .error ⟨"DRV_NO_VIF", "Virtual interface driver modport handle not found"⟩

/-- `build_phase` of `mem_monitor`. -/
def MemMonitor.buildPhase (fullName : String) (db : ConfigDb) : Except UvmFatal Unit :=
  if db .monitor = true then .ok ()
  else .error ⟨"NOVIF", "Virtual interface modport must be set for: " ++ fullName ++ ".vif"⟩

/-- The `build_phase` of all components. It is run top down, and on children by their names:
that of the driver comes before that of the monitor. -/
def buildPhase (db : ConfigDb) : Except UvmFatal Unit := do
  MemDriver.buildPhase db
  MemMonitor.buildPhase "uvm_test_top.env.agent.monitor" db

/-! ### The pins -/

/-- The pins that `drv_cb` drives. -/
structure DrvCb where
  imemRdata : Data
  imemValid : Bool
  dmemRdata : Data
  dmemValid : Bool
  deriving DecidableEq

/-- `reset_signals`. -/
def resetSignals : DrvCb := ⟨0#32, false, 0#32, false⟩

/-- `drive_transaction`: after the edge that it waits for, its body is comments. -/
def driveTransaction (_tx : RiscvInstrTx) (cb : DrvCb) : DrvCb := cb

/-- A design under test. -/
structure Dut (σ : Type u) extends Machine σ CoreIn where
  /-- `instr_addr_o`, given `rst_ni` and the state. -/
  instrAddr : Bool → σ → Data

/-- `u_dut`. -/
def uDut (imem : Imem) : Dut Core := ⟨coreTop imem, fun rstN c => (c.shown rstN).instrAddr⟩

/-- The state of the testbench. -/
structure CoreTb (σ : Type u) where
  dut : σ
  /-- The driver and the monitor have seen the end of reset. -/
  released : Bool
  drvCb : DrvCb
  scoreboard : CoreScoreboard

/-- What comes from outside in a cycle. -/
structure TbIn where
  rstN : Bool
  /-- The item that the driver gets from the sequencer, if there is one. -/
  req : Option RiscvInstrTx
  wbRegAddr : Address
  wbRegData : Data
  wbRegWe : Bool

section Testbench

variable {σ : Type u} (d : Dut σ)

/-- What `mon_cb` samples. -/
def CoreTb.monCb (i : TbIn) (s : CoreTb σ) : MonCb where
  imemAddr := d.instrAddr i.rstN s.dut
  imemRdata := s.drvCb.imemRdata
  imemValid := s.drvCb.imemValid
  wbRegAddr := i.wbRegAddr
  wbRegData := i.wbRegData
  wbRegWe := i.wbRegWe

/-- A clock edge: the run phases of the driver and of the monitor go round once, unless they
still wait for the end of reset. -/
def CoreTb.next (i : TbIn) (s : CoreTb σ) : CoreTb σ where
  dut := d.next ⟨i.rstN, s.drvCb.imemRdata, s.drvCb.dmemRdata⟩ s.dut
  released := s.released || i.rstN
  drvCb :=
    if (s.released || i.rstN) = true then
      match i.req with
      | none => s.drvCb
      | some tx => driveTransaction tx s.drvCb
    else s.drvCb
  scoreboard :=
    if (s.released || i.rstN) = true then
      match collectTransaction (s.monCb d i) with
      | none => s.scoreboard
      | some tx => s.scoreboard.write (some tx)
    else s.scoreboard

/-- `core_tb` after `build_phase`, with a design under test. -/
def coreTb : Machine (CoreTb σ) TbIn where
  init := ⟨d.init, false, resetSignals, .build⟩
  next := CoreTb.next d

/-- A simulation: the fatal that ends it in `build_phase`, or the testbench after `t` cycles. -/
def simulate (db : ConfigDb) (i : ℕ → TbIn) (t : ℕ) : Except UvmFatal (CoreTb σ) :=
  (buildPhase db).map fun _ => (coreTb d).run (Machine.stream i) t

end Testbench

end RiscvCore.Dv
