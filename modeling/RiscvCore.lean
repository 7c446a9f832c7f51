import RiscvCore.Foundation.SyncMachine
import RiscvCore.Foundation.Traces
import RiscvCore.Foundation.ByteLanes
import RiscvCore.Foundation.FourState
import RiscvCore.Foundation.Rv32i
import RiscvCore.Foundation.Rv32iFormats
import RiscvCore.Foundation.WritePort
import RiscvCore.Foundation.TimedSystem
import RiscvCore.Rtl.RiscvTypesPkg
import RiscvCore.Rtl.IfStage
import RiscvCore.Rtl.IdStage
import RiscvCore.Rtl.ExStage
import RiscvCore.Rtl.MemWbStage
import RiscvCore.Rtl.CoreTop
import RiscvCore.Dv.RiscvInstrTx
import RiscvCore.Dv.MemMonitor
import RiscvCore.Dv.CoreScoreboard
import RiscvCore.Dv.CoreTb
import RiscvCore.Units.Fetch
import RiscvCore.Units.TargetBuffer
import RiscvCore.Units.Decode
import RiscvCore.Units.RegisterFile
import RiscvCore.Units.Execute
import RiscvCore.Units.LoadStore
import RiscvCore.Pipeline.Run
import RiscvCore.Pipeline.FetchPaths
import RiscvCore.Pipeline.Provenance
import RiscvCore.Pipeline.Forwarding
import RiscvCore.Pipeline.Sequential
import RiscvCore.Pipeline.LoadUse
import RiscvCore.Pipeline.Datapath
import RiscvCore.Pipeline.StraightLine
import RiscvCore.Pipeline.Operands
import RiscvCore.Pipeline.ControlFlow
import RiscvCore.Pipeline.Prediction
import RiscvCore.Pipeline.DataMemory
import RiscvCore.Pipeline.Redirect
import RiscvCore.Pipeline.LiveResults
import RiscvCore.Pipeline.Bubbles
import RiscvCore.Pipeline.Bypass
import RiscvCore.Pipeline.InOrder
import RiscvCore.Pipeline.InOrderRefinement
import RiscvCore.Pipeline.Architecture
import RiscvCore.Pipeline.Schedule
import RiscvCore.Pipeline.Contract
import RiscvCore.Pipeline.Unpredicted
import RiscvCore.Pipeline.FetchHistory
import RiscvCore.Pipeline.Retirement
import RiscvCore.Pipeline.Progress
import RiscvCore.Pipeline.Unread
import RiscvCore.Pipeline.Idle
import RiscvCore.Checker.ReferenceModel
import RiscvCore.Checker.MonitorFields
import RiscvCore.Checker.RegisterTrace
import RiscvCore.Checker.MirrorIndependence
import RiscvCore.Checker.FalseAlarms
import RiscvCore.Checker.DatapathAgreement
import RiscvCore.Checker.GeneratedTransactions
import RiscvCore.Checker.RandomDestinations
import RiscvCore.Checker.RandomPrograms
import RiscvCore.Checker.MessageLog
import RiscvCore.Checker.RetiredTrace
import RiscvCore.Checker.Testbench
