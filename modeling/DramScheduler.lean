import DramScheduler.Main
import DramScheduler.Workload
import DramScheduler.Proofs.Address
import DramScheduler.Proofs.RoundRobin
import DramScheduler.Proofs.Run
import DramScheduler.Proofs.Config.Acceptance
import DramScheduler.Proofs.Config.Derived
import DramScheduler.Proofs.Memory.OpenRows
import DramScheduler.Proofs.Memory.Trace
import DramScheduler.Proofs.Timing.DelayLine
import DramScheduler.Proofs.Timing.Gate
import DramScheduler.Proofs.Timing.History
import DramScheduler.Proofs.Timing.Monitors
import DramScheduler.Proofs.Timing.Window
import DramScheduler.Proofs.Bank.Commands
import DramScheduler.Proofs.Bank.Expansion
import DramScheduler.Proofs.Bank.Guards
import DramScheduler.Proofs.Bank.Handshake
import DramScheduler.Proofs.Bank.Parking
import DramScheduler.Proofs.Bank.Representation
import DramScheduler.Proofs.Bank.Run
import DramScheduler.Proofs.Bus.Agreement
import DramScheduler.Proofs.Bus.Budgets
import DramScheduler.Proofs.Bus.Closing
import DramScheduler.Proofs.Bus.Guards
import DramScheduler.Proofs.Bus.Issue
import DramScheduler.Proofs.Bus.Moves
import DramScheduler.Proofs.Bus.Periods
import DramScheduler.Proofs.Bus.Permits
import DramScheduler.Proofs.Bus.Schedule
import DramScheduler.Proofs.Bus.Wires
import DramScheduler.Proofs.Refresh.Completion
import DramScheduler.Proofs.Refresh.Course
import DramScheduler.Proofs.Refresh.Interval
import DramScheduler.Proofs.Refresh.Measure
import DramScheduler.Proofs.Refresh.Offsets
import DramScheduler.Proofs.Refresh.Round
import DramScheduler.Proofs.Refresh.Sequence
import DramScheduler.Proofs.Refresh.Timeline
import DramScheduler.Proofs.Controller.BankTiming
import DramScheduler.Proofs.Controller.BusTiming
import DramScheduler.Proofs.Controller.Cycle
import DramScheduler.Proofs.Controller.Exclusion
import DramScheduler.Proofs.Controller.Handover
import DramScheduler.Proofs.Controller.HandoverTime
import DramScheduler.Proofs.Controller.Reconciliation
import DramScheduler.Proofs.Controller.RefreshPace
import DramScheduler.Proofs.Controller.RefreshTiming
import DramScheduler.Proofs.Controller.Representation
import DramScheduler.Proofs.Controller.RowSafety
import DramScheduler.Proofs.Controller.Schedule
import DramScheduler.Proofs.Controller.Service
import DramScheduler.Proofs.Controller.Turnaround
import DramScheduler.Proofs.Controller.Wires
import DramScheduler.Proofs.Statistics.Counts
import DramScheduler.Proofs.Crossbar.Bypass
import DramScheduler.Proofs.Crossbar.Conversion
import DramScheduler.Proofs.Crossbar.Grants
import DramScheduler.Proofs.Crossbar.Ledger
import DramScheduler.Proofs.Crossbar.Routing
import DramScheduler.Proofs.Crossbar.Strobes
import DramScheduler.Proofs.MemorySystem.Cycle
import DramScheduler.Proofs.MemorySystem.DataBuses
import DramScheduler.Proofs.MemorySystem.Masters
import DramScheduler.Proofs.MemorySystem.ServiceLog
import DramScheduler.Proofs.MemorySystem.Strobes
import DramScheduler.Proofs.Checked.Arithmetic
import DramScheduler.Proofs.Checked.Address
import DramScheduler.Proofs.Checked.Arbiter
import DramScheduler.Proofs.Checked.Bank
import DramScheduler.Proofs.Checked.Bus
import DramScheduler.Proofs.Checked.Refresher
import DramScheduler.Proofs.Checked.Controller
import DramScheduler.Proofs.Checked.Crossbar
import DramScheduler.Proofs.Checked.MemorySystem
import DramScheduler.Proofs.Checked.Traffic
import DramScheduler.Proofs.Traffic.Addresses
import DramScheduler.Proofs.Traffic.Chance
