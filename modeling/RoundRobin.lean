import RoundRobin.Halt
import RoundRobin.Checked
import RoundRobin.OsError
import RoundRobin.Error
import RoundRobin.ReadyQueue
import RoundRobin.Stack
import RoundRobin.Config
import RoundRobin.Thread
import RoundRobin.Scheduler.Basic
import RoundRobin.Scheduler.Operation
import RoundRobin.Preemption.Gate
import RoundRobin.Preemption.ManualTimer
import RoundRobin.Preemption.Signal
import RoundRobin.Context.Memory
import RoundRobin.Context.Cpu
import RoundRobin.Context.Coroutine
import RoundRobin.Event
import RoundRobin.Host.Basic
import RoundRobin.Host.Call
import RoundRobin.Machine.Program
import RoundRobin.Machine.Basic
import RoundRobin.Text.Blank
import RoundRobin.Text.Alphabetic
import RoundRobin.Text.Numeric
import RoundRobin.Text.Alphanumeric
import RoundRobin.Text.Terminal
import RoundRobin.Text.Number
import RoundRobin.Text.Pattern.Escape
import RoundRobin.Text.Pattern.Class
import RoundRobin.Text.Pattern.Basic
import RoundRobin.Demo.Arguments
import RoundRobin.Demo.LogFilter
import RoundRobin.Demo.Workers
import RoundRobin.Demo.Command
import RoundRobin.Main
import RoundRobin.Proofs.Checked
import RoundRobin.Proofs.Pages
import RoundRobin.Proofs.Stack
import RoundRobin.Proofs.ReadyQueue
import RoundRobin.Proofs.Scheduler.Decision
import RoundRobin.Proofs.Scheduler.Expiry
import RoundRobin.Proofs.Scheduler.Check
import RoundRobin.Proofs.Scheduler.Coherence
import RoundRobin.Proofs.Scheduler.Effect
import RoundRobin.Proofs.Scheduler.Discipline
import RoundRobin.Proofs.Scheduler.Conditions
import RoundRobin.Proofs.Scheduler.Waiting
import RoundRobin.Proofs.Scheduler.Sleep
import RoundRobin.Proofs.Scheduler.Careless
import RoundRobin.Proofs.Scheduler.Teardown
import RoundRobin.Proofs.Scheduler.Commuting
import RoundRobin.Proofs.Scheduler.Accounting
import RoundRobin.Proofs.Scheduler.Correspondence
import RoundRobin.Proofs.Scheduler.Outline
import RoundRobin.Proofs.Scheduler.Residents
import RoundRobin.Proofs.Preemption.Nesting
import RoundRobin.Proofs.Preemption.Signal
import RoundRobin.Proofs.Host.Requests
import RoundRobin.Proofs.Host.Owner
import RoundRobin.Proofs.Machine.Control
import RoundRobin.Proofs.Machine.Solo
import RoundRobin.Proofs.Host.Install
import RoundRobin.Proofs.Machine.Transition
import RoundRobin.Proofs.Scheduler.Dispatch
import RoundRobin.Proofs.Machine.Phases
import RoundRobin.Proofs.Host.Ledger
import RoundRobin.Proofs.Machine.Ledger
import RoundRobin.Proofs.Machine.Sizing
import RoundRobin.Proofs.Machine.Acts
import RoundRobin.Proofs.Machine.StartingOver
import RoundRobin.Proofs.Machine.Following
import RoundRobin.Proofs.Machine.Chronicle
import RoundRobin.Proofs.Machine.Fidelity
import RoundRobin.Proofs.Machine.Strides
import RoundRobin.Proofs.Machine.Sections
import RoundRobin.Proofs.Machine.Masking
import RoundRobin.Proofs.Machine.Stages
import RoundRobin.Proofs.Machine.Shutdown
import RoundRobin.Proofs.Machine.Asking
import RoundRobin.Proofs.Machine.Private
import RoundRobin.Proofs.Machine.Quanta
import RoundRobin.Proofs.Machine.Custody
import RoundRobin.Proofs.Context.Frame
import RoundRobin.Proofs.ReadyQueue.Sequences
import RoundRobin.Proofs.Context.Isolation
import RoundRobin.Proofs.Context.Reach
import RoundRobin.Proofs.Preemption.Deliveries
import RoundRobin.Proofs.Host.Foreign
import RoundRobin.Proofs.Scheduler.ClosedForm
import RoundRobin.Proofs.Scheduler.Rotation
import RoundRobin.Proofs.Scheduler.Refusals
import RoundRobin.Proofs.Scheduler.Allocation
import RoundRobin.Proofs.Machine.Refusals
import RoundRobin.Proofs.Scheduler.Reuse
import RoundRobin.Proofs.Scheduler.Certificate
import RoundRobin.Proofs.Machine.Serving
