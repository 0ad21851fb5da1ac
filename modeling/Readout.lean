import Readout.Attempt
import Readout.Card
import Readout.Channel.Access
import Readout.Channel.Config
import Readout.Channel.Lifecycle
import Readout.Channel.Loopback
import Readout.Channel.Recorder
import Readout.Channel.Session
import Readout.Channel.Transport
import Readout.Dma.Buffer
import Readout.Dma.Error
import Readout.Dma.Flow
import Readout.Dma.Page
import Readout.Dma.Ring
import Readout.Dma.Superpage
import Readout.Dma.Tracker
import Readout.Error
import Readout.Lock.Basic
import Readout.Lock.Errno
import Readout.Lock.Error
import Readout.Lock.Host
import Readout.Lock.Name
import Readout.Log
import Readout.Memory
import Readout.Proofs.Attempt
import Readout.Proofs.Dma.Bookkeeping
import Readout.Proofs.Dma.Counters
import Readout.Proofs.Dma.Fits
import Readout.Proofs.Dma.Flow
import Readout.Proofs.Dma.Identity
import Readout.Proofs.Dma.InStep
import Readout.Proofs.Dma.Live
import Readout.Proofs.Dma.Outcome
import Readout.Proofs.Dma.Plan
import Readout.Proofs.Dma.Progress
import Readout.Proofs.Dma.Transfer
import Readout.Proofs.Dma.Whole
import Readout.Proofs.Lock.Acquisition
import Readout.Proofs.Lock.Bindable
import Readout.Proofs.Lock.Collision
import Readout.Proofs.Lock.Exclusive
import Readout.Proofs.Lock.Hash
import Readout.Proofs.Lock.Holdings
import Readout.Proofs.Lock.Kernel
import Readout.Proofs.Lock.Moves
import Readout.Proofs.Lock.Naming
import Readout.Proofs.Lock.Retry
import Readout.Proofs.Lock.Scene
import Readout.Proofs.Register.Bits
import Readout.Proofs.Register.Plain
import Readout.Proofs.Register.Words
import Readout.Proofs.Sca.Block
import Readout.Proofs.Sca.Followed
import Readout.Proofs.Sca.Likeness
import Readout.Proofs.Sca.Reply
import Readout.Proofs.Sca.Sequence
import Readout.Proofs.Sca.Steps
import Readout.Proofs.Sca.Strobe
import Readout.Proofs.Sca.Turns
import Readout.Proofs.Sca.Waiting
import Readout.Proofs.Sca.Writes
import Readout.Proofs.Session.Accounting
import Readout.Proofs.Session.Admission
import Readout.Proofs.Session.Balance
import Readout.Proofs.Session.Bounds
import Readout.Proofs.Session.Calls
import Readout.Proofs.Session.Collection
import Readout.Proofs.Session.Course
import Readout.Proofs.Session.Coverage
import Readout.Proofs.Session.Delivery
import Readout.Proofs.Session.Drain
import Readout.Proofs.Session.Echo
import Readout.Proofs.Session.Ending
import Readout.Proofs.Session.Faults
import Readout.Proofs.Session.InStep
import Readout.Proofs.Session.Kept
import Readout.Proofs.Session.Likeness
import Readout.Proofs.Session.Moment
import Readout.Proofs.Session.Operation
import Readout.Proofs.Session.Order
import Readout.Proofs.Session.Progress
import Readout.Proofs.Session.Protocol
import Readout.Proofs.Session.Queues
import Readout.Proofs.Session.Reached
import Readout.Proofs.Session.Received
import Readout.Proofs.Session.Recorded
import Readout.Proofs.Session.Renewal
import Readout.Proofs.Session.Restart
import Readout.Proofs.Session.Rounds
import Readout.Proofs.Session.Safety
import Readout.Proofs.Session.Step
import Readout.Proofs.Session.Teardown
import Readout.Proofs.Time.Polling
import Readout.Proofs.Time.Settled
import Readout.Register.Blank
import Readout.Register.Error
import Readout.Register.Field
import Readout.Register.Lent
import Readout.Register.Mapped
import Readout.Register.Port
import Readout.Register.Traced
import Readout.Sca.Bus
import Readout.Sca.Engine
import Readout.Sca.Error
import Readout.Sca.Flags
import Readout.Sca.Gpio
import Readout.Sca.Layout
import Readout.Sca.Word
import Readout.Simulation.Devices
import Readout.Simulation.LockTable
import Readout.Simulation.Relay
import Readout.Simulation.ScriptedPort
import Readout.Simulation.ScriptedTransport
import Readout.Simulation.Station
import Readout.Text.Hex
import Readout.Text.Invisible
import Readout.Text.Quoted
import Readout.Time.Clock
import Readout.Time.Deadline
import Readout.Time.Delay
import Readout.Time.Duration
