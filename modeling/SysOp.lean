import SysOp.Foundation.BoundedQueue
import SysOp.Foundation.Cursor
import SysOp.Foundation.Descriptors
import SysOp.Foundation.Inevitable
import SysOp.Foundation.LeftSum
import SysOp.Foundation.Machine
import SysOp.Foundation.Mailbox
import SysOp.Foundation.Mutex
import SysOp.Foundation.Names
import SysOp.Foundation.Numeral
import SysOp.Foundation.Population
import SysOp.Foundation.Positional
import SysOp.Foundation.Projection
import SysOp.Foundation.Ring
import SysOp.Foundation.RunningSum
import SysOp.Foundation.Signals
import SysOp.Foundation.Stream
import SysOp.Foundation.Text
import SysOp.Lab1.Zad1.Fork
import SysOp.Lab1.Zad1.Moves
import SysOp.Lab1.Zad1.Output
import SysOp.Lab1.Zad1.System
import SysOp.Lab1.Zad1.Vfork
import SysOp.Lab1.Zad2.Failure
import SysOp.Lab1.Zad2.Family
import SysOp.Lab1.Zad2.Moves
import SysOp.Lab1.Zad2.Progress
import SysOp.Lab1.Zad2.System
import SysOp.Lab1.Zad3.Blocks
import SysOp.Lab1.Zad3.Moves
import SysOp.Lab1.Zad3.Output
import SysOp.Lab1.Zad3.System
import SysOp.Lab2.Counting
import SysOp.Lab2.Family
import SysOp.Lab2.Fates
import SysOp.Lab2.Moves
import SysOp.Lab2.Process
import SysOp.Lab2.Progress
import SysOp.Lab2.Race
import SysOp.Lab2.Runs
import SysOp.Lab2.Setup
import SysOp.Lab2.Undisturbed
import SysOp.Lab2.Waiting
import SysOp.Lab2.Zad1
import SysOp.Lab2.Zad2
import SysOp.Lab2.Zad3
import SysOp.Lab3.Answers
import SysOp.Lab3.Integrator
import SysOp.Lab3.Interrupts
import SysOp.Lab3.Moves
import SysOp.Lab3.Origin
import SysOp.Lab3.Service
import SysOp.Lab3.Termination
import SysOp.Lab3.Turns
import SysOp.Lab3.Zad1.Collection
import SysOp.Lab3.Zad1.Lines
import SysOp.Lab3.Zad1.Moves
import SysOp.Lab3.Zad1.Ownership
import SysOp.Lab3.Zad1.Printing
import SysOp.Lab3.Zad1.Rounds
import SysOp.Lab3.Zad1.Slices
import SysOp.Lab3.Zad1.System
import SysOp.Lab4.Broadcast
import SysOp.Lab4.Chat
import SysOp.Lab4.Delivery
import SysOp.Lab4.Departure
import SysOp.Lab4.Input
import SysOp.Lab4.Instances
import SysOp.Lab4.Message
import SysOp.Lab4.Moves
import SysOp.Lab4.Refusal
import SysOp.Lab4.Registration
import SysOp.Lab4.Restarts
import SysOp.Lab4.Server
import SysOp.Lab4.Settling
import SysOp.Lab4.Speech
import SysOp.Lab4.Succession
import SysOp.Lab5.Accounting
import SysOp.Lab5.Cleaning
import SysOp.Lab5.Exclusion
import SysOp.Lab5.Protocol
import SysOp.Lab5.Quiescence
import SysOp.Lab5.Refinement
import SysOp.Lab5.Sections
import SysOp.Lab5.Sharing
import SysOp.Lab5.Signals
import SysOp.Lab5.Startup
import SysOp.Lab5.Store
import SysOp.Lab5.Task
import SysOp.Lab5.Zad1
import SysOp.Lab5.Zad3.Aging
import SysOp.Lab5.Zad3.Correctness
import SysOp.Lab5.Zad3.History
import SysOp.Lab5.Zad3.Memory
import SysOp.Lab5.Zad3.Monitor
import SysOp.Lab5.Zad3.Signals
import SysOp.Lab6.Buffer
import SysOp.Lab6.Files
import SysOp.Lab6.Level1.Freshness
import SysOp.Lab6.Level1.Handover
import SysOp.Lab6.Level1.Locks
import SysOp.Lab6.Level1.Moves
import SysOp.Lab6.Level1.Shutdown
import SysOp.Lab6.Level1.System
import SysOp.Lab6.Level3.Counters
import SysOp.Lab6.Level3.Moves
import SysOp.Lab6.Level3.System
import SysOp.Lab6.Matching
import SysOp.Lab6.Moves
import SysOp.Lab6.Odometry
import SysOp.Lab6.Pairing
import SysOp.Lab6.Pipeline
import SysOp.Lab6.Queue
import SysOp.Lab6.Shutdown
import SysOp.Lab6.Snapshot
import SysOp.Lab6.Synchroniser
import SysOp.Lab7.Clients
import SysOp.Lab7.Counter
import SysOp.Lab7.Http
import SysOp.Lab7.Loop
import SysOp.Lab7.Moves
import SysOp.Lab7.RoundTrip
import SysOp.Lab7.Segments
import SysOp.Lab7.Server
import SysOp.Lab7.Sessions
import SysOp.Lab7.Shutdown
