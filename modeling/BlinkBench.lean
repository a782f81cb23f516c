import BlinkBench.Bench
import BlinkBench.Blinker.Operation
import BlinkBench.Main
import BlinkBench.Manifest.Json
import BlinkBench.Proofs.Blinker.Calls
import BlinkBench.Proofs.Blinker.Record
import BlinkBench.Proofs.Blinker.Runs
import BlinkBench.Proofs.Blinker.Alternation
import BlinkBench.Proofs.Blinker.Cancellation
import BlinkBench.Proofs.AscendingMap
import BlinkBench.Proofs.Bus.Mapping
import BlinkBench.Proofs.Files
import BlinkBench.Proofs.History
import BlinkBench.Proofs.Manifest.Agreement
import BlinkBench.Proofs.Bus.Driving
import BlinkBench.Proofs.Snapshot
import BlinkBench.Proofs.Cli.Results
import BlinkBench.Proofs.Bus.Frame
import BlinkBench.Proofs.Snapshot.Ports
import BlinkBench.Proofs.Snapshot.Registers
import BlinkBench.Proofs.IoPort.Accesses
import BlinkBench.Proofs.Blinker.Parts
import BlinkBench.Proofs.Bus.Isolation
import BlinkBench.Proofs.Blinker.Findings
import BlinkBench.Proofs.Blinker.Backends
import BlinkBench.Proofs.Blinker.Delays
import BlinkBench.Proofs.Json.Text
import BlinkBench.Proofs.Manifest.Json
import BlinkBench.Proofs.Snapshot.Text
import BlinkBench.Proofs.Cli.Limits
import BlinkBench.Proofs.Blinker.Observers
import BlinkBench.Proofs.Checklist
import BlinkBench.Proofs.Bus.Declared
import BlinkBench.Proofs.IoPort.Pins
import BlinkBench.Proofs.Json.Fields
import BlinkBench.Proofs.Manifest.Members
import BlinkBench.Proofs.Json.Places
import BlinkBench.Proofs.Duration
import BlinkBench.Proofs.Bus.Refusals
import BlinkBench.Proofs.Bus.Foreign
import BlinkBench.Proofs.Bus.Faults
import BlinkBench.Proofs.Blinker.Composition
import BlinkBench.Proofs.IoPort.OutputLog
import BlinkBench.Proofs.Cli.Endings
import BlinkBench.Proofs.Metrics.Sharing
