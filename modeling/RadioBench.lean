import RadioBench.Bench.Guards
import RadioBench.Bench.Sink
import RadioBench.Bench.Station
import RadioBench.Bench.Workbench
import RadioBench.Clock.Bank
import RadioBench.Clock.Monotonic
import RadioBench.Clock.Script
import RadioBench.CommandLine
import RadioBench.Decimal.Plain
import RadioBench.Decimal.Shortest
import RadioBench.Duration
import RadioBench.Error
import RadioBench.Guard.Device
import RadioBench.Guard.LogScope
import RadioBench.Guard.Stream
import RadioBench.Host
import RadioBench.Journal
import RadioBench.Main
import RadioBench.Native.Binding
import RadioBench.Native.Call
import RadioBench.Native.Recording
import RadioBench.Native.Scripted
import RadioBench.Native.Slots
import RadioBench.Prog
import RadioBench.Prog.Trace
import RadioBench.Proofs.Bench.Accounts
import RadioBench.Proofs.Bench.Client
import RadioBench.Proofs.Bench.Reception
import RadioBench.Proofs.Guard.Ledger
import RadioBench.Proofs.Guard.Posting
import RadioBench.Proofs.Guard.ReceiveLoop
import RadioBench.Proofs.Guard.Trace
import RadioBench.Proofs.Guard.Turns
import RadioBench.Proofs.Host.FirstError
import RadioBench.Proofs.Host.Heeds
import RadioBench.Proofs.Host.Trace
import RadioBench.Proofs.Native.Calls
import RadioBench.Proofs.Native.Custody
import RadioBench.Proofs.Native.Possession
import RadioBench.Proofs.Native.Slots
import RadioBench.Proofs.Prog.Except
import RadioBench.Proofs.Prog.Exhausts
import RadioBench.Proofs.Prog.Path
import RadioBench.Proofs.Simulator.Handles
import RadioBench.Proofs.Simulator.Runs
import RadioBench.Proofs.Simulator.Steady
import RadioBench.Proofs.Simulator.Success
import RadioBench.Proofs.SmokeTest.Configure
import RadioBench.Proofs.SmokeTest.Leftover
import RadioBench.Proofs.SmokeTest.Part
import RadioBench.Proofs.SmokeTest.Protocol
import RadioBench.Proofs.SmokeTest.ReadBack
import RadioBench.Proofs.SmokeTest.Stage
import RadioBench.Proofs.Table
import RadioBench.Radio.Channel
import RadioBench.Radio.Sample
import RadioBench.Radio.Streaming
import RadioBench.Radio.Tuning
import RadioBench.Request
import RadioBench.Simulator.Overlay
import RadioBench.Simulator.Perform
import RadioBench.Simulator.State
import RadioBench.SmokeTest.Configure
import RadioBench.SmokeTest.Session
import RadioBench.SmokeTest.Settings
import RadioBench.Table
import RadioBench.Text.CString
import RadioBench.Text.Hex
import RadioBench.Text.Utf8
import RadioBench.Proofs.Native.Account
import RadioBench.Proofs.Native.Session
import RadioBench.Proofs.Native.Lives
import RadioBench.Proofs.Native.Release
import RadioBench.Proofs.Native.Ties
import RadioBench.Proofs.Native.Legality
import RadioBench.Proofs.Native.Extent
import RadioBench.Proofs.Bench.Agreement
import RadioBench.Proofs.Bench.Coupled
import RadioBench.Proofs.Bench.Forgetful
import RadioBench.Proofs.Bench.Trails
import RadioBench.Proofs.Bench.Truncation
import RadioBench.Proofs.Simulator.Setting
import RadioBench.Proofs.Simulator.Effect
import RadioBench.Proofs.Simulator.Atomicity
import RadioBench.Proofs.Simulator.Lending
import RadioBench.Proofs.Simulator.LastWrite
import RadioBench.Proofs.Simulator.Representation
import RadioBench.Proofs.Simulator.Metering
import RadioBench.Proofs.Text.Utf8
import RadioBench.Proofs.Native.Numbers
import RadioBench.Proofs.Native.Names
import RadioBench.Proofs.Native.Methods
import RadioBench.Proofs.Simulator.Filters
import RadioBench.Proofs.Bench.Registration
import RadioBench.Proofs.Simulator.Injection
import RadioBench.Proofs.Simulator.Rates
import RadioBench.Proofs.Native.Delivery
import RadioBench.Proofs.Native.Metadata
import RadioBench.Proofs.Simulator.Antennas
import RadioBench.Proofs.Bench.Transmission
import RadioBench.Proofs.Clock.Sharing
