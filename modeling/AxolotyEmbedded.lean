import AxolotyEmbedded.Library.Transition
import AxolotyEmbedded.Library.RetryLoop
import AxolotyEmbedded.Library.Ownership
import AxolotyEmbedded.Library.Script
import AxolotyEmbedded.Library.Interference
import AxolotyEmbedded.Library.Observation
import AxolotyEmbedded.Library.Fifo
import AxolotyEmbedded.Library.Wrapping
import AxolotyEmbedded.Library.Table
import AxolotyEmbedded.Library.Binary64
import AxolotyEmbedded.Library.Directories
import AxolotyEmbedded.Library.Json
import AxolotyEmbedded.Library.JsonParse
import AxolotyEmbedded.Library.Checked
import AxolotyEmbedded.Library.Loop
import AxolotyEmbedded.Library.Reads
import AxolotyEmbedded.Library.PythonText
import AxolotyEmbedded.Library.PythonInt
import AxolotyEmbedded.Library.ByteLines
import AxolotyEmbedded.Library.Ranges
import AxolotyEmbedded.Library.Closure
import AxolotyEmbedded.Library.Dict
import AxolotyEmbedded.Library.Search
import AxolotyEmbedded.Library.StableSort
import AxolotyEmbedded.Smoke.Validator
import AxolotyEmbedded.Smoke.ValidatorSteps
import AxolotyEmbedded.Smoke.Acceptance
import AxolotyEmbedded.Smoke.Emitter
import AxolotyEmbedded.Smoke.Printed
import AxolotyEmbedded.Smoke.Emission
import AxolotyEmbedded.Smoke.Protocol
import AxolotyEmbedded.Smoke.Verdict
import AxolotyEmbedded.Bytes
import AxolotyEmbedded.Zenoh.Queue
import AxolotyEmbedded.Zenoh.QueueInvariant
import AxolotyEmbedded.Zenoh.QueueSteps
import AxolotyEmbedded.Zenoh.QueueOrder
import AxolotyEmbedded.Zenoh.QueueFull
import AxolotyEmbedded.Zenoh.QueueSequential
import AxolotyEmbedded.Zenoh.ReceiveSample
import AxolotyEmbedded.Zenoh.Registry
import AxolotyEmbedded.Zenoh.Handles
import AxolotyEmbedded.Zenoh.Facade
import AxolotyEmbedded.Zenoh.FacadeOwnership
import AxolotyEmbedded.Zenoh.Callbacks
import AxolotyEmbedded.Zenoh.CallbackInvariant
import AxolotyEmbedded.Zenoh.CallbackLifecycle
import AxolotyEmbedded.Zenoh.CallbackSafety
import AxolotyEmbedded.Zenoh.InFlight
import AxolotyEmbedded.Zenoh.Diagnostics
import AxolotyEmbedded.Zenoh.DiagnosticsConcurrent
import AxolotyEmbedded.Zenoh.KeyExpression
import AxolotyEmbedded.Zenoh.KeyGrammar
import AxolotyEmbedded.Zenoh.Carrier
import AxolotyEmbedded.Zenoh.CarrierCalls
import AxolotyEmbedded.Zenoh.CarrierFrames
import AxolotyEmbedded.Zenoh.CarrierSlots
import AxolotyEmbedded.Zenoh.CarrierInterest
import AxolotyEmbedded.Zenoh.CarrierRounds
import AxolotyEmbedded.Zenoh.CarrierReconnects
import AxolotyEmbedded.Zenoh.Report
import AxolotyEmbedded.Zenoh.Scenario
import AxolotyEmbedded.Zenoh.ScenarioSessions
import AxolotyEmbedded.Zenoh.ScenarioVerdict
import AxolotyEmbedded.Zenoh.ScenarioPasses
import AxolotyEmbedded.Mqtt.Session
import AxolotyEmbedded.Mqtt.SubscriptionSlots
import AxolotyEmbedded.Mqtt.SubscriptionRuns
import AxolotyEmbedded.Mqtt.Acknowledgement
import AxolotyEmbedded.Mqtt.Recovery
import AxolotyEmbedded.Mqtt.Lifecycle
import AxolotyEmbedded.Mqtt.Poll
import AxolotyEmbedded.Mqtt.PollContract
import AxolotyEmbedded.DeviceAgent.StaticDeviceAgent
import AxolotyEmbedded.DeviceAgent.AgentExchange
import AxolotyEmbedded.DeviceAgent.RetainedAdvertise
import AxolotyEmbedded.DeviceAgent.ActorRoute
import AxolotyEmbedded.FirstInit.Publication
import AxolotyEmbedded.FirstInit.Image
import AxolotyEmbedded.FirstInit.ImageReads
import AxolotyEmbedded.FirstInit.Listing
import AxolotyEmbedded.FirstInit.Sweep
import AxolotyEmbedded.FirstInit.SymbolNames
import AxolotyEmbedded.FirstInit.ListingOrder
import AxolotyEmbedded.FirstInit.Program
import AxolotyEmbedded.FirstInit.LinkedInputs
import AxolotyEmbedded.FirstInit.Frame
import AxolotyEmbedded.FirstInit.FrameWalks
import AxolotyEmbedded.FirstInit.FrameSearch
import AxolotyEmbedded.FirstInit.FrameClosed
import AxolotyEmbedded.FirstInit.FrameRaises
import AxolotyEmbedded.FirstInit.CallbackArgument
import AxolotyEmbedded.FirstInit.NoTraceback
import AxolotyEmbedded.FirstInit.SymbolUniqueness
import AxolotyEmbedded.FirstInit.Epoch
import AxolotyEmbedded.FirstInit.OneBoot
import AxolotyEmbedded.Platform.NetworkBootstrap
import AxolotyEmbedded.Platform.ResourceBalance
import AxolotyEmbedded.Platform.ReconnectEvidence
import AxolotyEmbedded.LinkedStorage.Map
import AxolotyEmbedded.LinkedStorage.MapPrinted
import AxolotyEmbedded.LinkedStorage.MapRecords
import AxolotyEmbedded.LinkedStorage.MapRoundTrip
import AxolotyEmbedded.LinkedStorage.Elf
import AxolotyEmbedded.LinkedStorage.ElfReads
import AxolotyEmbedded.LinkedStorage.Measure
import AxolotyEmbedded.LinkedStorage.Exactness
import AxolotyEmbedded.LinkedStorage.Overlaps
import AxolotyEmbedded.Library.Words
import AxolotyEmbedded.Interval.Value
import AxolotyEmbedded.Interval.Reading
import AxolotyEmbedded.Interval.Operations
import AxolotyEmbedded.Interval.Faithful
import AxolotyEmbedded.Interval.Instructions
import AxolotyEmbedded.Interval.Edges
import AxolotyEmbedded.Interval.ValueDomain
import AxolotyEmbedded.Library.Congruence
import AxolotyEmbedded.Library.Replay
import AxolotyEmbedded.Interval.State
import AxolotyEmbedded.Interval.Operands
import AxolotyEmbedded.Interval.Linked
import AxolotyEmbedded.Interval.Engine
import AxolotyEmbedded.Interval.Traversal
import AxolotyEmbedded.Interval.Analyze
import AxolotyEmbedded.Interval.Replayed
import AxolotyEmbedded.Interval.PostFixpoint
import AxolotyEmbedded.FirstInit.CallCoverage
import AxolotyEmbedded.FirstInit.CallGraph
import AxolotyEmbedded.FirstInit.CallWalk
import AxolotyEmbedded.FirstInit.CallSearch
import AxolotyEmbedded.Interval.CallCycles
import AxolotyEmbedded.Library.Simulation
import AxolotyEmbedded.Interval.Nesting
import AxolotyEmbedded.Library.PythonJson
import AxolotyEmbedded.Library.Planned
import AxolotyEmbedded.Library.Charges
import AxolotyEmbedded.LinkedStorage.Inventory
import AxolotyEmbedded.LinkedStorage.InventoryPlan
import AxolotyEmbedded.LinkedStorage.InventoryCharges
import AxolotyEmbedded.LinkedStorage.InventoryAudit
import AxolotyEmbedded.Library.Collect
import AxolotyEmbedded.Release.Values
import AxolotyEmbedded.Release.Evidence
import AxolotyEmbedded.Release.SizeReport
import AxolotyEmbedded.Release.Manifest
import AxolotyEmbedded.Release.RequiredChecks
import AxolotyEmbedded.Release.Certificate
import AxolotyEmbedded.Release.Budgets
import AxolotyEmbedded.Library.Monitor
import AxolotyEmbedded.Library.JsonRest
import AxolotyEmbedded.SensorNode.Console
import AxolotyEmbedded.SensorNode.Session
import AxolotyEmbedded.SensorNode.Watch
import AxolotyEmbedded.SensorNode.Runs
import AxolotyEmbedded.SensorNode.Validator
import AxolotyEmbedded.SensorNode.Verdict
import AxolotyEmbedded.SensorNode.Recovery
import AxolotyEmbedded.SensorNode.Assembler
