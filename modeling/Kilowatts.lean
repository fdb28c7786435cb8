import Kilowatts.Library.Worklist
import Kilowatts.Library.Run
import Kilowatts.LoadManager.Load
import Kilowatts.LoadManager.LoadScheduleEvaluator
import Kilowatts.LoadManager.LoadFilter
import Kilowatts.LoadManager.LoadConfigurationStore
import Kilowatts.BestFirstSearch
import Kilowatts.BestFirstSearch.Exploration
import Kilowatts.BestFirstSearch.Optimality
import Kilowatts.NodeManager.Node
import Kilowatts.NodeManager.CentralNodeRegistry
import Kilowatts.BatteryManager.PowerManager
import Kilowatts.Central.PlanningCycle
import Kilowatts.Central.PlannedLoads
import Kilowatts.Central.BudgetContract
import Kilowatts.Central.DispatchedPlan
import Kilowatts.Central.RelaySafety
import Kilowatts.Central.LatestPlan
import Kilowatts.Central.ConfigureLoad
import Kilowatts.EspNowCommunication.Forwarding
import Kilowatts.EspNowCommunication.TreeDelivery
import Kilowatts.Library.ByteSet
import Kilowatts.Library.PagedReport
import Kilowatts.Library.PagedReport.Convergence
import Kilowatts.NodeManager.ReportConvergence
import Kilowatts.NodeManager.StaleReportPages
import Kilowatts.Smart.SmartNode
import Kilowatts.Smart.NodeReports
import Kilowatts.Smart.ReportPruning
import Kilowatts.EspNowCommunication.HopLimit
import Kilowatts.EspNowCommunication.Discovery
import Kilowatts.Library.FlashBacked
import Kilowatts.Central.LoadCommand
import Kilowatts.Smart.ConsoleUpdate
import Kilowatts.NodeManager.NodeIdentityStore
import Kilowatts.Smart.Boot
import Kilowatts.Central.LocalHardware
import Kilowatts.Smart.HardwareConfiguration
import Kilowatts.Central.HardwareCommands
import Kilowatts.Central.CommandResolution
import Kilowatts.Central.StaleAcknowledgements
import Kilowatts.Central.StoredSettings
import Kilowatts.Central.CentralPlant
import Kilowatts.Central.ReportedSettings
import Kilowatts.Central.ReusedPins
import Kilowatts.Library.RequestSlot
import Kilowatts.NodeManager.CommissioningRegistry
import Kilowatts.NodeManager.CommissionAcknowledgements
import Kilowatts.NodeManager.LifecycleTransitions
import Kilowatts.NodeManager.HardwareAgreement
import Kilowatts.NodeManager.ConsistentLoads
import Kilowatts.Central.RegistryInvariant
import Kilowatts.Library.Countdown
import Kilowatts.Central.RuntimeCountdown
import Kilowatts.Library.WrappingClock
import Kilowatts.NodeManager.LastSeen
import Kilowatts.Central.OnlineStatus
import Kilowatts.RelayManager.PendingCommands
import Kilowatts.Central.RelayDispatch
import Kilowatts.Library.RoseTree
import Kilowatts.Library.ReachableTree
import Kilowatts.Central.TopologyTree
import Kilowatts.BatteryManager.BatteryMonitor
import Kilowatts.Central.BatterySetup
import Kilowatts.Library.DeferredCopy
import Kilowatts.Central.MinimumStateOfCharge
import Kilowatts.Library.MirroredFlag
import Kilowatts.Smart.Commissioning
import Kilowatts.NodeManager.CommissionedRecords
import Kilowatts.Central.LifecycleAgreement
import Kilowatts.Central.SetupCommands
import Kilowatts.Central.RejectedConfigurations
import Kilowatts.Central.PlanChange
import Kilowatts.Central.SimulationCommands
import Kilowatts.Central.CoulombCounting
import Kilowatts.Library.KeyedWrites
import Kilowatts.Central.PersistedConfiguration
import Kilowatts.NodeManager.PersistedIdentity
import Kilowatts.Smart.TruthfulAcknowledgements
import Kilowatts.Central.CommissioningRetries
import Kilowatts.Smart.Decommissioning
import Kilowatts.NodeManager.RelayOutputs
import Kilowatts.BestFirstSearch.RaisedLoad
import Kilowatts.Central.DispatchTransition
import Kilowatts.BestFirstSearch.MovingClock
import Kilowatts.Central.RuntimeEntries
import Kilowatts.Central.PriorityRange
import Kilowatts.Central.LocalEdits
import Kilowatts.Library.PackedRecords
import Kilowatts.LoadManager.PersistedEntries
import Kilowatts.NodeManager.PersistedLoads
import Kilowatts.NodeManager.PersistedCommissioning
import Kilowatts.Library.Json
import Kilowatts.Library.Decimal
import Kilowatts.Library.JsonDocument
import Kilowatts.Central.TopologyText
import Kilowatts.LoadManager.PrintedFloats
import Kilowatts.Central.NodeRegistryJson
import Kilowatts.MqttManager.SystemStateJson
import Kilowatts.Central.PublishedState
import Kilowatts.Central.PublishedJson
import Kilowatts.BatteryManager.BudgetFormulas
import Kilowatts.EspNowCommunication.WireFormat
import Kilowatts.EspNowCommunication.UpstreamSelection
import Kilowatts.EspNowCommunication.PacketReceiver
import Kilowatts.Library.DeadlinePolling
import Kilowatts.Central.AcknowledgementWait
import Kilowatts.Library.ScanFormat
import Kilowatts.MqttManager.MacParsers
import Kilowatts.Library.FormEncoding
import Kilowatts.Library.TextSearch
import Kilowatts.WiFiManager.UrlDecoding
import Kilowatts.WiFiManager.WiFiProvisioningPortal
import Kilowatts.WiFiManager.PostedCredentials
import Kilowatts.Library.CivilCalendar
import Kilowatts.Library.Latch
import Kilowatts.FirmwareManager.CurrentTimeProvider
import Kilowatts.FirmwareManager.TrustedTime
import Kilowatts.Library.OrderedLine
import Kilowatts.Smart.RelayCommandTasks
import Kilowatts.Central.RelayRoundTrip
import Kilowatts.WiFiManager.StationConnection
import Kilowatts.WiFiManager.SharedChannel
import Kilowatts.Library.BinaryFloat
import Kilowatts.MqttManager.CommandReaders
import Kilowatts.MqttManager.CommandDocuments
import Kilowatts.MqttManager.CommandTopic
import Kilowatts.Central.OptimizerInterval
import Kilowatts.Library.CompletionSlot
import Kilowatts.EspNowCommunication.SendCompletion
import Kilowatts.Smart.ChannelSearch
import Kilowatts.Library.HtmlText
import Kilowatts.WiFiManager.NetworkPage
