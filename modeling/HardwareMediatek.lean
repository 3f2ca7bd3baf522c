import HardwareMediatek.Foundation.ExactFloat
import HardwareMediatek.Foundation.UnorderedMap
import HardwareMediatek.Foundation.OrderedMultiset
import HardwareMediatek.Foundation.KeyedMerge
import HardwareMediatek.Foundation.FiniteGraph
import HardwareMediatek.Foundation.Unfolding
import HardwareMediatek.Foundation.Numerals
import HardwareMediatek.Foundation.Json
import HardwareMediatek.Foundation.Checked
import HardwareMediatek.Thermal.Info
import HardwareMediatek.Thermal.ParseConfig
import HardwareMediatek.Thermal.IncludeResolution
import HardwareMediatek.Thermal.Throttling
import HardwareMediatek.Thermal.ThrottlingRun
import HardwareMediatek.Thermal.ParseThrottling
import HardwareMediatek.Thermal.CoolingDevices
import HardwareMediatek.Thermal.Votes
import HardwareMediatek.Thermal.VoteRuns
import HardwareMediatek.Thermal.Registration
import HardwareMediatek.Thermal.DeviceStates
import HardwareMediatek.Thermal.Lookups
import HardwareMediatek.Thermal.TotalLookups
import HardwareMediatek.Thermal.SensorStatus
import HardwareMediatek.Thermal.PowerFiles
import HardwareMediatek.Thermal.Watcher
import HardwareMediatek.Thermal.PollingDeadline
import HardwareMediatek.Thermal.TripPoints
import HardwareMediatek.Thermal.ZoneNames
import HardwareMediatek.Foundation.Netlink
import HardwareMediatek.Wifi.NanCommand
import HardwareMediatek.Wifi.NdpRequests
import HardwareMediatek.Wifi.NdpReporting
import HardwareMediatek.Wifi.NdpSecurity
import HardwareMediatek.Foundation.ByteMemory
import HardwareMediatek.Foundation.NlIterator
import HardwareMediatek.Foundation.CIntegers
import HardwareMediatek.Wifi.ReplyDecoders
import HardwareMediatek.Wifi.ReplyBounds
import HardwareMediatek.Foundation.ByteEncoding
import HardwareMediatek.Wifi.LinkStats
import HardwareMediatek.Wifi.LinkStatsCheck
import HardwareMediatek.Wifi.LinkStatsEncoding
import HardwareMediatek.Foundation.RecordLoop
import HardwareMediatek.Wifi.NanTlv
import HardwareMediatek.Wifi.NanEvents
import HardwareMediatek.Wifi.NanEventBounds
import HardwareMediatek.Foundation.ByteWriter
import HardwareMediatek.Wifi.NanTlvWrite
import HardwareMediatek.Wifi.NanRequests
import HardwareMediatek.Wifi.NanPutRequests
import HardwareMediatek.Wifi.NanRequestEncoding
import HardwareMediatek.Wifi.NanRequestLengths
import HardwareMediatek.Foundation.EffectRuns
import HardwareMediatek.Wifi.NanSingleton
import HardwareMediatek.Wifi.NanSingletonRuns
import HardwareMediatek.Wifi.StaParameterWait
import HardwareMediatek.Foundation.SlotArray
import HardwareMediatek.Wifi.HandlerTable
import HardwareMediatek.Wifi.HalCommands
import HardwareMediatek.Wifi.CommandLifetimes
import HardwareMediatek.Wifi.RssiMonitoring
import HardwareMediatek.Wifi.RttRequests
import HardwareMediatek.Wifi.RttResults
import HardwareMediatek.Wifi.RequestResponse
import HardwareMediatek.Wifi.CreatedInterfaces
import HardwareMediatek.Foundation.Elements
import HardwareMediatek.Supplicant.GenericResponse
import HardwareMediatek.Bluetooth.Lifecycle
import HardwareMediatek.Bluetooth.LifecycleRuns
import HardwareMediatek.Foundation.CStrings
import HardwareMediatek.Supplicant.StaStatistics
import HardwareMediatek.Supplicant.DriverCommand
import HardwareMediatek.Supplicant.DriverCommandReplies
import HardwareMediatek.Wifi.GetterReplies
import HardwareMediatek.Wifi.RadioMatrix
import HardwareMediatek.Wifi.Getters
import HardwareMediatek.Thermal.Notifications
import HardwareMediatek.Foundation.FloatOrder
import HardwareMediatek.Foundation.FloatFormat
import HardwareMediatek.Thermal.Hysteresis
import HardwareMediatek.Thermal.FailedAllocation
import HardwareMediatek.Thermal.ModelInput
import HardwareMediatek.Thermal.StatsResidency
import HardwareMediatek.Thermal.Callbacks
import HardwareMediatek.Usb.DataSignaling
import HardwareMediatek.Thermal.UeventFilter
import HardwareMediatek.Bluetooth.InternalCommands
import HardwareMediatek.Thermal.Reading
import HardwareMediatek.Thermal.ReadingEnds
import HardwareMediatek.Thermal.UnderCollecting
import HardwareMediatek.Foundation.Paired
import HardwareMediatek.Thermal.PairedReading
import HardwareMediatek.Thermal.Temperature
import HardwareMediatek.Thermal.Emulation
import HardwareMediatek.Thermal.HelperRun
import HardwareMediatek.Thermal.HelperFrames
import HardwareMediatek.Thermal.EmulationCommands
import HardwareMediatek.Thermal.ReleaseSteps
import HardwareMediatek.Foundation.FilteredSums
import HardwareMediatek.Thermal.AllocationPasses
import HardwareMediatek.Thermal.WeightAccounting
import HardwareMediatek.Thermal.GrantedPower
import HardwareMediatek.Thermal.PowerToState
import HardwareMediatek.Thermal.DefaultIntegral
import HardwareMediatek.Thermal.Episodes
import HardwareMediatek.Thermal.TargetTransient
import HardwareMediatek.Thermal.BudgetBounds
import HardwareMediatek.Thermal.SecondPass
import HardwareMediatek.Thermal.StoredBudgets
import HardwareMediatek.Thermal.BudgetRange
import HardwareMediatek.Thermal.StepLimits
import HardwareMediatek.Foundation.MarkPass
import HardwareMediatek.Foundation.Acceptance
import HardwareMediatek.Thermal.Constructor
import HardwareMediatek.Thermal.Acceptance
import HardwareMediatek.Thermal.WatchedSet
import HardwareMediatek.Thermal.WatcherLookups
import HardwareMediatek.Thermal.FrequencyLimits
import HardwareMediatek.Thermal.ThresholdAcceptance
import HardwareMediatek.Thermal.EmulatedSeverity
import HardwareMediatek.Thermal.ReportFailures
import HardwareMediatek.Foundation.ThreadedAssign
import HardwareMediatek.Foundation.RunningExtremes
import HardwareMediatek.Thermal.ThermalStats
import HardwareMediatek.Thermal.ReportedExtremes
import HardwareMediatek.Foundation.Loops
import HardwareMediatek.Thermal.ParseStats
import HardwareMediatek.Thermal.RecordBuckets
import HardwareMediatek.Thermal.BucketDiscipline
import HardwareMediatek.Thermal.AbnormalityDefaults
import HardwareMediatek.Thermal.StuckSensors
import HardwareMediatek.Foundation.RingBuffer
import HardwareMediatek.Thermal.LinearModel
import HardwareMediatek.Thermal.ParseVirtualSensor
import HardwareMediatek.Thermal.ReadingLog
import HardwareMediatek.Thermal.ModelReadings
import HardwareMediatek.Thermal.VirtualRails
import HardwareMediatek.Thermal.PowerWindow
import HardwareMediatek.Thermal.CounterReset
import HardwareMediatek.Thermal.PowerHintRuns
import HardwareMediatek.Thermal.PredictionRing
import HardwareMediatek.Foundation.Interpolation
import HardwareMediatek.Thermal.ModelPredictions
import HardwareMediatek.Wifi.FurtherAvailability
import HardwareMediatek.Wifi.NanErrorCodes
import HardwareMediatek.Wifi.NanErrors
import HardwareMediatek.Wifi.CommonParameters
import HardwareMediatek.Foundation.PackedRecords
import HardwareMediatek.Wifi.NanStats
import HardwareMediatek.Wifi.NanStatsDecoding
import HardwareMediatek.Wifi.ServiceInfo
import HardwareMediatek.Wifi.NdpIndications
import HardwareMediatek.Wifi.NdpChannels
import HardwareMediatek.Wifi.RadioMatrixLayout
import HardwareMediatek.Wifi.Cleanup
import HardwareMediatek.Wifi.InterfaceEnumeration
import HardwareMediatek.Wifi.ErrorMapping
import HardwareMediatek.Foundation.MessageSpace
import HardwareMediatek.Wifi.RttEncoding
import HardwareMediatek.Supplicant.Tokenizer
import HardwareMediatek.Supplicant.WapiKeys
import HardwareMediatek.Foundation.ClockTimes
import HardwareMediatek.Wifi.ConditionWait
import HardwareMediatek.Usb.GadgetFunctions
import HardwareMediatek.Usb.PortStatus
import HardwareMediatek.PowerHal.InteractionBoost
import HardwareMediatek.Bluetooth.WakeProtocol
import HardwareMediatek.Bluetooth.Address
import HardwareMediatek.Foundation.NamedEntries
import HardwareMediatek.Thermal.ParseSensor
import HardwareMediatek.Thermal.ParsedSensors
import HardwareMediatek.Thermal.ParsedFiles
import HardwareMediatek.Thermal.ParsePowerRails
import HardwareMediatek.Usb.RoleSwitch
import HardwareMediatek.Usb.RoleSwitchRuns
import HardwareMediatek.Wifi.HalLifecycle
import HardwareMediatek.Foundation.Unwinding
import HardwareMediatek.Thermal.EmulationIsolation
import HardwareMediatek.Thermal.IsolatedRuns
