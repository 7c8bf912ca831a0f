import NovenaGateway.ForStd.Ascending
import NovenaGateway.ForStd.BigEndian
import NovenaGateway.ForStd.Bursts
import NovenaGateway.ForStd.BusyMarks
import NovenaGateway.ForStd.Decimal
import NovenaGateway.ForStd.Dict
import NovenaGateway.ForStd.Except
import NovenaGateway.ForStd.Framing
import NovenaGateway.ForStd.Greatest
import NovenaGateway.ForStd.Groups
import NovenaGateway.ForStd.OrderedLock
import NovenaGateway.ForStd.Pieces
import NovenaGateway.ForStd.Run
import NovenaGateway.ForStd.Search
import NovenaGateway.ForStd.SortByKey
import NovenaGateway.ForStd.Steps
import NovenaGateway.ForStd.UniqueDict
import NovenaGateway.ForStd.Update
import NovenaGateway.ForStd.WriteAhead
import NovenaGateway.Native.BackwardCompatibility
import NovenaGateway.Native.CanonicalJson
import NovenaGateway.Native.ClaimBuffer
import NovenaGateway.Native.CommandJournal
import NovenaGateway.Native.CommandResults
import NovenaGateway.Native.Config
import NovenaGateway.Native.ConfigBackups
import NovenaGateway.Native.ConnectorRestart
import NovenaGateway.Native.Connectors
import NovenaGateway.Native.DataPipeline
import NovenaGateway.Native.DeploymentSetup
import NovenaGateway.Native.DeviceCommands
import NovenaGateway.Native.DeviceHealth
import NovenaGateway.Native.DeviceReads
import NovenaGateway.Native.DeviceRegistry
import NovenaGateway.Native.Discovery
import NovenaGateway.Native.EventStorage
import NovenaGateway.Native.FirmwareUpdate
import NovenaGateway.Native.GovernedCommands
import NovenaGateway.Native.JournalDamage
import NovenaGateway.Native.Json
import NovenaGateway.Native.Lifecycle
import NovenaGateway.Native.ModbusPolls
import NovenaGateway.Native.ModbusRpc
import NovenaGateway.Native.ModbusValues
import NovenaGateway.Native.MqttPublisher
import NovenaGateway.Native.MqttThreads
import NovenaGateway.Native.NetworkWatchdog
import NovenaGateway.Native.NovenaGateway
import NovenaGateway.Native.PayloadFormatter
import NovenaGateway.Native.Provision
import NovenaGateway.Native.Redaction
import NovenaGateway.Native.RemoteConfig
import NovenaGateway.Native.RemoteLog
import NovenaGateway.Native.RpcHandler
import NovenaGateway.Native.RpcRequest
import NovenaGateway.Native.ScanThreads
import NovenaGateway.Native.SiteData
import NovenaGateway.Native.SlaveConnect
import NovenaGateway.Native.Subscriptions
import NovenaGateway.Native.UplinkReads
import NovenaGateway.Spec.Answers
import NovenaGateway.Spec.AtMostOnce
import NovenaGateway.Spec.BackwardCompatibility
import NovenaGateway.Spec.Binary64
import NovenaGateway.Spec.BootConfig
import NovenaGateway.Spec.CanonicalJson
import NovenaGateway.Spec.ClaimBuffer
import NovenaGateway.Spec.ClaimIsolation
import NovenaGateway.Spec.ClaimReset
import NovenaGateway.Spec.CommandEvidence
import NovenaGateway.Spec.CommandResults
import NovenaGateway.Spec.CommandTime
import NovenaGateway.Spec.CommandWorkers
import NovenaGateway.Spec.ConfigAcks
import NovenaGateway.Spec.ConfigBackups
import NovenaGateway.Spec.ConfigReplay
import NovenaGateway.Spec.ConfigRollback
import NovenaGateway.Spec.ConfigTotality
import NovenaGateway.Spec.ConnectorRestart
import NovenaGateway.Spec.ConnectorUpdates
import NovenaGateway.Spec.ControlEpoch
import NovenaGateway.Spec.CredentialErasure
import NovenaGateway.Spec.CrossClaim
import NovenaGateway.Spec.DataPipeline
import NovenaGateway.Spec.DeviceHealth
import NovenaGateway.Spec.DeviceOrder
import NovenaGateway.Spec.DeviceReads
import NovenaGateway.Spec.DeviceRegistry
import NovenaGateway.Spec.Discovery
import NovenaGateway.Spec.DuplicateCounts
import NovenaGateway.Spec.EventStorage
import NovenaGateway.Spec.FailedRotation
import NovenaGateway.Spec.Failover
import NovenaGateway.Spec.FieldPolicy
import NovenaGateway.Spec.FirmwareUpdate
import NovenaGateway.Spec.JournalAtomicity
import NovenaGateway.Spec.JournalLoss
import NovenaGateway.Spec.JournalReload
import NovenaGateway.Spec.JsonEquality
import NovenaGateway.Spec.JsonText
import NovenaGateway.Spec.Lifecycle
import NovenaGateway.Spec.ModbusPolls
import NovenaGateway.Spec.ModbusRpc
import NovenaGateway.Spec.ModbusValues
import NovenaGateway.Spec.NetworkWatchdog
import NovenaGateway.Spec.NoLoss
import NovenaGateway.Spec.PayloadFormatter
import NovenaGateway.Spec.PublisherClaims
import NovenaGateway.Spec.PublisherThreads
import NovenaGateway.Spec.RedactLoop
import NovenaGateway.Spec.RedactTwice
import NovenaGateway.Spec.RedactedSecrets
import NovenaGateway.Spec.Redaction
import NovenaGateway.Spec.ReleaseAck
import NovenaGateway.Spec.ReleaseState
import NovenaGateway.Spec.RemoteLog
import NovenaGateway.Spec.Replay
import NovenaGateway.Spec.RouteMetrics
import NovenaGateway.Spec.ScanThreads
import NovenaGateway.Spec.SignedCommands
import NovenaGateway.Spec.SiteData
import NovenaGateway.Spec.SlaveConnect
import NovenaGateway.Spec.StrandedEvents
import NovenaGateway.Spec.Subscriptions
import NovenaGateway.Spec.UplinkReads
import NovenaGateway.Spec.ValidConfig
import NovenaGateway.Spec.WatchdogChecks
import NovenaGateway.Spec.WorkerTurns
import NovenaGateway.Spec.WriteEncoding
