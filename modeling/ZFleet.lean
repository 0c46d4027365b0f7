import ZFleet.Foundations.Runs
import ZFleet.Foundations.Ledgers
import ZFleet.Foundations.KeyedTables
import ZFleet.Foundations.Transactions
import ZFleet.Foundations.FixedWidth
import ZFleet.Foundations.Directories
import ZFleet.Foundations.Worklists
import ZFleet.Foundations.Trails
import ZFleet.Foundations.Threads
import ZFleet.Core.Time
import ZFleet.Core.Rfc3339
import ZFleet.Core.Semver
import ZFleet.Core.SemverText
import ZFleet.Package.Manifest
import ZFleet.Protocol.Message
import ZFleet.Protocol.ControlCodec
import ZFleet.Protocol.CodecRoundTrip
import ZFleet.Transport.FrameCodec
import ZFleet.Transport.FrameChunks
import ZFleet.Server.Schema
import ZFleet.Server.AgentStore
import ZFleet.Server.InstallApi
import ZFleet.Server.RegistrationTokens
import ZFleet.Server.TaskStore
import ZFleet.Server.AsyncStore
import ZFleet.Server.ControlService
import ZFleet.Server.EventAtomicity
import ZFleet.Server.TaskOperations
import ZFleet.Server.TaskResults
import ZFleet.Server.ClaimSafety
import ZFleet.Server.TimestampExpiry
import ZFleet.Server.TaskLifecycle
import ZFleet.Server.AuditTrail
import ZFleet.Server.UpgradeConfirmation
import ZFleet.Server.UpgradeFields
import ZFleet.Server.RollbackScheduling
import ZFleet.Server.ConnectionRegistry
import ZFleet.Server.ControlDispatcher
import ZFleet.Server.EventChunks
import ZFleet.Server.EventResponse
import ZFleet.Server.WorkerPool
import ZFleet.Server.Presence
import ZFleet.Server.CommandStream
import ZFleet.Server.QueueAnnouncements
import ZFleet.Server.CommandSessions
import ZFleet.Server.CommandWakeups
import ZFleet.Server.PackageStore
import ZFleet.Server.PackageApi
import ZFleet.Server.PublicationLifecycle
import ZFleet.Server.UpgradeFitness
import ZFleet.Server.RegisterInterleaving
import ZFleet.Foundations.FileTrees
import ZFleet.Package.ManifestFiles
import ZFleet.Installer.Release
import ZFleet.Installer.Operations
import ZFleet.Installer.Effects
import ZFleet.Installer.Outcomes
import ZFleet.Installer.InstalledFiles
import ZFleet.Installer.Launcher
import ZFleet.Installer.InstallerVersions
import ZFleet.Installer.FairCalls
import ZFleet.Installer.VersionFiles
import ZFleet.Installer.RunInvariant
import ZFleet.Installer.InstallerRuns
import ZFleet.Installer.FailedSwitches
import ZFleet.Server.ReconnectTimeout
import ZFleet.Server.WriteActor
import ZFleet.Server.WriteCompletions
import ZFleet.Server.PackageUploads
import ZFleet.Foundations.ByteReader
import ZFleet.Package.ArchiveReader
import ZFleet.Package.ArchiveSafety
import ZFleet.Foundations.Selections
import ZFleet.Server.InstallerChoice
import ZFleet.Package.ManifestDocument
import ZFleet.Package.RelativePaths
import ZFleet.Foundations.PercentCodes
import ZFleet.Server.AdminRequests
import ZFleet.Server.AdminRoutes
import ZFleet.Foundations.ShellWords
import ZFleet.Server.InstallCommands
import ZFleet.Foundations.LinkedFiles
import ZFleet.Package.SystemPaths
import ZFleet.Server.StaticFiles
import ZFleet.Foundations.LeadingNumbers
import ZFleet.Transport.Endpoints
import ZFleet.Package.ArchiveListing
import ZFleet.Package.ArchiveEntries
import ZFleet.Package.ArchiveExtraction
import ZFleet.Package.ArchiveIntegrity
import ZFleet.Foundations.StreamCalls
import ZFleet.Package.DeflateLoops
import ZFleet.Foundations.Tallies
import ZFleet.Server.CommandDelivery
import ZFleet.Server.CommandWire
import ZFleet.Foundations.Dialogues
import ZFleet.Agent.Runtime
import ZFleet.Agent.SessionProtocol
import ZFleet.Agent.SessionHistory
import ZFleet.Agent.TaskDelivery
import ZFleet.Package.ExtractedFiles
import ZFleet.Foundations.OutputStreams
import ZFleet.Package.ArchiveWriter
import ZFleet.Package.ArchiveLayout
import ZFleet.Package.ArchiveRoundTrip
import ZFleet.Package.UnpackedFiles
import ZFleet.Agent.PackageUpdater
