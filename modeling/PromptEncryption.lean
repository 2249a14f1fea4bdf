import PromptEncryption.Support.Python
import PromptEncryption.Support.Numbers
import PromptEncryption.Support.Bytes
import PromptEncryption.Support.Runs
import PromptEncryption.Support.Programs
import PromptEncryption.Support.Threads
import PromptEncryption.Support.Ledgers
import PromptEncryption.Support.Processes
import PromptEncryption.Support.Readers
import PromptEncryption.Support.Scripts
import PromptEncryption.Support.FileSystem
import PromptEncryption.Support.Volumes
import PromptEncryption.Support.Simulation
import PromptEncryption.Support.Procedures
import PromptEncryption.Support.Endings
import PromptEncryption.Support.Outputs
import PromptEncryption.Support.Listeners
import PromptEncryption.Proto.Messages
import PromptEncryption.Proto.Json
import PromptEncryption.Ekm.Exporter
import PromptEncryption.Client.Common
import PromptEncryption.Client.Policy
import PromptEncryption.Client.KeyIds
import PromptEncryption.Client.Validator
import PromptEncryption.Client.Refusals
import PromptEncryption.Client.Handshake
import PromptEncryption.Client.Connection
import PromptEncryption.Client.Attested
import PromptEncryption.Client.Roles
import PromptEncryption.Client.Comparison
import PromptEncryption.Client.Vouching
import PromptEncryption.Client.Freshness
import PromptEncryption.Client.Expiry
import PromptEncryption.Client.Reopening
import PromptEncryption.Client.Flags
import PromptEncryption.Client.Egress
import PromptEncryption.Client.Pools
import PromptEncryption.Server.Middleware
import PromptEncryption.Server.Gate
import PromptEncryption.Server.Agreement
import PromptEncryption.Server.Coroutines
import PromptEncryption.Server.Worker
import PromptEncryption.Server.Store
import PromptEncryption.Server.WriteFile
import PromptEncryption.Server.SystemCalls
import PromptEncryption.Server.Remains
import PromptEncryption.Server.Attestation
import PromptEncryption.Server.Backend
import PromptEncryption.Server.Refresher
import PromptEncryption.Server.Waiting
import PromptEncryption.System.Signatures
import PromptEncryption.System.Handshake
import PromptEncryption.System.Sessions
import PromptEncryption.System.Attestable
import PromptEncryption.System.Exporters
import PromptEncryption.System.Refreshes
import PromptEncryption.System.Rotation
import PromptEncryption.System.Snapshots
import PromptEncryption.System.Workers
import PromptEncryption.System.Crashes
import PromptEncryption.System.Endings
import PromptEncryption.System.Schedule
import PromptEncryption.System.Lifecycle
import PromptEncryption.System.Usable
import PromptEncryption.System.Survival
import PromptEncryption.System.Pacing
import PromptEncryption.System.Network
