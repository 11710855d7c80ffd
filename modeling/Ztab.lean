import Ztab.Shared.Machine
import Ztab.Shared.FlatHashMap
import Ztab.Shared.Binary64
import Ztab.Shared.OrderedMap
import Ztab.Json.Value
import Ztab.Json.Text
import Ztab.Tee.Status
import Ztab.Tee.ValidateNode
import Ztab.Tee.SchemaSemantics
import Ztab.Tee.Enforcement
import Ztab.Tee.RaisingSchemas
import Ztab.Tee.CodeFences
import Ztab.Session.Model
import Ztab.Session.Rpc
import Ztab.Session.Worker
import Ztab.Session.System
import Ztab.Session.Steps
import Ztab.Session.Sweep
import Ztab.Session.Readiness
import Ztab.Session.Indexes
import Ztab.Session.Collection
import Ztab.Session.Tokens
import Ztab.Session.Workers
import Ztab.Session.Frame
import Ztab.Session.Isolation
import Ztab.Session.Dispatch
import Ztab.Session.Records
import Ztab.Session.Joins
import Ztab.Session.Creations
import Ztab.Session.Seats
import Ztab.Session.Policies
import Ztab.Session.PolicyFiles
import Ztab.Session.PolicyLoading
import Ztab.Session.Submissions
import Ztab.Session.InputSizes
import Ztab.Session.Lifecycle
import Ztab.Json.Reader
import Ztab.Session.Outcome
import Ztab.Session.Docket
import Ztab.Session.Deadlines
import Ztab.Session.Retention
import Ztab.Session.OutputGate
import Ztab.Session.Privacy
import Ztab.Json.Readings
import Ztab.Shared.Potential
import Ztab.Shared.Spelling
import Ztab.Json.CanonicalSize
import Ztab.Json.Consumption
import Ztab.Json.Spelling
import Ztab.Tee.FencedJson
import Ztab.Tee.Validation
import Ztab.Tee.CutSchemas
import Ztab.Tee.Completeness
import Ztab.Session.Survival
import Ztab.Session.RetryLoop
import Ztab.Session.StatusReports
import Ztab.Session.Completion
import Ztab.Session.Shutdown
import Ztab.Session.Reclamation
import Ztab.Session.Capacity
import Ztab.Tee.BatchBounds
import Ztab.Tee.StopStrings
import Ztab.Tee.EngineReuse
import Ztab.Session.Broker
import Ztab.Tee.TlsCredentials
import Ztab.Tee.Rebuilds
import Ztab.Tee.TlsProxy
import Ztab.Tee.Piping
import Ztab.Tee.ActiveSockets
import Ztab.Tee.Throttle
import Ztab.Shared.Escrow
import Ztab.Shared.Ledger
import Ztab.Tee.ProxyLife
import Ztab.Tee.Descriptors
import Ztab.Tee.Drain
import Ztab.Shared.RefCount
import Ztab.Tee.SharedContexts
import Ztab.Shared.WhileLoop
import Ztab.Shared.LengthPrefixed
import Ztab.Tee.AlpnSelect
import Ztab.Shared.Occurrences
import Ztab.Session.PromptAssembly
import Ztab.Session.ChatTurns
import Ztab.Session.InputFraming
import Ztab.Session.Ideal
import Ztab.Agent.Python
import Ztab.Agent.VerifierPolicy
import Ztab.Shared.Effect
import Ztab.Shared.Trace
import Ztab.Agent.Backends
import Ztab.Agent.McpServer
import Ztab.Agent.RemainingInputs
import Ztab.Agent.Attestation
import Ztab.Agent.ItaVerifier
import Ztab.Agent.JwksCache
import Ztab.Agent.TokenClaims
import Ztab.Agent.StdioLoop
import Ztab.Agent.CacheCoherence
import Ztab.Agent.Requests
import Ztab.Agent.Retries
import Ztab.Agent.PythonJson
import Ztab.Agent.JsonRoundTrip
import Ztab.Agent.PolicySerialization
import Ztab.Agent.AttestationToken
import Ztab.Shared.Base64
import Ztab.Agent.Base64url
import Ztab.Agent.KeyBinding
import Ztab.Agent.AttestedKeys
import Ztab.Shared.Segments
import Ztab.Shared.Gather
import Ztab.Shared.Frontier
import Ztab.Audit.Trajectory
import Ztab.Audit.CrossSandbox
import Ztab.Audit.Fabrication
import Ztab.Audit.ThoughtLog
