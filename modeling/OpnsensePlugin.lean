import OpnsensePlugin.Writers.PeerCleanup
import OpnsensePlugin.Writers.Plan
import OpnsensePlugin.Writers.Trigger
import OpnsensePlugin.Management.Success
import OpnsensePlugin.Management.OperationRuns
import OpnsensePlugin.Management.CrlRuns
import OpnsensePlugin.Target
import OpnsensePlugin.Writers.Legacy
import OpnsensePlugin.Management.Acceptance
import OpnsensePlugin.Management.OperationRuns
import OpnsensePlugin.Writers.HaVerifier
import OpnsensePlugin.Writers.Legacy
import OpnsensePlugin.Writers.LegacyKinds
import OpnsensePlugin.Writers.LegacyRuns
import OpnsensePlugin.Writers.Compensation
import OpnsensePlugin.Writers.Evidence
import OpnsensePlugin.Python.UrlPath
import OpnsensePlugin.Python.Walk
import OpnsensePlugin.Routes.DeletePath
import OpnsensePlugin.Python.Decode
import OpnsensePlugin.Python.FlatObject
import OpnsensePlugin.Python.CutObject
import OpnsensePlugin.AuditLog
import OpnsensePlugin.Routes.FirewallForm
import OpnsensePlugin.Python.Decimal
import OpnsensePlugin.Routes.EditRoundTrip
import OpnsensePlugin.Management.Views
import OpnsensePlugin.Routes.Firewall
import OpnsensePlugin.Paths.Segments
import OpnsensePlugin.Paths.WriterPaths
import OpnsensePlugin.Paths.ManagementPaths
import OpnsensePlugin.Paths.ApiCalls
import OpnsensePlugin.Writers.CompleteListing
import OpnsensePlugin.Management.PagedScan
import OpnsensePlugin.Writers.RenderedReadback
import OpnsensePlugin.Python.Canonical
import OpnsensePlugin.Writers.Digests
import OpnsensePlugin.Writers.Revisions
import OpnsensePlugin.Management.Digests
import OpnsensePlugin.Management.AuditEvidence
import OpnsensePlugin.Effects.Escapes
import OpnsensePlugin.Management.Containment
import OpnsensePlugin.Management.ContainedRuns
import OpnsensePlugin.Writers.Containment
import OpnsensePlugin.Writers.ContainedRuns
import OpnsensePlugin.Management.Noninterference
import OpnsensePlugin.Metrics.Exposition
import OpnsensePlugin.Collectors
import OpnsensePlugin.Metrics.Exporter
import OpnsensePlugin.Metrics.Integrity
import OpnsensePlugin.Metrics.Series
import OpnsensePlugin.Divergence
import OpnsensePlugin.Divergence.Mirror
import OpnsensePlugin.Divergence.Snapshots
import OpnsensePlugin.Divergence.Exact
import OpnsensePlugin.Routes.Overview
import OpnsensePlugin.Divergence.Completeness
import OpnsensePlugin.Routes.Expiry
import OpnsensePlugin.Cluster
import OpnsensePlugin.Client
import OpnsensePlugin.Writers.Polls
import OpnsensePlugin.Writers.PollRuns
import OpnsensePlugin.Management.CrlMoves
import OpnsensePlugin.Python.Checks
import OpnsensePlugin.Python.IpLiteral
import OpnsensePlugin.Management.OperationValues
import OpnsensePlugin.Routes.PortGrammar
import OpnsensePlugin.OptionGroups
import OpnsensePlugin.Routes.CreateFidelity
import OpnsensePlugin.Effects.Relational
import OpnsensePlugin.Management.OperationPairs
import OpnsensePlugin.Management.Places
import OpnsensePlugin.Management.SuppliedValues
import OpnsensePlugin.Management.UpdateFrame
import OpnsensePlugin.Workspace
import OpnsensePlugin.Workspace.Exclusion
import OpnsensePlugin.Workspace.Barrier
import OpnsensePlugin.Effects.Triples
import OpnsensePlugin.Management.Backups
import OpnsensePlugin.Python.NestedObject
import OpnsensePlugin.Python.TextSize
import OpnsensePlugin.Management.Envelope
import OpnsensePlugin.Management.BackupStore
import OpnsensePlugin.Management.BackupHistory
import OpnsensePlugin.Effects.Interleaving
import OpnsensePlugin.Writers.LockedSection
import OpnsensePlugin.Writers.StaleRevision
import OpnsensePlugin.Writers.Concurrency
import OpnsensePlugin.Writers.Exclusion
import OpnsensePlugin.Writers.Serialization
import OpnsensePlugin.Gateway.Destinations
import OpnsensePlugin.Gateway.Authorization
import OpnsensePlugin.Effects.Completion
import OpnsensePlugin.Sections
import OpnsensePlugin.Sections.World
import OpnsensePlugin.Sections.Calls
import OpnsensePlugin.Management.Concurrency
import OpnsensePlugin.Gateway.Attempts
import OpnsensePlugin.Gateway.Evidence
import OpnsensePlugin.Gateway.Freshness
