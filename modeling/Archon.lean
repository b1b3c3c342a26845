import Archon.Ecma.Binary64
import Archon.Ecma.Text
import Archon.Ecma.Value
import Archon.Ecma.Json
import Archon.Ecma.Instant
import Archon.Ecma.Sha256
import Archon.Ecma.Tree
import Archon.Remediation.Approval
import Archon.Remediation.ControlLoop
import Archon.Remediation.Issue
import Archon.Remediation.ReceiptFacts
import Archon.Remediation.Terminal
import Archon.Resumption.Pool
import Archon.Ecma.Length
import Archon.Remediation.Producers
import Archon.Remediation.Rollback
import Archon.Resumption.Handler
import Archon.Worker.Contracts
import Archon.Worker.Remediate
import Archon.Worker.Trust
import Archon.Callback.Closing
import Archon.Core.Activity
import Archon.Jobs.Adapter
import Archon.Jobs.Evidence
import Archon.Jobs.Recovery
import Archon.Jobs.Single
import Archon.Remediation.Workers
import Archon.Runtime.Deployed
import Archon.Runtime.Lifecycle
import Archon.Runtime.Refinement
import Archon.Worker.Leased
import Archon.Worker.Queue
import Archon.Worker.Settlement
import Archon.Control.Canonical
import Archon.Control.Dispatch
import Archon.Control.Bounds
import Archon.Control.Facts
import Archon.Control.Accepted
import Archon.Control.Results
import Archon.Control.Mutation
import Archon.Control.Approvals
import Archon.Control.Authorized
import Archon.Cloud.Contracts
import Archon.Cloud.Health
import Archon.Cloud.Posts
import Archon.Cloud.Checkpoint
import Archon.Ecma.Groups
import Archon.Audit.Consistency
import Archon.Audit.Order
import Archon.Audit.History
import Archon.Cloud.Base64
import Archon.Cloud.Mutations
import Archon.Cloud.Offered
import Archon.Audit.Resolution
import Archon.Ecma.Twins
import Archon.Report.Findings
import Archon.Report.Public
import Archon.Report.Redaction
import Archon.Browser.Profiles
import Archon.Cloud.Agreement
import Archon.Worker.Resent
import Archon.Cloud.Context
import Archon.Sessions.Commands
import Archon.Companion.Stream
import Archon.Catalog.Budget
import Archon.Lineage.BlastRadius
import Archon.Lineage.Snapshot
import Archon.Harvest.Pages
import Archon.Remediation.Planning
import Archon.Report.Provenance
import Archon.Ecma.Sorting
import Archon.Harvest.Versions
import Archon.Harvest.Lanes
import Archon.Audit.Drift
import Archon.Harvest.Upstreams
import Archon.Audit.Recommended
import Archon.Report.Classifier
import Archon.Report.Markdown
import Archon.Governance.AuditLoop
import Archon.Report.Projected
import Archon.Companion.Preflight
import Archon.Companion.Prompt
import Archon.Canary.Canonical
import Archon.Canary.Projection
import Archon.Remediation.Reader
import Archon.Cloud.ColumnTags
import Archon.Remediation.Fencing
import Archon.Worker.Agreement
