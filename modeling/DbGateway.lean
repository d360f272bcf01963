import DbGateway.Api.Browser
import DbGateway.Audit.Chain
import DbGateway.Audit.Composite
import DbGateway.Audit.S3
import DbGateway.Audit.SinkFailure
import DbGateway.Backups
import DbGateway.Bff.Safety
import DbGateway.Csrf
import DbGateway.Encryption.Environment
import DbGateway.Gateway.Calls
import DbGateway.Gateway.Controller
import DbGateway.Gateway.Database
import DbGateway.Gateway.Isolation
import DbGateway.Gateway.Mediation
import DbGateway.Gateway.Quota
import DbGateway.Gateway.Served
import DbGateway.Gateway.Simulation
import DbGateway.Gateway.Tenancy
import DbGateway.Incident.Blocking
import DbGateway.Incident.Isolation
import DbGateway.Incident.Revocation
import DbGateway.Interchange
import DbGateway.Json.Roundtrip
import DbGateway.LastWrite
import DbGateway.Middleware.BodySizeLimit
import DbGateway.Multimap
import DbGateway.Policy.Columns
import DbGateway.Policy.Grants
import DbGateway.Policy.Mirror
import DbGateway.Policy.OpaReply
import DbGateway.Policy.RowScopes
import DbGateway.Policy.Sidecar
import DbGateway.Policy.Tenancy
import DbGateway.Presentation.Decide
import DbGateway.Presentation.Numbers
import DbGateway.Presentation.Parse
import DbGateway.Prompts
import DbGateway.RateLimit.Budget
import DbGateway.RateLimit.Window
import DbGateway.Re.Blocks
import DbGateway.Re.Matches
import DbGateway.Rego.Mirror
import DbGateway.Repository.Cost
import DbGateway.Repository.CostLayout
import DbGateway.Repository.CostTables
import DbGateway.Repository.Fetch
import DbGateway.Repository.Introspection
import DbGateway.Repository.Limit
import DbGateway.Repository.LimitEdit
import DbGateway.Repository.LimitFrame
import DbGateway.Repository.Mediation
import DbGateway.Repository.Session
import DbGateway.Schema.Access
import DbGateway.SecurityExceptions.Gate
import DbGateway.Session.Store
import DbGateway.Sql.Allowlist
import DbGateway.Sql.Answers
import DbGateway.Sql.Approval
import DbGateway.Sql.Cleaner
import DbGateway.Sql.CleanerSound
import DbGateway.Sql.Columns
import DbGateway.Sql.Layout
import DbGateway.Sql.Lexer
import DbGateway.Sql.RowCap
import DbGateway.Sql.RowNoninterference
import DbGateway.Sql.Scan
import DbGateway.Sql.SelectList
import DbGateway.Sql.Semantics
import DbGateway.Sql.WellScoped
import DbGateway.Startup.Container
import DbGateway.Startup.Evaluator
import DbGateway.Tenant.Credentials
import DbGateway.Tenant.Probe
import DbGateway.Tenant.ReadOnlyUrl
import DbGateway.Tenant.Resolver
import DbGateway.Tenant.Services
import DbGateway.Tenant.ValidatorSound
import DbGateway.TextToSql.Aliases
import DbGateway.TextToSql.Generation
import DbGateway.TextToSql.Precheck
import DbGateway.TextToSql.Tree
