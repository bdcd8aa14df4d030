import Depot.Authorization
import Depot.Code
import Depot.CommandLine
import Depot.Config
import Depot.Error
import Depot.GraphQL.Document
import Depot.GraphQL.Execute
import Depot.GraphQL.Fetch
import Depot.GraphQL.Lexeme
import Depot.GraphQL.Request
import Depot.GraphQL.RootField
import Depot.GraphQL.Schema
import Depot.Http.Cookie
import Depot.Http.Document
import Depot.Http.Endpoint
import Depot.Http.MediaType
import Depot.Http.Message
import Depot.Http.Server
import Depot.Http.Service
import Depot.Inventory
import Depot.Json
import Depot.Json.Access
import Depot.Json.Decode
import Depot.Json.Draft
import Depot.Json.Pointer
import Depot.Loader
import Depot.Loader.Entities
import Depot.Loader.Timeline
import Depot.Operation.Accounts
import Depot.Operation.Containers
import Depot.Operation.Job
import Depot.Operation.Organizations
import Depot.Operation.Pallets
import Depot.Operation.Roles
import Depot.Operation.Users
import Depot.Organization
import Depot.Password
import Depot.Permission
import Depot.Principal
import Depot.Program
import Depot.Proofs.Accounting
import Depot.Proofs.Accounts
import Depot.Proofs.Addresses
import Depot.Proofs.Bookkeeping
import Depot.Proofs.Caching
import Depot.Proofs.Canonical
import Depot.Proofs.Clock
import Depot.Proofs.Code
import Depot.Proofs.Concealment
import Depot.Proofs.Course
import Depot.Proofs.Discipline
import Depot.Proofs.Disclosure
import Depot.Proofs.Distinct
import Depot.Proofs.Doors
import Depot.Proofs.Edits
import Depot.Proofs.Effects
import Depot.Proofs.Escalation
import Depot.Proofs.Failures
import Depot.Proofs.Footprint
import Depot.Proofs.Gathering
import Depot.Proofs.Grants
import Depot.Proofs.History
import Depot.Proofs.HostNames
import Depot.Proofs.Identity
import Depot.Proofs.Interleaving
import Depot.Proofs.Isolation
import Depot.Proofs.License
import Depot.Proofs.LifeCycle
import Depot.Proofs.Lifetime
import Depot.Proofs.Listing
import Depot.Proofs.Loads
import Depot.Proofs.Mailboxes
import Depot.Proofs.Mediation
import Depot.Proofs.Memory
import Depot.Proofs.Noninterference
import Depot.Proofs.Overlap
import Depot.Proofs.Ownership
import Depot.Proofs.PermissionLists
import Depot.Proofs.Profiles
import Depot.Proofs.Program
import Depot.Proofs.Reading
import Depot.Proofs.Registrations
import Depot.Proofs.Rendering
import Depot.Proofs.Requests
import Depot.Proofs.RequiredText
import Depot.Proofs.Responses
import Depot.Proofs.Run
import Depot.Proofs.Secrecy
import Depot.Proofs.Served
import Depot.Proofs.Sessions
import Depot.Proofs.Table
import Depot.Proofs.Token
import Depot.Proofs.Traceless
import Depot.Proofs.Transactions
import Depot.Proofs.Uniqueness
import Depot.Registration
import Depot.Role
import Depot.Sql.Cell
import Depot.Sql.Migrated
import Depot.Sql.Migration
import Depot.Sql.Repository
import Depot.Sql.Script
import Depot.Sql.Scripted
import Depot.Startup
import Depot.Store.Answer
import Depot.Store.Call
import Depot.Store.Fixture
import Depot.Store.Memory
import Depot.Tenancy
import Depot.Text.Blank
import Depot.Text.Bytes
import Depot.Text.CodeRanges
import Depot.Text.Composition
import Depot.Text.Digit
import Depot.Text.Direction
import Depot.Text.Domain
import Depot.Text.Domain.Mapping
import Depot.Text.EmailAddress
import Depot.Text.Integer
import Depot.Text.Joining
import Depot.Text.LowerCase
import Depot.Text.Marks
import Depot.Text.Pieces
import Depot.Text.Punycode
import Depot.Time
import Depot.Token.Base64
import Depot.Token.Claims
import Depot.Token.Sha256
import Depot.Uid
import Depot.User
import Depot.Main
import Depot.Proofs.Lookups
import Depot.Proofs.Passwords
import Depot.Proofs.References
import Depot.Proofs.Rounds
import Depot.Proofs.Updates
import Depot.Proofs.Onboarding
import Depot.Proofs.Archiving
import Depot.Proofs.OpenRoutes
import Depot.Proofs.ErrorAnswers
