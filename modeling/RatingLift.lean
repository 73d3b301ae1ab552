import RatingLift.Audit.JsonSafe
import RatingLift.Audit.Lists
import RatingLift.Audit.Service
import RatingLift.Audit.Trail
import RatingLift.Audit.TrailRuns
import RatingLift.Auth.Account
import RatingLift.Auth.AccountGates
import RatingLift.Auth.AccountIsolation
import RatingLift.Auth.AccountWrites
import RatingLift.Auth.BlockRuns
import RatingLift.Auth.Bootstrap
import RatingLift.Auth.Checks
import RatingLift.Auth.ClientAddress
import RatingLift.Auth.CurrentUser
import RatingLift.Auth.Effects
import RatingLift.Auth.FailureCounts
import RatingLift.Auth.HonestClients
import RatingLift.Auth.IpBlocks
import RatingLift.Auth.Lockout
import RatingLift.Auth.Login
import RatingLift.Auth.LoginThrottle
import RatingLift.Auth.LoginWrites
import RatingLift.Auth.MfaDestinations
import RatingLift.Auth.MfaRequests
import RatingLift.Auth.MfaState
import RatingLift.Auth.Oauth
import RatingLift.Auth.PasswordReset
import RatingLift.Auth.Provenance
import RatingLift.Auth.RefreshRequests
import RatingLift.Auth.Registration
import RatingLift.Auth.Roles
import RatingLift.Auth.Rotation
import RatingLift.Auth.RouteRuns
import RatingLift.Auth.Routes
import RatingLift.Auth.Schemas
import RatingLift.Auth.SecondFactor
import RatingLift.Auth.Service
import RatingLift.Auth.Sessions
import RatingLift.Auth.SingleUse
import RatingLift.Auth.UserRows
import RatingLift.Auth.Validators
import RatingLift.Connectors.AdminRoutes
import RatingLift.Connectors.BindingRequests
import RatingLift.Connectors.BoundConnectors
import RatingLift.Connectors.Catalogue
import RatingLift.Connectors.CatalogueEffects
import RatingLift.Connectors.CatalogueTrail
import RatingLift.Connectors.FailureSafety
import RatingLift.Connectors.Lifecycle
import RatingLift.Connectors.LogoBackfill
import RatingLift.Connectors.LogoCalls
import RatingLift.Connectors.LogoFailures
import RatingLift.Connectors.LogoHashes
import RatingLift.Connectors.LogoIntegrity
import RatingLift.Connectors.Logos
import RatingLift.Connectors.Names
import RatingLift.Connectors.Reorder
import RatingLift.Connectors.Routes
import RatingLift.Connectors.Service
import RatingLift.Connectors.Slugs
import RatingLift.Connectors.SvgLogos
import RatingLift.Core.Config
import RatingLift.Core.Dependencies
import RatingLift.Core.Jwt
import RatingLift.Core.LocalStorage
import RatingLift.Core.MediaRoot
import RatingLift.Core.Middleware
import RatingLift.Core.S3Storage
import RatingLift.Core.Storage
import RatingLift.Core.StorageContract
import RatingLift.Core.StorageUrls
import RatingLift.Core.TenantContext
import RatingLift.Db.Flush
import RatingLift.Db.Models
import RatingLift.Db.Query
import RatingLift.Db.Seed
import RatingLift.Library.Assoc
import RatingLift.Library.CheckThenAct
import RatingLift.Library.Constraints
import RatingLift.Library.Ensure
import RatingLift.Library.ExpiringCounter
import RatingLift.Library.ExpiringStore
import RatingLift.Library.Fallible
import RatingLift.Library.Interleaving
import RatingLift.Library.Journal
import RatingLift.Library.KeyValue
import RatingLift.Library.Lockout
import RatingLift.Library.Noninterference
import RatingLift.Library.Paging
import RatingLift.Library.ReadThenDelete
import RatingLift.Library.Run
import RatingLift.Library.Scanner
import RatingLift.Library.Separated
import RatingLift.Library.Table
import RatingLift.Library.Wildcard
import RatingLift.Library.XmlProlog
import RatingLift.Listing.Pages
import RatingLift.Platform.Accounts
import RatingLift.Platform.AuthWrites
import RatingLift.Platform.Http
import RatingLift.Platform.Lists
import RatingLift.Platform.Runs
import RatingLift.Platform.TenantWrites
import RatingLift.Platform.Writes
import RatingLift.Property.BulkCreate
import RatingLift.Property.BulkDeactivate
import RatingLift.Property.Routes
import RatingLift.Property.Search
import RatingLift.Property.Service
import RatingLift.PropertyConnector.ActivationRuns
import RatingLift.PropertyConnector.Activations
import RatingLift.PropertyConnector.AdminReport
import RatingLift.PropertyConnector.BaseUrls
import RatingLift.PropertyConnector.BindingRows
import RatingLift.PropertyConnector.Confidentiality
import RatingLift.PropertyConnector.Credentials
import RatingLift.PropertyConnector.Offers
import RatingLift.PropertyConnector.Requests
import RatingLift.PropertyConnector.Routes
import RatingLift.PropertyConnector.Service
import RatingLift.Python.Json
import RatingLift.Python.Paths
import RatingLift.Python.Re
import RatingLift.Python.Str
import RatingLift.Python.Uuid
import RatingLift.Security.IpBlocking
import RatingLift.Security.LoginTracking
import RatingLift.Tenancy.Isolation
import RatingLift.Tenancy.View
