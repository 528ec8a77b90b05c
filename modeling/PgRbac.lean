import PgRbac.Policy
import PgRbac.Lib.Except
import PgRbac.Lib.Table
import PgRbac.Lib.Links
import PgRbac.Lib.Run
import PgRbac.Schema
import PgRbac.Repository
import PgRbac.Access
import PgRbac.Passwords
import PgRbac.Provisioning
import PgRbac.Authentication
import PgRbac.Operator
import PgRbac.Effects
import PgRbac.AccountEffects
import PgRbac.System
import PgRbac.Coherence
import PgRbac.Invariants
import PgRbac.Dominance
import PgRbac.Coalition
import PgRbac.Visibility
import PgRbac.Lib.Locks
import PgRbac.LockOrder
import PgRbac.Lib.Redis
import PgRbac.Sessions
import PgRbac.Watermark
import PgRbac.Registry
import PgRbac.Versions
import PgRbac.Predictions
import PgRbac.RoleVersions
import PgRbac.Logins
import PgRbac.Credentials
import PgRbac.Lib.RedisStrings
import PgRbac.RateLimit
import PgRbac.Windows
import PgRbac.Admission
import PgRbac.Backstop
import PgRbac.Captcha
import PgRbac.Challenges
import PgRbac.Contexts
import PgRbac.Tokens
import PgRbac.Revocation
import PgRbac.Lib.Groups
import PgRbac.Queries
import PgRbac.Refusals
import PgRbac.Allowances
import PgRbac.Batches
import PgRbac.Holder
import PgRbac.Lib.IpAddress
import PgRbac.LimiterKeys
import PgRbac.Sanitizer
import PgRbac.RoleRequests
import PgRbac.Outcomes
import PgRbac.Lib.Serial
import PgRbac.Registration
import PgRbac.NumericRange
import PgRbac.Lib.Queue
import PgRbac.LogQueue
import PgRbac.Observation
import PgRbac.Lib.Pattern
import PgRbac.Lib.PathMap
import PgRbac.SkillTree
import PgRbac.SkillUpdate
import PgRbac.SkillOutcome
import PgRbac.AuditValues
import PgRbac.BusinessPayloads
import PgRbac.PayloadSize
import PgRbac.Lib.Substitute
import PgRbac.Redaction
import PgRbac.Lib.Words
import PgRbac.Secrets
import PgRbac.Dependencies
import PgRbac.Locales
import PgRbac.Lib.Pool
import PgRbac.PasswordWork
import PgRbac.CountryCsv
import PgRbac.Lib.JsonReader
import PgRbac.Lib.JsonReadback
import PgRbac.TokenRecords
import PgRbac.Lib.ObjectGraph
import PgRbac.LogFormat
import PgRbac.Lib.Reservoir
import PgRbac.LoadProbe
import PgRbac.Guesses
import PgRbac.BusinessEvents
import PgRbac.Lib.Reshape
import PgRbac.Migrations
import PgRbac.Upgrades
import PgRbac.Upgradable
import PgRbac.Downgrades
import PgRbac.Lib.Fullmatch
