import Basement.Api.BackupSchedules
import Basement.Api.Backups
import Basement.Api.BucketListing
import Basement.Api.Elevation
import Basement.Api.InviteRedemption
import Basement.Api.ObjectKeys
import Basement.Api.Provisioning
import Basement.Api.RegionTree
import Basement.Api.Regions
import Basement.Api.RequestedLifetimes
import Basement.Api.ShareDownloads
import Basement.Api.ShareListing
import Basement.Api.ShareScope
import Basement.Api.Shares
import Basement.Api.Syncs
import Basement.Api.UserDeletion
import Basement.Audit.Log
import Basement.ClusterSecrets.Manager
import Basement.ClusterSecrets.OneKey
import Basement.Config.RandomPassword
import Basement.Drivers.Coherence
import Basement.Drivers.Copy
import Basement.Drivers.CopySource
import Basement.Drivers.GarageAliases
import Basement.Drivers.GarageLayout
import Basement.Drivers.Lifecycle
import Basement.Drivers.Listing
import Basement.Drivers.Registry
import Basement.Drivers.RetentionDays
import Basement.Drivers.Storage
import Basement.Drivers.VersionHistory
import Basement.Federation.Deletes
import Basement.Federation.Diff
import Basement.Federation.Edits
import Basement.Federation.EventPath
import Basement.Federation.EventRuns
import Basement.Federation.Events
import Basement.Federation.Failover
import Basement.Federation.Handover
import Basement.Federation.InSync
import Basement.Federation.Names
import Basement.Federation.ParallelBatch
import Basement.Federation.PollingPass
import Basement.Federation.Progress
import Basement.Federation.Promotions
import Basement.Federation.QuietPass
import Basement.Federation.QuietRun
import Basement.Federation.Records
import Basement.Federation.Replication
import Basement.Federation.Requests
import Basement.Federation.Selection
import Basement.Federation.Store
import Basement.Federation.Types
import Basement.Federation.Watchdog
import Basement.Federation.Watermark
import Basement.Frontend.BulkKeyFiles
import Basement.Frontend.BulkKeyReading
import Basement.Frontend.BulkKeyTables
import Basement.Frontend.BulkKeys
import Basement.Frontend.SafeNext
import Basement.Gateway.Backend
import Basement.Gateway.Folders
import Basement.Gateway.Paths
import Basement.Gateway.Puts
import Basement.Gateway.Removals
import Basement.Gateway.Renames
import Basement.Library.AtomicReplace
import Basement.Library.Calendar
import Basement.Library.CompareAndSwap
import Basement.Library.Directory
import Basement.Library.DurableFiles
import Basement.Library.Erasure
import Basement.Library.Grants
import Basement.Library.Json
import Basement.Library.Keys
import Basement.Library.Layout
import Basement.Library.PercentEncoding
import Basement.Library.RecentLog
import Basement.Library.RingBuffer
import Basement.Library.Rows
import Basement.Library.SavedMemory
import Basement.Library.ScopePatterns
import Basement.Library.SlidingWindows
import Basement.Library.SortedStore
import Basement.Library.TaggedCache
import Basement.Library.TextFields
import Basement.Library.Traces
import Basement.Library.Transition
import Basement.Library.TrimmedText
import Basement.Library.Weights
import Basement.Mcp.Handshake
import Basement.Mcp.Server
import Basement.Metrics.Recorder
import Basement.Policies.Decisions
import Basement.Policies.Enforcer
import Basement.Policies.Invariants
import Basement.Policies.ManualGrants
import Basement.Policies.Permissions
import Basement.Policies.Reconciliation
import Basement.Policies.Restart
import Basement.Policies.Rollback
import Basement.ServiceAccounts.Authority
import Basement.ServiceAccounts.Gates
import Basement.ServiceAccounts.Identity
import Basement.ServiceAccounts.Lifetimes
import Basement.ServiceAccounts.Policy
import Basement.ServiceAccounts.Reach
import Basement.ServiceAccounts.Sessions
import Basement.ServiceAccounts.Store
import Basement.Sessions.ActiveRoles
import Basement.Sessions.AdminMode
import Basement.Sessions.Confirmation
import Basement.Sessions.Lifetime
import Basement.Sessions.Passwords
import Basement.Sessions.Server
import Basement.Settings.Edits
import Basement.Settings.GroupMappingRuns
import Basement.Settings.GroupMappings
import Basement.Settings.OrgCapabilities
import Basement.Settings.Reload
import Basement.Skins.Catalogue
import Basement.Skins.Choices
import Basement.Skins.Registry
import Basement.Skins.System
import Basement.Snapshots.Naming
import Basement.Snapshots.NamingLaws
import Basement.Snapshots.Overlap
import Basement.Snapshots.PrunePlan
import Basement.Snapshots.Pruning
import Basement.Snapshots.Renames
import Basement.Snapshots.Restore
import Basement.Snapshots.Retention
import Basement.Snapshots.Runs
import Basement.Snapshots.Windows
import Basement.Store.Backups
import Basement.Store.ConnectionEdits
import Basement.Store.Connections
import Basement.Store.DataDirectory
import Basement.Store.FailedWrites
import Basement.Store.Invites
import Basement.Store.RegionKeys
import Basement.Store.UserRegions
import Basement.Store.Users
import Basement.Syncs.Completion
import Basement.Syncs.Counters
import Basement.Syncs.Deletion
import Basement.Syncs.Engine
import Basement.Syncs.Generations
import Basement.Syncs.Pausing
import Basement.Syncs.Planning
import Basement.Uploads.Aborts
import Basement.Uploads.Landing
import Basement.Uploads.Multipart
import Basement.Webhooks.AutoDisable
import Basement.Webhooks.DialGuard
import Basement.Webhooks.Dispatch
import Basement.Webhooks.Hooks
import Basement.Webhooks.LostEdits
import Basement.Webhooks.Subscription
import Basement.Webhooks.TestDelivery
