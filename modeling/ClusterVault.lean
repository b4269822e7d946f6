import ClusterVault.Access.Control
import ClusterVault.Access.Permission
import ClusterVault.Activity.Basic
import ClusterVault.Api.Access
import ClusterVault.Api.Health
import ClusterVault.Api.Secrets
import ClusterVault.Api.Service
import ClusterVault.Calendar
import ClusterVault.Cluster.Basic
import ClusterVault.Cluster.Command
import ClusterVault.Cluster.IdSource
import ClusterVault.Cluster.Member
import ClusterVault.CommandLine.Arguments
import ClusterVault.CommandLine.Credentials
import ClusterVault.CommandLine.Settings
import ClusterVault.Engine.Config
import ClusterVault.Engine.Error
import ClusterVault.Files.FileSystem
import ClusterVault.Files.Path
import ClusterVault.Http.MediaType
import ClusterVault.Http.Message
import ClusterVault.Json.Number
import ClusterVault.Json.Reader
import ClusterVault.Json.Text
import ClusterVault.Json.Value
import ClusterVault.Keyspace.Basic
import ClusterVault.Keyspace.Transaction
import ClusterVault.Main
import ClusterVault.Network.Basic
import ClusterVault.Network.Client
import ClusterVault.Network.Start
import ClusterVault.Node.Acquire
import ClusterVault.Node.AuthSetup
import ClusterVault.Node.Error
import ClusterVault.Node.Launch
import ClusterVault.Node.Names
import ClusterVault.Node.Options
import ClusterVault.Node.Procedure
import ClusterVault.Node.Repair
import ClusterVault.Pki.Authority
import ClusterVault.Pki.Certificate
import ClusterVault.Pki.CertificateReader
import ClusterVault.Pki.Der
import ClusterVault.Pki.Error
import ClusterVault.Pki.Identity
import ClusterVault.Pki.MemberPair
import ClusterVault.Pki.Pem
import ClusterVault.Proofs.Access.Checks
import ClusterVault.Proofs.Access.Grants
import ClusterVault.Proofs.Access.LastGrant
import ClusterVault.Proofs.Access.Permission
import ClusterVault.Proofs.Access.SetUp
import ClusterVault.Proofs.Access.Sound
import ClusterVault.Proofs.Activity.Follows
import ClusterVault.Proofs.Activity.Obeys
import ClusterVault.Proofs.Activity.Running
import ClusterVault.Proofs.Activity.Steps
import ClusterVault.Proofs.Activity.Timed
import ClusterVault.Proofs.Activity.Yields
import ClusterVault.Proofs.Api.Decoding
import ClusterVault.Proofs.Api.FailedWrites
import ClusterVault.Proofs.Api.Orders
import ClusterVault.Proofs.Api.Performing
import ClusterVault.Proofs.Api.Secrets
import ClusterVault.Proofs.Cluster.Authority
import ClusterVault.Proofs.Cluster.Clock
import ClusterVault.Proofs.Cluster.CompareAndSwap
import ClusterVault.Proofs.Cluster.Confinement
import ClusterVault.Proofs.Cluster.Expiry
import ClusterVault.Proofs.Cluster.Granting
import ClusterVault.Proofs.Cluster.LeaseAgreement
import ClusterVault.Proofs.Cluster.Noninterference
import ClusterVault.Proofs.Cluster.Query
import ClusterVault.Proofs.Cluster.Refusals
import ClusterVault.Proofs.Cluster.Registry
import ClusterVault.Proofs.Cluster.Run
import ClusterVault.Proofs.Cluster.Strangers
import ClusterVault.Proofs.Cluster.Transaction
import ClusterVault.Proofs.Cluster.Trusted
import ClusterVault.Proofs.Files.Contents
import ClusterVault.Proofs.Files.Paths
import ClusterVault.Proofs.Keyspace.Consistent
import ClusterVault.Proofs.Keyspace.Effect
import ClusterVault.Proofs.Keyspace.Expiry
import ClusterVault.Proofs.Keyspace.Run
import ClusterVault.Proofs.Keyspace.Table
import ClusterVault.Proofs.Keyspace.View
import ClusterVault.Proofs.Network.FailedStart
import ClusterVault.Proofs.Network.Joining
import ClusterVault.Proofs.Network.LateJoin
import ClusterVault.Proofs.Network.Listeners
import ClusterVault.Proofs.Network.Locality
import ClusterVault.Proofs.Network.MemberIds
import ClusterVault.Proofs.Network.MemberUrls
import ClusterVault.Proofs.Network.Membership
import ClusterVault.Proofs.Network.Moves
import ClusterVault.Proofs.Network.Reaching
import ClusterVault.Proofs.Network.Removing
import ClusterVault.Proofs.Network.Restart
import ClusterVault.Proofs.Network.Servers
import ClusterVault.Proofs.Node.Acquiring
import ClusterVault.Proofs.Node.AuthSetup
import ClusterVault.Proofs.Node.Convergence
import ClusterVault.Proofs.Node.Denials
import ClusterVault.Proofs.Node.FailedLaunch
import ClusterVault.Proofs.Node.Fleet
import ClusterVault.Proofs.Node.InitialMembers
import ClusterVault.Proofs.Node.Launching
import ClusterVault.Proofs.Node.Names
import ClusterVault.Proofs.Node.Numbering
import ClusterVault.Proofs.Node.Peers
import ClusterVault.Proofs.Node.Protocol
import ClusterVault.Proofs.Node.Registration
import ClusterVault.Proofs.Node.Rejoin
import ClusterVault.Proofs.Node.RepairedPeers
import ClusterVault.Proofs.Node.Repairing
import ClusterVault.Proofs.Node.Requests
import ClusterVault.Proofs.Node.Routing
import ClusterVault.Proofs.Node.SecondCluster
import ClusterVault.Proofs.Node.SingleCluster
import ClusterVault.Proofs.Node.Undertaking
import ClusterVault.Proofs.Node.UsableStore
import ClusterVault.Proofs.Node.Waiting
import ClusterVault.Proofs.Pki.AuthorityFiles
import ClusterVault.Proofs.Secrets.Agreement
import ClusterVault.Proofs.Secrets.Calls
import ClusterVault.Proofs.Secrets.Kept
import ClusterVault.Proofs.Secrets.Refinement
import ClusterVault.Proofs.Secrets.Replies
import ClusterVault.Proofs.Secrets.Requests
import ClusterVault.Proofs.Secrets.Stored
import ClusterVault.Proofs.Secrets.Undone
import ClusterVault.Proofs.Secrets.Vault
import ClusterVault.Proofs.Secrets.World
import ClusterVault.Proofs.Text.ByteOrder
import ClusterVault.Proofs.Text.Composed
import ClusterVault.Proofs.Text.Splitting
import ClusterVault.Proofs.Url.Idna
import ClusterVault.Proofs.Url.Kept
import ClusterVault.Proofs.Url.Plain
import ClusterVault.Proofs.Url.Punycode
import ClusterVault.Proofs.Url.Reading
import ClusterVault.Secrets.Store
import ClusterVault.Simulation.Deployment
import ClusterVault.Simulation.Script
import ClusterVault.Simulation.System
import ClusterVault.Simulation.Task
import ClusterVault.Text.Base64
import ClusterVault.Text.Bytes
import ClusterVault.Text.Composition
import ClusterVault.Text.Composition.Table
import ClusterVault.Text.Decimal
import ClusterVault.Text.HexTable
import ClusterVault.Text.Hidden
import ClusterVault.Text.Quoted
import ClusterVault.Text.Split
import ClusterVault.Time
import ClusterVault.Url.Address
import ClusterVault.Url.Basic
import ClusterVault.Url.Host
import ClusterVault.Url.Idna
import ClusterVault.Url.Idna.Direction
import ClusterVault.Url.Idna.Joining
import ClusterVault.Url.Idna.Mapping
import ClusterVault.Url.Parser
import ClusterVault.Url.Percent
import ClusterVault.Url.Punycode
