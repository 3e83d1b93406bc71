import ClusterLink.Node.Mock
import ClusterLink.Scenario.Call
import ClusterLink.Scenario.MockSession
import ClusterLink.Scenario.Opening
import ClusterLink.Wire.Features
import ClusterLink.Proofs.Client.Hints
import ClusterLink.Proofs.Client.Waiting
import ClusterLink.Proofs.Client.Shutdown
import ClusterLink.Proofs.Provider.Freshness
import ClusterLink.Proofs.Provider.Interference
import ClusterLink.Proofs.Provider.Sharing
import ClusterLink.Proofs.Provider.Traffic
import ClusterLink.Proofs.Resolver.Cancellation
import ClusterLink.Proofs.Resolver.Failures
import ClusterLink.Proofs.Resolver.Membership
import ClusterLink.Proofs.Resolver.Search
import ClusterLink.Proofs.Resolver.Sharing
import ClusterLink.Proofs.Client.Health
import ClusterLink.Proofs.Client.Recovery
import ClusterLink.Proofs.Connection.Turnover
import ClusterLink.Proofs.Resolver.Orders
import ClusterLink.Proofs.Connection.Custody
import ClusterLink.Proofs.Provider.Retries
import ClusterLink.Proofs.Client.Tables
import ClusterLink.Proofs.Client.Rediscovery
import ClusterLink.Proofs.Client.Preference
import ClusterLink.Proofs.Node.Ranking
import ClusterLink.Proofs.Node.Ties
import ClusterLink.Proofs.Connection.Reconciliation
import ClusterLink.Proofs.Wire.RoundTrip
import ClusterLink.Proofs.Wire.Extension
import ClusterLink.Proofs.Failure.Classification
import ClusterLink.Proofs.Client.Options
import ClusterLink.Proofs.Connection.Conservation
import ClusterLink.Proofs.Provider.Stopping
import ClusterLink.Proofs.Provider.Fates
import ClusterLink.Proofs.Resolver.Ticks
import ClusterLink.Proofs.Time.Growth
import ClusterLink.Proofs.Failure.Addresses
import ClusterLink.Proofs.Node.Capabilities
import ClusterLink.Proofs.Provider.Streams
import ClusterLink.Proofs.Provider.Rounds
import ClusterLink.Proofs.Node.Hashing
