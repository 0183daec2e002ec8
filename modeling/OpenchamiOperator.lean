import OpenchamiOperator.Lib.Strings
import OpenchamiOperator.Lib.GoMap
import OpenchamiOperator.Lib.Json
import OpenchamiOperator.Lib.JsonText
import OpenchamiOperator.Lib.JsonDecode
import OpenchamiOperator.Lib.JsonBrackets
import OpenchamiOperator.Lib.JsonFields
import OpenchamiOperator.Lib.Patches
import OpenchamiOperator.Lib.Requests
import OpenchamiOperator.Lib.Store
import OpenchamiOperator.Lib.ServerSideApply
import OpenchamiOperator.Lib.GatewayApi
import OpenchamiOperator.Lib.Netip
import OpenchamiOperator.Lib.Url
import OpenchamiOperator.Lib.UrlBase
import OpenchamiOperator.Lib.Strconv
import OpenchamiOperator.Lib.Float64
import OpenchamiOperator.Lib.Duration
import OpenchamiOperator.Lib.Rfc3339
import OpenchamiOperator.Lib.Printf
import OpenchamiOperator.Lib.Sql
import OpenchamiOperator.Lib.NetipText
import OpenchamiOperator.Lib.GoNet
import OpenchamiOperator.Lib.NetworkPolicy
import OpenchamiOperator.Lib.VaultPolicy
import OpenchamiOperator.Lib.KubeNames
import OpenchamiOperator.Lib.Interaction
import OpenchamiOperator.Lib.Workers
import OpenchamiOperator.Lib.Watch
import OpenchamiOperator.Api.Types
import OpenchamiOperator.Api.Wire
import OpenchamiOperator.Api.Conditions
import OpenchamiOperator.Reconcilers.Helpers
import OpenchamiOperator.Reconcilers.Gateway
import OpenchamiOperator.Reconcilers.GatewayPass
import OpenchamiOperator.Reconcilers.GatewayPairing
import OpenchamiOperator.Reconcilers.GatewayRouting
import OpenchamiOperator.Reconcilers.GatewayRuns
import OpenchamiOperator.NetworkProbe.Target
import OpenchamiOperator.NetworkProbe.Revision
import OpenchamiOperator.NetworkProbe.Attachment
import OpenchamiOperator.Reconcilers.NetworkProbe
import OpenchamiOperator.Probe.Runner
import OpenchamiOperator.Probe.Attestation
import OpenchamiOperator.Api.Webhook
import OpenchamiOperator.Api.Admission
import OpenchamiOperator.Status.Reporter
import OpenchamiOperator.Status.Metrics
import OpenchamiOperator.Vault.Paths
import OpenchamiOperator.Vault.Policies
import OpenchamiOperator.Vault.Client
import OpenchamiOperator.S3.Client
import OpenchamiOperator.Controller.World
import OpenchamiOperator.Controller.Delete
import OpenchamiOperator.Controller.DeleteIsolation
import OpenchamiOperator.Controller.NameIsolation
import OpenchamiOperator.Controller.Reconcile
import OpenchamiOperator.Controller.Actions
import OpenchamiOperator.Reconcilers.Observed
import OpenchamiOperator.Reconcilers.Platform
import OpenchamiOperator.Reconcilers.Services
import OpenchamiOperator.Reconcilers.BootstrapToken
import OpenchamiOperator.Reconcilers.BootstrapFreshness
import OpenchamiOperator.Reconcilers.NetworkPolicies
import OpenchamiOperator.Reconcilers.PublicPaths
import OpenchamiOperator.Reconcilers.EgressPeers
import OpenchamiOperator.Reconcilers.NodeServices
import OpenchamiOperator.Reconcilers.DHCPRange
import OpenchamiOperator.Reconcilers.Edge
import OpenchamiOperator.Reconcilers.Topology
import OpenchamiOperator.Reconcilers.Logging
import OpenchamiOperator.Reconcilers.VaultSecrets
import OpenchamiOperator.Reconcilers.PodTemplates
import OpenchamiOperator.Vault.Protocol
import OpenchamiOperator.Vault.IssuerBase
import OpenchamiOperator.Vault.SharedIssuer
import OpenchamiOperator.Reconcilers.VaultCalls
import OpenchamiOperator.Reconcilers.AppRoleBinding
import OpenchamiOperator.Controller.VaultIsolation
import OpenchamiOperator.Reconcilers.VaultCredentials
import OpenchamiOperator.Controller.FullPass
import OpenchamiOperator.Controller.Ownership
import OpenchamiOperator.Controller.IdlePasses
import OpenchamiOperator.Controller.SwitchedOff
import OpenchamiOperator.Controller.DHCPGate
import OpenchamiOperator.Controller.StatusMemory
import OpenchamiOperator.Controller.ServiceURLs
import OpenchamiOperator.Controller.Phase
import OpenchamiOperator.Controller.ReadyRuns
import OpenchamiOperator.Controller.Readiness
import OpenchamiOperator.Controller.Gauges
import OpenchamiOperator.Controller.Watches
import OpenchamiOperator.Controller.DryRun
import OpenchamiOperator.Admin.Describe
import OpenchamiOperator.Admin.DescribeGap
import OpenchamiOperator.Controller.Workloads
import OpenchamiOperator.Controller.EgressTraffic
import OpenchamiOperator.Controller.References
import OpenchamiOperator.Controller.DerivedNames
import OpenchamiOperator.Controller.PassRequests
import OpenchamiOperator.Controller.Retries
import OpenchamiOperator.Controller.Territory
import OpenchamiOperator.Controller.ConcurrentPasses
import OpenchamiOperator.Admin.Backup
import OpenchamiOperator.Admin.Init
import OpenchamiOperator.Admin.Logs
