import ServiceExposure.Api.Script
import ServiceExposure.Api.Store
import ServiceExposure.Cluster
import ServiceExposure.Json.Settled
import ServiceExposure.Main
import ServiceExposure.Proofs.Isolation
import ServiceExposure.Proofs.Reading
import ServiceExposure.Proofs.Recovery
import ServiceExposure.Watch
import ServiceExposure.Proofs.ConcurrentEdits
import ServiceExposure.Proofs.IngressAgreement
import ServiceExposure.Proofs.Watching
import ServiceExposure.Proofs.Withdrawal
import ServiceExposure.Proofs.Fingerprints
import ServiceExposure.Proofs.Replay
import ServiceExposure.Proofs.Confinement
import ServiceExposure.Proofs.Undoing
import ServiceExposure.Proofs.Bindings
import ServiceExposure.Proofs.Following
import ServiceExposure.Proofs.Commutation
import ServiceExposure.Proofs.Lifecycle
import ServiceExposure.Proofs.RecordedAddress
import ServiceExposure.Proofs.Metrics
import ServiceExposure.Proofs.LineGrowth
import ServiceExposure.Proofs.FanOut
import ServiceExposure.Proofs.Templates
import ServiceExposure.Proofs.FingerprintText
import ServiceExposure.Proofs.MovedOnDocuments
import ServiceExposure.Proofs.RouteAgreement
import ServiceExposure.Proofs.ApplicationNames
import ServiceExposure.Proofs.HostPorts
import ServiceExposure.Proofs.UrlForms
import ServiceExposure.Proofs.Selection
import ServiceExposure.Proofs.ListingOrder
import ServiceExposure.Proofs.RouteDocuments
import ServiceExposure.Proofs.JoinedPaths
import ServiceExposure.Proofs.VariableNames
