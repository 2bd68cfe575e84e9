import Freeciv3d.Metaserver.Proofs.Consistency
import Freeciv3d.Metaserver.Proofs.Lost
import Freeciv3d.Proxy.Proofs.RegistrySweep
import Freeciv3d.Proxy.GlobalQuery
import Freeciv3d.Proxy.Proofs.OfferedMoves
import Freeciv3d.Proxy.Proofs.CombatDelivery
import Freeciv3d.Proxy.Proofs.PortLeases
import Freeciv3d.Proxy.Proofs.Scope
import Freeciv3d.Proxy.Proofs.Isolation
import Freeciv3d.Proxy.Proofs.FailedRelease
import Freeciv3d.Proxy.TurnStart
import Freeciv3d.Proxy.Proofs.AuthDelivery
import Freeciv3d.Proxy.Proofs.PauseResume
import Freeciv3d.Proxy.Proofs.SlotOwners
import Freeciv3d.Gateway.Proofs.Resumption
import Freeciv3d.Gateway.Proofs.ConnectionCount
import Freeciv3d.Gateway.Proofs.TraceBounds
import Freeciv3d.Gateway.TurnChanges
import Freeciv3d.Gateway.Proofs.HealthVerdicts
import Freeciv3d.Gateway.Proofs.ConnectionSlots
import Freeciv3d.Gateway.Proofs.RequestOutcomes
import Freeciv3d.Gateway.Proofs.StreamResources
import Freeciv3d.Gateway.Proofs.ConnectionAuth
import Freeciv3d.Gateway.Proofs.TransformFidelity
import Freeciv3d.Proxy.Proofs.BackendOutcomes
import Freeciv3d.Proxy.Proofs.SingleResume
import Freeciv3d.Proxy.Proofs.AuthCredentials
import Freeciv3d.Proxy.Proofs.EndedPhase
import Freeciv3d.Proxy.Proofs.RestoredTimeout
import Freeciv3d.Gateway.Proofs.TokenLifecycle
import Freeciv3d.Gateway.Proofs.CleanEnding
import Freeciv3d.Proxy.Proofs.OutgoingOrder
import Freeciv3d.Proxy.FrameReader
import Freeciv3d.Proxy.Proofs.ResearchViews
import Freeciv3d.Proxy.Proofs.TechOffers
import Freeciv3d.Proxy.Proofs.WonderList
import Freeciv3d.Proxy.Proofs.ProductionOffers
import Freeciv3d.Proxy.Proofs.CacheEviction
import Freeciv3d.Proxy.Proofs.RedisWindow
import Freeciv3d.Proxy.Proofs.CacheReadBack
import Freeciv3d.Proxy.Proofs.MemoryBuckets
import Freeciv3d.Proxy.Proofs.LimiterCharges
import Freeciv3d.Proxy.Proofs.HandshakePermits
import Freeciv3d.Web.Proofs.TilesKept
import Freeciv3d.Web.Proofs.SingleRetry
import Freeciv3d.Web.TerrainReady
import Freeciv3d.Web.Proofs.SelectionRuns
import Freeciv3d.Web.Proofs.GotoArrives
import Freeciv3d.Web.Proofs.WorklistRuns
import Freeciv3d.Web.Proofs.ExtrasShown
import Freeciv3d.Web.Proofs.RoadsMirrored
import Freeciv3d.Proxy.Proofs.NamesMapBack
import Freeciv3d.Proxy.Proofs.MessagesExact
import Freeciv3d.Server.Proofs.MessagesDelivered
import Freeciv3d.Server.Proofs.ReadersInRange
import Freeciv3d.Server.Proofs.FramesHandled
import Freeciv3d.Server.Proofs.OrdersSound
import Freeciv3d.Server.Proofs.TreatiesSound
import Freeciv3d.Server.Proofs.InfoHidden
import Freeciv3d.Server.Proofs.PathsOptimal
import Freeciv3d.Server.Proofs.PathsIndependent
import Freeciv3d.Server.ReverseMap
import Freeciv3d.Server.Proofs.Disorder
import Freeciv3d.Proxy.Proofs.Invalidation
import Freeciv3d.Proxy.StateDelta
import Freeciv3d.Metaserver.Publite
import Freeciv3d.Proxy.PauseSends
import Freeciv3d.Proxy.Proofs.CanonicalKeys
import Freeciv3d.Proxy.ClientBatch
import Freeciv3d.Web.ObserverFraming
import Freeciv3d.Web.CityTileIndex
import Freeciv3d.Server.SpecPq
import Freeciv3d.Server.IdentityNumbers
import Freeciv3d.Server.PathEditing
import Freeciv3d.Server.WebGotoPath
import Freeciv3d.Web.TechGoal
import Freeciv3d.Web.Requirements
import Freeciv3d.Proxy.BitReaders
