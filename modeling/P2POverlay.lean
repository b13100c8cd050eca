import P2POverlay.Common
import P2POverlay.StdMap
import P2POverlay.Node
import P2POverlay.Topology
import P2POverlay.TopologyInvariant
import P2POverlay.FindPath
import P2POverlay.Wire
import P2POverlay.MessageHandler
import P2POverlay.MessageCodec
import P2POverlay.Framing
import P2POverlay.DataExchange
import P2POverlay.Reassembly
import P2POverlay.ChunkAccounting
import P2POverlay.SendCancel
import P2POverlay.ReliableMessaging
import P2POverlay.AckRetry
import P2POverlay.MessageRouter
import P2POverlay.FloodRace
import P2POverlay.Overlay
import P2POverlay.NodeDiscovery
import P2POverlay.Membership
import P2POverlay.Registration
import P2POverlay.Connectivity
import P2POverlay.SharedTopology
import P2POverlay.Routing
import P2POverlay.Lifecycle
import P2POverlay.RosterRace
import P2POverlay.FailureDetection
import P2POverlay.Locks
import P2POverlay.LockDiscipline
import P2POverlay.Transport
import P2POverlay.LocalNode
import P2POverlay.SimulatedNode
import P2POverlay.NetworkSimulator
import P2POverlay.NodeProcess
