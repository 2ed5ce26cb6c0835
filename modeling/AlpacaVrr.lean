import AlpacaVrr.Lib.SearchTree
import AlpacaVrr.Lib.FaultState
import AlpacaVrr.Lib.Lockstep
import AlpacaVrr.Lib.HeapSort
import AlpacaVrr.Lib.Reach
import AlpacaVrr.Lib.LinkedList
import AlpacaVrr.Lib.Fifo
import AlpacaVrr.Lib.Keyed
import AlpacaVrr.Lib.Watchdog
import AlpacaVrr.Lib.Tokens
import AlpacaVrr.Lib.Rounds
import AlpacaVrr.Core.Ring
import AlpacaVrr.Core.Vset
import AlpacaVrr.Core.RoutingTable
import AlpacaVrr.Core.Pset
import AlpacaVrr.Core.Packet
import AlpacaVrr.Core.Socket
import AlpacaVrr.Core.Node
import AlpacaVrr.Core.Send
import AlpacaVrr.Core.Input
import AlpacaVrr.Core.System
import AlpacaVrr.Core.Network
import AlpacaVrr.Core.Ether
import AlpacaVrr.Core.Wire
import AlpacaVrr.Core.Deferred
import AlpacaVrr.Core.Message
import AlpacaVrr.Core.Connection
import AlpacaVrr.Core.Segment
import AlpacaVrr.Core.Hosts
import AlpacaVrr.Core.Beacons
import AlpacaVrr.Theory.Frames
import AlpacaVrr.Theory.Decoding
import AlpacaVrr.Theory.RouteMap
import AlpacaVrr.Theory.NextHop
import AlpacaVrr.Theory.Delivery
import AlpacaVrr.Theory.VsetCounter
import AlpacaVrr.Theory.VsetOffers
import AlpacaVrr.Theory.Hops
import AlpacaVrr.Theory.SizeCheck
import AlpacaVrr.Theory.Rejection
import AlpacaVrr.Theory.Faults
import AlpacaVrr.Theory.HandlerSafety
import AlpacaVrr.Theory.TeardownNode
import AlpacaVrr.Theory.Teardown
import AlpacaVrr.Theory.Handlers
import AlpacaVrr.Theory.Advertised
import AlpacaVrr.Theory.Capacity
import AlpacaVrr.Theory.OneToOne
import AlpacaVrr.Theory.RoundTrip
import AlpacaVrr.Theory.Linked
import AlpacaVrr.Theory.Chain
import AlpacaVrr.Theory.Interleaving
import AlpacaVrr.Theory.Outcomes
import AlpacaVrr.Theory.Provenance
import AlpacaVrr.Theory.Agreement
import AlpacaVrr.Theory.Eviction
import AlpacaVrr.Theory.Payload
import AlpacaVrr.Theory.Ownership
import AlpacaVrr.Theory.Bootstrap
import AlpacaVrr.Theory.Requests
import AlpacaVrr.Theory.Setups
import AlpacaVrr.Theory.Repair
import AlpacaVrr.Theory.Weighing
import AlpacaVrr.Theory.Blind
import AlpacaVrr.Theory.Unwritten
import AlpacaVrr.Theory.CutShort
import AlpacaVrr.Theory.Exposed
import AlpacaVrr.Theory.RingOrder
import AlpacaVrr.Theory.RouteCopies
import AlpacaVrr.Theory.AddFailure
import AlpacaVrr.Theory.PathIds
import AlpacaVrr.Theory.Exclusion
import AlpacaVrr.Theory.PsetEvents
import AlpacaVrr.Theory.HelloUpdates
import AlpacaVrr.Theory.Detector
import AlpacaVrr.Theory.SocketTable
import AlpacaVrr.Theory.Emission
import AlpacaVrr.Theory.Traffic
import AlpacaVrr.Theory.Relays
import AlpacaVrr.Theory.DataDelivery
import AlpacaVrr.Theory.Messages
import AlpacaVrr.Theory.Establish
import AlpacaVrr.Theory.Greetings
import AlpacaVrr.Theory.Handshake
import AlpacaVrr.Theory.Permanence
import AlpacaVrr.Lib.Text
import AlpacaVrr.Core.Sysfs
import AlpacaVrr.Theory.Shown
import AlpacaVrr.Theory.Accounts
