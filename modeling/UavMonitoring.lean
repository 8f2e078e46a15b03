import UavMonitoring.CounterLoop
import UavMonitoring.Runs
import UavMonitoring.MapSweep
import UavMonitoring.BoundedQueue
import UavMonitoring.FirstMatch
import UavMonitoring.BestScan
import UavMonitoring.EventQueue
import UavMonitoring.WhileLoop
import UavMonitoring.Tally
import UavMonitoring.Silhouette
import UavMonitoring.LeastSquares
import UavMonitoring.Rounding
import UavMonitoring.PlaneSectors
import UavMonitoring.Basics
import UavMonitoring.EdsMonitor
import UavMonitoring.EdsRuns
import UavMonitoring.TeamHistory
import UavMonitoring.ReceptionLog
import UavMonitoring.LoadMonitor
import UavMonitoring.LoadRuns
import UavMonitoring.UdpRelay
import UavMonitoring.CoverageTracker
import UavMonitoring.PacketTrackers
import UavMonitoring.PacketRuns
import UavMonitoring.MeshPdr
import UavMonitoring.Firemen
import UavMonitoring.Clusters
import UavMonitoring.KMeans
import UavMonitoring.AverageSilhoutte
import UavMonitoring.ClusterReports
import UavMonitoring.CreateClusters
import UavMonitoring.SeedsManager
import UavMonitoring.SpringForces
import UavMonitoring.Headings
import UavMonitoring.AtgBoost
import UavMonitoring.Directions
import UavMonitoring.VirtualSprings
import UavMonitoring.PingLoop
import UavMonitoring.TokenIds
import UavMonitoring.PathToBs
import UavMonitoring.ControlSteps
import UavMonitoring.ControlRuns
import UavMonitoring.RangeApprox
import UavMonitoring.HistoryTimers
import UavMonitoring.SpeedVector
import UavMonitoring.RedundantGroup
import UavMonitoring.GoodConfigScenario
import UavMonitoring.Stiffness
import UavMonitoring.TokenStore
import UavMonitoring.DeadReckoning
import UavMonitoring.TeamSummaries
import UavMonitoring.Replicas
import UavMonitoring.TokenTraffic
import UavMonitoring.Fleet
import UavMonitoring.Bytes
import UavMonitoring.RecordStream
import UavMonitoring.MacCommands
import UavMonitoring.DeviceAddress
import UavMonitoring.AddressGenerator
import UavMonitoring.FrameHeader
import UavMonitoring.Spacing
import UavMonitoring.SubBands
import UavMonitoring.EndDeviceMac
import UavMonitoring.EndDevice
import UavMonitoring.EuRegion
import UavMonitoring.EndDeviceRuns
import UavMonitoring.ReceiveWindows
import UavMonitoring.Interference
import UavMonitoring.GatewayPhy
import UavMonitoring.GatewayRuns
import UavMonitoring.NetworkServer
import UavMonitoring.NetworkRuns
import UavMonitoring.Bookings
import UavMonitoring.Countdown
import UavMonitoring.Waterfall
