import OrderBookExchange.MatchingEngine
import OrderBookExchange.OrderBookInvariant
import OrderBookExchange.OrderBookUnlink
import OrderBookExchange.PriorityQueue
import OrderBookExchange.OrderBookQueue
import OrderBookExchange.BookRefinement
import OrderBookExchange.PriorityBook
import OrderBookExchange.MatchingRefinement
import OrderBookExchange.ExchangeRefinement
import OrderBookExchange.BookRepresentation
import OrderBookExchange.CleanBook
import OrderBookExchange.CleanRuns
import OrderBookExchange.ReferenceExchange
import OrderBookExchange.ReferenceSimulation
import OrderBookExchange.ReferenceRuns
import OrderBookExchange.LinkedBook
import OrderBookExchange.MatchConservation
import OrderBookExchange.ShareLedger
import OrderBookExchange.PositionCap
import OrderBookExchange.Protocol
import OrderBookExchange.TcpServer
import OrderBookExchange.RestingOrders
import OrderBookExchange.MatchWalk
import OrderBookExchange.TruncatedInput
import OrderBookExchange.WireOrders
import OrderBookExchange.ClientInterleaving
import OrderBookExchange.ExposureCap
import OrderBookExchange.ReplayHarness
import OrderBookExchange.ReplayCancels
import OrderBookExchange.Simulation
import OrderBookExchange.SimulationAccounts
import OrderBookExchange.TransitionHistory
import OrderBookExchange.BookRuns
import OrderBookExchange.TimestampErasure
import OrderBookExchange.EngineTally
import OrderBookExchange.SymbolIndependence
import OrderBookExchange.OrderHistory
import OrderBookExchange.OrderFate
import OrderBookExchange.LimitProtection
import OrderBookExchange.OrderIdentity
import OrderBookExchange.OrderCensus
import OrderBookExchange.ListCounts
import OrderBookExchange.StatsBalance
import OrderBookExchange.WireRoundTrip
import OrderBookExchange.KillSwitch
import OrderBookExchange.TapeReader
import OrderBookExchange.TapeReplay
import OrderBookExchange.PoolUsage
import OrderBookExchange.SlotRenaming
import OrderBookExchange.FreshObjects
import OrderBookExchange.MirrorSymmetry
import OrderBookExchange.FailedCalls
import OrderBookExchange.OrderReports
import OrderBookExchange.FilledShares
import OrderBookExchange.RestingStatus
import OrderBookExchange.CallbackView
import OrderBookExchange.CosmeticChange
import OrderBookExchange.ImmediateOrCancel
import OrderBookExchange.GridRounding
import OrderBookExchange.Binary64
import OrderBookExchange.FlatPositions
import OrderBookExchange.ExecutedNotional
import OrderBookExchange.MakerQuotes
import OrderBookExchange.QuotingDiscipline
import OrderBookExchange.PositionLimits
import OrderBookExchange.Ladder
import OrderBookExchange.ShelvedBook
import OrderBookExchange.LadderWalk
import OrderBookExchange.SplitAggressor
import OrderBookExchange.MonotoneExecution
import OrderBookExchange.DepthTotals
import OrderBookExchange.TapeRows
import OrderBookExchange.MalformedRows
import OrderBookExchange.ReplayCounts
import OrderBookExchange.MatchTermination
import OrderBookExchange.HistoryIndependence
import OrderBookExchange.LatencyStats
import OrderBookExchange.LockedObject
import OrderBookExchange.LockedEngine
import OrderBookExchange.ServerThreads
import OrderBookExchange.ServerShutdown
import OrderBookExchange.ServerConversations
import OrderBookExchange.GateAccounts
import OrderBookExchange.TimePriority
import OrderBookExchange.CheapestFill
import OrderBookExchange.BestExecution
import OrderBookExchange.ThroughputBench
import OrderBookExchange.BenchPhases
import OrderBookExchange.StaticGate
import OrderBookExchange.FrontEnds
import OrderBookExchange.RecordedAccounts
import OrderBookExchange.SimulationReport
import OrderBookExchange.ProfitAndLoss
import OrderBookExchange.RollingWindow
import OrderBookExchange.MomentumTrader
import OrderBookExchange.ReportStream
import OrderBookExchange.RiskGateSmoke
import OrderBookExchange.HistogramHandles
import OrderBookExchange.CountedLoop
import OrderBookExchange.SimulationRun
import OrderBookExchange.TickLoop
