import Jqe.ShippedAdapters
import Jqe.IdentityKept
import Jqe.ExecLimits
import Jqe.AuditOrder
import Jqe.AuditComplete
import Jqe.FailedRead
import Jqe.SignalBar
import Jqe.MainDay
import Jqe.DailyCap
import Jqe.EvidenceDurable
import Jqe.Cpcv
import Jqe.ConfirmationSound
import Jqe.Mt5SessionSound
import Jqe.PaperRefused
import Jqe.CampaignExit
import Jqe.IndicatorRange
import Jqe.PaperLeftover
import Jqe.PaperLoss
import Jqe.DerivRequestsSound
import Jqe.AlertsConfirmed
import Jqe.BacktestReport
import Jqe.BacktestLoss
import Jqe.Continuation
import Jqe.DashboardCounts
import Jqe.SafetyRoundTrip
import Jqe.ExecRoundTrip
import Jqe.FillAgain
import Jqe.ResolveSound
import Jqe.ShadowDrill
import Jqe.ReplayGates
import Jqe.TickReplay
import Jqe.VolumeProfileSound
import Jqe.DatasetFiles
import Jqe.HistoricalRange
import Jqe.Mt5Clock
import Jqe.Mt5Range
import Jqe.ObservationSampled
import Jqe.ConfirmedEntry
import Jqe.PboSound
import Jqe.ReplayBars
import Jqe.DailyLoss
import Jqe.Mt5Geometry
import Jqe.DerivRenewal
import Jqe.DerivReviewOrder
import Jqe.DerivHandoffSound
import Jqe.DerivLinkSound
import Jqe.DerivAuthSound
import Jqe.DerivSubmitSound
import Jqe.LegacyCacheSound
import Jqe.RandomControl
import Jqe.SignalCache
import Jqe.StratifiedControl
import Jqe.MarketScan
import Jqe.PlanLevels
