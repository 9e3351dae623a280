import ReputationKey.Review.GuestEditFence
import ReputationKey.Review.ObservationHead
import ReputationKey.Review.ObservationOutcomes
import ReputationKey.Review.DiscoveryWindow
import ReputationKey.Review.FailureLadder
import ReputationKey.Review.OracleHistory
import ReputationKey.Review.CommentEnvelope
import ReputationKey.Guest.ResponsePrivacy
import ReputationKey.Guest.FactLedger
import ReputationKey.Feed.QuietSearch
import ReputationKey.Inbox.CycleLog
import ReputationKey.Inbox.ReminderRun
import ReputationKey.Inbox.TargetCompletion
import ReputationKey.Portal.HistoryWalk
import ReputationKey.Portal.PublicationAgreement
import ReputationKey.Reporting.GoalNotices
import ReputationKey.Reporting.GoalArrival
import ReputationKey.Reporting.GoalSetback
import ReputationKey.Reporting.GoalRecommendation
import ReputationKey.Reporting.RatingGoalEvidence
import ReputationKey.Reporting.MonthlyPeriod
import ReputationKey.Identity.ConsentEpochs
import ReputationKey.Shared.GoogleQuotaSafety
import ReputationKey.Shared.WallClockInverse
import ReputationKey.Shared.CanonicalJsonFaithful
import ReputationKey.Shared.CsvSafety
import ReputationKey.Shared.RefreshLeadership
import ReputationKey.Ai.AdmissionGuarantees
import ReputationKey.Identity.LifecycleAuthority
import ReputationKey.Ai.CostSafety
import ReputationKey.Ai.Redactor
import ReputationKey.Shared.OutboxSafety
import ReputationKey.Shared.WorkLedger
import ReputationKey.Base.KeyedRecord
import ReputationKey.Portal.PublicationChanges
import ReputationKey.Portal.ApprovedDestination
import ReputationKey.Portal.CoverageAgreement
import ReputationKey.Portal.PortalLookOrder
import ReputationKey.Portal.LiveIntervals
import ReputationKey.Review.ReplyCommentRule
import ReputationKey.Portal.PrintCode
import ReputationKey.Review.AmbiguousLadder
import ReputationKey.Ai.FinancialChecksums
import ReputationKey.Ai.ReviewSentences
import ReputationKey.Shared.RefreshBackoff
import ReputationKey.Reporting.ShownNumber
import ReputationKey.Portal.PageEditKeys
import ReputationKey.Shared.ChartAxis
import ReputationKey.Ai.ReplyProgressReading
import ReputationKey.Review.DigestIdentity
import ReputationKey.Review.FailureClasses
import ReputationKey.Ai.AggregateSafety
import ReputationKey.Review.ObservedContent
import ReputationKey.Review.ReplyStates
