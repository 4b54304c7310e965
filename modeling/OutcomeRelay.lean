import OutcomeRelay.Config
import OutcomeRelay.Proofs.AtomicLog
import OutcomeRelay.Proofs.Borrowing
import OutcomeRelay.Proofs.CallProtocol
import OutcomeRelay.Proofs.Cancellation
import OutcomeRelay.Proofs.Configuration
import OutcomeRelay.Proofs.DroppedFutures
import OutcomeRelay.Proofs.Ending
import OutcomeRelay.Proofs.EnvelopeMembers
import OutcomeRelay.Proofs.Epochs
import OutcomeRelay.Proofs.ExactlyOnce
import OutcomeRelay.Proofs.FailedCreation
import OutcomeRelay.Proofs.FatalOutcome
import OutcomeRelay.Proofs.HttpAnswer
import OutcomeRelay.Proofs.LateAnswers
import OutcomeRelay.Proofs.LateSuccess
import OutcomeRelay.Proofs.Numbering
import OutcomeRelay.Proofs.Outstanding
import OutcomeRelay.Proofs.Pauses
import OutcomeRelay.Proofs.ReadyProducer
import OutcomeRelay.Proofs.Recovery
import OutcomeRelay.Proofs.Reporting
import OutcomeRelay.Proofs.RetryCounts
import OutcomeRelay.Proofs.RoundRobin
import OutcomeRelay.Proofs.Shutdown
import OutcomeRelay.Proofs.Whereabouts
import OutcomeRelay.Scenario.SlowProducer
import OutcomeRelay.Scenario.Steps
