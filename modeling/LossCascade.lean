import LossCascade.Main
import LossCascade.Proofs.Clock
import LossCascade.Proofs.Duration
import LossCascade.Proofs.Interval
import LossCascade.Proofs.Measure
import LossCascade.Proofs.NormalForm
import LossCascade.Proofs.Shifts
import LossCascade.Proofs.Occasions
import LossCascade.Proofs.WorkingTime
import LossCascade.Proofs.Edit
import LossCascade.Proofs.Stages
import LossCascade.Proofs.Records
import LossCascade.Proofs.Aggregation
import LossCascade.Proofs.Accounts
import LossCascade.Proofs.Overflow
import LossCascade.Proofs.Report
import LossCascade.Proofs.Calendar
import LossCascade.Proofs.Imported
import LossCascade.Proofs.Service
import LossCascade.Proofs.NotScheduled
import LossCascade.Proofs.Reordering
import LossCascade.Proofs.Isolation
import LossCascade.Proofs.Importing
import LossCascade.Proofs.Log
import LossCascade.Proofs.Readings
import LossCascade.Proofs.Configuration
import LossCascade.Proofs.Failures
import LossCascade.Proofs.Years
import LossCascade.Proofs.Changes
import LossCascade.Proofs.Coherence
import LossCascade.Proofs.Pareto
import LossCascade.Proofs.Seconds
import LossCascade.Proofs.Percentages
import LossCascade.Proofs.Dimensions
import LossCascade.Proofs.Binary64
import LossCascade.Proofs.WholeSeconds
import LossCascade.Proofs.Blanks
import LossCascade.Proofs.Units
import LossCascade.Proofs.Layout
import LossCascade.Proofs.Sheets
import LossCascade.Proofs.Storage
