import CausalTrace.Channel
import CausalTrace.Powers

/-!
# Counting what became of events

Every captured event is accounted for once: it was dropped or rejected by the channel, or it
was persisted, failed or was lost behind it.
-/

namespace CausalTrace

/-- What a pipeline counts besides its channel.  The counters are natural numbers and do not run
over. -/
structure Stats where
  /-- Reserved headers that could not be read. -/
  malformed : Nat
  persisted : Nat
  /-- Events that the store did not accept. -/
  failed : Nat
  /-- Events left in the channel when time was up. -/
  lost : Nat
  deriving DecidableEq, Repr, Inhabited

namespace Stats

/-- All zero. -/
def zero : Stats := ⟨0, 0, 0, 0⟩

end Stats

/-- All counts at one moment. -/
structure Counts where
  enqueued : Nat
  dropped : Nat
  rejected : Nat
  malformed : Nat
  persisted : Nat
  failed : Nat
  lost : Nat
  deriving DecidableEq, Repr, Inhabited

/-- The counts of a pipeline and of its channel, if it has one. -/
def Stats.snapshot (stats : Stats) (channel : Option ChannelMetrics) : Counts where
  enqueued := (channel.map ChannelMetrics.pushed).getD 0
  dropped := (channel.map ChannelMetrics.dropped).getD 0
  rejected := (channel.map ChannelMetrics.rejected).getD 0
  malformed := stats.malformed
  persisted := stats.persisted
  failed := stats.failed
  lost := stats.lost

/-- Every event that was captured and not persisted.  The sum is kept in 64 bits and starts
over after the largest number. -/
def Counts.totalLost (counts : Counts) : Nat :=
  (counts.dropped + counts.rejected + counts.failed + counts.lost) % 2 ^ 64

end CausalTrace
