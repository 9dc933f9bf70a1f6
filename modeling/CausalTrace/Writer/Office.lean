import CausalTrace.Writer

/-!
# A writer and those outside

An office is a workplace together with someone outside it, who hands in events.  Once the writer
has begun, it goes on after each thing that is handed in until it has to wait.

Who only starts the writer does not learn what becomes of it.  The summary can be asked for once,
and only after the work was found to be done.
-/

namespace CausalTrace

/-- A workplace seen from outside. -/
structure Office (σ : Type) where
  work : Workplace σ
  /-- Whether the writer has begun. -/
  begun : Bool
  /-- Whether the work was found to be done, as long as the summary can be asked for. -/
  foundDone : Option Bool

namespace Office

variable {σ : Type} [Store σ]

/-- An office where work has not begun. -/
def new (work : Workplace σ) : Office σ := ⟨work, false, none⟩

/-- The writer goes on, if it has begun. -/
def goOn (office : Office σ) : Office σ :=
  if office.begun then { office with work := office.work.run } else office

/-- Has an event written past the channel. -/
def persist (office : Office σ) (event : Event) : Office σ × Except TraceError RecordId :=
  let work := office.work
  let (settlement, writer, store) := work.desk.writer.persist work.store event
  ({ office with work := { work with
      desk.writer := writer
      stats := work.stats.settle settlement
      store := store } },
    settlement.result work.desk.writer.next)

/-- Hands in an event; tells whether there was room for it. -/
def push (office : Office σ) (event : Event) : Office σ × Bool :=
  let (channel, phase) := office.work.channel.push event
  ({ office with work.channel := channel }.goOn, phase == .accepted)

/-- Announces that nothing more is handed in; tells how many events wait. -/
def close (office : Office σ) : Office σ × Nat :=
  let (channel, count) := office.work.channel.close
  ({ office with work.channel := channel }.goOn, count)

/-- Has the writer do its work, and gives the summary. -/
def run (office : Office σ) : Office σ × Summary :=
  let office := { office with begun := true }.goOn
  (office, office.work.desk.summary)

/-- Starts the writer. -/
def start (office : Office σ) : Office σ :=
  { office with begun := true, foundDone := some false }.goOn

/-- Finds out whether the work is done, if the writer was started. -/
def wait (office : Office σ) : Office σ × Bool :=
  let foundDone := office.foundDone.map fun _ => office.work.desk.isDone
  ({ office with foundDone := foundDone }, foundDone == some true)

/-- Asks for the summary. -/
def join (office : Office σ) : Office σ × Option Summary :=
  ({ office with foundDone := none },
    if office.foundDone = some true then office.work.desk.summary? else none)

end Office

end CausalTrace
