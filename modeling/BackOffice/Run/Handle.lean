import BackOffice.Run.Context

/-!
The handle on which runs are begun. It counts them, and only the newest is current: whatever an older one
still learns is dropped. The context of a run that ends while it is current is kept for the next.
-/

namespace BackOffice

/-- Counts the runs that were begun. -/
structure EpochCounter where
  current : Nat := 0
deriving DecidableEq, Repr, Inhabited

namespace EpochCounter

/-- Begins another run, whose epoch is then the current one. -/
def advance (c : EpochCounter) : EpochCounter := ⟨c.current + 1⟩

def isCurrent (c : EpochCounter) (epoch : Nat) : Bool := c.current == epoch

end EpochCounter

/-- A run: its epoch and its context. -/
structure Run where
  epoch : Nat
  context : Context
  /-- Whether the run is known to be superseded. -/
  stale : Bool := false
  /-- Whether the run has ended before its groups were all run. -/
  halted : Bool := false
deriving Inhabited

/-- A handle: the count of its runs, and the context of the last run that was kept. -/
structure Handle where
  counter : EpochCounter := {}
  committed : Context := {}
deriving Inhabited

namespace Run

/-- Whether a newer run has begun on the handle. -/
def isStale (r : Run) (counter : EpochCounter) : Bool := r.stale || !counter.isCurrent r.epoch

end Run

namespace Handle

/-- Begins a run from a context. -/
def beginWith (h : Handle) (c : Context) : Handle × Run :=
  let counter := h.counter.advance
  ({ h with counter }, { epoch := counter.current, context := c.clearJournal })

/-- Begins a run from the context that was kept last. -/
def begin (h : Handle) : Handle × Run := h.beginWith h.committed

/-- Keeps the context of a run, unless it is superseded. -/
def commit (h : Handle) (r : Run) : Handle × Option Context :=
  if r.isStale h.counter then (h, none)
  else ({ h with committed := r.context.clearJournal }, some r.context.clearJournal)

end Handle

end BackOffice
