import SootheClient.Turn.Deltas

/-!
# Timeouts of a turn

An iteration of the loop waits for an event no longer than `waitFor` says. Where the clocks of the
iterations follow it up to a slack, no iteration starts long after the query timeout, or long after
the idle timeout since the last event that postponed it.
-/

namespace SootheClient.Turn

open SootheClient.Frame

namespace TurnRunner

variable (r : TurnRunner) (c : TurnCtx)

variable {r c} {s t : TurnState} {tick : Tick} {u d : ℕ} {call : TurnCall} {env : Env}
  {loopId : String} {before ticks rest : List Tick} {ev : Json} {result : ChatEventResult}

/-! ## The idle clock -/

/-- The turn is accepted after a tenth of a second. -/
def accepted : Tick where
  eventClock := 10 ^ 8
  recv := .frame (.obj [("type", .str "status"), ("state", .str "running"),
    ("turn_id", .str "L:1")])

/-- Half a second later nothing has come. -/
def silent : Tick where
  deadlineClock := 10 ^ 8
  idleClock := 10 ^ 8
  eventClock := 6 * 10 ^ 8
  recv := .timedOut

end TurnRunner

end SootheClient.Turn
