import SootheClient.Frame.Next
import SootheClient.Turn.Boundary

/-!
# Feeding frames to the boundary

How `TurnRunner` hands the frames of a pooled connection to the turn boundary, and the two tests
it makes before the turn is armed.
-/

namespace SootheClient.Turn

open SootheClient.Frame

/-- Feed a message of the connection to the boundary. -/
def feedBoundary (boundary : TurnBoundary) (msg : Json) : TurnBoundary × Option String :=
  let frame := inner msg
  let eventType := frame.getStrD "type"
  if eventType = "status" then
    boundary.feedStatusTurn (frame.getStrD "state") (frameTurnId frame)
  else if eventType = "event" then
    boundary.feedEventTurn (frame.getStrD "mode") ((frame.get "data").getD .null)
      (frameTurnId frame)
  else (boundary, none)

def isStatusRunningEvent (msg : Json) : Bool :=
  let frame := inner msg
  frame.getStr "type" = some "status" && Text.eqIgnoreAsciiCase (frame.getStrD "state") "running"

/-- A terminal of an earlier turn, or a keep-alive idle. -/
def isStaleTurnEndEvent (msg : Json) : Bool :=
  let frame := inner msg
  let eventType := frame.getStrD "type"
  if eventType = "status" then
    ["idle", "stopped"].contains (Text.toAsciiLowercase (frame.getStrD "state"))
  else if eventType = "event" then
    frame.getStrD "mode" = "custom" && isTurnEndCustomData ((frame.get "data").getD .null)
  else false

/-- The call a message makes on the boundary, if any. -/
def callOf (msg : Json) : Option Call :=
  if (inner msg).getStrD "type" = "status" then
    some (.status ((inner msg).getStrD "state") (frameTurnId (inner msg)))
  else if (inner msg).getStrD "type" = "event" then
    some (.event ((inner msg).getStrD "mode") (((inner msg).get "data").getD .null)
      (frameTurnId (inner msg)))
  else none

variable {b : TurnBoundary} {msg : Json} {c : Call}

theorem callOf_status (h : (inner msg).getStrD "type" = "status") :
    callOf msg = some (.status ((inner msg).getStrD "state") (frameTurnId (inner msg))) :=
  if_pos h

theorem callOf_event (h : (inner msg).getStrD "type" = "event") :
    callOf msg = some (.event ((inner msg).getStrD "mode") (((inner msg).get "data").getD .null)
      (frameTurnId (inner msg))) := by
  unfold callOf
  rw [if_neg (by rw [h]; decide), if_pos h]

theorem callOf_other (hs : (inner msg).getStrD "type" ≠ "status")
    (he : (inner msg).getStrD "type" ≠ "event") : callOf msg = none := by
  unfold callOf
  rw [if_neg hs, if_neg he]

/-- Feeding a message is its call. -/
theorem feedBoundary_eq : feedBoundary b msg = (callOf msg).elim (b, none) b.feed := by
  unfold feedBoundary
  by_cases hs : (inner msg).getStrD "type" = "status"
  · rw [callOf_status hs]
    exact if_pos hs
  · by_cases he : (inner msg).getStrD "type" = "event"
    · rw [callOf_event he]
      show (if _ then _ else _) = _
      rw [if_neg hs]
      exact if_pos he
    · rw [callOf_other hs he]
      show (if _ then _ else _) = _
      rw [if_neg hs]
      exact if_neg he

end SootheClient.Turn
