import SootheClient.Frame.Inbound

/-!
# Stale pending frames

Which frames are peeled off the inbound queue at the start of a turn. The label goes by the shape
of a frame and looks through any number of `next` envelopes.
-/

namespace SootheClient.Frame

open Json (Members)

def EVENT_CARD_REPLAY_BEGIN : String := "soothe.card.replay.begin"
def EVENT_CARD_REPLAY_END : String := "soothe.card.replay.end"

def isStalePendingType (t : String) : Bool :=
  ["connection_ack", "complete", EVENT_CARD_REPLAY_BEGIN, EVENT_CARD_REPLAY_END,
    EVENT_CARD_CREATED].contains t

/-- The label of a terminal custom event. -/
def terminalLabel (event : Members) : Option String :=
  if valueAsStr (event.get "mode") = "custom" then
    match event.get "data" with
    | none => none
    | some data =>
      if isTurnEndCustomData data then Text.nonBlank (data.getStrD "type") else none
  else none

/-- The peel label of an object; a `next` frame has that of the object it carries. -/
def objectPendingLabel (event : Members) : Option String :=
  let eventType := valueAsStr (event.get "type")
  if isStalePendingType eventType then some eventType
  else if eventType = "next" then
    match hp : (event.get "payload").bind Json.asObject? with
    | none => none
    | some payload =>
      let staleMode := valueAsStr (payload.get "mode")
      if isStalePendingType staleMode then some staleMode
      else
        match hi : (payload.get "data").bind Json.asObject? with
        | none => none
        | some inner =>
          have : sizeOf inner < sizeOf event :=
            (sizeOf_lt_of_getObject hi).trans (sizeOf_lt_of_getObject hp)
          objectPendingLabel inner
  else if eventType = "event" then terminalLabel event
  else none
termination_by sizeOf event

/-- A peel label when the frame is taken for safe to drop at the start of a turn. -/
def stalePendingFrameLabel (event : Json) : Option String := event.asObject?.bind objectPendingLabel

/-- The label of a frame that is not wrapped. -/
theorem objectPendingLabel_of_type {event : Members} (eventType : String)
    (h : valueAsStr (event.get "type") = eventType) (hstale : isStalePendingType eventType = false)
    (hnext : eventType ≠ "next") :
    objectPendingLabel event = if eventType = "event" then terminalLabel event else none := by
  rw [objectPendingLabel]
  simp only [h]
  rw [if_neg (by rw [hstale]; decide), if_neg hnext]

end SootheClient.Frame
