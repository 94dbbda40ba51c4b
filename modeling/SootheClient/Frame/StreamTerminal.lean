import SootheClient.Lib.Json
import SootheClient.Lib.Text

/-!
# Terminal and progress payloads

Which custom payloads end a turn, and which chunks prove that it is making progress.
-/

namespace SootheClient.Frame

/-- Daemon turn-scoped stream end custom type. -/
def STREAM_END : String := "soothe.stream.end"

def STRANGE_LOOP_COMPLETED : String := "soothe.cognition.strange_loop.completed"
def PLAN_CREATED : String := "soothe.cognition.plan.created"
def STEP_STARTED : String := "soothe.cognition.strange_loop.step.started"
def STEP_QUEUED : String := "soothe.cognition.strange_loop.step.queued"
def STEP_COMPLETED : String := "soothe.cognition.strange_loop.step.completed"
def EVENT_CARD_CREATED : String := "soothe.card.created"
def EVENT_CARD_UPDATED : String := "soothe.card.updated"
def EVENT_CARD_FINALIZED : String := "soothe.card.finalized"

def isTurnEndType (t : String) : Bool := t = STREAM_END || t = STRANGE_LOOP_COMPLETED

def isTurnProgressType (t : String) : Bool :=
  [PLAN_CREATED, STEP_STARTED, STEP_QUEUED, STEP_COMPLETED, EVENT_CARD_CREATED,
    EVENT_CARD_UPDATED, EVENT_CARD_FINALIZED].contains t ||
    Text.startsWith t "soothe.cognition.strange_loop.step"

/-- `data` is a turn-scoped terminal custom payload. -/
def isTurnEndCustomData (data : Json) : Bool :=
  match data.asObject? with
  | none => false
  | some _ =>
    let customType := Text.trim (data.getStrD "type")
    if !isTurnEndType customType then false
    else if customType = STREAM_END then
      let scope := Text.toAsciiLowercase (Text.trim (data.getStrD "scope"))
      scope = "" || scope = "turn"
    else true

/-- The chunk proves non-intake turn progress. -/
def isTurnProgressChunk (mode : String) (data : Json) : Bool :=
  if mode = "messages" ∨ mode = "updates" then true
  else if mode ≠ "custom" then false
  else if isTurnEndCustomData data then false
  else
    match data.asObject? with
    | none => false
    | some _ => isTurnProgressType (Text.trim (data.getStrD "type"))

variable {mode : String} {data : Json}

/-- A terminal custom payload is no progress. -/
theorem not_progress_of_turnEnd (h : isTurnEndCustomData data = true) :
    isTurnProgressChunk "custom" data = false := by
  unfold isTurnProgressChunk
  rw [if_neg (by decide), if_neg (by decide), if_pos h]

end SootheClient.Frame
