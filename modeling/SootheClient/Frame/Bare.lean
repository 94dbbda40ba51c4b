import SootheClient.Frame.Next
import SootheClient.Frame.StalePending
import SootheClient.Frame.StreamTerminal
import SootheClient.Frame.TurnId

/-!
# Bare frames

Frames with the members that the end rules read and no others.
-/

namespace SootheClient.Frame

/-- A bare status frame. -/
def statusFrame (state : String) (turnId : Option String) : Json :=
  .obj ([("type", .str "status"), ("state", .str state)] ++
    turnId.toList.map fun t => ("turn_id", .str t))

/-- An event frame of a turn. -/
def eventFrame (mode turnId : String) (data : Json) : Json :=
  .obj [("type", .str "event"), ("mode", .str mode), ("turn_id", .str turnId), ("data", data)]

/-- A bare `stream.end` of a turn. -/
def streamEndFrame (turnId : String) : Json :=
  eventFrame "custom" turnId (.obj [("type", .str STREAM_END)])

variable {state e : String} {t : Option String}

theorem statusFrame_getStr :
    (statusFrame state t).getStr "type" = some "status" ∧
      (statusFrame state t).getStr "state" = some state ∧
      (statusFrame state t).getStr "loop_id" = none ∧
      (statusFrame state t).getStr "turn_id" = t ∧ (statusFrame state t).get "data" = none := by
  cases t with
  | none => exact ⟨rfl, rfl, rfl, rfl, rfl⟩
  | some u => exact ⟨rfl, rfl, rfl, rfl, rfl⟩

theorem inner_statusFrame : inner (statusFrame state t) = statusFrame state t :=
  inner_of_type (by rw [statusFrame_getStr.1]; decide)

theorem statusFrame_type : (inner (statusFrame state t)).getStrD "type" = "status" := by
  rw [inner_statusFrame, Json.getStrD, statusFrame_getStr.1]
  rfl

theorem statusFrame_state : (inner (statusFrame state t)).getStrD "state" = state := by
  rw [inner_statusFrame, Json.getStrD, statusFrame_getStr.2.1]
  rfl

theorem statusFrame_turnId (ht : Frame.Trimmed t) :
    frameTurnId (inner (statusFrame state t)) = t := by
  rw [inner_statusFrame]
  unfold frameTurnId
  rw [statusFrame_getStr.2.2.2.1, ht.bind_nonBlank, statusFrame_getStr.2.2.2.2]
  cases t <;> rfl

theorem inner_streamEndFrame : inner (streamEndFrame e) = streamEndFrame e :=
  inner_of_type (by
    show (some "event" : Option String) ≠ some "next"
    decide)

theorem streamEndFrame_type : (inner (streamEndFrame e)).getStrD "type" = "event" := by
  rw [inner_streamEndFrame]
  rfl

theorem streamEndFrame_turnId (he : Frame.Trimmed (some e)) :
    frameTurnId (inner (streamEndFrame e)) = some e := by
  have hget : (streamEndFrame e).getStr "turn_id" = some e := rfl
  rw [inner_streamEndFrame]
  unfold frameTurnId
  rw [hget, he.bind_nonBlank]

/-! ## Peel labels -/

theorem statusFrame_label : stalePendingFrameLabel (statusFrame state t) = none :=
  objectPendingLabel_of_type "status" rfl (by decide) (by decide)

theorem eventFrame_label {mode turnId : String} {data : Json} (h : mode ≠ "custom") :
    stalePendingFrameLabel (eventFrame mode turnId data) = none := by
  refine (objectPendingLabel_of_type "event" rfl (by decide) (by decide)).trans ?_
  exact (if_pos rfl).trans (if_neg h)

theorem streamEndFrame_label : stalePendingFrameLabel (streamEndFrame e) = some STREAM_END := by
  refine (objectPendingLabel_of_type "event" rfl (by decide) (by decide)).trans ?_
  rfl

end SootheClient.Frame
