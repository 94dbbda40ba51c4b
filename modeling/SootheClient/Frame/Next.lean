import SootheClient.Lib.Json

/-!
# The `next` envelope

A daemon frame comes bare or inside the payload of a `next` frame. `inner` is the frame that the
readers look at.
-/

namespace SootheClient.Frame

/-- The payload object of a `next` frame; any other message as it is. -/
def unwrapNext (msg : Json) : Json :=
  match msg.asObject? with
  | none => msg
  | some obj =>
    if (obj.get "type").bind Json.asStr? ≠ some "next" then msg
    else
      match (obj.get "payload").bind Json.asObject? with
      | none => msg
      | some payload =>
        match payload.get "data" with
        | some data => if data.asObject?.isSome then data else msg
        | none => msg

/-- The frame of a message: unwrapped when its type is `next`. -/
def inner (msg : Json) : Json :=
  if msg.getStr "type" = some "next" then unwrapNext msg else msg

variable {msg : Json}

theorem inner_of_type (h : msg.getStr "type" ≠ some "next") : inner msg = msg := if_neg h

/-- Only `next` frames are unwrapped. -/
theorem unwrapNext_eq_inner : unwrapNext msg = inner msg := by
  by_cases h : msg.getStr "type" = some "next"
  · exact (if_pos h).symm
  · rw [inner_of_type h]
    unfold unwrapNext
    cases msg with
    | obj m => exact if_pos h
    | null | bool | num | str | arr => rfl

end SootheClient.Frame
