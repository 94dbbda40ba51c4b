import SootheClient.Frame.Inbound
import SootheClient.Lib.Lines

/-!
# Wire texts

A text of the socket may hold several values, one on a line. `decodeMessage` reads the first of the
lines that `splitWirePayload` gives. The parser of a line is a parameter.
-/

namespace SootheClient.Frame

/-- Decode a text frame. -/
def decodeMessage (fromStr : String → Option Json) (text : String) : Option Json :=
  let trimmed := Text.trim text
  if Text.contains trimmed "\n" then
    match ((Text.lines trimmed).map Text.trim).find? (· ≠ "") with
    | some line => fromStr line
    | none => fromStr trimmed
  else fromStr trimmed

/-- Split a text payload into its values. -/
def splitWirePayload (data : String) : List String :=
  let trimmed := Text.trim data
  if trimmed = "" then []
  else
    let out := ((Text.lines trimmed).map Text.trim).filter (· ≠ "")
    if out = [] then [trimmed] else out

/-- The text is made of lines, and those that are not blank are the values, each printed and with
white space around it. -/
def IsPayload (print : Json → String) (vs : List Json) (text : String) : Prop :=
  ∃ lines : List String, lines ≠ [] ∧ (∀ line ∈ lines, '\n' ∉ line.toList) ∧
    text.toList = ['\n'].intercalate (lines.map String.toList) ∧
    lines.filterMap Text.nonBlank = vs.map print

variable {fromStr : String → Option Json} {print : Json → String} {v : Json} {vs : List Json}
  {text data : String}

theorem filled_lines (text : String) :
    ((Text.lines text).map Text.trim).filter (· ≠ "") = Text.held text := by
  rw [Text.filter_map_trim, Text.filterMap_lines]

theorem held_of_trim_empty (h : Text.trim data = "") : Text.held data = [] := by
  rw [← Text.held_trim, h]
  rfl

/-- The splitter gives what the lines hold. -/
theorem splitWirePayload_eq (data : String) : splitWirePayload data = Text.held data := by
  unfold splitWirePayload
  simp only [filled_lines, Text.held_trim]
  split_ifs with hempty hnone
  · exact (held_of_trim_empty hempty).symm
  · exact absurd hnone (Text.held_ne_nil hempty)
  · rfl

/-- **The two splitters.** The decoder parses the first of the lines that the splitter gives. -/
theorem decodeMessage_eq (fromStr : String → Option Json) (text : String) :
    decodeMessage fromStr text = fromStr ((splitWirePayload text).headD "") := by
  have hfirst : ((Text.lines (Text.trim text)).map Text.trim).find? (· ≠ "") =
      (Text.held text).head? := by
    rw [← List.head?_filter, filled_lines, Text.held_trim]
  rw [splitWirePayload_eq]
  unfold decodeMessage
  simp only [hfirst]
  by_cases hempty : Text.trim text = ""
  · rw [held_of_trim_empty hempty, hempty]
    exact ite_self _
  split_ifs with hnl
  · obtain ⟨line, rest, hheld⟩ := List.exists_cons_of_ne_nil (Text.held_ne_nil hempty)
    rw [hheld]
    rfl
  · have hline : Text.held (Text.trim text) = (Text.nonBlank (Text.trim text)).toList :=
      Text.held_of_line fun hin => hnl (Text.contains_newline.2 hin)
    rw [← Text.held_trim, hline, Text.nonBlank_of_trimmed (Text.trim_trim text) hempty]
    rfl

theorem IsPayload.split (h : IsPayload print vs text) : splitWirePayload text = vs.map print := by
  obtain ⟨lines, hne, hlines, htext, hvs⟩ := h
  rw [splitWirePayload_eq, Text.held_of_joined hne hlines htext, hvs]

/-- The decoder reads the first value of a payload. -/
theorem IsPayload.decode (h : IsPayload print (v :: vs) text) (hv : fromStr (print v) = some v) :
    decodeMessage fromStr text = some v := by
  rw [decodeMessage_eq, h.split, ← hv]
  rfl

theorem expandWireMessages_ne_nil (msg : Json) : expandWireMessages msg ≠ [] := by
  unfold expandWireMessages
  split_ifs
  · exact List.cons_ne_nil _ _
  · split
    · exact List.cons_ne_nil _ _
    · exact List.cons_ne_nil _ _

/-- Only a single value is all of its payload. -/
theorem expand_eq_iff : expandWireMessages v = (v :: vs).flatMap expandWireMessages ↔ vs = [] := by
  rw [List.flatMap_cons, List.self_eq_append_right, List.flatMap_eq_nil_iff]
  constructor
  · intro h
    exact List.eq_nil_iff_forall_not_mem.2 fun v hv => expandWireMessages_ne_nil v (h v hv)
  · rintro rfl v hv
    cases hv

end SootheClient.Frame
