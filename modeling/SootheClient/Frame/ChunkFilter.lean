import SootheClient.Lib.Json
import SootheClient.Lib.Text

/-!
# Early chunk filter

Which stream chunks are skipped before the turn pipeline: `updates` without an interrupt, and
`messages` whose first item says nothing.
-/

namespace SootheClient.Frame

open Json (Members)

def updatesChunkIsNoop (data : Json) : Bool :=
  match data.asObject? with
  | none => true
  | some m => !m.containsKey "__interrupt__"

/-- The object that carries the message fields. -/
def wireBody (msg : Members) : Members :=
  match (msg.get "kwargs").bind Json.asObject? with
  | some nested => nested
  | none =>
    match (msg.get "data").bind Json.asObject? with
    | some nested => nested
    | none => msg

/-- A member as a string, empty when it is absent or no string. -/
def memberStr (m : Members) (key : String) : String :=
  (((m.get key).getD .null).asStr?).getD ""

def isToolBlock (item : Json) : Bool :=
  match item.asObject? with
  | none => false
  | some m => ["tool_call", "tool_call_chunk", "tool_use"].contains (memberStr m "type")

def dictHasToolInvocation (msg : Members) : Bool :=
  let body := wireBody msg
  body.containsKey "tool_calls" || body.containsKey "tool_call_chunks" ||
    ["content", "content_blocks"].any fun key =>
      match (body.get key).bind Json.asArray? with
      | none => false
      | some raw => raw.any isToolBlock

/-- The white space that `trim_space` removes. -/
def isSpace (c : Char) : Bool := c = ' ' || c = '\t' || c = '\n' || c = '\r'

def trimSpace (s : String) : String := Text.trimMatches isSpace s

/-- The text of one content block. -/
def blockText (block : Json) : String :=
  match block.asStr? with
  | some s => s
  | none => (block.getStr "text").getD ""

def plainText (msg : Members) : String :=
  let body := wireBody msg
  match ((body.get "content").or (Members.get msg "content")).getD .null with
  | .str s => trimSpace s
  | .arr blocks => trimSpace (blocks.foldl (fun parts block => parts ++ blockText block) "")
  | _ => ""

def messageChunkIsNonActionable (data : Json) : Bool :=
  match data.asArray? with
  | some [first, _] =>
    match first with
    | .null => true
    | .obj msg =>
      let body := wireBody msg
      let raw := if memberStr body "type" = "" then memberStr msg "type" else memberStr body "type"
      if raw = "tool" || raw = "ToolMessage" || Text.endsWith raw "ToolMessage" then false
      else if dictHasToolInvocation msg then false
      else if body.containsKey "phase" || Members.containsKey msg "phase" then false
      else plainText msg = ""
    | _ => false
  | _ => false

/-- Whether a chunk is skipped before the turn pipeline. -/
def shouldDropStreamChunkEarly (_namespace : List Json) (mode : String) (data : Json) : Bool :=
  if mode = "updates" then updatesChunkIsNoop data
  else if mode = "messages" then messageChunkIsNonActionable data
  else false

/-- No chunk of another mode is dropped. -/
theorem not_drop_custom (ns : List Json) (data : Json) :
    shouldDropStreamChunkEarly ns "custom" data = false := by
  unfold shouldDropStreamChunkEarly
  rw [if_neg (by decide), if_neg (by decide)]

end SootheClient.Frame
