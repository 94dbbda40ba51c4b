import SootheClient.Lib.Json
import SootheClient.Lib.Text

/-!
# Thinking steps

Maps allowlisted progress events to one-line thinking steps.
-/

namespace SootheClient.Turn

open Json (Members)

def MAX_THINKING_STEP_RUNES : ℕ := 280

def EVENT_PLAN_CREATED : String := "soothe.cognition.plan.created"
def EVENT_PLAN_BATCH_STARTED : String := "soothe.cognition.plan.batch.started"
def EVENT_GOAL_CREATED : String := "soothe.cognition.goal.created"
def EVENT_TOOL_STARTED : String := "soothe.tool.execution.started"

/-- Default allowlist of thinking-step events. -/
def defaultThinkingStepEvents : List String :=
  ["soothe.cognition.plan.step.started", "soothe.cognition.plan.step.completed",
    "soothe.cognition.plan.step.failed", "soothe.lifecycle.iteration.started",
    "soothe.agent.loop.step.started", "soothe.agent.loop.started", EVENT_PLAN_BATCH_STARTED,
    EVENT_PLAN_CREATED, EVENT_GOAL_CREATED, EVENT_TOOL_STARTED]

/-- The first of the keys with a string that is not blank, trimmed. -/
def strField (data : Members) (keys : List String) : String :=
  (keys.findSome? fun key => ((data.get key).bind Json.asStr?).bind Text.nonBlank).getD ""

def formatPlanStepLine (data : Members) (suffix : String) : String :=
  let s := strField data ["step_id"]
  let d := strField data ["description"]
  if s ≠ "" ∧ suffix ≠ "" then s!"Step {s}: {suffix}"
  else if s ≠ "" ∧ d ≠ "" then s!"Step {s}: {d}"
  else if s ≠ "" then s!"Step {s}"
  else if d ≠ "" ∧ suffix ≠ "" then s!"Step: {suffix}"
  else if d ≠ "" then s!"Step: {d}"
  else if suffix ≠ "" then s!"Step: {suffix}"
  else ""

def formatAgentStepLine (data : Members) (suffix : String) : String :=
  let s := strField data ["step_id"]
  let d := strField data ["description"]
  if s ≠ "" ∧ d ≠ "" then s!"Step {s}: {d}"
  else if d ≠ "" ∧ suffix ≠ "" then s!"Step: {suffix}"
  else if d ≠ "" then s!"Step: {d}"
  else if s ≠ "" then s!"Step {s}"
  else ""

def formatFailedStepLine (data : Members) : String :=
  let s := strField data ["step_id"]
  let e := strField data ["error"]
  if s ≠ "" ∧ e ≠ "" then s!"Step {s} failed: {e}"
  else if s ≠ "" then s!"Step {s} failed"
  else if e ≠ "" then s!"Step failed: {e}"
  else ""

/-- A positive `parallel_count`, truncated to an `i64`. -/
def formatParallelLine (data : Members) : String :=
  match (data.get "parallel_count").bind Json.asF64? with
  | some n => if 0 < n then s!"Running {min n.floor (2 ^ 63 - 1)} steps in parallel" else ""
  | none => ""

/-- A label and a text, empty when there is no text. -/
def labelled (label text : String) : String := if text = "" then "" else s!"{label}: {text}"

/-- The line of an event type, `none` when the type has no format. -/
def thinkingLine (eventType : String) (data : Members) : Option String :=
  if eventType = "soothe.cognition.plan.step.started" then some (formatPlanStepLine data "")
  else if eventType = "soothe.cognition.plan.step.completed" then
    some (formatPlanStepLine data "done")
  else if eventType = "soothe.cognition.plan.step.failed" then some (formatFailedStepLine data)
  else if eventType = "soothe.agent.loop.step.started" then some (formatAgentStepLine data "")
  else if eventType = EVENT_PLAN_BATCH_STARTED then some (formatParallelLine data)
  else if eventType = EVENT_PLAN_CREATED ∨ eventType = "soothe.agent.loop.started" then
    some (labelled "Goal" (strField data ["goal"]))
  else if eventType = EVENT_GOAL_CREATED then
    some (labelled "Goal" (strField data ["friendly_message", "description"]))
  else if eventType = "soothe.lifecycle.iteration.started" then
    some (labelled "Iteration" (strField data ["goal_description"]))
  else if eventType = EVENT_TOOL_STARTED then
    some (labelled "Tool" (strField data ["tool_name", "name"]))
  else none

def truncateThinkingStep (line : String) : String :=
  if line.length ≤ MAX_THINKING_STEP_RUNES then line
  else String.ofList (line.toList.take MAX_THINKING_STEP_RUNES) ++ "…"

/-- Maps an allowlisted progress event to one UI line. -/
def extractThinkingStep (allow : Option (List String)) (eventType : String) (data : Members) :
    Option String :=
  let eventType := Text.trim eventType
  if eventType = "" then none
  else if !(allow.getD defaultThinkingStepEvents).contains eventType then none
  else
    match (thinkingLine eventType data).bind Text.nonBlank with
    | some line => some (truncateThinkingStep line)
    | none => none

end SootheClient.Turn
