import SootheClient.Pool.Store
import SootheClient.Sse.Isolation
import SootheClient.Turn.Course

/-!
# Turns over a store and a hub

A `Service` is what the turns of many sessions share: the session store, the event hub and, for each
session, the turn that holds its gate. A turn does its effects one by one, between those of the
other sessions and whatever the subscribers do; a call for a session whose gate is held is refused.
Calls of the gate's `cancel` are not among the steps.
-/

namespace SootheClient.Serving

open SootheClient.Sse (Hub)
open SootheClient.Turn (Effect Error Outcome SseEvent TurnCall TurnRunner)

structure Service where
  store : StrMap LoopSessionEntry := ∅
  hub : Hub := .init
  /-- What the turn that holds the gate of a session has still to do. -/
  running : String → Option (List Effect) := fun _ => none

inductive Act where
  /-- The pool persists the loop of a session. -/
  | persist (sessionId workspaceId userId loopId : String)
  | execute (call : TurnCall) (env : Turn.Env)
  | effect (sessionId : String)
  /-- The turn is over, and the gate is released. -/
  | release (sessionId : String)
  /-- A subscriber comes, goes or receives. -/
  | subscriber (label : Sse.Label)

/-- The label broadcasts an event. -/
def isBroadcast : Sse.Label → Bool
  | .broadcast _ _ => true
  | _ => false

namespace Service

variable (r : TurnRunner) (s : Service)

/-- `persist_new_session`. -/
def persist (sessionId workspaceId userId loopId : String) : StrMap LoopSessionEntry :=
  match inMemoryLoopSessionStore.getSession s.store sessionId with
  | none =>
    inMemoryLoopSessionStore.createSession s.store
      { sessionId := sessionId
        workspaceId := workspaceId
        userId := userId
        loopId := some loopId }
  | some _ => inMemoryLoopSessionStore.setLoopId s.store sessionId loopId

/-- What an effect does to what the sessions share. -/
def perform : Effect → Service
  | .appendMessage sessionId message =>
    { s with store := inMemoryLoopSessionStore.appendMessage s.store sessionId message }
  | .broadcast appKey event =>
    { s with hub := (s.hub.step (.broadcast appKey event)).getD s.hub }
  | _ => s

def step : Act → Option Service
  | .persist sessionId workspaceId userId loopId =>
    some { s with store := s.persist sessionId workspaceId userId loopId }
  | .execute call env =>
    if (s.running call.sessionId).isSome then some s
    else
      (r.runTurn call env).map fun o =>
        { s with running := Function.update s.running call.sessionId (some o.2) }
  | .effect sessionId =>
    match s.running sessionId with
    | some (e :: rest) =>
      some { s.perform e with running := Function.update s.running sessionId (some rest) }
    | _ => none
  | .release sessionId =>
    match s.running sessionId with
    | some [] => some { s with running := Function.update s.running sessionId none }
    | _ => none
  | .subscriber label =>
    if isBroadcast label then none else (s.hub.step label).map fun hub => { s with hub := hub }

/-- What the running turn of a session has still to do. -/
def pending (sessionId : String) : List Effect := (s.running sessionId).getD []

/-- The stored messages of a session. -/
def messages (sessionId : String) : List Json :=
  ((s.store.lookup sessionId).map (·.messages)).getD []

/-- The turn that a step begins for a session. -/
def begins (sessionId : String) : Act → List (TurnCall × Outcome)
  | .execute call env =>
    if call.sessionId = sessionId ∧ (s.running sessionId).isSome = false then
      (r.runTurn call env).toList.map (call, ·)
    else []
  | _ => []

end Service

/-- The turns that a run begins for a session, in order. -/
def turns (r : TurnRunner) (sessionId : String) (s : Service) (acts : List Act) :
    List (TurnCall × Outcome) :=
  Lts.collect (Service.step r) (Service.begins r · sessionId) s acts

/-- The messages that effects append. -/
def messagesOf (l : List Effect) : List Json :=
  l.filterMap fun
    | .appendMessage _ message => some message
    | _ => none

/-- The events that effects broadcast. -/
def eventsOf (l : List Effect) : List SseEvent :=
  l.filterMap fun
    | .broadcast _ event => some event
    | _ => none

/-- The effect is about no other session. -/
def Own (sessionId : String) : Effect → Prop
  | .setSendCancel sid _ | .appendMessage sid _ | .broadcast sid _ | .onComplete sid _ _ _ _
  | .onError sid _ _ => sid = sessionId
  | .notify _ _ | .sendInput _ _ | .commandCancel _ => True

/-! ## The parts of a turn -/

/-- The messages of a turn, by its result. -/
inductive Block (call : TurnCall) : Except Error String → List Json → Prop
  | refused (err : Error) : Block call (.error err) []
  | unsent (err : Error) : Block call (.error err) [TurnRunner.failedMessage err]
  | answered (text completionEvent : String) (elapsedMs : ℤ) :
    Block call (.ok text) [Turn.userMessage call.message,
      TurnRunner.completedMessage text completionEvent elapsedMs]
  | failed (err : Error) :
    Block call (.error err) [Turn.userMessage call.message, TurnRunner.failedMessage err]
  | missing : Block call (.error ⟨"event stream missing"⟩) [Turn.userMessage call.message]

/-- The event that tells a result. -/
def terminal (r : TurnRunner) : Except Error String → SseEvent
  | .ok text => ⟨"complete", .str text⟩
  | .error err => ⟨"query_error", r.errorPayload err⟩

/-- The events of a turn, by its result: deltas and thinking steps, and at last the terminal. -/
inductive Feed (r : TurnRunner) : Except Error String → List SseEvent → Prop
  | refused (err : Error) : Feed r (.error err) []
  | told (res : Except Error String) (progress : List SseEvent)
    (h : ∀ event ∈ progress, event.eventType = "delta" ∨ event.eventType = "thinking_step") :
    Feed r res (progress ++ if r.broadcaster then [terminal r res] else [])
  | missing (progress : List SseEvent)
    (h : ∀ event ∈ progress, event.eventType = "delta" ∨ event.eventType = "thinking_step") :
    Feed r (.error ⟨"event stream missing"⟩) progress

variable {r : TurnRunner} {call : TurnCall} {o : Outcome} {l l' progress : List Effect}
  {sessionId loopId text completionEvent : String} {elapsedMs : ℤ} {res : Except Error String}
  {err : Error}

theorem messagesOf_append : messagesOf (l ++ l') = messagesOf l ++ messagesOf l' :=
  List.filterMap_append

theorem eventsOf_append : eventsOf (l ++ l') = eventsOf l ++ eventsOf l' :=
  List.filterMap_append

theorem messagesOf_progress (h : ∀ e ∈ progress, Turn.IsProgress sessionId e) :
    messagesOf progress = [] := by
  refine List.filterMap_eq_nil_iff.2 fun e he => ?_
  cases h e he <;> rfl

theorem eventsOf_progress (h : ∀ e ∈ progress, Turn.IsProgress sessionId e) :
    ∀ event ∈ eventsOf progress,
      event.eventType = "delta" ∨ event.eventType = "thinking_step" := by
  intro event hev
  obtain ⟨e, he, heq⟩ := List.mem_filterMap.1 hev
  cases h e he with
  | delta =>
    obtain rfl := Option.some.inj heq
    exact Or.inl rfl
  | thinking =>
    obtain rfl := Option.some.inj heq
    exact Or.inr rfl

theorem messagesOf_failTurn :
    messagesOf (r.failTurn sessionId loopId err) = [TurnRunner.failedMessage err] := by
  unfold TurnRunner.failTurn TurnRunner.broadcastError TurnRunner.broadcastEvent
  split_ifs <;> rfl

theorem eventsOf_failTurn : eventsOf (r.failTurn sessionId loopId err) =
    if r.broadcaster then [terminal r (.error err)] else [] := by
  unfold TurnRunner.failTurn TurnRunner.broadcastError TurnRunner.broadcastEvent
  split_ifs <;> rfl

theorem own_failTurn : ∀ e ∈ r.failTurn sessionId loopId err, Own sessionId e := by
  unfold TurnRunner.failTurn TurnRunner.broadcastError TurnRunner.broadcastEvent
  intro e he
  split_ifs at he <;> simp only [List.append_nil, List.nil_append, List.singleton_append,
    List.mem_cons, List.not_mem_nil, or_false] at he
  · obtain rfl | rfl | rfl := he <;> rfl
  · obtain rfl | rfl := he <;> rfl
  · obtain rfl | rfl := he <;> rfl
  · obtain rfl := he
    rfl

/-- What a completed turn tells after its message. -/
theorem messagesOf_broadcastComplete : messagesOf (r.broadcastComplete sessionId text ++
    if r.onComplete then [.onComplete sessionId loopId text completionEvent elapsedMs]
    else []) = [] := by
  unfold TurnRunner.broadcastComplete TurnRunner.broadcastEvent
  split_ifs <;> rfl

theorem eventsOf_broadcastComplete : eventsOf (r.broadcastComplete sessionId text ++
    if r.onComplete then [.onComplete sessionId loopId text completionEvent elapsedMs]
    else []) = if r.broadcaster then [terminal r (.ok text)] else [] := by
  unfold TurnRunner.broadcastComplete TurnRunner.broadcastEvent
  split_ifs <;> rfl

theorem own_broadcastComplete : ∀ e ∈ r.broadcastComplete sessionId text ++
    (if r.onComplete then [Effect.onComplete sessionId loopId text completionEvent elapsedMs]
    else []), Own sessionId e := by
  unfold TurnRunner.broadcastComplete TurnRunner.broadcastEvent
  intro e he
  obtain he | he := List.mem_append.1 he
  all_goals
    split_ifs at he
    · rw [List.mem_singleton.1 he]
      rfl
    · exact absurd he List.not_mem_nil

theorem messagesOf_sendEffect : messagesOf [r.sendEffect call loopId] = [] := by
  unfold TurnRunner.sendEffect
  cases r.inputBuilder <;> rfl

theorem eventsOf_sendEffect : eventsOf [r.sendEffect call loopId] = [] := by
  unfold TurnRunner.sendEffect
  cases r.inputBuilder <;> rfl

theorem own_sendEffect : Own sessionId (r.sendEffect call loopId) := by
  unfold TurnRunner.sendEffect
  cases r.inputBuilder <;> exact trivial

theorem block_of_course (h : r.Course call o) : Block call o.1 (messagesOf o.2) := by
  cases h with
  | refused err => exact .refused err
  | unsent loopId tried err htried =>
    have hmessages : messagesOf (tried ++ r.failTurn call.sessionId loopId err) =
        [TurnRunner.failedMessage err] := by
      rw [messagesOf_append, messagesOf_failTurn]
      obtain rfl | rfl := htried
      · rfl
      · rw [messagesOf_sendEffect]
        rfl
    show Block call (.error err) (messagesOf (tried ++ _))
    rw [hmessages]
    exact .unsent err
  | ran loopId progress cancel closing res hprogress hcancel hclosing =>
    have hmessages : messagesOf ([r.sendEffect call loopId] ++
        .appendMessage call.sessionId (Turn.userMessage call.message) ::
          (progress ++ cancel ++ closing)) =
          Turn.userMessage call.message :: messagesOf closing := by
      have hcancels : messagesOf cancel = [] := by
        obtain rfl | rfl := hcancel <;> rfl
      rw [messagesOf_append, messagesOf_sendEffect, List.nil_append]
      show Turn.userMessage call.message :: messagesOf (progress ++ cancel ++ closing) = _
      rw [messagesOf_append, messagesOf_append, messagesOf_progress hprogress, hcancels]
      rfl
    show Block call res (messagesOf ([r.sendEffect call loopId] ++ _))
    rw [hmessages]
    cases hclosing with
    | completed text completionEvent elapsedMs =>
      show Block call _ (_ :: _ :: messagesOf (_ ++ _))
      rw [messagesOf_broadcastComplete]
      exact .answered text completionEvent elapsedMs
    | failed err =>
      rw [messagesOf_failTurn]
      exact .failed err
    | missing => exact .missing

theorem feed_of_course (h : r.Course call o) : Feed r o.1 (eventsOf o.2) := by
  cases h with
  | refused err => exact .refused err
  | unsent loopId tried err htried =>
    have hevents : eventsOf (tried ++ r.failTurn call.sessionId loopId err) =
        [] ++ if r.broadcaster then [terminal r (.error err)] else [] := by
      rw [eventsOf_append, eventsOf_failTurn]
      obtain rfl | rfl := htried
      · rfl
      · rw [eventsOf_sendEffect]
    show Feed r (.error err) (eventsOf (tried ++ _))
    rw [hevents]
    exact .told _ [] (List.forall_mem_nil _)
  | ran loopId progress cancel closing res hprogress hcancel hclosing =>
    have hevents : eventsOf ([r.sendEffect call loopId] ++
        .appendMessage call.sessionId (Turn.userMessage call.message) ::
          (progress ++ cancel ++ closing)) = eventsOf progress ++ eventsOf closing := by
      have hcancels : eventsOf cancel = [] := by
        obtain rfl | rfl := hcancel <;> rfl
      rw [eventsOf_append, eventsOf_sendEffect, List.nil_append]
      show eventsOf (progress ++ cancel ++ closing) = _
      rw [eventsOf_append, eventsOf_append, hcancels, List.append_nil]
    show Feed r res (eventsOf ([r.sendEffect call loopId] ++ _))
    rw [hevents]
    cases hclosing with
    | completed text completionEvent elapsedMs =>
      show Feed r _ (_ ++ eventsOf (_ ++ _))
      rw [eventsOf_broadcastComplete]
      exact .told _ _ (eventsOf_progress hprogress)
    | failed err =>
      rw [eventsOf_failTurn]
      exact .told _ _ (eventsOf_progress hprogress)
    | missing =>
      show Feed r _ (_ ++ [])
      rw [List.append_nil]
      exact .missing _ (eventsOf_progress hprogress)

/-- A turn does nothing about another session. -/
theorem own_of_course (h : r.Course call o) : ∀ e ∈ o.2, Own call.sessionId e := by
  have hprogress : ∀ {e}, Turn.IsProgress call.sessionId e → Own call.sessionId e := by
    intro e he
    cases he <;> rfl
  intro e he
  cases h with
  | refused err => exact absurd he List.not_mem_nil
  | unsent loopId tried err htried =>
    obtain rfl | he := List.mem_cons.1 he
    · rfl
    · obtain he | he := List.mem_append.1 he
      · obtain rfl | rfl := htried
        · exact absurd he List.not_mem_nil
        · rw [List.mem_singleton.1 he]
          exact own_sendEffect
      · exact own_failTurn e he
  | ran loopId progress cancel closing res hprog hcancel hclosing =>
    simp only [List.mem_cons, List.mem_append] at he
    obtain rfl | rfl | rfl | (he | he) | he := he
    · rfl
    · exact own_sendEffect
    · rfl
    · exact hprogress (hprog e he)
    · obtain rfl | rfl := hcancel
      · exact absurd he List.not_mem_nil
      · rw [List.mem_singleton.1 he]
        trivial
    · cases hclosing with
      | completed text completionEvent elapsedMs =>
        obtain rfl | he := List.mem_cons.1 he
        · rfl
        · exact own_broadcastComplete e he
      | failed err => exact own_failTurn e he
      | missing => exact absurd he List.not_mem_nil

end SootheClient.Serving
