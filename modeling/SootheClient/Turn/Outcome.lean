import SootheClient.Turn.Runner

/-!
# The outcome of a turn

A `Ledger` collects, of the effects of a turn, its terminal bookkeeping: the completed and failed
messages, the `complete` and `query_error` events and the calls of the hooks. A turn that returns
has settled its result when the ledger holds the bookkeeping of that result and nothing else. It
does so exactly when the pool gave it a connection and no read of the loop found the event stream
missing.
-/

namespace SootheClient.Turn

/-- The terminal bookkeeping of a turn. -/
@[ext]
structure Ledger where
  completed : List String := []
  failed : List String := []
  completeEvents : List Json := []
  errorEvents : List Json := []
  completeCalls : List String := []
  errorCalls : List Error := []

namespace Ledger

instance : Append Ledger where
  append a b :=
    { completed := a.completed ++ b.completed
      failed := a.failed ++ b.failed
      completeEvents := a.completeEvents ++ b.completeEvents
      errorEvents := a.errorEvents ++ b.errorEvents
      completeCalls := a.completeCalls ++ b.completeCalls
      errorCalls := a.errorCalls ++ b.errorCalls }

@[simp] theorem empty_append (a : Ledger) : ({} : Ledger) ++ a = a := rfl

end Ledger

/-- The content of a completed assistant message. -/
def completedText : Effect → Option String
  | .appendMessage _ m =>
    if m.getStr "role" = some "assistant" ∧ m.getStr "status" = some "completed" then
      m.getStr "content"
    else none
  | _ => none

/-- The text of a message with role `error`. -/
def failedText : Effect → Option String
  | .appendMessage _ m => if m.getStr "role" = some "error" then m.getStr "error_message" else none
  | _ => none

/-- The data of a broadcast event of a type. -/
def eventData (eventType : String) : Effect → Option Json
  | .broadcast _ e => if e.eventType = eventType then some e.data else none
  | _ => none

def completeCall : Effect → Option String
  | .onComplete _ _ content _ _ => some content
  | _ => none

def errorCall : Effect → Option Error
  | .onError _ _ err => some err
  | _ => none

def ledger (log : List Effect) : Ledger where
  completed := log.filterMap completedText
  failed := log.filterMap failedText
  completeEvents := log.filterMap (eventData "complete")
  errorEvents := log.filterMap (eventData "query_error")
  completeCalls := log.filterMap completeCall
  errorCalls := log.filterMap errorCall

variable {r : TurnRunner} {c : TurnCtx} {s : TurnState} {tick : Tick} {log log' : List Effect}
  {o : Outcome} {call : TurnCall} {env : Env}

theorem ledger_append : ledger (log ++ log') = ledger log ++ ledger log' := by
  apply Ledger.ext <;> exact List.filterMap_append

/-- The log has no terminal bookkeeping. -/
def Quiet (log : List Effect) : Prop := ledger log = {}

theorem Quiet.append (h : Quiet log) (h' : Quiet log') : Quiet (log ++ log') := by
  unfold Quiet
  rw [ledger_append, h, h']
  rfl

namespace TurnRunner

/-- The bookkeeping of a result: one message, and one event and one call if they are attached. -/
def bookkeeping (r : TurnRunner) : Except Error String → Ledger
  | .ok text =>
    { completed := [text]
      completeEvents := if r.broadcaster then [.str text] else []
      completeCalls := if r.onComplete then [text] else [] }
  | .error err =>
    { failed := [err.text]
      errorEvents := if r.broadcaster then [r.errorPayload err] else []
      errorCalls := if r.onError then [err] else [] }

/-- The turn has kept the books of its result exactly once, and no others. -/
def Settled (r : TurnRunner) (o : Outcome) : Prop := ledger o.2 = r.bookkeeping o.1

/-! ## The exits -/

theorem settled_completeTurn (h : Quiet log) {content completionEvent : String} {now : ℕ} :
    r.Settled (r.completeTurn c log content now completionEvent) := by
  unfold Settled completeTurn
  rw [ledger_append, h, Ledger.empty_append]
  unfold broadcastComplete broadcastEvent bookkeeping
  cases r.broadcaster <;> cases r.onComplete <;> rfl

theorem settled_failWith (h : Quiet log) {err : Error} : r.Settled (r.failWith c log err) := by
  unfold Settled failWith
  rw [ledger_append, h, Ledger.empty_append]
  unfold failTurn broadcastError broadcastEvent bookkeeping
  cases r.broadcaster <;> cases r.onError <;> rfl

theorem settled_finishTimeout (h : Quiet log) {content completionEvent : String} {now : ℕ}
    {policy : TimeoutPolicy} :
    r.Settled (r.finishTimeout c log content now completionEvent policy) := by
  cases policy with
  | softComplete => exact settled_completeTurn h
  | fail => exact settled_failWith h

/-- An error without bookkeeping is not settled. -/
theorem not_settled_of_quiet (h : Quiet log) {err : Error} : ¬ r.Settled (.error err, log) := by
  intro hs
  have : ([] : List String) = [err.text] := congrArg Ledger.failed (h.symm.trans hs)
  cases this

/-! ## One iteration -/

theorem quiet_broadcast {appKey eventType : String} {data : Json} (hc : eventType ≠ "complete")
    (he : eventType ≠ "query_error") : Quiet (r.broadcastEvent appKey eventType data) := by
  unfold broadcastEvent
  cases r.broadcaster with
  | false => rfl
  | true =>
    show ledger [.broadcast appKey ⟨eventType, data⟩] = _
    apply Ledger.ext
    · rfl
    · rfl
    · show List.filterMap _ [_] = []
      simp [eventData, hc]
    · show List.filterMap _ [_] = []
      simp [eventData, he]
    · rfl
    · rfl

/-- A step from a quiet state goes on quietly or settles its result. -/
def Keeps (r : TurnRunner) : Scan.Step TurnState Outcome → Prop
  | .next s => Quiet s.log
  | .stop o => r.Settled o

theorem quiet_absorb (h : Quiet s.log) {result : ChatEventResult} :
    Quiet (r.absorb c s tick result).log := by
  unfold absorb
  apply Quiet.append
  · apply h.append
    split_ifs
    · exact quiet_broadcast (by decide) (by decide)
    · rfl
  · split_ifs
    · exact quiet_broadcast (by decide) (by decide)
    · rfl

theorem keeps_conclude (h : Quiet s.log) {result : ChatEventResult} {ended : Option String} :
    r.Keeps (r.conclude c s tick result ended) := by
  unfold conclude
  split
  · exact settled_completeTurn h
  · split
    · split_ifs
      · exact settled_failWith h
      · exact settled_completeTurn h
    · exact h

theorem keeps_processEvent (h : Quiet s.log) {ev : Json} :
    r.Keeps (r.processEvent c s tick ev) := by
  unfold processEvent
  simp only
  split_ifs
  · exact h
  · exact settled_failWith h
  · apply keeps_conclude
    apply quiet_absorb
    exact h

theorem keeps_onEvent (h : Quiet s.log) {ev : Json} : r.Keeps (r.onEvent c s tick ev) := by
  unfold onEvent
  simp only
  split_ifs
  · exact keeps_processEvent h
  · exact h
  · exact h
  · apply keeps_processEvent
    exact h

theorem keeps_onClosed (h : Quiet s.log) {live alive : Bool} :
    r.Keeps (r.onClosed c s tick live alive) := by
  unfold onClosed
  split_ifs
  · exact settled_completeTurn h
  · exact settled_failWith h
  · exact h

/-- The iteration gets to its read of the event stream. -/
def reads (r : TurnRunner) (c : TurnCtx) (s : TurnState) (tick : Tick) : Bool :=
  !tick.cancelled && !r.pastDeadline c tick && !idleTooLong c s tick

/-- The read, if there is one, finds the event stream. -/
def FindsStream (r : TurnRunner) (c : TurnCtx) (s : TurnState) (tick : Tick) : Prop :=
  r.reads c s tick = true → tick.recv ≠ .missing

theorem loopStep_of_reads (h : r.reads c s tick = true) :
    r.loopStep c s tick = r.onRecv c s tick tick.recv := by
  unfold reads at h
  rw [Bool.and_eq_true, Bool.and_eq_true] at h
  obtain ⟨⟨hc, hd⟩, hi⟩ := h
  unfold loopStep
  rw [if_neg (by simpa using hc), if_neg (by simpa using hd), if_neg (by simpa using hi)]

/-- **Step lemma.** An iteration that finds its stream goes on quietly or settles its result. -/
theorem keeps_loopStep (h : Quiet s.log) (hf : r.FindsStream c s tick) :
    r.Keeps (r.loopStep c s tick) := by
  by_cases hr : r.reads c s tick = true
  · rw [loopStep_of_reads hr]
    cases hrecv : tick.recv with
    | missing => exact absurd hrecv (hf hr)
    | timedOut => exact h
    | closed live alive => exact keeps_onClosed h
    | frame ev => exact keeps_onEvent h
  · have hcancel : Quiet (s.log ++ [.commandCancel c.loopId]) := h.append rfl
    unfold loopStep
    split_ifs with h1 h2 h3
    · exact settled_failWith h
    · exact settled_finishTimeout hcancel
    · exact settled_finishTimeout hcancel
    · unfold reads at hr
      simp [h1, h2, h3] at hr

/-! ## The call -/

theorem quiet_startState {call : TurnCall} {loopId : String} {startedAt : ℕ} :
    Quiet (r.startState call loopId startedAt).log := by
  unfold startState sendEffect
  cases r.inputBuilder <;> rfl

/-- The pool gives a connection, and every read of the loop finds the event stream. -/
def Served (r : TurnRunner) (call : TurnCall) (env : Env) : Prop :=
  ∃ loopId, env.acquired = .ok loopId ∧ (env.hasStream = true → env.sent = .ok () →
    Scan.Guarded (r.loopStep (r.ctx call loopId env.startedAt))
      (r.FindsStream (r.ctx call loopId env.startedAt)) (r.startState call loopId env.startedAt)
      env.ticks)

/-- A loop that finds its stream settles its result; one that does not, does not. -/
theorem settled_loop_iff {ticks : List Tick} {n : ℕ} (hs : Quiet s.log)
    (h : Scan.stopAt (r.loopStep c) s ticks = some (n, o)) :
    r.Settled o ↔ Scan.Guarded (r.loopStep c) (r.FindsStream c) s ticks := by
  have hnext : ∀ s tick t, Quiet s.log → r.FindsStream c s tick → r.loopStep c s tick = .next t →
      Quiet t.log := by
    intro s tick t hq hf ht
    have hk := keeps_loopStep hq hf
    rw [ht] at hk
    exact hk
  constructor
  · intro hset
    by_contra hg
    have hstop : ∀ s tick, Quiet s.log → ¬ r.FindsStream c s tick →
        ∃ o, r.loopStep c s tick = .stop o ∧ ¬ r.Settled o := by
      intro s tick hq hf
      obtain ⟨hr, hm⟩ := Classical.not_imp.1 hf
      rw [not_not] at hm
      refine ⟨(.error ⟨"event stream missing"⟩, s.log), ?_, not_settled_of_quiet hq⟩
      rw [loopStep_of_reads hr, hm]
      rfl
    obtain ⟨m, o', ho', hns⟩ := Scan.stopAt_of_not_guarded (P := fun o => ¬ r.Settled o)
      hnext hstop hs hg
    rw [h] at ho'
    cases ho'
    exact hns hset
  · intro hg
    refine Scan.stopAt_spec hnext (fun s tick o hq hf ho => ?_) hs hg h
    have hk := keeps_loopStep hq hf
    rw [ho] at hk
    exact hk

/-- **One terminal outcome.** A turn that returns has kept the books of its result exactly once,
and no others, if and only if it was served. -/
theorem one_terminal_outcome (r : TurnRunner) (call : TurnCall) (env : Env) (o : Outcome)
    (h : r.runTurn call env = some o) : r.Settled o ↔ r.Served call env := by
  unfold runTurn at h
  unfold Served
  cases hacq : env.acquired with
  | error e =>
    rw [hacq] at h
    obtain rfl := Option.some.inj h
    have hquiet : Quiet [] := rfl
    exact ⟨fun hs => absurd hs (not_settled_of_quiet hquiet), fun ⟨_, hl, _⟩ => (nomatch hl)⟩
  | ok loopId =>
    rw [hacq] at h
    simp only at h
    have hserved : ∀ P : String → Prop, (∃ l, Except.ok (ε := Error) loopId = .ok l ∧ P l) ↔
        P loopId :=
      fun P => ⟨fun ⟨l, hl, hp⟩ => by cases hl; exact hp, fun hp => ⟨loopId, rfl, hp⟩⟩
    rw [hserved]
    cases hstream : env.hasStream with
    | false =>
      rw [hstream] at h
      obtain rfl := Option.some.inj h
      have hquiet : Quiet [.setSendCancel call.sessionId loopId] := rfl
      exact ⟨fun _ hn => (nomatch hn), fun _ => settled_failWith hquiet⟩
    | true =>
      rw [hstream] at h
      cases hsent : env.sent with
      | error e =>
        rw [hsent] at h
        obtain rfl := Option.some.inj h
        refine ⟨fun _ _ hn => (nomatch hn), fun _ => settled_failWith ?_⟩
        unfold sendEffect
        cases r.inputBuilder <;> rfl
      | ok u =>
        rw [hsent] at h
        obtain ⟨⟨n, o'⟩, hstop, rfl⟩ := Option.map_eq_some_iff.1 h
        rw [settled_loop_iff quiet_startState hstop]
        exact ⟨fun hg _ _ => hg, fun hg => hg rfl rfl⟩

/-- A runner with the default classifier, a broadcaster and both hooks. -/
def attached : TurnRunner where
  classifier := EventClassifier.withDefaults
  fromStr _ := none
  broadcaster := true
  onComplete := true
  onError := true

/-- A call of session `s1`. -/
def greeting : TurnCall where
  sessionId := "s1"
  message := "hi"

/-- The frames of a turn: running, an assistant chunk, `stream.end`. -/
def greeted : Env where
  acquired := .ok "L"
  ticks :=
    [{ recv := .frame (.obj [("type", .str "status"), ("state", .str "running"),
        ("turn_id", .str "L:1")]) },
      { recv := .frame (.obj [("type", .str "event"), ("mode", .str "messages"),
        ("turn_id", .str "L:1"),
        ("data", .arr [.obj [("type", .str "AIMessageChunk"), ("content", .str "Hello")]])]) },
      { recv := .frame (.obj [("type", .str "event"), ("mode", .str "custom"),
        ("turn_id", .str "L:1"), ("data", .obj [("type", .str "soothe.stream.end")])]) }]

/-- A turn that completes with the collected text. -/
theorem one_terminal_outcome_completed : ∃ o, attached.runTurn greeting greeted = some o ∧
    o.1 = .ok "Hello" ∧ attached.Settled o := by
  have hserved : attached.Served greeting greeted := by
    refine ⟨"L", rfl, fun _ _ => Scan.guarded_of_forall fun s tick htick _ => ?_⟩
    unfold greeted at htick
    simp only [List.mem_cons, List.not_mem_nil, or_false] at htick
    rcases htick with rfl | rfl | rfl <;> exact Recv.noConfusion
  exact ⟨_, rfl, rfl, (one_terminal_outcome attached greeting greeted _ rfl).2 hserved⟩

/-- A pool that refuses: the turn fails without a message, an event or a call. -/
theorem one_terminal_outcome_fails : ¬ ∀ (r : TurnRunner) (call : TurnCall) (env : Env)
    (o : Outcome), r.runTurn call env = some o → r.Settled o := by
  intro h
  have hs := h attached greeting { acquired := .error ⟨"no slot"⟩, ticks := [] } _ rfl
  exact absurd (congrArg Ledger.failed hs) (by decide)

end TurnRunner

end SootheClient.Turn
