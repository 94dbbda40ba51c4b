import SootheClient.Turn.Outcome

/-!
# The course of a turn

The effects of a turn come in parts: what it sends, the user's message, the events while it goes on,
a cancel at the daemon when it times out, and what closes it. Every message, event and hook is of
the turn's own session.
-/

namespace SootheClient.Turn

/-- An event of a turn that goes on. -/
inductive IsProgress (sessionId : String) : Effect → Prop
  | delta (text : String) : IsProgress sessionId (.broadcast sessionId ⟨"delta", .str text⟩)
  | thinking (text : String) :
    IsProgress sessionId (.broadcast sessionId ⟨"thinking_step", .str text⟩)

/-- The user's message. -/
def userMessage (message : String) : Json :=
  .obj [("role", .str "user"), ("content", .str message)]

namespace TurnRunner

/-- What closes a turn with a result. -/
inductive Closing (r : TurnRunner) (sessionId loopId : String) :
    Except Error String → List Effect → Prop
  | completed (text completionEvent : String) (elapsedMs : ℤ) :
    Closing r sessionId loopId (.ok text)
      (.appendMessage sessionId (completedMessage text completionEvent elapsedMs) ::
        (r.broadcastComplete sessionId text ++
          if r.onComplete then [.onComplete sessionId loopId text completionEvent elapsedMs]
          else []))
  | failed (err : Error) :
    Closing r sessionId loopId (.error err) (r.failTurn sessionId loopId err)
  | missing : Closing r sessionId loopId (.error ⟨"event stream missing"⟩) []

/-- The effects of a call, part by part. -/
inductive Course (r : TurnRunner) (call : TurnCall) : Outcome → Prop
  | refused (err : Error) : Course r call (.error err, [])
  | unsent (loopId : String) (tried : List Effect) (err : Error)
    (htried : tried = [] ∨ tried = [r.sendEffect call loopId]) :
    Course r call (.error err,
      .setSendCancel call.sessionId loopId :: tried ++ r.failTurn call.sessionId loopId err)
  | ran (loopId : String) (progress cancel closing : List Effect) (res : Except Error String)
    (hprogress : ∀ e ∈ progress, IsProgress call.sessionId e)
    (hcancel : cancel = [] ∨ cancel = [.commandCancel loopId])
    (hclosing : r.Closing call.sessionId loopId res closing) :
    Course r call (res,
      .setSendCancel call.sessionId loopId :: r.sendEffect call loopId ::
        .appendMessage call.sessionId (userMessage call.message) ::
          (progress ++ cancel ++ closing))

variable {r : TurnRunner} {c : TurnCtx} {s t : TurnState} {tick : Tick} {log : List Effect}
  {o : Outcome} {call : TurnCall} {env : Env} {result : ChatEventResult} {ev : Json}

/-- An iteration adds events of the turn, or closes it after them. -/
def Proceeds (r : TurnRunner) (c : TurnCtx) (log : List Effect) :
    Scan.Step TurnState Outcome → Prop
  | .next t => ∃ progress, (∀ e ∈ progress, IsProgress c.sessionId e) ∧ t.log = log ++ progress
  | .stop o => ∃ progress cancel closing, (∀ e ∈ progress, IsProgress c.sessionId e) ∧
    (cancel = [] ∨ cancel = [.commandCancel c.loopId]) ∧
      r.Closing c.sessionId c.loopId o.1 closing ∧
        o.2 = log ++ (progress ++ cancel ++ closing)

/-! ## One iteration -/

theorem closing_completeTurn {text completionEvent : String} {now : ℕ} :
    ∃ closing, r.Closing c.sessionId c.loopId
      (r.completeTurn c log text now completionEvent).1 closing ∧
        (r.completeTurn c log text now completionEvent).2 = log ++ closing :=
  ⟨_, .completed text completionEvent _, rfl⟩

theorem closing_failWith {err : Error} :
    ∃ closing, r.Closing c.sessionId c.loopId (r.failWith c log err).1 closing ∧
      (r.failWith c log err).2 = log ++ closing :=
  ⟨_, .failed err, rfl⟩

theorem closing_finishTimeout {text completionEvent : String} {now : ℕ} {policy : TimeoutPolicy} :
    ∃ closing, r.Closing c.sessionId c.loopId
      (r.finishTimeout c log text now completionEvent policy).1 closing ∧
        (r.finishTimeout c log text now completionEvent policy).2 = log ++ closing := by
  cases policy with
  | softComplete => exact closing_completeTurn
  | fail => exact closing_failWith

/-- A stop that closes the turn after some events. -/
theorem proceeds_stop {progress : List Effect}
    (hp : ∀ e ∈ progress, IsProgress c.sessionId e)
    (h : ∃ closing, r.Closing c.sessionId c.loopId o.1 closing ∧
      o.2 = log ++ progress ++ closing) : r.Proceeds c log (.stop o) := by
  obtain ⟨closing, hclosing, ho⟩ := h
  refine ⟨progress, [], closing, hp, Or.inl rfl, hclosing, ?_⟩
  rw [ho, List.append_nil, List.append_assoc]

theorem proceeds_close (h : ∃ closing, r.Closing c.sessionId c.loopId o.1 closing ∧
    o.2 = log ++ closing) : r.Proceeds c log (.stop o) := by
  refine proceeds_stop (List.forall_mem_nil _) ?_
  rwa [List.append_nil]

theorem proceeds_same (h : t.log = log) : r.Proceeds c log (.next t) :=
  ⟨[], List.forall_mem_nil _, h.trans (List.append_nil _).symm⟩

theorem proceeds_cancelled (h : ∃ closing, r.Closing c.sessionId c.loopId o.1 closing ∧
    o.2 = log ++ [.commandCancel c.loopId] ++ closing) : r.Proceeds c log (.stop o) := by
  obtain ⟨closing, hclosing, ho⟩ := h
  refine ⟨[], _, closing, List.forall_mem_nil _, Or.inr rfl, hclosing, ?_⟩
  rw [ho, List.nil_append, List.append_assoc]

theorem isProgress_broadcastEvent {eventType : String} {text : String}
    (h : IsProgress c.sessionId (.broadcast c.sessionId ⟨eventType, .str text⟩)) :
    ∀ e ∈ r.broadcastEvent c.sessionId eventType (.str text), IsProgress c.sessionId e := by
  unfold broadcastEvent
  split_ifs
  · intro e he
    rwa [List.mem_singleton.1 he]
  · exact List.forall_mem_nil _

/-- What is taken in is told by events of the turn. -/
theorem absorb_log : ∃ progress, (∀ e ∈ progress, IsProgress c.sessionId e) ∧
    (r.absorb c s tick result).log = s.log ++ progress := by
  refine ⟨_, ?_, List.append_assoc _ _ _⟩
  intro e he
  obtain he | he := List.mem_append.1 he
  · split_ifs at he
    · exact isProgress_broadcastEvent (.thinking _) e he
    · exact absurd he List.not_mem_nil
  · split_ifs at he
    · exact isProgress_broadcastEvent (.delta _) e he
    · exact absurd he List.not_mem_nil

theorem proceeds_conclude {progress : List Effect} {ended : Option String}
    (hp : ∀ e ∈ progress, IsProgress c.sessionId e) (hlog : s.log = log ++ progress) :
    r.Proceeds c log (r.conclude c s tick result ended) := by
  unfold conclude
  split
  · refine proceeds_stop hp ?_
    rw [← hlog]
    exact closing_completeTurn
  · split
    · split_ifs
      · refine proceeds_stop hp ?_
        rw [← hlog]
        exact closing_failWith
      · refine proceeds_stop hp ?_
        rw [← hlog]
        exact closing_completeTurn
    · exact ⟨progress, hp, hlog⟩

theorem proceeds_processEvent : r.Proceeds c s.log (r.processEvent c s tick ev) := by
  unfold processEvent
  simp only
  split_ifs
  · exact proceeds_same rfl
  · exact proceeds_close closing_failWith
  · have habsorb : ∃ progress, (∀ e ∈ progress, IsProgress c.sessionId e) ∧
        (r.absorb c { s with boundary := (feedBoundary s.boundary ev).1 } tick
          (r.classifier.classify r.fromStr ev s.collected)).log = s.log ++ progress := absorb_log
    obtain ⟨progress, hp, hlog⟩ := habsorb
    exact proceeds_conclude hp hlog

theorem proceeds_onEvent : r.Proceeds c s.log (r.onEvent c s tick ev) := by
  unfold onEvent
  simp only
  split_ifs
  · exact proceeds_processEvent
  · exact proceeds_same rfl
  · exact proceeds_same rfl
  · exact proceeds_processEvent

theorem proceeds_onClosed {live alive : Bool} :
    r.Proceeds c s.log (r.onClosed c s tick live alive) := by
  unfold onClosed
  split_ifs
  · exact proceeds_close closing_completeTurn
  · exact proceeds_close closing_failWith
  · exact proceeds_same rfl

/-- **Step lemma.** -/
theorem proceeds_loopStep : r.Proceeds c s.log (r.loopStep c s tick) := by
  unfold loopStep
  split_ifs
  · exact proceeds_close closing_failWith
  · exact proceeds_cancelled closing_finishTimeout
  · exact proceeds_cancelled closing_finishTimeout
  · cases tick.recv with
    | missing => exact proceeds_close ⟨[], .missing, (List.append_nil _).symm⟩
    | timedOut => exact proceeds_same rfl
    | closed live alive => exact proceeds_onClosed
    | frame ev => exact proceeds_onEvent

/-! ## The call -/

theorem proceeds_loop {ticks : List Tick} {n : ℕ}
    (h : Scan.stopAt (r.loopStep c) s ticks = some (n, o)) : r.Proceeds c s.log (.stop o) := by
  induction ticks generalizing s n with
  | nil => cases h
  | cons tick ticks ih =>
    have hstep : r.Proceeds c s.log (r.loopStep c s tick) := proceeds_loopStep
    cases hf : r.loopStep c s tick with
    | stop o' =>
      rw [Scan.stopAt_cons_stop hf] at h
      obtain ⟨-, rfl⟩ := Prod.mk.inj (Option.some.inj h)
      rw [hf] at hstep
      exact hstep
    | next t =>
      rw [Scan.stopAt_cons_next hf] at h
      obtain ⟨⟨m, o'⟩, hrest, heq⟩ := Option.map_eq_some_iff.1 h
      obtain ⟨-, rfl⟩ := Prod.mk.inj heq
      rw [hf] at hstep
      obtain ⟨first, hfirst, hlog⟩ := hstep
      obtain ⟨progress, cancel, closing, hp, hcancel, hclosing, ho⟩ := ih hrest
      refine ⟨first ++ progress, cancel, closing, ?_, hcancel, hclosing, ?_⟩
      · intro e he
        obtain he | he := List.mem_append.1 he
        · exact hfirst e he
        · exact hp e he
      · rw [ho, hlog]
        simp only [List.append_assoc]

/-- **Run lemma.** Every call takes its course. -/
theorem runTurn_course (h : r.runTurn call env = some o) : r.Course call o := by
  unfold runTurn at h
  cases hacq : env.acquired with
  | error e =>
    rw [hacq] at h
    obtain rfl := Option.some.inj h
    exact .refused e
  | ok loopId =>
    rw [hacq] at h
    simp only at h
    cases hstream : env.hasStream with
    | false =>
      rw [hstream] at h
      obtain rfl := Option.some.inj h
      exact .unsent loopId [] _ (Or.inl rfl)
    | true =>
      rw [hstream] at h
      cases hsent : env.sent with
      | error e =>
        rw [hsent] at h
        obtain rfl := Option.some.inj h
        exact .unsent loopId _ _ (Or.inr rfl)
      | ok u =>
        rw [hsent] at h
        obtain ⟨⟨n, o'⟩, hstop, rfl⟩ := Option.map_eq_some_iff.1 h
        obtain ⟨progress, cancel, closing, hp, hcancel, hclosing, ho⟩ := proceeds_loop hstop
        obtain ⟨res, l⟩ := o'
        obtain rfl := ho
        exact .ran loopId progress cancel closing res hp hcancel hclosing

end TurnRunner

end SootheClient.Turn
