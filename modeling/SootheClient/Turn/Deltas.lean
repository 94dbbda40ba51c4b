import SootheClient.Frame.Bare
import SootheClient.Turn.Leftovers

/-!
# The delta stream

The `delta` events of a turn add up to the text collected so far. Each iteration of the loop takes
in the content of at most one event, and the text and the deltas grow by the same string. A turn
that completes with the collected text has therefore broadcast its reply.
-/

namespace SootheClient.Turn

open SootheClient.Frame

/-- The concatenated texts of the `delta` events. -/
def streamedText (log : List Effect) : String := String.join ((deltas log).filterMap Json.asStr?)

variable {r : TurnRunner} {c : TurnCtx} {s t : TurnState} {tick : Tick} {log log' : List Effect}
  {o : Outcome} {result : ChatEventResult} {ended : Option String} {ev : Json}
  {content appKey : String}

namespace TurnRunner

/-- What of a text reaches the broadcaster: all of it when one is attached. -/
def streamed (r : TurnRunner) (text : String) : String := if r.broadcaster then text else ""

theorem streamed_empty : r.streamed "" = "" := ite_self _

theorem streamed_append (a b : String) : r.streamed (a ++ b) = r.streamed a ++ r.streamed b := by
  unfold streamed
  split_ifs <;> rfl

/-! ## The deltas of the effects -/

/-- The data of the delta events for a delta: none when it is empty. -/
def deltaData (r : TurnRunner) (delta : String) : List Json :=
  if r.broadcaster = true ∧ delta ≠ "" then [.str delta] else []

theorem deltaData_empty : r.deltaData "" = [] := if_neg fun h => h.2 rfl

theorem deltas_broadcastDelta (delta : String) :
    deltas (if delta ≠ "" then r.broadcastDelta appKey delta else []) = r.deltaData delta := by
  unfold broadcastDelta broadcastEvent deltaData
  by_cases hd : delta = ""
  · rw [if_neg (not_not.2 hd), if_neg fun h => h.2 hd]
    rfl
  · rw [if_pos hd]
    cases r.broadcaster with
    | false => rfl
    | true => exact (if_pos ⟨rfl, hd⟩).symm

theorem deltas_finishTimeout {now : ℕ} {completionEvent : String} {policy : TimeoutPolicy} :
    deltas (r.finishTimeout c (log ++ [.commandCancel c.loopId]) content now completionEvent
      policy).2 = deltas log := by
  have hcancel : deltas (log ++ [.commandCancel c.loopId]) = deltas log := by
    rw [deltas_append]
    exact List.append_nil _
  cases policy with
  | softComplete => exact deltas_completeTurn.trans hcancel
  | fail => exact deltas_failWith.trans hcancel

/-- The concatenated texts of the delta events grow by what reaches the broadcaster. -/
theorem streamedText_of_deltas {delta : String}
    (h : deltas log' = deltas log ++ r.deltaData delta) :
    streamedText log' = streamedText log ++ r.streamed delta := by
  unfold streamedText
  rw [h, List.filterMap_append, String.join_append]
  congr 1
  unfold deltaData streamed
  by_cases hd : delta = ""
  · rw [if_neg fun h => h.2 hd, hd, ite_self]
    rfl
  · cases r.broadcaster with
    | false => rfl
    | true =>
      rw [if_pos ⟨rfl, hd⟩]
      exact String.empty_append

/-! ## One iteration -/

/-- The event that an iteration processes: one it reads when the loop is armed, or one that arms
the loop. -/
def processed (r : TurnRunner) (c : TurnCtx) (s : TurnState) (tick : Tick) : Option Json :=
  if r.reads c s tick then
    match tick.recv with
    | .frame ev =>
      if s.armed || !(isStaleTurnEndEvent ev || isStatusRunningEvent ev) then some ev else none
    | _ => none
  else none

/-- The content of an event, unless it is a failure. -/
def contentOf (r : TurnRunner) (collected : String) (ev : Json) : String :=
  let result := r.classifier.classify r.fromStr ev collected
  if result.terminal = .failedComplete then "" else result.content

/-- The text that an event completes the turn with, when it is a deliverable. -/
def deliverableOf (r : TurnRunner) (collected : String) (ev : Json) : Option String :=
  let result := r.classifier.classify r.fromStr ev collected
  (r.classifier.resolveDeliverableFinalContent result (collect collected result.content).1).filter
    fun _ => !isDaemonTurnEndEvent result.completionEvent

/-- The content that an iteration takes in. -/
def taken (r : TurnRunner) (c : TurnCtx) (s : TurnState) (tick : Tick) : String :=
  (r.processed c s tick).elim "" (r.contentOf s.collected)

/-- The deliverable that an iteration completes the turn with. -/
def delivered (r : TurnRunner) (c : TurnCtx) (s : TurnState) (tick : Tick) : Option String :=
  (r.processed c s tick).bind (r.deliverableOf s.collected)

/-- A step takes `content` in: it grows the text and the deltas alike, and what it completes the
turn with is the text unless it is the deliverable. -/
def Adds (r : TurnRunner) (s : TurnState) (content : String) (deliverable : Option String) :
    Scan.Step TurnState Outcome → Prop
  | .next t =>
    t.collected = (collect s.collected content).1 ∧
      deltas t.log = deltas s.log ++ r.deltaData (collect s.collected content).2
  | .stop o =>
    deltas o.2 = deltas s.log ++ r.deltaData (collect s.collected content).2 ∧
      ∀ text, o.1 = .ok text → text = deliverable.getD (collect s.collected content).1

theorem collect_empty (collected : String) : collect collected "" = (collected, "") := if_pos rfl

/-- An iteration that processes nothing adds nothing. -/
theorem adds_nothing_next {deliverable : Option String} (htext : t.collected = s.collected)
    (hlog : t.log = s.log) : r.Adds s "" deliverable (.next t) := by
  unfold Adds
  rw [collect_empty, deltaData_empty, List.append_nil]
  exact ⟨htext, congrArg deltas hlog⟩

theorem adds_nothing_stop (hlog : deltas o.2 = deltas s.log)
    (htext : ∀ text, o.1 = .ok text → text = s.collected) : r.Adds s "" none (.stop o) := by
  unfold Adds
  rw [collect_empty, deltaData_empty, List.append_nil]
  exact ⟨hlog, htext⟩

theorem adds_conclude :
    r.Adds s result.content
      ((r.classifier.resolveDeliverableFinalContent result
        (collect s.collected result.content).1).filter
          fun _ => !isDaemonTurnEndEvent result.completionEvent)
      (r.conclude c (r.absorb c s tick result) tick result ended) := by
  have hlog : deltas (r.absorb c s tick result).log =
      deltas s.log ++ r.deltaData (collect s.collected result.content).2 := by
    rw [deltas_absorb, deltas_broadcastDelta]
  unfold conclude
  rw [absorb_text]
  split
  case h_1 finalText hfinal =>
    rw [hfinal]
    refine ⟨deltas_completeTurn.trans hlog, ?_⟩
    intro text h
    exact (Except.ok.inj h).symm
  case h_2 hfinal =>
    rw [hfinal]
    split
    · split_ifs
      · exact ⟨deltas_failWith.trans hlog, fun _ h => nomatch h⟩
      · exact ⟨deltas_completeTurn.trans hlog, fun _ h => (Except.ok.inj h).symm⟩
    · exact ⟨absorb_text, hlog⟩

/-- Adding to a state depends on its text and its log only. -/
theorem Adds.congr {deliverable : Option String} {x : Scan.Step TurnState Outcome}
    (htext : t.collected = s.collected) (hlog : t.log = s.log)
    (h : r.Adds t content deliverable x) : r.Adds s content deliverable x := by
  unfold Adds at *
  rw [← htext, ← hlog]
  exact h

theorem adds_processEvent (harmed : s.armed = true) :
    r.Adds s (r.contentOf s.collected ev) (r.deliverableOf s.collected ev)
      (r.processEvent c s tick ev) := by
  unfold processEvent contentOf
  simp only [harmed, Bool.not_true, Bool.and_false, Bool.false_eq_true, if_false]
  split_ifs with hfail
  · unfold Adds
    rw [collect_empty, deltaData_empty, List.append_nil]
    exact ⟨deltas_failWith, fun _ h => nomatch h⟩
  · exact adds_conclude.congr rfl rfl

theorem adds_onClosed {live alive : Bool} : r.Adds s "" none (r.onClosed c s tick live alive) := by
  unfold onClosed
  split_ifs
  · exact adds_nothing_stop deltas_completeTurn fun _ h => (Except.ok.inj h).symm
  · exact adds_nothing_stop deltas_failWith fun _ h => nomatch h
  · exact adds_nothing_next rfl rfl

theorem adds_finishTimeout {now : ℕ} {completionEvent : String} {policy : TimeoutPolicy} :
    r.Adds s "" none (.stop (r.finishTimeout c (s.log ++ [.commandCancel c.loopId]) s.collected now
      completionEvent policy)) := by
  apply adds_nothing_stop
  · exact deltas_finishTimeout
  · cases policy with
    | softComplete => exact fun _ h => (Except.ok.inj h).symm
    | fail => exact fun _ h => nomatch h

theorem processed_of_reads (hr : r.reads c s tick = true) (hrecv : tick.recv = .frame ev) :
    r.processed c s tick =
      if s.armed || !(isStaleTurnEndEvent ev || isStatusRunningEvent ev) then some ev
      else none := by
  unfold processed
  rw [if_pos hr, hrecv]

theorem processed_of_recv (h : ∀ ev, tick.recv ≠ .frame ev) : r.processed c s tick = none := by
  unfold processed
  split_ifs
  · split
    · exact absurd ‹_› (h _)
    · rfl
  · rfl

theorem recv_of_processed (h : r.processed c s tick = some ev) : tick.recv = .frame ev := by
  unfold processed at h
  split_ifs at h
  split at h
  · rename_i ev' hrecv
    split_ifs at h
    obtain rfl := Option.some.inj h
    exact hrecv
  · cases h

theorem adds_onEvent :
    r.Adds s
      ((if s.armed || !(isStaleTurnEndEvent ev || isStatusRunningEvent ev) then some ev
        else none).elim "" (r.contentOf s.collected))
      ((if s.armed || !(isStaleTurnEndEvent ev || isStatusRunningEvent ev) then some ev
        else none).bind (r.deliverableOf s.collected))
      (r.onEvent c s tick ev) := by
  unfold onEvent
  by_cases ha : s.armed = true
  · rw [if_pos ha, ha, Bool.true_or, if_pos rfl]
    exact adds_processEvent ha
  · rw [if_neg ha, eq_false_of_ne_true ha, Bool.false_or]
    by_cases hstale : isStaleTurnEndEvent ev = true
    · rw [if_pos hstale, hstale, Bool.true_or]
      exact adds_nothing_next rfl rfl
    · rw [if_neg hstale, eq_false_of_ne_true hstale, Bool.false_or]
      by_cases hrun : isStatusRunningEvent ev = true
      · simp only [hrun, if_true]
        exact adds_nothing_next rfl rfl
      · simp only [eq_false_of_ne_true hrun, Bool.not_false, if_true, Bool.false_eq_true,
          if_false]
        exact (adds_processEvent rfl).congr rfl rfl

/-- **Step lemma.** An iteration adds the content it takes in. -/
theorem adds_loopStep :
    r.Adds s (r.taken c s tick) (r.delivered c s tick) (r.loopStep c s tick) := by
  unfold taken delivered
  by_cases hr : r.reads c s tick = true
  · rw [loopStep_of_reads hr]
    cases hrecv : tick.recv with
    | missing =>
      rw [processed_of_recv (by simp [hrecv])]
      exact adds_nothing_stop rfl fun _ h => nomatch h
    | timedOut =>
      rw [processed_of_recv (by simp [hrecv])]
      exact adds_nothing_next rfl rfl
    | closed live alive =>
      rw [processed_of_recv (by simp [hrecv])]
      exact adds_onClosed
    | frame ev =>
      rw [processed_of_reads hr hrecv]
      exact adds_onEvent
  · have hnone : r.processed c s tick = none := if_neg hr
    rw [hnone]
    unfold loopStep
    split_ifs with h1 h2 h3
    · exact adds_nothing_stop deltas_failWith fun _ h => nomatch h
    · exact adds_finishTimeout
    · exact adds_finishTimeout
    · unfold reads at hr
      simp [h1, h2, h3] at hr

/-! ## The call -/

/-- The loop of a call reaches a state after some of its ticks. -/
def Reaches (r : TurnRunner) (call : TurnCall) (env : Env) (loopId : String) (before : List Tick)
    (s : TurnState) : Prop :=
  env.acquired = .ok loopId ∧ env.hasStream = true ∧ env.sent = .ok () ∧ before <+: env.ticks ∧
    Scan.reach (r.loopStep (r.ctx call loopId env.startedAt))
      (r.startState call loopId env.startedAt) before = some s

/-- The loop of a call meets a tick after the ticks before it. -/
def Iterates (r : TurnRunner) (call : TurnCall) (env : Env) (loopId : String) (before : List Tick)
    (s : TurnState) (tick : Tick) : Prop :=
  r.Reaches call env loopId before s ∧ before ++ [tick] <+: env.ticks

variable {loopId : String} {before : List Tick}

/-- A turn that returns a text returns it from an iteration. -/
theorem iterates_of_ok {text : String}
    (h : r.runTurn call env = some (.ok text, log)) :
    ∃ loopId before s tick, r.Iterates call env loopId before s tick ∧
      r.loopStep (r.ctx call loopId env.startedAt) s tick = .stop (.ok text, log) := by
  unfold runTurn at h
  cases hacq : env.acquired with
  | error e =>
    rw [hacq] at h
    cases h
  | ok loopId =>
    rw [hacq] at h
    simp only at h
    cases hstream : env.hasStream with
    | false =>
      rw [hstream] at h
      cases h
    | true =>
      rw [hstream] at h
      cases hsent : env.sent with
      | error e =>
        rw [hsent] at h
        cases h
      | ok u =>
        rw [hsent] at h
        obtain ⟨⟨n, o⟩, hstop, rfl⟩ := Option.map_eq_some_iff.1 h
        obtain ⟨before, s, tick, after, hticks, -, hreach, hs⟩ := Scan.stopAt_eq_some hstop
        refine ⟨loopId, before, s, tick, ⟨⟨hacq, hstream, hsent, ?_, hreach⟩, ?_⟩, hs⟩
        · exact ⟨tick :: after, hticks.symm⟩
        · exact ⟨after, by rw [hticks, List.append_assoc]; rfl⟩

/-- **Run rule.** What holds at the start and is kept by every iteration holds in every state
reached. -/
theorem Reaches.induct {P : List Tick → TurnState → Prop}
    (hstart : P [] (r.startState call loopId env.startedAt))
    (hstep : ∀ before s tick t, r.Iterates call env loopId before s tick → P before s →
      r.loopStep (r.ctx call loopId env.startedAt) s tick = .next t → P (before ++ [tick]) t)
    (h : r.Reaches call env loopId before s) : P before s := by
  obtain ⟨hacq, hstream, hsent, hpre, hreach⟩ := h
  induction before using List.reverseRecOn generalizing s with
  | nil =>
    obtain rfl := Option.some.inj hreach
    exact hstart
  | append_singleton before tick ih =>
    obtain ⟨u, hu, hnext⟩ := Scan.reach_concat hreach
    have hpre' : before <+: env.ticks := (List.prefix_append before [tick]).trans hpre
    exact hstep before u tick s ⟨⟨hacq, hstream, hsent, hpre', hu⟩, hpre⟩ (ih hpre' hu) hnext

/-- An iteration that goes on reaches the next state. -/
theorem Iterates.reaches (h : r.Iterates call env loopId before s tick)
    (hnext : r.loopStep (r.ctx call loopId env.startedAt) s tick = .next t) :
    r.Reaches call env loopId (before ++ [tick]) t := by
  obtain ⟨⟨hacq, hstream, hsent, -, hreach⟩, hpre⟩ := h
  refine ⟨hacq, hstream, hsent, hpre, ?_⟩
  rw [Scan.reach_append hreach, Scan.reach_cons_next hnext]
  rfl

/-- What of the text reaches the broadcaster has been streamed. -/
def Streams (r : TurnRunner) (s : TurnState) : Prop := streamedText s.log = r.streamed s.collected

theorem streams_startState {startedAt : ℕ} :
    r.Streams (r.startState call loopId startedAt) := by
  have hnone : streamedText (r.startState call loopId startedAt).log = "" := by
    unfold startState sendEffect
    cases r.inputBuilder <;> rfl
  exact hnone.trans streamed_empty.symm

/-- The text and the deltas grow by the same string. -/
theorem Streams.next (h : r.Streams s) (hstep : r.loopStep c s tick = .next t) : r.Streams t := by
  have hadds : r.Adds s (r.taken c s tick) (r.delivered c s tick) (r.loopStep c s tick) :=
    adds_loopStep
  rw [hstep] at hadds
  obtain ⟨htext, hlog⟩ := hadds
  unfold Streams
  rw [streamedText_of_deltas hlog, htext, collect_fst, streamed_append, h]

/-- **Run lemma.** In every state reached the text is streamed. -/
theorem Reaches.streams (h : r.Reaches call env loopId before s) : r.Streams s := by
  refine Reaches.induct (P := fun _ s => r.Streams s) streams_startState ?_ h
  intro before s tick t _ hs hnext
  exact hs.next hnext

/-- What a stop has broadcast is the text with the content taken in. -/
theorem Streams.stop (h : r.Streams s) (hstep : r.loopStep c s tick = .stop o) :
    streamedText o.2 = r.streamed (collect s.collected (r.taken c s tick)).1 := by
  have hadds : r.Adds s (r.taken c s tick) (r.delivered c s tick) (r.loopStep c s tick) :=
    adds_loopStep
  rw [hstep] at hadds
  rw [streamedText_of_deltas hadds.1, h, ← streamed_append, ← collect_fst]

theorem loopStep_missing (h : ¬ r.FindsStream c s tick) :
    r.loopStep c s tick = .stop (.error ⟨"event stream missing"⟩, s.log) := by
  obtain ⟨hr, hm⟩ := Classical.not_imp.1 h
  rw [loopStep_of_reads hr, not_not.1 hm]
  rfl

theorem quiet_next (h : Quiet s.log) (hstep : r.loopStep c s tick = .next t) : Quiet t.log := by
  by_cases hf : r.FindsStream c s tick
  · have hk := keeps_loopStep h hf
    rw [hstep] at hk
    exact hk
  · rw [loopStep_missing hf] at hstep
    cases hstep

theorem settled_stop {text : String} (h : Quiet s.log)
    (hstep : r.loopStep c s tick = .stop (.ok text, log)) : r.Settled (.ok text, log) := by
  by_cases hf : r.FindsStream c s tick
  · have hk := keeps_loopStep h hf
    rw [hstep] at hk
    exact hk
  · rw [loopStep_missing hf] at hstep
    cases hstep

theorem Reaches.quiet (h : r.Reaches call env loopId before s) : Quiet s.log := by
  refine Reaches.induct (P := fun _ s => Quiet s.log) quiet_startState ?_ h
  intro before s tick t _ hs hnext
  exact quiet_next hs hnext

/-- **The deltas are the reply.** In every state reached the text is streamed. A turn that returns
a text returns it from an iteration, and unless a deliverable replaced the text there, the
returned text is the collected one, it is all that was streamed, and the message, the event and
the call that book it carry it. -/
theorem deltas_are_reply (r : TurnRunner) (call : TurnCall) (env : Env) :
    (∀ loopId before s, r.Reaches call env loopId before s →
      streamedText s.log = r.streamed s.collected) ∧
    ∀ text log, r.runTurn call env = some (.ok text, log) →
      ∃ loopId before s tick, r.Iterates call env loopId before s tick ∧
        r.loopStep (r.ctx call loopId env.startedAt) s tick = .stop (.ok text, log) ∧
        (r.delivered (r.ctx call loopId env.startedAt) s tick = none →
          text = (collect s.collected (r.taken (r.ctx call loopId env.startedAt) s tick)).1 ∧
            streamedText log = r.streamed text ∧ ledger log = r.bookkeeping (.ok text)) := by
  constructor
  · intro loopId before s h
    exact h.streams
  · intro text log h
    obtain ⟨loopId, before, s, tick, hiter, hstop⟩ := iterates_of_ok h
    refine ⟨loopId, before, s, tick, hiter, hstop, ?_⟩
    intro hdel
    have hadds : r.Adds s (r.taken (r.ctx call loopId env.startedAt) s tick)
        (r.delivered (r.ctx call loopId env.startedAt) s tick)
        (r.loopStep (r.ctx call loopId env.startedAt) s tick) := adds_loopStep
    rw [hstop, hdel] at hadds
    have htext := hadds.2 text rfl
    have hdeltas := hiter.1.streams.stop hstop
    refine ⟨htext, ?_, settled_stop hiter.1.quiet hstop⟩
    rw [hdeltas, htext]
    rfl

/-- An iteration that receives a chunk of the turn `L:1`. -/
def chunkTick (content : String) : Tick where
  recv := .frame (eventFrame "messages" "L:1"
    (.arr [.obj [("type", .str "AIMessageChunk"), ("content", .str content)]]))

/-- The frames of a turn: running, some chunks, `stream.end`. -/
def chunked (contents : List String) : Env where
  acquired := .ok "L"
  ticks := { recv := .frame (statusFrame "running" (some "L:1")) } ::
    (contents.map chunkTick ++ [{ recv := .frame (streamEndFrame "L:1") }])

/-- No frame of such a turn is a deliverable. -/
theorem delivered_chunked (htick : tick ∈ (chunked ["Hel", "lo"]).ticks) :
    attached.delivered c s tick = none := by
  have hnone : ∀ ev, tick.recv = .frame ev → attached.deliverableOf s.collected ev = none := by
    intro ev hrecv
    rcases htick with _ | ⟨_, _ | ⟨_, _ | ⟨_, _ | ⟨_, h⟩⟩⟩⟩
    · obtain rfl := Recv.frame.inj hrecv
      rfl
    · obtain rfl := Recv.frame.inj hrecv
      rfl
    · obtain rfl := Recv.frame.inj hrecv
      rfl
    · obtain rfl := Recv.frame.inj hrecv
      rfl
    · cases h
  unfold delivered
  cases hp : attached.processed c s tick with
  | none => rfl
  | some ev => exact hnone ev (recv_of_processed hp)

/-- A turn of two chunks. -/
theorem deltas_are_reply_chunked : ∃ log,
    attached.runTurn greeting (chunked ["Hel", "lo"]) = some (.ok "Hello", log) ∧
      deltas log = [.str "Hel", .str "lo"] ∧ streamedText log = "Hello" ∧
        ledger log = attached.bookkeeping (.ok "Hello") := by
  have hrun : (attached.runTurn greeting (chunked ["Hel", "lo"])).map
      (fun o => (o.1.toOption, deltas o.2)) = some (some "Hello", [.str "Hel", .str "lo"]) := rfl
  obtain ⟨⟨res, log⟩, hturn, hpc⟩ := Option.map_eq_some_iff.1 hrun
  obtain ⟨hres, hdeltas⟩ := Prod.mk.inj hpc
  cases res with
  | error e => cases hres
  | ok text =>
    obtain rfl := Option.some.inj hres
    obtain ⟨loopId, before, s, tick, ⟨-, hpre⟩, -, hreply⟩ :=
      (deltas_are_reply attached greeting (chunked ["Hel", "lo"])).2 _ log hturn
    have htick : tick ∈ (chunked ["Hel", "lo"]).ticks :=
      hpre.subset (List.mem_append_right before (List.mem_singleton_self tick))
    obtain ⟨-, hstreamed, hledger⟩ := hreply (delivered_chunked htick)
    exact ⟨log, hturn, hdeltas, hstreamed, hledger⟩

end TurnRunner

end SootheClient.Turn
