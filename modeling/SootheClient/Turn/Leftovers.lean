import SootheClient.Turn.Outcome
import SootheClient.Turn.Speech

/-!
# Leftovers of a pooled connection

A leftover is a frame of another loop or of an earlier generation than the turn `T`. What the loop
makes of a frame depends on its kind, on its turn id and on the frames before it: `Ends` reads off
the history whether the frame ends the turn, `Speaks` whether it carries text or a failure. When no
leftover does either, and the frames of the turn end it with the leftovers in the history just when
they do without them, deleting the leftovers changes neither where the turn ends nor its result nor
its deltas. The wall clock does not advance here: `readStep` is an iteration of `loopStep` that
receives a frame and meets no timeout.
-/

namespace SootheClient.Turn

open SootheClient.Frame
open Json (Members)

/-- The generation of the id is lower than that of `T`. -/
def Older (T : String) (turnId : Option String) : Prop :=
  ∃ g gT, parseTurnGeneration turnId = some g ∧ parseTurnGeneration (some T) = some gT ∧ g < gT

instance (T : String) (turnId : Option String) : Decidable (Older T turnId) :=
  decidable_of_iff ((parseTurnGeneration turnId).any fun g =>
      (parseTurnGeneration (some T)).any fun gT => g < gT) (by
    unfold Older
    cases parseTurnGeneration turnId <;> cases parseTurnGeneration (some T) <;> simp)

/-- The frame carries the id of another loop, or a turn id of a lower generation. -/
def isLeftover (loopId T : String) (msg : Json) : Bool :=
  ((inner msg).getStrD "loop_id" ≠ "" && (inner msg).getStrD "loop_id" ≠ loopId) ||
    decide (Older T (frameTurnId (inner msg)))

/-- A running status of the loop with the turn id `T`. -/
def isStart (loopId T : String) (msg : Json) : Bool :=
  (inner msg).getStr "type" = some "status" && (inner msg).getStr "state" = some "running" &&
    ((inner msg).getStrD "loop_id" = "" || (inner msg).getStrD "loop_id" = loopId) &&
    frameTurnId (inner msg) = some T

/-- The frames that are no leftovers. -/
def kept (loopId T : String) (msg : Json) : Bool := !isLeftover loopId T msg

/-- The calls that the frames make on the boundary. -/
def calls (frames : List Json) : List Call := frames.filterMap callOf

/-- After a running status, a stop of the bound turn, or any stop while no turn is bound, ends the
turn; an idle status and a turn-end event of the bound turn do once there was progress. -/
def EndsTurn (h : List Call) (c : Call) : Prop :=
  SawRunning h ∧ ((c.isState "stopped" = true ∧ (binding (runningIds h) = none ∨ Bound h c)) ∨
    ((c.isState "idle" = true ∨ c.isTurnEnd = true) ∧ ProgressSince h ∧ Bound h c))

/-- The message ends a turn that has seen the frames before it. -/
def Ends (before : List Json) (msg : Json) : Prop := ∃ c ∈ callOf msg, EndsTurn (calls before) c

/-- The text of a broadcast delta. -/
def deltaText : Effect → Option Json := eventData "delta"

def deltas (log : List Effect) : List Json := log.filterMap deltaText

variable {msg : Json} {d : Call} {before before' : List Json} {g g' : TurnLifecycleGate}
  {b b' : TurnBoundary} {reason reason' : String}

/-! ## The history -/

theorem calls_concat : calls (before ++ [msg]) = calls before ++ (callOf msg).toList := by
  unfold calls
  rw [List.filterMap_append]
  cases hc : callOf msg with
  | none => rw [List.filterMap_cons_none hc]; rfl
  | some d => rw [List.filterMap_cons_some hc]; rfl

theorem trimmed_callOf (h : callOf msg = some d) : d.Trimmed := by
  by_cases hs : (inner msg).getStrD "type" = "status"
  · obtain rfl := Option.some.inj ((callOf_status hs).symm.trans h)
    exact trimmed_frameTurnId (inner msg)
  · by_cases he : (inner msg).getStrD "type" = "event"
    · obtain rfl := Option.some.inj ((callOf_event he).symm.trans h)
      exact trimmed_frameTurnId (inner msg)
    · rw [callOf_other hs he] at h
      cases h

theorem trimmed_calls : ∀ d ∈ calls before, d.Trimmed := by
  intro d hd
  obtain ⟨msg, -, hc⟩ := List.mem_filterMap.1 hd
  exact trimmed_callOf hc

/-- A call ends the turn when its history and its kind say so. -/
theorem endsTurn_iff {h : List Call} (hf : Follows h g) (hh : ∀ d ∈ h, d.Trimmed)
    (hd : d.Trimmed) : EndsTurn h d ↔ ∃ reason, verdict (g.observe d) d = some reason := by
  unfold EndsTurn
  constructor
  · rintro ⟨hrun, ⟨hstop, hbound⟩ | ⟨hidle | hend, hprog, hbound⟩⟩
    · exact ⟨_, (verdict_stopped hf hh hd).2 ⟨hstop, hrun, hbound⟩⟩
    · exact ⟨_, (verdict_idle hf hh hd).2 ⟨hidle, hrun, hprog, hbound⟩⟩
    · exact ⟨_, (verdict_streamEnd hf hh hd).2 ⟨hend, hrun, hprog, hbound⟩⟩
  · rintro ⟨reason, hv⟩
    rcases verdict_reason hv with rfl | rfl | rfl
    · obtain ⟨hend, hrun, hprog, hbound⟩ := (verdict_streamEnd hf hh hd).1 hv
      exact ⟨hrun, Or.inr ⟨Or.inr hend, hprog, hbound⟩⟩
    · obtain ⟨hidle, hrun, hprog, hbound⟩ := (verdict_idle hf hh hd).1 hv
      exact ⟨hrun, Or.inr ⟨Or.inl hidle, hprog, hbound⟩⟩
    · obtain ⟨hstop, hrun, hbound⟩ := (verdict_stopped hf hh hd).1 hv
      exact ⟨hrun, Or.inl ⟨hstop, hbound⟩⟩

/-- Which reason a call gives does not depend on the gate. -/
theorem verdict_unique (h : verdict g d = some reason) (h' : verdict g' d = some reason') :
    reason = reason' := by
  cases d with
  | event mode data frameTurn =>
    rw [verdict_event] at h h'
    split_ifs at h h'
    rw [← Option.some.inj h, ← Option.some.inj h']
  | status state turnId =>
    rw [verdict_status] at h h'
    by_cases hstop : Text.eqIgnoreAsciiCase state "stopped" = true
    · have hidle : Text.eqIgnoreAsciiCase state "idle" = false := by
        rw [Text.eqIgnoreAsciiCase_congr hstop]
        decide
      rw [hidle] at h h'
      split_ifs at h h' <;> simp_all
    · rw [Bool.not_eq_true] at hstop
      rw [hstop] at h h'
      split_ifs at h h' <;> simp_all

/-- The reason with which a message ends an open boundary, if it does. -/
theorem feedBoundary_snd (hb : b.ended = false) :
    (feedBoundary b msg).2 = (callOf msg).bind fun d => verdict (b.gate.observe d) d := by
  rw [feedBoundary_eq]
  cases callOf msg with
  | none => rfl
  | some d =>
    show (b.feed d).2 = verdict (b.gate.observe d) d
    rw [feed_eq hb]
    cases verdict (b.gate.observe d) d <;> rfl

theorem ends_iff (hf : Follows (calls before) b.gate) (hb : b.ended = false) :
    Ends before msg ↔ ∃ reason, (feedBoundary b msg).2 = some reason := by
  unfold Ends
  rw [feedBoundary_snd hb]
  cases hc : callOf msg with
  | none => simp
  | some d =>
    simp only [Option.mem_def, Option.some.injEq, exists_eq_left', Option.bind_some]
    exact endsTurn_iff hf trimmed_calls (trimmed_callOf hc)

theorem not_ends_iff (hf : Follows (calls before) b.gate) (hb : b.ended = false) :
    ¬ Ends before msg ↔ (feedBoundary b msg).2 = none := by
  rw [ends_iff hf hb, ← Option.ne_none_iff_exists', not_ne_iff]

/-- Boundaries whose histories agree on whether a message ends them answer it alike. -/
theorem feedBoundary_agree (hf : Follows (calls before) b.gate) (hb : b.ended = false)
    (hf' : Follows (calls before') b'.gate) (hb' : b'.ended = false)
    (h : Ends before msg ↔ Ends before' msg) :
    (feedBoundary b msg).2 = (feedBoundary b' msg).2 := by
  by_cases he : Ends before msg
  · obtain ⟨reason, hr⟩ := (ends_iff hf hb).1 he
    obtain ⟨reason', hr'⟩ := (ends_iff hf' hb').1 (h.1 he)
    rw [hr, hr']
    rw [feedBoundary_snd hb] at hr
    rw [feedBoundary_snd hb'] at hr'
    obtain ⟨d, hd, hv⟩ := Option.bind_eq_some_iff.1 hr
    obtain ⟨d', hd', hv'⟩ := Option.bind_eq_some_iff.1 hr'
    obtain rfl := Option.some.inj (hd.symm.trans hd')
    rw [verdict_unique hv hv']
  · rw [(not_ends_iff hf hb).1 he, (not_ends_iff hf' hb').1 (mt h.2 he)]

/-- A boundary that a message does not end follows the history with it. -/
theorem follows_feedBoundary (hf : Follows (calls before) b.gate) (hb : b.ended = false)
    (h : feedBoundary b msg = (b', none)) :
    Follows (calls (before ++ [msg])) b'.gate ∧ b'.ended = false := by
  refine ⟨?_, feedBoundary_open hb h⟩
  rw [calls_concat]
  cases hc : callOf msg with
  | none =>
    rw [feedBoundary_eq, hc] at h
    obtain rfl : b = b' := congrArg Prod.fst h
    rw [Option.toList_none, List.append_nil]
    exact hf
  | some d =>
    rw [feedBoundary_gate hb hc h]
    exact follows_observe hf

/-- Without a running status before it no message ends the turn. -/
theorem not_ends_of_not_running (hf : Follows (calls before) g) (hg : g.sawRunning = false) :
    ¬ Ends before msg := by
  rintro ⟨d, -, hrun, -⟩
  rw [hf.running.2 hrun] at hg
  cases hg

namespace TurnRunner

/-- One iteration that receives a frame, with the wall clock standing still. -/
def readStep (r : TurnRunner) (c : TurnCtx) (s : TurnState) (msg : Json) :
    Scan.Step TurnState Outcome :=
  r.loopStep c s { recv := .frame msg }

/-- What the classifier says of a frame leaves the text alone and does not end the turn. -/
def Silent (r : TurnRunner) (collected : String) (msg : Json) : Prop :=
  let result := r.classifier.classify r.fromStr msg collected
  result.terminal ≠ .failedComplete ∧ collect collected result.content = (collected, "") ∧
    (isDaemonTurnEndEvent result.completionEvent = true ∨
      r.classifier.resolveDeliverableFinalContent result collected = none)

/-- A leftover neither ends the turn nor speaks. A kept frame ends the turn after all the frames
before it just when it does after the kept ones. -/
def Harmless (r : TurnRunner) (L T : String) (before : List Json) (s : TurnState) (msg : Json) :
    Prop :=
  if kept L T msg = true then (Ends before msg ↔ Ends (before.filter (kept L T)) msg)
  else ¬ Ends before msg ∧ ¬ Speaks r.classifier r.fromStr s.collected msg

variable {r : TurnRunner} {c : TurnCtx} {s t s' t' : TurnState} {tick : Tick}
  {T L collected : String} {log log' : List Effect} {frames : List Json}

theorem readStep_eq : r.readStep c s msg = r.onEvent c s { recv := .frame msg } msg := by
  have hreads : r.reads c s { recv := .frame msg } = true := by
    unfold reads pastDeadline idleTooLong
    simp
  exact loopStep_of_reads hreads

/-! ## Deltas -/

theorem deltas_append : deltas (log ++ log') = deltas log ++ deltas log' := List.filterMap_append

theorem deltas_broadcast {appKey eventType : String} {data : Json} (h : eventType ≠ "delta") :
    deltas (r.broadcastEvent appKey eventType data) = [] := by
  unfold broadcastEvent
  cases r.broadcaster with
  | false => rfl
  | true =>
    show List.filterMap _ [_] = []
    simp [deltaText, eventData, h]

theorem deltas_completeTurn {content completionEvent : String} {now : ℕ} :
    deltas (r.completeTurn c log content now completionEvent).2 = deltas log := by
  unfold completeTurn
  rw [deltas_append]
  suffices h : deltas (.appendMessage c.sessionId (completedMessage content completionEvent
      (asMillisI64 (now - c.startedAt))) :: (r.broadcastComplete c.sessionId content ++
        if r.onComplete then [.onComplete c.sessionId c.loopId content completionEvent
          (asMillisI64 (now - c.startedAt))] else [])) = [] by
    rw [h, List.append_nil]
  show deltas (r.broadcastComplete c.sessionId content ++ _) = []
  rw [deltas_append, broadcastComplete, deltas_broadcast (by decide)]
  cases r.onComplete <;> rfl

theorem deltas_failWith {err : Error} : deltas (r.failWith c log err).2 = deltas log := by
  unfold failWith failTurn
  rw [deltas_append]
  suffices h : deltas (.appendMessage c.sessionId (failedMessage err) ::
      (r.broadcastError c.sessionId err ++
        if r.onError then [.onError c.sessionId c.loopId err] else [])) = [] by
    rw [h, List.append_nil]
  show deltas (r.broadcastError c.sessionId err ++ _) = []
  rw [deltas_append, broadcastError, deltas_broadcast (by decide)]
  cases r.onError <;> rfl

theorem deltas_absorb {result : ChatEventResult} :
    deltas (r.absorb c s tick result).log = deltas s.log ++
      deltas (if (collect s.collected result.content).2 ≠ "" then
        r.broadcastDelta c.sessionId (collect s.collected result.content).2 else []) := by
  unfold absorb
  rw [deltas_append, deltas_append]
  congr 1
  split_ifs
  · rw [broadcastThinkingStep, deltas_broadcast (by decide), List.append_nil]
  · exact List.append_nil _

/-- The text after an event is the text before it and the delta. -/
theorem collect_fst (collected content : String) :
    (collect collected content).1 = collected ++ (collect collected content).2 := by
  unfold collect
  split_ifs with h0 hp
  · exact String.append_empty.symm
  · exact (Text.append_drop_of_startsWith hp).symm
  · rfl

/-- A plain result is silent. -/
theorem silent_of_plain (h : Plain (r.classifier.classify r.fromStr msg collected)) :
    r.Silent collected msg := by
  unfold Silent
  generalize r.classifier.classify r.fromStr msg collected = result at h
  obtain ⟨hcontent, hterm⟩ := h
  refine ⟨?_, ?_, Or.inr ?_⟩
  · rw [hterm]
    decide
  · rw [hcontent]
    exact if_pos rfl
  · unfold EventClassifier.resolveDeliverableFinalContent
    rw [if_pos (by rw [hterm]; decide)]

theorem collect_self : collect collected collected = (collected, "") := by
  unfold collect
  by_cases h0 : collected = ""
  · rw [if_pos h0]
  · rw [if_neg h0, if_pos (Text.startsWith_iff.2 (List.prefix_refl _)), ← String.length_toList,
      List.drop_length]

/-- A frame that says nothing is silent. -/
theorem silent_of_not_speaks (h : ¬ Speaks r.classifier r.fromStr collected msg) :
    r.Silent collected msg := by
  rcases plain_of_not_speaks h with hplain | hidle
  · exact silent_of_plain hplain
  · unfold Silent
    rw [hidle]
    exact ⟨ChatEventTerminal.noConfusion, collect_self, Or.inl (by
      show isDaemonTurnEndEvent "status.idle" = true
      decide)⟩

/-! ## Events -/

/-- The results and the deltas of two turns are equal. -/
def SameOutcome (o o' : Outcome) : Prop := o.1 = o'.1 ∧ deltas o.2 = deltas o'.2

/-- Two turns have the same text and the same deltas; the first one is armed when the second is. -/
structure SameText (s t : TurnState) : Prop where
  collected : s.collected = t.collected
  deltas : deltas s.log = deltas t.log
  armed : t.armed = true → s.armed = true

/-- Turns that agree on what matters conclude alike. -/
theorem conclude_rel {R : TurnState → TurnState → Prop} {result : ChatEventResult}
    {ended : Option String} (hc : s.collected = t.collected) (hd : deltas s.log = deltas t.log)
    (hR : R s t) :
    Scan.Step.Rel R SameOutcome (r.conclude c s tick result ended)
      (r.conclude c t tick result ended) := by
  unfold conclude
  rw [hc]
  cases (r.classifier.resolveDeliverableFinalContent result t.collected).filter
      fun _ => !isDaemonTurnEndEvent result.completionEvent with
  | some finalText =>
    refine .stop ⟨rfl, ?_⟩
    rw [deltas_completeTurn, deltas_completeTurn, hd]
  | none =>
    cases ended with
    | none => exact .next hR
    | some reason =>
      by_cases hb : Text.trim t.collected = ""
      · show Scan.Step.Rel R SameOutcome (if _ then _ else _) (if _ then _ else _)
        rw [if_pos hb, if_pos hb]
        refine .stop ⟨rfl, ?_⟩
        rw [deltas_failWith, deltas_failWith, hd]
      · show Scan.Step.Rel R SameOutcome (if _ then _ else _) (if _ then _ else _)
        rw [if_neg hb, if_neg hb]
        refine .stop ⟨rfl, ?_⟩
        rw [deltas_completeTurn, deltas_completeTurn, hd]

/-- A turn goes on when nothing ends it. -/
theorem conclude_next {tick : Tick} {result : ChatEventResult} {ended : Option String}
    (h : r.conclude c s tick result ended = .next s') : ended = none ∧ s' = s ∧
      (isDaemonTurnEndEvent result.completionEvent = true ∨
        r.classifier.resolveDeliverableFinalContent result s.collected = none) := by
  unfold conclude at h
  have hquiet : ∀ x : Option String, x.filter (fun _ =>
      !isDaemonTurnEndEvent result.completionEvent) = none →
        isDaemonTurnEndEvent result.completionEvent = true ∨ x = none := by
    intro x hx
    cases x with
    | none => exact Or.inr rfl
    | some text =>
      left
      by_contra hd
      rw [Bool.not_eq_true] at hd
      rw [hd] at hx
      cases hx
  cases hfin : (r.classifier.resolveDeliverableFinalContent result s.collected).filter
      fun _ => !isDaemonTurnEndEvent result.completionEvent with
  | some finalText =>
    rw [hfin] at h
    cases h
  | none =>
    rw [hfin] at h
    cases ended with
    | some reason =>
      simp only at h
      split_ifs at h
    | none =>
      injection h with h
      exact ⟨rfl, h.symm, hquiet _ hfin⟩

/-- A turn goes on after a result that delivers nothing and an event that ends nothing. -/
theorem conclude_of_quiet {result : ChatEventResult}
    (h : isDaemonTurnEndEvent result.completionEvent = true ∨
      r.classifier.resolveDeliverableFinalContent result s.collected = none) :
    r.conclude c s tick result none = .next s := by
  have hnone : (r.classifier.resolveDeliverableFinalContent result s.collected).filter
      (fun _ => !isDaemonTurnEndEvent result.completionEvent) = none := by
    rcases h with hd | hn
    · rw [hd]
      cases r.classifier.resolveDeliverableFinalContent result s.collected <;> rfl
    · rw [hn]
      rfl
  unfold conclude
  rw [hnone]

theorem processEvent_eq (h : s.armed = true) : r.processEvent c s tick msg =
    if (r.classifier.classify r.fromStr msg s.collected).terminal = .failedComplete then
      .stop (r.failWith c s.log ⟨(r.classifier.classify r.fromStr msg s.collected).error.getD
        "process event failed"⟩)
    else
      r.conclude c (r.absorb c { s with boundary := (feedBoundary s.boundary msg).1 } tick
        (r.classifier.classify r.fromStr msg s.collected)) tick
        (r.classifier.classify r.fromStr msg s.collected) (feedBoundary s.boundary msg).2 := by
  unfold processEvent
  simp only
  rw [if_neg (by rw [h]; simp)]

theorem absorb_boundary {result : ChatEventResult} :
    (r.absorb c s tick result).boundary = s.boundary := by
  unfold absorb
  dsimp only

theorem absorb_armed {result : ChatEventResult} :
    (r.absorb c s tick result).armed = s.armed := by
  unfold absorb
  dsimp only

theorem absorb_text {result : ChatEventResult} :
    (r.absorb c s tick result).collected = (collect s.collected result.content).1 := by
  unfold absorb
  dsimp only

/-- Taking in the same result keeps the text and the deltas equal. -/
theorem absorb_collected {result : ChatEventResult} (h : s.collected = t.collected) :
    (r.absorb c s tick result).collected = (r.absorb c t tick result).collected := by
  rw [absorb_text, absorb_text, h]

theorem absorb_deltas {result : ChatEventResult} (h : s.collected = t.collected)
    (hd : deltas s.log = deltas t.log) :
    deltas (r.absorb c s tick result).log = deltas (r.absorb c t tick result).log := by
  rw [deltas_absorb, deltas_absorb, h, hd]

/-- Armed turns with the same text process an event alike when it ends both boundaries or none. -/
theorem processEvent_rel (h : SameText s t) (hs : s.armed = true) (ht : t.armed = true)
    (hend : (feedBoundary s.boundary msg).2 = (feedBoundary t.boundary msg).2) :
    Scan.Step.Rel SameText SameOutcome (r.processEvent c s tick msg)
      (r.processEvent c t tick msg) := by
  have hres : r.classifier.classify r.fromStr msg s.collected =
      r.classifier.classify r.fromStr msg t.collected := by
    rw [h.collected]
  rw [processEvent_eq hs, processEvent_eq ht, hres, hend]
  generalize r.classifier.classify r.fromStr msg t.collected = result
  by_cases hterm : result.terminal = .failedComplete
  · rw [if_pos hterm, if_pos hterm]
    refine .stop ⟨rfl, ?_⟩
    rw [deltas_failWith, deltas_failWith, h.deltas]
  · rw [if_neg hterm, if_neg hterm]
    let fed (u : TurnState) : TurnState :=
      r.absorb c { u with boundary := (feedBoundary u.boundary msg).1 } tick result
    have hcollected : (fed s).collected = (fed t).collected := absorb_collected h.collected
    have hdeltas : deltas (fed s).log = deltas (fed t).log := absorb_deltas h.collected h.deltas
    exact conclude_rel hcollected hdeltas ⟨hcollected, hdeltas, fun _ => absorb_armed.trans hs⟩

/-- An armed turn that goes on has fed its boundary, which is open. -/
theorem processEvent_boundary (ha : s.armed = true) (h : r.processEvent c s tick msg = .next s') :
    s'.armed = true ∧ feedBoundary s.boundary msg = (s'.boundary, none) := by
  rw [processEvent_eq ha] at h
  split_ifs at h
  obtain ⟨hend, rfl, -⟩ := conclude_next h
  refine ⟨absorb_armed.trans ha, Prod.ext ?_ hend⟩
  rw [absorb_boundary]

/-- A silent event that does not end the boundary leaves the text alone. -/
theorem processEvent_of_silent (hs : s.armed = true) (h : r.Silent s.collected msg)
    (hfed : (feedBoundary s.boundary msg).2 = none) :
    ∃ s', r.processEvent c s tick msg = .next s' ∧ s'.collected = s.collected ∧
      s'.armed = true ∧ deltas s'.log = deltas s.log := by
  rw [processEvent_eq hs, hfed]
  unfold Silent at h
  generalize (feedBoundary s.boundary msg).1 = b'
  generalize r.classifier.classify r.fromStr msg s.collected = result at h
  obtain ⟨hterm, hcollect, hresolve⟩ := h
  have hcol : (r.absorb c { s with boundary := b' } tick result).collected = s.collected :=
    congrArg Prod.fst hcollect
  refine ⟨r.absorb c { s with boundary := b' } tick result, ?_, hcol, absorb_armed.trans hs, ?_⟩
  · rw [if_neg hterm]
    exact conclude_of_quiet (by rwa [hcol])
  · have hempty : (collect s.collected result.content).2 = "" := congrArg Prod.snd hcollect
    rw [deltas_absorb, hempty, if_neg (by simp)]
    exact List.append_nil _

/-! ## Steps -/

theorem readStep_armed (h : s.armed = true) :
    r.readStep c s msg = r.processEvent c s { recv := .frame msg } msg := by
  rw [readStep_eq]
  exact if_pos h

theorem readStep_stale (h : s.armed = false) (hst : isStaleTurnEndEvent msg = true) :
    r.readStep c s msg = .next s := by
  rw [readStep_eq]
  unfold onEvent
  rw [if_neg (by rw [h]; decide), if_pos hst]

theorem readStep_running (h : s.armed = false) (hst : isStaleTurnEndEvent msg = false)
    (hrun : isStatusRunningEvent msg = true) :
    r.readStep c s msg = .next { s with
      armed := true, lastEvent := 0, boundary := (feedBoundary s.boundary msg).1 } := by
  rw [readStep_eq]
  unfold onEvent
  rw [if_neg (by rw [h]; decide), if_neg (by rw [hst]; decide)]
  exact if_pos hrun

theorem readStep_other (h : s.armed = false) (hst : isStaleTurnEndEvent msg = false)
    (hrun : isStatusRunningEvent msg = false) :
    r.readStep c s msg = r.processEvent c { s with armed := true, lastEvent := 0 }
      { recv := .frame msg } msg := by
  rw [readStep_eq]
  unfold onEvent
  rw [if_neg (by rw [h]; decide), if_neg (by rw [hst]; decide)]
  exact if_neg (by rw [hrun]; decide)

theorem feedBoundary_running {b : TurnBoundary} (hb : b.ended = false)
    (h : isStatusRunningEvent msg = true) :
    feedBoundary b msg = ((feedBoundary b msg).1, none) := by
  obtain ⟨state, hc, hstate⟩ := callOf_running h
  rw [feedBoundary_next hb hc (verdict_of_running hstate)]

/-- The boundary is open and has seen the frames; before it is armed the turn has no text and has
seen no running status. -/
structure Tracks (before : List Json) (s : TurnState) : Prop where
  gate : Follows (calls before) s.boundary.gate
  running : s.boundary.ended = false
  fresh : s.armed = false → s.collected = "" ∧ s.boundary.gate.sawRunning = false

theorem Tracks.arm (h : Tracks before s) (n : ℕ) :
    Tracks before { s with armed := true, lastEvent := n } :=
  ⟨h.gate, h.running, fun hf => by cases hf⟩

theorem Tracks.not_ends (h : Tracks before s) (hs : s.armed = false) : ¬ Ends before msg :=
  not_ends_of_not_running h.gate (h.fresh hs).2

theorem Tracks.armed_of_ends (h : Tracks before s) (he : Ends before msg) : s.armed = true := by
  by_contra hs
  exact h.not_ends ((Bool.not_eq_true _).mp hs) he

/-- **Step lemma.** A turn that goes on has seen the frame as well. -/
theorem Tracks.next (h : Tracks before s) (hstep : r.readStep c s msg = .next s') :
    Tracks (before ++ [msg]) s' := by
  have hprocessed : ∀ {u tick}, Tracks before u → u.armed = true →
      r.processEvent c u tick msg = .next s' → Tracks (before ++ [msg]) s' := by
    intro u tick hu harmed hnext
    obtain ⟨harmed', hfed⟩ := processEvent_boundary harmed hnext
    obtain ⟨hgate, hopen⟩ := follows_feedBoundary hu.gate hu.running hfed
    exact ⟨hgate, hopen, fun hf => by rw [harmed'] at hf; cases hf⟩
  cases hs : s.armed with
  | true =>
    rw [readStep_armed hs] at hstep
    exact hprocessed h hs hstep
  | false =>
    cases hst : isStaleTurnEndEvent msg with
    | true =>
      rw [readStep_stale hs hst] at hstep
      injection hstep with hsame
      have hfed := feedBoundary_stale h.running (h.fresh hs).2 hst
      obtain ⟨hgate, -⟩ := follows_feedBoundary h.gate h.running hfed
      exact hsame ▸ ⟨hgate, h.running, h.fresh⟩
    | false =>
      cases hrun : isStatusRunningEvent msg with
      | true =>
        rw [readStep_running hs hst hrun] at hstep
        injection hstep with hsame
        obtain ⟨hgate, hopen⟩ := follows_feedBoundary h.gate h.running
          (feedBoundary_running h.running hrun)
        exact hsame ▸ ⟨hgate, hopen, fun hf => by cases hf⟩
      | false =>
        rw [readStep_other hs hst hrun] at hstep
        exact hprocessed (h.arm 0) rfl hstep

/-- A silent frame that does not end the turn leaves the text alone. It arms the turn, unless it is
skipped as a terminal of an earlier one. -/
theorem readStep_of_silent (h : Tracks before s) (hq : r.Silent s.collected msg)
    (he : ¬ Ends before msg) :
    ∃ s', r.readStep c s msg = .next s' ∧ s'.collected = s.collected ∧
      deltas s'.log = deltas s.log ∧
      (s'.armed = true ∨ (s.armed = false ∧ isStaleTurnEndEvent msg = true)) := by
  have hfed := (not_ends_iff h.gate h.running).1 he
  cases hs : s.armed with
  | true =>
    rw [readStep_armed hs]
    obtain ⟨s', hstep, hc, ha, hd⟩ := processEvent_of_silent (c := c) hs hq hfed
    exact ⟨s', hstep, hc, hd, Or.inl ha⟩
  | false =>
    cases hst : isStaleTurnEndEvent msg with
    | true => exact ⟨s, readStep_stale hs hst, rfl, rfl, Or.inr ⟨rfl, rfl⟩⟩
    | false =>
      cases hrun : isStatusRunningEvent msg with
      | true => exact ⟨_, readStep_running hs hst hrun, rfl, rfl, Or.inl rfl⟩
      | false =>
        rw [readStep_other hs hst hrun]
        obtain ⟨s', hstep, hc, ha, hd⟩ := processEvent_of_silent (c := c)
          (show ({ s with armed := true, lastEvent := 0 } : TurnState).armed = true from rfl) hq hfed
        exact ⟨s', hstep, hc, hd, Or.inl ha⟩

/-! ## Two turns that read alike -/

/-- The first turn has read the frames, the second one those among them that are kept. -/
structure Alike (L T : String) (before : List Json) (s t : TurnState) : Prop extends
    SameText s t where
  left : Tracks before s
  right : Tracks (before.filter (kept L T)) t

/-- **Kept frames.** Alike turns read a harmless kept frame alike. -/
theorem readStep_kept (h : Alike L T before s t) (hk : kept L T msg = true)
    (hh : r.Harmless L T before s msg) :
    Scan.Step.Rel (Alike L T (before ++ [msg])) SameOutcome (r.readStep c s msg)
      (r.readStep c t msg) := by
  have hiff : Ends before msg ↔ Ends (before.filter (kept L T)) msg := by
    unfold Harmless at hh
    rwa [if_pos hk] at hh
  have hend := feedBoundary_agree h.left.gate h.left.running h.right.gate h.right.running hiff
  suffices hrel : Scan.Step.Rel SameText SameOutcome (r.readStep c s msg) (r.readStep c t msg) by
    refine hrel.mono fun s' t' hs ht hsame => ⟨hsame, h.left.next hs, ?_⟩
    rw [List.filter_append, List.filter_cons_of_pos hk, List.filter_nil]
    exact h.right.next ht
  cases ht : t.armed with
  | true =>
    rw [readStep_armed (h.armed ht), readStep_armed ht]
    exact processEvent_rel h.toSameText (h.armed ht) ht hend
  | false =>
    have hempty : s.collected = "" := h.collected.trans (h.right.fresh ht).1
    have hno : ¬ Ends before msg := mt hiff.1 (h.right.not_ends ht)
    cases hst : isStaleTurnEndEvent msg with
    | true =>
      rw [readStep_stale ht hst]
      obtain ⟨s', hstep, hc, hd, -⟩ := readStep_of_silent (c := c) h.left
        (silent_of_plain (hempty ▸ plain_stale hst)) hno
      rw [hstep]
      exact .next ⟨hc.trans h.collected, hd.trans h.deltas, fun ha => by
        rw [ht] at ha
        cases ha⟩
    | false =>
      cases hrun : isStatusRunningEvent msg with
      | true =>
        rw [readStep_running ht hst hrun]
        obtain ⟨s', hstep, hc, hd, ha⟩ := readStep_of_silent (c := c) h.left
          (silent_of_plain (plain_running hrun)) hno
        rw [hstep]
        refine .next ⟨hc.trans h.collected, hd.trans h.deltas, fun _ => ?_⟩
        rcases ha with ha | ⟨-, hstale⟩
        · exact ha
        · rw [hst] at hstale
          cases hstale
      | false =>
        rw [readStep_other ht hst hrun]
        cases hs : s.armed with
        | true =>
          rw [readStep_armed hs]
          exact processEvent_rel ⟨h.collected, h.deltas, fun _ => hs⟩ hs rfl hend
        | false =>
          rw [readStep_other hs hst hrun]
          exact processEvent_rel ⟨h.collected, h.deltas, fun _ => rfl⟩ rfl rfl hend

/-- **Leftovers.** A harmless leftover keeps the turn alike to one that never reads it. -/
theorem readStep_leftover (h : Alike L T before s t) (hk : kept L T msg = false)
    (hh : r.Harmless L T before s msg) :
    ∃ s', r.readStep c s msg = .next s' ∧ Alike L T (before ++ [msg]) s' t := by
  unfold Harmless at hh
  rw [if_neg (by rw [hk]; decide)] at hh
  obtain ⟨s', hstep, hc, hd, ha⟩ := readStep_of_silent (c := c) h.left
    (silent_of_not_speaks hh.2) hh.1
  refine ⟨s', hstep, ⟨⟨hc.trans h.collected, hd.trans h.deltas, fun ht => ?_⟩, h.left.next hstep, ?_⟩⟩
  · rcases ha with ha | ⟨hs, -⟩
    · exact ha
    · rw [h.armed ht] at hs
      cases hs
  · rw [List.filter_append, List.filter_cons_of_neg (by rw [hk]; decide), List.filter_nil,
      List.append_nil]
    exact h.right

/-! ## The turn -/

/-- Deleting the leftovers changes neither the frame at which the turn ends, nor its result, nor
its deltas. -/
def LeftoversVanish (r : TurnRunner) (c : TurnCtx) (T : String) (s : TurnState)
    (frames : List Json) : Prop :=
  Scan.AgreeOn (kept c.loopId T) frames SameOutcome (Scan.stopAt (r.readStep c) s frames)
      (Scan.stopAt (r.readStep c) s (frames.filter (kept c.loopId T))) ∧
    ∀ s' t', Scan.reach (r.readStep c) s frames = some s' →
      Scan.reach (r.readStep c) s (frames.filter (kept c.loopId T)) = some t' →
        deltas s'.log = deltas t'.log

/-- Every frame that the turn reads is harmless where it is read. -/
def HarmlessRun (r : TurnRunner) (c : TurnCtx) (T : String) (s : TurnState) (frames : List Json) :
    Prop :=
  Scan.GuardedAfter (r.readStep c) (r.Harmless c.loopId T) [] s frames

theorem tracks_start {call : TurnCall} {loopId : String} :
    Tracks [] (r.startState call loopId 0) :=
  ⟨follows_nil, rfl, fun _ => ⟨rfl, rfl⟩⟩

theorem alike_start {call : TurnCall} {loopId : String} :
    Alike L T [] (r.startState call loopId 0) (r.startState call loopId 0) :=
  ⟨⟨rfl, rfl, id⟩, tracks_start, tracks_start⟩

/-- The turn without the leftovers gets as far as the turn with them. -/
theorem reach_of_harmlessRun (h : Alike c.loopId T [] s t) (hf : r.HarmlessRun c T s frames)
    (hs : Scan.reach (r.readStep c) s frames = some s') :
    ∃ t', Scan.reach (r.readStep c) t (frames.filter (kept c.loopId T)) = some t' ∧
      Alike c.loopId T frames s' t' :=
  Scan.reach_filter (K := SameOutcome) (fun _ _ _ _ h hk hh => readStep_kept h hk hh)
    (fun _ _ _ _ h hk hh => readStep_leftover h hk hh) h hf hs

/-- **Run lemma.** Deleting the leftovers of a harmless run changes nothing. -/
theorem leftoversVanish_of_harmlessRun (h : Alike c.loopId T [] s s)
    (hf : r.HarmlessRun c T s frames) : r.LeftoversVanish c T s frames := by
  refine ⟨Scan.stopAt_filter (fun _ _ _ _ h hk hh => readStep_kept h hk hh)
    (fun _ _ _ _ h hk hh => readStep_leftover h hk hh) h hf, fun s' t' hs ht => ?_⟩
  obtain ⟨u, hu, halike⟩ := reach_of_harmlessRun h hf hs
  obtain rfl := Option.some.inj (ht.symm.trans hu)
  exact halike.deltas

end TurnRunner

end SootheClient.Turn
