import SootheClient.Turn.Leftovers

/-!
# What leftovers can do to a turn

A leftover that ends the turn stops it, one that speaks fails it or adds to its text, and a frame
of the turn that ends it only with the leftovers before it, or only without them, stops one of the
two readings. In each case some frames, a start of the turn among them, are read differently with
the leftovers and without.
-/

namespace SootheClient.Turn

open SootheClient.Frame

variable {g : TurnLifecycleGate} {d : Call} {h : List Call} {msg : Json} {t : Option String}
  {T L collected : String} {before before' : List Json}

/-! ## Frames -/

theorem running_start : isStatusRunningEvent (statusFrame "running" t) = true := by
  unfold isStatusRunningEvent
  simp only
  rw [inner_statusFrame, Json.getStrD, statusFrame_getStr.1, statusFrame_getStr.2.1]
  decide

theorem isStart_start (hT : Frame.Trimmed (some T)) :
    isStart L T (statusFrame "running" (some T)) = true := by
  unfold isStart
  rw [statusFrame_turnId hT, inner_statusFrame, statusFrame_getStr.1, statusFrame_getStr.2.1,
    Json.getStrD, statusFrame_getStr.2.2.1]
  simp

/-- A bare status is a leftover when its turn id is older. -/
theorem isLeftover_statusFrame {state : String} (ht : Frame.Trimmed t) :
    isLeftover L T (statusFrame state t) = decide (Older T t) := by
  unfold isLeftover
  rw [statusFrame_turnId ht, inner_statusFrame, Json.getStrD, statusFrame_getStr.2.2.1]
  rfl

theorem not_older_self : ¬ Older T (some T) := by
  rintro ⟨g, gT, hg, hgT, hlt⟩
  rw [hg] at hgT
  cases hgT
  exact Int.lt_irrefl _ hlt

/-- A frame that can end a turn is a terminal. -/
theorem stale_of_ends (he : Ends before msg) : isStaleTurnEndEvent msg = true := by
  obtain ⟨d, hd, -, hkind⟩ := he
  have hlower : ∀ {state word : String}, Text.eqIgnoreAsciiCase state word = true →
      Text.toAsciiLowercase state = Text.toAsciiLowercase word := fun hs =>
    congrArg String.ofList (beq_iff_eq.1 hs)
  unfold isStaleTurnEndEvent
  simp only
  by_cases hs : (inner msg).getStrD "type" = "status"
  · obtain rfl := Option.some.inj ((callOf_status hs).symm.trans hd)
    rw [if_pos hs]
    rcases hkind with ⟨hstop, -⟩ | ⟨hidle | hend, -⟩
    · rw [hlower hstop]
      decide
    · rw [hlower hidle]
      decide
    · cases hend
  · by_cases he : (inner msg).getStrD "type" = "event"
    · obtain rfl := Option.some.inj ((callOf_event he).symm.trans hd)
      rw [if_neg hs, if_pos he]
      rcases hkind with ⟨hstop, -⟩ | ⟨hidle | hend, -⟩
      · cases hstop
      · cases hidle
      · exact hend
    · rw [callOf_other hs he] at hd
      cases hd

namespace TurnRunner

variable {r : TurnRunner} {c : TurnCtx} {s s' t t' : TurnState} {frames rest : List Json}
  {o : Outcome}

/-! ## Steps -/

/-- A turn ends on a frame that ends it. -/
theorem readStep_ends (h : Tracks before s) (he : Ends before msg) :
    ∃ o, r.readStep c s msg = .stop o := by
  cases hstep : r.readStep c s msg with
  | stop o => exact ⟨o, rfl⟩
  | next s' =>
    have harmed := h.armed_of_ends he
    rw [readStep_armed harmed] at hstep
    have hfed := (processEvent_boundary harmed hstep).2
    exact absurd he ((not_ends_iff h.gate h.running).2 (congrArg Prod.snd hfed))

/-- On a terminal the classifier is plain, or it completes the text as an idle status does. -/
theorem classify_stale (r : TurnRunner) (collected : String)
    (hst : isStaleTurnEndEvent msg = true) :
    Plain (r.classifier.classify r.fromStr msg collected) ∨
      ∃ text, r.classifier.classify r.fromStr msg collected =
        EventClassifier.deliverableResult text "status.idle" := by
  unfold isStaleTurnEndEvent at hst
  simp only at hst
  split_ifs at hst with hs he
  · have hstatus : isStatusMessage (inner msg) = true := by
      unfold isStatusMessage
      rw [getStr_of_getStrD hs (by decide)]
      rfl
    rw [classify_eq]
    unfold EventClassifier.processChatEvent
    rw [unwrapNext_eq_inner]
    simp only
    rw [if_pos hstatus, processStatus_eq]
    split_ifs
    · exact Or.inr ⟨_, rfl⟩
    · exact Or.inl plain_default
  · rw [Bool.and_eq_true, decide_eq_true_eq] at hst
    exact Or.inl (plain_turnEnd (getStr_of_getStrD he (by decide))
      (getStr_of_getStrD hst.1 (by decide)) hst.2)

/-- A turn goes on after a terminal that does not end it. -/
theorem readStep_passes (h : Tracks before s) (hst : isStaleTurnEndEvent msg = true)
    (he : ¬ Ends before msg) : ∃ s', r.readStep c s msg = .next s' := by
  cases ha : s.armed with
  | false => exact ⟨s, readStep_stale ha hst⟩
  | true =>
    rw [readStep_armed ha, processEvent_eq ha, (not_ends_iff h.gate h.running).1 he]
    rcases classify_stale r s.collected hst with hplain | ⟨text, hidle⟩
    · rw [if_neg (by rw [hplain.2]; decide)]
      refine ⟨_, conclude_of_quiet (Or.inr ?_)⟩
      unfold EventClassifier.resolveDeliverableFinalContent
      rw [if_pos (by rw [hplain.2]; decide)]
    · rw [hidle, if_neg ChatEventTerminal.noConfusion]
      exact ⟨_, conclude_of_quiet (Or.inl (by
        show isDaemonTurnEndEvent "status.idle" = true
        decide))⟩

/-- A running status arms the turn. -/
theorem readStep_start (h : Tracks before s) (hrun : isStatusRunningEvent msg = true) :
    ∃ s', r.readStep c s msg = .next s' ∧ deltas s'.log = deltas s.log := by
  have hfed := feedBoundary_running h.running hrun
  obtain ⟨s', hstep, -, hd, -⟩ := readStep_of_silent (c := c) h
    (silent_of_plain (plain_running hrun))
    ((not_ends_iff h.gate h.running).2 (congrArg Prod.snd hfed))
  exact ⟨s', hstep, hd⟩

/-- The event says once more the very text that was collected. -/
def Repeats (r : TurnRunner) (collected : String) (msg : Json) : Prop :=
  collected ≠ "" ∧ (r.classifier.classify r.fromStr msg collected).content = collected

/-- Content other than the text itself adds a delta. -/
theorem collect_ne {content : String} (hne : content ≠ "")
    (h : ¬ (collected ≠ "" ∧ content = collected)) : (collect collected content).2 ≠ "" := by
  unfold collect
  rw [if_neg hne]
  split_ifs with hp
  · show String.ofList (content.toList.drop collected.length) ≠ ""
    intro hdrop
    have happ := Text.append_drop_of_startsWith hp
    rw [hdrop, String.append_empty] at happ
    exact h ⟨happ ▸ hne, happ.symm⟩
  · exact hne

/-- A turn that goes on after a frame that speaks has a new delta, or the frame repeats the text. -/
theorem processEvent_of_speaks {tick : Tick} (ha : s.armed = true) (hbroad : r.broadcaster = true)
    (hs : Speaks r.classifier r.fromStr s.collected msg) (hrep : ¬ r.Repeats s.collected msg)
    (h : r.processEvent c s tick msg = .next s') : deltas s'.log ≠ deltas s.log := by
  have hloud := loud_of_speaks hs
  unfold Repeats at hrep
  rw [processEvent_eq ha] at h
  generalize r.classifier.classify r.fromStr msg s.collected = result at h hloud hrep
  split_ifs at h with hterm
  obtain ⟨-, rfl, -⟩ := conclude_next h
  rw [deltas_absorb, if_pos (collect_ne (hloud.resolve_left hterm) hrep)]
  unfold broadcastDelta broadcastEvent
  rw [if_pos hbroad]
  show deltas s.log ++ [_] ≠ deltas s.log
  simp

theorem readStep_of_speaks (h : Tracks before s) (hbroad : r.broadcaster = true)
    (hs : Speaks r.classifier r.fromStr s.collected msg) (hrep : ¬ r.Repeats s.collected msg)
    (hstep : r.readStep c s msg = .next s') : deltas s'.log ≠ deltas s.log := by
  cases ha : s.armed with
  | true =>
    rw [readStep_armed ha] at hstep
    exact processEvent_of_speaks ha hbroad hs hrep hstep
  | false =>
    -- what an unarmed turn skips is plain
    have hnot : ¬ Plain (r.classifier.classify r.fromStr msg s.collected) := by
      rintro ⟨hcontent, hterm⟩
      rcases loud_of_speaks hs with hfail | hne
      · rw [hterm] at hfail
        cases hfail
      · exact hne hcontent
    have hempty := (h.fresh ha).1
    cases hst : isStaleTurnEndEvent msg with
    | true => exact absurd (hempty ▸ plain_stale hst) hnot
    | false =>
      cases hrun : isStatusRunningEvent msg with
      | true => exact absurd (plain_running hrun) hnot
      | false =>
        rw [readStep_other ha hst hrun] at hstep
        exact processEvent_of_speaks (s := { s with armed := true, lastEvent := 0 }) rfl hbroad hs
          hrep hstep

/-! ## Two readings -/

/-- Reading the frames from `s` and the kept ones from `t` comes to the same. -/
def SameTurn (r : TurnRunner) (c : TurnCtx) (T : String) (s t : TurnState) (frames : List Json) :
    Prop :=
  Scan.AgreeOn (kept c.loopId T) frames SameOutcome (Scan.stopAt (r.readStep c) s frames)
      (Scan.stopAt (r.readStep c) t (frames.filter (kept c.loopId T))) ∧
    ∀ s' t', Scan.reach (r.readStep c) s frames = some s' →
      Scan.reach (r.readStep c) t (frames.filter (kept c.loopId T)) = some t' →
        deltas s'.log = deltas t'.log

theorem not_sameTurn_nil (h : deltas s.log ≠ deltas t.log) : ¬ r.SameTurn c T s t [] :=
  fun hs => h (hs.2 s t rfl rfl)

theorem not_sameTurn_drop (hk : kept c.loopId T msg = false) (hs : r.readStep c s msg = .next s')
    (h : ¬ r.SameTurn c T s' t rest) : ¬ r.SameTurn c T s t (msg :: rest) := by
  rintro ⟨ha, hd⟩
  rw [List.filter_cons_of_neg (by rw [hk]; decide)] at ha hd
  rw [Scan.stopAt_cons_next hs, Scan.agreeOn_cons_drop hk] at ha
  rw [Scan.reach_cons_next hs] at hd
  exact h ⟨ha, hd⟩

theorem not_sameTurn_keep (hk : kept c.loopId T msg = true) (hs : r.readStep c s msg = .next s')
    (ht : r.readStep c t msg = .next t') (h : ¬ r.SameTurn c T s' t' rest) :
    ¬ r.SameTurn c T s t (msg :: rest) := by
  rintro ⟨ha, hd⟩
  rw [List.filter_cons_of_pos hk] at ha hd
  rw [Scan.stopAt_cons_next hs, Scan.stopAt_cons_next ht, Scan.agreeOn_cons_keep hk] at ha
  rw [Scan.reach_cons_next hs, Scan.reach_cons_next ht] at hd
  exact h ⟨ha, hd⟩

theorem not_sameTurn_drop_stop (hk : kept c.loopId T msg = false)
    (hs : r.readStep c s msg = .stop o) : ¬ r.SameTurn c T s t (msg :: rest) :=
  fun h => Scan.not_agreeOn_of_drop_stop hk hs h.1

theorem not_sameTurn_stop_next (hk : kept c.loopId T msg = true)
    (hs : r.readStep c s msg = .stop o) (ht : r.readStep c t msg = .next t') :
    ¬ r.SameTurn c T s t (msg :: rest) := by
  rintro ⟨ha, -⟩
  rw [List.filter_cons_of_pos hk] at ha
  exact Scan.not_agreeOn_of_stop_next hs ht ha

theorem not_sameTurn_next_stop (hk : kept c.loopId T msg = true)
    (hs : r.readStep c s msg = .next s') (ht : r.readStep c t msg = .stop o) :
    ¬ r.SameTurn c T s t (msg :: rest) := by
  rintro ⟨ha, -⟩
  rw [List.filter_cons_of_pos hk] at ha
  exact Scan.not_agreeOn_of_next_stop hk hs ht ha

/-- After a prefix that ends neither reading. -/
theorem sameTurn_append (hs : Scan.reach (r.readStep c) s frames = some s')
    (ht : Scan.reach (r.readStep c) t (frames.filter (kept c.loopId T)) = some t')
    (h : r.SameTurn c T s t (frames ++ rest)) : r.SameTurn c T s' t' rest := by
  refine ⟨(Scan.agreeOn_append hs ht).1 h.1, fun u v hu hv => h.2 u v ?_ ?_⟩
  · rw [Scan.reach_append hs]
    exact hu
  · rw [List.filter_append, Scan.reach_append ht]
    exact hv

/-! ## Exactness -/

theorem kept_start (hT : Frame.Trimmed (some T)) :
    kept L T (statusFrame "running" (some T)) = true := by
  unfold kept
  rw [isLeftover_statusFrame hT, decide_eq_false not_older_self]
  rfl

/-- Deltas stay different over a start of the turn. -/
theorem not_sameTurn_start (hT : Frame.Trimmed (some T)) (hs : Tracks before s)
    (ht : Tracks before' t) (h : deltas s.log ≠ deltas t.log) :
    ¬ r.SameTurn c T s t [statusFrame "running" (some T)] := by
  obtain ⟨s', hs', hds⟩ := readStep_start (r := r) (c := c) hs running_start
  obtain ⟨t', ht', hdt⟩ := readStep_start (r := r) (c := c) ht running_start
  refine not_sameTurn_keep (kept_start hT) hs' ht' (not_sameTurn_nil ?_)
  rw [hds, hdt]
  exact h

/-- **Exactness.** A frame that is not harmless is read differently with the leftovers before it
and without. -/
theorem not_sameTurn_of_not_harmless (hT : Frame.Trimmed (some T)) (hbroad : r.broadcaster = true)
    (h : Alike c.loopId T before s t) (hh : ¬ r.Harmless c.loopId T before s msg)
    (hrep : kept c.loopId T msg = false → ¬ Ends before msg → ¬ r.Repeats s.collected msg) :
    ¬ r.SameTurn c T s t [msg, statusFrame "running" (some T)] := by
  unfold Harmless at hh
  cases hk : kept c.loopId T msg with
  | true =>
    rw [if_pos hk] at hh
    by_cases he : Ends before msg
    · have hno : ¬ Ends (before.filter (kept c.loopId T)) msg := fun he' => hh (iff_of_true he he')
      obtain ⟨o, hs⟩ := readStep_ends (r := r) (c := c) h.left he
      obtain ⟨t', ht⟩ := readStep_passes (r := r) (c := c) h.right (stale_of_ends he) hno
      exact not_sameTurn_stop_next hk hs ht
    · have he' : Ends (before.filter (kept c.loopId T)) msg :=
        by_contra fun hno => hh (iff_of_false he hno)
      obtain ⟨s', hs⟩ := readStep_passes (r := r) (c := c) h.left (stale_of_ends he') he
      obtain ⟨o, ht⟩ := readStep_ends (r := r) (c := c) h.right he'
      exact not_sameTurn_next_stop hk hs ht
  | false =>
    rw [if_neg (by rw [hk]; decide)] at hh
    cases hstep : r.readStep c s msg with
    | stop o => exact not_sameTurn_drop_stop hk hstep
    | next s' =>
      refine not_sameTurn_drop hk hstep ?_
      have he : ¬ Ends before msg := by
        intro he
        obtain ⟨o, ho⟩ := readStep_ends (r := r) (c := c) h.left he
        rw [ho] at hstep
        cases hstep
      have hs : Speaks r.classifier r.fromStr s.collected msg :=
        by_contra fun hs => hh ⟨he, hs⟩
      have hdelta := readStep_of_speaks h.left hbroad hs (hrep hk he) hstep
      exact not_sameTurn_start hT (h.left.next hstep) h.right (h.deltas ▸ hdelta)

/-! ## The turn -/

/-- The gate that has seen the frames. -/
def gateOf (frames : List Json) : TurnLifecycleGate := (calls frames).foldl (·.observe ·) {}

theorem follows_foldl (h h' : List Call) (hf : Follows h g) :
    Follows (h ++ h') (h'.foldl (·.observe ·) g) := by
  induction h' generalizing h g with
  | nil => rwa [List.append_nil]
  | cons d h' ih =>
    rw [List.append_cons]
    exact ih (h ++ [d]) (follows_observe hf)

instance (before : List Json) (msg : Json) : Decidable (Ends before msg) :=
  decidable_of_iff ((feedBoundary { gate := gateOf before } msg).2.isSome = true) (by
    rw [Option.isSome_iff_exists]
    exact (ends_iff (b := { gate := gateOf before }) (follows_foldl [] _ follows_nil) rfl).symm)

instance (L T : String) (before : List Json) (s : TurnState) (msg : Json) :
    Decidable (r.Harmless L T before s msg) :=
  inferInstanceAs (Decidable (ite _ (Ends before msg ↔ Ends (before.filter (kept L T)) msg)
    (¬ Ends before msg ∧ ¬ Speaks r.classifier r.fromStr s.collected msg)))

instance (frames : List Json) : Decidable (r.HarmlessRun c T s frames) :=
  Scan.GuardedAfter.decidable (r.readStep c) frames [] s

/-- **Leftovers.** A turn that reads only harmless frames is the turn without the leftovers. After
such frames any other frame makes a difference, unless it is a leftover that says once more the
very text that was collected. -/
theorem leftovers_vanish (r : TurnRunner) (call : TurnCall) (loopId T : String)
    (frames : List Json)
    (h : r.HarmlessRun (r.ctx call loopId 0) T (r.startState call loopId 0) frames) :
    r.LeftoversVanish (r.ctx call loopId 0) T (r.startState call loopId 0) frames ∧
      (r.broadcaster = true → Frame.Trimmed (some T) → ∀ s msg,
        Scan.reach (r.readStep (r.ctx call loopId 0)) (r.startState call loopId 0) frames = some s →
          ¬ r.Harmless loopId T frames s msg →
          (isLeftover loopId T msg = true → ¬ Ends frames msg → ¬ r.Repeats s.collected msg) →
            ∃ rest, (∃ m ∈ rest, isStart loopId T m = true) ∧
              ¬ r.LeftoversVanish (r.ctx call loopId 0) T (r.startState call loopId 0)
                (frames ++ msg :: rest)) := by
  refine ⟨leftoversVanish_of_harmlessRun alike_start h, fun hbroad hT s msg hs hh hrep => ?_⟩
  obtain ⟨t, ht, halike⟩ := reach_of_harmlessRun alike_start h hs
  have hleft : kept loopId T msg = false → isLeftover loopId T msg = true := by
    intro hk
    unfold kept at hk
    rwa [Bool.not_eq_false'] at hk
  refine ⟨[statusFrame "running" (some T)], ⟨_, List.mem_cons_self, isStart_start hT⟩,
    fun hv => not_sameTurn_of_not_harmless hT hbroad halike hh (fun hk => hrep (hleft hk))
      (sameTurn_append hs ht hv)⟩

/-- A second turn behind the start and the terminals of the first one. -/
def secondTurn : List Json :=
  [statusFrame "idle" (some "L:1"), statusFrame "running" (some "L:1"),
    statusFrame "running" (some "L:2"), streamEndFrame "L:1", statusFrame "stopped" (some "L:1"),
    eventFrame "messages" "L:2"
      (.arr [.obj [("type", .str "AIMessageChunk"), ("content", .str "Hello")]]),
    statusFrame "idle" (some "L:1"), streamEndFrame "L:2"]

theorem leftovers_vanish_terminals :
    attached.LeftoversVanish (attached.ctx greeting "L" 0) "L:2"
        (attached.startState greeting "L" 0) secondTurn ∧
      (Scan.stopAt (attached.readStep (attached.ctx greeting "L" 0))
        (attached.startState greeting "L" 0) secondTurn).map (fun p => (p.1, p.2.1.toOption)) =
          some (7, some "Hello") :=
  ⟨(leftovers_vanish attached greeting "L" "L:2" secondTurn (by decide +kernel)).1, rfl⟩

/-- The answer of the first turn, read by the second one. -/
def lateAnswer : List Json :=
  [statusFrame "running" (some "L:2"),
    eventFrame "messages" "L:1" (.arr [.obj [("type", .str "AIMessage"),
      ("phase", .str "goal_completion"), ("content", .str "Answer of turn one")]])]

theorem leftovers_vanish_fails : ¬ ∀ (r : TurnRunner) (call : TurnCall) (loopId T : String)
    (frames : List Json), (∃ msg ∈ frames, isStart loopId T msg = true) →
      r.LeftoversVanish (r.ctx call loopId 0) T (r.startState call loopId 0) frames := by
  intro h
  have hvanish := (h attached greeting "L" "L:2" lateAnswer
    ⟨_, List.mem_cons_self, by decide⟩).1
  have hstop : ∃ o, Scan.stopAt (attached.readStep (attached.ctx greeting "L" 0))
      (attached.startState greeting "L" 0) lateAnswer = some (1, o) := ⟨_, rfl⟩
  have hkept : Scan.stopAt (attached.readStep (attached.ctx greeting "L" 0))
      (attached.startState greeting "L" 0) (lateAnswer.filter (kept "L" "L:2")) = none := rfl
  obtain ⟨o, ho⟩ := hstop
  have hnone : Scan.AgreeOn (kept "L" "L:2") lateAnswer SameOutcome (some (1, o)) none := by
    rw [← ho, ← hkept]
    exact hvanish
  cases hnone

end TurnRunner

end SootheClient.Turn
