import SootheClient.Frame.Bare
import SootheClient.Session.Lockstep

/-!
# Where the session and the pool agree

Fed the same frames of one loop, `TurnBoundary` and the turn loop end at the same frame with
corresponding reasons as long as every frame is `Aligned` in the gate it meets. The condition is
exact: after such a prefix, any other frame of the loop can be continued so that they disagree.
-/

namespace SootheClient.Session

open SootheClient.Frame Turn

/-- The index and the reason of the frame at which the boundary ends. -/
def poolEnd (frames : List Json) : Option (ℕ × String) := Scan.stopAt poolStep {} frames

/-- The index of the frame at which the session leaves its main loop, and how. -/
def sessionEnd (loopId : String) (frames : List Json) : Option (ℕ × Exit × TurnLoop) :=
  Scan.stopAt sessionStep { expectedLoopId := loopId } frames

/-- Both end at one frame with corresponding reasons, or neither ends. -/
def EndsAgree (loopId : String) (frames : List Json) : Prop :=
  Scan.Agree Corresponds (poolEnd frames) (sessionEnd loopId frames)

/-- Every frame up to the end is aligned in the gate it meets. -/
def AlignedRun (frames : List Json) : Prop :=
  Scan.Guarded poolStep (fun b ev => Aligned b.gate ev) {} frames

instance (frames : List Json) : Decidable (AlignedRun frames) :=
  Scan.Guarded.decidable poolStep frames {}

/-! ## Frames that tell the readers apart -/

variable {L : String} {b : TurnBoundary} {s : TurnLoop} {ev : Json} {state e : String}
  {t : Option String}

theorem ofLoop_statusFrame : OfLoop L (statusFrame state t) where
  loop := Or.inl (by
    rw [inner_statusFrame, Json.getStrD, statusFrame_getStr.2.2.1]
    rfl)
  noError := by
    rw [statusFrame_type]
    decide

theorem ofLoop_streamEndFrame : OfLoop L (streamEndFrame e) where
  loop := Or.inl (by rw [inner_streamEndFrame]; rfl)
  noError := by
    rw [streamEndFrame_type]
    decide

/-! ## Disagreement -/

/-- Some frames of the loop that begin with `ev` make the readers disagree from here. -/
def ApartAt (L : String) (ev : Json) (b : TurnBoundary) (s : TurnLoop) : Prop :=
  ∃ rest, (∀ ev ∈ rest, OfLoop L ev) ∧
    ¬ Scan.Agree Corresponds (Scan.stopAt poolStep b (ev :: rest))
      (Scan.stopAt sessionStep s (ev :: rest))

/-- Some frames of the loop make the readers disagree from here. -/
def Apart (L : String) (b : TurnBoundary) (s : TurnLoop) : Prop :=
  ∃ ev, OfLoop L ev ∧ ApartAt L ev b s

variable {b' : TurnBoundary} {s' : TurnLoop} {r : String} {x : Exit × TurnLoop}

theorem apartAt_of_stop_next (hb : poolStep b ev = .stop r) (hs : sessionStep s ev = .next s') :
    ApartAt L ev b s :=
  ⟨[], fun _ h => (nomatch h), Scan.not_agree_of_stop_next hb hs⟩

theorem apartAt_of_next_stop (hb : poolStep b ev = .next b') (hs : sessionStep s ev = .stop x) :
    ApartAt L ev b s :=
  ⟨[], fun _ h => (nomatch h), Scan.not_agree_of_next_stop hb hs⟩

theorem apartAt_of_next (hb : poolStep b ev = .next b') (hs : sessionStep s ev = .next s')
    (h : Apart L b' s') : ApartAt L ev b s := by
  obtain ⟨f, hf, rest, hrest, hna⟩ := h
  refine ⟨f :: rest, fun g hg => ?_, fun ha => hna ((Scan.agree_cons_next hb hs).1 ha)⟩
  rcases List.mem_cons.1 hg with rfl | hg
  · exact hf
  · exact hrest g hg

/-- The session's locals name no other loop. -/
abbrev LoopOk (L : String) (s : TurnLoop) : Prop := s.expectedLoopId = "" ∨ s.expectedLoopId = L

theorem poolStep_statusFrame (hb : b.ended = false) (ht : Frame.Trimmed t) :
    poolStep b (statusFrame state t) = poolCall b (.status state t) :=
  poolStep_of_call hb (callOf_statusFrame ht)

/-- A stopped or idle status that ends nothing leaves the boundary alone. -/
theorem poolStep_statusFrame_passes (hb : b.ended = false) (ht : Frame.Trimmed t)
    (hrun : Text.eqIgnoreAsciiCase state "running" = false)
    (hv : verdict b.gate (.status state t) = none) :
    poolStep b (statusFrame state t) = .next b := by
  rw [poolStep_statusFrame hb ht]
  exact poolCall_unchanged (observeStatus_of_not_running hrun) hv

theorem sessionStep_statusFrame (hl : LoopOk L s) (ht : Frame.Trimmed t)
    (hs : s.skipsTurn "status" state t = false) :
    sessionStep s (statusFrame state t) = s.onStatus state t := by
  have hadopt : s.adoptLoopId (inner (statusFrame state t)) = s := by
    rw [inner_statusFrame]
    unfold TurnLoop.adoptLoopId
    rw [statusFrame_getStr.2.2.1]
  rw [sessionStep_status hl ofLoop_statusFrame statusFrame_type, hadopt, statusFrame_state,
    statusFrame_turnId ht]
  rw [statusFrame_state, statusFrame_turnId ht]
  exact hs

theorem sessionStep_statusFrame_skipped (hl : LoopOk L s) (ht : Frame.Trimmed t)
    (hs : s.skipsTurn "status" state t = true) :
    sessionStep s (statusFrame state t) = .next s := by
  refine sessionStep_of_skips hl ofLoop_statusFrame ?_
  rw [statusFrame_type, if_pos rfl, statusFrame_state, statusFrame_turnId ht]
  exact hs

/-- A running status binds both readers when nothing is bound. -/
theorem step_bind (hb : b.ended = false) (hl : LoopOk L s) (hbe : b.gate.expectedTurnId = none)
    (hse : s.expectedTurnId = none) (he : Frame.Trimmed (some e)) :
    poolStep b (statusFrame "running" (some e)) =
        .next { b with gate := { b.gate with sawRunning := true, expectedTurnId := some e } } ∧
      sessionStep s (statusFrame "running" (some e)) =
        .next { s with queryStarted := true, expectedTurnId := some e } := by
  constructor
  · rw [poolStep_statusFrame hb he]
    unfold poolCall
    rw [verdict_running]
    have hrun : Text.eqIgnoreAsciiCase "running" "running" = true := by decide
    have hobs : b.gate.observe (.status "running" (some e)) =
        { b.gate with sawRunning := true, expectedTurnId := some e } :=
      observeStatus_unbound (t := some e) hrun hbe
    rw [hobs]
  · rw [sessionStep_statusFrame hl he skipsTurn_running]
    show Scan.Step.next (s.observeRunning (some e)) = _
    unfold TurnLoop.observeRunning
    simp only
    rw [if_pos (by unfold TurnLoop.rebinds; rw [hse]; rfl), hse]
    rfl

theorem trimmed_x1 : Frame.Trimmed (some "x:1") := fun t ht => Option.some.inj ht ▸ by decide

/-- Without an id, idle ends a turn only when it was cancelled. -/
theorem not_idleAllowed {started progress : Bool} :
    isIdleTerminalAllowed t none started progress false = false := by
  unfold isIdleTerminalAllowed
  exact ite_self _

theorem apart_of_cancel_bound (hb : b.ended = false) (hl : LoopOk L s)
    (he : Frame.Trimmed (some e)) (hse : s.expectedTurnId = some e)
    (hq : s.queryStarted = true) (hbc : b.gate.cancellationSeen = false)
    (hsc : s.cancelSeen = true) : Apart L b s := by
  have hpool : poolStep b (statusFrame "idle" none) = .next b := by
    refine poolStep_statusFrame_passes hb trimmed_none (by decide) ?_
    rw [verdict_idle_eq]
    unfold TurnLifecycleGate.allowIdleComplete
    rw [hbc, not_idleAllowed]
    rfl
  have hsession : sessionStep s (statusFrame "idle" none) = .stop (.ended "idle", s) := by
    have hskip : s.skipsTurn "status" "idle" none = false := by
      rw [skipsTurn_status (by decide)]
      simp
    rw [sessionStep_statusFrame hl trimmed_none hskip, onStatus_idle, if_pos hq]
    refine if_pos ?_
    unfold isIdleTerminalAllowed
    rw [hse, he.bind_nonBlank, hq, hsc]
    rfl
  exact ⟨_, ofLoop_statusFrame, apartAt_of_next_stop hpool hsession⟩

/-- A cancellation that only the session has seen. -/
theorem apart_of_cancel (hb : b.ended = false) (hl : LoopOk L s)
    (hexp : b.gate.expectedTurnId = s.expectedTurnId) (htrim : Frame.Trimmed s.expectedTurnId)
    (hbound : ∀ e, s.expectedTurnId = some e → s.queryStarted = true)
    (hbc : b.gate.cancellationSeen = false) (hsc : s.cancelSeen = true) : Apart L b s := by
  cases he : s.expectedTurnId with
  | some e => exact apart_of_cancel_bound hb hl (he ▸ htrim) he (hbound e he) hbc hsc
  | none =>
    have hbind := step_bind hb hl (hexp.trans he) he trimmed_x1
    exact ⟨_, ofLoop_statusFrame, apartAt_of_next hbind.1 hbind.2
      (apart_of_cancel_bound hb hl trimmed_x1 rfl rfl hbc hsc)⟩

theorem apart_of_progress_bound (hb : b.ended = false) (hl : LoopOk L s)
    (he : Frame.Trimmed (some e)) (hbe : b.gate.expectedTurnId = some e)
    (hse : s.expectedTurnId = some e) (hrun : b.gate.sawRunning = true)
    (hbp : b.gate.sawTurnProgress = true) (hsp : s.turnProgressSeen = false) : Apart L b s := by
  have hpool : poolStep b (streamEndFrame e) = .stop TURN_END_STREAM_END := by
    refine poolStep_stop hb (callOf_streamEndFrame he) ?_
    have hobs : b.gate.observe (.event "custom" (.obj [("type", .str STREAM_END)]) (some e)) =
        b.gate := observeEvent_of_progress hbp
    rw [hobs, verdict_streamEndFrame he (hbe ▸ he), if_pos ⟨hrun, hbp, hbe⟩]
  have hskip : s.skipsTurn "event" "" (frameTurnId (inner (streamEndFrame e))) = false := by
    rw [streamEndFrame_turnId he, ← Bool.not_eq_true, skipsTurn_event,
      mismatch_iff (hse ▸ he) he]
    exact fun h => h.2 hse.symm
  have hsession : ∃ s', sessionStep s (streamEndFrame e) = .next s' := by
    rw [sessionStep_event hl ofLoop_streamEndFrame streamEndFrame_type hskip, streamEndFrame_turnId he,
      inner_streamEndFrame]
    unfold TurnLoop.onEvent
    show ∃ s', (if shouldDropStreamChunkEarly [] "custom" (.obj [("type", .str STREAM_END)]) = true
      then _ else if (_ && isTurnEndCustomData (.obj [("type", .str STREAM_END)]) && _) = true
        then _ else _) = _
    rw [not_drop_custom, if_neg (by decide), if_pos]
    · exact ⟨_, rfl⟩
    · rw [isTurnEnd_streamEnd]
      unfold isTurnTerminalAllowed
      rw [hsp]
      simp only [Bool.not_false, Bool.or_true, if_true, Bool.and_true, decide_eq_true_eq]
      rfl
  obtain ⟨s', hs'⟩ := hsession
  exact ⟨_, ofLoop_streamEndFrame, apartAt_of_stop_next hpool hs'⟩

/-- Progress that only the pool has seen. -/
theorem apart_of_progress (hb : b.ended = false) (hl : LoopOk L s)
    (hexp : b.gate.expectedTurnId = s.expectedTurnId) (htrim : Frame.Trimmed s.expectedTurnId)
    (hbound : ∀ e, s.expectedTurnId = some e → b.gate.sawRunning = true)
    (hbp : b.gate.sawTurnProgress = true) (hsp : s.turnProgressSeen = false) : Apart L b s := by
  cases he : s.expectedTurnId with
  | some e =>
    exact apart_of_progress_bound hb hl (he ▸ htrim) (hexp.trans he) he (hbound e he) hbp hsp
  | none =>
    have hbind := step_bind hb hl (hexp.trans he) he trimmed_x1
    exact ⟨_, ofLoop_statusFrame, apartAt_of_next hbind.1 hbind.2
      (apart_of_progress_bound hb hl trimmed_x1 rfl rfl rfl hbp hsp)⟩

/-! ### Frames that are not aligned -/

/-- A state that is none of the three the session knows goes by. -/
theorem sessionStep_status_other (hl : LoopOk L s) (hev : OfLoop L ev)
    (ht : (inner ev).getStrD "type" = "status") (hrun : (inner ev).getStrD "state" ≠ "running")
    (hstop : (inner ev).getStrD "state" ≠ "stopped")
    (hidle : (inner ev).getStrD "state" ≠ "idle") :
    ∃ l, sessionStep s ev = .next { s with expectedLoopId := l } ∧ (l = "" ∨ l = L) := by
  by_cases hs : s.skipsTurn "status" ((inner ev).getStrD "state") (frameTurnId (inner ev)) = true
  · refine ⟨s.expectedLoopId, ?_, hl⟩
    exact sessionStep_of_skips hl hev (by rw [if_pos ht, ht]; exact hs)
  · obtain ⟨l, hadopt, hl'⟩ := adoptLoopId_eq hl hev
    refine ⟨l, ?_, hl'⟩
    rw [sessionStep_status hl hev ht (by simpa using hs), hadopt,
      onStatus_other hrun hstop hidle]

/-- The pool ends on `stopped` with the bound id, or without an id when nothing is bound. -/
theorem poolStep_stopped (hb : b.ended = false) (ht : Frame.Trimmed t)
    (hrun : b.gate.sawRunning = true) (he : b.gate.expectedTurnId = t) :
    poolStep b (statusFrame "stopped" t) = .stop TURN_END_STOPPED := by
  rw [poolStep_statusFrame hb ht]
  have hobs : b.gate.observe (.status "stopped" t) = b.gate :=
    observeStatus_of_not_running (by decide)
  unfold poolCall
  rw [hobs, verdict_stoppedFrame ht (he.symm ▸ ht), if_pos ⟨hrun, Or.inr he⟩]

/-- Only the pool has seen a running status. -/
theorem apart_of_started (hb : b.ended = false) (hl : LoopOk L s)
    (hrun : b.gate.sawRunning = true) (ht : Frame.Trimmed b.gate.expectedTurnId)
    (hq : s.queryStarted = false) (hse : s.expectedTurnId = none) : Apart L b s := by
  have hskip : s.skipsTurn "status" "stopped" b.gate.expectedTurnId = false := by
    rw [skipsTurn_status (by decide), hse]
    rfl
  have hsession : sessionStep s (statusFrame "stopped" b.gate.expectedTurnId) = .next s := by
    rw [sessionStep_statusFrame hl ht hskip, onStatus_stopped, hq]
    rfl
  exact ⟨_, ofLoop_statusFrame, apartAt_of_stop_next (poolStep_stopped hb ht hrun rfl) hsession⟩

/-- The pool is bound to another turn than the session. -/
theorem apart_of_binding {u : String} (hb : b.ended = false) (hl : LoopOk L s)
    (hrun : b.gate.sawRunning = true) (hbe : b.gate.expectedTurnId = some u)
    (hu : Frame.Trimmed (some u)) (hq : s.queryStarted = true)
    (hs : Frame.Trimmed s.expectedTurnId) (hne : s.expectedTurnId ≠ some u) : Apart L b s := by
  cases hse : s.expectedTurnId with
  | none =>
    have hpool : poolStep b (statusFrame "stopped" none) = .next b := by
      refine poolStep_statusFrame_passes hb trimmed_none (by decide) ?_
      rw [verdict_stoppedFrame trimmed_none (hbe ▸ hu), hbe]
      exact if_neg fun hc => by simp at hc
    have hskip : s.skipsTurn "status" "stopped" none = false := by
      rw [skipsTurn_status (by decide), hse]
      rfl
    have hsession : sessionStep s (statusFrame "stopped" none) = .stop (.ended "stopped", s) := by
      rw [sessionStep_statusFrame hl trimmed_none hskip, onStatus_stopped, if_pos hq, hse]
      rfl
    exact ⟨_, ofLoop_statusFrame, apartAt_of_next_stop hpool hsession⟩
  | some e =>
    have hskip : s.skipsTurn "status" "stopped" (some u) = true := by
      have hm := (mismatch_iff hs hu).2 ⟨by rw [hse]; exact Option.some_ne_none e, Ne.symm hne⟩
      rw [skipsTurn_status (by decide), hm]
      rfl
    exact ⟨_, ofLoop_statusFrame, apartAt_of_stop_next (poolStep_stopped hb hu hrun hbe)
      (sessionStep_statusFrame_skipped hl hu hskip)⟩

/-- A mis-cased running status that moves the pool's gate. -/
theorem apartAt_of_running (h : Synced L b s) (hev : OfLoop L ev)
    (ht : (inner ev).getStrD "type" = "status")
    (hm : Miscased ((inner ev).getStrD "state") "running")
    (hna : ¬ (b.gate.sawRunning = true ∧ ∀ u, frameTurnId (inner ev) = some u →
      b.gate.rebinds u = true → b.gate.expectedTurnId = some u)) : ApartAt L ev b s := by
  have htrim := trimmed_frameTurnId (inner ev)
  have hstop : Text.eqIgnoreAsciiCase ((inner ev).getStrD "state") "stopped" = false := by
    rw [Text.eqIgnoreAsciiCase_congr hm.1]
    decide
  have hidle : Text.eqIgnoreAsciiCase ((inner ev).getStrD "state") "idle" = false := by
    rw [Text.eqIgnoreAsciiCase_congr hm.1]
    decide
  obtain ⟨l, hsession, hl⟩ := sessionStep_status_other h.loop hev ht hm.2
    (fun hc => absurd (hc ▸ hstop) (by decide)) (fun hc => absurd (hc ▸ hidle) (by decide))
  have hpool : poolStep b ev = .next { b with
      gate := b.gate.observeStatus ((inner ev).getStrD "state") (frameTurnId (inner ev)) } := by
    refine poolStep_next h.ended (callOf_status ht) ?_
    rw [verdict_status, hstop, hidle]
    rfl
  refine apartAt_of_next hpool hsession ?_
  cases hrun : b.gate.sawRunning with
  | false =>
    have hunbound : s.expectedTurnId = none := by
      cases he : s.expectedTurnId with
      | none => rfl
      | some e => exact absurd ((h.bound e he).symm.trans (h.queryStarted.trans hrun)) (by decide)
    rw [observeStatus_unbound hm.1 (h.expectedTurnId.symm.trans hunbound)]
    exact apart_of_started h.ended hl rfl htrim (h.queryStarted.trans hrun) hunbound
  | true =>
    obtain ⟨u, hu, hreb, hne⟩ : ∃ u, frameTurnId (inner ev) = some u ∧
        b.gate.rebinds u = true ∧ b.gate.expectedTurnId ≠ some u := by
      by_contra hc
      refine hna ⟨hrun, fun u hu hreb => ?_⟩
      by_contra hne
      exact hc ⟨u, hu, hreb, hne⟩
    rw [hu] at htrim ⊢
    obtain ⟨hrun', hexp'⟩ := observeStatus_rebound hm.1 hreb
    exact apart_of_binding h.ended hl hrun' hexp' htrim (h.queryStarted.trans hrun) h.trimmed
      (fun hc => hne (h.expectedTurnId.symm.trans hc))

/-- A mis-cased stopped or idle status that ends the turn of the pool. -/
theorem apartAt_of_miscased_end (h : Synced L b s) (hev : OfLoop L ev)
    (ht : (inner ev).getStrD "type" = "status") {word : String}
    (hword : word = "stopped" ∨ word = "idle") (hm : Miscased ((inner ev).getStrD "state") word)
    (hv : verdict b.gate (.status ((inner ev).getStrD "state") (frameTurnId (inner ev))) =
      some r) : ApartAt L ev b s := by
  have hrun : Text.eqIgnoreAsciiCase ((inner ev).getStrD "state") "running" = false := by
    rw [Text.eqIgnoreAsciiCase_congr hm.1]
    rcases hword with rfl | rfl <;> decide
  have hne : ∀ w, (w = "stopped" ∨ w = "idle") → (inner ev).getStrD "state" ≠ w := by
    intro w hw hc
    by_cases hww : w = word
    · exact hm.2 (hc.trans hww)
    · have huniq : Text.eqIgnoreAsciiCase ((inner ev).getStrD "state") w = false := by
        rw [Text.eqIgnoreAsciiCase_congr hm.1]
        rcases hw with rfl | rfl <;> rcases hword with rfl | rfl
        · exact absurd rfl hww
        · decide
        · decide
        · exact absurd rfl hww
      rw [hc] at huniq
      rcases hw with rfl | rfl <;> exact absurd huniq (by decide)
  obtain ⟨l, hsession, -⟩ := sessionStep_status_other h.loop hev ht
    (fun hc => absurd (hc ▸ hrun) (by decide)) (hne _ (Or.inl rfl)) (hne _ (Or.inr rfl))
  have hobs : b.gate.observe (.status ((inner ev).getStrD "state") (frameTurnId (inner ev))) =
      b.gate := observeStatus_of_not_running hrun
  exact apartAt_of_stop_next (poolStep_stop h.ended (callOf_status ht) (hobs.symm ▸ hv)) hsession

theorem apartAt_of_not_alignedStatus (h : Synced L b s) (hev : OfLoop L ev)
    (ht : (inner ev).getStrD "type" = "status")
    (hna : ¬ AlignedStatus b.gate ((inner ev).getStrD "state") (frameTurnId (inner ev))) :
    ApartAt L ev b s := by
  have htrim := trimmed_frameTurnId (inner ev)
  by_contra hagree
  refine hna ⟨fun hm => ?_, fun hm hrun => ?_, fun hm => ?_⟩
  · by_contra hc
    exact hagree (apartAt_of_running h hev ht hm hc)
  · by_contra hc
    refine hagree (apartAt_of_miscased_end h hev ht (Or.inl rfl) hm (r := TURN_END_STOPPED) ?_)
    have hmatch : ¬ (b.gate.expectedTurnId.isSome &&
        !turnIdsMatch b.gate.expectedTurnId (frameTurnId (inner ev))) = true := by
      rw [mismatch_iff h.trimmed_gate htrim]
      rintro ⟨hbound, hne⟩
      obtain ⟨e, he⟩ := Option.ne_none_iff_exists'.1 hbound
      exact hc ⟨e, he, he ▸ hne⟩
    rw [verdict_status, hm.1, hrun, if_pos (by decide), if_neg hmatch]
  · by_contra hc
    rw [Bool.not_eq_false] at hc
    refine hagree (apartAt_of_miscased_end h hev ht (Or.inr rfl) hm (r := TURN_END_IDLE) ?_)
    rw [verdict_status, hm.1, hc, Text.eqIgnoreAsciiCase_congr hm.1]
    rfl

/-- A first progress chunk that the session filters out. -/
theorem apartAt_of_filtered (h : Synced L b s) (hev : OfLoop L ev)
    (ht : (inner ev).getStrD "type" = "event")
    (hprog : isTurnProgressChunk ((inner ev).getStrD "mode")
      (((inner ev).get "data").getD .null) = true)
    (hp : b.gate.sawTurnProgress = false)
    (hna : ¬ (shouldDropStreamChunkEarly (namespaceOf (inner ev)) ((inner ev).getStrD "mode")
      (((inner ev).get "data").getD .null) = false ∧
        (b.gate.expectedTurnId = none ∨ frameTurnId (inner ev) = b.gate.expectedTurnId))) :
    ApartAt L ev b s := by
  have htrim := trimmed_frameTurnId (inner ev)
  have hpool : poolStep b ev =
      .next { b with gate := { b.gate with sawTurnProgress := true } } := by
    have hobs : b.gate.observe (.event ((inner ev).getStrD "mode")
        (((inner ev).get "data").getD .null) (frameTurnId (inner ev))) =
          { b.gate with sawTurnProgress := true } := if_pos hprog
    rw [← hobs]
    refine poolStep_next h.ended (callOf_event ht) (verdict_event_none fun hc hend => ?_)
    rw [hc, not_progress_of_turnEnd hend] at hprog
    cases hprog
  obtain ⟨st, hsession⟩ : ∃ st, sessionStep s ev = .next { s with stats := st } := by
    by_cases hs : s.skipsTurn "event" "" (frameTurnId (inner ev)) = true
    · have hst : (inner ev).getStrD "type" ≠ "status" := by
        rw [ht]
        decide
      exact ⟨s.stats, sessionStep_of_skips h.loop hev (by rw [if_neg hst, ht]; exact hs)⟩
    · have hbound : b.gate.expectedTurnId = none ∨
          frameTurnId (inner ev) = b.gate.expectedTurnId := by
        rw [skipsTurn_event, mismatch_iff h.trimmed htrim, h.expectedTurnId] at hs
        by_contra hc
        rw [not_or] at hc
        exact hs hc
      have hdrop : shouldDropStreamChunkEarly (namespaceOf (inner ev)) ((inner ev).getStrD "mode")
          (((inner ev).get "data").getD .null) = true := by
        by_contra hc
        exact hna ⟨by simpa using hc, hbound⟩
      rw [sessionStep_event h.loop hev ht (by simpa using hs)]
      exact ⟨_, if_pos hdrop⟩
  refine apartAt_of_next hpool hsession ?_
  refine apart_of_progress h.ended h.loop h.expectedTurnId.symm h.trimmed (fun e he => ?_) rfl
    (h.turnProgressSeen.trans hp)
  exact h.queryStarted.symm.trans (h.bound e he)

/-- A terminal that carries the bound id in its data only. -/
theorem apartAt_of_data_id (h : Synced L b s) (hev : OfLoop L ev)
    (ht : (inner ev).getStrD "type" = "event")
    (hmode : (inner ev).getStrD "mode" = "custom")
    (hend : isTurnEndCustomData (((inner ev).get "data").getD .null) = true)
    (hallow : b.gate.allowStreamEnd ((frameTurnId (((inner ev).get "data").getD .null)).or
      (frameTurnId (inner ev))) = true)
    (hne : frameTurnId (inner ev) ≠ b.gate.expectedTurnId) : ApartAt L ev b s := by
  have htrim := trimmed_frameTurnId (inner ev)
  have hpool : poolStep b ev = .stop TURN_END_STREAM_END := by
    refine poolStep_stop h.ended (callOf_event ht) ?_
    rw [hmode]
    have hobs : b.gate.observe (.event "custom" (((inner ev).get "data").getD .null)
        (frameTurnId (inner ev))) = b.gate :=
      observeEvent_of_not_progress (not_progress_of_turnEnd hend)
    rw [hobs, verdict_event, hend, hallow]
    rfl
  have hskip : s.skipsTurn "event" "" (frameTurnId (inner ev)) = true := by
    have hdata : Frame.Trimmed ((frameTurnId (((inner ev).get "data").getD .null)).or
        (frameTurnId (inner ev))) :=
      trimmed_turnId (c := .event "" (((inner ev).get "data").getD .null)
        (frameTurnId (inner ev))) htrim
    obtain ⟨-, -, e, he, -⟩ := (isTurnTerminalAllowed_iff h.trimmed_gate hdata).1 hallow
    rw [skipsTurn_event, mismatch_iff h.trimmed htrim, h.expectedTurnId]
    exact ⟨he ▸ Option.some_ne_none e, hne⟩
  have hst : (inner ev).getStrD "type" ≠ "status" := by
    rw [ht]
    decide
  exact apartAt_of_stop_next hpool
    (sessionStep_of_skips h.loop hev (by rw [if_neg hst, ht]; exact hskip))

/-- **Exactness.** Where a frame is not aligned, some frames tell the readers apart. -/
theorem apartAt_of_not_aligned (h : Synced L b s) (hev : OfLoop L ev)
    (hna : ¬ Aligned b.gate ev) : ApartAt L ev b s := by
  by_contra hagree
  refine hna ⟨fun ht => ?_, fun ht => ⟨fun hprog hp => ?_, fun hmode hend hallow => ?_⟩,
    fun ht => ?_⟩
  · by_contra hc
    exact hagree (apartAt_of_not_alignedStatus h hev ht hc)
  · by_contra hc
    exact hagree (apartAt_of_filtered h hev ht hprog hp hc)
  · by_contra hc
    exact hagree (apartAt_of_data_id h hev ht hmode hend hallow hc)
  · by_contra hc
    rw [Bool.not_eq_false] at hc
    have hst : (inner ev).getStrD "type" ≠ "status" := by
      rw [ht]
      decide
    have het : (inner ev).getStrD "type" ≠ "event" := by
      rw [ht]
      decide
    have hsession : sessionStep s ev = .next { s with cancelSeen := true } := by
      rw [sessionStep_other h.loop hev hst het, if_pos ht]
      unfold TurnLoop.onCommandResponse
      rw [if_pos hc]
    exact hagree (apartAt_of_next (poolStep_of_no_call (callOf_other hst het)) hsession
      (apart_of_cancel h.ended h.loop h.expectedTurnId.symm h.trimmed h.bound h.cancellationSeen
        rfl))

/-! ## The agreement -/

theorem synced_start {loopId : String} (hl : loopId = "" ∨ loopId = L) :
    Synced L {} { expectedLoopId := loopId } :=
  ⟨rfl, rfl, rfl, fun _ h => (nomatch h), fun _ h => (nomatch h), hl⟩

theorem guarded_ofLoop {frames : List Json} (hf : ∀ ev ∈ frames, OfLoop L ev)
    (hal : AlignedRun frames) :
    Scan.Guarded poolStep (fun b ev => OfLoop L ev ∧ Aligned b.gate ev) {} frames :=
  Scan.Guarded.mono (fun _ ev hev h => ⟨hf ev hev, h⟩) hal

/-- **End rules.** On the frames of one loop the pool's boundary and the session end alike while
every frame is aligned, and any other frame after such a run opens a disagreement. -/
theorem end_rules_agree (L loopId : String) (hl : loopId = "" ∨ loopId = L) :
    (∀ frames, (∀ ev ∈ frames, OfLoop L ev) → AlignedRun frames → EndsAgree loopId frames) ∧
      ∀ frames b ev, (∀ ev ∈ frames, OfLoop L ev) → AlignedRun frames →
        Scan.reach poolStep {} frames = some b → OfLoop L ev → ¬ Aligned b.gate ev →
          ∃ rest, (∀ ev ∈ rest, OfLoop L ev) ∧ ¬ EndsAgree loopId (frames ++ ev :: rest) := by
  have hstep : ∀ b s ev, Synced L b s → OfLoop L ev ∧ Aligned b.gate ev →
      Scan.Step.Rel (Synced L) Corresponds (poolStep b ev) (sessionStep s ev) :=
    fun _ _ _ h hG => step_aligned h hG.1 hG.2
  constructor
  · intro frames hf hal
    exact Scan.stopAt_rel hstep (synced_start hl) (guarded_ofLoop hf hal)
  · intro frames b ev hf hal hb hev hna
    obtain ⟨s, hs, hsync⟩ := Scan.reach_rel hstep (synced_start hl) (guarded_ofLoop hf hal) hb
    obtain ⟨rest, hrest, hapart⟩ := apartAt_of_not_aligned hsync hev hna
    exact ⟨rest, hrest, fun h => hapart ((Scan.agree_append hb hs).1 h)⟩

/-- A whole turn: running, an assistant chunk and the `stream.end`. -/
theorem end_rules_agree_turn :
    EndsAgree "" [statusFrame "running" (some "L:1"),
        eventFrame "messages" "L:1" (.arr [.obj [("content", .str "hi")], .null]),
        streamEndFrame "L:1"] ∧
      poolEnd [statusFrame "running" (some "L:1"),
        eventFrame "messages" "L:1" (.arr [.obj [("content", .str "hi")], .null]),
        streamEndFrame "L:1"] = some (2, TURN_END_STREAM_END) :=
  ⟨(end_rules_agree "L" "" (Or.inl rfl)).1 _ (by decide) (by decide), by decide⟩

/-- An `updates` chunk without an interrupt is progress for the pool only. -/
theorem end_rules_agree_fails : ¬ ∀ (L loopId : String) (frames : List Json),
    (loopId = "" ∨ loopId = L) → (∀ ev ∈ frames, OfLoop L ev) → EndsAgree loopId frames := by
  intro h
  have hagree := h "L" "L" [statusFrame "running" (some "L:1"),
    eventFrame "updates" "L:1" (.obj []), streamEndFrame "L:1"] (Or.inr rfl) (by decide)
  have hpool : poolEnd [statusFrame "running" (some "L:1"),
      eventFrame "updates" "L:1" (.obj []), streamEndFrame "L:1"] =
        some (2, TURN_END_STREAM_END) := by decide
  have hsession : sessionEnd "L" [statusFrame "running" (some "L:1"),
      eventFrame "updates" "L:1" (.obj []), streamEndFrame "L:1"] = none := rfl
  unfold EndsAgree at hagree
  rw [hpool, hsession] at hagree
  cases hagree

end SootheClient.Session
