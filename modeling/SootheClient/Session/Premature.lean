import SootheClient.Session.Lockstep
import SootheClient.Turn.Premature

/-!
# Premature terminals in both readers

The turn loop of a session observes running statuses and the chunks that it keeps; its gate is
honest about them as the gate of a boundary is about its calls.
-/

namespace SootheClient.Session

open SootheClient.Frame Turn

/-- What an iteration of the main loop observes: a running status of the loop, or a chunk. -/
def observes (earlyDrop : List Json → String → Json → Bool) (s : TurnLoop) (t : Tick) : List Call :=
  match t with
  | .frame ev =>
    let frame := inner ev
    if s.skipsLoop (frame.getStrD "loop_id") then []
    else if frame.getStrD "type" = "status" ∧ frame.getStrD "state" = "running" then
      [.status "running" (frameTurnId frame)]
    else if frame.getStrD "type" = "event" ∧ s.skipsTurn "event" "" (frameTurnId frame) = false ∧
        (chunkOf frame).dropped earlyDrop = false ∧ (chunkOf frame).turnEnd = false then
      [.event (chunkOf frame).mode (chunkOf frame).data (frameTurnId frame)]
    else []
  | _ => []

/-- All that the main loop observes on the ticks. -/
def observed (earlyDrop : List Json → String → Json → Bool) (maxWait : Option ℕ) (s : TurnLoop)
    (ticks : List Tick) : List Call :=
  Scan.log (mainStep earlyDrop maxWait) (observes earlyDrop) s ticks

variable {earlyDrop : List Json → String → Json → Bool} {maxWait : Option ℕ} {s s' : TurnLoop}
  {t : Tick} {ev : Json} {h : List Call} {T : String}

/-- Honesty does not depend on the start flag and the cancel flag. -/
theorem honest_congr {g g' : TurnLifecycleGate} (hg : Honest h g)
    (hbound : g'.expectedTurnId = g.expectedTurnId)
    (hprog : g'.sawTurnProgress = g.sawTurnProgress) : Honest h g' where
  bound := by
    rw [hbound]
    exact hg.bound
  unbound := by
    rw [hbound]
    exact hg.unbound
  progress := by
    rw [hbound, hprog]
    exact hg.progress
  earned := by
    rw [hbound, hprog]
    exact hg.earned

theorem observeEvent_bound (g : TurnLifecycleGate) (mode : String) (data : Json)
    (t : Option String) : (g.observe (.event mode data t)).expectedTurnId = g.expectedTurnId := by
  show (g.observeEvent mode data).expectedTurnId = _
  unfold TurnLifecycleGate.observeEvent
  split_ifs <;> rfl

theorem observeEvent_progress (g : TurnLifecycleGate) (mode : String) (data : Json)
    (t : Option String) : (g.observe (.event mode data t)).sawTurnProgress =
      (g.sawTurnProgress || isTurnProgressChunk mode data) := by
  show (g.observeEvent mode data).sawTurnProgress = _
  unfold TurnLifecycleGate.observeEvent
  cases hp : isTurnProgressChunk mode data with
  | true => simp
  | false => simp

/-- An iteration that goes on observes what its gate observes. -/
theorem honest_onFrame (hg : Honest h s.gate)
    (hno : NoLeftovers (h ++ observes earlyDrop s (.frame ev)))
    (hf : s.onFrame earlyDrop ev = .next s') :
    Honest (h ++ observes earlyDrop s (.frame ev)) s'.gate := by
  simp only [observes] at hno ⊢
  by_cases hloop : s.skipsLoop ((inner ev).getStrD "loop_id") = true
  · rw [if_pos hloop, List.append_nil]
    have hskip : s.onFrame earlyDrop ev = .next s := if_pos hloop
    obtain rfl := Scan.Step.next.inj (hskip.symm.trans hf)
    exact hg
  rw [if_neg hloop] at hno ⊢
  by_cases hrun : (inner ev).getStrD "type" = "status" ∧ (inner ev).getStrD "state" = "running"
  · rw [if_pos hrun] at hno ⊢
    obtain ⟨htype, hstate⟩ := hrun
    have hturn : s.skipsTurn "status" ((inner ev).getStrD "state") (frameTurnId (inner ev)) =
        false := by
      rw [hstate]
      exact skipsTurn_running
    have hnext : s.onFrame earlyDrop ev =
        .next ((s.adoptLoopId (inner ev)).observeRunning (frameTurnId (inner ev))) := by
      rw [onFrame_status htype (Bool.eq_false_iff.2 hloop) hturn, hstate]
      exact if_pos rfl
    obtain rfl := Scan.Step.next.inj (hnext.symm.trans hf)
    obtain ⟨l, hl⟩ := adoptLoopId_with s (inner ev)
    rw [hl, observeRunning_gate]
    exact honest_observe hg hno
  rw [if_neg hrun] at hno ⊢
  by_cases hchunk : (inner ev).getStrD "type" = "event" ∧
      s.skipsTurn "event" "" (frameTurnId (inner ev)) = false ∧
      (chunkOf (inner ev)).dropped earlyDrop = false ∧ (chunkOf (inner ev)).turnEnd = false
  · rw [if_pos hchunk] at hno ⊢
    obtain ⟨htype, hturn, hdrop, hend⟩ := hchunk
    have hevent : s.onFrame earlyDrop ev = _ :=
      onFrame_event htype (Bool.eq_false_iff.2 hloop) hturn
    obtain ⟨st, ⟨hd, -⟩ | ⟨-, -, hs⟩ | ⟨-, he, -⟩⟩ := onEvent_cases earlyDrop s (inner ev)
      (frameTurnId (inner ev))
    · rcases hd with hd | ⟨he, -⟩
      · cases hdrop.symm.trans hd
      · cases hend.symm.trans he
    · obtain rfl := Scan.Step.next.inj ((hevent.trans hs).symm.trans hf)
      have hbound := observeEvent_bound s.gate (chunkOf (inner ev)).mode (chunkOf (inner ev)).data
        (frameTurnId (inner ev))
      have hprog := observeEvent_progress s.gate (chunkOf (inner ev)).mode
        (chunkOf (inner ev)).data (frameTurnId (inner ev))
      exact honest_congr (honest_observe hg hno) hbound.symm hprog.symm
    · cases hend.symm.trans he
  · rw [if_neg hchunk, List.append_nil]
    obtain ⟨l, c, st, rfl⟩ | ⟨htype, hstate, -⟩ | ⟨htype, -, hturn, hdrop, hend, -⟩ := onFrame_next hf
    · exact honest_congr hg rfl rfl
    · exact absurd ⟨htype, hstate⟩ hrun
    · exact absurd ⟨htype, hturn, hdrop, hend⟩ hchunk

/-- What one iteration keeps. -/
theorem honest_mainStep (hg : NoLeftovers h → Honest h s.gate)
    (hstep : mainStep earlyDrop maxWait s t = .next s')
    (hno : NoLeftovers (h ++ observes earlyDrop s t)) :
    Honest (h ++ observes earlyDrop s t) s'.gate := by
  have hh := hg hno.of_append
  cases t with
  | frame ev => exact honest_onFrame hh hno (onFrame_of_mainStep_next hstep)
  | deadline | silence alive =>
    obtain rfl := mainStep_idle (by intro ev h; cases h) hstep
    show Honest (h ++ []) _
    rw [List.append_nil]
    exact hh

/-- **Run lemma.** The gate of a main loop that goes on is honest. -/
theorem honest_reach {S : DaemonSession} {ticks : List Tick}
    (hs : Scan.reach (mainStep earlyDrop maxWait) S.start ticks = some s)
    (hno : NoLeftovers (observed earlyDrop maxWait S.start ticks)) :
    Honest (observed earlyDrop maxWait S.start ticks) s.gate := by
  have hstart : NoLeftovers [] → Honest [] S.start.gate := fun _ => honest_nil
  exact Scan.reach_log (I := fun l s => NoLeftovers l → Honest l s.gate)
    (fun _ _ _ _ hg hstep hno => honest_mainStep hg hstep hno) hstart hs hno

/-- Without leftovers, a main loop that ends on a terminal event or on an idle status without a
cancellation has earned it. -/
theorem earned_of_halt {S : DaemonSession} {ticks rest : List Tick} {e : String}
    (hmain : Scan.halt (mainStep earlyDrop maxWait) S.start ticks =
      some ((.exit (.ended e), s), rest))
    (hno : NoLeftovers (observed earlyDrop maxWait S.start ticks)) (he : e ≠ "stopped")
    (hc : e = "idle" → s.cancelSeen = false) (hT : s.expectedTurnId = some T) :
    Earned (observed earlyDrop maxWait S.start ticks) T := by
  obtain ⟨pre, s', a, rfl, hreach, hstop⟩ := Scan.halt_eq_some hmain
  have hlog : observed earlyDrop maxWait S.start (pre ++ a :: rest) =
      observed earlyDrop maxWait S.start pre ++ observes earlyDrop s' a := by
    unfold observed
    rw [Scan.log_append_of_reach hreach, Scan.log_cons_stop hstop]
  rw [hlog] at hno ⊢
  have hh := honest_reach hreach hno.of_append
  have hprog : s'.expectedTurnId = some T ∧ s'.turnProgressSeen = true := by
    cases a with
    | deadline =>
      cases maxWait with
      | none => cases hstop
      | some wait => cases hstop
    | silence alive =>
      simp only [mainStep] at hstop
      split_ifs at hstop
      cases hstop
    | frame ev =>
      obtain ⟨x, hx, hf⟩ := onFrame_of_mainStep_stop hstop
      obtain rfl : Exit.ended e = x := Leave.exit.inj hx
      obtain ⟨hfail, -⟩ | ⟨-, ⟨l, rfl⟩, hend, -, hst | ⟨hst, hall⟩⟩ | ⟨-, -, -, -, -, hall, st, rfl⟩ :=
        onFrame_stop hf
      · cases hfail
      · rw [hst] at hend
        exact absurd (Exit.ended.inj hend) he
      · rw [hst] at hend
        have hcancel : s'.cancelSeen = false := hc (Exit.ended.inj hend)
        rw [hcancel] at hall
        exact ⟨hT, of_isIdleTerminalAllowed hall⟩
      · exact ⟨hT, (of_isTurnTerminalAllowed hall).2⟩
  exact (hh.earned T hprog.1 hprog.2).append

/-- An iteration observes nothing, a running status, or an event. -/
theorem observes_cases (earlyDrop : List Json → String → Json → Bool) (s : TurnLoop) (ev : Json) :
    observes earlyDrop s (.frame ev) = [] ∨
    (s.skipsLoop ((inner ev).getStrD "loop_id") = false ∧ (inner ev).getStrD "type" = "status" ∧
      (inner ev).getStrD "state" = "running" ∧
      observes earlyDrop s (.frame ev) = [.status "running" (frameTurnId (inner ev))]) ∨
    ∃ mode data t, observes earlyDrop s (.frame ev) = [.event mode data t] := by
  simp only [observes]
  by_cases hloop : s.skipsLoop ((inner ev).getStrD "loop_id") = true
  · exact Or.inl (if_pos hloop)
  rw [if_neg hloop]
  by_cases hrun : (inner ev).getStrD "type" = "status" ∧ (inner ev).getStrD "state" = "running"
  · exact Or.inr (Or.inl ⟨Bool.eq_false_iff.2 hloop, hrun.1, hrun.2, if_pos hrun⟩)
  rw [if_neg hrun]
  by_cases hchunk : (inner ev).getStrD "type" = "event" ∧
      s.skipsTurn "event" "" (frameTurnId (inner ev)) = false ∧
      (chunkOf (inner ev)).dropped earlyDrop = false ∧ (chunkOf (inner ev)).turnEnd = false
  · exact Or.inr (Or.inr ⟨_, _, _, if_pos hchunk⟩)
  · exact Or.inl (if_neg hchunk)

theorem observes_idle :
    observes earlyDrop s (.frame (statusFrame "idle" (some T))) = [] := by
  have hevent : ¬ ((inner (statusFrame "idle" (some T))).getStrD "type" = "event") := by
    rw [statusFrame_type]
    decide
  have hrun : ¬ ((inner (statusFrame "idle" (some T))).getStrD "state" = "running") := by
    rw [statusFrame_state]
    decide
  have hboth : ¬ ((inner (statusFrame "idle" (some T))).getStrD "type" = "status" ∧
      (inner (statusFrame "idle" (some T))).getStrD "state" = "running") := fun h => hrun h.2
  simp only [observes]
  rw [if_neg hboth]
  by_cases hloop : s.skipsLoop ((inner (statusFrame "idle" (some T))).getStrD "loop_id") = true
  · exact if_pos hloop
  · rw [if_neg hloop]
    exact if_neg fun h => hevent h.1

/-- An idle status with the bound id ends a main loop that is running and has seen progress. -/
theorem onFrame_idle (hT : Frame.Trimmed (some T)) (hrun : s.queryStarted = true)
    (hbound : s.expectedTurnId = some T) (hp : s.turnProgressSeen = true)
    (hc : s.cancelSeen = false) :
    s.onFrame earlyDrop (statusFrame "idle" (some T)) = .stop (.ended "idle", s) := by
  have hlid : (inner (statusFrame "idle" (some T))).getStr "loop_id" = none := by
    rw [inner_statusFrame]
    exact statusFrame_getStr.2.2.1
  have hloop : s.skipsLoop ((inner (statusFrame "idle" (some T))).getStrD "loop_id") = false := by
    unfold TurnLoop.skipsLoop Json.getStrD
    rw [hlid]
    simp
  have hmatch : turnIdsMatch (some T) (some T) = true :=
    (turnIdsMatch_iff hT hT).2 ⟨T, rfl, rfl⟩
  have hturn : s.skipsTurn "status" "idle" (some T) = false := by
    rw [skipsTurn_status (by decide), hbound, hmatch]
    rfl
  have hadopt : s.adoptLoopId (inner (statusFrame "idle" (some T))) = s := by
    unfold TurnLoop.adoptLoopId
    rw [hlid]
  have hallow : isIdleTerminalAllowed (some T) (some T) true true false = true :=
    (isIdleTerminalAllowed_iff hT hT).2 ⟨rfl, rfl, T, rfl, rfl⟩
  rw [onFrame_status statusFrame_type hloop (by rw [statusFrame_state, statusFrame_turnId hT, hturn]),
    hadopt, statusFrame_state, statusFrame_turnId hT, onStatus_idle, hrun, hbound, hp, hc, hallow]
  rfl

/-- With a leftover, the idle status after the first running status ends the main loop, and nothing
is earned. -/
theorem halt_of_leftover {S : DaemonSession} {ticks : List Tick}
    (hs : Scan.reach (mainStep earlyDrop maxWait) S.start ticks = some s)
    (hc : s.cancelSeen = false) (hno : NoLeftovers (observed earlyDrop maxWait S.start ticks))
    (hleft : ¬ NoLeftovers (observed earlyDrop maxWait S.start ticks ++
      observes earlyDrop s (.frame ev))) : ∃ T s', ∀ rest,
    Scan.halt (mainStep earlyDrop maxWait) S.start
        (ticks ++ .frame ev :: .frame (statusFrame "idle" (some T)) :: rest) =
      some ((.exit (.ended "idle"), s'), rest) ∧
    s'.expectedTurnId = some T ∧ s'.cancelSeen = false ∧
    ¬ Earned (observed earlyDrop maxWait S.start
      (ticks ++ .frame ev :: .frame (statusFrame "idle" (some T)) :: rest)) T := by
  obtain hnil | ⟨hloop, htype, hstate, hobs⟩ | ⟨mode, data, t, hobs⟩ := observes_cases earlyDrop s ev
  · rw [hnil, List.append_nil] at hleft
    exact absurd hno hleft
  · rw [hobs] at hleft
    obtain ⟨hid, hpre, hprog⟩ := leftover_of_not hno hleft
    obtain ⟨hnone, hsaw⟩ := (honest_reach hs hno).leftover hpre hprog
    obtain ⟨T, hT⟩ := Option.ne_none_iff_exists'.1 hid
    have hev : frameTurnId (inner ev) = some T := hT
    have htrim : Frame.Trimmed (some T) := hev ▸ trimmed_frameTurnId _
    obtain ⟨l, hl⟩ := adoptLoopId_with s (inner ev)
    have hturn : s.skipsTurn "status" ((inner ev).getStrD "state") (frameTurnId (inner ev)) =
        false := by
      rw [hstate]
      exact skipsTurn_running
    have hnext : s.onFrame earlyDrop ev =
        .next (({ s with expectedLoopId := l } : TurnLoop).observeRunning (some T)) := by
      rw [onFrame_status htype hloop hturn, hl, hstate, hev]
      exact if_pos rfl
    have hgate : (({ s with expectedLoopId := l } : TurnLoop).observeRunning (some T)).gate =
        { s.gate with sawRunning := true, expectedTurnId := some T } := by
      rw [observeRunning_gate]
      exact observe_unbound (by decide) hnone
    generalize ({ s with expectedLoopId := l } : TurnLoop).observeRunning (some T) = s₁ at hnext hgate
    have hidle : s₁.onFrame earlyDrop (statusFrame "idle" (some T)) = .stop (.ended "idle", s₁) :=
      onFrame_idle htrim (congrArg TurnLifecycleGate.sawRunning hgate)
        (congrArg TurnLifecycleGate.expectedTurnId hgate)
        ((congrArg TurnLifecycleGate.sawTurnProgress hgate).trans hsaw)
        ((congrArg TurnLifecycleGate.cancellationSeen hgate).trans hc)
    refine ⟨T, s₁, fun rest => ⟨?_, congrArg TurnLifecycleGate.expectedTurnId hgate,
      (congrArg TurnLifecycleGate.cancellationSeen hgate).trans hc, ?_⟩⟩
    · rw [Scan.halt_append_of_reach hs, Scan.halt_cons_next (mainStep_next hnext),
        Scan.halt_cons_stop (mainStep_stop hidle)]
    · have hlog : observed earlyDrop maxWait S.start
          (ticks ++ .frame ev :: .frame (statusFrame "idle" (some T)) :: rest) =
            observed earlyDrop maxWait S.start ticks ++ [.status "running" (some T)] := by
        unfold observed
        rw [Scan.log_append_of_reach hs, Scan.log_cons_next (mainStep_next hnext),
          Scan.log_cons_stop (mainStep_stop hidle), hobs, hev, observes_idle]
        rfl
      rw [hlog]
      exact not_earned_of_leftover hpre
  · rw [hobs] at hleft
    exact absurd rfl (leftover_of_not hno hleft).1

/-- **Premature terminals.** In both readers, a turn that ends on a `stream.end`, or on an idle
status without a cancellation, has seen a progress chunk after its first running status, in every
run in which no progress chunk comes before the first running status with an id. And every run that
leaves this condition can go on to end a turn that has seen nothing. -/
theorem premature_ignored (h : List Call) (earlyDrop : List Json → String → Json → Bool)
    (maxWait : Option ℕ) (S : DaemonSession) (ticks : List Tick) :
    ((∀ (c : Call) (reason T : String), NoLeftovers h → EndsAs h c reason →
        reason = TURN_END_STREAM_END ∨ reason = TURN_END_IDLE →
        (run h).gate.expectedTurnId = some T → Earned h T) ∧
      ∀ r : Call, (run h).ended = false → NoLeftovers h → r.Trimmed →
        ¬ NoLeftovers (h ++ [r]) → ∃ T,
          EndsAs (h ++ [r]) (.status "idle" (some T)) TURN_END_IDLE ∧
            (run (h ++ [r])).gate.expectedTurnId = some T ∧ ¬ Earned (h ++ [r]) T) ∧
    (∀ (e T : String) (s : TurnLoop) (rest : List Tick),
      NoLeftovers (observed earlyDrop maxWait S.start ticks) →
      Scan.halt (mainStep earlyDrop maxWait) S.start ticks =
        some ((.exit (.ended e), s), rest) →
      e ≠ "stopped" → (e = "idle" → s.cancelSeen = false) → s.expectedTurnId = some T →
      Earned (observed earlyDrop maxWait S.start ticks) T) ∧
    ∀ (s : TurnLoop) (ev : Json), NoLeftovers (observed earlyDrop maxWait S.start ticks) →
      Scan.reach (mainStep earlyDrop maxWait) S.start ticks = some s → s.cancelSeen = false →
      ¬ NoLeftovers (observed earlyDrop maxWait S.start ticks ++
        observes earlyDrop s (.frame ev)) →
      ∃ T s', ∀ rest,
        Scan.halt (mainStep earlyDrop maxWait) S.start
            (ticks ++ .frame ev :: .frame (statusFrame "idle" (some T)) :: rest) =
          some ((.exit (.ended "idle"), s'), rest) ∧
        s'.expectedTurnId = some T ∧ s'.cancelSeen = false ∧
        ¬ Earned (observed earlyDrop maxWait S.start
          (ticks ++ .frame ev :: .frame (statusFrame "idle" (some T)) :: rest)) T := by
  refine ⟨⟨fun c reason T hno hend hr hT => earned_of_endsAs hno hend hr hT,
    fun r hb hno hr hleft => ends_of_leftover hb hno hr hleft⟩,
    fun e T s rest hno hmain he hc hT => ?_, fun s ev hno hs hc hleft => ?_⟩
  · exact earned_of_halt hmain hno he hc hT
  · exact halt_of_leftover hs hc hno hleft

/-- A chunk of an assistant message of a turn. -/
def chunkFrame (turnId : String) : Json :=
  eventFrame "messages" turnId (.arr [.obj [("content", .str "hi")], .null])

/-- The chunk, as the readers observe it. -/
def chunkCall (turnId : String) : Call :=
  .event "messages" (.arr [.obj [("content", .str "hi")], .null]) (some turnId)

/-- The locals after a running status and a chunk, in either order. -/
def chunkSeen (turnId : String) : TurnLoop where
  expectedLoopId := "L"
  queryStarted := true
  expectedTurnId := some "L:1"
  turnProgressSeen := true
  out := [chunkOf (chunkFrame turnId)]
  stats := { total := 1, messages := 1, textChunks := 1 }

/-- A turn that earns its end, and a chunk left over from the turn before. -/
theorem premature_ignored_turn :
    (Earned [.status "running" (some "L:1"), chunkCall "L:1"] "L:1" ∧
      ∃ T, EndsAs [chunkCall "L:0", .status "running" (some "L:1")] (.status "idle" (some T))
        TURN_END_IDLE ∧ ¬ Earned [chunkCall "L:0", .status "running" (some "L:1")] T) ∧
    Earned (observed shouldDropStreamChunkEarly none (DaemonSession.start { loopId := "L" })
      [.frame (statusFrame "running" (some "L:1")), .frame (chunkFrame "L:1"),
        .frame (statusFrame "idle" (some "L:1"))]) "L:1" ∧
    ∃ T s, ∀ rest, Scan.halt (mainStep shouldDropStreamChunkEarly none)
        (DaemonSession.start { loopId := "L" })
        (.frame (chunkFrame "L:0") :: .frame (statusFrame "running" (some "L:1")) ::
          .frame (statusFrame "idle" (some T)) :: rest) =
      some ((.exit (.ended "idle"), s), rest) := by
  have hcall : (chunkCall "L:0").isProgress = true := by decide
  have hfirst : NoLeftovers [chunkCall "L:0"] := noLeftovers_of_unbound (by decide)
  have hlaw := fun h => premature_ignored h shouldDropStreamChunkEarly none { loopId := "L" }
  have htrim : Frame.Trimmed (some "L:1") := fun t ht => Option.some.inj ht ▸ by decide
  refine ⟨⟨?_, ?_⟩, ?_, ?_⟩
  · exact (hlaw [.status "running" (some "L:1"), chunkCall "L:1"] []).1.1
      (.status "idle" (some "L:1")) TURN_END_IDLE "L:1" (noLeftovers_cons (by decide))
      ⟨by decide, by decide, by decide, by decide⟩ (Or.inr rfl) (by decide)
  · obtain ⟨T, hend, -, hno⟩ := (hlaw [chunkCall "L:0"] []).1.2
      (.status "running" (some "L:1")) (by decide) hfirst htrim
      (not_noLeftovers hcall rfl (by decide))
    exact ⟨T, hend, hno⟩
  · have hmain : Scan.halt (mainStep shouldDropStreamChunkEarly none)
        (DaemonSession.start { loopId := "L" })
        [.frame (statusFrame "running" (some "L:1")), .frame (chunkFrame "L:1"),
          .frame (statusFrame "idle" (some "L:1"))] =
        some ((.exit (.ended "idle"), chunkSeen "L:1"), []) := rfl
    exact (hlaw [] _).2.1 "idle" "L:1" _ [] (noLeftovers_cons (by decide)) hmain
      (by decide) (fun _ => rfl) rfl
  · obtain ⟨T, s, h⟩ := (hlaw [] [.frame (chunkFrame "L:0")]).2.2 _
      (statusFrame "running" (some "L:1")) hfirst rfl rfl (not_noLeftovers hcall rfl (by decide))
    exact ⟨T, s, fun rest => (h rest).1⟩

/-- A chunk left over before the first running status is progress in both readers. -/
theorem premature_ignored_fails :
    (¬ ∀ (h : List Call) (c : Call) (reason T : String), EndsAs h c reason →
      reason = TURN_END_STREAM_END ∨ reason = TURN_END_IDLE →
      (run h).gate.expectedTurnId = some T → Earned h T) ∧
    ¬ ∀ (earlyDrop : List Json → String → Json → Bool) (maxWait : Option ℕ) (S : DaemonSession)
      (ticks : List Tick) (e T : String) (s : TurnLoop) (rest : List Tick),
      Scan.halt (mainStep earlyDrop maxWait) S.start ticks =
        some ((.exit (.ended e), s), rest) →
      e ≠ "stopped" → (e = "idle" → s.cancelSeen = false) → s.expectedTurnId = some T →
      Earned (observed earlyDrop maxWait S.start ticks) T := by
  have hearn : ¬ Earned [chunkCall "L:0", .status "running" (some "L:1")] "L:1" :=
    not_earned_of_leftover (h := [chunkCall "L:0"]) (by decide)
  refine ⟨fun h => hearn ?_, fun h => hearn ?_⟩
  · exact h _ (.event "custom" (.obj [("type", .str STREAM_END)]) (some "L:1"))
      TURN_END_STREAM_END "L:1" ⟨by decide, by decide, by decide, by decide⟩ (Or.inl rfl)
      (by decide)
  · have hmain : Scan.halt (mainStep shouldDropStreamChunkEarly none)
        (DaemonSession.start { loopId := "L" })
        [.frame (chunkFrame "L:0"), .frame (statusFrame "running" (some "L:1")),
          .frame (streamEndFrame "L:1")] =
        some ((.exit (.ended "stream_end"),
          { chunkSeen "L:0" with
            out := [chunkOf (chunkFrame "L:0"), chunkOf (streamEndFrame "L:1")]
            stats := { total := 2, messages := 1, custom := 1, textChunks := 1 } }), []) := rfl
    exact h shouldDropStreamChunkEarly none { loopId := "L" } _ "stream_end" "L:1" _ [] hmain
      (by decide) (fun _ => rfl) rfl

end SootheClient.Session
