import SootheClient.Session.Steps

/-!
# A turn tick by tick

A call of `iter_turn_chunks` is in its main loop, in the drain, or done; each tick takes it from
one phase to the next. What the call returns is the result of the phase it ends in.
-/

namespace SootheClient.Session

open SootheClient.Frame

/-- Where a call is. -/
inductive TurnPhase where
  | main (s : TurnLoop)
  | drain (endState : String) (s : TurnLoop) (d : Drain)
  | done (r : TurnResult)

/-- The counters that the session shows. -/
def TurnPhase.stats : TurnPhase → TurnStats
  | .main s => { toTurnEventStats := s.stats }
  | .drain _ _ d => d.stats
  | .done r => r.session.turnEventStats

/-- What the call has returned. -/
def TurnPhase.result : TurnPhase → Option TurnResult
  | .done r => some r
  | _ => none

variable (earlyDrop : List Json → String → Json → Bool) (maxWait : Option ℕ) (dropped : ℕ)

/-- The phase after the main loop. -/
def TurnPhase.leave (left : Leave × TurnLoop) : TurnPhase :=
  let s := left.2
  match left.1 with
  | .exit (.ended endState) => .drain endState s s.drain
  | .exit (.failed message) => .done ⟨.error message, s.session "" message dropped⟩
  | .timedOut message => .done ⟨.error message, s.session "" message dropped⟩
  | .connectionLost =>
    .done ⟨.error "daemon connection lost", s.session "connection_lost" "" dropped⟩

/-- One iteration of the loop that the call is in. -/
def TurnPhase.next (p : TurnPhase) (tick : Tick) : TurnPhase :=
  match p with
  | .main s =>
    match mainStep earlyDrop maxWait s tick with
    | .next s => .main s
    | .stop left => leave dropped left
  | .drain endState s d =>
    match Drain.step earlyDrop s.expectedLoopId d tick with
    | .next d => .drain endState s d
    | .stop d => .done (s.finish endState dropped d)
  | .done r => .done r

/-- The phase after ticks. -/
def TurnPhase.run (p : TurnPhase) (ticks : List Tick) : TurnPhase :=
  ticks.foldl (TurnPhase.next earlyDrop maxWait dropped) p

variable {earlyDrop maxWait dropped} {s : TurnLoop} {d : Drain} {r : TurnResult}
  {endState : String} {tick : Tick} {ticks : List Tick}

theorem run_done : (TurnPhase.done r).run earlyDrop maxWait dropped ticks = .done r := by
  induction ticks with
  | nil => rfl
  | cons tick ticks ih => exact ih

/-- The result of a drain. -/
theorem run_drain_result :
    ((TurnPhase.drain endState s d).run earlyDrop maxWait dropped ticks).result =
      (Scan.halt (Drain.step earlyDrop s.expectedLoopId) d ticks).map fun p =>
        s.finish endState dropped p.1 := by
  induction ticks generalizing d with
  | nil => rfl
  | cons tick ticks ih =>
    have hcons : (TurnPhase.drain endState s d).run earlyDrop maxWait dropped (tick :: ticks) =
        ((TurnPhase.drain endState s d).next earlyDrop maxWait dropped tick).run earlyDrop maxWait
          dropped ticks := rfl
    rw [hcons]
    unfold TurnPhase.next
    simp only
    cases hf : Drain.step earlyDrop s.expectedLoopId d tick with
    | next d' => rw [Scan.halt_cons_next hf, ← ih]
    | stop d' =>
      rw [Scan.halt_cons_stop hf]
      exact congrArg TurnPhase.result run_done

/-- What follows the main loop. -/
theorem run_leave_result {left : Leave × TurnLoop} :
    ((TurnPhase.leave dropped left).run earlyDrop maxWait dropped ticks).result =
      afterMain earlyDrop dropped left ticks := by
  obtain ⟨leave, s⟩ := left
  cases leave with
  | timedOut message => exact congrArg TurnPhase.result run_done
  | connectionLost => exact congrArg TurnPhase.result run_done
  | exit e =>
    cases e with
    | failed message => exact congrArg TurnPhase.result run_done
    | ended endState => exact run_drain_result

/-- **The phases are the call.** The result of the phase that is reached is what the call returns
on the same ticks. -/
theorem run_main_result : ((TurnPhase.main s).run earlyDrop maxWait dropped ticks).result =
    turnFrom earlyDrop maxWait dropped s ticks := by
  unfold turnFrom
  induction ticks generalizing s with
  | nil => rfl
  | cons tick ticks ih =>
    have hcons : (TurnPhase.main s).run earlyDrop maxWait dropped (tick :: ticks) =
        ((TurnPhase.main s).next earlyDrop maxWait dropped tick).run earlyDrop maxWait dropped
          ticks := rfl
    rw [hcons]
    unfold TurnPhase.next
    simp only
    cases hf : mainStep earlyDrop maxWait s tick with
    | next s' => rw [Scan.halt_cons_next hf, ← ih]
    | stop left =>
      rw [Scan.halt_cons_stop hf]
      exact run_leave_result

/-! ## Up to the namespaces of chunks -/

/-- The chunk without its namespace. -/
def TurnChunk.bare (chunk : TurnChunk) : TurnChunk := { chunk with ns := .null }

def TurnLoop.bare (s : TurnLoop) : TurnLoop := { s with out := s.out.map TurnChunk.bare }

def Drain.bare (d : Drain) : Drain := { d with out := d.out.map TurnChunk.bare }

def TurnResult.bare (r : TurnResult) : TurnResult :=
  { r with result := r.result.map (List.map TurnChunk.bare) }

/-- The phase without the namespaces of its chunks. -/
def TurnPhase.bare : TurnPhase → TurnPhase
  | .main s => .main s.bare
  | .drain endState s d => .drain endState s.bare d.bare
  | .done r => .done r.bare

/-- A step of the main loop without the namespaces of its chunks. -/
def bareStep : Step → Step := Scan.Step.map TurnLoop.bare fun p => (p.1, p.2.bare)

variable {frame ev : Json} {state : String} {t : Option String}

theorem bare_adoptLoopId : s.bare.adoptLoopId frame = (s.adoptLoopId frame).bare := by
  unfold TurnLoop.adoptLoopId
  cases frame.getStr "loop_id" with
  | none => rfl
  | some lid =>
    simp only
    split_ifs <;> rfl

theorem bare_observeRunning : s.bare.observeRunning t = (s.observeRunning t).bare := by
  cases t with
  | none => rfl
  | some u =>
    unfold TurnLoop.observeRunning
    simp only
    have hrebinds : ({ s.bare with queryStarted := true } : TurnLoop).rebinds u =
      ({ s with queryStarted := true } : TurnLoop).rebinds u := rfl
    rw [hrebinds]
    by_cases h : ({ s with queryStarted := true } : TurnLoop).rebinds u = true
    · rw [if_pos h, if_pos h]
      rfl
    · rw [if_neg h, if_neg h]
      rfl

theorem bare_onCommandResponse :
    s.bare.onCommandResponse frame = (s.onCommandResponse frame).bare := by
  unfold TurnLoop.onCommandResponse
  split_ifs <;> rfl

theorem bare_bare : s.bare.bare = s.bare := by
  unfold TurnLoop.bare
  rw [List.map_map]
  rfl

theorem bare_onStatus : bareStep (s.bare.onStatus state t) = bareStep (s.onStatus state t) := by
  unfold TurnLoop.onStatus
  rw [bare_observeRunning]
  have hq : s.bare.queryStarted = s.queryStarted := rfl
  have he : s.bare.expectedTurnId = s.expectedTurnId := rfl
  have hp : s.bare.turnProgressSeen = s.turnProgressSeen := rfl
  have hc : s.bare.cancelSeen = s.cancelSeen := rfl
  rw [hq, he, hp, hc]
  split_ifs
  · exact congrArg Scan.Step.next bare_bare
  · exact congrArg Scan.Step.next bare_bare
  · exact congrArg (fun s => Scan.Step.stop (_, s)) bare_bare
  · exact congrArg Scan.Step.next bare_bare
  · exact congrArg (fun s => Scan.Step.stop (_, s)) bare_bare
  · exact congrArg Scan.Step.next bare_bare

theorem bare_observeChunk (s : TurnLoop) (nsSlice : List Json) (chunk : TurnChunk) :
    (s.bare.observeChunk nsSlice chunk).bare = (s.observeChunk nsSlice chunk).bare := by
  unfold TurnLoop.observeChunk
  by_cases h : isTurnProgressChunk chunk.mode chunk.data = true
  · rw [if_pos h, if_pos h]
    simp only [TurnLoop.bare, List.map_append, List.map_map]
    rfl
  · rw [if_neg h, if_neg h]
    simp only [TurnLoop.bare, List.map_append, List.map_map]
    rfl

theorem bare_onEvent :
    bareStep (s.bare.onEvent earlyDrop frame t) = bareStep (s.onEvent earlyDrop frame t) := by
  have hchunk := bare_observeChunk { s with stats := s.stats.count (frame.getStrD "mode") }
  have hpass : ∀ st, ({ s.bare with stats := st } : TurnLoop).bare =
    ({ s with stats := st } : TurnLoop).bare := fun st => bare_bare (s := { s with stats := st })
  unfold TurnLoop.onEvent
  simp only
  have he : s.bare.expectedTurnId = s.expectedTurnId := rfl
  have hq : s.bare.queryStarted = s.queryStarted := rfl
  have hp : s.bare.turnProgressSeen = s.turnProgressSeen := rfl
  rw [he, hq, hp]
  split_ifs
  · exact congrArg Scan.Step.next (hpass _)
  · exact congrArg Scan.Step.next (hpass _)
  · exact congrArg (fun s => Scan.Step.stop (_, s)) (hchunk _ _)
  · exact congrArg Scan.Step.next (hchunk _ _)

theorem bare_onFrame (earlyDrop : List Json → String → Json → Bool) (s : TurnLoop) (ev : Json) :
    bareStep (s.bare.onFrame earlyDrop ev) = bareStep (s.onFrame earlyDrop ev) := by
  unfold TurnLoop.onFrame
  simp only
  rw [bare_adoptLoopId, bare_onCommandResponse]
  have hloop : ∀ l, s.bare.skipsLoop l = s.skipsLoop l := fun _ => rfl
  have hturn : ∀ a b c, s.bare.skipsTurn a b c = s.skipsTurn a b c := fun _ _ _ => rfl
  rw [hloop, hturn]
  split_ifs
  all_goals first
    | exact congrArg Scan.Step.next bare_bare
    | exact congrArg (fun s => Scan.Step.stop (_, s)) bare_bare
    | exact bare_onStatus
    | exact bare_onEvent

theorem Drain.bare_bare : d.bare.bare = d.bare := by
  unfold Drain.bare
  rw [List.map_map]
  rfl

theorem bare_drainStep (earlyDrop : List Json → String → Json → Bool) (L : String) (d : Drain)
    (tick : Tick) :
    (Drain.step earlyDrop L d.bare tick).map Drain.bare Drain.bare =
      (Drain.step earlyDrop L d tick).map Drain.bare Drain.bare := by
  cases tick with
  | deadline => exact congrArg Scan.Step.stop Drain.bare_bare
  | silence alive => exact congrArg Scan.Step.stop Drain.bare_bare
  | frame ev =>
    have hadopt : (d.bare.adoptLoopId (inner ev)).bare = (d.adoptLoopId (inner ev)).bare := by
      unfold Drain.adoptLoopId
      cases (inner ev).getStr "loop_id" with
      | none => exact Drain.bare_bare
      | some lid =>
        simp only
        split_ifs
        · exact Drain.bare_bare (d := { d with loopId := lid })
        · exact Drain.bare_bare
    have hevent : (d.bare.onEvent earlyDrop (inner ev)).bare =
        (d.onEvent earlyDrop (inner ev)).bare := by
      unfold Drain.onEvent
      simp only
      split_ifs
      · simp only [Drain.bare, List.map_map]
        rfl
      · simp only [Drain.bare, List.map_append, List.map_map]
        rfl
    simp only [Drain.step, Drain.onFrame]
    split_ifs
    · exact congrArg Scan.Step.next Drain.bare_bare
    · exact congrArg Scan.Step.stop Drain.bare_bare
    · exact congrArg Scan.Step.next hadopt
    · exact congrArg Scan.Step.next Drain.bare_bare
    · exact congrArg Scan.Step.next hevent

/-- A step of the main loop that leaves it. -/
def bareLeave (left : Leave × TurnLoop) : Leave × TurnLoop := (left.1, left.2.bare)

theorem bare_mainStep (earlyDrop : List Json → String → Json → Bool) (maxWait : Option ℕ)
    (s : TurnLoop) (tick : Tick) :
    (mainStep earlyDrop maxWait s.bare tick).map TurnLoop.bare bareLeave =
      (mainStep earlyDrop maxWait s tick).map TurnLoop.bare bareLeave := by
  cases tick with
  | deadline =>
    cases maxWait with
    | none => exact congrArg Scan.Step.next bare_bare
    | some wait => exact congrArg (fun s => Scan.Step.stop (_, s)) bare_bare
  | silence alive =>
    have hq : s.bare.queryStarted = s.queryStarted := rfl
    simp only [mainStep]
    rw [hq]
    split_ifs
    · exact congrArg (fun s => Scan.Step.stop (_, s)) bare_bare
    · exact congrArg Scan.Step.next bare_bare
  | frame ev =>
    have h := Scan.Step.rel_of_map_eq (bare_onFrame earlyDrop s ev)
    simp only [mainStep]
    generalize s.bare.onFrame earlyDrop ev = x, s.onFrame earlyDrop ev = y at h ⊢
    cases h with
    | next hs => exact congrArg Scan.Step.next hs
    | stop hs =>
      obtain ⟨he, hs⟩ := Prod.mk.inj hs
      exact congrArg Scan.Step.stop (Prod.ext (congrArg Leave.exit he) hs)

theorem TurnResult.bare_bare : r.bare.bare = r.bare := by
  obtain ⟨result, session⟩ := r
  cases result with
  | error message => rfl
  | ok out =>
    unfold TurnResult.bare
    simp only [Except.map, List.map_map]
    rfl

theorem finish_bare : (s.finish endState dropped d).bare = s.finish endState dropped d.bare := rfl

variable {left left' : Leave × TurnLoop} {p p' : TurnPhase}

theorem bare_leave (h : bareLeave left' = bareLeave left) :
    (TurnPhase.leave dropped left').bare = (TurnPhase.leave dropped left).bare := by
  obtain ⟨leave, s⟩ := left
  obtain ⟨leave', s'⟩ := left'
  obtain ⟨rfl, hs⟩ := Prod.mk.inj h
  have hs : s'.bare = s.bare := hs
  have hsession : ∀ state message, s'.session state message dropped =
      s.session state message dropped := by
    intro state message
    show s'.bare.session state message dropped = s.bare.session state message dropped
    rw [hs]
  cases leave' with
  | timedOut message => exact congrArg (fun x => TurnPhase.done ⟨.error _, x⟩) (hsession _ _)
  | connectionLost => exact congrArg (fun x => TurnPhase.done ⟨.error _, x⟩) (hsession _ _)
  | exit e =>
    cases e with
    | failed message => exact congrArg (fun x => TurnPhase.done ⟨.error _, x⟩) (hsession _ _)
    | ended endState =>
      show TurnPhase.drain endState s'.bare s'.bare.drain = .drain endState s.bare s.bare.drain
      rw [hs]

/-- The namespaces of the chunks so far do not matter. -/
theorem bare_next :
    (p.bare.next earlyDrop maxWait dropped tick).bare =
      (p.next earlyDrop maxWait dropped tick).bare := by
  cases p with
  | done r => exact congrArg TurnPhase.done TurnResult.bare_bare
  | main s =>
    have h := Scan.Step.rel_of_map_eq (bare_mainStep earlyDrop maxWait s tick)
    unfold TurnPhase.next TurnPhase.bare
    simp only
    generalize mainStep earlyDrop maxWait s.bare tick = x, mainStep earlyDrop maxWait s tick = y
      at h ⊢
    cases h with
    | next hs => exact congrArg TurnPhase.main hs
    | stop hleft => exact bare_leave hleft
  | drain endState s d =>
    have h := Scan.Step.rel_of_map_eq (bare_drainStep earlyDrop s.expectedLoopId d tick)
    have hL : s.bare.expectedLoopId = s.expectedLoopId := rfl
    unfold TurnPhase.next TurnPhase.bare
    simp only
    rw [hL]
    generalize Drain.step earlyDrop s.expectedLoopId d.bare tick = x,
      Drain.step earlyDrop s.expectedLoopId d tick = y at h ⊢
    cases h with
    | @next d'' d' hd =>
      show TurnPhase.drain endState s.bare.bare d''.bare = .drain endState s.bare d'.bare
      rw [bare_bare, hd]
    | @stop d'' d' hd =>
      show TurnPhase.done (s.bare.finish endState dropped d'').bare = .done _
      rw [finish_bare, hd]
      rfl

/-- Phases that differ in the namespaces of chunks only go on to such phases. -/
theorem next_congr (h : p'.bare = p.bare) :
    (p'.next earlyDrop maxWait dropped tick).bare =
      (p.next earlyDrop maxWait dropped tick).bare := by
  rw [← bare_next, h, bare_next]

end SootheClient.Session
