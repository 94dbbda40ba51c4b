import SootheClient.Session.TurnStream

/-!
# Frames of other loops

A session that is on a loop never looks past the loop id of a frame of another loop: neither in
its main loop nor in its drain does such a frame move anything. So deleting the frames of other
loops changes nothing that a turn returns or leaves behind, and the session stays on its loop.
-/

namespace SootheClient.Session

open SootheClient.Frame

/-- The tick reads a frame with the loop id of another loop than `loopId`. -/
def Tick.foreign (loopId : String) : Tick → Bool
  | .frame ev =>
    (unwrapNext ev).getStrD "loop_id" ≠ "" && (unwrapNext ev).getStrD "loop_id" ≠ loopId
  | _ => false

/-- The ticks without the frames of other loops. -/
def ofLoop (loopId : String) (ticks : List Tick) : List Tick :=
  ticks.filter fun t => !t.foreign loopId

/-- The same result, with another count of dropped frames. -/
def TurnResult.withDropped (dropped : ℕ) (r : TurnResult) : TurnResult :=
  { r with session := { r.session with
    turnEventStats := { r.session.turnEventStats with inboundDropped := dropped } } }

variable {earlyDrop : List Json → String → Json → Bool} {maxWait : Option ℕ} {L : String}
  {s : TurnLoop} {d : Drain} {ev frame : Json} {t : Tick} {ticks rest : List Tick}
  {left : Leave × TurnLoop} {dropped dropped' : ℕ} {r : TurnResult}

theorem foreign_frame : (Tick.frame ev).foreign L = true ↔
    (inner ev).getStrD "loop_id" ≠ "" ∧ (inner ev).getStrD "loop_id" ≠ L := by
  simp only [Tick.foreign, unwrapNext_eq_inner, Bool.and_eq_true, decide_eq_true_eq]

/-- A frame that is not foreign has no loop id, or that of the loop. -/
theorem loopId_of_not_foreign (h : (Tick.frame ev).foreign L = false) :
    (inner ev).getStrD "loop_id" = "" ∨ (inner ev).getStrD "loop_id" = L := by
  by_contra hc
  rw [not_or] at hc
  rw [foreign_frame.2 hc] at h
  cases h

/-! ## The main loop -/

theorem skipsLoop_iff (hL : L ≠ "") (hs : s.expectedLoopId = L) :
    s.skipsLoop ((inner ev).getStrD "loop_id") = (Tick.frame ev).foreign L := by
  unfold TurnLoop.skipsLoop
  rw [hs, decide_eq_true hL, Bool.true_and]
  simp only [Tick.foreign, unwrapNext_eq_inner]

/-- The step leaves the locals on the loop. -/
def OnLoop (L : String) : Step → Prop :=
  Scan.Step.All (fun t => t.expectedLoopId = L) fun p => p.2.expectedLoopId = L

theorem onLoop_observeRunning {u : Option String} :
    (s.observeRunning u).expectedLoopId = s.expectedLoopId := by
  unfold TurnLoop.observeRunning
  cases u with
  | none => rfl
  | some v =>
    simp only
    split_ifs <;> rfl

theorem onLoop_onStatus {state : String} {u : Option String} (hs : s.expectedLoopId = L) :
    OnLoop L (s.onStatus state u) := by
  unfold TurnLoop.onStatus
  split_ifs
  · exact onLoop_observeRunning.trans hs
  all_goals exact hs

theorem onLoop_adoptLoopId (hs : s.expectedLoopId = L)
    (hf : frame.getStrD "loop_id" = "" ∨ frame.getStrD "loop_id" = L) :
    (s.adoptLoopId frame).expectedLoopId = L := by
  unfold TurnLoop.adoptLoopId
  unfold Json.getStrD at hf
  cases hlid : frame.getStr "loop_id" with
  | none => exact hs
  | some lid =>
    rw [hlid] at hf
    simp only
    split_ifs with hne
    · exact hf.resolve_left hne
    · exact hs

theorem onLoop_onEvent {u : Option String} (hs : s.expectedLoopId = L) :
    OnLoop L (s.onEvent earlyDrop frame u) := by
  have hobs : ∀ (s : TurnLoop) (ns : List Json) (chunk : TurnChunk),
      (s.observeChunk ns chunk).expectedLoopId = s.expectedLoopId := by
    intro s ns chunk
    unfold TurnLoop.observeChunk
    split_ifs <;> rfl
  unfold TurnLoop.onEvent
  simp only
  split_ifs
  · exact hs
  · exact hs
  · exact (hobs _ _ _).trans hs
  · exact (hobs _ _ _).trans hs

theorem onLoop_onFrame (hL : L ≠ "") (hs : s.expectedLoopId = L) :
    OnLoop L (s.onFrame earlyDrop ev) := by
  unfold TurnLoop.onFrame
  simp only
  rw [skipsLoop_iff hL hs]
  generalize (if (inner ev).getStrD "type" = "status" then (inner ev).getStrD "state" else "") = state
  split_ifs with hf
  · exact hs
  · exact hs
  · exact hs
  · have hlid := loopId_of_not_foreign (Bool.eq_false_iff.2 hf)
    exact onLoop_onStatus (onLoop_adoptLoopId hs hlid)
  · show (s.onCommandResponse (inner ev)).expectedLoopId = L
    unfold TurnLoop.onCommandResponse
    split_ifs <;> exact hs
  · exact hs
  · exact onLoop_onEvent hs

/-- The main loop stays on the loop. -/
theorem mainStep_all (hL : L ≠ "") (hs : s.expectedLoopId = L) :
    (mainStep earlyDrop maxWait s t).All (fun s => s.expectedLoopId = L)
      fun p => p.2.expectedLoopId = L := by
  cases t with
  | deadline => cases maxWait <;> exact hs
  | frame ev =>
    have hframe : OnLoop L (s.onFrame earlyDrop ev) := onLoop_onFrame hL hs
    simp only [mainStep]
    cases hf : s.onFrame earlyDrop ev with
    | next s' =>
      rw [hf] at hframe
      exact hframe
    | stop p =>
      rw [hf] at hframe
      exact hframe
  | silence alive =>
    simp only [mainStep]
    split_ifs <;> exact hs

/-- A frame of another loop does not move the main loop. -/
theorem mainStep_foreign (hL : L ≠ "") (hs : s.expectedLoopId = L) (ht : t.foreign L = true) :
    mainStep earlyDrop maxWait s t = .next s := by
  cases t with
  | frame ev =>
    have hskip : s.onFrame earlyDrop ev = .next s := by
      unfold TurnLoop.onFrame
      exact if_pos ((skipsLoop_iff hL hs).trans ht)
    simp only [mainStep, hskip]
  | deadline | silence alive => cases ht

/-! ## The drain -/

theorem drain_all (hL : L ≠ "") (hd : d.loopId = L) :
    (Drain.step earlyDrop L d t).All (fun d => d.loopId = L) fun d => d.loopId = L := by
  cases t with
  | deadline | silence alive => exact hd
  | frame ev =>
    show Scan.Step.All _ _ (d.onFrame earlyDrop L ev)
    unfold Drain.onFrame
    simp only
    split_ifs with hf
    · exact hd
    · exact hd
    · show (d.adoptLoopId (inner ev)).loopId = L
      have hlid : (inner ev).getStrD "loop_id" = "" ∨ (inner ev).getStrD "loop_id" = L := by
        by_contra hc
        rw [not_or] at hc
        exact hf ⟨hL, hc⟩
      unfold Drain.adoptLoopId
      unfold Json.getStrD at hlid
      cases hstr : (inner ev).getStr "loop_id" with
      | none => exact hd
      | some lid =>
        rw [hstr] at hlid
        simp only
        split_ifs with hne
        · exact hlid.resolve_left hne
        · exact hd
    · exact hd
    · show (d.onEvent earlyDrop (inner ev)).loopId = L
      unfold Drain.onEvent
      simp only
      split_ifs <;> exact hd

theorem drain_foreign (hL : L ≠ "") (ht : t.foreign L = true) :
    Drain.step earlyDrop L d t = .next d := by
  cases t with
  | frame ev => exact if_pos ⟨hL, foreign_frame.1 ht⟩
  | deadline | silence alive => cases ht

/-! ## The turn -/

theorem not_foreign_eq_false : (!t.foreign L) = false ↔ t.foreign L = true := by
  rw [Bool.not_eq_false']

theorem halt_mainStep_loopId (hL : L ≠ "") (hs : s.expectedLoopId = L)
    (h : Scan.halt (mainStep earlyDrop maxWait) s ticks = some (left, rest)) :
    left.2.expectedLoopId = L :=
  Scan.halt_all (I := fun s => s.expectedLoopId = L) (P := fun p => p.2.expectedLoopId = L)
    (fun _ _ _ hs => mainStep_all hL hs) hs h

theorem halt_drain_loopId {d' : Drain} (hL : L ≠ "") (hd : d.loopId = L)
    (h : Scan.halt (Drain.step earlyDrop L) d ticks = some (d', rest)) : d'.loopId = L :=
  Scan.halt_all (I := fun d => d.loopId = L) (P := fun d => d.loopId = L)
    (fun _ _ _ hd => drain_all hL hd) hd h

theorem halt_mainStep_ofLoop (hL : L ≠ "") (hs : s.expectedLoopId = L) :
    Scan.halt (mainStep earlyDrop maxWait) s (ofLoop L ticks) =
      (Scan.halt (mainStep earlyDrop maxWait) s ticks).map fun p => (p.1, ofLoop L p.2) :=
  Scan.halt_filter (I := fun s => s.expectedLoopId = L) (fun _ _ hs => mainStep_all hL hs)
    (fun _ _ hs ht => mainStep_foreign hL hs (not_foreign_eq_false.1 ht)) hs

theorem halt_drain_ofLoop (hL : L ≠ "") (hd : d.loopId = L) :
    Scan.halt (Drain.step earlyDrop L) d (ofLoop L ticks) =
      (Scan.halt (Drain.step earlyDrop L) d ticks).map fun p => (p.1, ofLoop L p.2) :=
  Scan.halt_filter (I := fun d => d.loopId = L) (fun _ _ hd => drain_all hL hd)
    (fun _ _ _ ht => drain_foreign hL (not_foreign_eq_false.1 ht)) hd

/-- What follows the main loop is the same without the frames of other loops. -/
theorem afterMain_ofLoop (hL : L ≠ "") (hs : left.2.expectedLoopId = L) :
    afterMain earlyDrop dropped' left (ofLoop L rest) =
      (afterMain earlyDrop dropped left rest).map (TurnResult.withDropped dropped') := by
  obtain ⟨leave, s⟩ := left
  have hs : s.expectedLoopId = L := hs
  cases leave with
  | exit e =>
    cases e with
    | ended endState =>
      simp only [afterMain]
      rw [hs, halt_drain_ofLoop hL hs, Option.map_map, Option.map_map]
      rfl
    | failed message => rfl
  | timedOut message => rfl
  | connectionLost => rfl

theorem turnFrom_ofLoop (hL : L ≠ "") (hs : s.expectedLoopId = L) :
    turnFrom earlyDrop maxWait dropped' s (ofLoop L ticks) =
      (turnFrom earlyDrop maxWait dropped s ticks).map (TurnResult.withDropped dropped') := by
  unfold turnFrom
  rw [halt_mainStep_ofLoop hL hs]
  cases hmain : Scan.halt (mainStep earlyDrop maxWait) s ticks with
  | none => rfl
  | some p =>
    obtain ⟨left, rest⟩ := p
    exact afterMain_ofLoop hL (halt_mainStep_loopId hL hs hmain)

/-- A turn leaves the session on its loop. -/
theorem afterMain_loopId (hL : L ≠ "") (hs : left.2.expectedLoopId = L)
    (h : afterMain earlyDrop dropped left rest = some r) : r.session.loopId = L := by
  obtain ⟨leave, s⟩ := left
  have hs : s.expectedLoopId = L := hs
  cases leave with
  | exit e =>
    cases e with
    | ended endState =>
      simp only [afterMain] at h
      rw [hs] at h
      obtain ⟨⟨d, rest'⟩, hd, rfl⟩ := Option.map_eq_some_iff.1 h
      exact halt_drain_loopId hL hs hd
    | failed message =>
      obtain rfl := Option.some.inj h
      exact hs
  | timedOut message =>
    obtain rfl := Option.some.inj h
    exact hs
  | connectionLost =>
    obtain rfl := Option.some.inj h
    exact hs

theorem turnFrom_loopId (hL : L ≠ "") (hs : s.expectedLoopId = L)
    (h : turnFrom earlyDrop maxWait dropped s ticks = some r) : r.session.loopId = L := by
  obtain ⟨⟨left, rest⟩, hmain, hafter⟩ := Option.bind_eq_some_iff.1 h
  exact afterMain_loopId hL (halt_mainStep_loopId hL hs hmain) hafter

/-- The count of dropped frames changes nothing else. -/
theorem afterMain_withDropped : afterMain earlyDrop dropped' left rest =
    (afterMain earlyDrop dropped left rest).map (TurnResult.withDropped dropped') := by
  obtain ⟨leave, s⟩ := left
  cases leave with
  | exit e =>
    cases e with
    | ended endState =>
      simp only [afterMain]
      rw [Option.map_map]
      rfl
    | failed message => rfl
  | timedOut message => rfl
  | connectionLost => rfl

theorem turnFrom_withDropped : turnFrom earlyDrop maxWait dropped' s ticks =
    (turnFrom earlyDrop maxWait dropped s ticks).map (TurnResult.withDropped dropped') := by
  unfold turnFrom
  cases Scan.halt (mainStep earlyDrop maxWait) s ticks with
  | none => rfl
  | some p => exact afterMain_withDropped

/-- The peel goes frame by frame. -/
theorem ofLoop_peel (queued late : List Tick) :
    ofLoop L (peel queued ++ late) = peel (ofLoop L queued) ++ ofLoop L late := by
  unfold ofLoop peel
  rw [List.filter_append, List.filter_filter, List.filter_filter]
  congr 2
  funext t
  exact Bool.and_comm _ _

/-- **Loop noninterference.** Two environments that differ only by frames of other loops, in the
queue, during the turn or in the drain, give the same result and leave the same session behind,
drop counter aside; and the session stays on its loop. -/
theorem foreign_loops_vanish (earlyDrop : List Json → String → Json → Bool) (maxWait : Option ℕ)
    (S : DaemonSession) (queued queued' late late' : List Tick) (dropped dropped' : ℕ)
    (hL : S.loopId ≠ "") (hq : ofLoop S.loopId queued = ofLoop S.loopId queued')
    (hl : ofLoop S.loopId late = ofLoop S.loopId late') :
    iterTurnChunks earlyDrop maxWait S queued' late' dropped' =
        (iterTurnChunks earlyDrop maxWait S queued late dropped).map
          (TurnResult.withDropped dropped') ∧
      ∀ r, iterTurnChunks earlyDrop maxWait S queued late dropped = some r ∨
          iterTurnChunks earlyDrop maxWait S queued' late' dropped' = some r →
        r.session.loopId = S.loopId := by
  constructor
  · have hsame : ofLoop S.loopId (peel queued ++ late) =
        ofLoop S.loopId (peel queued' ++ late') := by
      rw [ofLoop_peel, ofLoop_peel, hq, hl]
    calc iterTurnChunks earlyDrop maxWait S queued' late' dropped'
        = (iterTurnChunks earlyDrop maxWait S queued' late' dropped').map
            (TurnResult.withDropped dropped') := turnFrom_withDropped
      _ = turnFrom earlyDrop maxWait dropped' S.start
            (ofLoop S.loopId (peel queued' ++ late')) := (turnFrom_ofLoop hL rfl).symm
      _ = turnFrom earlyDrop maxWait dropped' S.start
            (ofLoop S.loopId (peel queued ++ late)) := by rw [hsame]
      _ = (iterTurnChunks earlyDrop maxWait S queued late dropped).map
            (TurnResult.withDropped dropped') := turnFrom_ofLoop hL rfl
  · rintro r (hr | hr) <;> exact turnFrom_loopId hL rfl hr

/-- With one error frame of another loop in the queue and one status frame of another loop late. -/
theorem foreign_loops_vanish_turn :
    iterTurnChunks (fun _ _ _ => false) none { loopId := "L" }
        [.frame (.obj [("type", .str "error"), ("loop_id", .str "M")])]
        [.frame (.obj [("type", .str "status"), ("loop_id", .str "M"), ("state", .str "running")]),
          .frame (.obj [("type", .str "error"), ("message", .str "bad")])] 2 =
      (iterTurnChunks (fun _ _ _ => false) none { loopId := "L" } []
        [.frame (.obj [("type", .str "error"), ("message", .str "bad")])] 0).map
          (TurnResult.withDropped 2) :=
  (foreign_loops_vanish (fun _ _ _ => false) none { loopId := "L" } []
    [.frame (.obj [("type", .str "error"), ("loop_id", .str "M")])]
    [.frame (.obj [("type", .str "error"), ("message", .str "bad")])]
    [.frame (.obj [("type", .str "status"), ("loop_id", .str "M"), ("state", .str "running")]),
      .frame (.obj [("type", .str "error"), ("message", .str "bad")])] 0 2
    (by decide) rfl rfl).1

end SootheClient.Session
