import SootheClient.Frame.Bare
import SootheClient.Session.Answer

/-!
# When the frames of a turn arrive

The frames of a turn that was just sent can be in the inbound queue when the turn is read, or
arrive later. What is queued goes through the peel, which looks at the shape of a frame and not at
its turn. `View` is what the frames of a turn make of the reader, statistics aside.
-/

namespace SootheClient.Session

open SootheClient.Frame

/-! ## The frames of a turn -/

/-- A frame of turn `T` on loop `L`. -/
structure OfTurn (L T : String) (ev : Json) : Prop where
  loop : (inner ev).getStrD "loop_id" = "" ∨ (inner ev).getStrD "loop_id" = L
  turn : frameTurnId (inner ev) = some T

def IsRunning (ev : Json) : Prop :=
  (inner ev).getStrD "type" = "status" ∧ (inner ev).getStrD "state" = "running"

def IsChunk (ev : Json) : Prop :=
  (inner ev).getStrD "type" = "event" ∧ (chunkOf (inner ev)).turnEnd = false

/-- A terminal status, or a terminal event whose payload names no other turn. -/
def IsTerminal (T : String) (ev : Json) : Prop :=
  (inner ev).getStrD "type" = "status" ∧
      ((inner ev).getStrD "state" = "stopped" ∨ (inner ev).getStrD "state" = "idle") ∨
    (inner ev).getStrD "type" = "event" ∧ (chunkOf (inner ev)).turnEnd = true ∧
      (frameTurnId (chunkOf (inner ev)).data).getD T = T

/-- The frames before the terminal: running statuses and chunks. -/
def Body (L T : String) (ev : Json) : Prop := OfTurn L T ev ∧ (IsRunning ev ∨ IsChunk ev)

instance : DecidablePred IsRunning := fun _ => inferInstanceAs (Decidable (_ ∧ _))

/-- The early filter drops the chunk of the frame. -/
abbrev EarlyDropped (earlyDrop : List Json → String → Json → Bool) (ev : Json) : Prop :=
  (chunkOf (inner ev)).dropped earlyDrop = true

/-- The peel takes the frame. -/
def Peeled (ev : Json) : Prop := (stalePendingFrameLabel ev).isSome = true

/-! ## What they make of the reader -/

variable {earlyDrop : List Json → String → Json → Bool} {maxWait : Option ℕ} {L T : String}
  {ev : Json} {pre : List Json} {ticks rest : List Tick} {dropped : ℕ} {st : TurnEventStats}
  {out : List TurnChunk} {b p : Bool}

/-- The locals of the main loop in turn `T`: `b` once it is running, `p` once it made progress. -/
def inTurn (L T : String) (b p : Bool) (out : List TurnChunk) (st : TurnEventStats) : TurnLoop where
  expectedLoopId := L
  queryStarted := b
  expectedTurnId := if b then some T else none
  turnProgressSeen := p
  out := out
  stats := st

theorem OfTurn.trimmed (h : OfTurn L T ev) : Trimmed (some T) := h.turn ▸ trimmed_frameTurnId _

theorem match_self (hT : Trimmed (some T)) : turnIdsMatch (some T) (some T) = true :=
  (turnIdsMatch_iff hT hT).2 ⟨T, rfl, rfl⟩

theorem OfTurn.adoptLoopId (h : OfTurn L T ev) :
    (inTurn L T b p out st).adoptLoopId (inner ev) = inTurn L T b p out st := by
  have hlid := h.loop
  unfold TurnLoop.adoptLoopId
  unfold Json.getStrD at hlid
  cases hstr : (inner ev).getStr "loop_id" with
  | none => rfl
  | some lid =>
    rw [hstr] at hlid
    by_cases hne : lid ≠ ""
    · obtain rfl : lid = L := hlid.resolve_left hne
      exact if_pos hne
    · exact if_neg hne

theorem OfTurn.not_skipsLoop (h : OfTurn L T ev) :
    (inTurn L T b p out st).skipsLoop ((inner ev).getStrD "loop_id") = false := by
  unfold TurnLoop.skipsLoop inTurn
  rcases h.loop with h | h <;> simp [h]

theorem OfTurn.not_skipsEvent (h : OfTurn L T ev) :
    (inTurn L T b p out st).skipsTurn "event" "" (frameTurnId (inner ev)) = false := by
  rw [skipsTurn_event, h.turn]
  cases b with
  | false => rfl
  | true =>
    show (true && !turnIdsMatch (some T) (some T)) = false
    rw [match_self h.trimmed]
    rfl

theorem OfTurn.not_skipsStatus (h : OfTurn L T ev) :
    (inTurn L T b p out st).skipsTurn "status" ((inner ev).getStrD "state")
      (frameTurnId (inner ev)) = false := by
  by_cases hrun : (inner ev).getStrD "state" = "running"
  · rw [hrun]
    exact skipsTurn_running
  rw [skipsTurn_status hrun, h.turn]
  cases b with
  | false => rfl
  | true =>
    show (true && !turnIdsMatch (some T) (some T) && _) = false
    rw [match_self h.trimmed]
    rfl

/-- A running status starts the query and binds the turn. -/
theorem step_running (earlyDrop : List Json → String → Json → Bool) (b p : Bool)
    (out : List TurnChunk) (st : TurnEventStats) (h : OfTurn L T ev) (hrun : IsRunning ev) :
    (inTurn L T b p out st).onFrame earlyDrop ev = .next (inTurn L T true p out st) := by
  rw [onFrame_status hrun.1 h.not_skipsLoop h.not_skipsStatus, h.adoptLoopId, h.turn]
  unfold TurnLoop.onStatus
  rw [if_pos hrun.2]
  congr 1
  unfold TurnLoop.observeRunning
  cases b with
  | false => rfl
  | true =>
    have hsame : (some T).any (· ≠ T) = false := by simp
    simp only [inTurn, if_true, hsame, Bool.false_eq_true, if_false]
    split_ifs <;> rfl

/-- A chunk is kept, unless the early filter drops it. -/
theorem step_chunk (earlyDrop : List Json → String → Json → Bool) (b p : Bool)
    (out : List TurnChunk) (st : TurnEventStats) (h : OfTurn L T ev) (hc : IsChunk ev) : ∃ st',
    (inTurn L T b p out st).onFrame earlyDrop ev =
      .next (if EarlyDropped earlyDrop ev then inTurn L T b p out st'
        else inTurn L T b (p || isTurnProgressChunk (chunkOf (inner ev)).mode (chunkOf (inner ev)).data)
          (out ++ [chunkOf (inner ev)]) st') := by
  rw [onFrame_event hc.1 h.not_skipsLoop h.not_skipsEvent]
  obtain ⟨st', ⟨hd, hs⟩ | ⟨hd, -, hs⟩ | ⟨-, hend, -⟩⟩ := onEvent_cases earlyDrop
    (inTurn L T b p out st) (inner ev) (frameTurnId (inner ev))
  · have hdrop : EarlyDropped earlyDrop ev := by
      rcases hd with hd | ⟨hend, -⟩
      · exact hd
      · cases hc.2.symm.trans hend
    exact ⟨st', hs.trans (congrArg _ (if_pos hdrop).symm)⟩
  · have hdrop : ¬ EarlyDropped earlyDrop ev := by
      intro hdrop
      cases hd.symm.trans hdrop
    exact ⟨st', hs.trans (congrArg _ (if_neg hdrop).symm)⟩
  · cases hc.2.symm.trans hend

/-! ## The view of a turn -/

/-- Progress shows in the output. -/
def progress (out : List TurnChunk) : Bool :=
  out.any fun chunk => isTurnProgressChunk chunk.mode chunk.data

/-- Some frame is a running status. -/
def started (fs : List Json) : Bool := fs.any fun ev => IsRunning ev

/-- The frame leaves its chunk in the output. -/
def Keeps (earlyDrop : List Json → String → Json → Bool) (ev : Json) : Bool :=
  (inner ev).getStrD "type" = "event" && !EarlyDropped earlyDrop ev

/-- The chunks that the frames before the terminal leave in the output. -/
def chunks (earlyDrop : List Json → String → Json → Bool) (fs : List Json) : List TurnChunk :=
  (fs.filter (Keeps earlyDrop)).map fun ev => chunkOf (inner ev)

theorem progress_concat {chunk : TurnChunk} : progress (out ++ [chunk]) =
    (progress out || isTurnProgressChunk chunk.mode chunk.data) := by
  unfold progress
  rw [List.any_append, List.any_cons, List.any_nil, Bool.or_false]

/-- One frame before the terminal. -/
theorem step_body (earlyDrop : List Json → String → Json → Bool) (b : Bool)
    (out : List TurnChunk) (st : TurnEventStats) (h : Body L T ev) : ∃ st',
    (inTurn L T b (progress out) out st).onFrame earlyDrop ev =
      .next (inTurn L T (b || started [ev]) (progress (out ++ chunks earlyDrop [ev]))
        (out ++ chunks earlyDrop [ev]) st') := by
  obtain ⟨hturn, hrun | hchunk⟩ := h
  · have hstart : started [ev] = true := by simp [started, hrun]
    have hkeep : chunks earlyDrop [ev] = [] := by simp [chunks, Keeps, hrun.1]
    rw [hstart, hkeep, Bool.or_true, List.append_nil]
    exact ⟨st, step_running earlyDrop b (progress out) out st hturn hrun⟩
  · have hstart : started [ev] = false := by simp [started, IsRunning, hchunk.1]
    obtain ⟨st', hst⟩ := step_chunk earlyDrop b (progress out) out st hturn hchunk
    refine ⟨st', hst.trans (congrArg _ ?_)⟩
    rw [hstart, Bool.or_false]
    by_cases hdrop : EarlyDropped earlyDrop ev
    · have hkeep : chunks earlyDrop [ev] = [] := by simp [chunks, Keeps, hdrop]
      rw [if_pos hdrop, hkeep, List.append_nil]
    · have hkeep : chunks earlyDrop [ev] = [chunkOf (inner ev)] := by
        simp [chunks, Keeps, hchunk.1, hdrop]
      rw [if_neg hdrop, hkeep, progress_concat]

theorem started_cons (ev : Json) (fs : List Json) :
    started (ev :: fs) = (started [ev] || started fs) := by simp [started]

theorem chunks_cons (ev : Json) (fs : List Json) :
    chunks earlyDrop (ev :: fs) = chunks earlyDrop [ev] ++ chunks earlyDrop fs := by
  unfold chunks
  rw [← List.map_append, ← List.filter_append]
  rfl

/-- All frames before the terminal. -/
theorem reach_body (earlyDrop : List Json → String → Json → Bool) (maxWait : Option ℕ)
    (b : Bool) (out : List TurnChunk) (st : TurnEventStats) (h : ∀ ev ∈ pre, Body L T ev) : ∃ st',
    Scan.reach (mainStep earlyDrop maxWait) (inTurn L T b (progress out) out st)
        (pre.map .frame) =
      some (inTurn L T (b || started pre) (progress (out ++ chunks earlyDrop pre))
        (out ++ chunks earlyDrop pre) st') := by
  induction pre generalizing b out st with
  | nil =>
    refine ⟨st, ?_⟩
    rw [show started [] = false from rfl, show chunks earlyDrop [] = [] from rfl, Bool.or_false,
      List.append_nil]
    rfl
  | cons ev pre ih =>
    obtain ⟨st₁, hstep⟩ := step_body earlyDrop b out st (h ev List.mem_cons_self)
    obtain ⟨st₂, hrest⟩ := ih (b || started [ev]) (out ++ chunks earlyDrop [ev]) st₁
      fun ev hev => h ev (List.mem_cons_of_mem _ hev)
    refine ⟨st₂, ?_⟩
    rw [List.map_cons, Scan.reach_cons_next (mainStep_next hstep), hrest, started_cons ev pre,
      chunks_cons ev pre, Bool.or_assoc, List.append_assoc]

/-- The terminal ends the turn in these locals. -/
def Ends (earlyDrop : List Json → String → Json → Bool) (b p : Prop) (ev : Json) : Prop :=
  b ∧ ((inner ev).getStrD "type" = "status" ∧ ((inner ev).getStrD "state" = "stopped" ∨ p) ∨
    (inner ev).getStrD "type" = "event" ∧ p ∧ ¬ EarlyDropped earlyDrop ev)

/-- The end state that a terminal gives a turn. -/
def endStateOf (ev : Json) : String :=
  if (inner ev).getStrD "type" = "status" then (inner ev).getStrD "state"
  else TurnLoop.endState (chunkOf (inner ev)).data

/-- The chunk that a terminal leaves in the output. -/
def tailOf (ev : Json) : List TurnChunk :=
  if (inner ev).getStrD "type" = "status" then [] else [chunkOf (inner ev)]

theorem idleAllowed_self (hT : Trimmed (some T)) :
    isIdleTerminalAllowed (some T) (some T) true p false = p := by
  rw [Bool.eq_iff_iff, isIdleTerminalAllowed_iff hT hT]
  exact ⟨fun h => h.2.1, fun h => ⟨rfl, h, T, rfl, rfl⟩⟩

theorem terminalAllowed_self (hT : Trimmed (some T)) :
    isTurnTerminalAllowed (some T) (some T) true true = true :=
  (isTurnTerminalAllowed_iff hT hT).2 ⟨rfl, rfl, T, rfl, rfl⟩

/-- A terminal event is no progress. -/
theorem not_progress_of_chunk {chunk : TurnChunk} (h : chunk.turnEnd = true) :
    isTurnProgressChunk chunk.mode chunk.data = false := by
  unfold TurnChunk.turnEnd at h
  rw [Bool.and_eq_true, decide_eq_true_eq] at h
  rw [h.1]
  exact not_progress_of_turnEnd h.2

/-- A terminal ends the turn, or is passed over. -/
theorem step_terminal (earlyDrop : List Json → String → Json → Bool) (b p : Bool)
    (out : List TurnChunk) (st : TurnEventStats) (h : OfTurn L T ev) (ht : IsTerminal T ev) : ∃ st',
    (Ends earlyDrop (b = true) (p = true) ev ∧ (inTurn L T b p out st).onFrame earlyDrop ev =
      .stop (.ended (endStateOf ev), inTurn L T b p (out ++ tailOf ev) st')) ∨
    (¬ Ends earlyDrop (b = true) (p = true) ev ∧ (inTurn L T b p out st).onFrame earlyDrop ev =
      .next (inTurn L T b p out st')) := by
  have hT := h.trimmed
  rcases ht with ⟨htype, hstate⟩ | ⟨htype, hend, hdata⟩
  · have hf : (inTurn L T b p out st).onFrame earlyDrop ev =
        (inTurn L T b p out st).onStatus ((inner ev).getStrD "state") (some T) := by
      rw [onFrame_status htype h.not_skipsLoop h.not_skipsStatus, h.adoptLoopId, h.turn]
    have hevent : (inner ev).getStrD "type" ≠ "event" := by
      rw [htype]
      decide
    have hends : endStateOf ev = (inner ev).getStrD "state" := if_pos htype
    have htail : tailOf ev = [] := if_pos htype
    refine ⟨st, ?_⟩
    rw [hf, hends, htail, List.append_nil]
    have hmatch : ∀ b : Bool, ((if b then some T else none).isSome &&
        !turnIdsMatch (if b then some T else none) (some T)) = false := by
      intro b
      cases b with
      | false => rfl
      | true =>
        show (true && !turnIdsMatch (some T) (some T)) = false
        rw [match_self hT]
        rfl
    unfold Ends
    rcases hstate with hstop | hidle
    · rw [hstop, onStatus_stopped]
      simp only [inTurn, hmatch]
      cases b <;> simp [htype]
    · rw [hidle, onStatus_idle]
      simp only [inTurn]
      cases b with
      | false => simp
      | true =>
        simp only [if_true, idleAllowed_self hT]
        cases p <;> simp [htype]
  · have hstatus : (inner ev).getStrD "type" ≠ "status" := by
      rw [htype]
      decide
    have hends : endStateOf ev = TurnLoop.endState (chunkOf (inner ev)).data := if_neg hstatus
    have htail : tailOf ev = [chunkOf (inner ev)] := if_neg hstatus
    have hturn : (frameTurnId (chunkOf (inner ev)).data).or (some T) = some T := by
      cases hd : frameTurnId (chunkOf (inner ev)).data with
      | none => rfl
      | some u =>
        rw [hd] at hdata
        exact congrArg some hdata
    rw [hends, htail]
    obtain ⟨st', ⟨hd, hs⟩ | ⟨-, hne, -⟩ | ⟨hd, -, hall, hs⟩⟩ := onEvent_cases
      earlyDrop (inTurn L T b p out st) (inner ev) (frameTurnId (inner ev))
    · rw [h.turn, hturn] at hd
      refine ⟨st', Or.inr ⟨?_, ?_⟩⟩
      · rintro ⟨hb, ⟨hst, -⟩ | ⟨-, hp, hdrop⟩⟩
        · exact hstatus hst
        · rcases hd with hd | ⟨-, hgate⟩
          · exact hdrop hd
          · rw [hb, hp] at hgate
            cases (terminalAllowed_self hT).symm.trans hgate
      · rw [onFrame_event htype h.not_skipsLoop h.not_skipsEvent, hs]
        rfl
    · cases hne.symm.trans hend
    · rw [h.turn, hturn] at hall
      obtain ⟨hb, hp⟩ := of_isTurnTerminalAllowed hall
      refine ⟨st', Or.inl ⟨⟨hb, Or.inr ⟨htype, hp, ?_⟩⟩, ?_⟩⟩
      · intro hdrop
        cases hd.symm.trans hdrop
      · rw [onFrame_event htype h.not_skipsLoop h.not_skipsEvent, hs]
        unfold TurnLoop.observed
        rw [not_progress_of_chunk hend, Bool.or_false]
        rfl

instance {b p : Prop} [Decidable b] [Decidable p] : Decidable (Ends earlyDrop b p ev) :=
  inferInstanceAs (Decidable (_ ∧ (_ ∨ _)))

/-- What the frames of a turn make of the reader: it still reads, or it drains. -/
inductive View where
  | looping (started : Bool) (out : List TurnChunk)
  | draining (endState : String) (out : List TurnChunk)

/-- The view after some frames and perhaps the terminal. -/
def viewOf (earlyDrop : List Json → String → Json → Bool) (fs : List Json) : Option Json → View
  | none => .looping (started fs) (chunks earlyDrop fs)
  | some ev =>
    if Ends earlyDrop (started fs = true) (progress (chunks earlyDrop fs) = true) ev then
      .draining (endStateOf ev) (chunks earlyDrop fs ++ tailOf ev)
    else .looping (started fs) (chunks earlyDrop fs)

/-- The answer when `rest` follows. -/
def View.answer (earlyDrop : List Json → String → Json → Bool) (maxWait : Option ℕ)
    (L T : String) (rest : List Tick) : View → Option (Except String (List TurnChunk) × String)
  | .looping b out =>
    (turnFrom earlyDrop maxWait 0 (inTurn L T b (progress out) out {}) rest).map TurnResult.answer
  | .draining endState out =>
    (Scan.halt (Drain.step earlyDrop L) ⟨L, out, {}⟩ rest).map fun p => (.ok p.1.out, endState)

theorem turnFrom_of_reach {s s' : TurnLoop}
    (h : Scan.reach (mainStep earlyDrop maxWait) s ticks = some s') :
    turnFrom earlyDrop maxWait dropped s (ticks ++ rest) =
      turnFrom earlyDrop maxWait dropped s' rest := by
  unfold turnFrom
  rw [Scan.halt_append_of_reach h]

theorem turnFrom_cons_next {s s' : TurnLoop} {t : Tick}
    (h : mainStep earlyDrop maxWait s t = .next s') :
    turnFrom earlyDrop maxWait dropped s (t :: rest) =
      turnFrom earlyDrop maxWait dropped s' rest := by
  unfold turnFrom
  rw [Scan.halt_cons_next h]

theorem turnFrom_cons_stop {s : TurnLoop} {t : Tick} {left : Leave × TurnLoop}
    (h : mainStep earlyDrop maxWait s t = .stop left) :
    turnFrom earlyDrop maxWait dropped s (t :: rest) = afterMain earlyDrop dropped left rest := by
  unfold turnFrom
  rw [Scan.halt_cons_stop h]
  rfl

theorem answer_looping :
    (turnFrom earlyDrop maxWait dropped (inTurn L T b (progress out) out st) rest).map
        TurnResult.answer =
      (View.looping b out).answer earlyDrop maxWait L T rest :=
  turnFrom_same rfl

theorem answer_draining {endState : String} :
    (afterMain earlyDrop dropped (.exit (.ended endState), inTurn L T b p out st) rest).map
        TurnResult.answer =
      (View.draining endState out).answer earlyDrop maxWait L T rest := by
  have hrel := halt_drain_same earlyDrop L rest
    (show SameDrain (inTurn L T b p out st).drain ⟨L, out, {}⟩ from ⟨rfl, rfl⟩)
  simp only [afterMain, Option.map_map, View.answer]
  rw [show (inTurn L T b p out st).expectedLoopId = L from rfl]
  generalize Scan.halt (Drain.step earlyDrop L) (inTurn L T b p out st).drain rest = x at hrel
  generalize Scan.halt (Drain.step earlyDrop L) ⟨L, out, {}⟩ rest = y at hrel
  cases hrel with
  | none => rfl
  | some h =>
    refine congrArg some (Prod.ext ?_ rfl)
    exact congrArg Except.ok h.1.2.symm

/-- The answer of a turn goes by its view. -/
theorem answer_view {term : Option Json} (h : ∀ ev ∈ pre, Body L T ev)
    (hterm : ∀ ev ∈ term, OfTurn L T ev ∧ IsTerminal T ev) :
    (turnFrom earlyDrop maxWait dropped (inTurn L T false false [] st)
        ((pre ++ term.toList).map .frame ++ rest)).map TurnResult.answer =
      (viewOf earlyDrop pre term).answer earlyDrop maxWait L T rest := by
  obtain ⟨st₁, hreach⟩ := reach_body earlyDrop maxWait false [] st h
  rw [Bool.false_or, List.nil_append, show progress [] = false from rfl] at hreach
  rw [List.map_append, List.append_assoc, turnFrom_of_reach hreach]
  cases term with
  | none => exact answer_looping
  | some ev =>
    obtain ⟨hturn, hkind⟩ := hterm ev rfl
    show (turnFrom earlyDrop maxWait dropped _ (.frame ev :: rest)).map _ = _
    unfold viewOf
    obtain ⟨st₂, ⟨hends, hstep⟩ | ⟨hends, hstep⟩⟩ := step_terminal earlyDrop
      (started pre) (progress (chunks earlyDrop pre)) (chunks earlyDrop pre) st₁ hturn hkind
    · rw [turnFrom_cons_stop (mainStep_stop hstep)]
      simp only [if_pos hends]
      exact answer_draining
    · rw [turnFrom_cons_next (mainStep_next hstep)]
      simp only [if_neg hends]
      exact answer_looping

/-! ## Views show in the answers -/

theorem ofTurn_statusFrame {state : String} (hT : Trimmed (some T)) :
    OfTurn L T (statusFrame state (some T)) where
  loop := Or.inl (by
    rw [inner_statusFrame, Json.getStrD, statusFrame_getStr.2.2.1]
    rfl)
  turn := statusFrame_turnId hT

/-- A reader that still reads has no answer at a silence. -/
theorem answer_silence_looping :
    (View.looping b out).answer earlyDrop maxWait L T [.silence true] = none := by
  have hnext : mainStep earlyDrop maxWait (inTurn L T b (progress out) out {}) (.silence true) =
      .next (inTurn L T b (progress out) out {}) := by
    simp [mainStep]
  show (turnFrom earlyDrop maxWait 0 _ [.silence true]).map _ = none
  rw [turnFrom_cons_next hnext]
  rfl

theorem answer_silence_draining {endState : String} :
    (View.draining endState out).answer earlyDrop maxWait L T [.silence true] =
      some (.ok out, endState) := rfl

theorem isRunning_statusFrame : IsRunning (statusFrame "running" (some T)) :=
  ⟨statusFrame_type, statusFrame_state⟩

theorem isTerminal_stopped : IsTerminal T (statusFrame "stopped" (some T)) :=
  Or.inl ⟨statusFrame_type, Or.inl statusFrame_state⟩

/-- A stopped status ends a turn that is running, and no other. -/
theorem answer_stopped (hT : Trimmed (some T)) :
    (View.looping b out).answer earlyDrop maxWait L T
        [.frame (statusFrame "stopped" (some T)), .silence true] =
      if b then some (.ok out, "stopped") else none := by
  have htype : (inner (statusFrame "stopped" (some T))).getStrD "type" = "status" := statusFrame_type
  have hstate : (inner (statusFrame "stopped" (some T))).getStrD "state" = "stopped" :=
    statusFrame_state
  have htail : tailOf (statusFrame "stopped" (some T)) = [] := if_pos htype
  have hends : endStateOf (statusFrame "stopped" (some T)) = "stopped" :=
    (if_pos htype).trans hstate
  show (turnFrom earlyDrop maxWait 0 _ _).map _ = _
  obtain ⟨st', ⟨hb, hstep⟩ | ⟨hb, hstep⟩⟩ := step_terminal earlyDrop b (progress out) out
    {} (ofTurn_statusFrame (L := L) hT) isTerminal_stopped
  · rw [turnFrom_cons_stop (mainStep_stop hstep), htail, hends, List.append_nil, if_pos hb.1]
    have hdone : (View.draining "stopped" out).answer earlyDrop maxWait L T [.silence true] =
        some (.ok out, "stopped") := answer_silence_draining
    exact answer_draining.trans hdone
  · have hb : ¬ b = true := fun h => hb ⟨h, Or.inl ⟨htype, Or.inl hstate⟩⟩
    rw [turnFrom_cons_next (mainStep_next hstep), answer_looping, answer_silence_looping, if_neg hb]

/-- A running and a stopped status end every turn. -/
theorem answer_running_stopped (hT : Trimmed (some T)) :
    (View.looping b out).answer earlyDrop maxWait L T
        [.frame (statusFrame "running" (some T)), .frame (statusFrame "stopped" (some T)),
          .silence true] =
      some (.ok out, "stopped") := by
  have hrun := step_running earlyDrop b (progress out) out {}
    (ofTurn_statusFrame (L := L) hT) isRunning_statusFrame
  show (turnFrom earlyDrop maxWait 0 _ _).map _ = _
  rw [turnFrom_cons_next (mainStep_next hrun), answer_looping, answer_stopped hT, if_pos rfl]

/-- Views with the same answers are the same. -/
theorem view_ext (earlyDrop : List Json → String → Json → Bool) (maxWait : Option ℕ) (L : String)
    (hT : Trimmed (some T)) {v v' : View}
    (h : ∀ rest, v.answer earlyDrop maxWait L T rest = v'.answer earlyDrop maxWait L T rest) :
    v = v' := by
  cases v with
  | looping b out =>
    cases v' with
    | looping b' out' =>
      have hout := h [.frame (statusFrame "running" (some T)),
        .frame (statusFrame "stopped" (some T)), .silence true]
      rw [answer_running_stopped hT, answer_running_stopped hT] at hout
      obtain rfl : out = out' := Except.ok.inj (Prod.mk.inj (Option.some.inj hout)).1
      have hb := h [.frame (statusFrame "stopped" (some T)), .silence true]
      rw [answer_stopped hT, answer_stopped hT] at hb
      cases b <;> cases b' <;> simp at hb ⊢
    | draining endState' out' =>
      have hs := h [.silence true]
      rw [answer_silence_looping, answer_silence_draining] at hs
      cases hs
  | draining endState out =>
    have hs := h [.silence true]
    cases v' with
    | looping b' out' =>
      rw [answer_silence_looping, answer_silence_draining] at hs
      cases hs
    | draining endState' out' =>
      rw [answer_silence_draining, answer_silence_draining] at hs
      obtain ⟨hout, rfl⟩ := Prod.mk.inj (Option.some.inj hs)
      rw [Except.ok.inj hout]

/-! ## The peel -/

/-- The frames that the reader sees when the first `k` are in the queue at the start. -/
def kept (k : ℕ) (fs : List Json) : List Json :=
  (fs.take k).filter (fun ev => !(stalePendingFrameLabel ev).isSome) ++ fs.drop k

variable {k : ℕ} {term : Option Json}

theorem peel_queued (fs : List Json) :
    peel ((fs.take k).map .frame) ++ ((fs.drop k).map .frame ++ rest) =
      (kept k fs).map .frame ++ rest := by
  unfold peel kept
  rw [List.filter_map, List.map_append, List.append_assoc]
  rfl

/-- What is left of the terminal. -/
def keptTerm (k : ℕ) (pre : List Json) (term : Option Json) : Option Json :=
  if pre.length < k then term.filter fun ev => !(stalePendingFrameLabel ev).isSome else term

theorem kept_append_term :
    kept k (pre ++ term.toList) = kept k pre ++ (keptTerm k pre term).toList := by
  unfold kept keptTerm
  by_cases hk : pre.length < k
  · have hlen : ∀ t : Option Json, (pre ++ t.toList).length ≤ k := by
      intro t
      cases t <;> simp <;> omega
    rw [if_pos hk, List.take_of_length_le (hlen term), List.drop_of_length_le (hlen term),
      List.take_of_length_le hk.le, List.drop_of_length_le hk.le, List.filter_append,
      List.append_nil, List.append_nil]
    cases term with
    | none => rfl
    | some ev =>
      show pre.filter _ ++ List.filter _ [ev] = _ ++ Option.toList (if _ then _ else _)
      rw [List.filter_cons, List.filter_nil]
      split_ifs <;> rfl
  · have hk : k ≤ pre.length := Nat.le_of_not_lt hk
    rw [if_neg (Nat.not_lt.2 hk), List.take_append_of_le_length hk, List.drop_append_of_le_length hk,
      List.append_assoc]

theorem mem_of_mem_kept (h : ev ∈ kept k pre) : ev ∈ pre := by
  rcases List.mem_append.1 h with h | h
  · exact List.mem_of_mem_take (List.mem_of_mem_filter h)
  · exact List.mem_of_mem_drop h

theorem started_iff {fs : List Json} : started fs = true ↔ ∃ ev ∈ fs, IsRunning ev := by
  simp [started]

/-- The peel leaves the output alone when it takes no frame that would show in it. -/
theorem chunks_kept : chunks earlyDrop (kept k pre) = chunks earlyDrop pre ↔
    ∀ ev ∈ pre.take k, Peeled ev → Keeps earlyDrop ev = false := by
  have hsplit : chunks earlyDrop pre = chunks earlyDrop (pre.take k) ++
      chunks earlyDrop (pre.drop k) := by
    unfold chunks
    rw [← List.map_append, ← List.filter_append, List.take_append_drop]
  have hkept : chunks earlyDrop (kept k pre) =
      chunks earlyDrop ((pre.take k).filter fun ev => !(stalePendingFrameLabel ev).isSome) ++
        chunks earlyDrop (pre.drop k) := by
    unfold chunks kept
    rw [← List.map_append, ← List.filter_append]
  rw [hsplit, hkept, List.append_left_inj]
  unfold chunks Peeled
  constructor
  · intro h ev hev hpeel
    by_contra hkeep
    rw [Bool.not_eq_false] at hkeep
    have hlen := congrArg List.length h
    rw [List.length_map, List.length_map, List.filter_comm, List.length_filter_eq_length_iff] at hlen
    have hstay := hlen ev (List.mem_filter.2 ⟨hev, hkeep⟩)
    rw [hpeel] at hstay
    cases hstay
  · intro h
    rw [List.filter_filter]
    congr 1
    refine List.filter_congr fun ev hev => ?_
    cases hp : (stalePendingFrameLabel ev).isSome with
    | false => simp
    | true => simp [h ev hev hp]

/-- Peeling part of the queue does no harm: no chunk that would show is taken, not every running
status is, and no terminal that would end the turn. -/
structure Unharmed (earlyDrop : List Json → String → Json → Bool) (pre : List Json)
    (term : Option Json) (k : ℕ) : Prop where
  chunks : ∀ ev ∈ pre.take k, Peeled ev → IsChunk ev → EarlyDropped earlyDrop ev
  running : (∃ ev ∈ pre, IsRunning ev) → ∃ ev ∈ kept k pre, IsRunning ev
  terminal : ∀ ev ∈ term, pre.length < k → Peeled ev →
    ¬ Ends earlyDrop (∃ ev ∈ pre, IsRunning ev)
      (∃ ev ∈ pre, IsChunk ev ∧ ¬ EarlyDropped earlyDrop ev ∧
        isTurnProgressChunk (chunkOf (inner ev)).mode (chunkOf (inner ev)).data = true) ev

/-- The call gives the same answer with the first `k` frames in the queue at the start as with all
frames late, whatever follows. -/
def SameAnswers (earlyDrop : List Json → String → Json → Bool) (maxWait : Option ℕ)
    (S : DaemonSession) (fs : List Json) (k : ℕ) : Prop :=
  ∀ rest dropped dropped',
    (iterTurnChunks earlyDrop maxWait S ((fs.take k).map .frame)
        ((fs.drop k).map .frame ++ rest) dropped).map TurnResult.answer =
      (iterTurnChunks earlyDrop maxWait S [] (fs.map .frame ++ rest) dropped').map TurnResult.answer

theorem keeps_iff (h : Body L T ev) :
    Keeps earlyDrop ev = true ↔ IsChunk ev ∧ ¬ EarlyDropped earlyDrop ev := by
  unfold Keeps
  rw [Bool.and_eq_true, decide_eq_true_eq, Bool.not_eq_true', decide_eq_false_iff_not]
  refine and_congr_left fun _ => ⟨fun htype => ?_, fun hc => hc.1⟩
  rcases h.2 with hrun | hc
  · exact absurd (hrun.1.symm.trans htype) (by decide)
  · exact hc

theorem progress_chunks (h : ∀ ev ∈ pre, Body L T ev) :
    progress (chunks earlyDrop pre) = true ↔ ∃ ev ∈ pre, IsChunk ev ∧
      ¬ EarlyDropped earlyDrop ev ∧
        isTurnProgressChunk (chunkOf (inner ev)).mode (chunkOf (inner ev)).data = true := by
  unfold progress chunks
  rw [List.any_map, List.any_eq_true]
  constructor
  · rintro ⟨ev, hev, hp⟩
    obtain ⟨hmem, hkeep⟩ := List.mem_filter.1 hev
    obtain ⟨hc, hd⟩ := (keeps_iff (h ev hmem)).1 hkeep
    exact ⟨ev, hmem, hc, hd, hp⟩
  · rintro ⟨ev, hmem, hc, hd, hp⟩
    exact ⟨ev, List.mem_filter.2 ⟨hmem, (keeps_iff (h ev hmem)).2 ⟨hc, hd⟩⟩, hp⟩

theorem viewOf_ends (h : Ends earlyDrop (started pre = true)
    (progress (chunks earlyDrop pre) = true) ev) :
    viewOf earlyDrop pre (some ev) =
      .draining (endStateOf ev) (chunks earlyDrop pre ++ tailOf ev) := if_pos h

theorem viewOf_goes (h : ¬ Ends earlyDrop (started pre = true)
    (progress (chunks earlyDrop pre) = true) ev) :
    viewOf earlyDrop pre (some ev) = .looping (started pre) (chunks earlyDrop pre) := if_neg h

/-- A view tells the start flag and the output before the terminal. -/
theorem viewOf_inj {fs : List Json} : viewOf earlyDrop fs term = viewOf earlyDrop pre term ↔
    started fs = started pre ∧ chunks earlyDrop fs = chunks earlyDrop pre := by
  constructor
  · intro h
    cases term with
    | none =>
      obtain ⟨hs, hc⟩ := View.looping.inj h
      exact ⟨hs, hc⟩
    | some ev =>
      by_cases he : Ends earlyDrop (started fs = true) (progress (chunks earlyDrop fs) = true) ev
      · rw [viewOf_ends he] at h
        by_cases he' : Ends earlyDrop (started pre = true)
            (progress (chunks earlyDrop pre) = true) ev
        · rw [viewOf_ends he'] at h
          exact ⟨he.1.trans he'.1.symm, List.append_cancel_right (View.draining.inj h).2⟩
        · rw [viewOf_goes he'] at h
          cases h
      · rw [viewOf_goes he] at h
        by_cases he' : Ends earlyDrop (started pre = true)
            (progress (chunks earlyDrop pre) = true) ev
        · rw [viewOf_ends he'] at h
          cases h
        · rw [viewOf_goes he'] at h
          obtain ⟨hs, hc⟩ := View.looping.inj h
          exact ⟨hs, hc⟩
  · rintro ⟨hs, hc⟩
    unfold viewOf
    rw [hs, hc]

/-- Without the terminal the view is another one when the terminal ends the turn. -/
theorem viewOf_without_term {fs : List Json} :
    viewOf earlyDrop fs none = viewOf earlyDrop pre (some ev) ↔
      (started fs = started pre ∧ chunks earlyDrop fs = chunks earlyDrop pre) ∧
      ¬ Ends earlyDrop (started pre = true) (progress (chunks earlyDrop pre) = true) ev := by
  by_cases he : Ends earlyDrop (started pre = true) (progress (chunks earlyDrop pre) = true) ev
  · rw [viewOf_ends he]
    exact ⟨fun h => (nomatch h), fun h => absurd he h.2⟩
  · rw [viewOf_goes he]
    exact ⟨fun h => ⟨View.looping.inj h, he⟩, fun h => congrArg₂ View.looping h.1.1 h.1.2⟩

/-- The views agree when the start flags and the outputs do, and a terminal that is taken does not
end the turn. -/
theorem viewOf_kept : viewOf earlyDrop (kept k pre) (keptTerm k pre term) =
      viewOf earlyDrop pre term ↔
    (started (kept k pre) = started pre ∧
      chunks earlyDrop (kept k pre) = chunks earlyDrop pre) ∧
    ∀ ev ∈ term, pre.length < k → Peeled ev →
      ¬ Ends earlyDrop (started pre = true) (progress (chunks earlyDrop pre) = true) ev := by
  cases term with
  | none =>
    have hterm : keptTerm k pre none = none := by
      unfold keptTerm
      split_ifs <;> rfl
    rw [hterm, viewOf_inj]
    exact ⟨fun h => ⟨h, fun _ hev => nomatch hev⟩, fun h => h.1⟩
  | some ev =>
    by_cases hp : pre.length < k ∧ Peeled ev
    · have hterm : keptTerm k pre (some ev) = none := by
        unfold keptTerm
        rw [if_pos hp.1]
        refine if_neg ?_
        rw [Bool.not_eq_true, Bool.not_eq_false']
        exact hp.2
      rw [hterm, viewOf_without_term]
      refine and_congr_right fun _ => ⟨fun h e he _ _ => ?_, fun h => h ev rfl hp.1 hp.2⟩
      obtain rfl := Option.some.inj he
      exact h
    · have hterm : keptTerm k pre (some ev) = some ev := by
        unfold keptTerm
        by_cases hk : pre.length < k
        · rw [if_pos hk]
          refine if_pos ?_
          rw [Bool.not_eq_true', ← Bool.not_eq_true]
          exact fun h => hp ⟨hk, h⟩
        · exact if_neg hk
      rw [hterm, viewOf_inj]
      refine ⟨fun h => ⟨h, fun e he hk hpeel => ?_⟩, fun h => h.1⟩
      obtain rfl := Option.some.inj he
      exact absurd ⟨hk, hpeel⟩ hp

theorem unharmed_iff (h : ∀ ev ∈ pre, Body L T ev) : Unharmed earlyDrop pre term k ↔
    (started (kept k pre) = started pre ∧
      chunks earlyDrop (kept k pre) = chunks earlyDrop pre) ∧
    ∀ ev ∈ term, pre.length < k → Peeled ev →
      ¬ Ends earlyDrop (started pre = true) (progress (chunks earlyDrop pre) = true) ev := by
  have hstart : started (kept k pre) = started pre ↔
      ((∃ ev ∈ pre, IsRunning ev) → ∃ ev ∈ kept k pre, IsRunning ev) := by
    rw [Bool.eq_iff_iff, started_iff, started_iff]
    exact ⟨fun h => h.2, fun h => ⟨fun ⟨ev, hev, hrun⟩ => ⟨ev, mem_of_mem_kept hev, hrun⟩, h⟩⟩
  have hchunks : chunks earlyDrop (kept k pre) = chunks earlyDrop pre ↔
      ∀ ev ∈ pre.take k, Peeled ev → IsChunk ev → EarlyDropped earlyDrop ev := by
    rw [chunks_kept]
    refine forall₂_congr fun ev hev => imp_congr_right fun _ => ?_
    rw [← Bool.not_eq_true, keeps_iff (h ev (List.mem_of_mem_take hev)), not_and, not_not]
  rw [hstart, hchunks, started_iff, progress_chunks h]
  exact ⟨fun h => ⟨⟨h.running, h.chunks⟩, h.terminal⟩, fun h => ⟨h.1.2, h.1.1, h.2⟩⟩

/-- **Arrival time.** For the frames of a turn that was just sent, running statuses and chunks in
any order and then perhaps the terminal, the number of frames in the queue at the start makes no
difference to the answer if and only if the peel does no harm. -/
theorem arrival_time (earlyDrop : List Json → String → Json → Bool) (maxWait : Option ℕ)
    (S : DaemonSession) (T : String) (pre : List Json) (term : Option Json) (k : ℕ)
    (hpre : ∀ ev ∈ pre, Body S.loopId T ev)
    (hterm : ∀ ev ∈ term, OfTurn S.loopId T ev ∧ IsTerminal T ev) :
    SameAnswers earlyDrop maxWait S (pre ++ term.toList) k ↔ Unharmed earlyDrop pre term k := by
  have hkept : ∀ ev ∈ kept k pre, Body S.loopId T ev := fun ev hev => hpre ev (mem_of_mem_kept hev)
  have hkeptTerm : ∀ ev ∈ keptTerm k pre term, OfTurn S.loopId T ev ∧ IsTerminal T ev := by
    intro ev hev
    unfold keptTerm at hev
    split_ifs at hev
    · exact hterm ev (Option.mem_filter_iff.1 hev).1
    · exact hterm ev hev
  have hqueued : ∀ rest dropped, (iterTurnChunks earlyDrop maxWait S
      (((pre ++ term.toList).take k).map .frame)
      (((pre ++ term.toList).drop k).map .frame ++ rest) dropped).map TurnResult.answer =
        (viewOf earlyDrop (kept k pre) (keptTerm k pre term)).answer earlyDrop maxWait
          S.loopId T rest := by
    intro rest dropped
    unfold iterTurnChunks
    rw [peel_queued, kept_append_term]
    exact answer_view hkept hkeptTerm
  have hlate : ∀ rest dropped, (iterTurnChunks earlyDrop maxWait S []
      ((pre ++ term.toList).map .frame ++ rest) dropped).map TurnResult.answer =
        (viewOf earlyDrop pre term).answer earlyDrop maxWait S.loopId T rest :=
    fun _ _ => answer_view hpre hterm
  rw [unharmed_iff hpre, ← viewOf_kept]
  constructor
  · intro h
    by_cases hne : ∃ ev, OfTurn S.loopId T ev
    · obtain ⟨ev, hev⟩ := hne
      refine view_ext earlyDrop maxWait S.loopId hev.trimmed fun rest => ?_
      rw [← hqueued rest 0, ← hlate rest 0]
      exact h rest 0 0
    · have hnil : pre = [] := List.eq_nil_iff_forall_not_mem.2 fun ev hev => hne ⟨ev, (hpre ev hev).1⟩
      have hnone : term = none := Option.eq_none_iff_forall_not_mem.2 fun ev hev =>
        hne ⟨ev, (hterm ev hev).1⟩
      subst hnil hnone
      refine viewOf_kept.2 ⟨⟨?_, ?_⟩, fun _ hev => nomatch hev⟩ <;> simp [kept]
  · intro h rest dropped dropped'
    rw [hqueued, hlate, h]

/-! ## A turn -/

/-- A running status and an assistant chunk of `L:1`. -/
def turnBody : List Json :=
  [statusFrame "running" (some "L:1"),
    eventFrame "messages" "L:1" (.arr [.obj [("content", .str "hi")], .null])]

theorem body_turnBody : ∀ ev ∈ turnBody, Body "L" "L:1" ev :=
  List.forall_mem_cons.2 ⟨⟨⟨Or.inl rfl, by decide⟩, Or.inl ⟨rfl, rfl⟩⟩,
    List.forall_mem_singleton.2 ⟨⟨Or.inl rfl, by decide⟩, Or.inr ⟨rfl, by decide⟩⟩⟩

theorem terminal_turnBody : ∀ ev ∈ some (streamEndFrame "L:1"),
    OfTurn "L" "L:1" ev ∧ IsTerminal "L:1" ev := by
  intro ev hev
  obtain rfl := Option.some.inj hev
  exact ⟨⟨Or.inl rfl, by decide⟩, Or.inr ⟨rfl, by decide, by decide⟩⟩

theorem not_peeled_turnBody : ∀ ev ∈ turnBody, ¬ Peeled ev := by
  refine List.forall_mem_cons.2 ⟨?_, List.forall_mem_singleton.2 ?_⟩
  · unfold Peeled
    rw [statusFrame_label]
    decide
  · unfold Peeled
    rw [eventFrame_label (by decide)]
    decide

/-- With the terminal late, the queue can hold the rest of the turn. -/
theorem arrival_time_late : SameAnswers shouldDropStreamChunkEarly none { loopId := "L" }
    (turnBody ++ (some (streamEndFrame "L:1")).toList) 2 :=
  (arrival_time shouldDropStreamChunkEarly none { loopId := "L" } "L:1" turnBody
    (some (streamEndFrame "L:1")) 2 body_turnBody terminal_turnBody).2
  { chunks := fun ev hev hp => absurd hp (not_peeled_turnBody ev (List.mem_of_mem_take hev))
    running := fun _ => ⟨statusFrame "running" (some "L:1"), by
      unfold kept
      rw [List.filter_eq_self.2 fun ev hev => by
        rw [Bool.not_eq_true', ← Bool.not_eq_true]
        exact not_peeled_turnBody ev (List.mem_of_mem_take hev)]
      exact List.mem_cons_self, isRunning_statusFrame⟩
    terminal := fun _ _ hk => absurd hk (by decide) }

/-- With the terminal in the queue, the turn that would have ended goes on. -/
theorem arrival_time_fails : ¬ ∀ (earlyDrop : List Json → String → Json → Bool)
    (maxWait : Option ℕ) (S : DaemonSession) (T : String) (pre : List Json) (term : Option Json)
    (k : ℕ), (∀ ev ∈ pre, Body S.loopId T ev) →
    (∀ ev ∈ term, OfTurn S.loopId T ev ∧ IsTerminal T ev) →
    SameAnswers earlyDrop maxWait S (pre ++ term.toList) k := by
  intro h
  have hsame := h shouldDropStreamChunkEarly none { loopId := "L" } "L:1" turnBody
    (some (streamEndFrame "L:1")) 3 body_turnBody terminal_turnBody [.silence true] 0 0
  have hpeel : kept 3 (turnBody ++ (some (streamEndFrame "L:1")).toList) = turnBody := by
    show List.filter _ (turnBody ++ [streamEndFrame "L:1"]) ++ [] = turnBody
    rw [List.append_nil, List.filter_append, List.filter_eq_self.2 fun ev hev => by
        rw [Bool.not_eq_true', ← Bool.not_eq_true]
        exact not_peeled_turnBody ev hev]
    rw [List.filter_cons, streamEndFrame_label]
    rfl
  unfold iterTurnChunks at hsame
  rw [peel_queued, hpeel] at hsame
  cases hsame

end SootheClient.Session
