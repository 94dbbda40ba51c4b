import SootheClient.Lib.Lts
import SootheClient.Frame.Namespace
import SootheClient.Session.Counters
import SootheClient.Session.Phases
import SootheClient.Turn.Encoding

/-!
# A turn and the encodings of namespaces

The turn loop gives the early filter and the tool counters the segments of a list and none of a
string. A turn is the same for both encodings exactly as far as neither makes a difference.
-/

namespace SootheClient.Session

open SootheClient.Frame

/-- The tick with the namespaces of its frame joined. -/
def Tick.dotted : Tick → Tick
  | .frame ev => .frame (Frame.dotted ev)
  | t => t

/-- A namespace that is a list of segments goes through the early filter like no segments. -/
def FilterAlike (earlyDrop : List Json → String → Json → Bool) (frame : Json) : Prop :=
  ∀ items, frame.get "namespace" = some (.arr items) → isSegmentList (.arr items) = true →
    earlyDrop items (chunkOf frame).mode (chunkOf frame).data =
      earlyDrop [] (chunkOf frame).mode (chunkOf frame).data

namespace TurnLoop

/-- The frame is an event that the main loop reads. -/
def Reads (s : TurnLoop) (ev : Json) : Prop :=
  (inner ev).getStrD "type" = "event" ∧ s.skipsLoop ((inner ev).getStrD "loop_id") = false ∧
    s.skipsTurn "event" "" (frameTurnId (inner ev)) = false

/-- The main loop keeps the chunk of an event it reads. -/
def Keeps (earlyDrop : List Json → String → Json → Bool) (s : TurnLoop) (frame : Json) : Prop :=
  (chunkOf frame).dropped earlyDrop = false ∧
    ((chunkOf frame).turnEnd && !isTurnTerminalAllowed s.expectedTurnId
      ((frameTurnId (chunkOf frame).data).or (frameTurnId frame)) s.queryStarted
      s.turnProgressSeen) = false

/-- Both encodings of the event's namespace are treated alike: the filter cannot tell them apart,
and a chunk that is kept is not counted by a list that names a tool. -/
def Alike (earlyDrop : List Json → String → Json → Bool) (s : TurnLoop) (frame : Json) : Prop :=
  FilterAlike earlyDrop frame ∧ (s.Keeps earlyDrop frame → ¬ ListNames frame "tool")

/-- The locals after the progress of a chunk, before it is counted. -/
def progress (s : TurnLoop) (mode : String) (data : Json) : TurnLoop :=
  if isTurnProgressChunk mode data then
    { s with
      turnProgressSeen := true
      stats :=
        if mode = "messages" then { s.stats with textChunks := s.stats.textChunks + 1 }
        else s.stats }
  else s

end TurnLoop

/-- The frame is an event that the drain of a loop reads. -/
def DrainReads (L : String) (ev : Json) : Prop :=
  ¬ otherLoop L (inner ev) ∧ (inner ev).getStrD "type" = "event"

/-- A tick is treated alike in a phase. -/
def TurnPhase.Alike (earlyDrop : List Json → String → Json → Bool) (p : TurnPhase)
    (tick : Tick) : Prop :=
  match p, tick with
  | .main s, .frame ev => s.Reads ev → s.Alike earlyDrop (inner ev)
  | .drain _ s _, .frame ev =>
    DrainReads s.expectedLoopId ev → FilterAlike earlyDrop (inner ev)
  | _, _ => True

variable {earlyDrop : List Json → String → Json → Bool} {maxWait : Option ℕ} {dropped : ℕ}
  {s : TurnLoop} {d : Drain} {ev v w : Json} {t : Option String} {items : List Json}

/-! ## Chunks -/

theorem joined_inner (ev : Json) : Joined (inner ev) (inner (Frame.dotted ev)) := by
  rw [← unwrapNext_eq_inner, ← unwrapNext_eq_inner]
  exact joined_unwrapNext ev

/-- A chunk is the same, or its namespace is a list of segments and becomes a string. -/
theorem chunkOf_joined (hj : Joined v w) :
    (chunkOf w = chunkOf v ∧
      ∀ items, v.get "namespace" = some (.arr items) → isSegmentList (.arr items) = false) ∨
    ∃ items, v.get "namespace" = some (.arr items) ∧ isSegmentList (.arr items) = true ∧
      (chunkOf v).nsSlice = items ∧ chunkOf w = { chunkOf v with ns := .str (joinDots items) } := by
  have hmode := hj.getStrD "mode" (by decide) (by decide)
  have hdata := hj.get "data" (by decide) (by decide)
  have hns := hj.ns
  unfold chunkOf
  rw [hmode, hdata, hns]
  cases h : v.get "namespace" with
  | none => exact Or.inl ⟨rfl, nofun⟩
  | some ns =>
    cases hlist : isSegmentList ns with
    | false =>
      left
      rw [Option.map_some, joinSegments_of_not hlist]
      exact ⟨rfl, fun items hitems => Option.some.inj hitems ▸ hlist⟩
    | true =>
      obtain ⟨items, rfl⟩ := isSegmentList_arr hlist
      right
      rw [Option.map_some, joinSegments_of_list hlist]
      exact ⟨items, rfl, hlist, rfl, rfl⟩

/-- The filter cannot tell the encodings apart exactly when its two answers are the same. -/
theorem filterAlike_iff (hj : Joined v w) : FilterAlike earlyDrop v ↔
    (chunkOf w).dropped earlyDrop = (chunkOf v).dropped earlyDrop := by
  obtain ⟨hsame, hnone⟩ | ⟨items, hns, hlist, hslice, hchunk⟩ := chunkOf_joined hj
  · rw [hsame]
    refine iff_of_true (fun items hns hlist => ?_) rfl
    cases (hnone items hns).symm.trans hlist
  · unfold TurnChunk.dropped
    rw [hchunk, hslice]
    constructor
    · exact fun h => (h items hns hlist).symm
    · intro h items' hns' _
      obtain rfl := Json.arr.inj (Option.some.inj (hns.symm.trans hns'))
      exact h.symm

theorem bare_chunkOf (hj : Joined v w) : (chunkOf w).bare = (chunkOf v).bare := by
  obtain ⟨hsame, -⟩ | ⟨items, -, -, -, hchunk⟩ := chunkOf_joined hj
  · rw [hsame]
  · rw [hchunk]
    rfl

/-- A list counts a tool exactly when it names one. -/
theorem countTool_eq_iff (st : TurnEventStats) (items : List Json) :
    st.countTool [] = st.countTool items ↔ Text.contains (joinDots items) "tool" = false := by
  have hnil : st.countTool [] = st := by
    unfold TurnEventStats.countTool
    exact if_neg (by decide)
  rw [hnil]
  unfold TurnEventStats.countTool
  simp only
  by_cases h : Text.contains (joinDots items) "tool" = true
  · refine iff_of_false ?_ (by rw [h]; decide)
    rw [if_pos (by exact h)]
    split_ifs
    · intro hc
      have := congrArg TurnEventStats.toolResults hc
      simp only at this
      omega
    · intro hc
      have := congrArg TurnEventStats.toolCalls hc
      simp only at this
      omega
  · refine iff_of_true ?_ (Bool.eq_false_iff.2 h)
    rw [if_neg (by exact h)]

/-- What counts alike is the same. -/
theorem eq_of_counted {a b : Bool} (h : (if a then 1 else 0) = if b then 1 else 0) : a = b := by
  cases a <;> cases b <;> first | rfl | cases h

/-! ## An event of the main loop -/

/-- The statistics after a step. -/
def stepStats : Step → TurnEventStats
  | .next s => s.stats
  | .stop (_, s) => s.stats

theorem observeChunk_progress (s : TurnLoop) (nsSlice : List Json) (chunk : TurnChunk) :
    s.observeChunk nsSlice chunk =
      { s.progress chunk.mode chunk.data with
        stats := (s.progress chunk.mode chunk.data).stats.countTool nsSlice
        out := (s.progress chunk.mode chunk.data).out ++ [chunk] } := rfl

/-- A chunk that is kept leaves the same locals behind when no tool is named. -/
theorem observeChunk_alike (chunk : TurnChunk) (ns : Json)
    (h : Text.contains (joinDots items) "tool" = false) :
    (s.observeChunk [] { chunk with ns := ns }).bare = (s.observeChunk items chunk).bare := by
  rw [observeChunk_progress, observeChunk_progress]
  simp only [TurnLoop.bare, List.map_append]
  rw [(countTool_eq_iff _ items).2 h]
  rfl

/-- An event that is treated alike leaves the same locals behind. -/
theorem onEvent_alike (hj : Joined v w) (h : s.Alike earlyDrop v)
    (ht : t = frameTurnId v) :
    bareStep (s.onEvent earlyDrop w t) = bareStep (s.onEvent earlyDrop v t) := by
  have hfilter := (filterAlike_iff hj).1 h.1
  obtain ⟨hsame, -⟩ | ⟨items, hns, hlist, hslice, hchunk⟩ := chunkOf_joined hj
  · rw [onEvent_eq, onEvent_eq, hsame]
  · rw [onEvent_eq, onEvent_eq, hfilter, hchunk]
    by_cases hdrop : (chunkOf v).dropped earlyDrop = true
    · rw [if_pos hdrop, if_pos hdrop]
    rw [if_neg hdrop, if_neg hdrop]
    by_cases hskip : ((chunkOf v).turnEnd && !isTurnTerminalAllowed s.expectedTurnId
        ((frameTurnId (chunkOf v).data).or t) s.queryStarted s.turnProgressSeen) = true
    · rw [if_pos hskip, if_pos (by exact hskip)]
    rw [if_neg hskip, if_neg (by exact hskip)]
    have htool : Text.contains (joinDots items) "tool" = false := by
      refine Bool.eq_false_iff.2 fun hc =>
        h.2 ⟨Bool.eq_false_iff.2 hdrop, ?_⟩ ⟨items, hns, hlist, hc⟩
      rw [← ht]
      exact Bool.eq_false_iff.2 hskip
    have hobs := observeChunk_alike (s := { s with stats := s.stats.count (chunkOf v).mode })
      (chunkOf v) (.str (joinDots items)) htool
    rw [hslice]
    by_cases hend : (chunkOf v).turnEnd = true
    · rw [if_pos hend, if_pos (by exact hend)]
      exact congrArg (fun s => Scan.Step.stop (_, s)) hobs
    · rw [if_neg hend, if_neg (by exact hend)]
      exact congrArg Scan.Step.next hobs

/-- The early filter shows in the counters. -/
theorem stepStats_filteredEarly (s : TurnLoop) (frame : Json) (t : Option String) :
    (stepStats (s.onEvent earlyDrop frame t)).filteredEarly =
      s.stats.filteredEarly + if (chunkOf frame).dropped earlyDrop then 1 else 0 := by
  have hcount : (s.stats.count (chunkOf frame).mode).filteredEarly = s.stats.filteredEarly := by
    obtain ⟨m, u, c, -, -, heq⟩ := count_with s.stats (chunkOf frame).mode
    rw [heq]
  have hobs : (({ s with stats := s.stats.count (chunkOf frame).mode } : TurnLoop).observeChunk
      (chunkOf frame).nsSlice (chunkOf frame)).stats.filteredEarly = s.stats.filteredEarly := by
    obtain ⟨x, a, b, -, -, -, -, hst⟩ := observeChunk_stats
      { s with stats := s.stats.count (chunkOf frame).mode } (chunkOf frame).nsSlice (chunkOf frame)
    rw [hst]
    exact hcount
  rw [onEvent_eq]
  by_cases hdrop : (chunkOf frame).dropped earlyDrop = true
  · rw [if_pos hdrop, if_pos hdrop]
    exact congrArg (· + 1) hcount
  rw [if_neg hdrop, if_neg hdrop]
  split_ifs
  · exact hcount
  · exact hobs
  · exact hobs

/-- The statistics after a chunk that is kept. -/
theorem stepStats_of_keeps (hk : s.Keeps earlyDrop v) :
    stepStats (s.onEvent earlyDrop v (frameTurnId v)) =
      (({ s with stats := s.stats.count (chunkOf v).mode } : TurnLoop).progress (chunkOf v).mode
        (chunkOf v).data).stats.countTool (chunkOf v).nsSlice := by
  rw [onEvent_eq, if_neg (by rw [hk.1]; decide), if_neg (by rw [hk.2]; decide)]
  split_ifs <;> rfl

/-- When the statistics agree after an event, it is treated alike. -/
theorem alike_of_stepStats (hj : Joined v w)
    (h : stepStats (s.onEvent earlyDrop w (frameTurnId v)) =
      stepStats (s.onEvent earlyDrop v (frameTurnId v))) : s.Alike earlyDrop v := by
  have hdropped : (chunkOf w).dropped earlyDrop = (chunkOf v).dropped earlyDrop := by
    have hf := congrArg TurnEventStats.filteredEarly h
    rw [stepStats_filteredEarly, stepStats_filteredEarly] at hf
    exact eq_of_counted (Nat.add_left_cancel hf)
  refine ⟨(filterAlike_iff hj).2 hdropped, ?_⟩
  rintro hk ⟨items', hns', hlist', htool⟩
  obtain ⟨-, hnone⟩ | ⟨items, hns, -, hslice, hchunk⟩ := chunkOf_joined hj
  · cases (hnone items' hns').symm.trans hlist'
  · obtain rfl := Json.arr.inj (Option.some.inj (hns.symm.trans hns'))
    have hkw : s.Keeps earlyDrop w := by
      refine ⟨hdropped.trans hk.1, ?_⟩
      rw [hchunk, hj.frameTurnId]
      exact hk.2
    rw [← hj.frameTurnId, stepStats_of_keeps hkw, hj.frameTurnId, stepStats_of_keeps hk, hchunk,
      hslice] at h
    exact absurd ((countTool_eq_iff _ items).1 h) (by rw [htool]; decide)

/-! ## A frame of the main loop -/

theorem adoptLoopId_joined (hj : Joined v w) : s.adoptLoopId w = s.adoptLoopId v := by
  unfold TurnLoop.adoptLoopId
  rw [hj.getStr _ (by decide) (by decide)]

theorem onCommandResponse_joined (hj : Joined v w) :
    s.onCommandResponse w = s.onCommandResponse v := by
  unfold TurnLoop.onCommandResponse
  rw [hj.getStrD _ (by decide) (by decide)]

theorem errorMessage_joined (hj : Joined v w) : errorMessage w = errorMessage v := by
  unfold errorMessage
  rw [hj.get "error" (by decide) (by decide), hj.getStr _ (by decide) (by decide)]

/-- A frame that is no event of the main loop is read alike. -/
theorem onFrame_dotted_of_not_reads (h : ¬ s.Reads ev) :
    s.onFrame earlyDrop (Frame.dotted ev) = s.onFrame earlyDrop ev := by
  have hj := joined_inner ev
  unfold TurnLoop.onFrame
  simp only
  rw [hj.getStrD "type" (by decide) (by decide),
    hj.getStrD "loop_id" (by decide) (by decide),
    hj.getStrD "state" (by decide) (by decide), hj.frameTurnId, errorMessage_joined hj,
    adoptLoopId_joined hj, onCommandResponse_joined hj]
  by_cases hloop : s.skipsLoop ((inner ev).getStrD "loop_id") = true
  · rw [if_pos hloop, if_pos hloop]
  rw [if_neg hloop, if_neg hloop]
  by_cases hev : (inner ev).getStrD "type" = "event"
  · have hturn : s.skipsTurn "event" "" (frameTurnId (inner ev)) = true := by
      by_contra hc
      exact h ⟨hev, Bool.eq_false_iff.2 hloop, Bool.eq_false_iff.2 hc⟩
    rw [hev, if_neg (by decide : ¬ "event" = "status"), if_pos hturn, if_pos hturn]
  · rw [if_pos hev, if_pos hev]

/-- An event that is read goes to its handler, in both encodings. -/
theorem onFrame_dotted_of_reads (h : s.Reads ev) :
    s.onFrame earlyDrop (Frame.dotted ev) =
      s.onEvent earlyDrop (inner (Frame.dotted ev)) (frameTurnId (inner ev)) := by
  have hj := joined_inner ev
  rw [← hj.frameTurnId]
  refine onFrame_event ?_ ?_ ?_
  · rw [hj.getStrD _ (by decide) (by decide)]
    exact h.1
  · rw [hj.getStrD _ (by decide) (by decide)]
    exact h.2.1
  · rw [hj.frameTurnId]
    exact h.2.2

theorem onFrame_of_reads (h : s.Reads ev) :
    s.onFrame earlyDrop ev = s.onEvent earlyDrop (inner ev) (frameTurnId (inner ev)) :=
  onFrame_event h.1 h.2.1 h.2.2

/-! ## A tick -/

variable {p p' : TurnPhase} {tick : Tick}

/-- The counters after an event of the main loop. -/
theorem next_stats (frame : Json) (hf : s.onFrame earlyDrop ev = s.onEvent earlyDrop frame t) :
    ((TurnPhase.main s).next earlyDrop maxWait dropped (.frame ev)).stats =
      { toTurnEventStats := stepStats (s.onEvent earlyDrop frame t) } := by
  unfold TurnPhase.next
  simp only [mainStep, hf]
  obtain ⟨st, ⟨-, hs⟩ | ⟨-, -, hs⟩ | ⟨-, -, -, hs⟩⟩ := onEvent_cases earlyDrop s frame t
  · rw [hs]
    rfl
  · rw [hs]
    rfl
  · rw [hs]
    rfl

/-- The next phase goes by the step, up to namespaces. -/
theorem next_of_bareStep {ev' : Json}
    (h : bareStep (s.onFrame earlyDrop ev') = bareStep (s.onFrame earlyDrop ev)) :
    ((TurnPhase.main s).next earlyDrop maxWait dropped (.frame ev')).bare =
      ((TurnPhase.main s).next earlyDrop maxWait dropped (.frame ev)).bare := by
  have h := Scan.Step.rel_of_map_eq h
  unfold TurnPhase.next
  simp only [mainStep]
  generalize s.onFrame earlyDrop ev' = x, s.onFrame earlyDrop ev = y at h ⊢
  cases h with
  | next hs => exact congrArg TurnPhase.main hs
  | stop hs =>
    obtain ⟨he, hs⟩ := Prod.mk.inj hs
    exact bare_leave (Prod.ext (congrArg Leave.exit he) hs)

theorem bare_stats : p.bare.stats = p.stats := by
  cases p <;> rfl

/-- An event of the main loop that is treated alike. -/
theorem main_next_of_alike (h : s.Reads ev → s.Alike earlyDrop (inner ev)) :
    ((TurnPhase.main s).next earlyDrop maxWait dropped (.frame (Frame.dotted ev))).bare =
      ((TurnPhase.main s).next earlyDrop maxWait dropped (.frame ev)).bare := by
  by_cases hreads : s.Reads ev
  · refine next_of_bareStep ?_
    rw [onFrame_dotted_of_reads hreads, onFrame_of_reads hreads]
    exact onEvent_alike (joined_inner ev) (h hreads) rfl
  · refine next_of_bareStep ?_
    rw [onFrame_dotted_of_not_reads hreads]

/-- The counters show how it is treated. -/
theorem main_alike_of_stats
    (h : ((TurnPhase.main s).next earlyDrop maxWait dropped (.frame (Frame.dotted ev))).stats =
      ((TurnPhase.main s).next earlyDrop maxWait dropped (.frame ev)).stats)
    (hreads : s.Reads ev) : s.Alike earlyDrop (inner ev) := by
  rw [next_stats _ (onFrame_dotted_of_reads hreads), next_stats _ (onFrame_of_reads hreads)] at h
  exact alike_of_stepStats (joined_inner ev) (congrArg TurnStats.toTurnEventStats h)

/-! ## The drain -/

variable {L : String} {endState : String}

theorem drain_onFrame_of_reads (h : DrainReads L ev) :
    d.onFrame earlyDrop L ev = .next (d.onEvent earlyDrop (inner ev)) := by
  unfold Drain.onFrame
  simp only
  rw [if_neg (by exact h.1), h.2, if_neg (by decide), if_neg (by decide),
    if_neg fun hc => hc rfl]

theorem otherLoop_joined (hj : Joined v w) : otherLoop L w ↔ otherLoop L v := by
  unfold otherLoop
  rw [hj.getStrD _ (by decide) (by decide)]

theorem drainReads_dotted : DrainReads L (Frame.dotted ev) ↔ DrainReads L ev := by
  unfold DrainReads
  rw [otherLoop_joined (joined_inner ev), (joined_inner ev).getStrD _ (by decide) (by decide)]

/-- A frame that is no event of the drain is read alike. -/
theorem drain_onFrame_dotted_of_not_reads (h : ¬ DrainReads L ev) :
    d.onFrame earlyDrop L (Frame.dotted ev) = d.onFrame earlyDrop L ev := by
  have hj := joined_inner ev
  have hadopt : d.adoptLoopId (inner (Frame.dotted ev)) = d.adoptLoopId (inner ev) := by
    unfold Drain.adoptLoopId
    rw [hj.getStr _ (by decide) (by decide)]
  unfold Drain.onFrame
  simp only
  rw [hj.getStrD "type" (by decide) (by decide),
    hj.getStrD "loop_id" (by decide) (by decide), hadopt]
  by_cases hloop : otherLoop L (inner ev)
  · rw [if_pos (by exact hloop), if_pos (by exact hloop)]
  · have hev : (inner ev).getStrD "type" ≠ "event" := fun hev => h ⟨hloop, hev⟩
    rw [if_pos hev, if_pos hev]

theorem drain_filteredEarly (d : Drain) (frame : Json) :
    (d.onEvent earlyDrop frame).stats.filteredEarly =
      d.stats.filteredEarly + if (chunkOf frame).dropped earlyDrop then 1 else 0 := by
  obtain ⟨m, u, c, -, -, heq⟩ := count_with d.stats.toTurnEventStats (chunkOf frame).mode
  unfold Drain.onEvent
  simp only
  rw [heq]
  by_cases hdrop : (chunkOf frame).dropped earlyDrop = true
  · rw [if_pos (by exact hdrop), if_pos hdrop]
  · rw [if_neg (by exact hdrop), if_neg hdrop]
    rfl

/-- An event of the drain that the filter sees alike. -/
theorem drain_onEvent_alike (hj : Joined v w) (h : FilterAlike earlyDrop v) :
    (d.onEvent earlyDrop w).bare = (d.onEvent earlyDrop v).bare := by
  have hbare := bare_chunkOf hj
  have hmode : (chunkOf w).mode = (chunkOf v).mode :=
    (TurnChunk.mk.inj hbare).2.1
  have hdrop := (filterAlike_iff hj).1 h
  unfold TurnChunk.dropped at hdrop
  unfold Drain.onEvent
  simp only
  rw [hdrop, hmode]
  split_ifs
  · rfl
  · simp only [Drain.bare, List.map_append, List.map_cons, List.map_nil, hbare]

theorem drain_next_of_alike
    (h : DrainReads s.expectedLoopId ev → FilterAlike earlyDrop (inner ev)) :
    ((TurnPhase.drain endState s d).next earlyDrop maxWait dropped
        (.frame (Frame.dotted ev))).bare =
      ((TurnPhase.drain endState s d).next earlyDrop maxWait dropped (.frame ev)).bare := by
  unfold TurnPhase.next
  simp only [Drain.step]
  by_cases hreads : DrainReads s.expectedLoopId ev
  · rw [drain_onFrame_of_reads hreads, drain_onFrame_of_reads (drainReads_dotted.2 hreads)]
    exact congrArg (TurnPhase.drain endState s.bare)
      (drain_onEvent_alike (joined_inner ev) (h hreads))
  · rw [drain_onFrame_dotted_of_not_reads hreads]

/-- The counters show what the filter sees. -/
theorem drain_alike_of_stats
    (h : ((TurnPhase.drain endState s d).next earlyDrop maxWait dropped
        (.frame (Frame.dotted ev))).stats =
      ((TurnPhase.drain endState s d).next earlyDrop maxWait dropped (.frame ev)).stats)
    (hreads : DrainReads s.expectedLoopId ev) : FilterAlike earlyDrop (inner ev) := by
  unfold TurnPhase.next at h
  simp only [Drain.step] at h
  rw [drain_onFrame_of_reads hreads, drain_onFrame_of_reads (drainReads_dotted.2 hreads)] at h
  have hcount : (d.onEvent earlyDrop (inner (Frame.dotted ev))).stats.filteredEarly =
      (d.onEvent earlyDrop (inner ev)).stats.filteredEarly :=
    congrArg (fun st : TurnStats => st.filteredEarly) h
  rw [drain_filteredEarly, drain_filteredEarly] at hcount
  exact (filterAlike_iff (joined_inner ev)).2 (eq_of_counted (Nat.add_left_cancel hcount))

/-! ## A tick in any phase -/

/-- **One tick.** Phases that agree up to namespaces go on to such phases when the tick is treated
alike. -/
theorem next_dotted_of_alike (h : p'.bare = p.bare) (ha : p.Alike earlyDrop tick) :
    (p'.next earlyDrop maxWait dropped tick.dotted).bare =
      (p.next earlyDrop maxWait dropped tick).bare := by
  rw [next_congr h]
  cases tick with
  | deadline => rfl
  | silence alive => rfl
  | frame ev =>
    cases p with
    | done r => rfl
    | main s => exact main_next_of_alike ha
    | drain endState s d => exact drain_next_of_alike ha

/-- When the counters agree after a tick, it was treated alike. -/
theorem alike_of_next_stats (h : p'.bare = p.bare)
    (hs : (p'.next earlyDrop maxWait dropped tick.dotted).stats =
      (p.next earlyDrop maxWait dropped tick).stats) : p.Alike earlyDrop tick := by
  rw [← bare_stats, next_congr h, bare_stats] at hs
  cases tick with
  | deadline => cases p <;> trivial
  | silence alive => cases p <;> trivial
  | frame ev =>
    cases p with
    | done r => trivial
    | main s => exact main_alike_of_stats hs
    | drain endState s d => exact drain_alike_of_stats hs

/-! ## A sequence of frames -/

/-- The frames that the ticks read. -/
def framesOf (ticks : List Tick) : List Json :=
  ticks.filterMap fun
    | .frame ev => some ev
    | _ => none

/-- The router sees the heartbeat in the string and not in the list. -/
def HeartbeatList (frame : Json) : Prop :=
  frame.getStr "type" ≠ some "ping" ∧ frame.getStr "type" ≠ some "pong" ∧
    ListNames frame "heartbeat"

/-- The encoding of the namespaces does not matter: not for the counters of the session after any
number of iterations, nor for what the call returns, the namespaces of chunks aside, nor for the
classifier or the heartbeat tracker. -/
structure EncodingFree (earlyDrop : List Json → String → Json → Bool) (maxWait : Option ℕ)
    (S : DaemonSession) (queued late : List Tick) (dropped : ℕ) : Prop where
  stats : ∀ n, ((TurnPhase.main S.start).run earlyDrop maxWait dropped
      ((peel (queued.map Tick.dotted) ++ late.map Tick.dotted).take n)).stats =
    ((TurnPhase.main S.start).run earlyDrop maxWait dropped ((peel queued ++ late).take n)).stats
  result : (iterTurnChunks earlyDrop maxWait S (queued.map Tick.dotted) (late.map Tick.dotted)
      dropped).map TurnResult.bare =
    (iterTurnChunks earlyDrop maxWait S queued late dropped).map TurnResult.bare
  classifier : ∀ (fromStr : String → Option Json.Members) (cl : Turn.EventClassifier)
    (gate : Option Turn.TurnLifecycleGate) (texts : List String),
    cl.classifyTurns fromStr gate
        (((framesOf (queued ++ late)).map Frame.dotted).zip texts) =
      cl.classifyTurns fromStr gate ((framesOf (queued ++ late)).zip texts)
  heartbeat : ∀ frame ∈ framesOf (queued ++ late),
    feedsHeartbeat (Frame.dotted frame) = feedsHeartbeat frame

variable {S : DaemonSession} {queued late ticks : List Tick}

theorem stale_dotted (tick : Tick) : tick.dotted.stale = tick.stale := by
  cases tick with
  | frame ev => exact congrArg Option.isSome (stalePendingFrameLabel_dotted ev)
  | deadline => rfl
  | silence alive => rfl

theorem peel_dotted : peel (ticks.map Tick.dotted) = (peel ticks).map Tick.dotted := by
  unfold peel
  rw [List.filter_map]
  congr 2
  funext tick
  exact congrArg Bool.not (stale_dotted tick)

theorem bare_result {p : TurnPhase} : p.bare.result = p.result.map TurnResult.bare := by
  cases p <;> rfl

/-- What the call returns, by the phase it ends in. -/
theorem iterTurnChunks_eq_run : iterTurnChunks earlyDrop maxWait S queued late dropped =
    ((TurnPhase.main S.start).run earlyDrop maxWait dropped (peel queued ++ late)).result :=
  run_main_result.symm

/-- The default filter does not look at the namespace. -/
theorem filterAlike_default (frame : Json) : FilterAlike shouldDropStreamChunkEarly frame :=
  fun _ _ _ => rfl

/-- **Namespace encodings.** The encoding does not matter exactly when every tick is treated alike
in the phase it comes in, and no frame that is routed names the heartbeat in a list. -/
theorem namespace_encoding (earlyDrop : List Json → String → Json → Bool) (maxWait : Option ℕ)
    (S : DaemonSession) (queued late : List Tick) (dropped : ℕ) :
    EncodingFree earlyDrop maxWait S queued late dropped ↔
      Lts.Guarded (fun p tick => some (TurnPhase.next earlyDrop maxWait dropped p tick))
          (TurnPhase.Alike earlyDrop) (.main S.start) (peel queued ++ late) ∧
        ∀ frame ∈ framesOf (queued ++ late), ¬ HeartbeatList frame := by
  have hticks : peel (queued.map Tick.dotted) ++ late.map Tick.dotted =
      (peel queued ++ late).map Tick.dotted := by
    rw [peel_dotted, List.map_append]
  constructor
  · intro h
    refine ⟨Lts.guarded_of_observed (v := Tick.dotted) (e := TurnPhase.bare) (o := TurnPhase.stats)
      (fun p p' tick => next_dotted_of_alike) (fun p p' tick => alike_of_next_stats) rfl
      fun n => ?_, fun frame hframe => feedsHeartbeat_dotted_iff.1 (h.heartbeat frame hframe)⟩
    rw [← hticks]
    exact h.stats n
  · rintro ⟨hG, hheart⟩
    have hturn := Lts.agree_of_guarded (v := Tick.dotted) (e := TurnPhase.bare)
      (fun p p' tick => next_dotted_of_alike) rfl hG
    exact
      { stats := by
          intro n
          have hn := congrArg TurnPhase.stats (hturn n)
          rw [bare_stats, bare_stats, ← hticks] at hn
          exact hn
        result := by
          have hall := hturn (peel queued ++ late).length
          rw [List.take_length, List.take_of_length_le (List.length_map _).le] at hall
          rw [iterTurnChunks_eq_run, iterTurnChunks_eq_run, ← bare_result, ← bare_result, hticks]
          exact congrArg TurnPhase.result hall
        classifier := by
          intro fromStr cl gate texts
          rw [List.zip_map_left]
          exact Turn.classifyTurns_dotted _
        heartbeat := fun frame hframe => feedsHeartbeat_dotted_iff.2 (hheart frame hframe) }

/-- An event of a tool, its namespace in a list. -/
def toolEvent : Json :=
  .obj [("type", .str "event"), ("loop_id", .str "L"), ("mode", .str "custom"),
    ("namespace", .arr [.str "soothe", .str "tool"]), ("data", .obj [])]

/-- A tool call that a list names is not counted from the string. -/
theorem namespace_encoding_fails :
    ¬ ∀ (earlyDrop : List Json → String → Json → Bool) (maxWait : Option ℕ) (S : DaemonSession)
      (queued late : List Tick) (dropped : ℕ),
      EncodingFree earlyDrop maxWait S queued late dropped := by
  intro h
  have hstats :=
    (h shouldDropStreamChunkEarly none { loopId := "L" } [] [.frame toolEvent] 0).stats 1
  have hcalls := congrArg (fun st => st.toolCalls) hstats
  revert hcalls
  decide

end SootheClient.Session
