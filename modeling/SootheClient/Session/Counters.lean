import SootheClient.Session.Steps

/-!
# The counters of a turn

An event that the turn loop counts is kept, filtered or skipped, and the drain keeps or filters
it. So the counters account for every event, after every iteration and on return.
-/

namespace SootheClient.Session

open SootheClient.Frame

variable {earlyDrop : List Json → String → Json → Bool} {maxWait : Option ℕ} {L : String}
  {s s' : TurnLoop} {d d' : Drain} {st : TurnStats} {main drained : List TurnChunk}

/-- The counters account for the chunks of the main loop and of the drain. -/
structure Balanced (st : TurnStats) (main drained : List TurnChunk) : Prop where
  total : st.total = (main ++ drained).length + st.filteredEarly + st.skipped
  postIdleDrained : st.postIdleDrained = drained.length
  modes : st.messages + st.updates + st.custom ≤ st.total
  text : st.textChunks ≤ st.messages
  tools : st.toolCalls + st.toolResults ≤ (main ++ drained).length - st.postIdleDrained

/-- The counters of the main loop, as the session holds them. -/
def TurnLoop.counters (s : TurnLoop) : TurnStats := { toTurnEventStats := s.stats }

/-! ## One event -/

/-- An event counts once in the total and at most once among the modes. -/
theorem count_with (st : TurnEventStats) (mode : String) : ∃ m u c, m + u + c ≤ 1 ∧
    (mode = "messages" → m = 1) ∧ st.count mode =
      { st with
        total := st.total + 1
        messages := st.messages + m
        updates := st.updates + u
        custom := st.custom + c } := by
  unfold TurnEventStats.count
  by_cases hm : mode = "messages"
  · exact ⟨1, 0, 0, le_refl 1, fun _ => rfl, if_pos hm⟩
  by_cases hu : mode = "updates"
  · exact ⟨0, 1, 0, le_refl 1, fun h => absurd h hm, by rw [if_neg hm, if_pos hu]; rfl⟩
  by_cases hc : mode = "custom"
  · exact ⟨0, 0, 1, le_refl 1, fun h => absurd h hm, by rw [if_neg hm, if_neg hu, if_pos hc]; rfl⟩
  · exact ⟨0, 0, 0, Nat.zero_le 1, fun h => absurd h hm,
      by rw [if_neg hm, if_neg hu, if_neg hc]; rfl⟩

/-- A chunk counts at most once as a tool call or a tool result. -/
theorem countTool_with (st : TurnEventStats) (nsSlice : List Json) : ∃ a b, a + b ≤ 1 ∧
    st.countTool nsSlice =
      { st with toolCalls := st.toolCalls + a, toolResults := st.toolResults + b } := by
  unfold TurnEventStats.countTool
  simp only
  split_ifs
  · exact ⟨0, 1, le_refl 1, rfl⟩
  · exact ⟨1, 0, le_refl 1, rfl⟩
  · exact ⟨0, 0, Nat.zero_le 1, rfl⟩

/-- The statistics after a chunk that is kept: text counts in `messages` mode only. -/
theorem observeChunk_stats (s : TurnLoop) (nsSlice : List Json) (chunk : TurnChunk) : ∃ x a b,
    a + b ≤ 1 ∧ x ≤ 1 ∧ (x = 1 → chunk.mode = "messages") ∧
      (s.observeChunk nsSlice chunk).out = s.out ++ [chunk] ∧
      (s.observeChunk nsSlice chunk).stats =
        { s.stats with
          textChunks := s.stats.textChunks + x
          toolCalls := s.stats.toolCalls + a
          toolResults := s.stats.toolResults + b } := by
  unfold TurnLoop.observeChunk
  by_cases hp : isTurnProgressChunk chunk.mode chunk.data = true
  · rw [if_pos hp]
    by_cases hm : chunk.mode = "messages"
    · rw [if_pos hm]
      obtain ⟨a, b, hab, hst⟩ := countTool_with
        { s.stats with textChunks := s.stats.textChunks + 1 } nsSlice
      exact ⟨1, a, b, hab, le_refl 1, fun _ => hm, rfl, hst⟩
    · rw [if_neg hm]
      obtain ⟨a, b, hab, hst⟩ := countTool_with s.stats nsSlice
      exact ⟨0, a, b, hab, Nat.zero_le 1, fun h => absurd h (by decide), rfl, hst⟩
  · rw [if_neg hp]
    obtain ⟨a, b, hab, hst⟩ := countTool_with s.stats nsSlice
    exact ⟨0, a, b, hab, Nat.zero_le 1, fun h => absurd h (by decide), rfl, hst⟩

/-! ## The main loop -/

theorem balanced_start (S : DaemonSession) : Balanced S.start.counters S.start.out [] :=
  ⟨rfl, rfl, le_refl 0, le_refl 0, le_refl 0⟩

/-- An event that is filtered or skipped keeps the balance. -/
theorem Balanced.pass (h : Balanced st main drained) (mode : String) {f k : ℕ} (hfk : f + k = 1) :
    Balanced { st with toTurnEventStats :=
      { st.toTurnEventStats.count mode with
        filteredEarly := (st.toTurnEventStats.count mode).filteredEarly + f
        skipped := (st.toTurnEventStats.count mode).skipped + k } } main drained := by
  obtain ⟨m, u, c, hmuc, -, heq⟩ := count_with st.toTurnEventStats mode
  obtain ⟨htotal, hdrained, hmodes, htext, htools⟩ := h
  rw [heq]
  exact ⟨by simp only; omega, hdrained, by simp only; omega, by simp only; omega, htools⟩

/-- A chunk that the main loop keeps keeps the balance. -/
theorem Balanced.keep (h : Balanced s.counters s.out []) (nsSlice : List Json)
    (chunk : TurnChunk) :
    Balanced (({ s with stats := s.stats.count chunk.mode } : TurnLoop).observeChunk
        nsSlice chunk).counters
      (({ s with stats := s.stats.count chunk.mode } : TurnLoop).observeChunk nsSlice chunk).out
      [] := by
  obtain ⟨x, a, b, hab, hx, hxm, hout, hst⟩ := observeChunk_stats
    { s with stats := s.stats.count chunk.mode } nsSlice chunk
  obtain ⟨m, u, c, hmuc, hm, heq⟩ := count_with s.stats chunk.mode
  have htotal : s.stats.total = (s.out ++ []).length + s.stats.filteredEarly + s.stats.skipped :=
    h.total
  have hmodes : s.stats.messages + s.stats.updates + s.stats.custom ≤ s.stats.total := h.modes
  have htext : s.stats.textChunks ≤ s.stats.messages := h.text
  have htools : s.stats.toolCalls + s.stats.toolResults ≤ (s.out ++ []).length - 0 := h.tools
  unfold TurnLoop.counters
  rw [hout, hst, heq]
  have hxm' : x ≤ m := by
    by_cases hx1 : x = 1
    · rw [hx1, hm (hxm hx1)]
    · omega
  have hlen : ((s.out ++ [chunk]) ++ []).length = (s.out ++ []).length + 1 := by simp
  exact
    { total := by simp only [hlen]; omega
      postIdleDrained := rfl
      modes := by simp only; omega
      text := by simp only; omega
      tools := by simp only [hlen]; omega }

/-- An event leaves the main loop balanced. -/
theorem onEvent_balanced (h : Balanced s.counters s.out []) (frame : Json) (t : Option String) :
    (s.onEvent earlyDrop frame t).All (fun s' => Balanced s'.counters s'.out [])
      (fun p => Balanced p.2.counters p.2.out []) := by
  have hpass := fun f k hfk => h.pass (chunkOf frame).mode (f := f) (k := k) hfk
  have hkeep := h.keep (chunkOf frame).nsSlice (chunkOf frame)
  unfold TurnLoop.onEvent
  simp only
  split_ifs
  · exact hpass 1 0 rfl
  · exact hpass 0 1 rfl
  · exact hkeep
  · exact hkeep

/-- An iteration leaves the main loop balanced. -/
theorem mainStep_balanced (h : Balanced s.counters s.out []) (tick : Tick) :
    (mainStep earlyDrop maxWait s tick).All (fun s' => Balanced s'.counters s'.out [])
      (fun p => Balanced p.2.counters p.2.out []) := by
  cases tick with
  | deadline => cases maxWait <;> exact h
  | silence alive =>
    simp only [mainStep]
    split_ifs <;> exact h
  | frame ev =>
    have hframe : (s.onFrame earlyDrop ev).All (fun s' => Balanced s'.counters s'.out [])
        (fun p => Balanced p.2.counters p.2.out []) := by
      obtain hf | ⟨-, hf⟩ | ⟨-, -, -, hf⟩ | ⟨-, hf⟩ | ⟨-, -, -, hf⟩ :=
        onFrame_cases earlyDrop s ev
      · rw [hf]
        exact h
      · rw [hf]
        exact h
      · obtain ⟨l, hl⟩ := adoptLoopId_with s (inner ev)
        rw [hf, hl]
        rcases onStatus_cases { s with expectedLoopId := l } ((inner ev).getStrD "state")
          (frameTurnId (inner ev)) with ⟨-, hs⟩ | ⟨-, hs⟩ | ⟨-, -, -, hs⟩ | ⟨-, -, -, hs⟩
        · obtain ⟨e, p, hr⟩ := observeRunning_with { s with expectedLoopId := l }
            (frameTurnId (inner ev))
          rw [hs, hr]
          exact h
        all_goals
          rw [hs]
          exact h
      · obtain ⟨c, hc⟩ := onCommandResponse_with s (inner ev)
        rw [hf, hc]
        exact h
      · rw [hf]
        exact onEvent_balanced h (inner ev) (frameTurnId (inner ev))
    simp only [mainStep]
    cases hf : s.onFrame earlyDrop ev with
    | next s' =>
      rw [hf] at hframe
      exact hframe
    | stop p =>
      rw [hf] at hframe
      exact hframe

/-! ## The drain -/

/-- The drain has appended to `main`, and its counters are balanced. -/
def Drain.Balanced (main : List TurnChunk) (d : Drain) : Prop :=
  ∃ added, d.out = main ++ added ∧ Session.Balanced d.stats main added

/-- An event leaves the drain balanced: its chunk is filtered, or appended and counted. -/
theorem Drain.onEvent_balanced (h : d.Balanced main) (frame : Json) :
    (d.onEvent earlyDrop frame).Balanced main := by
  obtain ⟨added, hout, hb⟩ := h
  unfold Drain.onEvent
  simp only
  split_ifs
  · exact ⟨added, hout, hb.pass (chunkOf frame).mode (f := 1) (k := 0) rfl⟩
  · refine ⟨added ++ [chunkOf frame], by rw [hout, List.append_assoc], ?_⟩
    obtain ⟨m, u, c, hmuc, -, heq⟩ := count_with d.stats.toTurnEventStats (chunkOf frame).mode
    obtain ⟨htotal, hdrained, hmodes, htext, htools⟩ := hb
    rw [heq]
    have hlen : (main ++ (added ++ [chunkOf frame])).length = (main ++ added).length + 1 := by
      simp only [List.length_append, List.length_singleton]
      omega
    exact
      { total := by simp only [hlen]; omega
        postIdleDrained := by simp only [List.length_append, List.length_singleton]; omega
        modes := by simp only; omega
        text := by simp only; omega
        tools := by simp only [hlen]; omega }

/-- An iteration leaves the drain balanced. -/
theorem Drain.step_balanced (h : d.Balanced main) (tick : Tick) :
    (Drain.step earlyDrop L d tick).All (Drain.Balanced main) (Drain.Balanced main) := by
  cases tick with
  | deadline => exact h
  | silence alive => exact h
  | frame ev =>
    simp only [Drain.step, Drain.onFrame]
    split_ifs
    · exact h
    · exact h
    · unfold Drain.adoptLoopId
      cases (inner ev).getStr "loop_id" with
      | none => exact h
      | some lid =>
        simp only
        split_ifs <;> exact h
    · exact h
    · exact Drain.onEvent_balanced h (inner ev)

theorem drain_balanced (h : Balanced s.counters s.out []) : s.drain.Balanced s.out :=
  ⟨[], (List.append_nil s.out).symm, h⟩

/-! ## The whole turn -/

/-- The counters of the main loop balance when it is left. -/
theorem main_balanced {S : DaemonSession} {ticks rest : List Tick} {left : Leave × TurnLoop}
    (h : Scan.halt (mainStep earlyDrop maxWait) S.start ticks = some (left, rest)) :
    Balanced left.2.counters left.2.out [] :=
  Scan.halt_all (I := fun s => Balanced s.counters s.out [])
    (P := fun p : Leave × TurnLoop => Balanced p.2.counters p.2.out [])
    (fun _ tick _ hs => mainStep_balanced hs tick) (balanced_start S) h

/-- **The counters account for every event.** They balance after every iteration of the main loop
and of the drain, and in the session that the call leaves, where the output that is returned is
the chunks of the main loop with those of the drain. -/
theorem turn_stats_account (earlyDrop : List Json → String → Json → Bool) (maxWait : Option ℕ)
    (S : DaemonSession) :
    (∀ ticks s, Scan.reach (mainStep earlyDrop maxWait) S.start ticks = some s →
      Balanced s.counters s.out []) ∧
    (∀ ticks left s rest,
      Scan.halt (mainStep earlyDrop maxWait) S.start ticks = some ((left, s), rest) →
      Balanced s.counters s.out [] ∧
      (∀ seen d, Scan.reach (Drain.step earlyDrop s.expectedLoopId) s.drain seen = some d →
        ∃ added, d.out = s.out ++ added ∧ Balanced d.stats s.out added)) ∧
    ∀ queued late dropped r, iterTurnChunks earlyDrop maxWait S queued late dropped = some r →
      ∃ left s rest added,
        Scan.halt (mainStep earlyDrop maxWait) S.start (peel queued ++ late) =
          some ((left, s), rest) ∧
        Balanced r.session.turnEventStats s.out added ∧
        (r.result = .ok (s.out ++ added) ∨
          (∃ message, r.result = .error message) ∧ added = []) := by
  refine ⟨fun ticks s h => ?_, fun ticks left s rest h => ?_, fun queued late dropped r h => ?_⟩
  · refine Scan.reach_invariant (I := fun s => Balanced s.counters s.out [])
      (fun s tick _ hs s' hf => ?_) (balanced_start S) h
    have hall : (mainStep earlyDrop maxWait s tick).All _ _ := mainStep_balanced hs tick
    rw [hf] at hall
    exact hall
  · have hb : Balanced s.counters s.out [] := main_balanced h
    refine ⟨hb, fun seen d hd => ?_⟩
    refine Scan.reach_invariant (I := Drain.Balanced s.out) (fun d tick _ hs d' hf => ?_)
      (drain_balanced hb) hd
    have hall : (Drain.step earlyDrop s.expectedLoopId d tick).All _ _ :=
      Drain.step_balanced hs tick
    rw [hf] at hall
    exact hall
  · obtain ⟨⟨⟨left, s⟩, rest⟩, hhalt, hafter⟩ := Option.bind_eq_some_iff.1 h
    have hb : Balanced s.counters s.out [] := main_balanced hhalt
    have hmain : ∀ state message,
        Balanced (s.session state message dropped).turnEventStats s.out [] := fun _ _ =>
      ⟨hb.total, hb.postIdleDrained, hb.modes, hb.text, hb.tools⟩
    have herr : ∀ state message err, r = ⟨.error err, s.session state message dropped⟩ →
        ∃ left' s' rest' added,
          Scan.halt (mainStep earlyDrop maxWait) S.start (peel queued ++ late) =
            some ((left', s'), rest') ∧
          Balanced r.session.turnEventStats s'.out added ∧
          (r.result = .ok (s'.out ++ added) ∨
            (∃ message, r.result = .error message) ∧ added = []) := by
      rintro state message err rfl
      exact ⟨left, s, rest, [], hhalt, hmain state message, Or.inr ⟨⟨err, rfl⟩, rfl⟩⟩
    cases left with
    | timedOut message => exact herr _ _ _ (Option.some.inj hafter).symm
    | connectionLost => exact herr _ _ _ (Option.some.inj hafter).symm
    | exit e =>
      cases e with
      | failed message => exact herr _ _ _ (Option.some.inj hafter).symm
      | ended state =>
        obtain ⟨⟨d, left'⟩, hdrain, rfl⟩ := Option.map_eq_some_iff.1 hafter
        obtain ⟨added, hout, hd⟩ : d.Balanced s.out :=
          Scan.halt_all (I := Drain.Balanced s.out) (P := Drain.Balanced s.out)
            (fun _ tick _ hs => Drain.step_balanced hs tick) (drain_balanced hb) hdrain
        refine ⟨_, s, rest, added, hhalt, ?_, Or.inl (congrArg Except.ok hout)⟩
        exact ⟨hd.total, hd.postIdleDrained, hd.modes, hd.text, hd.tools⟩

/-- With a text chunk in the main loop, which a status ends, and one in the drain. -/
theorem turn_stats_account_drained :
    ∃ r, iterTurnChunks (fun _ _ _ => false) none { loopId := "L" } []
        [.frame (.obj [("type", .str "status"), ("state", .str "running")]),
          .frame (.obj [("type", .str "event"), ("mode", .str "messages"), ("data", .null)]),
          .frame (.obj [("type", .str "status"), ("state", .str "stopped")]),
          .frame (.obj [("type", .str "event"), ("mode", .str "updates")]), .deadline] 0 = some r ∧
      ∃ main added, r.result = .ok (main ++ added) ∧ r.session.turnEventStats.postIdleDrained = 1 ∧
        Balanced r.session.turnEventStats main added := by
  refine ⟨_, rfl, ?_⟩
  obtain ⟨left, s, rest, added, -, hb, hr⟩ :=
    (turn_stats_account (fun _ _ _ => false) none { loopId := "L" }).2.2 []
      [.frame (.obj [("type", .str "status"), ("state", .str "running")]),
        .frame (.obj [("type", .str "event"), ("mode", .str "messages"), ("data", .null)]),
        .frame (.obj [("type", .str "status"), ("state", .str "stopped")]),
        .frame (.obj [("type", .str "event"), ("mode", .str "updates")]), .deadline] 0 _ rfl
  rcases hr with hr | ⟨⟨message, hr⟩, -⟩
  · exact ⟨s.out, added, hr, rfl, hb⟩
  · cases hr

end SootheClient.Session
