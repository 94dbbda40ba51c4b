import SootheClient.Frame.Bare
import SootheClient.Session.Steps

/-!
# Isolation of the returned chunks

Every returned chunk is the chunk of an event frame that was read, in the main loop or in the
drain. The main loop takes event frames of the bound turn only; the drain looks at the loop id and
not at the turn id.
-/

namespace SootheClient.Session

open SootheClient.Frame

/-- The frame a chunk came from, and the turn id that was bound when it was appended. -/
structure Source where
  frame : Json
  bound : Option String

/-- The chunk that the frame carries. -/
def Source.chunk (c : Source) : TurnChunk := chunkOf (inner c.frame)

/-- The frame carries no turn id, or that of `T`. -/
def Source.OfTurn (T : String) (c : Source) : Prop :=
  ∀ t, frameTurnId (inner c.frame) = some t → t = T

/-- The source of what an iteration appended, if the output grew. -/
def sourceOf (t : Tick) (bound : Option String) (before after : List TurnChunk) : List Source :=
  match t with
  | .frame ev => if before.length < after.length then [⟨ev, bound⟩] else []
  | _ => []

variable (earlyDrop : List Json → String → Json → Bool) (maxWait : Option ℕ)

/-- What an iteration of the main loop appends. -/
def mainSource (s : TurnLoop) (t : Tick) : List Source :=
  match mainStep earlyDrop maxWait s t with
  | .next s' => sourceOf t s'.expectedTurnId s.out s'.out
  | .stop left => sourceOf t left.2.expectedTurnId s.out left.2.out

/-- What an iteration of the drain appends, with `bound` the binding at the end of the main loop. -/
def drainSource (loopId : String) (bound : Option String) (d : Drain) (t : Tick) : List Source :=
  match Drain.step earlyDrop loopId d t with
  | .next d' => sourceOf t bound d.out d'.out
  | .stop d' => sourceOf t bound d.out d'.out

/-- The sources of the output of a turn whose main loop is left with `s`, before `rest`. -/
def sources (start s : TurnLoop) (ticks rest : List Tick) : List Source :=
  Scan.log (mainStep earlyDrop maxWait) (mainSource earlyDrop maxWait) start ticks ++
    Scan.log (Drain.step earlyDrop s.expectedLoopId)
      (drainSource earlyDrop s.expectedLoopId s.expectedTurnId) s.drain rest

/-- A chunk that the drain appends on this tick comes from a frame without a turn id or of `T`. -/
def DrainsOwn (loopId T : String) (t : Tick) : Prop :=
  match t with
  | .frame ev => Drained earlyDrop loopId (inner ev) → ∀ u, frameTurnId (inner ev) = some u → u = T
  | _ => True

variable {earlyDrop maxWait}
variable {L T : String} {s s' : TurnLoop} {d : Drain} {t : Tick} {ev frame : Json}
  {ticks rest : List Tick} {bound : Option String} {chunk : TurnChunk} {out : List TurnChunk}

theorem sourceOf_same : sourceOf t bound out out = [] := by
  cases t with
  | deadline | silence alive => rfl
  | frame ev => exact if_neg (Nat.lt_irrefl _)

theorem sourceOf_concat :
    sourceOf (.frame ev) bound out (out ++ [chunk]) = [⟨ev, bound⟩] :=
  if_pos (by rw [List.length_append]; exact Nat.lt_succ_self _)

/-! ## The main loop -/

/-- An iteration of the main loop leaves the output alone, or appends the chunk of an event frame
that is of the bound turn, under the same binding. -/
theorem mainStep_out (earlyDrop : List Json → String → Json → Bool) (maxWait : Option ℕ)
    (s : TurnLoop) (t : Tick) :
    ((mainStep earlyDrop maxWait s t).All (fun s' => s'.out = s.out) fun p => p.2.out = s.out) ∨
    ∃ ev, t = .frame ev ∧ s.skipsTurn "event" "" (frameTurnId (inner ev)) = false ∧
      (mainStep earlyDrop maxWait s t).All
        (fun s' => s'.out = s.out ++ [chunkOf (inner ev)] ∧ s'.expectedTurnId = s.expectedTurnId)
        fun p => p.2.out = s.out ++ [chunkOf (inner ev)] ∧ p.2.expectedTurnId = s.expectedTurnId := by
  cases t with
  | deadline => exact Or.inl (by cases maxWait <;> rfl)
  | silence alive =>
    left
    simp only [mainStep]
    split_ifs <;> rfl
  | frame ev =>
    cases hf : s.onFrame earlyDrop ev with
    | next s' =>
      rw [mainStep_next hf]
      obtain ⟨l, c, st, rfl⟩ | ⟨-, -, -, l, rfl⟩ | ⟨-, -, hturn, -, -, st, rfl⟩ := onFrame_next hf
      · exact Or.inl rfl
      · left
        obtain ⟨e, p, hrun⟩ := observeRunning_with { s with expectedLoopId := l }
          (frameTurnId (inner ev))
        rw [hrun]
        rfl
      · exact Or.inr ⟨ev, rfl, hturn, rfl, rfl⟩
    | stop p =>
      obtain ⟨e, s'⟩ := p
      rw [mainStep_stop hf]
      obtain ⟨-, rfl⟩ | ⟨-, ⟨l, rfl⟩, -⟩ | ⟨-, hturn, -, -, -, -, st, rfl⟩ := onFrame_stop hf
      · exact Or.inl rfl
      · exact Or.inl rfl
      · exact Or.inr ⟨ev, rfl, hturn, rfl, rfl⟩

/-- So an iteration has no source, or that frame under that binding. -/
theorem mainSource_cases (earlyDrop : List Json → String → Json → Bool) (maxWait : Option ℕ)
    (s : TurnLoop) (t : Tick) :
    (mainSource earlyDrop maxWait s t = [] ∧
      (mainStep earlyDrop maxWait s t).All (fun s' => s'.out = s.out) fun p => p.2.out = s.out) ∨
    ∃ ev, s.skipsTurn "event" "" (frameTurnId (inner ev)) = false ∧
      mainSource earlyDrop maxWait s t = [⟨ev, s.expectedTurnId⟩] ∧
      (mainStep earlyDrop maxWait s t).All (fun s' => s'.out = s.out ++ [chunkOf (inner ev)])
        fun p => p.2.out = s.out ++ [chunkOf (inner ev)] := by
  unfold mainSource
  rcases mainStep_out earlyDrop maxWait s t with
    h | ⟨ev, rfl, hturn, h⟩
  · left
    cases hstep : mainStep earlyDrop maxWait s t with
    | next s' =>
      rw [hstep] at h
      have h : s'.out = s.out := h
      simp only [h]
      exact ⟨sourceOf_same, h⟩
    | stop p =>
      rw [hstep] at h
      have h : p.2.out = s.out := h
      simp only [h]
      exact ⟨sourceOf_same, h⟩
  · refine Or.inr ⟨ev, hturn, ?_⟩
    cases hstep : mainStep earlyDrop maxWait s (.frame ev) with
    | next s' =>
      rw [hstep] at h
      obtain ⟨hout, hbound⟩ := h
      simp only [hout, hbound]
      exact ⟨sourceOf_concat, hout⟩
    | stop p =>
      rw [hstep] at h
      obtain ⟨hout, hbound⟩ := h
      simp only [hout, hbound]
      exact ⟨sourceOf_concat, hout⟩

theorem mainStep_source : (mainStep earlyDrop maxWait s t).All
    (fun s' => s'.out = s.out ++ (mainSource earlyDrop maxWait s t).map Source.chunk)
    fun p => p.2.out = s.out ++ (mainSource earlyDrop maxWait s t).map Source.chunk := by
  rcases mainSource_cases earlyDrop maxWait s t with
    ⟨hsrc, h⟩ | ⟨ev, -, hsrc, h⟩
  · rw [hsrc, List.map_nil, List.append_nil]
    exact h
  · rw [hsrc]
    exact h

/-- What the main loop appends is of the bound turn. -/
theorem mainSource_ofTurn (hs : Trimmed s.expectedTurnId) {c : Source}
    (hc : c ∈ mainSource earlyDrop maxWait s t) (hT : c.bound = some T) : c.OfTurn T := by
  rcases mainSource_cases earlyDrop maxWait s t with
    ⟨hsrc, -⟩ | ⟨ev, hturn, hsrc, -⟩
  · rw [hsrc] at hc
    cases hc
  · rw [hsrc] at hc
    obtain rfl := List.mem_singleton.1 hc
    have hT : s.expectedTurnId = some T := hT
    rw [skipsTurn_event, hT, Option.isSome_some, Bool.true_and, Bool.not_eq_false'] at hturn
    obtain ⟨u, hu, hev⟩ := (turnIdsMatch_iff (hT ▸ hs) (trimmed_frameTurnId _)).1 hturn
    intro t ht
    exact Option.some.inj (ht.symm.trans (hev.trans hu.symm))

/-! ## The drain -/

/-- An iteration of the drain leaves the output alone, or appends the chunk of the frame. -/
theorem drainSource_cases (earlyDrop : List Json → String → Json → Bool) (L : String)
    (bound : Option String) (d : Drain) (t : Tick) :
    ((∀ ev, t = .frame ev → ¬ Drained earlyDrop L (inner ev)) ∧
      drainSource earlyDrop L bound d t = [] ∧
      (Drain.step earlyDrop L d t).All (fun d' => d'.out = d.out) fun d' => d'.out = d.out) ∨
    ∃ ev, t = .frame ev ∧ Drained earlyDrop L (inner ev) ∧
      drainSource earlyDrop L bound d t = [⟨ev, bound⟩] ∧
      (Drain.step earlyDrop L d t).All (fun d' => d'.out = d.out ++ [chunkOf (inner ev)])
        fun d' => d'.out = d.out ++ [chunkOf (inner ev)] := by
  cases t with
  | deadline | silence alive => exact Or.inl ⟨fun _ h => (nomatch h), rfl, rfl⟩
  | frame ev =>
    unfold drainSource
    simp only [Drain.step]
    rcases drain_onFrame_cases earlyDrop L d ev with
      ⟨hd, st, h⟩ | ⟨hd, ⟨-, h⟩ | ⟨l, st, h⟩⟩
    · rw [h]
      exact Or.inr ⟨ev, rfl, hd, sourceOf_concat, rfl⟩
    · rw [h]
      exact Or.inl ⟨fun _ he => Tick.frame.inj he ▸ hd, sourceOf_same, rfl⟩
    · rw [h]
      exact Or.inl ⟨fun _ he => Tick.frame.inj he ▸ hd, sourceOf_same, rfl⟩

theorem drain_source (bound : Option String) : (Drain.step earlyDrop L d t).All
    (fun d' => d'.out = d.out ++ (drainSource earlyDrop L bound d t).map Source.chunk)
    fun d' => d'.out = d.out ++ (drainSource earlyDrop L bound d t).map Source.chunk := by
  rcases drainSource_cases earlyDrop L bound d t with
    ⟨-, hsrc, h⟩ | ⟨ev, -, -, hsrc, h⟩
  · rw [hsrc, List.map_nil, List.append_nil]
    exact h
  · rw [hsrc]
    exact h

/-- The drain appends chunks of the bound turn exactly where it drains its own. -/
theorem drainSource_ofTurn : (∀ c ∈ drainSource earlyDrop L (some T) d t, c.bound = some T →
    c.OfTurn T) ↔ DrainsOwn earlyDrop L T t := by
  rcases drainSource_cases earlyDrop L (some T) d t with ⟨hd, hsrc, -⟩ | ⟨ev, rfl, hd, hsrc, -⟩
  · rw [hsrc]
    refine ⟨fun _ => ?_, fun _ _ hc => nomatch hc⟩
    cases t with
    | deadline | silence alive => trivial
    | frame ev => exact fun h => absurd h (hd ev rfl)
  · rw [hsrc, List.forall_mem_singleton]
    exact ⟨fun h _ => h rfl, fun h _ => h hd⟩

/-! ## The turn -/

/-- The output of a turn is made of the chunks of its sources. -/
theorem result_sources {S : DaemonSession} {queued late : List Tick} {dropped : ℕ} {r : TurnResult}
    {left : Leave} (h : iterTurnChunks earlyDrop maxWait S queued late dropped = some r)
    (hok : r.result = .ok out)
    (hmain : Scan.halt (mainStep earlyDrop maxWait) S.start (peel queued ++ late) =
      some ((left, s), rest)) :
    out = (sources earlyDrop maxWait S.start s (peel queued ++ late) rest).map Source.chunk := by
  unfold iterTurnChunks turnFrom at h
  rw [hmain, Option.bind_some] at h
  have hout : s.out = (Scan.log (mainStep earlyDrop maxWait) (mainSource earlyDrop maxWait) S.start
      (peel queued ++ late)).map Source.chunk :=
    Scan.halt_log TurnLoop.out (fun p => p.2.out) (fun _ _ => mainStep_source) hmain
  cases left with
  | exit e =>
    cases e with
    | ended endState =>
      obtain ⟨⟨d, rest'⟩, hd, rfl⟩ := Option.map_eq_some_iff.1 h
      obtain rfl : d.out = out := Except.ok.inj hok
      have hdrain : d.out = s.drain.out ++ _ :=
        Scan.halt_log Drain.out Drain.out (fun _ _ => drain_source s.expectedTurnId) hd
      rw [hdrain]
      unfold sources
      rw [List.map_append, ← hout]
      rfl
    | failed message =>
      obtain rfl := Option.some.inj h
      cases hok
  | timedOut message =>
    obtain rfl := Option.some.inj h
    cases hok
  | connectionLost =>
    obtain rfl := Option.some.inj h
    cases hok

/-- **Isolation of the returned chunks.** In a turn that returns with `T` bound, every chunk is that
of a frame that was read; and no chunk that was appended while `T` was bound came from a frame of
another turn if and only if the drain meets no event frame of another turn on its loop that passes
the early filter. -/
theorem turn_isolation (earlyDrop : List Json → String → Json → Bool) (maxWait : Option ℕ)
    (S : DaemonSession) (queued late rest : List Tick) (dropped : ℕ) (r : TurnResult)
    (out : List TurnChunk) (left : Leave) (s : TurnLoop) (T : String)
    (h : iterTurnChunks earlyDrop maxWait S queued late dropped = some r)
    (hok : r.result = .ok out)
    (hmain : Scan.halt (mainStep earlyDrop maxWait) S.start (peel queued ++ late) =
      some ((left, s), rest))
    (hT : s.expectedTurnId = some T) :
    out = (sources earlyDrop maxWait S.start s (peel queued ++ late) rest).map Source.chunk ∧
      ((∀ c ∈ sources earlyDrop maxWait S.start s (peel queued ++ late) rest,
          c.bound = some T → c.OfTurn T) ↔
        Scan.Guarded (Drain.step earlyDrop s.expectedLoopId)
          (fun _ t => DrainsOwn earlyDrop s.expectedLoopId T t) s.drain rest) := by
  refine ⟨result_sources h hok hmain, ?_⟩
  unfold sources
  rw [List.forall_mem_append, hT, Scan.forall_mem_log, Scan.forall_mem_log]
  have hloop : Scan.Guarded (mainStep earlyDrop maxWait)
      (fun s t => ∀ c ∈ mainSource earlyDrop maxWait s t, c.bound = some T → c.OfTurn T)
      S.start (peel queued ++ late) :=
    Scan.guarded_of_invariant (I := fun s => Trimmed s.expectedTurnId)
      (fun _ _ _ hs _ hstep => mainStep_trimmed hs hstep)
      (fun _ _ _ hs _ hc hb => mainSource_ofTurn hs hc hb) trimmed_none
  constructor
  · intro hall
    exact hall.2.mono fun _ _ _ hc => drainSource_ofTurn.1 hc
  · intro hown
    exact ⟨hloop, hown.mono fun _ _ _ ht => drainSource_ofTurn.2 ht⟩

/-- A whole turn of the loop: running, an assistant chunk and the `stream.end`. -/
def wholeTurn : List Tick :=
  [.frame (statusFrame "running" (some "L:1")),
    .frame (eventFrame "messages" "L:1" (.arr [.obj [("content", .str "hi")], .null])),
    .frame (streamEndFrame "L:1")]

/-- The locals in which the main loop leaves `wholeTurn`. -/
def wholeTurnEnd : TurnLoop where
  expectedLoopId := "L"
  queryStarted := true
  expectedTurnId := some "L:1"
  turnProgressSeen := true
  out := [chunkOf (eventFrame "messages" "L:1" (.arr [.obj [("content", .str "hi")], .null])),
    chunkOf (streamEndFrame "L:1")]
  stats := { total := 2, messages := 1, custom := 1, textChunks := 1 }

theorem halt_wholeTurn (rest : List Tick) :
    Scan.halt (mainStep shouldDropStreamChunkEarly none)
        (DaemonSession.start { loopId := "L" }) (peel [] ++ (wholeTurn ++ rest)) =
      some ((.exit (.ended "stream_end"), wholeTurnEnd), rest) := rfl

/-- The turn, with a late chunk of its own in the drain. -/
theorem turn_isolation_turn :
    wholeTurnEnd.out ++ [chunkOf (eventFrame "values" "L:1" .null)] =
        (sources shouldDropStreamChunkEarly none (DaemonSession.start { loopId := "L" }) wholeTurnEnd
          (peel [] ++ (wholeTurn ++ [.frame (eventFrame "values" "L:1" .null), .deadline]))
          [.frame (eventFrame "values" "L:1" .null), .deadline]).map Source.chunk ∧
      ∀ c ∈ sources shouldDropStreamChunkEarly none (DaemonSession.start { loopId := "L" })
        wholeTurnEnd
        (peel [] ++ (wholeTurn ++ [.frame (eventFrame "values" "L:1" .null), .deadline]))
        [.frame (eventFrame "values" "L:1" .null), .deadline],
        c.bound = some "L:1" → c.OfTurn "L:1" := by
  have h := turn_isolation shouldDropStreamChunkEarly none { loopId := "L" } []
    (wholeTurn ++ [.frame (eventFrame "values" "L:1" .null), .deadline])
    [.frame (eventFrame "values" "L:1" .null), .deadline] 0
    _ _ _ wholeTurnEnd "L:1" rfl rfl (halt_wholeTurn _) rfl
  refine ⟨h.1, h.2.2 (Scan.guarded_of_forall fun _ => ?_)⟩
  exact List.forall_mem_cons.2
    ⟨fun _ _ hu => (Option.some.inj hu).symm, List.forall_mem_singleton.2 trivial⟩

/-- The drain returns a chunk of the next turn. -/
theorem turn_isolation_fails : ¬ ∀ (earlyDrop : List Json → String → Json → Bool)
    (maxWait : Option ℕ) (S : DaemonSession) (queued late rest : List Tick) (dropped : ℕ)
    (r : TurnResult) (out : List TurnChunk) (left : Leave) (s : TurnLoop) (T : String),
    iterTurnChunks earlyDrop maxWait S queued late dropped = some r → r.result = .ok out →
    Scan.halt (mainStep earlyDrop maxWait) S.start (peel queued ++ late) = some ((left, s), rest) →
    s.expectedTurnId = some T →
    ∀ c ∈ sources earlyDrop maxWait S.start s (peel queued ++ late) rest,
      c.bound = some T → c.OfTurn T := by
  intro h
  have hfalse := h shouldDropStreamChunkEarly none { loopId := "L" } []
    (wholeTurn ++ [.frame (eventFrame "values" "L:2" .null), .deadline])
    [.frame (eventFrame "values" "L:2" .null), .deadline] 0
    _ _ _ wholeTurnEnd "L:1" rfl rfl (halt_wholeTurn _) rfl
    ⟨eventFrame "values" "L:2" .null, some "L:1"⟩ ?_ rfl "L:2" (by decide)
  · exact absurd hfalse (by decide)
  · have hdrain : (⟨eventFrame "values" "L:2" .null, some "L:1"⟩ : Source) ∈
        Scan.log (Drain.step shouldDropStreamChunkEarly "L")
          (drainSource shouldDropStreamChunkEarly "L" (some "L:1")) wholeTurnEnd.drain
          [.frame (eventFrame "values" "L:2" .null), .deadline] := List.mem_cons_self
    exact List.mem_append_right _ hdrain

end SootheClient.Session
