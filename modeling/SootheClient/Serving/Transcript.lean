import SootheClient.Serving.Turns

/-!
# Transcripts

Whatever the turns of other sessions and the subscribers do in between, the effects done for a
session are those of its turns, one after another; so its stored messages are the blocks of its
turns.
-/

namespace SootheClient.Serving

open SootheClient.Sse (Hub Follows)
open SootheClient.Turn (Effect Error Outcome SseEvent TurnCall TurnRunner)

variable {r : TurnRunner} {s t : Service} {a : Act} {acts before : List Act}
  {call : TurnCall} {env : Turn.Env} {o : Outcome} {e : Effect} {rest : List Effect}
  {sessionId sid key id : String} {n : ℕ} {label : Sse.Label} {hub : Hub}

/-! ## The steps -/

inductive Step (r : TurnRunner) (s : Service) : Act → Service → Prop
  | persist (sid workspaceId userId loopId : String) :
    Step r s (.persist sid workspaceId userId loopId)
      { s with store := s.persist sid workspaceId userId loopId }
  | busy (call : TurnCall) (env : Turn.Env) (h : (s.running call.sessionId).isSome = true) :
    Step r s (.execute call env) s
  | begin (call : TurnCall) (env : Turn.Env) (o : Outcome) (h : s.running call.sessionId = none)
    (ho : r.runTurn call env = some o) :
    Step r s (.execute call env)
      { s with running := Function.update s.running call.sessionId (some o.2) }
  | effect (sid : String) (e : Effect) (rest : List Effect)
    (h : s.running sid = some (e :: rest)) :
    Step r s (.effect sid)
      { s.perform e with running := Function.update s.running sid (some rest) }
  | release (sid : String) (h : s.running sid = some []) :
    Step r s (.release sid) { s with running := Function.update s.running sid none }
  | subscriber (label : Sse.Label) (hub : Hub) (hlabel : isBroadcast label = false)
    (h : s.hub.step label = some hub) : Step r s (.subscriber label) { s with hub := hub }

theorem step_cases (h : s.step r a = some t) : Step r s a t := by
  cases a with
  | persist =>
    obtain rfl := Option.some.inj h
    exact .persist ..
  | execute call env =>
    simp only [Service.step] at h
    split_ifs at h with hrun
    · obtain rfl := Option.some.inj h
      exact .busy call env hrun
    · obtain ⟨o, ho, rfl⟩ := Option.map_eq_some_iff.1 h
      exact .begin call env o (by simpa using hrun) ho
  | effect sid =>
    simp only [Service.step] at h
    cases hrun : s.running sid with
    | none =>
      simp only [hrun] at h
      cases h
    | some l =>
      cases l with
      | nil =>
        simp only [hrun] at h
        cases h
      | cons e rest =>
        simp only [hrun] at h
        obtain rfl := Option.some.inj h
        exact .effect sid e rest hrun
  | release sid =>
    simp only [Service.step] at h
    cases hrun : s.running sid with
    | none =>
      simp only [hrun] at h
      cases h
    | some l =>
      cases l with
      | nil =>
        simp only [hrun] at h
        obtain rfl := Option.some.inj h
        exact .release sid hrun
      | cons e rest =>
        simp only [hrun] at h
        cases h
  | subscriber label =>
    simp only [Service.step] at h
    split_ifs at h with hb
    obtain ⟨hub, hhub, rfl⟩ := Option.map_eq_some_iff.1 h
    exact .subscriber label hub (by simpa using hb) hhub

theorem pending_update {running : String → Option (List Effect)} {l : Option (List Effect)} :
    Service.pending { s with running := Function.update running sid l } sessionId =
      if sessionId = sid then l.getD [] else (running sessionId).getD [] := by
  unfold Service.pending
  by_cases h : sessionId = sid
  · rw [if_pos h, h]
    exact congrArg (Option.getD · []) (Function.update_self ..)
  · rw [if_neg h]
    exact congrArg (Option.getD · []) (Function.update_of_ne h ..)

/-- What a turn has still to do is about its own session. -/
def Owned (s : Service) : Prop := ∀ sid, ∀ e ∈ s.pending sid, Own sid e

theorem owned_init : Owned {} := fun _ _ he => absurd he List.not_mem_nil

theorem owned_step (h : Owned s) (hs : s.step r a = some t) : Owned t := by
  intro sessionId e he
  cases step_cases hs with
  | persist | busy | subscriber => exact h sessionId e he
  | begin call env o hidle ho =>
    rw [pending_update] at he
    split_ifs at he with hsid
    · rw [hsid]
      exact own_of_course (TurnRunner.runTurn_course ho) e he
    · exact h sessionId e he
  | effect sid e' rest hrun =>
    rw [pending_update] at he
    split_ifs at he with hsid
    · refine h sessionId e ?_
      unfold Service.pending
      rw [hsid, hrun]
      exact List.mem_cons_of_mem e' he
    · exact h sessionId e he
  | release sid hrun =>
    rw [pending_update] at he
    split_ifs at he with hsid
    · exact absurd he List.not_mem_nil
    · exact h sessionId e he

/-! ## What is done for a session -/

/-- The effects that a step does for a session. -/
def does (sessionId : String) (s : Service) : Act → List Effect
  | .effect sid => if sid = sessionId then (s.pending sid).take 1 else []
  | _ => []

/-- **Step lemma.** What is done for a session and what is still to do are what was to do and what
begins. -/
theorem does_step (hs : s.step r a = some t) : does sessionId s a ++ t.pending sessionId =
    s.pending sessionId ++ (s.begins r sessionId a).flatMap fun x => x.2.2 := by
  cases step_cases hs with
  | persist | subscriber => exact (List.append_nil _).symm
  | busy call env hrun =>
    have hnone : s.begins r sessionId (.execute call env) = [] := by
      refine if_neg fun hc => ?_
      rw [← hc.1, hrun] at hc
      exact absurd hc.2 (by decide)
    rw [hnone]
    exact (List.append_nil _).symm
  | begin call env o hidle ho =>
    rw [pending_update]
    by_cases hsid : sessionId = call.sessionId
    · have hbegins : s.begins r sessionId (.execute call env) = [(call, o)] := by
        refine (if_pos ⟨hsid.symm, by rw [hsid, hidle]; rfl⟩).trans ?_
        rw [ho]
        rfl
      have hpend : s.pending sessionId = [] := by
        unfold Service.pending
        rw [hsid, hidle]
        rfl
      rw [if_pos hsid, hbegins, hpend, List.flatMap_singleton]
      rfl
    · have hbegins : s.begins r sessionId (.execute call env) = [] :=
        if_neg fun hc => hsid hc.1.symm
      rw [if_neg hsid, hbegins]
      exact (List.append_nil _).symm
  | effect sid e rest hrun =>
    rw [pending_update]
    have hpend : s.pending sid = e :: rest := by
      unfold Service.pending
      rw [hrun]
      rfl
    show (if sid = sessionId then (s.pending sid).take 1 else []) ++ _ = _ ++ []
    rw [List.append_nil]
    by_cases hsid : sid = sessionId
    · subst hsid
      rw [if_pos rfl, if_pos rfl, hpend]
      rfl
    · rw [if_neg hsid, if_neg (Ne.symm hsid)]
      rfl
  | release sid hrun =>
    rw [pending_update]
    show _ = _ ++ []
    rw [List.append_nil]
    by_cases hsid : sessionId = sid
    · have hpend : s.pending sessionId = [] := by
        unfold Service.pending
        rw [hsid, hrun]
        rfl
      rw [if_pos hsid, hpend]
      rfl
    · rw [if_neg hsid]
      rfl

/-- The effects that a run does for a session. -/
def done (r : TurnRunner) (sessionId : String) (s : Service) (acts : List Act) : List Effect :=
  Lts.collect (Service.step r) (does sessionId) s acts

/-- **Run lemma.** -/
theorem done_append (h : Lts.exec (Service.step r) s acts = some t) :
    done r sessionId s acts ++ t.pending sessionId =
      s.pending sessionId ++ (turns r sessionId s acts).flatMap fun x => x.2.2 := by
  unfold done turns
  induction acts generalizing s with
  | nil =>
    obtain rfl := Option.some.inj h
    exact (List.append_nil _).symm
  | cons a acts ih =>
    obtain ⟨u, hu, h⟩ := Lts.exec_cons_eq_some.1 h
    rw [Lts.collect_cons_of_step hu, Lts.collect_cons_of_step hu, List.append_assoc, ih h,
      ← List.append_assoc, does_step hu, List.flatMap_append, List.append_assoc]

/-- A session whose gate is free has its turns done one after another, up to what the last one has
still to do. -/
theorem done_pending (hidle : s.running sessionId = none)
    (h : Lts.exec (Service.step r) s acts = some t) :
    done r sessionId s acts ++ t.pending sessionId =
      (turns r sessionId s acts).flatMap fun x => x.2.2 := by
  have hpend : s.pending sessionId = [] := by
    unfold Service.pending
    rw [hidle]
    rfl
  rw [done_append h, hpend]
  rfl

/-- A turn that began takes its course. -/
theorem courses (r : TurnRunner) (sessionId : String) (s : Service) (acts : List Act) :
    ∀ x ∈ turns r sessionId s acts, r.Course x.1 x.2 := by
  intro x h
  unfold turns at h
  induction acts generalizing s with
  | nil => exact absurd h List.not_mem_nil
  | cons a acts ih =>
    rw [Lts.collect] at h
    obtain h | h := List.mem_append.1 h
    · cases a with
      | execute call env =>
        simp only [Service.begins] at h
        split_ifs at h
        · obtain ⟨o, ho, rfl⟩ := List.mem_map.1 h
          exact TurnRunner.runTurn_course (Option.mem_toList.1 ho)
        · exact absurd h List.not_mem_nil
      | _ => exact absurd h List.not_mem_nil
    · cases hstep : s.step r a with
      | none =>
        rw [hstep] at h
        exact absurd h List.not_mem_nil
      | some t =>
        rw [hstep] at h
        exact ih t h

/-! ## Transcripts -/

/-- The session is stored. -/
def Stored (sessionId : String) (s : Service) : Prop := (s.store.lookup sessionId).isSome = true

theorem persist_messages {workspaceId userId loopId : String} (h : Stored sessionId s) :
    Stored sessionId { s with store := s.persist sid workspaceId userId loopId } ∧
      Service.messages { s with store := s.persist sid workspaceId userId loopId } sessionId =
        s.messages sessionId := by
  obtain ⟨record, hrec⟩ := Option.isSome_iff_exists.1 h
  unfold Stored Service.messages Service.persist inMemoryLoopSessionStore
  by_cases hsid : sessionId = sid
  · subst hsid
    simp only [hrec, AList.lookup_insert]
    exact ⟨rfl, rfl⟩
  · cases hsome : s.store.lookup sid with
    | none =>
      simp only [hsome, AList.lookup_insert_ne hsid, hrec]
      exact ⟨rfl, trivial⟩
    | some other =>
      simp only [hsome, AList.lookup_insert_ne hsid, hrec]
      exact ⟨rfl, trivial⟩

theorem append_messages {message : Json} (h : Stored sessionId s) :
    Stored sessionId (s.perform (.appendMessage sid message)) ∧
      (s.perform (.appendMessage sid message)).messages sessionId =
        s.messages sessionId ++ if sid = sessionId then [message] else [] := by
  obtain ⟨record, hrec⟩ := Option.isSome_iff_exists.1 h
  unfold Stored Service.messages Service.perform inMemoryLoopSessionStore
  by_cases hsid : sessionId = sid
  · subst hsid
    simp only [hrec, AList.lookup_insert]
    exact ⟨rfl, rfl⟩
  · rw [if_neg (Ne.symm hsid), List.append_nil]
    cases hsome : s.store.lookup sid with
    | none =>
      simp only [hsome, hrec]
      exact ⟨rfl, trivial⟩
    | some other =>
      simp only [hsome, AList.lookup_insert_ne hsid, hrec]
      exact ⟨rfl, trivial⟩

/-- An effect adds its messages to its own session. -/
theorem perform_messages (h : Stored sessionId s) (hown : Own sid e) :
    Stored sessionId (s.perform e) ∧ (s.perform e).messages sessionId =
      s.messages sessionId ++ if sid = sessionId then messagesOf [e] else [] := by
  cases e with
  | appendMessage sid' message =>
    obtain rfl : sid' = sid := hown
    exact append_messages h
  | _ => exact ⟨h, by rw [show messagesOf [_] = [] from rfl, ite_self, List.append_nil]; rfl⟩

/-- **Step lemma.** A session stores the messages of what is done for it. -/
theorem messages_step (hown : Owned s) (h : Stored sessionId s) (hs : s.step r a = some t) :
    Stored sessionId t ∧
      t.messages sessionId = s.messages sessionId ++ messagesOf (does sessionId s a) := by
  cases step_cases hs with
  | persist sid =>
    obtain ⟨hst, hm⟩ := persist_messages h
    exact ⟨hst, hm.trans (List.append_nil _).symm⟩
  | busy | begin | release | subscriber => exact ⟨h, (List.append_nil _).symm⟩
  | effect sid e rest hrun =>
    have hpend : s.pending sid = e :: rest := by
      unfold Service.pending
      rw [hrun]
      rfl
    have hmem : e ∈ s.pending sid := by
      rw [hpend]
      exact List.mem_cons_self
    obtain ⟨hst, hm⟩ := perform_messages h (hown sid e hmem)
    refine ⟨hst, ?_⟩
    show (s.perform e).messages sessionId =
      _ ++ messagesOf (if sid = sessionId then (s.pending sid).take 1 else [])
    rw [hm, hpend]
    by_cases hsid : sid = sessionId
    · rw [if_pos hsid, if_pos hsid]
      rfl
    · rw [if_neg hsid, if_neg hsid]
      rfl

/-- **Run lemma.** -/
theorem messages_exec (hown : Owned s) (h : Stored sessionId s)
    (hs : Lts.exec (Service.step r) s acts = some t) :
    t.messages sessionId = s.messages sessionId ++ messagesOf (done r sessionId s acts) := by
  unfold done
  induction acts generalizing s with
  | nil =>
    obtain rfl := Option.some.inj hs
    exact (List.append_nil _).symm
  | cons a acts ih =>
    obtain ⟨u, hu, hs⟩ := Lts.exec_cons_eq_some.1 hs
    obtain ⟨hst, hm⟩ := messages_step hown h hu
    rw [ih (owned_step hown hu) hst hs, hm, Lts.collect_cons_of_step hu, messagesOf_append,
      List.append_assoc]

/-- Every turn has its part of what the turns give. -/
theorem parts_of_turns {β : Type} {give : List Effect → List β}
    {P : TurnCall → Except Error String → List β → Prop}
    (hgive : ∀ l l', give (l ++ l') = give l ++ give l') (hnil : give [] = [])
    (hpart : ∀ x : TurnCall × Outcome, r.Course x.1 x.2 → P x.1 x.2.1 (give x.2.2))
    {l : List (TurnCall × Outcome)} (hl : ∀ x ∈ l, r.Course x.1 x.2) :
    ∃ parts, List.Forall₂ (fun x part => P x.1 x.2.1 part) l parts ∧
      give (l.flatMap fun x => x.2.2) = parts.flatten := by
  induction l with
  | nil => exact ⟨[], .nil, hnil⟩
  | cons x l ih =>
    obtain ⟨parts, hparts, hflat⟩ := ih fun y hy => hl y (List.mem_cons_of_mem x hy)
    refine ⟨give x.2.2 :: parts, .cons (hpart x (hl x List.mem_cons_self)) hparts, ?_⟩
    rw [List.flatMap_cons, hgive, hflat]
    rfl

/-- **Transcripts.** From a moment when the gate of a stored session is free, the session's messages
grow by the block of each turn that began for it, in order, up to those that the turn which holds
the gate has still to store. -/
theorem transcript (hbefore : Lts.exec (Service.step r) {} before = some s)
    (h : Lts.exec (Service.step r) s acts = some t) (hstored : Stored sessionId s)
    (hidle : s.running sessionId = none) :
    ∃ blocks,
      List.Forall₂ (fun x block => Block x.1 x.2.1 block) (turns r sessionId s acts) blocks ∧
      t.messages sessionId ++ messagesOf (t.pending sessionId) =
        s.messages sessionId ++ blocks.flatten := by
  have hown : Owned s := Lts.inv_of_exec (fun _ _ _ => owned_step) owned_init hbefore
  obtain ⟨blocks, hblocks, hflat⟩ := parts_of_turns (P := Block)
    (fun _ _ => messagesOf_append) rfl (fun x hx => block_of_course hx)
    (courses r sessionId s acts)
  refine ⟨blocks, hblocks, ?_⟩
  rw [messages_exec hown hstored h, List.append_assoc, ← messagesOf_append, done_pending hidle h,
    hflat]

/-- The session is stored. -/
def persisted : List Act := [.persist "s1" "w" "u" "L"]

/-- A turn that is done, with a call in the midst of it that finds the gate held. -/
def served : List Act :=
  .execute TurnRunner.greeting TurnRunner.greeted :: .effect "s1" ::
    .execute TurnRunner.greeting TurnRunner.greeted ::
      (List.replicate 6 (.effect "s1") ++ [.release "s1"])

theorem transcript_served : ∃ s t blocks,
    Lts.exec (Service.step TurnRunner.attached) {} persisted = some s ∧
    Lts.exec (Service.step TurnRunner.attached) s served = some t ∧
    (turns TurnRunner.attached "s1" s served).map (fun x => x.2.1.toOption) = [some "Hello"] ∧
    List.Forall₂ (fun x block => Block x.1 x.2.1 block)
      (turns TurnRunner.attached "s1" s served) blocks ∧
    (t.messages "s1").length = 2 ∧ t.messages "s1" = blocks.flatten := by
  have hrun : ((Lts.exec (Service.step TurnRunner.attached) {} persisted).bind fun s =>
      (Lts.exec (Service.step TurnRunner.attached) s served).map fun t =>
        ([(s.store.lookup "s1").isSome, (s.running "s1").isNone],
          (turns TurnRunner.attached "s1" s served).map (fun x => x.2.1.toOption),
          [(s.messages "s1").length, (t.messages "s1").length, (t.pending "s1").length])) =
      some ([true, true], [some "Hello"], [0, 2, 0]) := by
    decide +kernel
  obtain ⟨s, hs, hrun⟩ := Option.bind_eq_some_iff.1 hrun
  obtain ⟨t, ht, hrun⟩ := Option.map_eq_some_iff.1 hrun
  simp only [Prod.mk.injEq, List.cons.injEq, and_true] at hrun
  obtain ⟨⟨hstored, hidle⟩, hturns, hnone, hlen, hpend⟩ := hrun
  obtain ⟨blocks, hblocks, hmessages⟩ :=
    transcript hs ht hstored (Option.isNone_iff_eq_none.1 hidle)
  rw [List.eq_nil_of_length_eq_zero hnone, List.eq_nil_of_length_eq_zero hpend] at hmessages
  exact ⟨s, t, blocks, hs, ht, hturns, hblocks, hlen,
    (List.append_nil _).symm.trans hmessages⟩

end SootheClient.Serving
