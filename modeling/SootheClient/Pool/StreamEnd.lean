import SootheClient.Pool.Relay

/-!
# The end of an event stream

A turn that waits on the stream of a lost connection is told only when the forwarder is: the
notification that the forwarder misses is the end of the stream that the turn misses.
-/

namespace SootheClient.Pool

open SootheClient.Client (Forwarding Fine Quiescent Exhausted)

variable {s s' : EventStream} {a : StreamAct}

/-- What the forwarder of a stream has come to, while nobody tore the connection down. -/
def Sane (s : EventStream) : Prop := s.teardown = .none ∧ Fine s.forwarding

/-- Steps that neither tear the connection down nor go wrong. -/
def SaneStep (s : EventStream) (a : StreamAct) : Prop := a ≠ .teardown ∧ SmoothStep s a

/-- A step that leaves the forwarder and the connection alone. -/
theorem sane_of_same (hf : s'.forwarding = s.forwarding) (hd : s'.teardown = s.teardown)
    (ha : SaneStep s a) : Sane s' ↔ Sane s ∧ SaneStep s a := by
  unfold Sane
  rw [hf, hd]
  exact (and_iff_left ha).symm

/-- A step goes wrong exactly where it is not smooth, and what went wrong stays so. -/
theorem sane_streamed (hs : Piped s) (h : Streamed s a s') : Sane s' ↔ Sane s ∧ SaneStep s a := by
  cases h with
  | client b w hb hw =>
    have hclient : SaneStep s (.client b) ↔ Client.Smooth s.forwarding b :=
      and_iff_right fun h => by cases h
    rw [hclient]
    unfold Sane
    rw [and_assoc]
    exact and_congr_right fun hd => Client.fine_moved (hs.standing (.inr hd)).sound hw
  | hangUp ev ht hf =>
    have htorn := hs.torn ht hf
    exact iff_of_false (fun h => htorn h.1) fun h => htorn h.1.1
  | receive ev w ht hw =>
    have hstep : SaneStep s .task := ⟨fun h => (by cases h), trivial⟩
    rw [and_iff_left hstep]
    have hstanding : Standing s.forwarding := hs.standing (.inl (by rw [ht]; rfl))
    have hfine : Fine w ↔ Fine s.forwarding :=
      (Client.fine_moved hstanding.sound hw).trans (and_iff_left trivial)
    exact and_congr_right fun _ => hfine
  | close | refuse | send | store | leave | cancel | take | finish =>
    exact sane_of_same rfl rfl ⟨fun h => (by cases h), trivial⟩
  | abort | unset | drop =>
    exact iff_of_false (fun h => by cases h.1) fun h => h.2.1 rfl

/-- A task that can take no step waits for the forwarder, or came to its end. -/
theorem Drained.task_cases (hs : Piped s) (hq : Drained s) (hd : s.teardown = .none) :
    s.task = .receiving ∧ s.forwarding.forwarder ≠ .exited ∧ s.forwarding.channel = [] ∨
      s.task = .exited ∧ s.forwarding.forwarder = .exited ∧ s.forwarding.channel = [] := by
  have hstuck := hq.task
  unfold EventStream.taskStep at hstuck
  cases ht : s.task with
  | receiving =>
    simp only [ht] at hstuck
    unfold EventStream.receiveStep at hstuck
    cases hc : s.forwarding.channel with
    | nil =>
      refine .inl ⟨rfl, fun hf => ?_, rfl⟩
      simp only [hc, hf] at hstuck
      cases hstuck
    | cons ev rest =>
      simp only [hc, Forwarding.step, Option.map_some] at hstuck
      cases hstuck
  | sending ev =>
    simp only [ht] at hstuck
    unfold EventStream.sendStep at hstuck
    rw [if_neg (by rw [hd]; exact fun h => (by cases h)), hq.buffer, if_pos (by decide)] at hstuck
    cases hstuck
  | storing | returning =>
    simp only [ht] at hstuck
    cases hstuck
  | exited =>
    obtain ⟨hf, hc⟩ := hs.drained (.inr (.inr ht)) hd
    exact .inr ⟨rfl, hf, hc⟩
  | cancelled => exact absurd ht (hs.kept hd)

theorem quiescent_of_drained (hs : Piped s) (hq : Drained s) (hd : s.teardown = .none) :
    Quiescent s.forwarding := by
  obtain ⟨ht, -, hc⟩ | ⟨-, hf, hc⟩ := hq.task_cases hs hd
  · refine ⟨hq.dead, hq.reader, hc, ?_⟩
    have hstuck := hq.forwarder
    unfold EventStream.forwardStep at hstuck
    rw [ht] at hstuck
    exact hstuck
  · refine ⟨hq.dead, hq.reader, hc, ?_⟩
    unfold Forwarding.forwardStep
    rw [hf]

/-- The turn has what the forwarder handed over. -/
theorem served_iff (hs : Piped s) (hq : Drained s) (hd : s.teardown = .none) :
    Served s ↔ Exhausted s.forwarding := by
  have hlost : s.lost = [] := hs.lost (by rw [hd]; exact nofun) (hs.kept hd)
  have hrecv : s.recvStep = if s.task.gone then some { s with ended := true } else none := by
    unfold EventStream.recvStep
    rw [if_neg (by rw [hd]; exact nofun), hq.buffer]
  unfold Served Exhausted
  rw [hrecv, hs.flow, hq.buffer, hlost]
  obtain ⟨ht, hf, -⟩ | ⟨ht, hf, -⟩ := hq.task_cases hs hd
  · rw [ht]
    exact iff_of_false (fun h => by cases h.1) fun h => hf h.1
  · rw [ht, hf]
    simp only [ReaderTask.gone, ReaderTask.hand, List.append_nil, if_true]

theorem teardown_mono (h : Streamed s a s') (hd : s'.teardown = .none) :
    s.teardown = .none ∧ a ≠ .teardown := by
  cases h with
  | abort | unset | drop => cases hd
  | client | hangUp | receive | close | refuse | send | store | leave | cancel | take | finish =>
    exact ⟨hd, fun h => by cases h⟩

/-- A run after which nobody tore the connection down has no such step. -/
theorem untorn_run {run : List StreamAct} (h : Lts.exec EventStream.step s run = some s')
    (hd : s'.teardown = .none) : s.teardown = .none ∧ ∀ a ∈ run, a ≠ .teardown := by
  induction run generalizing s with
  | nil =>
    obtain rfl := Option.some.inj h
    exact ⟨hd, fun a ha => absurd ha List.not_mem_nil⟩
  | cons b run ih =>
    obtain ⟨t, ht, h⟩ := Lts.exec_cons_eq_some.1 h
    obtain ⟨hnone, hrest⟩ := ih h
    obtain ⟨hs, hb⟩ := teardown_mono (step_streamed ht) hnone
    exact ⟨hs, List.forall_mem_cons.2 ⟨hb, hrest⟩⟩

/-- **The end of the stream.** When the connection is lost, the tasks can take no step and the turn
has taken all that is buffered, the turn finds the end of the stream and has all frames but the
evicted ones, if and only if every step was smooth. -/
theorem stream_serves (maxInbound : ℕ) (q : List (ℕ × Json)) (permit : Bool)
    (run : List StreamAct) (s : EventStream)
    (h : Lts.exec EventStream.step (.start maxInbound q permit) run = some s) (hq : Drained s)
    (hd : s.teardown = .none) :
    Served s ↔ Lts.Guarded EventStream.step SmoothStep (.start maxInbound q permit) run := by
  have hstart := piped_start maxInbound q permit
  have hs : Piped s := Lts.inv_of_exec piped_step hstart h
  have hsound : Client.Sound s.forwarding := (hs.standing (.inr hd)).sound
  have hstep : ∀ v a v', Piped v → v.step a = some v' → (Sane v' ↔ Sane v ∧ SaneStep v a) :=
    fun _ _ _ hv hstep => sane_streamed hv (step_streamed hstep)
  have hsane : Sane (.start maxInbound q permit) := ⟨rfl, trivial⟩
  calc Served s
    _ ↔ Fine s.forwarding :=
      (served_iff hs hq hd).trans (Client.exhausted_iff hsound (quiescent_of_drained hs hq hd))
    _ ↔ Sane s := (and_iff_right hd).symm
    _ ↔ Lts.Guarded EventStream.step SaneStep (.start maxInbound q permit) run :=
      (Lts.iff_guarded piped_step hstep hstart h).trans (and_iff_right hsane)
    _ ↔ Lts.Guarded EventStream.step SmoothStep (.start maxInbound q permit) run :=
      ⟨Lts.Guarded.mono fun _ _ h => h.2, Lts.Guarded.and_mem (untorn_run h hd).2⟩

/-- The forwarder misses the last notification, and the turn waits for ever on a stream that passes
for live. -/
theorem stream_serves_late : ∃ s,
    Lts.exec EventStream.step (.start 1 [] false) (heard Client.lateFuture) = some s ∧
      Drained s ∧ s.recvStep = none ∧ s.eventStreamLive = true ∧
      ¬ Lts.Guarded EventStream.step SmoothStep (.start 1 [] false) (heard Client.lateFuture) := by
  have hrun : (Lts.exec EventStream.step (.start 1 [] false) (heard Client.lateFuture)).map
      (fun s => (s.forwarding.shared.isConnectionAlive, s.forwarding.reader,
        s.forwardStep.isNone, s.taskStep.isNone, s.buffer, s.recvStep.isNone,
        s.eventStreamLive, s.teardown)) =
    some (false, .done, true, true, [], true, true, .none) := rfl
  obtain ⟨s, hs, hend⟩ := Option.map_eq_some_iff.1 hrun
  simp only [Prod.mk.injEq, Option.isNone_iff_eq_none] at hend
  obtain ⟨hdead, hreader, hforward, htask, hbuffer, hrecv, hlive, hd⟩ := hend
  have hq : Drained s := ⟨hdead, hreader, hforward, htask, hbuffer⟩
  have hunserved : ¬ Served s := by
    intro h
    have hsome := h.1
    rw [hrecv] at hsome
    cases hsome
  refine ⟨s, hs, hq, hrecv, hlive, fun hG => hunserved ?_⟩
  exact (stream_serves 1 [] false _ s hs hq hd).2 hG

end SootheClient.Pool
