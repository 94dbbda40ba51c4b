import SootheClient.Pool.EventStream

/-!
# What a turn reads of an event stream

The two tasks hand the frames on in order, and one at a time. While nobody tears the connection
down, a frame that leaves the inbound queue is on its way to the turn or was taken, and the stream
ends only after the forwarder has.
-/

namespace SootheClient.Pool

open SootheClient.Client (Forwarding Move Moved Sound)

variable {s s' : EventStream} {a : StreamAct} {w w' : Forwarding} {b : Move}

/-- What a step does. -/
inductive Streamed (s : EventStream) : StreamAct → EventStream → Prop
  | client (a : Move) (w : Forwarding) (ha : a ≠ .receive) (hw : Moved s.forwarding a w) :
      Streamed s (.client a) { s with forwarding := w }
  | hangUp (ev : ℕ × Json) (ht : s.task.gone = true)
      (hf : s.forwarding.forwarder = .sending ev) :
      Streamed s (.client .forward)
        { s with forwarding := { s.forwarding with forwarder := .exited } }
  | receive (ev : ℕ × Json) (w : Forwarding) (ht : s.task = .receiving)
      (hw : Moved s.forwarding .receive w) (hr : w.received = s.forwarding.received ++ [ev]) :
      Streamed s .task { s with forwarding := w, task := .sending ev }
  | close (ht : s.task = .receiving) (hc : s.forwarding.channel = [])
      (hf : s.forwarding.forwarder = .exited) : Streamed s .task { s with task := .storing }
  | refuse (ev : ℕ × Json) (ht : s.task = .sending ev) (hd : s.teardown = .dropped) :
      Streamed s .task { s with task := .storing, lost := s.lost ++ [ev] }
  | send (ev : ℕ × Json) (ht : s.task = .sending ev) (hd : s.teardown ≠ .dropped) :
      Streamed s .task { s with task := .receiving, buffer := s.buffer ++ [ev] }
  | store (ht : s.task = .storing) :
      Streamed s .task { s with task := .returning, readerLive := false }
  | leave (ht : s.task = .returning) : Streamed s .task { s with task := .exited }
  | cancel (ht : s.task.gone = false) (hd : s.teardown ≠ .none) :
      Streamed s .cancel { s with task := .cancelled, lost := s.lost ++ s.task.hand }
  | take (ev : ℕ × Json) (rest : List (ℕ × Json)) (hb : s.buffer = ev :: rest) :
      Streamed s .recv { s with buffer := rest, taken := s.taken ++ [ev] }
  | finish (hb : s.buffer = []) (ht : s.task.gone = true) :
      Streamed s .recv { s with ended := true }
  | abort (hd : s.teardown = .none) : Streamed s .teardown { s with teardown := .aborted }
  | unset (hd : s.teardown = .aborted) :
      Streamed s .teardown { s with teardown := .unset, readerLive := false }
  | drop (hd : s.teardown = .unset) : Streamed s .teardown
      { s with teardown := .dropped, buffer := [], lost := s.buffer ++ s.lost }

theorem client_streamed (ha : b ≠ .receive) (h : s.step (.client b) = some s') :
    Streamed s (.client b) s' := by
  cases b with
  | deliver | lose | reader =>
    obtain ⟨w, hw, rfl⟩ := Option.map_eq_some_iff.1 h
    exact .client _ w ha (Client.step_moved hw)
  | forward =>
    obtain ⟨w, hw, rfl⟩ := Option.map_eq_some_iff.1 h
    unfold EventStream.forwardStep at hw
    split at hw
    · rename_i ev ht hf
      obtain rfl := Option.some.inj hw
      exact .hangUp ev ht hf
    · exact .client _ w ha (Client.step_moved hw)
  | receive => exact absurd rfl ha

theorem task_streamed (h : s.taskStep = some s') : Streamed s .task s' := by
  unfold EventStream.taskStep at h
  cases ht : s.task with
  | receiving =>
    simp only [ht] at h
    unfold EventStream.receiveStep at h
    split at h
    · rename_i hc hf
      obtain rfl := Option.some.inj h
      exact .close ht hc hf
    · cases h
    · rename_i ev rest hc
      obtain ⟨w, hw, rfl⟩ := Option.map_eq_some_iff.1 h
      refine .receive ev w ht (Client.step_moved hw) ?_
      simp only [Forwarding.step, hc] at hw
      obtain rfl := Option.some.inj hw
      rfl
  | sending ev =>
    simp only [ht] at h
    unfold EventStream.sendStep at h
    split_ifs at h with hd
    · obtain rfl := Option.some.inj h
      exact .refuse ev ht hd
    · obtain rfl := Option.some.inj h
      exact .send ev ht hd
  | storing =>
    simp only [ht] at h
    obtain rfl := Option.some.inj h
    exact .store ht
  | returning =>
    simp only [ht] at h
    obtain rfl := Option.some.inj h
    exact .leave ht
  | exited | cancelled =>
    simp only [ht] at h
    cases h

theorem cancel_streamed (h : s.cancelStep = some s') : Streamed s .cancel s' := by
  unfold EventStream.cancelStep at h
  split_ifs at h with hd
  split at h
  · rename_i ht
    obtain rfl := Option.some.inj h
    exact .cancel (by rw [ht]; rfl) hd
  · rename_i ev ht
    obtain rfl := Option.some.inj h
    exact .cancel (by rw [ht]; rfl) hd
  all_goals cases h

theorem recv_streamed (h : s.recvStep = some s') : Streamed s .recv s' := by
  unfold EventStream.recvStep at h
  by_cases hd : s.teardown = .dropped
  · rw [if_pos hd] at h
    cases h
  · rw [if_neg hd] at h
    split at h
    · rename_i hb
      split_ifs at h with ht
      obtain rfl := Option.some.inj h
      exact .finish hb ht
    · rename_i ev rest hb
      obtain rfl := Option.some.inj h
      exact .take ev rest hb

theorem teardown_streamed (h : s.teardownStep = some s') : Streamed s .teardown s' := by
  unfold EventStream.teardownStep at h
  split at h
  · rename_i hd
    obtain rfl := Option.some.inj h
    exact .abort hd
  · rename_i hd
    obtain rfl := Option.some.inj h
    exact .unset hd
  · rename_i hd
    obtain rfl := Option.some.inj h
    exact .drop hd
  · cases h

/-- **Steps.** -/
theorem step_streamed (h : s.step a = some s') : Streamed s a s' := by
  cases a with
  | client b =>
    have hb : b ≠ .receive := by
      rintro rfl
      cases h
    exact client_streamed hb h
  | task => exact task_streamed h
  | cancel => exact cancel_streamed h
  | recv => exact recv_streamed h
  | teardown => exact teardown_streamed h

/-! ## The client under the stream -/

/-- The forwarder exits only on a lost connection. -/
structure Standing (w : Forwarding) : Prop where
  sound : Sound w
  dead : w.forwarder = .exited → w.shared.isConnectionAlive = false

theorem Standing.moved (hw : Standing w) (h : Moved w b w') : Standing w' := by
  refine ⟨Client.sound_moved hw.sound h, fun hf => ?_⟩
  cases b with
  | forward =>
    obtain ⟨-, halive, -⟩ := Client.forward_frame h
    rw [halive]
    exact (Client.forward_learns h).1 hf
  | reader =>
    cases h with
    | enqueue ev => exact (Client.isConnectionAlive_enqueue _ _).trans (hw.dead hf)
    | notify | wake => exact hw.dead hf
    | mark u rest hr =>
      exact (Client.mark_inbound (hw.sound.marks _ hr)).2 (Or.inr (hw.dead hf))
  | deliver | lose | receive =>
    cases h
    exact hw.dead hf

/-- Only the receiver takes frames off the channel. -/
theorem received_moved (h : Moved w b w') (hb : b ≠ .receive) :
    w'.received = w.received ∧ w.queued.Sublist w'.queued := by
  cases h with
  | enqueue => exact ⟨rfl, List.sublist_append_left _ _⟩
  | receive => exact absurd rfl hb
  | deliver | lose | notify | mark | wake | pop | empty | send | alive | dead | create | permit
  | called | park | woken => exact ⟨rfl, List.Sublist.refl _⟩

/-- A forwarder that has exited stays so, and leaves the channel alone. -/
theorem exited_moved (h : Moved w b w') (hb : b ≠ .receive) (hf : w.forwarder = .exited) :
    w'.forwarder = .exited ∧ w'.channel = w.channel := by
  cases h with
  | receive => exact absurd rfl hb
  | deliver | lose | enqueue | notify | mark | wake => exact ⟨hf, rfl⟩
  | pop _ _ hpc | empty hpc | send _ hpc | alive hpc | dead hpc | create hpc | permit _ hpc
  | called _ hpc | park _ hpc | woken hpc =>
    rw [hf] at hpc
    cases hpc

theorem Standing.order (hw : Standing w) : w.received.Sublist w.queued := by
  have hbooks := hw.sound.books.order
  unfold Forwarding.taken at hbooks
  simp only [List.append_assoc] at hbooks
  exact (List.sublist_append_left _ _).trans hbooks

/-! ## The stream -/

/-- What holds of every state. -/
structure Piped (s : EventStream) : Prop where
  flow : s.forwarding.received = s.taken ++ (s.buffer ++ s.lost ++ s.task.hand)
  order : s.forwarding.received.Sublist s.forwarding.queued
  standing : s.task.gone = false ∨ s.teardown = .none → Standing s.forwarding
  kept : s.teardown = .none → s.task ≠ .cancelled
  dropped : s.teardown = .dropped → s.buffer = []
  lost : s.teardown ≠ .dropped → s.task ≠ .cancelled → s.lost = []
  drained : s.task = .storing ∨ s.task = .returning ∨ s.task = .exited → s.teardown = .none →
    s.forwarding.forwarder = .exited ∧ s.forwarding.channel = []
  told : s.task = .returning ∨ s.task = .exited → s.readerLive = false
  ended : s.ended = true → s.task.gone = true ∧ s.buffer = []

theorem piped_start (maxInbound : ℕ) (q : List (ℕ × Json)) (permit : Bool) :
    Piped (.start maxInbound q permit) where
  flow := rfl
  order := List.nil_sublist _
  standing _ := ⟨Client.sound_start EVENT_BUFFER maxInbound q permit, fun h => by cases h⟩
  kept _ h := by cases h
  dropped _ := rfl
  lost _ _ := rfl
  drained h := by rcases h with h | h | h <;> cases h
  told h := by rcases h with h | h <;> cases h
  ended h := by cases h

/-- **Step lemma**, the two tasks of the client. -/
theorem Piped.client (hs : Piped s) (hb : b ≠ .receive) (hw : Moved s.forwarding b w) :
    Piped { s with forwarding := w } := by
  obtain ⟨hreceived, hqueued⟩ := received_moved hw hb
  refine ⟨?_, ?_, fun h => (hs.standing h).moved hw, hs.kept, hs.dropped, hs.lost, ?_, hs.told,
    hs.ended⟩
  · rw [hreceived]
    exact hs.flow
  · rw [hreceived]
    exact hs.order.trans hqueued
  · intro ht hd
    obtain ⟨hf, hc⟩ := hs.drained ht hd
    obtain ⟨hf', hc'⟩ := exited_moved hw hb hf
    exact ⟨hf', hc'.trans hc⟩

/-- The task is gone of itself while nobody tears the connection down. -/
theorem Piped.exited (hs : Piped s) (ht : s.task.gone = true) (hd : s.teardown = .none) :
    s.task = .exited := by
  have hcancelled := hs.kept hd
  cases htask : s.task with
  | exited => rfl
  | cancelled => exact absurd htask hcancelled
  | receiving | sending | storing | returning =>
    rw [htask] at ht
    cases ht

/-- The forwarder finds its receiver gone only after a tear-down. -/
theorem Piped.torn {ev : ℕ × Json} (hs : Piped s) (ht : s.task.gone = true)
    (hf : s.forwarding.forwarder = .sending ev) : s.teardown ≠ .none := by
  intro hd
  have hexited := (hs.drained (.inr (.inr (hs.exited ht hd))) hd).1
  rw [hf] at hexited
  cases hexited

theorem Piped.hangUp {ev : ℕ × Json} (hs : Piped s) (ht : s.task.gone = true)
    (hf : s.forwarding.forwarder = .sending ev) :
    Piped { s with forwarding := { s.forwarding with forwarder := .exited } } := by
  have htorn := hs.torn ht hf
  refine ⟨hs.flow, hs.order, fun h => ?_, hs.kept, hs.dropped, hs.lost, fun _ hd => absurd hd htorn,
    hs.told, hs.ended⟩
  rcases h with h | h
  · rw [ht] at h
    cases h
  · exact absurd h htorn

theorem Piped.lost_of_receiving (hs : Piped s) (hd : s.teardown ≠ .dropped)
    (ht : s.task = .receiving) : s.lost = [] :=
  hs.lost hd (by rw [ht]; exact nofun)

theorem Piped.not_ended (hs : Piped s) (ht : s.task.gone = false) : s.ended ≠ true := by
  intro h
  rw [(hs.ended h).1] at ht
  cases ht

theorem Piped.receive {ev : ℕ × Json} (hs : Piped s) (ht : s.task = .receiving)
    (hw : Moved s.forwarding .receive w) (hr : w.received = s.forwarding.received ++ [ev]) :
    Piped { s with forwarding := w, task := .sending ev } := by
  have hstanding : Standing s.forwarding := hs.standing (.inl (by rw [ht]; rfl))
  have hflow := hs.flow
  rw [ht] at hflow
  refine ⟨?_, (hstanding.moved hw).order, fun _ => hstanding.moved hw, fun _ h => (by cases h),
    hs.dropped, fun hd _ => hs.lost_of_receiving hd ht, fun h => ?_, fun h => ?_, fun h => ?_⟩
  · simp only [hr, hflow, ReaderTask.hand, List.append_nil, List.append_assoc]
  · rcases h with h | h | h <;> cases h
  · rcases h with h | h <;> cases h
  · exact absurd h (hs.not_ended (by rw [ht]; rfl))

/-- The task goes on by itself: what it held and what is buffered or lost stays in order. -/
theorem Piped.shift {t : ReaderTask} {buffer lost : List (ℕ × Json)} {live : Bool} (hs : Piped s)
    (hgone : s.task.gone = false)
    (hflow : s.buffer ++ s.lost ++ s.task.hand = buffer ++ lost ++ t.hand)
    (hkept : s.teardown = .none → t ≠ .cancelled) (hdropped : s.teardown = .dropped → buffer = [])
    (hlost : s.teardown ≠ .dropped → t ≠ .cancelled → lost = [])
    (hdrained : t = .storing ∨ t = .returning ∨ t = .exited → s.teardown = .none →
      s.forwarding.forwarder = .exited ∧ s.forwarding.channel = [])
    (htold : t = .returning ∨ t = .exited → live = false) :
    Piped { s with task := t, buffer := buffer, lost := lost, readerLive := live } where
  flow := by rw [hs.flow, hflow]
  order := hs.order
  standing _ := hs.standing (.inl hgone)
  kept := hkept
  dropped := hdropped
  lost := hlost
  drained := hdrained
  told := htold
  ended h := absurd h (hs.not_ended hgone)

/-- The task finds that the forwarder has exited. -/
theorem Piped.drained_of_exited (hs : Piped s) (ht : s.task = .receiving)
    (hc : s.forwarding.channel = []) (hf : s.forwarding.forwarder = .exited) :
    Piped { s with task := .storing } := by
  refine hs.shift (by rw [ht]; rfl) (by rw [ht]; rfl) (fun _ h => by cases h) hs.dropped
    (fun hd _ => hs.lost_of_receiving hd ht) (fun _ _ => ⟨hf, hc⟩) fun h => ?_
  rcases h with h | h <;> cases h

theorem Piped.refuse {ev : ℕ × Json} (hs : Piped s) (ht : s.task = .sending ev)
    (hd : s.teardown = .dropped) :
    Piped { s with task := .storing, lost := s.lost ++ [ev] } := by
  refine hs.shift (by rw [ht]; rfl) ?_ (fun _ h => by cases h) hs.dropped
    (fun hne => absurd hd hne) (fun _ hnone => ?_) fun h => ?_
  · simp only [ht, ReaderTask.hand, List.append_nil, List.append_assoc]
  · rw [hd] at hnone
    cases hnone
  · rcases h with h | h <;> cases h

theorem Piped.send {ev : ℕ × Json} (hs : Piped s) (ht : s.task = .sending ev)
    (hd : s.teardown ≠ .dropped) :
    Piped { s with task := .receiving, buffer := s.buffer ++ [ev] } := by
  have hlost : s.lost = [] := hs.lost hd (by rw [ht]; exact nofun)
  refine hs.shift (by rw [ht]; rfl) ?_ (fun _ h => by cases h) (fun h => absurd h hd)
    (fun _ _ => hlost) (fun h => ?_) fun h => ?_
  · simp only [ht, hlost, ReaderTask.hand, List.append_nil]
  · rcases h with h | h | h <;> cases h
  · rcases h with h | h <;> cases h

theorem Piped.store (hs : Piped s) (ht : s.task = .storing) :
    Piped { s with task := .returning, readerLive := false } :=
  hs.shift (by rw [ht]; rfl) (by rw [ht]; rfl) (fun _ h => by cases h) hs.dropped
    (fun hd _ => hs.lost hd (by rw [ht]; exact nofun)) (fun _ => hs.drained (.inl ht)) fun _ => rfl

theorem Piped.leave (hs : Piped s) (ht : s.task = .returning) :
    Piped { s with task := .exited } :=
  hs.shift (by rw [ht]; rfl) (by rw [ht]; rfl) (fun _ h => by cases h) hs.dropped
    (fun hd _ => hs.lost hd (by rw [ht]; exact nofun)) (fun _ => hs.drained (.inr (.inl ht)))
    fun _ => hs.told (.inl ht)

theorem Piped.cancel (hs : Piped s) (ht : s.task.gone = false) (hd : s.teardown ≠ .none) :
    Piped { s with task := .cancelled, lost := s.lost ++ s.task.hand } := by
  refine hs.shift ht ?_ (fun h => absurd h hd) hs.dropped (fun _ h => absurd rfl h)
    (fun h => ?_) fun h => ?_
  · simp only [ReaderTask.hand, List.append_nil, List.append_assoc]
  · rcases h with h | h | h <;> cases h
  · rcases h with h | h <;> cases h

theorem Piped.take {ev : ℕ × Json} {rest : List (ℕ × Json)} (hs : Piped s)
    (hb : s.buffer = ev :: rest) : Piped { s with buffer := rest, taken := s.taken ++ [ev] } := by
  have hflow := hs.flow
  rw [hb] at hflow
  refine ⟨?_, hs.order, hs.standing, hs.kept, fun h => ?_, hs.lost, hs.drained, hs.told,
    fun h => ?_⟩
  · simpa only [List.append_assoc, List.cons_append, List.nil_append] using hflow
  · have hempty := hs.dropped h
    rw [hb] at hempty
    cases hempty
  · have hempty := (hs.ended h).2
    rw [hb] at hempty
    cases hempty

/-- A step of the tear-down; the frames that the turn did not take are lost with its receiver. -/
theorem Piped.drop (hs : Piped s) :
    Piped { s with teardown := .dropped, buffer := [], lost := s.buffer ++ s.lost } where
  flow := hs.flow
  order := hs.order
  standing h := hs.standing (h.imp_right fun h => by cases h)
  kept h := by cases h
  dropped _ := rfl
  lost h := absurd rfl h
  drained _ h := by cases h
  told := hs.told
  ended h := ⟨(hs.ended h).1, rfl⟩

theorem Piped.tear {d : Teardown} {live : Bool} (hs : Piped s) (hd : s.teardown ≠ .dropped)
    (hnone : d ≠ .none) (hdropped : d ≠ .dropped) (hlive : s.readerLive = false → live = false) :
    Piped { s with teardown := d, readerLive := live } where
  flow := hs.flow
  order := hs.order
  standing h := hs.standing (h.imp_right fun h => absurd h hnone)
  kept h := absurd h hnone
  dropped h := absurd h hdropped
  lost _ := hs.lost hd
  drained _ h := absurd h hnone
  told h := hlive (hs.told h)
  ended := hs.ended

/-- **Step lemma.** -/
theorem Piped.step (hs : Piped s) (h : Streamed s a s') : Piped s' := by
  cases h with
  | client b w hb hw => exact hs.client hb hw
  | hangUp ev ht hf => exact hs.hangUp ht hf
  | receive ev w ht hw hr => exact hs.receive ht hw hr
  | close ht hc hf => exact hs.drained_of_exited ht hc hf
  | refuse ev ht hd => exact hs.refuse ht hd
  | send ev ht hd => exact hs.send ht hd
  | store ht => exact hs.store ht
  | leave ht => exact hs.leave ht
  | cancel ht hd => exact hs.cancel ht hd
  | take ev rest hb => exact hs.take hb
  | finish hb ht =>
    exact ⟨hs.flow, hs.order, hs.standing, hs.kept, hs.dropped, hs.lost, hs.drained, hs.told,
      fun _ => ⟨ht, hb⟩⟩
  | abort hd => exact hs.tear (by rw [hd]; exact nofun) nofun nofun id
  | unset hd => exact hs.tear (by rw [hd]; exact nofun) nofun nofun fun _ => rfl
  | drop => exact hs.drop

/-! ## Runs -/

theorem piped_step (s : EventStream) (a : StreamAct) (s' : EventStream) (hs : Piped s)
    (h : s.step a = some s') : Piped s' :=
  hs.step (step_streamed h)

/-- The frames on their way from the inbound queue to the turn, the oldest first. -/
def EventStream.inTransit (s : EventStream) : List (ℕ × Json) :=
  s.buffer ++ s.task.hand ++ s.forwarding.channel ++ s.forwarding.forwarder.hand

/-- While nobody tears the connection down, the tasks lose nothing. -/
theorem Piped.books (hs : Piped s) (hd : s.teardown = .none) :
    Ledger.Balanced s.forwarding.queued (s.taken ++ s.inTransit) s.forwarding.evicted
      s.forwarding.shared.inbound := by
  have hlost : s.lost = [] := hs.lost (by rw [hd]; exact nofun) (hs.kept hd)
  have hbooks : s.forwarding.Balanced := (hs.standing (.inr hd)).sound.books
  have htaken : s.forwarding.taken = s.taken ++ s.inTransit := by
    unfold Forwarding.taken EventStream.inTransit
    rw [hs.flow, hlost]
    simp only [List.append_nil, List.append_assoc]
  unfold Forwarding.Balanced at hbooks
  rwa [htaken] at hbooks

/-- At the end of the stream nothing is on its way any more. -/
theorem Piped.at_end (hs : Piped s) (hd : s.teardown = .none) (he : s.ended = true) :
    s.eventStreamLive = false ∧ s.forwarding.shared.isConnectionAlive = false ∧
      s.inTransit = [] := by
  obtain ⟨hgone, hbuffer⟩ := hs.ended he
  have ht := hs.exited hgone hd
  obtain ⟨hf, hc⟩ := hs.drained (.inr (.inr ht)) hd
  refine ⟨?_, (hs.standing (.inr hd)).dead hf, ?_⟩
  · unfold EventStream.eventStreamLive
    rw [hs.told (.inr ht), Bool.and_false]
  · unfold EventStream.inTransit
    rw [hbuffer, ht, hc, hf]
    rfl

/-- **The event stream.** Whatever the tasks and a tear-down do, the turn takes the frames in the
order of the queue, and none twice. Without a tear-down each frame that was queued is on the queue,
evicted, on its way or taken; and once the turn has found the end of the stream, the connection is
lost, the stream is known to be dead, and no frame is on its way. -/
theorem stream_relays (maxInbound : ℕ) (q : List (ℕ × Json)) (permit : Bool)
    (run : List StreamAct) (s : EventStream)
    (h : Lts.exec EventStream.step (.start maxInbound q permit) run = some s) :
    s.taken.Sublist s.forwarding.queued ∧
      (s.teardown = .none →
        Ledger.Balanced s.forwarding.queued (s.taken ++ s.inTransit) s.forwarding.evicted
            s.forwarding.shared.inbound ∧
          (s.ended = true → s.eventStreamLive = false ∧
            s.forwarding.shared.isConnectionAlive = false ∧ s.inTransit = [])) := by
  have hs : Piped s := Lts.inv_of_exec piped_step (piped_start maxInbound q permit) h
  have horder := hs.order
  rw [hs.flow] at horder
  exact ⟨(List.sublist_append_left _ _).trans horder,
    fun hd => ⟨hs.books hd, fun he => hs.at_end hd he⟩⟩

/-- The moves of a client whose frames a turn reads. -/
def heard (moves : List Move) : List StreamAct :=
  moves.flatMap fun a =>
    match a with
    | .receive => [.task, .task, .recv]
    | a => [.client a]

/-- The turn takes a frame; the connection is lost, and the turn finds the end of the stream. -/
def heardOut : List StreamAct :=
  heard (Client.smoothRun Client.lastFrame) ++ List.replicate 3 .task ++ [.recv]

theorem stream_relays_heard : ∃ s,
    Lts.exec EventStream.step (.start 1 [] false) heardOut = some s ∧
      s.taken = [Client.lastFrame] ∧ s.inTransit = [] ∧ s.eventStreamLive = false := by
  have hrun : (Lts.exec EventStream.step (.start 1 [] false) heardOut).map
      (fun s => (s.taken, s.ended, s.teardown)) = some ([Client.lastFrame], true, .none) := rfl
  obtain ⟨s, hs, hend⟩ := Option.map_eq_some_iff.1 hrun
  simp only [Prod.mk.injEq] at hend
  obtain ⟨htaken, hended, hd⟩ := hend
  obtain ⟨hdead, -, hnone⟩ := ((stream_relays 1 [] false _ s hs).2 hd).2 hended
  exact ⟨s, hs, htaken, hnone, hdead⟩

end SootheClient.Pool
