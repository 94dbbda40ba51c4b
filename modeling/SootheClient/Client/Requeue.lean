import SootheClient.Client.QueueSteps

/-!
# Events that are put back

One consumer reads the queue and may put the event that it has just read back before it reads on.
`push_pending_event` queues it behind all that has arrived, so the order of arrival is kept only
when nothing else is queued.
-/

namespace SootheClient.Client

open SootheClient.Frame

/-- The act is one of the application on the queue. -/
def Act.ofConsumer : Act → Bool
  | .push _ _ | .pop | .peel | .clear => true
  | .route _ _ | .step _ | .setMax _ | .register _ | .unregister _ => false

inductive ConsumerAct where
  /-- A step of a call of `route_inbound`, of a request, or a new cap. -/
  | client (a : Act)
  /-- `read_event`; the event read before is done with. -/
  | read
  /-- `push_pending_event` with the event just read. -/
  | putBack

/-- A client with its one consumer. -/
structure Consumer where
  mux : Mux
  /-- The event that was read last, unless it was put back. -/
  hand : Option (ℕ × Json) := none
  /-- The events that were read before it and not put back. -/
  consumed : List (ℕ × Json) := []
  /-- What the calls of `route_inbound` brought to the queue. -/
  arrived : List (ℕ × Json) := []

namespace Consumer

variable (w : Consumer)

/-- The frames in the queue. -/
def queue : List (ℕ × Json) := w.mux.tasks.shared.inbound

/-- A client with an empty queue, and its consumer. -/
def start (maxInbound : ℕ) (writeTx : Option ℕ) (writerUp : ℕ → Bool) : Consumer where
  mux := Mux.start maxInbound writeTx writerUp

def step : ConsumerAct → Option Consumer
  | .client a =>
    if a.ofConsumer then none
    else (w.mux.step a).map fun m =>
      { w with mux := m, arrived := w.arrived ++ (w.mux.offered a).toList }
  | .read =>
    match w.queue with
    | [] => none
    | ev :: _ => (w.mux.step .pop).map fun m =>
      { w with mux := m, hand := some ev, consumed := w.consumed ++ w.hand.toList }
  | .putBack =>
    match w.hand with
    | none => none
    | some ev => (w.mux.step (.push ev.1 ev.2)).map fun m => { w with mux := m, hand := none }

/-- The frame that is offered to the queue. -/
def offered : ConsumerAct → Option (ℕ × Json)
  | .client a => w.mux.offered a
  | .read => none
  | .putBack => w.hand.filter fun ev => ev.2.asObject?.isSome

/-- What was consumed, what is in hand and what is queued are, in this order, what arrived. -/
def Ordered : Prop :=
  (w.consumed ++ w.hand.toList ++ w.queue).map Prod.snd = w.arrived.map Prod.snd

end Consumer

/-- The queue does not overflow. -/
def Fits (w : Consumer) (a : ConsumerAct) : Prop :=
  ∀ ev ∈ w.offered a, w.mux.tasks.shared.lost ev = none

/-- An event that is put back is an object, and nothing but equal events is queued. -/
def PutsBackAlone (w : Consumer) (a : ConsumerAct) : Prop :=
  a = .putBack → ∀ ev ∈ w.hand, ev.2.asObject?.isSome = true ∧ ∀ f ∈ w.queue, f.2 = ev.2

/-- After the step the order of arrival is kept, and an event that was put back is the next. -/
def OrderKept (w : Consumer) (a : ConsumerAct) (w' : Consumer) : Prop :=
  w'.Ordered ∧ (a = .putBack → w'.queue.head?.map Prod.snd = w.hand.map Prod.snd)

variable {w w' : Consumer} {a : ConsumerAct} {ev : ℕ × Json} {m m' : Mux}

/-- An item behind a list is in front of it when all its items are alike. -/
theorem concat_eq_cons_iff {α : Type*} {l : List α} {x : α} :
    l ++ [x] = x :: l ↔ ∀ y ∈ l, y = x := by
  induction l with
  | nil => simp
  | cons y l ih =>
    rw [List.cons_append, List.cons.injEq, List.forall_mem_cons]
    constructor
    · rintro ⟨rfl, h⟩
      exact ⟨rfl, ih.1 h⟩
    · rintro ⟨rfl, h⟩
      exact ⟨rfl, ih.2 h⟩

/-- What is not lost is queued behind all else. -/
theorem inbound_of_fits {s : Shared} (h : s.lost ev = none) :
    (s.enqueuePendingLocked ev).inbound = s.inbound ++ [ev] := by
  obtain ⟨q, b, heq, hadm⟩ := enqueue_eq s ev
  have hin : (s.enqueuePendingLocked ev).inbound = q := by rw [heq]
  rw [h] at hadm
  rw [hin]
  cases hadm with
  | room => rfl
  | alone hnil => rw [hnil]; rfl

/-- An act that is none of the consumer's brings what it offers to the queue. -/
theorem inbound_client {a : Act} (ha : a.ofConsumer = false)
    (hfit : ∀ ev ∈ m.offered a, m.tasks.shared.lost ev = none) (h : m.step a = some m') :
    m'.tasks.shared.inbound = m.tasks.shared.inbound ++ (m.offered a).toList := by
  cases queueStep_inv h with
  | offer ev ho hin =>
    rw [hin, ho]
    exact inbound_of_fits (hfit ev ho)
  | pop ev hpop =>
    subst hpop
    cases ha
  | remove hrem =>
    rcases hrem with rfl | rfl
    all_goals cases ha
  | setMax n hset hin =>
    subst hset
    rw [hin]
    exact (List.append_nil _).symm
  | keep ho hpop hin =>
    rw [ho, hin]
    exact (List.append_nil _).symm

/-- What a step does to the consumer, when the queue does not overflow. -/
inductive ConsumerStep (w : Consumer) : ConsumerAct → Consumer → Prop
  | arrive (a : Act) (m : Mux)
      (hin : m.tasks.shared.inbound = w.queue ++ (w.mux.offered a).toList) :
      ConsumerStep w (.client a)
        { w with mux := m, arrived := w.arrived ++ (w.mux.offered a).toList }
  | read (ev : ℕ × Json) (m : Mux) (hin : w.queue = ev :: m.tasks.shared.inbound) :
      ConsumerStep w .read
        { w with mux := m, hand := some ev, consumed := w.consumed ++ w.hand.toList }
  | putBack (ev : ℕ × Json) (m : Mux) (hhand : w.hand = some ev)
      (hin : m.tasks.shared.inbound =
        w.queue ++ if ev.2.asObject?.isSome then [ev] else []) :
      ConsumerStep w .putBack { w with mux := m, hand := none }

/-- **Steps of a consumer.** -/
theorem consumerStep_inv (hfit : Fits w a) (h : w.step a = some w') : ConsumerStep w a w' := by
  cases a with
  | client a =>
    simp only [Consumer.step] at h
    split_ifs at h with ha
    obtain ⟨m, hm, rfl⟩ := Option.map_eq_some_iff.1 h
    exact .arrive a m (inbound_client (Bool.eq_false_iff.2 ha) hfit hm)
  | read =>
    simp only [Consumer.step] at h
    split at h
    · cases h
    · rename_i ev q hq
      obtain ⟨m, hm, rfl⟩ := Option.map_eq_some_iff.1 h
      refine .read ev m ?_
      cases queueStep_inv hm with
      | offer ev ho => cases ho
      | pop f _ hin =>
        have hhead : ev = f := (List.cons.inj (hq.symm.trans hin)).1
        rw [hhead]
        exact hin
      | remove hrem => rcases hrem with hrem | hrem <;> cases hrem
      | setMax n hset => cases hset
      | keep _ hpop => exact absurd rfl hpop
  | putBack =>
    simp only [Consumer.step] at h
    split at h
    · cases h
    · rename_i ev hhand
      obtain ⟨m, hm, rfl⟩ := Option.map_eq_some_iff.1 h
      refine .putBack ev m hhand ?_
      obtain rfl := Option.some.inj hm
      by_cases hobj : ev.2.asObject?.isSome = true
      · have hlost : w.mux.tasks.shared.lost ev = none :=
          hfit ev (Option.mem_def.2 (by simp [Consumer.offered, hhand, hobj]))
        rw [Mux.push_object hobj, if_pos hobj]
        exact inbound_of_fits hlost
      · rw [Mux.push_other (Bool.eq_false_iff.2 hobj), if_neg hobj]
        exact (List.append_nil _).symm

/-- The event goes behind what is queued, which must not tell. -/
theorem orderKept_putBack (hord : w.Ordered) (hhand : w.hand = some ev)
    (hin : m.tasks.shared.inbound = w.queue ++ if ev.2.asObject?.isSome then [ev] else []) :
    OrderKept w .putBack { w with mux := m, hand := none } ↔ PutsBackAlone w .putBack := by
  have hold : w.consumed.map Prod.snd ++ (ev.2 :: w.queue.map Prod.snd) =
      w.arrived.map Prod.snd := by
    have h := hord
    unfold Consumer.Ordered at h
    rw [hhand, List.map_append, List.map_append, List.append_assoc] at h
    exact h
  have hnew : ({ w with mux := m, hand := none } : Consumer).Ordered ↔
      (w.queue ++ if ev.2.asObject?.isSome then [ev] else []).map Prod.snd =
        ev.2 :: w.queue.map Prod.snd := by
    unfold Consumer.Ordered
    show (w.consumed ++ [] ++ m.tasks.shared.inbound).map Prod.snd = w.arrived.map Prod.snd ↔ _
    rw [List.append_nil, hin, List.map_append, ← hold, List.append_cancel_left_eq]
  have halone : PutsBackAlone w .putBack ↔
      ev.2.asObject?.isSome = true ∧ ∀ f ∈ w.queue, f.2 = ev.2 := by
    unfold PutsBackAlone
    rw [hhand]
    exact ⟨fun h => h rfl ev rfl, fun h _ ev' hev' => Option.some.inj hev' ▸ h⟩
  unfold OrderKept
  rw [hnew, halone]
  by_cases hobj : ev.2.asObject?.isSome = true
  · rw [if_pos hobj, List.map_append, List.map_singleton, concat_eq_cons_iff, List.forall_mem_map]
    refine ⟨fun h => ⟨hobj, h.1⟩, fun h => ⟨h.2, fun _ => ?_⟩⟩
    have hhead : (w.queue ++ [ev]).map Prod.snd = ev.2 :: w.queue.map Prod.snd := by
      rw [List.map_append, List.map_singleton, concat_eq_cons_iff, List.forall_mem_map]
      exact h.2
    show m.tasks.shared.inbound.head?.map Prod.snd = _
    rw [hin, if_pos hobj, ← List.head?_map, hhead, hhand]
    rfl
  · rw [if_neg hobj, List.append_nil]
    refine iff_of_false (fun h => ?_) fun h => hobj h.1
    have hlen := congrArg List.length h.1
    rw [List.length_cons] at hlen
    omega

/-- A step keeps the order, unless it puts an event back behind others. -/
theorem orderKept_iff (hord : w.Ordered) (hfit : Fits w a) (h : w.step a = some w') :
    OrderKept w a w' ↔ PutsBackAlone w a := by
  unfold Consumer.Ordered at hord
  cases consumerStep_inv hfit h with
  | arrive a m hin =>
    refine iff_of_true ⟨?_, fun ha => nomatch ha⟩ fun ha => nomatch ha
    show (w.consumed ++ w.hand.toList ++ m.tasks.shared.inbound).map Prod.snd =
      (w.arrived ++ (w.mux.offered a).toList).map Prod.snd
    rw [hin, ← List.append_assoc, List.map_append, hord, List.map_append]
  | read ev m hin =>
    refine iff_of_true ⟨?_, fun ha => nomatch ha⟩ fun ha => nomatch ha
    show (w.consumed ++ w.hand.toList ++ [ev] ++ m.tasks.shared.inbound).map Prod.snd =
      w.arrived.map Prod.snd
    rw [List.append_assoc _ [ev], List.singleton_append, ← hin, hord]
  | putBack ev m hhand hin => exact orderKept_putBack hord hhand hin

/-- **Re-queueing.** In a run in which the queue does not overflow, every step keeps the events in
the order of their arrival and every event that is put back is the next, if and only if events are
put back only while nothing else is queued. -/
theorem requeue_order (maxInbound : ℕ) (writeTx : Option ℕ) (writerUp : ℕ → Bool)
    (run : List ConsumerAct) (w : Consumer)
    (hfit : Lts.Guarded Consumer.step Fits (.start maxInbound writeTx writerUp) run)
    (h : Lts.exec Consumer.step (.start maxInbound writeTx writerUp) run = some w) :
    Lts.Every Consumer.step OrderKept (.start maxInbound writeTx writerUp) run ↔
      Lts.Guarded Consumer.step PutsBackAlone (.start maxInbound writeTx writerUp) run :=
  Lts.every_iff_guarded (I := Consumer.Ordered)
    (fun _ _ _ hord hfit hG hs => ((orderKept_iff hord hfit hs).2 hG).1)
    (fun _ _ _ hord hfit hs => orderKept_iff hord hfit hs) rfl hfit h

/-! ## Two frames -/

/-- A frame with a text. -/
def textFrame (text : String) : Json := .obj [("content", .str text)]

/-- A call of `route_inbound` with a frame, to its end. -/
def arrival (n : ℕ) (text : String) : List ConsumerAct :=
  [.client (.route n (textFrame text)), .client (.step n), .client (.step n), .client (.step n)]

instance (w : Consumer) (a : ConsumerAct) : Decidable (Fits w a) :=
  inferInstanceAs (Decidable (∀ ev ∈ w.offered a, w.mux.tasks.shared.lost ev = none))

/-- The first of two events is put back before the second arrives. -/
theorem requeue_order_alone : Lts.Every Consumer.step OrderKept (.start 2 none fun _ => true)
    (arrival 0 "a" ++ [.read, .putBack] ++ (arrival 1 "b" ++ [.read, .read])) := by
  refine (requeue_order 2 none (fun _ => true) _ _ (by decide +kernel) rfl).2 ?_
  have hother : ∀ (as : List ConsumerAct) (t : Consumer), (∀ a ∈ as, a ≠ .putBack) →
      Lts.Guarded Consumer.step PutsBackAlone t as := fun as t hne =>
    (Lts.guarded_of_labels hne).mono fun _ _ hne ha => absurd ha hne
  refine Lts.guarded_append.2 ⟨Lts.guarded_append.2 ⟨hother _ _ (by simp [arrival]), ?_⟩,
    fun t _ => hother _ t (by simp [arrival])⟩
  rintro t ht
  obtain rfl := Option.some.inj ht
  refine ⟨(fun ha => nomatch ha), fun u hu => ⟨fun _ ev hev => ?_, fun _ _ => trivial⟩⟩
  obtain rfl := Option.some.inj hu
  obtain rfl := Option.some.inj hev
  exact ⟨rfl, fun f hf => nomatch hf⟩

/-- The first of two events is put back behind the second. -/
theorem requeue_order_fails : ¬ ∀ (maxInbound : ℕ) (run : List ConsumerAct) (w : Consumer),
    Lts.Guarded Consumer.step Fits (.start maxInbound none fun _ => true) run →
    Lts.exec Consumer.step (.start maxInbound none fun _ => true) run = some w →
    Lts.Every Consumer.step OrderKept (.start maxInbound none fun _ => true) run := by
  intro h
  have hevery := h 2 (arrival 0 "a" ++ arrival 1 "b" ++ [.read, .putBack]) _
    (by decide +kernel) rfl
  have hlast := hevery (arrival 0 "a" ++ arrival 1 "b" ++ [.read]) .putBack [] _ _ rfl rfl rfl
  have hnext := hlast.2 rfl
  have htexts := congrArg (Option.bind · fun ev => ev.getStr "content") hnext
  exact absurd htexts (by decide +kernel)

end SootheClient.Client
