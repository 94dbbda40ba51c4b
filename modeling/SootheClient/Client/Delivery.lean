import SootheClient.Client.Forwarder

/-!
# Delivery at a disconnect

A forwarder that finds the connection dead exits, also when a frame came in after it found the
queue empty. And one that found the connection alive waits for a notification that may be over.
-/

namespace SootheClient.Client

open SootheClient.Frame

variable {w w' : Forwarding} {a : Move} {s : Shared} {ev : ℕ × Json}

/-- What a step does. -/
inductive Moved (w : Forwarding) : Move → Forwarding → Prop
  | deliver (ev : ℕ × Json) (hr : w.reader = .reading) :
      Moved w (.deliver ev) { w with reader := .enqueueing ev }
  | lose (hr : w.reader = .reading) :
      Moved w .lose { w with reader := .marking (markDisconnected .unclean) }
  | enqueue (ev : ℕ × Json) (hr : w.reader = .enqueueing ev) :
      Moved w .reader { w with
        shared := w.shared.enqueuePendingLocked ev
        reader := .notifying
        queued := w.queued ++ if w.shared.refuses ev then [] else [ev]
        evicted := w.evicted ++ w.shared.evicts ev }
  | notify (hr : w.reader = .notifying) :
      Moved w .reader { w with notify := w.notify.notifyOne, reader := .reading }
  | mark (u : Update) (rest : List Update) (hr : w.reader = .marking (u :: rest)) :
      Moved w .reader { w with shared := w.shared.update u, reader := .marking rest }
  | wake (hr : w.reader = .marking []) :
      Moved w .reader { w with notify := w.notify.notifyWaiters, reader := .done }
  | pop (ev : ℕ × Json) (q : List (ℕ × Json)) (hf : w.forwarder = .popping)
      (hq : w.shared.inbound = ev :: q) :
      Moved w .forward { w with shared := { w.shared with inbound := q }, forwarder := .sending ev }
  | empty (hf : w.forwarder = .popping) (hq : w.shared.inbound = []) :
      Moved w .forward { w with forwarder := .checking }
  | send (ev : ℕ × Json) (hf : w.forwarder = .sending ev) :
      Moved w .forward { w with channel := w.channel ++ [ev], forwarder := .popping }
  | alive (hf : w.forwarder = .checking) (ha : w.shared.isConnectionAlive = true) :
      Moved w .forward { w with forwarder := .creating }
  | dead (hf : w.forwarder = .checking) (ha : w.shared.isConnectionAlive = false) :
      Moved w .forward { w with forwarder := .exited }
  | create (hf : w.forwarder = .creating) :
      Moved w .forward { w with forwarder := .polling w.notify.calls }
  | permit (created : ℕ) (hf : w.forwarder = .polling created) (hp : w.notify.permit = true) :
      Moved w .forward { w with notify := { w.notify with permit := false }, forwarder := .popping }
  | called (created : ℕ) (hf : w.forwarder = .polling created) (hc : w.notify.calls ≠ created) :
      Moved w .forward { w with forwarder := .popping }
  | park (created : ℕ) (hf : w.forwarder = .polling created) (hp : w.notify.permit = false)
      (hc : w.notify.calls = created) :
      Moved w .forward { w with
        notify := { w.notify with waiting := w.notify.waiting ++ [()] }
        forwarder := .parked }
  | woken (hf : w.forwarder = .parked) (hw : () ∉ w.notify.waiting) :
      Moved w .forward { w with forwarder := .popping }
  | receive (ev : ℕ × Json) (rest : List (ℕ × Json)) (hc : w.channel = ev :: rest) :
      Moved w .receive { w with channel := rest, received := w.received ++ [ev] }

theorem readerStep_moved (h : w.readerStep = some w') : Moved w .reader w' := by
  unfold Forwarding.readerStep at h
  split at h
  · cases h
  · cases h
  · rename_i ev hr
    obtain rfl := Option.some.inj h
    exact .enqueue ev hr
  · rename_i hr
    obtain rfl := Option.some.inj h
    exact .notify hr
  · rename_i u rest hr
    obtain rfl := Option.some.inj h
    exact .mark u rest hr
  · rename_i hr
    obtain rfl := Option.some.inj h
    exact .wake hr

theorem poll_moved {created : ℕ} (hf : w.forwarder = .polling created) :
    Moved w .forward { w with
      notify := (w.notify.poll () created).2
      forwarder := if (w.notify.poll () created).1 then .popping else .parked } := by
  obtain ⟨hp, heq⟩ | ⟨hp, hc, heq⟩ | ⟨hp, hc, heq⟩ :=
    w.notify.poll_cases () created
  · rw [heq]
    exact .permit created hf hp
  · rw [heq]
    exact .called created hf hc
  · rw [heq]
    exact .park created hf hp hc

theorem forwardStep_moved (h : w.forwardStep = some w') : Moved w .forward w' := by
  unfold Forwarding.forwardStep at h
  cases hf : w.forwarder with
  | popping =>
    rw [hf] at h
    unfold Shared.popFront at h
    cases hq : w.shared.inbound with
    | nil =>
      rw [hq] at h
      obtain rfl := Option.some.inj h
      exact .empty hf hq
    | cons ev q =>
      rw [hq] at h
      obtain rfl := Option.some.inj h
      exact .pop ev q hf hq
  | sending ev =>
    rw [hf] at h
    simp only at h
    split_ifs at h
    obtain rfl := Option.some.inj h
    exact .send ev hf
  | checking =>
    rw [hf] at h
    obtain rfl := Option.some.inj h
    cases ha : w.shared.isConnectionAlive with
    | true => exact .alive hf ha
    | false => exact .dead hf ha
  | creating =>
    rw [hf] at h
    obtain rfl := Option.some.inj h
    exact .create hf
  | polling created =>
    rw [hf] at h
    obtain rfl := Option.some.inj h
    exact poll_moved hf
  | parked =>
    rw [hf] at h
    simp only at h
    split_ifs at h with hw
    obtain rfl := Option.some.inj h
    exact .woken hf hw
  | exited =>
    rw [hf] at h
    cases h

/-- **Steps.** -/
theorem step_moved (h : w.step a = some w') : Moved w a w' := by
  cases a with
  | deliver ev =>
    simp only [Forwarding.step] at h
    split at h
    · rename_i hr
      obtain rfl := Option.some.inj h
      exact .deliver ev hr
    · cases h
  | lose =>
    simp only [Forwarding.step] at h
    split at h
    · rename_i hr
      obtain rfl := Option.some.inj h
      exact .lose hr
    · cases h
  | reader => exact readerStep_moved h
  | forward => exact forwardStep_moved h
  | receive =>
    simp only [Forwarding.step] at h
    split at h
    · cases h
    · rename_i ev rest hc
      obtain rfl := Option.some.inj h
      exact .receive ev rest hc

/-! ## The books -/

/-- The frame in the hand of the forwarder. -/
def ForwarderPc.hand : ForwarderPc → List (ℕ × Json)
  | .sending ev => [ev]
  | .popping | .checking | .creating | .polling _ | .parked | .exited => []

/-- What the forwarder took off the queue, in order. -/
def Forwarding.taken (w : Forwarding) : List (ℕ × Json) :=
  w.received ++ w.channel ++ w.forwarder.hand

/-- A frame that is refused changes nothing in the queue. -/
theorem inbound_of_refuses (h : s.refuses ev = true) :
    (s.enqueuePendingLocked ev).inbound = s.inbound := by
  unfold Shared.refuses at h
  simp only [Bool.and_eq_true, decide_eq_true_eq, Option.isNone_iff_eq_none] at h
  obtain ⟨⟨hfull, hnone⟩, hnormal⟩ := h
  unfold Shared.enqueuePendingLocked
  rw [if_neg (not_lt.2 hfull), hnone]
  change (if DROP_PRIORITY_NORMAL ≤ dropPriority ev then s.noteInboundDrop else _).inbound = _
  rw [if_pos hnormal]
  rfl

/-- A frame comes in, and is refused or costs the frames that are evicted. -/
theorem balanced_feed {queued taken : List (ℕ × Json)} {gone : Multiset (ℕ × Json)}
    (h : Ledger.Balanced queued taken gone s.inbound) :
    Ledger.Balanced (queued ++ if s.refuses ev then [] else [ev]) taken (gone + s.evicts ev)
      (s.enqueuePendingLocked ev).inbound := by
  unfold Shared.evicts
  by_cases href : s.refuses ev = true
  · rw [if_pos href, if_pos href, List.append_nil, Multiset.coe_nil, add_zero,
      inbound_of_refuses href]
    exact h
  · obtain ⟨q, b, heq, hadm⟩ := enqueue_eq s ev
    rw [if_neg href, if_neg href, heq]
    exact h.offer hadm.perm hadm.sublist

theorem isConnectionAlive_enqueue (s : Shared) (ev : ℕ × Json) :
    (s.enqueuePendingLocked ev).isConnectionAlive = s.isConnectionAlive := by
  obtain ⟨q, b, heq, -⟩ := enqueue_eq s ev
  rw [heq]
  rfl

/-- `mark_disconnected` leaves the queue alone; the connection is lost after its first update. -/
theorem mark_inbound {u : Update} {rest : List Update}
    (h : u :: rest <:+ markDisconnected .unclean) : (s.update u).inbound = s.inbound ∧
      (u :: rest = markDisconnected .unclean ∨ s.isConnectionAlive = false →
        (s.update u).isConnectionAlive = false) := by
  unfold Shared.isConnectionAlive
  rcases mark_cases h with ⟨rfl, rfl⟩ | ⟨rfl, rfl⟩ | ⟨rfl, rfl⟩ | ⟨rfl, rfl⟩ | ⟨rfl, rfl⟩
  · exact ⟨rfl, fun _ => Bool.and_false _⟩
  · exact ⟨rfl, fun _ => rfl⟩
  all_goals exact ⟨rfl, fun h => h.resolve_left nofun⟩

/-- The books balance. -/
def Forwarding.Balanced (w : Forwarding) : Prop :=
  Ledger.Balanced w.queued w.taken w.evicted w.shared.inbound

/-- No step loses a frame that it does not write down. -/
theorem books_moved (h : Moved w a w')
    (hm : ∀ rest, w.reader = .marking rest → rest <:+ markDisconnected .unclean)
    (hw : w.Balanced) : w'.Balanced := by
  unfold Forwarding.Balanced Forwarding.taken at hw ⊢
  cases h with
  | deliver | lose | notify | wake => exact hw
  | enqueue ev =>
    rw [← Multiset.coe_add]
    exact balanced_feed hw
  | mark u rest hr =>
    rw [(mark_inbound (hm _ hr)).1]
    exact hw
  | pop ev q hf hq =>
    rw [hf, hq] at hw
    simpa only [ForwarderPc.hand, List.append_nil, List.append_assoc] using hw.take
  | send ev hf =>
    rw [hf] at hw
    simpa only [ForwarderPc.hand, List.append_nil, List.append_assoc] using hw
  | empty hf | alive hf | dead hf | create hf | permit _ hf | called _ hf | park _ hf | woken hf =>
    rw [hf] at hw
    exact hw
  | receive ev rest hc =>
    rw [hc] at hw
    simpa only [List.append_assoc, List.singleton_append] using hw

/-! ## What the two tasks know -/

/-- The connection was not found lost. -/
def FeederPc.early : FeederPc → Bool
  | .reading | .enqueueing _ | .notifying => true
  | .marking _ | .done => false

/-- What holds of every state. -/
structure Sound (w : Forwarding) : Prop where
  capacity : 0 < w.capacity
  books : w.Balanced
  early : w.reader.early = true → w.shared.isConnectionAlive = true
  marks : ∀ rest, w.reader = .marking rest → rest <:+ markDisconnected .unclean
  marked : ∀ rest, w.reader = .marking rest →
    rest = markDisconnected .unclean ∨ w.shared.isConnectionAlive = false
  done : w.reader = .done → w.shared.isConnectionAlive = false
  exited : w.forwarder = .exited → w.reader.early = false
  created : ∀ c, w.forwarder = .polling c → c ≤ w.notify.calls

/-- The forwarder changes neither the reader nor the connection. -/
theorem forward_frame (h : Moved w .forward w') : w'.reader = w.reader ∧
    w'.shared.isConnectionAlive = w.shared.isConnectionAlive ∧ w'.capacity = w.capacity ∧
      w'.notify.calls = w.notify.calls := by
  cases h <;> exact ⟨rfl, rfl, rfl, rfl⟩

/-- What the forwarder knows when it exits, and when it has created its future. -/
theorem forward_learns (h : Moved w .forward w') :
    (w'.forwarder = .exited → w.shared.isConnectionAlive = false) ∧
      ∀ c, w'.forwarder = .polling c → c ≤ w.notify.calls := by
  cases h with
  | dead hf ha => exact ⟨fun _ => ha, nofun⟩
  | create hf =>
    refine ⟨nofun, fun c hc => ?_⟩
    obtain rfl := ForwarderPc.polling.inj hc
    exact le_rfl
  | pop | empty | send | alive | permit | called | park | woken => exact ⟨nofun, nofun⟩

/-- A move of the forwarder keeps what holds of every state. -/
theorem sound_forward (hw : Sound w) (h : Moved w .forward w') : Sound w' := by
  obtain ⟨hr, ha, hc, hn⟩ := forward_frame h
  obtain ⟨hexit, hcreated⟩ := forward_learns h
  refine ⟨?_, books_moved h hw.marks hw.books, ?_, ?_, ?_, ?_, ?_, ?_⟩
  · rw [hc]
    exact hw.capacity
  · rw [hr, ha]
    exact hw.early
  · rw [hr]
    exact hw.marks
  · rw [hr, ha]
    exact hw.marked
  · rw [hr, ha]
    exact hw.done
  · intro hf
    rw [hr]
    by_contra hearly
    have halive := hw.early (Bool.not_eq_false _ ▸ hearly)
    rw [hexit hf] at halive
    cases halive
  · rw [hn]
    exact hcreated

/-- A move of the reader keeps what holds of every state. -/
theorem sound_reader (hw : Sound w) (h : Moved w .reader w') : Sound w' := by
  have hbooks := books_moved h hw.marks hw.books
  cases h with
  | enqueue ev hr =>
    have hearly : w.reader.early = true := by rw [hr]; rfl
    refine ⟨hw.capacity, hbooks, fun _ => ?_, nofun, nofun, nofun, fun hf => ?_, hw.created⟩
    · rw [← hw.early hearly]
      exact isConnectionAlive_enqueue _ _
    · rw [hw.exited hf] at hearly
      cases hearly
  | notify hr =>
    have hearly : w.reader.early = true := by rw [hr]; rfl
    refine ⟨hw.capacity, hbooks, fun _ => hw.early hearly, nofun, nofun, nofun, fun hf => ?_, ?_⟩
    · rw [hw.exited hf] at hearly
      cases hearly
    · simpa only [Notify.calls_notifyOne] using hw.created
  | mark u rest hr =>
    have hsuffix := hw.marks _ hr
    have hdead := (mark_inbound hsuffix).2 (hw.marked _ hr)
    refine ⟨hw.capacity, hbooks, nofun, ?_, fun _ _ => Or.inr hdead, nofun, fun _ => rfl,
      hw.created⟩
    intro rest' hrest
    obtain rfl := FeederPc.marking.inj hrest
    exact (List.suffix_cons u rest).trans hsuffix
  | wake hr =>
    refine ⟨hw.capacity, hbooks, nofun, nofun, nofun, fun _ => ?_, fun _ => rfl, fun c hc => ?_⟩
    · exact (hw.marked _ hr).resolve_left nofun
    · exact (hw.created c hc).trans (Nat.le_succ _)

/-- **Invariant.** Every step keeps it. -/
theorem sound_moved (hw : Sound w) (h : Moved w a w') : Sound w' := by
  have hbooks := books_moved h hw.marks hw.books
  cases a with
  | reader => exact sound_reader hw h
  | forward => exact sound_forward hw h
  | deliver =>
    cases h with
    | deliver ev hr =>
      have hearly : w.reader.early = true := by rw [hr]; rfl
      refine ⟨hw.capacity, hbooks, fun _ => hw.early hearly, nofun, nofun, nofun, fun hf => ?_,
        hw.created⟩
      rw [hw.exited hf] at hearly
      cases hearly
  | lose =>
    cases h with
    | lose hr =>
      refine ⟨hw.capacity, hbooks, nofun, fun rest hrest => ?_, fun rest hrest => ?_, nofun,
        fun _ => rfl, hw.created⟩
      · exact FeederPc.marking.inj hrest ▸ List.suffix_refl _
      · exact Or.inl (FeederPc.marking.inj hrest).symm
  | receive =>
    cases h with
    | receive ev rest hc =>
      exact ⟨hw.capacity, hbooks, hw.early, hw.marks, hw.marked, hw.done, hw.exited, hw.created⟩

theorem sound_start (buffer maxInbound : ℕ) (q : List (ℕ × Json)) (permit : Bool) :
    Sound (Forwarding.start buffer maxInbound q permit) where
  capacity := by
    unfold Forwarding.start
    split_ifs with h
    · exact Nat.succ_pos 99
    · show 0 < buffer
      omega
  books := Ledger.balanced_self q
  early _ := rfl
  marks _ := nofun
  marked _ := nofun
  done := nofun
  exited := nofun
  created _ := nofun

/-! ## The fate of the forwarder -/

/-- The forwarder left no frame behind, and it does not wait for a notification that is over. -/
def Fine (w : Forwarding) : Prop :=
  match w.forwarder with
  | .popping | .sending _ | .checking => True
  | .creating => w.reader = .done → w.notify.permit = true
  | .polling created => w.reader = .done → w.notify.permit = true ∨ w.notify.calls ≠ created
  | .parked => w.reader = .done → () ∉ w.notify.waiting
  | .exited => w.shared.inbound = []

/-- Before the reader is done, only an exit can have gone wrong. -/
theorem fine_iff (h : w.reader ≠ .done) :
    Fine w ↔ (w.forwarder = .exited → w.shared.inbound = []) := by
  unfold Fine
  cases w.forwarder with
  | popping | sending | checking => exact ⟨fun _ => nofun, fun _ => trivial⟩
  | creating | polling | parked => exact ⟨fun _ => nofun, fun _ hdone => absurd hdone h⟩
  | exited => exact ⟨fun hq _ => hq, fun hq => hq rfl⟩

/-- While frames come in, nothing has gone wrong. -/
theorem fine_of_early (hw : Sound w) (h : w.reader.early = true) : Fine w := by
  have hne : w.reader ≠ .done := by
    intro hdone
    rw [hdone] at h
    cases h
  refine (fine_iff hne).2 fun hf => ?_
  rw [hw.exited hf] at h
  cases h

/-- **Fate.** What a move of the reader does to it. -/
theorem fine_reader (hw : Sound w) (h : Moved w .reader w') :
    Fine w' ↔ Fine w ∧ Smooth w .reader := by
  have hw' := sound_reader hw h
  have hsmooth : w.reader ≠ .marking [] → Smooth w .reader := fun hne hr => absurd hr hne
  cases h with
  | enqueue ev hr =>
    have hsm := hsmooth (by rw [hr]; exact nofun)
    exact iff_of_true (fine_of_early hw' rfl) ⟨fine_of_early hw (by rw [hr]; rfl), hsm⟩
  | notify hr =>
    have hsm := hsmooth (by rw [hr]; exact nofun)
    exact iff_of_true (fine_of_early hw' rfl) ⟨fine_of_early hw (by rw [hr]; rfl), hsm⟩
  | mark u rest hr =>
    have hsm := hsmooth (by rw [hr]; exact nofun)
    have hbefore : Fine w ↔ _ := fine_iff (by rw [hr]; exact nofun)
    have hafter : Fine { w with shared := w.shared.update u, reader := .marking rest } ↔ _ :=
      fine_iff nofun
    rw [and_iff_left hsm, hbefore, hafter]
    simp only [(mark_inbound (hw.marks _ hr)).1]
  | wake hr =>
    -- The parked forwarder is woken, and a future that exists already is ready.
    have hbefore : Fine w ↔ _ := fine_iff (by rw [hr]; exact nofun)
    rw [hbefore]
    unfold Smooth Fine
    cases hf : w.forwarder with
    | popping | sending | checking => exact iff_of_true trivial ⟨nofun, fun _ => nofun⟩
    | creating => exact ⟨fun hp => ⟨nofun, fun _ _ => hp rfl⟩, fun h _ => h.2 hr rfl⟩
    | polling c =>
      have hle : c ≤ w.notify.calls := hw.created c hf
      have hne : w.notify.calls + 1 ≠ c := by omega
      exact iff_of_true (fun _ => Or.inr hne) ⟨nofun, fun _ => nofun⟩
    | parked => exact iff_of_true (fun _ => nofun) ⟨nofun, fun _ => nofun⟩
    | exited => exact ⟨fun hq => ⟨fun _ => hq, fun _ => nofun⟩, fun h => h.1 rfl⟩

/-- What a move of the forwarder does to it. -/
theorem fine_forward (hw : Sound w) (h : Moved w .forward w') :
    Fine w' ↔ Fine w ∧ Smooth w .forward := by
  have hsmooth : w.forwarder ≠ .checking → Smooth w .forward := fun hne hf => absurd hf hne
  cases h with
  | pop _ _ hf | empty hf | send _ hf =>
    have hsm := hsmooth (by rw [hf]; exact nofun)
    unfold Fine
    rw [hf]
    exact iff_of_true trivial ⟨trivial, hsm⟩
  | alive hf ha =>
    -- The reader is not done while the connection is alive.
    have hsm : Smooth w .forward := fun _ hdead => by rw [ha] at hdead; cases hdead
    have hne : w.reader ≠ .done := by
      intro hdone
      rw [hw.done hdone] at ha
      cases ha
    unfold Fine
    rw [hf]
    exact iff_of_true (fun hdone => absurd hdone hne) ⟨trivial, hsm⟩
  | dead hf ha =>
    unfold Fine Smooth
    rw [hf]
    exact ⟨fun hq => ⟨trivial, fun _ _ => hq⟩, fun h => h.2 rfl ha⟩
  | create hf =>
    have hsm := hsmooth (by rw [hf]; exact nofun)
    rw [and_iff_left hsm]
    unfold Fine
    rw [hf]
    exact forall_congr' fun _ => or_iff_left fun hne => hne rfl
  | permit c hf hp =>
    have hsm := hsmooth (by rw [hf]; exact nofun)
    unfold Fine
    rw [hf]
    exact iff_of_true trivial ⟨fun _ => Or.inl hp, hsm⟩
  | called c hf hc =>
    have hsm := hsmooth (by rw [hf]; exact nofun)
    unfold Fine
    rw [hf]
    exact iff_of_true trivial ⟨fun _ => Or.inr hc, hsm⟩
  | park c hf hp hc =>
    have hsm := hsmooth (by rw [hf]; exact nofun)
    have hlost : ¬(w.notify.permit = true ∨ w.notify.calls ≠ c) := by
      rw [hp, hc]
      exact fun h => h.elim nofun fun hne => hne rfl
    have hwaits : () ∈ w.notify.waiting ++ [()] := List.mem_append_right _ List.mem_cons_self
    rw [and_iff_left hsm]
    unfold Fine
    rw [hf]
    exact forall_congr' fun _ => iff_of_false (fun h => h hwaits) hlost
  | woken hf hwait =>
    have hsm := hsmooth (by rw [hf]; exact nofun)
    unfold Fine
    rw [hf]
    exact iff_of_true trivial ⟨fun _ => hwait, hsm⟩

/-- A step goes wrong exactly where it is not smooth, and what went wrong stays so. -/
theorem fine_moved (hw : Sound w) (h : Moved w a w') : Fine w' ↔ Fine w ∧ Smooth w a := by
  have hw' := sound_moved hw h
  cases a with
  | reader => exact fine_reader hw h
  | forward => exact fine_forward hw h
  | deliver =>
    cases h with
    | deliver ev hr =>
      exact iff_of_true (fine_of_early hw' rfl) ⟨fine_of_early hw (by rw [hr]; rfl), trivial⟩
  | lose =>
    cases h with
    | lose hr =>
      have hearly : w.reader.early = true := by rw [hr]; rfl
      have hafter : Fine { w with reader := .marking (markDisconnected .unclean) } ↔ _ :=
        fine_iff nofun
      refine iff_of_true (hafter.2 fun hf => ?_) ⟨fine_of_early hw hearly, trivial⟩
      rw [hw.exited hf] at hearly
      cases hearly
  | receive =>
    cases h with
    | receive => exact (and_iff_left trivial).symm

/-- A step evicts a frame exactly where there is no room, and what is evicted stays so. -/
theorem evicted_moved (h : Moved w a w') : w'.evicted = [] ↔ w.evicted = [] ∧ Roomy w a := by
  cases h with
  | enqueue ev hr =>
    have hroomy : Roomy w .reader ↔ w.shared.evicts ev = [] := by
      refine ⟨fun h => h ev hr, fun h ev' hr' => ?_⟩
      obtain rfl := FeederPc.enqueueing.inj (hr.symm.trans hr')
      exact h
    rw [hroomy]
    exact List.append_eq_nil_iff
  | notify hr | mark _ _ hr | wake hr =>
    have hroomy : Roomy w .reader := fun ev hr' => by rw [hr] at hr'; cases hr'
    exact (and_iff_left hroomy).symm
  | deliver | lose | pop | empty | send | alive | dead | create | permit | called | park | woken
  | receive => exact (and_iff_left trivial).symm

/-! ## Runs -/

theorem sound_step (w : Forwarding) (a : Move) (w' : Forwarding) (hw : Sound w)
    (h : w.step a = some w') : Sound w' :=
  sound_moved hw (step_moved h)

/-- A forwarder that nothing went wrong with comes to its end at the empty queue. -/
theorem exited_of_quiescent (hw : Sound w) (hq : Quiescent w) (hf : Fine w) :
    w.forwarder = .exited ∧ w.shared.inbound = [] := by
  have hstuck := hq.forwarder
  unfold Forwarding.forwardStep at hstuck
  unfold Fine at hf
  cases hpc : w.forwarder with
  | popping =>
    rw [hpc] at hstuck
    simp only at hstuck
    split at hstuck <;> cases hstuck
  | sending ev =>
    rw [hpc] at hstuck
    simp only at hstuck
    have hroom : w.channel.length < w.capacity := by
      rw [hq.channel]
      exact hw.capacity
    rw [if_pos hroom] at hstuck
    cases hstuck
  | checking | creating | polling =>
    rw [hpc] at hstuck
    cases hstuck
  | parked =>
    rw [hpc] at hstuck hf
    simp only at hstuck
    rw [if_neg (hf hq.reader)] at hstuck
    cases hstuck
  | exited =>
    rw [hpc] at hf
    exact ⟨rfl, hf⟩

/-- What is queued, received and evicted at the end. -/
theorem queued_of_quiescent (hw : Sound w) (hq : Quiescent w) (hf : w.forwarder = .exited) :
    (w.queued : Multiset (ℕ × Json)) = w.shared.inbound + w.received + w.evicted ∧
      (w.received ++ w.shared.inbound).Sublist w.queued := by
  have htaken : w.taken = w.received := by
    unfold Forwarding.taken
    rw [hf, hq.channel]
    exact (List.append_nil _).trans (List.append_nil _)
  have hbooks := hw.books
  unfold Forwarding.Balanced at hbooks
  rw [htaken] at hbooks
  exact ⟨hbooks.conserved, hbooks.order⟩

theorem exhausted_iff (hw : Sound w) (hq : Quiescent w) : Exhausted w ↔ Fine w := by
  constructor
  · rintro ⟨hf, hall⟩
    obtain ⟨hqueued, -⟩ := queued_of_quiescent hw hq hf
    unfold Fine
    rw [hf]
    rw [hqueued, add_assoc] at hall
    exact (Multiset.coe_eq_zero _).1 (right_eq_add.1 hall.symm)
  · intro hfine
    obtain ⟨hf, hempty⟩ := exited_of_quiescent hw hq hfine
    obtain ⟨hqueued, -⟩ := queued_of_quiescent hw hq hf
    rw [hempty, Multiset.coe_nil, zero_add] at hqueued
    exact ⟨hf, hqueued⟩

theorem delivered_iff (hw : Sound w) (hq : Quiescent w) :
    Delivered w ↔ Fine w ∧ w.evicted = [] := by
  constructor
  · rintro ⟨hf, hall⟩
    obtain ⟨hqueued, -⟩ := queued_of_quiescent hw hq hf
    have hcard := congrArg Multiset.card hqueued
    simp only [Multiset.card_add, Multiset.coe_card, hall] at hcard
    unfold Fine
    rw [hf]
    exact ⟨List.eq_nil_of_length_eq_zero (by omega), List.eq_nil_of_length_eq_zero (by omega)⟩
  · rintro ⟨hfine, hkept⟩
    obtain ⟨hf, hempty⟩ := exited_of_quiescent hw hq hfine
    obtain ⟨hqueued, horder⟩ := queued_of_quiescent hw hq hf
    rw [hempty, hkept, Multiset.coe_nil, zero_add, add_zero] at hqueued
    rw [hempty, List.append_nil] at horder
    exact ⟨hf, horder.eq_of_length (Multiset.coe_eq_coe.1 hqueued).length_eq.symm⟩

/-- **Delivery.** In every state in which the connection is dead, the reader is done, the channel is
empty and the forwarder can take no step, the forwarder has exited and the receiver has all frames
that were not evicted, if and only if the run was smooth; and it has all frames, in order, if and
only if nothing was evicted either. -/
theorem forwarder_delivers (buffer maxInbound : ℕ) (q : List (ℕ × Json)) (permit : Bool)
    (run : List Move) (w : Forwarding)
    (h : Lts.exec Forwarding.step (.start buffer maxInbound q permit) run = some w)
    (hq : Quiescent w) :
    (Exhausted w ↔
        Lts.Guarded Forwarding.step Smooth (.start buffer maxInbound q permit) run) ∧
      (Delivered w ↔ Lts.Guarded Forwarding.step (fun v a => Smooth v a ∧ Roomy v a)
        (.start buffer maxInbound q permit) run) := by
  have hs := sound_start buffer maxInbound q permit
  have hw := Lts.inv_of_exec sound_step hs h
  have hfine : Fine (.start buffer maxInbound q permit) := trivial
  rw [exhausted_iff hw hq, delivered_iff hw hq]
  constructor
  · have hstep : ∀ v a v', Sound v → v.step a = some v' → (Fine v' ↔ Fine v ∧ Smooth v a) :=
      fun _ _ _ hv hstep => fine_moved hv (step_moved hstep)
    rw [Lts.iff_guarded sound_step hstep hs h]
    exact and_iff_right hfine
  · have hstep : ∀ v a v', Sound v → v.step a = some v' →
        (Fine v' ∧ v'.evicted = [] ↔ (Fine v ∧ v.evicted = []) ∧ Smooth v a ∧ Roomy v a) := by
      intro v a v' hv hstep
      have hmoved := step_moved hstep
      rw [fine_moved hv hmoved, evicted_moved hmoved]
      exact and_and_and_comm
    have hrun := Lts.iff_guarded (P := fun v => Fine v ∧ v.evicted = []) sound_step hstep hs h
    exact hrun.trans (and_iff_right ⟨hfine, rfl⟩)

/-- A frame comes in and is sent on; the connection is lost while the forwarder waits. -/
def smoothRun (ev : ℕ × Json) : List Move :=
  [.deliver ev, .reader, .reader, .forward, .forward, .receive] ++ List.replicate 8 .forward ++
    [.lose] ++ List.replicate 6 .reader ++ List.replicate 3 .forward

def lastFrame : ℕ × Json := (0, .obj [("type", .str "status")])

theorem forwarder_delivers_smooth : ∃ w,
    Lts.exec Forwarding.step (.start 0 1 [] false) (smoothRun lastFrame) = some w ∧
      Quiescent w ∧ w.received = [lastFrame] ∧
      Lts.Guarded Forwarding.step (fun v a => Smooth v a ∧ Roomy v a) (.start 0 1 [] false)
        (smoothRun lastFrame) := by
  have hrun : (Lts.exec Forwarding.step (.start 0 1 [] false) (smoothRun lastFrame)).map
      (fun w => (w.shared.isConnectionAlive, w.reader, w.channel, w.forwardStep.isNone,
        w.forwarder, w.received, w.queued)) =
    some (false, .done, [], true, .exited, [lastFrame], [lastFrame]) := rfl
  obtain ⟨w, hw, hend⟩ := Option.map_eq_some_iff.1 hrun
  simp only [Prod.mk.injEq, Option.isNone_iff_eq_none] at hend
  obtain ⟨hdead, hreader, hchannel, hstuck, hexit, hreceived, hqueued⟩ := hend
  have hq : Quiescent w := ⟨hdead, hreader, hchannel, hstuck⟩
  have hall : Delivered w := ⟨hexit, hreceived.trans hqueued.symm⟩
  exact ⟨w, hw, hq, hreceived, (forwarder_delivers 0 1 [] false _ w hw hq).2.1 hall⟩

/-- The connection is lost after the forwarder found it alive, and before the future. -/
def lateFuture : List Move :=
  [.forward, .forward, .lose] ++ List.replicate 6 .reader ++ List.replicate 2 .forward

/-- A frame is queued and the connection is lost after the forwarder found the queue empty. -/
def lateFrame (ev : ℕ × Json) : List Move :=
  [.forward, .deliver ev, .reader, .reader, .lose] ++ List.replicate 6 .reader ++ [.forward]

/-- The forwarder waits for ever, or exits and leaves a frame in the queue. -/
theorem forwarder_delivers_fails :
    (∃ w, Lts.exec Forwarding.step (.start 0 1 [] false) lateFuture = some w ∧ Quiescent w ∧
      w.forwarder = .parked ∧ ¬ Exhausted w ∧ ¬ Delivered w) ∧
    ∃ w, Lts.exec Forwarding.step (.start 0 1 [] false) (lateFrame lastFrame) = some w ∧
      Quiescent w ∧ w.shared.inbound = [lastFrame] ∧ ¬ Exhausted w ∧ ¬ Delivered w := by
  constructor
  · have hrun : (Lts.exec Forwarding.step (.start 0 1 [] false) lateFuture).map (fun w =>
        (w.shared.isConnectionAlive, w.reader, w.channel, w.forwardStep.isNone, w.forwarder)) =
      some (false, .done, [], true, .parked) := rfl
    obtain ⟨w, hw, hend⟩ := Option.map_eq_some_iff.1 hrun
    simp only [Prod.mk.injEq, Option.isNone_iff_eq_none] at hend
    obtain ⟨hdead, hreader, hchannel, hstuck, hparked⟩ := hend
    have hne : w.forwarder ≠ .exited := by
      rw [hparked]
      exact nofun
    exact ⟨w, hw, ⟨hdead, hreader, hchannel, hstuck⟩, hparked, fun h => hne h.1,
      fun h => hne h.1⟩
  · have hrun : (Lts.exec Forwarding.step (.start 0 1 [] false) (lateFrame lastFrame)).map
        (fun w => (w.shared.isConnectionAlive, w.reader, w.channel, w.forwardStep.isNone,
          w.shared.inbound, w.received, w.queued, w.evicted)) =
      some (false, .done, [], true, [lastFrame], [], [lastFrame], []) := rfl
    obtain ⟨w, hw, hend⟩ := Option.map_eq_some_iff.1 hrun
    simp only [Prod.mk.injEq, Option.isNone_iff_eq_none] at hend
    obtain ⟨hdead, hreader, hchannel, hstuck, hinbound, hreceived, hqueued, hevicted⟩ := hend
    refine ⟨w, hw, ⟨hdead, hreader, hchannel, hstuck⟩, hinbound, fun h => ?_, fun h => ?_⟩
    · have hcard := congrArg Multiset.card h.2
      rw [hqueued, hreceived, hevicted] at hcard
      cases hcard
    · have hlength := congrArg List.length h.2
      rw [hqueued, hreceived] at hlength
      cases hlength

end SootheClient.Client
