import SootheClient.Client.Connect
import SootheClient.Client.Scripts
import SootheClient.Client.StatusRuns
import SootheClient.Lib.Notify

/-!
# Waiting for a disconnect

`wait_disconnected` asks for a cause and, when there is none, waits to be notified. A
`mark_disconnected` stores its cause, fails the pending requests and then notifies those who wait:
`notify_waiters` leaves nothing behind for a future that is created later.

`missed` is ghost: the last notification came between the question and the creation of the future,
when a cause was there.
-/

namespace SootheClient.Client

/-! ## Who is to notify -/

/-- Every cause in the list is followed by the failing of the pending requests. -/
def warns : List Update → Bool
  | [] => true
  | .setCause _ :: rest => rest.contains .failWaiters && warns rest
  | _ :: rest => warns rest

/-- A call is within a `mark_disconnected`, or before it. -/
def CallMarks (w : Tasks) : Prop := ∃ i, .failWaiters ∈ (w.call i).pc.pending

def ReaderMarks (w : Tasks) : Prop := ∃ e rest, w.reader e = .marking rest ∧ .failWaiters ∈ rest

def Marking (w : Tasks) : Prop := CallMarks w ∨ ReaderMarks w

/-- Who runs a `mark_disconnected`. -/
inductive Owner where
  | call (i : ℕ)
  | reader (e : ℕ)
  deriving DecidableEq, Repr

/-- The task that makes a step. -/
def Label.owner : Label → Option Owner
  | .step i _ => some (.call i)
  | .reader e => some (.reader e)
  | _ => none

/-- Who fails the pending requests by a step. -/
def Tasks.fails (w : Tasks) : Label → Option Owner
  | .step i .next =>
    match (w.call i).pc with
    | .updating (.failWaiters :: _) _ => some (.call i)
    | _ => none
  | .reader e =>
    match w.reader e with
    | .marking (.failWaiters :: _) => some (.reader e)
    | _ => none
  | _ => none

variable {w w' : Tasks} {i e : ℕ} {a : Label} {c : Call} {p q : Pc} {u : Update}
  {rest : List Update} {event : Event} {run : List Label}

theorem warns_tail (h : warns (u :: rest) = true) : warns rest = true := by
  cases u with
  | setCause cause => exact (Bool.and_eq_true_iff.1 h).2
  | dropWriteTx | setConnected | setReaderAlive | setHandshakeComplete | setReadinessState
    | clearCause | clearWaiters | failWaiters | clearInbound | clearDegraded
    | setHeartbeatInterval => exact h

theorem warns_scripts : ScriptRule fun _ l => warns l = true where
  none _ := rfl
  tail _ _ _ := warns_tail
  close _ := rfl
  reconnect _ := rfl
  publish _ := rfl
  accept _ ack state _ := by
    unfold acceptUpdates
    cases ((ack.2.get "result").bind (·.get "heartbeat_interval_ms")).bind Json.asU64? <;> rfl
  grows _ _ _ h := h

theorem failWaiters_of_warns {cause : DisconnectCause}
    (h : warns (.setCause cause :: rest) = true) : .failWaiters ∈ rest :=
  List.contains_iff_mem.1 (Bool.and_eq_true_iff.1 h).1

theorem warns_markDisconnected (h : rest <:+ markDisconnected .unclean) : warns rest = true := by
  simp only [markDisconnected, List.suffix_cons_iff, List.suffix_nil] at h
  obtain rfl | rfl | rfl | rfl | rfl | rfl := h <;> rfl

/-! ## Steps of the client -/

theorem update_failWaiters (h : .failWaiters ∈ u :: rest) :
    u = .failWaiters ∨ .failWaiters ∈ rest :=
  (List.mem_cons.1 h).imp_left Eq.symm

/-- A call that performs no update keeps what it has before it. -/
theorem callMarks_setCall
    (hc : .failWaiters ∈ (w.call i).pc.pending → .failWaiters ∈ c.pc.pending) :
    CallMarks w → CallMarks (w.setCall i c) :=
  exists_setCall (P := fun c => Update.failWaiters ∈ c.pc.pending) hc

theorem callMarks_setPc (hp : (w.call i).pc = p)
    (hpend : .failWaiters ∈ p.pending → .failWaiters ∈ q.pending) :
    CallMarks w → CallMarks (w.setPc i q) :=
  callMarks_setCall fun h => hpend (hp ▸ h)

theorem callMarks_callStep (hs : CallStep w i event w') (h : CallMarks w) :
    CallMarks w' ∨ (w.fails (.step i event)).isSome = true := by
  cases hs with
  | connected hp | dial hp | dialed hp | dialFailed hp | deadline _ hp | wake hp =>
    exact Or.inl (callMarks_setPc hp (fun hm => absurd hm List.not_mem_nil) h)
  | retry attempt max err hp =>
    refine Or.inl (callMarks_setCall ?_ h)
    rw [hp]
    exact fun hm => absurd hm List.not_mem_nil
  | notify hp => exact Or.inl (callMarks_setPc hp id h)
  | close hp => exact Or.inl (callMarks_setPc hp id h)
  | notified sent hp => exact Or.inl (callMarks_setPc (w := { w with sent := sent }) hp id h)
  | install hp =>
    refine Or.inl (callMarks_setPc (w := { w with
      shared := { w.shared with writeTx := some w.installed }
      installed := w.installed + 1 }) hp ?_ h)
    exact fun hm => absurd hm List.not_mem_nil
  | update u rest k hp =>
    by_cases hu : u = .failWaiters
    · refine Or.inr ?_
      simp only [Tasks.fails, hp, hu]
      rfl
    · refine Or.inl (callMarks_setPc (w := { w with shared := w.shared.update u }) hp ?_ h)
      exact fun hm => (update_failWaiters hm).resolve_left hu
  | resume k hp =>
    cases k with
    | spawn e =>
      exact Or.inl (callMarks_setPc (w := w.setReader e .reading) hp
        (fun hm => absurd hm List.not_mem_nil) h)
    | connect | ok => exact Or.inl (callMarks_setPc hp (fun hm => absurd hm List.not_mem_nil) h)
  | sendInit e hp =>
    obtain ⟨sent, p, -, heq⟩ := sendInit_eq (w := w) (i := i) (e := e)
    rw [heq]
    exact Or.inl (callMarks_setPc (w := { w with sent := sent }) hp
      (fun hm => absurd hm List.not_mem_nil) h)
  | frame e ev q hp =>
    refine Or.inl ?_
    unfold Tasks.onFrame
    cases handshakeVerdict ev.2 with
    | ignore => exact h
    | resend | fail =>
      exact callMarks_setPc (w := { w with shared := { w.shared with inbound := q } }) hp
        (fun hm => absurd hm List.not_mem_nil) h
    | accept state =>
      exact callMarks_setPc (w := { w with
        shared := { w.shared with inbound := q }
        acked := ev :: w.acked }) hp (fun hm => absurd hm List.not_mem_nil) h

theorem callMarks_start (hfree : w.free i = true) (op : Op) (h : CallMarks w) :
    CallMarks (w.start i op) := by
  have hnone : .failWaiters ∈ (w.call i).pc.pending → False := by
    rw [pending_of_free hfree]
    exact List.not_mem_nil
  cases op with
  | connect | connectWithRetries | close | reconnect =>
    exact callMarks_setCall (fun hm => (hnone hm).elim) h

/-- A reader that is not within a `mark_disconnected` goes on. -/
theorem readerMarks_setReader {pc : ReaderPc} (hr : ∀ rest, w.reader e ≠ .marking rest)
    (h : ReaderMarks w) : ReaderMarks (w.setReader e pc) := by
  obtain ⟨e', rest, he', hm⟩ := h
  have hne : e' ≠ e := by
    rintro rfl
    exact hr rest he'
  refine ⟨e', rest, ?_, hm⟩
  rw [Tasks.setReader_reader_ne hne]
  exact he'

theorem readerMarks_congr (hr : w'.reader = w.reader) (h : ReaderMarks w) : ReaderMarks w' := by
  unfold ReaderMarks
  rw [hr]
  exact h

theorem readerMarks_callStep (ho : Owned w) (hs : w.callStep i event = some w')
    (h : ReaderMarks w) : ReaderMarks w' := by
  obtain ⟨-, -, rfl⟩ | ⟨e, hp, rfl⟩ | hmoves := callStep_cases hs
  · exact h
  · have hfresh : w.reader e = .unspawned := (ho.spawning i [] e (by rw [hp]; rfl)).2
    have hset : ReaderMarks (w.setReader e .reading) := by
      refine readerMarks_setReader (fun rest hr => ?_) h
      cases hfresh.symm.trans hr
    exact readerMarks_congr rfl hset
  · exact readerMarks_congr hmoves.reader h

theorem readerMarks_readerStep (hs : ReaderStep w e w') (h : ReaderMarks w) :
    ReaderMarks w' ∨ (w.fails (.reader e)).isSome = true := by
  cases hs with
  | turn hpc | settle _ _ _ hpc | route _ _ _ _ hpc | ack _ _ _ _ _ hpc | hand _ _ _ hpc
  | miss _ _ hpc | enqueue _ _ hpc =>
    refine Or.inl (readerMarks_congr (w := w.setReader e _) rfl (readerMarks_setReader ?_ h))
    intro rest hr
    cases hpc.symm.trans hr
  | mark u rest hpc =>
    by_cases hu : u = .failWaiters
    · refine Or.inr ?_
      simp only [Tasks.fails, hpc, hu]
      rfl
    · refine Or.inl ?_
      obtain ⟨e', rest', he', hm⟩ := h
      by_cases hne : e' = e
      · subst hne
        obtain rfl : u :: rest = rest' := ReaderPc.marking.inj (hpc.symm.trans he')
        exact ⟨e', rest, Tasks.setReader_reader_self, (update_failWaiters hm).resolve_left hu⟩
      · exact ⟨e', rest', (Tasks.setReader_reader_ne hne).trans he', hm⟩

/-- A `mark_disconnected` stays before its owner until the pending requests are failed. -/
theorem marking_step (ho : Owned w) (h : Marking w) (hs : Tasks.step w a = some w') :
    Marking w' ∨ (w.fails a).isSome = true := by
  have htask := taskStep_inv hs
  cases a with
  | step i event =>
    cases htask with
    | step _ _ hcall =>
      obtain h | h := h
      · exact (callMarks_callStep hcall h).imp_left Or.inl
      · exact Or.inl (Or.inr (readerMarks_callStep ho hs h))
  | call i op =>
    cases htask with
    | call _ _ hfree =>
      obtain h | h := h
      · exact Or.inl (Or.inl (callMarks_start hfree op h))
      · refine Or.inl (Or.inr (readerMarks_congr ?_ h))
        cases op <;> rfl
  | receive e item =>
    cases htask with
    | receive _ _ hr hrec =>
      obtain h | h := h
      · refine Or.inl (Or.inl ?_)
        unfold CallMarks
        rw [(working_received hr hrec).call]
        exact h
      · refine Or.inl (Or.inr ?_)
        have hnot : ∀ rest, w.reader e ≠ .marking rest := by
          intro rest hm
          cases hr.symm.trans hm
        cases hrec with
        | stays => exact h
        | routes | ends => exact readerMarks_setReader hnot h
  | reader e =>
    cases htask with
    | reader _ hread =>
      obtain h | h := h
      · refine Or.inl (Or.inl ?_)
        cases hread with
        | turn | settle | route | ack | hand | miss | enqueue | mark => exact h
      · exact (readerMarks_readerStep hread h).imp_left Or.inr
  | writerDown | register | unregister | readEvent =>
    cases htask
    exact Or.inl h

/-- Who stores a cause is within a `mark_disconnected`. -/
theorem marking_of_cause (ho : Owned w) (hp : Pends (fun _ l => warns l = true) w)
    (hs : Tasks.step w a = some w') (hnone : w.shared.disconnectCause = none)
    (hsome : w'.shared.disconnectCause ≠ none) : Marking w' := by
  cases taskStep_inv hs with
  | call i op => cases op <;> exact absurd hnone hsome
  | step i event hcall =>
    cases hcall with
    | connected | dial | dialed | dialFailed | deadline | wake | retry | notify | close | notified
      | install => exact absurd hnone hsome
    | update u rest k hpc =>
      have hwarn := hp i
      rw [hpc] at hwarn
      refine Or.inl ⟨i, ?_⟩
      rw [Tasks.setPc_pc_self]
      cases u with
      | setCause cause => exact failWaiters_of_warns hwarn
      | clearCause => exact absurd rfl hsome
      | dropWriteTx | setConnected | setReaderAlive | setHandshakeComplete | setReadinessState
        | clearWaiters | failWaiters | clearInbound | clearDegraded | setHeartbeatInterval =>
        exact absurd hnone hsome
    | resume k => cases k <;> exact absurd hnone hsome
    | sendInit e =>
      obtain ⟨sent, p, -, heq⟩ := sendInit_eq (w := w) (i := i) (e := e)
      rw [heq] at hsome
      exact absurd hnone hsome
    | frame e ev q =>
      unfold Tasks.onFrame at hsome
      cases hv : handshakeVerdict ev.2 <;> rw [hv] at hsome <;> exact absurd hnone hsome
  | receive e item hr hrec => cases hrec <;> exact absurd hnone hsome
  | reader e hread =>
    cases hread with
    | turn | settle | route | ack | miss => exact absurd hnone hsome
    | hand msg rest s hpc htake =>
      obtain ⟨-, -, -, rfl⟩ := takeWaiter_eq_some.1 htake
      exact absurd hnone hsome
    | enqueue msg rest =>
      obtain ⟨q, b, heq, -⟩ := enqueue_eq w.shared (e, msg)
      refine absurd ?_ hsome
      show (w.shared.enqueuePendingLocked (e, msg)).disconnectCause = none
      rw [heq]
      exact hnone
    | mark u rest hpc =>
      have hwarn := warns_markDisconnected (ho.marks e _ hpc)
      refine Or.inr ⟨e, rest, Tasks.setReader_reader_self, ?_⟩
      cases u with
      | setCause cause => exact failWaiters_of_warns hwarn
      | clearCause => exact absurd rfl hsome
      | dropWriteTx | setConnected | setReaderAlive | setHandshakeComplete | setReadinessState
        | clearWaiters | failWaiters | clearInbound | clearDegraded | setHeartbeatInterval =>
        exact absurd hnone hsome
  | writerDown | register | unregister | readEvent => exact absurd hnone hsome

/-! ## The waiter -/

/-- Where a `wait_disconnected` is. -/
inductive AwaitPc where
  /-- It asks for the cause. -/
  | asking
  /-- The future of `notified` is created next. -/
  | creating
  /-- The future was created after so many calls of `notify_waiters`; it is polled next. -/
  | polling (created : ℕ)
  | parked
  | returned (cause : DisconnectCause)
  deriving DecidableEq, Repr

inductive AwaitAct where
  | base (a : Label)
  /-- The end of a `mark_disconnected`. -/
  | notify (o : Owner)
  | go

/-- A client with one task in `wait_disconnected`; `due` are the owners that are to notify. -/
structure Sleeper where
  tasks : Tasks
  notify : Notify Unit := {}
  due : List Owner := []
  pc : AwaitPc := .asking
  missed : Bool := false

namespace Sleeper

variable (v : Sleeper)

def goOn : Option Sleeper :=
  match v.pc with
  | .asking =>
    some { v with
      pc := match v.tasks.shared.disconnectCause with
        | some cause => .returned cause
        | none => .creating }
  | .creating => some { v with pc := .polling v.notify.calls }
  | .polling created =>
    let r := v.notify.poll () created
    some { v with notify := r.2, pc := if r.1 then .asking else .parked }
  | .parked => if () ∈ v.notify.waiting then none else some { v with pc := .asking }
  | .returned _ => none

def step : AwaitAct → Option Sleeper
  | .base a =>
    if a.owner.any v.due.contains then none
    else (v.tasks.step a).map fun t =>
      { v with tasks := t, due := v.due ++ (v.tasks.fails a).toList }
  | .notify o =>
    if o ∈ v.due then
      some { v with
        notify := v.notify.notifyWaiters
        due := v.due.erase o
        missed := v.pc = .creating && v.tasks.shared.disconnectCause.isSome }
    else none
  | .go => v.goOn

/-- A notification is still to come. -/
def Coming : Prop := v.due ≠ [] ∨ Marking v.tasks

/-- The waiter goes to sleep, or it sleeps. -/
def Drowsy : Prop :=
  match v.pc with
  | .creating => True
  | .polling created => v.notify.calls = created
  | .parked => () ∈ v.notify.waiting
  | .asking | .returned _ => False

/-- A waiter does not sleep on a cause, unless it is to be notified or missed that it was. -/
structure Alert : Prop where
  permit : v.notify.permit = false
  created : ∀ n, v.pc = .polling n → n ≤ v.notify.calls
  coming : v.tasks.shared.disconnectCause.isSome = true → v.Drowsy → v.Coming ∨ v.missed = true
  missed : v.missed = true → v.Drowsy

end Sleeper

variable {v v' : Sleeper} {act : AwaitAct} {acts : List AwaitAct}

theorem alert_base (ho : Owned v.tasks) (hp : Pends (fun _ l => warns l = true) v.tasks)
    (h : v.Alert) (hs : v.step (.base a) = some v') : v'.Alert := by
  simp only [Sleeper.step] at hs
  split_ifs at hs
  obtain ⟨t, ht, rfl⟩ := Option.map_eq_some_iff.1 hs
  refine ⟨h.permit, h.created, fun hcause hdrowsy => ?_, h.missed⟩
  have hcoming : v.Coming ∨ v.missed = true ∨ Marking t := by
    cases hc : v.tasks.shared.disconnectCause with
    | none =>
      exact Or.inr (Or.inr (marking_of_cause ho hp ht hc (Option.isSome_iff_ne_none.1 hcause)))
    | some cause =>
      exact (h.coming (by rw [hc]; rfl) hdrowsy).imp_right Or.inl
  obtain (hdue | hmark) | hmissed | hmark := hcoming
  · exact Or.inl (Or.inl fun hnil => hdue (List.append_eq_nil_iff.1 hnil).1)
  · refine Or.inl ?_
    obtain hmark | hfails := marking_step ho hmark ht
    · exact Or.inr hmark
    · refine Or.inl fun hnil => ?_
      obtain ⟨o, ho⟩ := Option.isSome_iff_exists.1 hfails
      rw [ho] at hnil
      cases (List.append_eq_nil_iff.1 hnil).2
  · exact Or.inr hmissed
  · exact Or.inl (Or.inr hmark)

/-- A notification wakes a waiter that sleeps or has its future. -/
theorem alert_notify {o : Owner} (h : v.Alert) (hs : v.step (.notify o) = some v') : v'.Alert := by
  simp only [Sleeper.step] at hs
  split_ifs at hs
  obtain rfl := Option.some.inj hs
  have hcreated : ∀ n, v.pc = .polling n → n ≤ v.notify.calls + 1 :=
    fun n hn => (h.created n hn).trans (Nat.le_succ _)
  by_cases hcreating : v.pc = .creating
  · refine ⟨h.permit, hcreated, fun hcause _ => Or.inr ?_, fun _ => ?_⟩
    · rw [Bool.and_eq_true, decide_eq_true_eq]
      exact ⟨hcreating, hcause⟩
    · unfold Sleeper.Drowsy
      rw [hcreating]
      trivial
  · -- Whoever else went to sleep is woken.
    have hawake : ¬ Sleeper.Drowsy { v with notify := v.notify.notifyWaiters } := by
      unfold Sleeper.Drowsy
      cases hpc : v.pc with
      | creating => exact absurd hpc hcreating
      | polling n => exact Nat.ne_of_gt (Nat.lt_succ_of_le (h.created n hpc))
      | parked => exact List.not_mem_nil
      | asking | returned => exact id
    refine ⟨h.permit, hcreated, fun _ hd => absurd hd hawake, fun hm => ?_⟩
    exact absurd (of_decide_eq_true (Bool.and_eq_true_iff.1 hm).1) hcreating

/-- The waiter that is awake missed nothing. -/
theorem Sleeper.Alert.not_missed (h : v.Alert) (hd : ¬ v.Drowsy) : v.missed = false :=
  Bool.eq_false_iff.2 fun hm => hd (h.missed hm)

theorem alert_asking (h : v.Alert) (hd : ¬ v.Drowsy) {n : Notify Unit}
    (hn : n.permit = false) : Sleeper.Alert { v with notify := n, pc := .asking } := by
  refine ⟨hn, fun m hm => ?_, fun _ hd' => absurd hd' id, fun hm => ?_⟩
  · cases hm
  · exact absurd (h.not_missed hd) (by rw [show v.missed = true from hm]; decide)

theorem alert_goOn (h : v.Alert) (hs : v.goOn = some v') : v'.Alert := by
  unfold Sleeper.goOn at hs
  cases hpc : v.pc with
  | asking =>
    rw [hpc] at hs
    obtain rfl := Option.some.inj hs
    have hmissed : v.missed = false := h.not_missed (by unfold Sleeper.Drowsy; rw [hpc]; exact id)
    cases hc : v.tasks.shared.disconnectCause with
    | some cause =>
      refine ⟨h.permit, fun n hn => ?_, fun _ hd => absurd hd id, fun hm => ?_⟩
      · cases hn
      · exact absurd (hmissed.symm.trans hm) (by decide)
    | none =>
      refine ⟨h.permit, fun n hn => ?_, fun hcause => ?_, fun _ => trivial⟩
      · cases hn
      · rw [show v.tasks.shared.disconnectCause = none from hc] at hcause
        cases hcause
  | creating =>
    rw [hpc] at hs
    obtain rfl := Option.some.inj hs
    have hd : v.Drowsy := by
      unfold Sleeper.Drowsy
      rw [hpc]
      trivial
    exact ⟨h.permit, fun n hn => (AwaitPc.polling.inj hn).ge, fun hcause _ => h.coming hcause hd,
      fun _ => rfl⟩
  | polling created =>
    rw [hpc] at hs
    obtain rfl := Option.some.inj hs
    have hdrowsy : v.Drowsy ↔ v.notify.calls = created := by
      unfold Sleeper.Drowsy
      rw [hpc]
    obtain ⟨hp, -⟩ | ⟨-, hc, heq⟩ | ⟨-, hc, heq⟩ := v.notify.poll_cases () created
    · exact absurd (h.permit.symm.trans hp) (by decide)
    · rw [heq]
      exact alert_asking h (fun hd => hc (hdrowsy.1 hd)) h.permit
    · rw [heq]
      refine ⟨h.permit, fun n hn => ?_, fun hcause _ => h.coming hcause (hdrowsy.2 hc), fun _ => ?_⟩
      · cases hn
      · exact List.mem_append_right _ (List.mem_singleton_self _)
  | parked =>
    rw [hpc] at hs
    simp only at hs
    split_ifs at hs with hw
    obtain rfl := Option.some.inj hs
    refine alert_asking h ?_ h.permit
    unfold Sleeper.Drowsy
    rw [hpc]
    exact hw
  | returned cause =>
    rw [hpc] at hs
    cases hs

/-- **Step lemma.** -/
theorem alert_step (ho : Owned v.tasks) (hp : Pends (fun _ l => warns l = true) v.tasks)
    (h : v.Alert) (hs : v.step act = some v') : v'.Alert := by
  cases act with
  | base a => exact alert_base ho hp h hs
  | notify o => exact alert_notify h hs
  | go => exact alert_goOn h hs

theorem sleeper_tasks (ho : Owned v.tasks) (hp : Pends (fun _ l => warns l = true) v.tasks)
    (hs : v.step act = some v') :
    Owned v'.tasks ∧ Pends (fun _ l => warns l = true) v'.tasks := by
  cases act with
  | base a =>
    simp only [Sleeper.step] at hs
    split_ifs at hs
    obtain ⟨t, ht, rfl⟩ := Option.map_eq_some_iff.1 hs
    exact ⟨ho.step ht, warns_scripts.step hp ht⟩
  | notify o =>
    simp only [Sleeper.step] at hs
    split_ifs at hs
    obtain rfl := Option.some.inj hs
    exact ⟨ho, hp⟩
  | go =>
    simp only [Sleeper.step, Sleeper.goOn] at hs
    split at hs
    · obtain rfl := Option.some.inj hs
      exact ⟨ho, hp⟩
    · obtain rfl := Option.some.inj hs
      exact ⟨ho, hp⟩
    · obtain rfl := Option.some.inj hs
      exact ⟨ho, hp⟩
    · split_ifs at hs
      obtain rfl := Option.some.inj hs
      exact ⟨ho, hp⟩
    · cases hs

/-- **Disconnects.** Where nobody has a `mark_disconnected` left and the waiter cannot go on, a
recorded cause is returned, unless the last notification came between the waiter's question and the
creation of its future: then, and only then, the waiter sleeps on a recorded cause. -/
theorem waitDisconnected_woken {before : List Label} {t : Tasks}
    (ht : Lts.exec Tasks.step {} before = some t)
    (hv : Lts.exec Sleeper.step { tasks := t } acts = some v) (hquiet : ¬ v.Coming)
    (hstuck : v.goOn = none) (hcause : v.tasks.shared.disconnectCause.isSome = true) :
    (v.missed = true ↔ v.pc = .parked) ∧ (v.missed = false ↔ ∃ cause, v.pc = .returned cause) := by
  have hstart : Owned t ∧ Pends (fun _ l => warns l = true) t :=
    Lts.inv_of_exec (I := fun w => Owned w ∧ Pends (fun _ l => warns l = true) w)
      (fun _ _ _ h hs => ⟨h.1.step hs, warns_scripts.step h.2 hs⟩)
      ⟨owned_init, warns_scripts.init⟩ ht
  have hbegin : Sleeper.Alert { tasks := t } :=
    ⟨rfl, fun _ hn => (by cases hn), fun _ hd => absurd hd id, fun hm => (by cases hm)⟩
  have hinv : (Owned v.tasks ∧ Pends (fun _ l => warns l = true) v.tasks) ∧ v.Alert :=
    Lts.inv_of_exec
      (I := fun v : Sleeper => (Owned v.tasks ∧ Pends (fun _ l => warns l = true) v.tasks) ∧ v.Alert)
      (fun _ _ _ h hs => ⟨sleeper_tasks h.1.1 h.1.2 hs, alert_step h.1.1 h.1.2 h.2 hs⟩)
      ⟨hstart, hbegin⟩ hv
  have halert := hinv.2
  unfold Sleeper.goOn at hstuck
  cases hpc : v.pc with
  | asking | creating | polling =>
    rw [hpc] at hstuck
    cases hstuck
  | parked =>
    rw [hpc] at hstuck
    simp only at hstuck
    split_ifs at hstuck with hw
    have hdrowsy : v.Drowsy := by
      unfold Sleeper.Drowsy
      rw [hpc]
      exact hw
    have hmissed := (halert.coming hcause hdrowsy).resolve_left hquiet
    refine ⟨iff_of_true hmissed rfl, iff_of_false (by rw [hmissed]; decide) ?_⟩
    rintro ⟨cause, hc⟩
    cases hc
  | returned cause =>
    have hmissed : v.missed = false :=
      halert.not_missed (by unfold Sleeper.Drowsy; rw [hpc]; exact id)
    refine ⟨iff_of_false (by rw [hmissed]; decide) ?_, iff_of_true hmissed ⟨cause, rfl⟩⟩
    intro hp
    cases hp

/-- The connection ends between the question and the future. -/
def sleepsOn : List AwaitAct :=
  .go :: (ends 0).map .base ++ [.notify (.reader 0), .go, .go]

/-- A run that leaves nobody within a `mark_disconnected`. -/
theorem not_coming_of_exec (hv : Lts.exec Sleeper.step v acts = some v')
    (hdue : v'.due = []) (hcalls : ∀ i,
      (Lts.exec Sleeper.step v acts).map (fun v => (v.tasks.call i).pc.pending) = some [])
    (hreaders : ∀ e, (Lts.exec Sleeper.step v acts).map (fun v => v.tasks.reader e) =
        some .unspawned ∨
      (Lts.exec Sleeper.step v acts).map (fun v => v.tasks.reader e) = some (.marking [])) :
    ¬ v'.Coming := by
  rw [hv] at hcalls hreaders
  rintro (hd | ⟨i, hi⟩ | ⟨e, rest, he, hm⟩)
  · exact hd hdue
  · have hnone : (v'.tasks.call i).pc.pending = [] := Option.some.inj (hcalls i)
    rw [hnone] at hi
    cases hi
  · obtain hr | hr := hreaders e
    · cases he.symm.trans (Option.some.inj hr)
    · obtain rfl := ReaderPc.marking.inj (he.symm.trans (Option.some.inj hr))
      cases hm

theorem waitDisconnected_woken_never : ∃ v,
    Lts.exec Sleeper.step { tasks := (Lts.exec Tasks.step {} dials).getD {} } sleepsOn = some v ∧
      v.tasks.shared.disconnectCause = some .unclean ∧ v.pc = .parked := by
  have hrun : (Lts.exec Sleeper.step { tasks := (Lts.exec Tasks.step {} dials).getD {} }
      sleepsOn).map (fun v => (v.missed, v.due, v.goOn.isNone, v.tasks.shared.disconnectCause)) =
        some (true, [], true, some .unclean) := rfl
  obtain ⟨v, hv, hpc⟩ := Option.map_eq_some_iff.1 hrun
  simp only [Prod.mk.injEq] at hpc
  obtain ⟨hmissed, hdue, hstuck, hcause⟩ := hpc
  have ht : Lts.exec Tasks.step {} dials = some ((Lts.exec Tasks.step {} dials).getD {}) := rfl
  refine ⟨v, hv, hcause, (waitDisconnected_woken ht hv ?_
    (Option.isNone_iff_eq_none.1 hstuck) (by rw [hcause]; rfl)).1.1 hmissed⟩
  refine not_coming_of_exec hv hdue (fun i => ?_) fun e => ?_
  · cases i <;> rfl
  · cases e with
    | zero => exact Or.inr rfl
    | succ e => exact Or.inl rfl

end SootheClient.Client
