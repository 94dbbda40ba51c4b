import SootheClient.Client.Queue
import SootheClient.Client.Routing

/-!
# What the tasks do

The effect of the steps of a reader task and of a call on the state of the client. A reader works
until its socket ends and then performs `mark_disconnected`, update by update.
-/

namespace SootheClient.Client

open SootheClient.Frame
open Function (update)

variable {w w' : Tasks} {i j e e' : ℕ} {pc : ReaderPc} {p : Pc} {c : Call} {m : Outgoing}
  {event : Event} {s : Shared} {u : Update}

/-! ## The reader -/

namespace ReaderPc

/-- The task runs its loop. -/
def working : ReaderPc → Bool
  | .unspawned | .marking _ => false
  | _ => true

/-- The task is still to store that the connection is lost. -/
def up : ReaderPc → Bool
  | .marking rest => rest.contains (.setConnected false)
  | _ => true

theorem working_ne_marking {rest : List Update} (h : pc.working = true) : pc ≠ .marking rest := by
  rintro rfl
  cases h

theorem working_ne_unspawned (h : pc.working = true) : pc ≠ .unspawned := by
  rintro rfl
  cases h

theorem up_of_working (h : pc.working = true) : pc.up = true := by
  cases pc with
  | marking rest => cases h
  | unspawned | reading | routing | acking | dispatching | enqueueing => rfl

end ReaderPc

/-- What the loop of the reader of `e` does to the shared state: it leaves the connection alone and
queues frames of its own. -/
structure Routed (s s' : Shared) (e : ℕ) : Prop where
  connected : s'.connected = s.connected
  handshakeComplete : s'.handshakeComplete = s.handshakeComplete
  inbound : ∀ ev ∈ s'.inbound, ev ∈ s.inbound ∨ ev.1 = e

/-- A step of the loop of the reader of `e`. -/
structure Working (w w' : Tasks) (e : ℕ) : Prop where
  working : (w.reader e).working = true
  routed : Routed w.shared w'.shared e
  next : (w'.reader e).working = true ∨ w'.reader e = .marking (markDisconnected .unclean)
  others : ∀ e', e' ≠ e → w'.reader e' = w.reader e'
  call : w'.call = w.call
  installed : w'.installed = w.installed
  acked : w'.acked = w.acked

/-- The reader of `e` performs an update of `mark_disconnected`. -/
def Marks (w w' : Tasks) (e : ℕ) : Prop :=
  ∃ u rest, w.reader e = .marking (u :: rest) ∧
    w' = { w with shared := w.shared.update u }.setReader e (.marking rest)

theorem Routed.refl : Routed s s e := ⟨rfl, rfl, fun _ h => Or.inl h⟩

/-- A queued frame was in the queue before or is the new one. -/
theorem routed_enqueuePendingLocked {json : Json} :
    Routed s (s.enqueuePendingLocked (e, json)) e := by
  obtain ⟨q, b, heq, hadm⟩ := enqueue_eq s (e, json)
  rw [heq]
  refine ⟨rfl, rfl, fun ev hev => ?_⟩
  rcases List.mem_append.1 (hadm.sublist.subset hev) with hold | hnew
  · exact Or.inl hold
  · exact Or.inr (congrArg Prod.fst (List.mem_singleton.1 hnew))

theorem routed_takeWaiter {s' : Shared} {json : Json} (h : s.takeWaiter json = some s') :
    Routed s s' e := by
  obtain ⟨-, -, -, rfl⟩ := takeWaiter_eq_some.1 h
  exact ⟨rfl, rfl, fun _ h => Or.inl h⟩

/-- A step of the loop, by what it makes of the shared state and of the reader. -/
theorem working_of {s' : Shared} {sent : List (ℕ × Outgoing)} (h : (w.reader e).working = true)
    (hr : Routed w.shared s' e)
    (hpc : pc.working = true ∨ pc = .marking (markDisconnected .unclean)) :
    Working w ({ w with shared := s', sent := sent }.setReader e pc) e where
  working := h
  routed := hr
  next := by
    rw [Tasks.setReader_reader_self]
    exact hpc
  others _ hne := Tasks.setReader_reader_ne hne
  call := rfl
  installed := rfl
  acked := rfl

/-- What the reader `e` does with an item. -/
inductive Received (w : Tasks) (e : ℕ) : Tasks → Prop
  /-- The item is answered or ignored. -/
  | stays (sent : List (ℕ × Outgoing)) : Received w e { w with sent := sent }
  | routes (msgs : List Json) : Received w e (w.setReader e (.routing msgs))
  | ends : Received w e (w.setReader e (.marking (markDisconnected .unclean)))

theorem receive_inv {item : Item} : Received w e (w.receive e item) := by
  cases item with
  | text raw =>
    cases raw with
    | none => exact .stays w.sent
    | some raw => exact .routes (expandWireMessages raw)
  | ping =>
    obtain ⟨sent, hs⟩ := Tasks.sendRaw_eq (w := w) (m := .rawPong)
    show Received w e (w.sendRaw .rawPong).2
    rw [hs]
    exact .stays sent
  | other => exact .stays w.sent
  | ended => exact .ends

theorem working_received (hr : w.reader e = .reading) (h : Received w e w') : Working w w' e := by
  have hw : (w.reader e).working = true := by rw [hr]; rfl
  cases h with
  | stays sent => exact ⟨hw, Routed.refl, Or.inl hw, fun _ _ => rfl, rfl, rfl, rfl⟩
  | routes msgs => exact working_of hw Routed.refl (Or.inl rfl)
  | ends => exact working_of hw Routed.refl (Or.inr rfl)

/-- **Reader steps.** A reader works, or it marks the connection. -/
theorem readerStep_cases (h : w.readerStep e = some w') : Working w w' e ∨ Marks w w' e := by
  cases readerStep_inv h with
  | turn hpc => exact Or.inl (working_of (by rw [hpc]; rfl) Routed.refl (Or.inl rfl))
  | settle msg rest sent hpc =>
    exact Or.inl (working_of (by rw [hpc]; rfl) Routed.refl (Or.inl rfl))
  | route msg rest pc seqs hpc _ _ hnext =>
    have hworking : pc.working = true := by
      obtain rfl | ⟨loopId, seq, rfl⟩ := hnext <;> rfl
    exact Or.inl (working_of (by rw [hpc]; rfl) ⟨rfl, rfl, fun _ hev => Or.inl hev⟩
      (Or.inl hworking))
  | ack loopId seq msg rest sent hpc =>
    exact Or.inl (working_of (by rw [hpc]; rfl) Routed.refl (Or.inl rfl))
  | hand msg rest s' hpc hs =>
    exact Or.inl (working_of (by rw [hpc]; rfl) (routed_takeWaiter hs) (Or.inl rfl))
  | miss msg rest hpc => exact Or.inl (working_of (by rw [hpc]; rfl) Routed.refl (Or.inl rfl))
  | enqueue msg rest hpc =>
    exact Or.inl (working_of (by rw [hpc]; rfl) routed_enqueuePendingLocked (Or.inl rfl))
  | mark u rest hpc => exact Or.inr ⟨u, rest, hpc, rfl⟩

/-! ## The calls -/

/-- What a step of the call `i` does. -/
inductive CallStep (w : Tasks) (i : ℕ) : Event → Tasks → Prop
  | connected (hp : (w.call i).pc = .checking) (hc : w.shared.connected = true) :
      CallStep w i .next (w.setPc i (.returned (.ok ())))
  | dial (hp : (w.call i).pc = .checking) (hc : w.shared.connected = false) :
      CallStep w i .next (w.setPc i .dialing)
  | dialed (hp : (w.call i).pc = .dialing) : CallStep w i .dialed (w.setPc i .installing)
  | dialFailed (hp : (w.call i).pc = .dialing) :
      CallStep w i .dialFailed (w.setPc i (.returned (.error (.connection 1))))
  | install (hp : (w.call i).pc = .installing) : CallStep w i .next (w.install i)
  | update (u : Update) (rest : List Update) (k : Cont)
      (hp : (w.call i).pc = .updating (u :: rest) k) :
      CallStep w i .next ({ w with shared := w.shared.update u }.setPc i (.updating rest k))
  | resume (k : Cont) (hp : (w.call i).pc = .updating [] k) : CallStep w i .next (w.resume i k)
  | sendInit (e : ℕ) (hp : (w.call i).pc = .sendingInit e) : CallStep w i .next (w.sendInit i e)
  /-- The handshake pops a frame off the queue. -/
  | frame (e : ℕ) (ev : ℕ × Json) (q : List (ℕ × Json)) (hp : (w.call i).pc = .awaiting e)
      (hq : w.shared.inbound = ev :: q) :
      CallStep w i .next
        ({ w with shared := { w.shared with inbound := q } }.onFrame i e ev.1 ev.2)
  | deadline (e : ℕ) (hp : (w.call i).pc = .awaiting e) :
      CallStep w i .deadline
        (w.setPc i (.returned (.error (.timeout "connection_ack" "15s"))))
  /-- `connect_with_retries` sleeps before its next attempt. -/
  | retry (attempt max : ℕ) (err : Error) (hp : (w.call i).pc = .returned (.error err)) :
      CallStep w i .next (w.setCall i { pc := .sleeping, retries := some (attempt, max) })
  | wake (hp : (w.call i).pc = .sleeping) : CallStep w i .next (w.setPc i .checking)
  | notify (hp : (w.call i).pc = .closing) (hc : w.shared.connected = true) :
      CallStep w i .next (w.setPc i .notifying)
  | close (hp : (w.call i).pc = .closing) :
      CallStep w i .next (w.setPc i (.updating closeUpdates .ok))
  /-- The `disconnect` notification was sent, or could not be. -/
  | notified (sent : List (ℕ × Outgoing)) (hp : (w.call i).pc = .notifying) :
      CallStep w i .next ({ w with sent := sent }.setPc i (.updating closeUpdates .ok))

theorem retry_inv (h : w.retry i = some w') : CallStep w i .next w' := by
  unfold Tasks.retry at h
  split at h
  · rename_i attempt max err hretries hpc
    split_ifs at h
    obtain rfl := Option.some.inj h
    exact .retry (attempt + 1) max err hpc
  · cases h

/-- **Call steps.** -/
theorem callStep_inv (h : w.callStep i event = some w') : CallStep w i event w' := by
  unfold Tasks.callStep at h
  generalize hp : (w.call i).pc = p at h
  cases p with
  | idle => cases event <;> cases h
  | checking =>
    cases event with
    | next =>
      obtain rfl := Option.some.inj h
      cases hc : w.shared.connected with
      | true => exact .connected hp hc
      | false => exact .dial hp hc
    | dialed | dialFailed | deadline => cases h
  | dialing =>
    cases event with
    | dialed =>
      obtain rfl := Option.some.inj h
      exact .dialed hp
    | dialFailed =>
      obtain rfl := Option.some.inj h
      exact .dialFailed hp
    | next | deadline => cases h
  | installing =>
    cases event with
    | next =>
      obtain rfl := Option.some.inj h
      exact .install hp
    | dialed | dialFailed | deadline => cases h
  | updating rest k =>
    cases event with
    | next =>
      cases rest with
      | nil =>
        obtain rfl := Option.some.inj h
        exact .resume k hp
      | cons u rest =>
        obtain rfl := Option.some.inj h
        exact .update u rest k hp
    | dialed | dialFailed | deadline => cases rest <;> cases h
  | sendingInit e =>
    cases event with
    | next =>
      obtain rfl := Option.some.inj h
      exact .sendInit e hp
    | dialed | dialFailed | deadline => cases h
  | awaiting e =>
    cases event with
    | next =>
      simp only at h
      split at h
      · cases h
      · rename_i origin msg q hq
        obtain rfl := Option.some.inj h
        exact .frame e (origin, msg) q hp hq
    | deadline =>
      obtain rfl := Option.some.inj h
      exact .deadline e hp
    | dialed | dialFailed => cases h
  | returned r =>
    cases event with
    | next => exact retry_inv h
    | dialed | dialFailed | deadline => cases h
  | sleeping =>
    cases event with
    | next =>
      obtain rfl := Option.some.inj h
      exact .wake hp
    | dialed | dialFailed | deadline => cases h
  | closing =>
    cases event with
    | next =>
      obtain rfl := Option.some.inj h
      cases hc : w.shared.connected with
      | true => exact .notify hp hc
      | false => exact .close hp
    | dialed | dialFailed | deadline => cases h
  | notifying =>
    cases event with
    | next =>
      obtain ⟨sent, hs⟩ := Tasks.sendRaw_eq (w := w) (m := .disconnect)
      simp only [hs] at h
      obtain rfl := Option.some.inj h
      exact .notified sent hp
    | dialed | dialFailed | deadline => cases h

/-! ## The tasks -/

/-- What a step of the client does. -/
inductive TaskStep (w : Tasks) : Label → Tasks → Prop
  | call (i : ℕ) (op : Op) (hfree : w.free i = true) : TaskStep w (.call i op) (w.start i op)
  | step (i : ℕ) (event : Event) {w' : Tasks} (hs : CallStep w i event w') :
      TaskStep w (.step i event) w'
  | receive (e : ℕ) (item : Item) {w' : Tasks} (hr : w.reader e = .reading)
      (hs : Received w e w') : TaskStep w (.receive e item) w'
  | reader (e : ℕ) {w' : Tasks} (hs : ReaderStep w e w') : TaskStep w (.reader e) w'
  | writerDown (e : ℕ) (he : e < w.installed) :
      TaskStep w (.writerDown e) { w with writerUp := update w.writerUp e false }
  | register (id : String) : TaskStep w (.register id)
      { w with shared := { w.shared with
        rpcWaiters := id :: w.shared.rpcWaiters.filter (· != id) } }
  | unregister (id : String) : TaskStep w (.unregister id)
      { w with shared := { w.shared with rpcWaiters := w.shared.rpcWaiters.filter (· != id) } }
  | readEvent (ev : ℕ × Json) (q : List (ℕ × Json)) (hq : w.shared.inbound = ev :: q) :
      TaskStep w .readEvent { w with shared := { w.shared with inbound := q } }

/-- **Steps.** -/
theorem taskStep_inv {a : Label} (h : Tasks.step w a = some w') : TaskStep w a w' := by
  unfold Tasks.step at h
  cases a with
  | call i op =>
    simp only at h
    split_ifs at h with hfree
    obtain rfl := Option.some.inj h
    exact .call i op hfree
  | step i event => exact .step i event (callStep_inv h)
  | receive e item =>
    simp only at h
    split at h
    · rename_i hr
      obtain rfl := Option.some.inj h
      exact .receive e item hr receive_inv
    · cases h
  | reader e => exact .reader e (readerStep_inv h)
  | writerDown e =>
    simp only at h
    split_ifs at h with he
    obtain rfl := Option.some.inj h
    exact .writerDown e he
  | register id =>
    obtain rfl := Option.some.inj h
    exact .register id
  | unregister id =>
    obtain rfl := Option.some.inj h
    exact .unregister id
  | readEvent =>
    simp only at h
    split at h
    · cases h
    · rename_i ev q hq
      obtain rfl := Option.some.inj h
      exact .readEvent ev q hq

theorem receive_cases {item : Item} (h : Tasks.step w (.receive e item) = some w') :
    Working w w' e := by
  cases taskStep_inv h with
  | receive _ _ hr hs => exact working_received hr hs

/-- The handshake sent `connection_init`, or it could not. -/
theorem sendInit_eq : ∃ sent p, (p = .awaiting e ∨ ∃ err, p = .returned (.error err)) ∧
    w.sendInit i e = { w with sent := sent }.setPc i p := by
  unfold Tasks.sendInit
  obtain ⟨sent, hs⟩ := Tasks.sendRaw_eq (w := w) (m := .connectionInit)
  generalize w.sendRaw .connectionInit = r at hs
  obtain ⟨r, w''⟩ := r
  obtain rfl : w'' = { w with sent := sent } := hs
  cases r with
  | ok _ => exact ⟨sent, .awaiting e, Or.inl rfl, rfl⟩
  | error err => exact ⟨sent, .returned (.error err), Or.inr ⟨err, rfl⟩, rfl⟩

theorem step_updating {u : Update} {rest : List Update} {k : Cont}
    (hp : (w.call i).pc = .updating (u :: rest) k) : Tasks.step w (.step i .next) =
      some ({ w with shared := w.shared.update u }.setPc i (.updating rest k)) := by
  show w.callStep i .next = _
  unfold Tasks.callStep
  rw [hp]

theorem step_resume {k : Cont} (hp : (w.call i).pc = .updating [] k) :
    Tasks.step w (.step i .next) = some (w.resume i k) := by
  show w.callStep i .next = _
  unfold Tasks.callStep
  rw [hp]

theorem step_install (hp : (w.call i).pc = .installing) :
    Tasks.step w (.step i .next) = some (w.install i) := by
  show w.callStep i .next = _
  unfold Tasks.callStep
  rw [hp]

end SootheClient.Client
