import SootheClient.Client.Epochs
import SootheClient.Client.Queue
import SootheClient.Client.Requests
import SootheClient.Client.Routing

/-!
# The sender and the waiters

What a step of a task does to the sender and to the waiters. `mark_disconnected`, `close` and
`reconnect` all drop the sender before they drain the waiters.
-/

namespace SootheClient.Client

open SootheClient.Frame Tasks

namespace Update

/-- The update takes all waiters out of the map. -/
def drains : Update → Bool
  | .clearWaiters | .failWaiters => true
  | .dropWriteTx | .setConnected _ | .setReaderAlive _ | .setHandshakeComplete _
    | .setReadinessState _ | .clearCause | .setCause _ | .clearInbound | .clearDegraded
    | .setHeartbeatInterval _ => false

end Update

/-- The waiters are drained after every drop of the sender. -/
def Tidy : List Update → Prop
  | [] => True
  | u :: rest => (u = .dropWriteTx → rest.any Update.drains = true) ∧ Tidy rest

/-- The updates are what is left to some task. -/
def Pending (w : Tasks) (rest : List Update) : Prop :=
  (∃ e, w.reader e = .marking rest) ∨ ∃ i k, (w.call i).pc = .updating rest k

/-- A `mark_disconnected` or a `reconnect` is in progress and has the waiters still to drain. -/
def Tearing (w : Tasks) : Prop := ∃ rest, Pending w rest ∧ rest.any Update.drains = true

/-- No sender is dropped, no waiter is registered, and the bound of the queue is as it was. -/
structure Keeps (s s' : Shared) : Prop where
  writeTx : s'.writeTx = none → s.writeTx = none
  waiters : ∀ id ∈ s'.rpcWaiters, id ∈ s.rpcWaiters
  maxInbound : s'.maxInbound = s.maxInbound

/-- A step without an update, which leaves the updates of the others. -/
structure Quiet (w w' : Tasks) : Prop where
  shared : Keeps w.shared w'.shared
  begun : ∀ rest, Pending w' rest → Pending w rest ∨ Tidy rest
  kept : ∀ rest, Pending w rest → rest = [] ∨ Pending w' rest

/-- A task performs the first of its updates. -/
structure Performs (w w' : Tasks) (u : Update) (rest : List Update) : Prop where
  shared : w'.shared = w.shared.update u
  before : Pending w (u :: rest)
  after : Pending w' rest
  begun : ∀ l, Pending w' l → Pending w l ∨ l = rest
  kept : ∀ l, Pending w l → l = u :: rest ∨ Pending w' l

variable {w w' : Tasks} {e i : ℕ} {pc : ReaderPc} {c : Call} {s : Shared} {u : Update}
  {rest : List Update}

/-! ## The lists -/

theorem tidy_markDisconnected (cause : DisconnectCause) : Tidy (markDisconnected cause) :=
  ⟨nofun, nofun, fun _ => rfl, nofun, nofun, trivial⟩

theorem tidy_closeUpdates : Tidy closeUpdates :=
  ⟨fun _ => rfl, nofun, nofun, tidy_markDisconnected .clean⟩

theorem tidy_reconnectUpdates : Tidy reconnectUpdates :=
  ⟨fun _ => rfl, nofun, nofun, nofun, nofun, nofun, nofun, nofun, nofun, trivial⟩

theorem tidy_publishUpdates : Tidy publishUpdates := ⟨nofun, nofun, nofun, trivial⟩

theorem tidy_acceptUpdates (state : String) (ack : Json) : Tidy (acceptUpdates state ack) := by
  refine ⟨nofun, nofun, ?_⟩
  cases (((ack.get "result").bind (·.get "heartbeat_interval_ms")).bind Json.asU64?) with
  | none => trivial
  | some ms => exact ⟨nofun, trivial⟩

theorem Keeps.refl : Keeps s s := ⟨id, fun _ h => h, rfl⟩

/-! ## Readers -/

/-- A reader goes on without an update. -/
theorem quiet_setReader (pc : ReaderPc) (hold : ∀ rest, w.reader e ≠ .marking rest)
    (hnew : ∀ rest, pc = .marking rest → Tidy rest)
    (hs : Keeps w.shared s) {sent : List (ℕ × Outgoing)} :
    Quiet w ({ w with shared := s, sent := sent }.setReader e pc) where
  shared := hs
  begun := by
    rintro rest (⟨e', he'⟩ | ⟨i, k, hi⟩)
    · by_cases hne : e' = e
      · subst hne
        rw [setReader_reader_self] at he'
        exact Or.inr (hnew rest he')
      · rw [setReader_reader_ne hne] at he'
        exact Or.inl (Or.inl ⟨e', he'⟩)
    · exact Or.inl (Or.inr ⟨i, k, hi⟩)
  kept := by
    rintro rest (⟨e', he'⟩ | ⟨i, k, hi⟩)
    · by_cases hne : e' = e
      · subst hne
        exact absurd he' (hold rest)
      · refine Or.inr (Or.inl ⟨e', ?_⟩)
        rw [setReader_reader_ne hne]
        exact he'
    · exact Or.inr (Or.inr ⟨i, k, hi⟩)

theorem keeps_enqueue {ev : ℕ × Json} : Keeps s (s.enqueuePendingLocked ev) := by
  obtain ⟨q, b, heq, -⟩ := enqueue_eq s ev
  rw [heq]
  exact ⟨id, fun _ h => h, rfl⟩

/-- A reader marks the connection. -/
theorem performs_mark (hpc : w.reader e = .marking (u :: rest)) :
    Performs w ({ w with shared := w.shared.update u }.setReader e (.marking rest)) u rest where
  shared := rfl
  before := Or.inl ⟨e, hpc⟩
  after := Or.inl ⟨e, setReader_reader_self⟩
  begun := by
    rintro l (⟨e', he'⟩ | ⟨i, k, hi⟩)
    · by_cases hne : e' = e
      · subst hne
        rw [setReader_reader_self] at he'
        exact Or.inr (ReaderPc.marking.inj he').symm
      · rw [setReader_reader_ne hne] at he'
        exact Or.inl (Or.inl ⟨e', he'⟩)
    · exact Or.inl (Or.inr ⟨i, k, hi⟩)
  kept := by
    rintro l (⟨e', he'⟩ | ⟨i, k, hi⟩)
    · by_cases hne : e' = e
      · subst hne
        exact Or.inl (ReaderPc.marking.inj (he'.symm.trans hpc))
      · refine Or.inr (Or.inl ⟨e', ?_⟩)
        rw [setReader_reader_ne hne]
        exact he'
    · exact Or.inr (Or.inr ⟨i, k, hi⟩)

theorem readerStep_wires (h : w.readerStep e = some w') :
    Quiet w w' ∨ ∃ u rest, Performs w w' u rest := by
  cases readerStep_inv h with
  | turn hpc => exact Or.inl (quiet_setReader .reading (by rw [hpc]; nofun) nofun .refl)
  | settle msg rest sent hpc =>
    exact Or.inl (quiet_setReader (.routing rest) (by rw [hpc]; nofun) nofun .refl)
  | route msg rest pc seqs hpc hping hpong hnext =>
    have hkeeps : Keeps w.shared { w.shared with deliverySeq := seqs } := ⟨id, fun _ h => h, rfl⟩
    left
    rcases hnext with rfl | ⟨loopId, seq, rfl⟩
    · exact quiet_setReader (.dispatching msg rest) (by rw [hpc]; nofun) nofun hkeeps
    · exact quiet_setReader (.acking loopId seq msg rest) (by rw [hpc]; nofun) nofun hkeeps
  | ack loopId seq msg rest sent hpc =>
    exact Or.inl (quiet_setReader (.dispatching msg rest) (by rw [hpc]; nofun) nofun .refl)
  | hand msg rest s hpc hs =>
    obtain ⟨-, -, -, rfl⟩ := takeWaiter_eq_some.1 hs
    refine Or.inl (quiet_setReader (.routing rest) (by rw [hpc]; nofun) nofun ⟨?_, ?_, ?_⟩)
    · exact id
    · exact fun _ h => List.mem_of_mem_filter h
    · rfl
  | miss msg rest hpc hs =>
    exact Or.inl (quiet_setReader (.enqueueing msg rest) (by rw [hpc]; nofun) nofun .refl)
  | enqueue msg rest hpc =>
    exact Or.inl (quiet_setReader (.routing rest) (by rw [hpc]; nofun) nofun keeps_enqueue)
  | mark u rest hpc => exact Or.inr ⟨u, rest, performs_mark hpc⟩

theorem received_wires (hpc : w.reader e = .reading) (h : Received w e w') : Quiet w w' := by
  cases h with
  | stays sent => exact ⟨⟨id, fun _ h => h, rfl⟩, fun _ h => Or.inl h, fun _ h => Or.inr h⟩
  | routes msgs => exact quiet_setReader (.routing msgs) (by rw [hpc]; nofun) nofun .refl
  | ends =>
    refine quiet_setReader (.marking _) (by rw [hpc]; nofun) (fun rest h => ?_) .refl
    obtain rfl := ReaderPc.marking.inj h
    exact tidy_markDisconnected .unclean

/-! ## Calls -/

/-- The call has no updates left. -/
def Pc.through : Pc → Bool
  | .updating (_ :: _) _ => false
  | .updating [] _ | .idle | .checking | .dialing | .installing | .sendingInit _ | .awaiting _
    | .sleeping | .closing | .notifying | .returned _ => true

/-- A call goes on without an update. -/
theorem quiet_setCall (c : Call) (hold : (w.call i).pc.through = true)
    (hnew : ∀ rest k, c.pc = .updating rest k → Tidy rest)
    (hs : Keeps w.shared s) {sent : List (ℕ × Outgoing)} {acked : List (ℕ × Json)} {n : ℕ} :
    Quiet w ({ w with shared := s, sent := sent, acked := acked, installed := n }.setCall i c) where
  shared := hs
  begun := by
    rintro rest (⟨e, he⟩ | ⟨j, k, hj⟩)
    · exact Or.inl (Or.inl ⟨e, he⟩)
    · by_cases hne : j = i
      · subst hne
        rw [setCall_call_self] at hj
        exact Or.inr (hnew rest k hj)
      · rw [setCall_call_ne hne] at hj
        exact Or.inl (Or.inr ⟨j, k, hj⟩)
  kept := by
    rintro rest (⟨e, he⟩ | ⟨j, k, hj⟩)
    · exact Or.inr (Or.inl ⟨e, he⟩)
    · by_cases hne : j = i
      · subst hne
        rw [hj] at hold
        cases rest with
        | nil => exact Or.inl rfl
        | cons u rest => cases hold
      · refine Or.inr (Or.inr ⟨j, k, ?_⟩)
        rw [setCall_call_ne hne]
        exact hj

/-- A call performs an update. -/
theorem performs_setPc {k : Cont} (hpc : (w.call i).pc = .updating (u :: rest) k) :
    Performs w ({ w with shared := w.shared.update u }.setPc i (.updating rest k)) u rest where
  shared := rfl
  before := Or.inr ⟨i, k, hpc⟩
  after := Or.inr ⟨i, k, setPc_pc_self⟩
  begun := by
    rintro l (⟨e, he⟩ | ⟨j, k', hj⟩)
    · exact Or.inl (Or.inl ⟨e, he⟩)
    · by_cases hne : j = i
      · subst hne
        rw [setPc_pc_self] at hj
        exact Or.inr (Pc.updating.inj hj).1.symm
      · rw [setPc_call_ne hne] at hj
        exact Or.inl (Or.inr ⟨j, k', hj⟩)
  kept := by
    rintro l (⟨e, he⟩ | ⟨j, k', hj⟩)
    · exact Or.inr (Or.inl ⟨e, he⟩)
    · by_cases hne : j = i
      · subst hne
        exact Or.inl (Pc.updating.inj (hj.symm.trans hpc)).1
      · refine Or.inr (Or.inr ⟨j, k', ?_⟩)
        rw [setPc_call_ne hne]
        exact hj

theorem quiet_sendInit (hp : (w.call i).pc.through = true) : Quiet w (w.sendInit i e) := by
  obtain ⟨sent, p, hpc, heq⟩ := sendInit_eq (w := w) (i := i) (e := e)
  rw [heq]
  obtain rfl | ⟨err, rfl⟩ := hpc
  · exact quiet_setCall { w.call i with pc := .awaiting e } hp nofun .refl
  · exact quiet_setCall { w.call i with pc := .returned (.error err) } hp nofun .refl

theorem quiet_onFrame {origin : ℕ} {msg : Json} {q : List (ℕ × Json)}
    (hp : (w.call i).pc.through = true) :
    Quiet w ({ w with shared := { w.shared with inbound := q } }.onFrame i e origin msg) := by
  have hkeeps : Keeps w.shared { w.shared with inbound := q } := ⟨id, fun _ h => h, rfl⟩
  unfold onFrame
  cases handshakeVerdict msg with
  | ignore => exact ⟨hkeeps, fun _ h => Or.inl h, fun _ h => Or.inr h⟩
  | resend => exact quiet_setCall { w.call i with pc := .sendingInit e } hp nofun hkeeps
  | accept state =>
    refine quiet_setCall { w.call i with pc := .updating (acceptUpdates state msg) .ok } hp
      (fun rest k h => ?_) hkeeps
    obtain ⟨rfl, -⟩ := Pc.updating.inj h
    exact tidy_acceptUpdates state msg
  | fail err =>
    exact quiet_setCall { w.call i with pc := .returned (.error err) } hp nofun hkeeps

theorem quiet_install (hp : (w.call i).pc = .installing) : Quiet w (w.install i) := by
  have hkeeps : Keeps w.shared { w.shared with writeTx := some w.installed } :=
    ⟨nofun, fun _ h => h, rfl⟩
  refine quiet_setCall { w.call i with pc := .updating publishUpdates (.spawn w.installed) }
    (by rw [hp]; rfl) (fun rest k h => ?_) hkeeps
  obtain ⟨rfl, -⟩ := Pc.updating.inj h
  exact tidy_publishUpdates

theorem Quiet.trans {w₁ : Tasks} (h : Quiet w w₁) (h' : Quiet w₁ w') : Quiet w w' where
  shared := ⟨fun hn => h.shared.writeTx (h'.shared.writeTx hn),
    fun id hid => h.shared.waiters id (h'.shared.waiters id hid),
    h'.shared.maxInbound.trans h.shared.maxInbound⟩
  begun rest hp := by
    rcases h'.begun rest hp with hp | ht
    · exact h.begun rest hp
    · exact Or.inr ht
  kept rest hp := by
    rcases h.kept rest hp with hnil | hp
    · exact Or.inl hnil
    · exact h'.kept rest hp

/-- The tasks of a connection are spawned. -/
theorem quiet_spawn (ho : Owned w) (hp : (w.call i).pc = .updating [] (.spawn e)) :
    Quiet w ((w.setReader e .reading).setPc i (.sendingInit e)) := by
  obtain ⟨-, hun⟩ := ho.spawning i [] e (spawns_eq_some.2 hp)
  have hreader : Quiet w (w.setReader e .reading) :=
    quiet_setReader .reading (by rw [hun]; nofun) nofun .refl
  refine hreader.trans ?_
  exact quiet_setCall { w.call i with pc := .sendingInit e } (by rw [setReader_call, hp]; rfl) nofun
    .refl

/-- A call that is not at its updates goes on. -/
theorem quiet_of_next (c : Call) (hold : (w.call i).pc.through = true)
    (hnew : c.pc.through = true) {sent : List (ℕ × Outgoing)} :
    Quiet w ({ w with sent := sent }.setCall i c) := by
  refine quiet_setCall c hold (fun rest k h => ?_) .refl
  rw [h] at hnew
  cases rest with
  | nil => trivial
  | cons u rest => cases hnew

theorem quiet_close (hold : (w.call i).pc.through = true) {sent : List (ℕ × Outgoing)} :
    Quiet w ({ w with sent := sent }.setPc i (.updating closeUpdates .ok)) := by
  refine quiet_setCall { w.call i with pc := .updating closeUpdates .ok } hold (fun rest k h => ?_)
    .refl
  obtain ⟨rfl, -⟩ := Pc.updating.inj h
  exact tidy_closeUpdates

/-- **Call steps.** A call performs an update, or it drops no sender and registers nothing. -/
theorem callStep_wires (ho : Owned w) {event : Event} (h : w.callStep i event = some w') :
    Quiet w w' ∨ ∃ u rest, Performs w w' u rest := by
  cases callStep_inv h with
  | connected hp | dial hp | dialed hp | dialFailed hp | deadline _ hp | wake hp | notify hp =>
    exact Or.inl (quiet_of_next { w.call i with pc := _ } (by rw [hp]; rfl) rfl)
  | retry _ _ _ hp => exact Or.inl (quiet_of_next _ (by rw [hp]; rfl) rfl)
  | install hp => exact Or.inl (quiet_install hp)
  | update u rest k hp => exact Or.inr ⟨u, rest, performs_setPc hp⟩
  | resume k hp =>
    left
    cases k with
    | spawn e => exact quiet_spawn ho hp
    | connect | ok => exact quiet_of_next { w.call i with pc := _ } (by rw [hp]; rfl) rfl
  | sendInit e hp => exact Or.inl (quiet_sendInit (by rw [hp]; rfl))
  | frame e ev q hp => exact Or.inl (quiet_onFrame (by rw [hp]; rfl))
  | close hp | notified _ hp => exact Or.inl (quiet_close (by rw [hp]; rfl))

theorem start_quiet {op : Op} (h : w.free i = true) : Quiet w (w.start i op) := by
  have hp : (w.call i).pc.through = true := by
    unfold free at h
    cases hp : (w.call i).pc with
    | updating rest k =>
      rw [hp] at h
      cases h
    | idle | checking | dialing | installing | sendingInit | awaiting | sleeping | closing
      | notifying | returned => rfl
  cases op with
  | connect | connectWithRetries | close => exact quiet_of_next _ hp rfl
  | reconnect =>
    refine quiet_setCall { pc := .updating reconnectUpdates .connect } hp (fun rest k h => ?_) .refl
    obtain ⟨rfl, -⟩ := Pc.updating.inj h
    exact tidy_reconnectUpdates

/-- **Steps.** Besides the requests, a task performs an update or is quiet. -/
theorem step_wires (ho : Owned w) {a : Label} (ha : a.ofRequest = false)
    (h : w.step a = some w') : Quiet w w' ∨ ∃ u rest, Performs w w' u rest := by
  cases taskStep_inv h with
  | call i op hfree => exact Or.inl (start_quiet hfree)
  | step i event => exact callStep_wires ho h
  | receive e item hr hs => exact Or.inl (received_wires hr hs)
  | reader e => exact readerStep_wires h
  | register | unregister => cases ha
  | writerDown | readEvent =>
    exact Or.inl ⟨⟨id, fun _ h => h, rfl⟩, fun _ h => Or.inl h, fun _ h => Or.inr h⟩

/-! ## Teardowns -/

/-- The other updates touch neither the sender nor the waiters. -/
theorem update_wires (hdrop : u ≠ .dropWriteTx) (hdrain : u.drains = false) :
    (s.update u).writeTx = s.writeTx ∧ (s.update u).rpcWaiters = s.rpcWaiters := by
  cases u with
  | dropWriteTx => exact absurd rfl hdrop
  | clearWaiters | failWaiters => cases hdrain
  | setConnected | setReaderAlive | setHandshakeComplete | setReadinessState | clearCause
    | setCause | clearInbound | clearDegraded | setHeartbeatInterval => exact ⟨rfl, rfl⟩

theorem update_drains (hdrain : u.drains = true) : (s.update u).rpcWaiters = [] := by
  cases u with
  | clearWaiters | failWaiters => rfl
  | dropWriteTx | setConnected | setReaderAlive | setHandshakeComplete | setReadinessState
    | clearCause | setCause | clearInbound | clearDegraded | setHeartbeatInterval => cases hdrain

theorem Tearing.quiet (h : Tearing w) (hq : Quiet w w') : Tearing w' := by
  obtain ⟨rest, hp, hd⟩ := h
  rcases hq.kept rest hp with rfl | hp'
  · cases hd
  · exact ⟨rest, hp', hd⟩

/-- A teardown goes on until it drains. -/
theorem Tearing.performs (h : Tearing w) (hp : Performs w w' u rest) (hu : u.drains = false) :
    Tearing w' := by
  obtain ⟨l, hl, hd⟩ := h
  rcases hp.kept l hl with rfl | hl'
  · rw [List.any_cons, hu, Bool.false_or] at hd
    exact ⟨rest, hp.after, hd⟩
  · exact ⟨l, hl', hd⟩

end SootheClient.Client
