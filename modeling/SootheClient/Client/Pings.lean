import SootheClient.Client.Connect
import SootheClient.Client.Scripts
import SootheClient.Lib.Spaced

/-!
# Ping tasks

A `connect` whose acknowledgement names a heartbeat interval spawns a task that pings the daemon.
The task asks whether the connection is alive, sleeps for its period and asks again before it pings;
it is over when the answer is no. It does not know of its connection: one that a reconnect overtakes
in its sleep goes on beside the new one.
-/

namespace SootheClient.Client

open SootheClient.Frame

inductive PingerPc where
  | checking
  | sleeping (wake : ℕ)
  /-- The sleep is over; the connection is asked again. -/
  | waking
  | done

/-- A ping task, with the clocks at which it pinged. Times are in milliseconds. -/
structure Pinger where
  interval : ℕ
  spawned : ℕ
  pc : PingerPc := .checking
  pings : List ℕ := []

/-- A client with its ping tasks and a clock. -/
structure Pinging where
  tasks : Tasks := {}
  clock : ℕ := 0
  pingers : List Pinger := []

inductive PingAct where
  | task (a : Label)
  | elapse (d : ℕ)
  | pinger (n : ℕ)

namespace Pinger

variable (p : Pinger)

def period : ℕ := max p.interval 5000

/-- The task goes on. -/
def step (alive : Bool) (clock : ℕ) : Option Pinger :=
  match p.pc with
  | .checking =>
    some { p with pc := if alive then .sleeping (clock + p.period) else .done }
  | .sleeping wake => if wake ≤ clock then some { p with pc := .waking } else none
  | .waking =>
    some (if alive then { p with pc := .checking, pings := p.pings ++ [clock] }
      else { p with pc := .done })
  | .done => none

end Pinger

/-- The interval of the ping task that a step spawns. -/
def spawns (w : Tasks) : Label → Option ℕ
  | .step i .next =>
    match (w.call i).pc with
    | .updating (.setHeartbeatInterval ms :: _) _ => if 0 < ms then some ms else none
    | _ => none
  | _ => none

namespace Pinging

variable (v : Pinging)

/-- `is_connection_alive`. -/
def alive : Bool := v.tasks.shared.readerAlive && v.tasks.shared.connected

def step : PingAct → Option Pinging
  | .task a => (v.tasks.step a).map fun w =>
    { v with
      tasks := w
      pingers := v.pingers ++
        ((spawns v.tasks a).map fun ms => { interval := ms, spawned := v.clock }).toList }
  | .elapse d => some { v with clock := v.clock + d }
  | .pinger n => v.pingers[n]?.bind fun p =>
    (p.step v.alive v.clock).map fun p' => { v with pingers := v.pingers.set n p' }

end Pinging

/-- The interval that a `connection_ack` names. -/
def heartbeatInterval (ack : Json) : Option ℕ :=
  ((ack.get "result").bind (·.get "heartbeat_interval_ms")).bind Json.asU64?

/-- An acknowledgement among those that handshakes took names the interval. -/
def Acknowledged (acked : List (ℕ × Json)) (ms : ℕ) : Prop :=
  ∃ ack ∈ acked, Accepts ack.2 = true ∧ heartbeatInterval ack.2 = some ms

/-- The intervals that are still to be set were acknowledged. -/
def NamesIntervals (acked : List (ℕ × Json)) (rest : List Update) : Prop :=
  ∀ ms, .setHeartbeatInterval ms ∈ rest → Acknowledged acked ms

variable {v v' : Pinging} {w : Tasks} {p p' : Pinger} {a : PingAct} {acts : List PingAct}
  {clock d ms : ℕ} {label : Label} {alive : Bool} {acked acked' : List (ℕ × Json)}

theorem Acknowledged.mono (h : Acknowledged acked ms) (hsub : acked ⊆ acked') :
    Acknowledged acked' ms := by
  obtain ⟨ack, hack, hms⟩ := h
  exact ⟨ack, hsub hack, hms⟩

theorem namesIntervals_rule : ScriptRule NamesIntervals where
  none _ ms h := absurd h List.not_mem_nil
  tail _ u rest h ms hms := h ms (List.mem_cons_of_mem u hms)
  close _ ms h := by simp [closeUpdates, markDisconnected] at h
  reconnect _ ms h := by simp [reconnectUpdates] at h
  publish _ ms h := by simp [publishUpdates] at h
  accept acked ack state hv ms h := by
    refine ⟨ack, List.mem_cons_self, accepts_iff.2 ⟨state, hv⟩, ?_⟩
    unfold acceptUpdates at h
    obtain h | h := List.mem_append.1 h
    · simp at h
    · obtain ⟨ms', hms', heq⟩ := Option.map_eq_some_iff.1 (Option.mem_toList.1 h)
      obtain rfl := Update.setHeartbeatInterval.inj heq
      exact hms'
  grows acked ack rest h ms hms := (h ms hms).mono (List.subset_cons_self ack acked)

/-- What a ping task has done by the clock. -/
structure Punctual (clock : ℕ) (p : Pinger) : Prop where
  spaced : Spaced p.period (p.spawned :: p.pings)
  past : ∀ x ∈ p.spawned :: p.pings, x ≤ clock
  sleeping : ∀ wake, p.pc = .sleeping wake → ∀ x ∈ p.spawned :: p.pings, x + p.period ≤ wake
  waking : p.pc = .waking → ∀ x ∈ p.spawned :: p.pings, x + p.period ≤ clock

theorem Punctual.elapse (h : Punctual clock p) : Punctual (clock + d) p where
  spaced := h.spaced
  past x hx := Nat.le_add_right_of_le (h.past x hx)
  sleeping := h.sleeping
  waking hpc x hx := Nat.le_add_right_of_le (h.waking hpc x hx)

/-- A task that only moves on. -/
theorem Punctual.move {pc : PingerPc} (h : Punctual clock p)
    (hsleep : ∀ wake, pc = .sleeping wake → ∀ x ∈ p.spawned :: p.pings, x + p.period ≤ wake)
    (hwake : pc = .waking → ∀ x ∈ p.spawned :: p.pings, x + p.period ≤ clock) :
    Punctual clock { p with pc := pc } where
  spaced := h.spaced
  past := h.past
  sleeping := hsleep
  waking := hwake

theorem Punctual.ping (h : Punctual clock p) (hpc : p.pc = .waking) :
    Punctual clock { p with pc := .checking, pings := p.pings ++ [clock] } where
  spaced := h.spaced.concat (h.waking hpc)
  past x hx := by
    obtain hx | hx := List.mem_append.1 (show x ∈ (p.spawned :: p.pings) ++ [clock] from hx)
    · exact h.past x hx
    · exact (List.mem_singleton.1 hx).le
  sleeping wake hpc := by cases hpc
  waking hpc := by cases hpc

/-- **Step lemma.** -/
theorem Punctual.step (h : Punctual clock p) (hs : p.step alive clock = some p') :
    Punctual clock p' := by
  unfold Pinger.step at hs
  cases hpc : p.pc with
  | checking =>
    rw [hpc] at hs
    obtain rfl := Option.some.inj hs
    refine h.move (fun wake hwake x hx => ?_) fun hwake => ?_
    · split_ifs at hwake
      obtain rfl := PingerPc.sleeping.inj hwake
      exact Nat.add_le_add_right (h.past x hx) _
    · split_ifs at hwake
  | sleeping wake =>
    simp only [hpc] at hs
    split_ifs at hs with hdue
    obtain rfl := Option.some.inj hs
    refine h.move (fun wake hwake => by cases hwake) fun _ x hx => ?_
    exact (h.sleeping wake hpc x hx).trans hdue
  | waking =>
    simp only [hpc] at hs
    obtain rfl := Option.some.inj hs
    split_ifs
    · exact h.ping hpc
    · exact h.move (fun wake hwake => by cases hwake) fun hwake => by cases hwake
  | done =>
    rw [hpc] at hs
    cases hs

theorem punctual_spawned : Punctual clock { interval := ms, spawned := clock } where
  spaced := .singleton
  past x hx := (List.mem_singleton.1 hx).le
  sleeping wake hpc := by cases hpc
  waking hpc := by cases hpc

theorem spawns_acknowledged (h : Pends NamesIntervals w) (hs : spawns w label = some ms) :
    0 < ms ∧ Acknowledged w.acked ms := by
  unfold spawns at hs
  split at hs
  · rename_i i
    split at hs
    · rename_i ms' rest k hpc
      split_ifs at hs with hpos
      obtain rfl := Option.some.inj hs
      have hi := h i
      rw [hpc] at hi
      exact ⟨hpos, hi ms' List.mem_cons_self⟩
    · cases hs
  · cases hs

/-- A task keeps the interval that it was spawned with. -/
theorem Pinger.step_interval (hs : p.step alive clock = some p') : p'.interval = p.interval := by
  unfold Pinger.step at hs
  cases hpc : p.pc with
  | checking =>
    rw [hpc] at hs
    exact (congrArg Pinger.interval (Option.some.inj hs)).symm
  | sleeping wake =>
    simp only [hpc] at hs
    split_ifs at hs
    exact (congrArg Pinger.interval (Option.some.inj hs)).symm
  | waking =>
    simp only [hpc] at hs
    obtain rfl := Option.some.inj hs
    split_ifs <;> rfl
  | done =>
    rw [hpc] at hs
    cases hs

/-- All ping tasks keep to their periods, which the daemon asked for. -/
structure Paced (v : Pinging) : Prop where
  pends : Pends NamesIntervals v.tasks
  interval : ∀ p ∈ v.pingers, 0 < p.interval ∧ Acknowledged v.tasks.acked p.interval
  punctual : ∀ p ∈ v.pingers, Punctual v.clock p

theorem Paced.step (h : Paced v) (hs : v.step a = some v') : Paced v' := by
  cases a with
  | task label =>
    obtain ⟨w, hw, rfl⟩ := Option.map_eq_some_iff.1 hs
    refine ⟨namesIntervals_rule.step h.pends hw, fun p hp => ?_, fun p hp => ?_⟩
    · have hsub : v.tasks.acked ⊆ w.acked := acked_subset hw
      obtain hp | hp := List.mem_append.1 hp
      · exact ⟨(h.interval p hp).1, (h.interval p hp).2.mono hsub⟩
      · obtain ⟨ms, hms, rfl⟩ := Option.map_eq_some_iff.1 (Option.mem_toList.1 hp)
        obtain ⟨hpos, hack⟩ := spawns_acknowledged h.pends hms
        exact ⟨hpos, hack.mono hsub⟩
    · obtain hp | hp := List.mem_append.1 hp
      · exact h.punctual p hp
      · obtain ⟨ms, hms, rfl⟩ := Option.map_eq_some_iff.1 (Option.mem_toList.1 hp)
        exact punctual_spawned
  | elapse d =>
    obtain rfl := Option.some.inj hs
    exact ⟨h.pends, h.interval, fun p hp => (h.punctual p hp).elapse⟩
  | pinger n =>
    obtain ⟨q, hq, hs⟩ := Option.bind_eq_some_iff.1 hs
    obtain ⟨q', hq', rfl⟩ := Option.map_eq_some_iff.1 hs
    have hmem : q ∈ v.pingers := List.mem_of_getElem? hq
    refine ⟨h.pends, fun p hp => ?_, fun p hp => ?_⟩
    · obtain hp | rfl := List.mem_or_eq_of_mem_set hp
      · exact h.interval p hp
      · rw [Pinger.step_interval hq']
        exact h.interval q hmem
    · obtain hp | rfl := List.mem_or_eq_of_mem_set hp
      · exact h.punctual p hp
      · exact (h.punctual q hmem).step hq'

/-- **Pings.** Whatever the calls, the readers and the clock do, every ping task has an interval
that an acknowledgement named which a handshake of the run took, its pings are at least its period
apart, the first one that long after it was spawned, and so no more than the time since then
allows. -/
theorem pings_paced (h : Lts.exec Pinging.step {} acts = some v) : ∀ p ∈ v.pingers,
    (0 < p.interval ∧ Acknowledged v.tasks.acked p.interval) ∧
      Spaced p.period (p.spawned :: p.pings) ∧
        p.spawned + p.pings.length * p.period ≤ v.clock := by
  intro p hp
  have hstart : Paced {} := ⟨namesIntervals_rule.init, fun p hp => absurd hp List.not_mem_nil,
    fun p hp => absurd hp List.not_mem_nil⟩
  have hpaced : Paced v := Lts.inv_of_exec (fun _ _ _ => Paced.step) hstart h
  have hkeep := hpaced.punctual p hp
  exact ⟨hpaced.interval p hp, hkeep.spaced, hkeep.spaced.rate hkeep.past⟩

/-- The daemon asks for heartbeats. -/
def ackEvery (ms : ℤ) : Json :=
  .obj [("type", .str "connection_ack"),
    ("result", .obj [("heartbeat_interval_ms", .num (.int ms))])]

/-- A client reconnects while its ping task sleeps; after six seconds two tasks ping. -/
def overtaken : List PingAct :=
  (dials ++ delivers 0 (ackEvery 100) ++ goes 5).map .task ++ [.pinger 0, .elapse 1000] ++
    (.call 0 .reconnect :: goes 11 ++ .step 0 .dialed :: goes 6 ++
      delivers 1 (ackEvery 100) ++ goes 5).map .task ++
    [.pinger 1, .elapse 5000, .pinger 0, .pinger 1, .pinger 0, .pinger 1]

theorem pings_paced_overtaken : ∃ v, Lts.exec Pinging.step {} overtaken = some v ∧
    v.pingers.map (·.pings) = [[6000], [6000]] ∧ ∀ p ∈ v.pingers,
      Acknowledged v.tasks.acked p.interval ∧
        p.spawned + p.pings.length * p.period ≤ v.clock := by
  have hrun : (Lts.exec Pinging.step {} overtaken).map (fun v => v.pingers.map (·.pings)) =
      some [[6000], [6000]] := by
    decide +kernel
  obtain ⟨v, hv, hpings⟩ := Option.map_eq_some_iff.1 hrun
  refine ⟨v, hv, hpings, fun p hp => ?_⟩
  obtain ⟨⟨-, hack⟩, -, hrate⟩ := pings_paced hv p hp
  exact ⟨hack, hrate⟩

end SootheClient.Client
