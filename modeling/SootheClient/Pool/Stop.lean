import Mathlib.Algebra.Order.BigOperators.Group.Finset
import SootheClient.Pool.Exclusive
import SootheClient.Pool.Slots

/-!
# Stopping the pool

`stop` drains the active connections in one critical section and closes them one by one; then it
takes the idle slots off the channel, each in a section of its own, until the channel is empty. It
runs beside the other calls.
-/

namespace SootheClient.Pool

open Function (update update_self update_of_ne)

/-- Pool stats snapshot. -/
structure PoolStats where
  active : ℕ
  idle : ℕ
  deriving DecidableEq

/-- Where a `stop` is. -/
inductive StopPc (Cl : Type*) where
  | idle
  /-- `active_slots.drain`. -/
  | draining
  /-- The drained connections that are left. -/
  | closing (rest : List (PooledConn Cl))
  /-- `idle_rx.try_recv`. -/
  | emptying
  | closingIdle (slot : IdleSlot Cl)
  | done

/-- A pool with its calls and its stops. -/
structure Stoppable (Cl σ : Type*) where
  system : System Cl σ
  stop : ℕ → StopPc Cl
  /-- The clients that the stops closed. -/
  shut : List Cl

inductive StopLabel where
  | call (a : Label)
  | stop (n : ℕ)
  | next (n : ℕ)

variable {Cl σ : Type*}

/-- The connections of a map, in some order. -/
def conns (m : StrMap (PooledConn Cl)) : List (PooledConn Cl) := m.entries.map Sigma.snd

/-- `stats`. -/
def PoolState.stats (st : PoolState Cl) : PoolStats where
  active := st.activeSlots.size
  idle := st.idleCount

namespace Stoppable

variable (P : ConnectionPool Cl σ) (w : Stoppable Cl σ)

def init (store : σ) : Stoppable Cl σ where
  system := .init P store
  stop _ := .idle
  shut := []

def goto (n : ℕ) (p : StopPc Cl) : Stoppable Cl σ := { w with stop := update w.stop n p }

def setState (st : PoolState Cl) : Stoppable Cl σ :=
  { w with system := { w.system with state := st } }

/-- A step of a `stop`. -/
def next (n : ℕ) : Option (Stoppable Cl σ) :=
  match w.stop n with
  | .draining =>
    some ((w.setState { w.system.state with activeSlots := ∅ }).goto n
      (.closing (conns w.system.state.activeSlots)))
  | .closing (c :: rest) => some { w.goto n (.closing rest) with shut := w.shut ++ [c.client] }
  | .closing [] => some (w.goto n .emptying)
  | .emptying =>
    match w.system.state.tryRecv with
    | some (slot, st) => some ((w.setState st).goto n (.closingIdle slot))
    | none => some (w.goto n .done)
  | .closingIdle slot => some { w.goto n .emptying with shut := w.shut ++ [slot.client] }
  | .idle | .done => none

def step : StopLabel → Option (Stoppable Cl σ)
  | .call a => (w.system.step P a).map fun s => { w with system := s }
  | .stop n =>
    match w.stop n with
    | .idle => some (w.goto n .draining)
    | _ => none
  | .next n => w.next n

end Stoppable

/-! ## The bound -/

namespace System

variable {P : ConnectionPool Cl σ} {s t : System Cl σ} {a : Label} {i k : ℕ} {p : Pc Cl}

/-- The slots that are idle or active. -/
def slots (s : System Cl σ) : ℕ := s.state.idle.length + s.state.activeSlots.size

/-- A step of a call takes its slots from the pool, or gives them back. -/
structure Trades (s : System Cl σ) (i : ℕ) (t : System Cl σ) : Prop where
  others : ∀ k ≠ i, t.pc k = s.pc k
  slots : t.slots + (t.pc i).held ≤ s.slots + (s.pc i).held
  count : s.state.idleCount = s.state.idle.length → t.state.idleCount = t.state.idle.length

theorem trades_of_pc {q : Pc Cl} (hi : s.pc i = q) (hpc : t.pc = update s.pc i p)
    (hslots : t.slots + p.held ≤ s.slots + q.held)
    (hcount : s.state.idleCount = s.state.idle.length →
      t.state.idleCount = t.state.idle.length) : Trades s i t where
  others k hk := by rw [hpc, update_of_ne hk]
  slots := by rwa [hpc, update_self, hi]
  count := hcount

/-- The slots of the pool are as before. -/
theorem trades_goto {q : Pc Cl} (hi : s.pc i = q) (hpc : t.pc = update s.pc i p)
    (hidle : t.state.idle = s.state.idle) (hactive : t.state.activeSlots = s.state.activeSlots)
    (hcount : t.state.idleCount = s.state.idleCount) (hp : p.held ≤ q.held) : Trades s i t := by
  refine trades_of_pc hi hpc ?_ fun h => ?_
  · unfold System.slots
    rw [hidle, hactive]
    exact Nat.add_le_add_left hp _
  · rw [hcount, hidle]
    exact h

theorem held_le_one (p : Pc Cl) : p.held ≤ 1 := by
  unfold Pc.held
  split
  · exact le_rfl
  · exact le_rfl
  · split_ifs
    · exact le_rfl
    · exact Nat.zero_le 1

theorem size_insert_le (m : StrMap (PooledConn Cl)) (sid : String) (c : PooledConn Cl) :
    StrMap.size (m.insert sid c) ≤ m.size + 1 := by
  rw [StrMap.size, AList.keys_insert, List.length_cons]
  exact Nat.succ_le_succ List.length_erase_le

theorem trades_giveBack {slot : IdleSlot Cl} {l : After} {capacity : ℕ}
    (hi : s.pc i = .giveBack l) :
    Trades s i { s.goto i l.pc with state := s.state.trySend capacity slot } := by
  unfold PoolState.trySend
  split_ifs with hroom
  · refine trades_of_pc hi rfl ?_ fun hc => ?_
    · rw [held_pc]
      simp only [System.slots, Pc.held, List.length_append, List.length_singleton]
      omega
    · simp only [hc, List.length_append, List.length_singleton]
  · exact trades_goto hi rfl rfl rfl rfl (by rw [held_pc]; exact Nat.zero_le _)

/-- **Step lemma**, one call. -/
theorem PoolStep.trades (h : PoolStep P s a t) : Trades s a.call t := by
  cases h with
  | acquire i args hi | release i sid hi => exact trades_goto hi rfl rfl rfl rfl le_rfl
  | missing i hi | found i c hi | touch i c hi | exhausted i hi =>
    exact trades_goto hi rfl rfl rfl rfl le_rfl
  | absent i l hi =>
    exact trades_goto hi rfl rfl rfl rfl (by rw [held_pc]; exact Nat.zero_le _)
  | remove i c l hi hl =>
    refine trades_of_pc hi rfl ?_ id
    have hsize := StrMap.size_erase_of_lookup hl
    simp only [System.slots, PoolState.remove, Pc.held, Pc.building, Bool.false_eq_true, if_false]
    omega
  | closing i c l hi | assign i slot hi | persist i c l hi | write i c l b hi | finish i c l hi =>
    exact trades_goto hi rfl rfl rfl rfl le_rfl
  | giveBack i l hi => exact trades_giveBack hi
  | pull i slot rest hi hidle =>
    refine trades_of_pc hi rfl ?_ fun hc => ?_
    · simp only [System.slots, hidle, List.length_cons, Pc.held, Pc.building, Bool.false_eq_true,
        if_false, if_true]
      omega
    · rw [hidle] at hc
      simp only [hc, List.length_cons, Nat.add_sub_cancel]
  | loopIdFor i c hi => exact trades_goto hi rfl rfl rfl rfl (held_le_one _)
  | insert i c hi =>
    refine trades_of_pc hi rfl ?_ id
    have hsize := size_insert_le s.state.activeSlots (s.sid i) c
    simp only [System.slots, PoolState.insert, Pc.held, Pc.building, Bool.false_eq_true, if_false,
      if_true]
    omega
  | check i c dropped elapsed hi =>
    obtain hp | hp := checkPc_eq (P := P) (s := s) (c := c) dropped elapsed
    · rw [hp]
      exact trades_goto hi rfl rfl rfl rfl (Nat.zero_le _)
    · rw [hp]
      exact trades_goto hi rfl rfl rfl rfl (Nat.zero_le _)
  | connect i c fresh r hi => exact trades_goto hi rfl rfl rfl rfl (held_le_one _)
  | bootstrap i c fresh r hi => exact trades_goto hi rfl rfl rfl rfl (held_le_one _)
  | resume i c l ok hi => exact trades_goto hi rfl rfl rfl rfl (held_le_one _)

/-- Idle, active and held slots are no more than the pool was made with. -/
structure Bounded (P : ConnectionPool Cl σ) (s : System Cl σ) : Prop where
  count : s.state.idleCount = s.state.idle.length
  total : ∀ F : Finset ℕ, s.slots + ∑ k ∈ F, (s.pc k).held ≤ P.cfg.poolSize

theorem Trades.bounded (h : Trades s i t) (hs : Bounded P s) : Bounded P t where
  count := h.count hs.count
  total F := by
    -- The call takes part on both sides.
    have hrest : ∑ k ∈ F.erase i, (t.pc k).held = ∑ k ∈ F.erase i, (s.pc k).held :=
      Finset.sum_congr rfl fun k hk => by rw [h.others k (Finset.ne_of_mem_erase hk)]
    have hsub : ∑ k ∈ F, (t.pc k).held ≤ ∑ k ∈ insert i (F.erase i), (t.pc k).held :=
      Finset.sum_le_sum_of_subset (Finset.insert_erase_subset i F)
    rw [Finset.sum_insert (Finset.notMem_erase i F)] at hsub
    have hbefore := hs.total (insert i (F.erase i))
    rw [Finset.sum_insert (Finset.notMem_erase i F)] at hbefore
    have hslots := h.slots
    omega

/-- The pool gave slots away, and the calls are where they were. -/
theorem Bounded.shrink (hs : Bounded P s) (hpc : t.pc = s.pc) (hslots : t.slots ≤ s.slots)
    (hcount : t.state.idleCount = t.state.idle.length) : Bounded P t where
  count := hcount
  total F := by
    rw [hpc]
    exact (Nat.add_le_add_right hslots _).trans (hs.total F)

theorem bounded_init (store : σ) : Bounded P (init P store) where
  count := by simp [init, ConnectionPool.initState]
  total F := by
    have hheld : ∑ k ∈ F, ((init P store).pc k).held = 0 := Finset.sum_eq_zero fun _ _ => rfl
    rw [hheld]
    simp [System.slots, init, ConnectionPool.initState, StrMap.size]

end System

namespace Stoppable

open SootheClient.Pool.System (Bounded)

variable {P : ConnectionPool Cl σ} {w w' : Stoppable Cl σ} {a : StopLabel} {n : ℕ}

/-- What a step does. -/
inductive StopStep (P : ConnectionPool Cl σ) (w : Stoppable Cl σ) :
    StopLabel → Stoppable Cl σ → Prop
  | call (a : Label) (s : System Cl σ) (hs : System.PoolStep P w.system a s) :
      StopStep P w (.call a) { w with system := s }
  | stop (n : ℕ) (hn : w.stop n = .idle) : StopStep P w (.stop n) (w.goto n .draining)
  | drain (n : ℕ) (hn : w.stop n = .draining) : StopStep P w (.next n)
      ((w.setState { w.system.state with activeSlots := ∅ }).goto n
        (.closing (conns w.system.state.activeSlots)))
  | close (n : ℕ) (c : PooledConn Cl) (rest : List (PooledConn Cl))
      (hn : w.stop n = .closing (c :: rest)) :
      StopStep P w (.next n) { w.goto n (.closing rest) with shut := w.shut ++ [c.client] }
  | closed (n : ℕ) (hn : w.stop n = .closing []) : StopStep P w (.next n) (w.goto n .emptying)
  | take (n : ℕ) (slot : IdleSlot Cl) (rest : List (IdleSlot Cl)) (hn : w.stop n = .emptying)
      (hidle : w.system.state.idle = slot :: rest) : StopStep P w (.next n)
      ((w.setState { w.system.state with
        idle := rest, idleCount := w.system.state.idleCount - 1 }).goto n (.closingIdle slot))
  | empty (n : ℕ) (hn : w.stop n = .emptying) (hidle : w.system.state.idle = []) :
      StopStep P w (.next n) (w.goto n .done)
  | closeIdle (n : ℕ) (slot : IdleSlot Cl) (hn : w.stop n = .closingIdle slot) :
      StopStep P w (.next n) { w.goto n .emptying with shut := w.shut ++ [slot.client] }

theorem next_inv (h : w.next n = some w') : StopStep P w (.next n) w' := by
  unfold next at h
  cases hn : w.stop n with
  | draining =>
    rw [hn] at h
    obtain rfl := Option.some.inj h
    exact .drain n hn
  | closing conns =>
    rw [hn] at h
    cases conns with
    | nil =>
      obtain rfl := Option.some.inj h
      exact .closed n hn
    | cons c rest =>
      obtain rfl := Option.some.inj h
      exact .close n c rest hn
  | emptying =>
    rw [hn] at h
    unfold PoolState.tryRecv at h
    cases hidle : w.system.state.idle with
    | nil =>
      simp only [hidle] at h
      obtain rfl := Option.some.inj h
      exact .empty n hn hidle
    | cons slot rest =>
      simp only [hidle] at h
      obtain rfl := Option.some.inj h
      exact .take n slot rest hn hidle
  | closingIdle slot =>
    rw [hn] at h
    obtain rfl := Option.some.inj h
    exact .closeIdle n slot hn
  | idle | done =>
    rw [hn] at h
    cases h

/-- **Steps.** -/
theorem step_inv (h : w.step P a = some w') : StopStep P w a w' := by
  cases a with
  | call a =>
    obtain ⟨s, hs, rfl⟩ := Option.map_eq_some_iff.1 h
    exact .call a s (System.step_inv hs)
  | stop n =>
    simp only [step] at h
    split at h
    · rename_i hn
      obtain rfl := Option.some.inj h
      exact .stop n hn
    · cases h
  | next n => exact next_inv h

theorem bounded_step (w : Stoppable Cl σ) (a : StopLabel) (w' : Stoppable Cl σ)
    (hw : Bounded P w.system) (h : w.step P a = some w') : Bounded P w'.system := by
  cases step_inv h with
  | call a s hs => exact hs.trades.bounded hw
  | stop | close | closed | empty | closeIdle => exact hw
  | drain n hn =>
    refine hw.shrink rfl ?_ hw.count
    exact Nat.add_le_add_left (Nat.zero_le _) _
  | take n slot rest hn hidle =>
    have hcount := hw.count
    refine hw.shrink rfl ?_ ?_
    · simp only [System.slots, hidle, List.length_cons, goto, setState]
      omega
    · rw [hidle] at hcount
      simp only [goto, setState, hcount, List.length_cons, Nat.add_sub_cancel]

/-- **The bound.** In every interleaving of any number of calls and stops the pool counts its idle
slots right; the active and idle slots, with those that calls have in their hands, are no more than
`pool_size`; and the channel has room for every slot that is given back. -/
theorem pool_bounded (P : ConnectionPool Cl σ) (store : σ) (run : List StopLabel)
    (w : Stoppable Cl σ) (h : Lts.exec (step P) (init P store) run = some w) :
    w.system.state.stats.idle = w.system.state.idle.length ∧
      (∀ F : Finset ℕ, w.system.state.stats.active + w.system.state.stats.idle +
        ∑ i ∈ F, (w.system.pc i).held ≤ P.cfg.poolSize) ∧
      ∀ i k, w.system.pc i = .giveBack k → w.system.state.idle.length < P.cfg.poolSize := by
  have hw : Bounded P w.system :=
    Lts.inv_of_exec (I := fun w => Bounded P w.system) bounded_step (System.bounded_init store) h
  refine ⟨hw.count, fun F => ?_, fun i k hi => ?_⟩
  · have htotal := hw.total F
    have hcount := hw.count
    simp only [System.slots, PoolState.stats] at htotal ⊢
    omega
  · have htotal := hw.total {i}
    rw [Finset.sum_singleton, hi] at htotal
    simp only [System.slots, Pc.held] at htotal
    omega

/-- An `acquire` has its slot when a `stop` comes, and finishes after it. -/
def outlived : List StopLabel :=
  (.acquire 0 { sessionId := "s1" } :: List.replicate 4 (.next 0)).map .call ++
    .stop 0 :: List.replicate 5 (.next 0) ++
    (.connect 0 (.ok ()) :: .bootstrap 0 (.ok "l1") :: List.replicate 4 (.next 0)).map .call

/-- The connection that the `stop` did not see stays in the pool. -/
theorem pool_bounded_outlived : ∃ w,
    Lts.exec (step System.twoSlots) (init System.twoSlots ∅) outlived = some w ∧
      w.system.state.stats = { active := 1, idle := 0 } ∧
      1 + 0 + ∑ i ∈ {0}, (w.system.pc i).held ≤ 2 := by
  have hrun : (Lts.exec (step System.twoSlots) (init System.twoSlots ∅) outlived).map
      (fun w => w.system.state.stats) = some { active := 1, idle := 0 } := by
    decide +kernel
  obtain ⟨w, hw, hstats⟩ := Option.map_eq_some_iff.1 hrun
  have htotal := (pool_bounded System.twoSlots ∅ outlived w hw).2.1 {0}
  rw [hstats] at htotal
  exact ⟨w, hw, hstats, htotal⟩

end Stoppable

/-! ## The end of the pool -/

/-- Where a call can be on a pool without slots. -/
def Pc.barred : Pc Cl → Bool
  | .idle | .lookup | .pull | .remove .returned | .released | .done (.error .exhausted) => true
  | _ => false

namespace System

variable {P : ConnectionPool Cl σ} {s t : System Cl σ} {a : Label} {i : ℕ} {p q : Pc Cl}
  {past : ℕ → Prop}

theorem exhausted_of_barred {r : Except AcquireError (PooledConn Cl)}
    (h : (Pc.done r).barred = true) : r = .error .exhausted := by
  cases r with
  | ok c => cases h
  | error e =>
    cases e with
    | exhausted => rfl
    | connect | bootstrapNew | connectAfterReattach | bootstrapAfterReattach => cases h

/-- The pool has no slots. The calls of the past have returned. -/
structure Spent (past : ℕ → Prop) (s : System Cl σ) : Prop where
  active : s.state.activeSlots = ∅
  idle : s.state.idle = []
  count : s.state.idleCount = 0
  returned : ∀ i, past i → (s.pc i).inProgress = false ∧ s.pc i ≠ .idle
  barred : ∀ i, ¬ past i → (s.pc i).barred = true

/-- A call that takes a step is none of the past. -/
theorem Spent.steps (h : Spent past s) (hi : s.pc i = q)
    (hq : q.inProgress = true ∨ q = .idle) : ¬ past i ∧ q.barred = true := by
  have hpast : ¬ past i := by
    intro hp
    obtain ⟨hreturned, hidle⟩ := h.returned i hp
    rw [hi] at hreturned hidle
    obtain hq | hq := hq
    · rw [hreturned] at hq
      cases hq
    · exact hidle hq
  refine ⟨hpast, ?_⟩
  rw [← hi]
  exact h.barred i hpast

theorem Spent.goto (h : Spent past s) (hi : ¬ past i) (hp : p.barred = true)
    (hpc : t.pc = update s.pc i p) (hstate : t.state = s.state) : Spent past t where
  active := by rw [hstate, h.active]
  idle := by rw [hstate, h.idle]
  count := by rw [hstate, h.count]
  returned k hk := by
    have hne : k ≠ i := fun heq => hi (heq ▸ hk)
    rw [hpc, update_of_ne hne]
    exact h.returned k hk
  barred k hk := by
    rw [hpc]
    by_cases hki : k = i
    · rw [hki, update_self]
      exact hp
    · rw [update_of_ne hki]
      exact h.barred k hk

theorem Spent.lookup (h : Spent past s) (sid : String) :
    s.state.activeSlots.lookup sid = none := by
  rw [h.active]
  exact AList.lookup_empty sid

/-- **Step lemma.** No step of a call brings a slot back. -/
theorem Spent.step (h : Spent past s) (hstep : PoolStep P s a t) : Spent past t := by
  cases hstep with
  | acquire i args hi => exact h.goto (h.steps hi (.inr rfl)).1 rfl rfl rfl
  | release i sid hi => exact h.goto (h.steps hi (.inr rfl)).1 rfl rfl rfl
  | missing i hi => exact h.goto (h.steps hi (.inl rfl)).1 rfl rfl rfl
  | found i c hi hl | remove i c l hi hl =>
    rw [h.lookup] at hl
    cases hl
  | absent i l hi =>
    obtain ⟨hpast, hbarred⟩ := h.steps hi (.inl rfl)
    cases l with
    | returned => exact h.goto hpast rfl rfl rfl
    | pull | fail e => cases hbarred
  | exhausted i hi => exact h.goto (h.steps hi (.inl rfl)).1 rfl rfl rfl
  | pull i slot rest hi hidle =>
    rw [h.idle] at hidle
    cases hidle
  | touch _ _ hi | closing _ _ _ hi | giveBack _ _ hi | assign _ _ hi | loopIdFor _ _ hi
  | persist _ _ _ hi | write _ _ _ _ hi | finish _ _ _ hi | insert _ _ hi | check _ _ _ _ hi
  | connect _ _ _ _ hi | bootstrap _ _ _ _ hi | resume _ _ _ _ hi =>
    have hbarred := (h.steps hi (.inl rfl)).2
    cases hbarred

end System

namespace Stoppable

open SootheClient.Pool.System (Bounded Spent)

variable {P : ConnectionPool Cl σ} {w w' : Stoppable Cl σ} {n : ℕ} {past : ℕ → Prop}

theorem spent_step (w : Stoppable Cl σ) (a : StopLabel) (w' : Stoppable Cl σ)
    (hw : Spent past w.system) (h : w.step P a = some w') : Spent past w'.system := by
  cases step_inv h with
  | call a s hs => exact hw.step hs
  | stop | close | closed | empty | closeIdle => exact hw
  | drain n hn => exact ⟨rfl, hw.idle, hw.count, hw.returned, hw.barred⟩
  | take n slot rest hn hidle =>
    rw [hw.idle] at hidle
    cases hidle

/-- The steps of a `stop` that nothing comes between, from one state to another. -/
def Stops (P : ConnectionPool Cl σ) (n : ℕ) (w w' : Stoppable Cl σ) : Prop :=
  ∃ k, Lts.exec (step P) w (List.replicate k (.next n)) = some w'

theorem Stops.head {w₁ : Stoppable Cl σ} (h : w.next n = some w₁) (hs : Stops P n w₁ w') :
    Stops P n w w' := by
  obtain ⟨k, hk⟩ := hs
  have hfirst : step P w (.next n) = some w₁ := h
  exact ⟨k + 1, by rw [List.replicate_succ, Lts.exec_cons_of_step hfirst]; exact hk⟩

theorem stops_refl (P : ConnectionPool Cl σ) (n : ℕ) (w : Stoppable Cl σ) : Stops P n w w :=
  ⟨0, rfl⟩

theorem Stops.trans {w₁ : Stoppable Cl σ} (h : Stops P n w w₁) (hs : Stops P n w₁ w') :
    Stops P n w w' := by
  obtain ⟨k, hk⟩ := h
  obtain ⟨l, hl⟩ := hs
  exact ⟨k + l, by rw [List.replicate_add, Lts.exec_append_of_exec hk]; exact hl⟩

/-- The drained connections are closed in order. -/
theorem stops_closing (P : ConnectionPool Cl σ) (rest : List (PooledConn Cl))
    (hn : w.stop n = .closing rest) : ∃ w', Stops P n w w' ∧ w'.stop n = .emptying ∧
      w'.system = w.system ∧ w'.shut = w.shut ++ rest.map (·.client) := by
  induction rest generalizing w with
  | nil =>
    have hnext : w.next n = some (w.goto n .emptying) := by
      unfold next
      rw [hn]
    exact ⟨_, (stops_refl P n _).head hnext, update_self .., rfl, (List.append_nil _).symm⟩
  | cons c rest ih =>
    have hnext : w.next n =
        some { w.goto n (.closing rest) with shut := w.shut ++ [c.client] } := by
      unfold next
      rw [hn]
    obtain ⟨w', hs, hpc, hsystem, hshut⟩ := ih
      (w := { w.goto n (.closing rest) with shut := w.shut ++ [c.client] }) (update_self ..)
    refine ⟨w', hs.head hnext, hpc, hsystem, hshut.trans ?_⟩
    rw [List.map_cons, List.append_assoc]
    rfl

/-- One idle slot is taken and closed. -/
theorem stops_slot (P : ConnectionPool Cl σ) {slot : IdleSlot Cl} {rest : List (IdleSlot Cl)}
    (hn : w.stop n = .emptying) (hidle : w.system.state.idle = slot :: rest) :
    ∃ w₂, (∀ w', Stops P n w₂ w' → Stops P n w w') ∧ w₂.stop n = .emptying ∧
      w₂.system = { w.system with state := { w.system.state with
        idle := rest, idleCount := w.system.state.idleCount - 1 } } ∧
      w₂.shut = w.shut ++ [slot.client] := by
  obtain ⟨w₁, hw₁⟩ : ∃ w₁, w₁ = (w.setState { w.system.state with
    idle := rest, idleCount := w.system.state.idleCount - 1 }).goto n (.closingIdle slot) :=
      ⟨_, rfl⟩
  have htake : w.next n = some w₁ := by
    unfold next PoolState.tryRecv
    rw [hn]
    simp only [hidle, hw₁]
  have hpc : w₁.stop n = .closingIdle slot := by
    rw [hw₁]
    exact update_self ..
  have hclose : w₁.next n =
      some { w₁.goto n .emptying with shut := w₁.shut ++ [slot.client] } := by
    unfold next
    rw [hpc]
  refine ⟨_, fun w' hs => (hs.head hclose).head htake, update_self .., ?_, ?_⟩
  · rw [hw₁]
    rfl
  · rw [hw₁]
    rfl

/-- The idle slots are taken and closed in order. -/
theorem stops_emptying (P : ConnectionPool Cl σ) (slots : List (IdleSlot Cl))
    (hn : w.stop n = .emptying) (hidle : w.system.state.idle = slots)
    (hcount : w.system.state.idleCount = slots.length) :
    ∃ w', Stops P n w w' ∧ w'.stop n = .done ∧ w'.system = { w.system with
        state := { w.system.state with idle := [], idleCount := 0 } } ∧
      w'.shut = w.shut ++ slots.map (·.client) := by
  induction slots generalizing w with
  | nil =>
    have hnext : w.next n = some (w.goto n .done) := by
      unfold next PoolState.tryRecv
      rw [hn]
      simp only [hidle]
    refine ⟨_, (stops_refl P n _).head hnext, update_self .., ?_, (List.append_nil _).symm⟩
    rw [← hidle, show 0 = w.system.state.idleCount from hcount.symm]
    rfl
  | cons slot slots ih =>
    obtain ⟨w₂, hs₂, hpc₂, hsystem₂, hshut₂⟩ := stops_slot P hn hidle
    obtain ⟨w', hs, hpc, hsystem, hshut⟩ := ih hpc₂ (by rw [hsystem₂])
      (by rw [hsystem₂, hcount]; rfl)
    refine ⟨w', hs₂ w' hs, hpc, ?_, ?_⟩
    · rw [hsystem, hsystem₂]
    · rw [hshut, hshut₂, List.map_cons, List.append_assoc]
      rfl

/-- A `stop` that runs alone closes all that is in the pool. -/
theorem stops_all (P : ConnectionPool Cl σ) (hn : w.stop n = .draining)
    (hw : Bounded P w.system) : ∃ w', Stops P n w w' ∧ w'.stop n = .done ∧
      w'.system = { w.system with
        state := { w.system.state with activeSlots := ∅, idle := [], idleCount := 0 } } ∧
      w'.shut = w.shut ++ ((conns w.system.state.activeSlots).map (·.client) ++
        w.system.state.idle.map (·.client)) := by
  obtain ⟨w₁, hw₁⟩ : ∃ w₁, w₁ = (w.setState { w.system.state with activeSlots := ∅ }).goto n
    (.closing (conns w.system.state.activeSlots)) := ⟨_, rfl⟩
  have hdrain : w.next n = some w₁ := by
    unfold next
    rw [hn, hw₁]
  have hpc₁ : w₁.stop n = .closing (conns w.system.state.activeSlots) := by
    rw [hw₁]
    exact update_self ..
  obtain ⟨w₂, hs₂, hpc₂, hsystem₂, hshut₂⟩ := stops_closing P _ hpc₁
  obtain ⟨w', hs, hpc, hsystem, hshut⟩ := stops_emptying P w.system.state.idle hpc₂
    (by rw [hsystem₂, hw₁]; rfl) (by rw [hsystem₂, hw₁]; exact hw.count)
  refine ⟨w', (hs₂.trans hs).head hdrain, hpc, ?_, ?_⟩
  · rw [hsystem, hsystem₂, hw₁]
    rfl
  · rw [hshut, hshut₂, hw₁, List.append_assoc]
    rfl

/-- **Stop.** When no call is in progress, a `stop` comes to its end and closes each client that is
active or idle once; and whatever calls and stops follow, the pool has no slots, and no `acquire`
that starts then gets one. -/
theorem stop_final (P : ConnectionPool Cl σ) (store : σ) (run : List StopLabel)
    (w : Stoppable Cl σ) (h : Lts.exec (step P) (init P store) run = some w)
    (hq : w.system.Quiescent) (n : ℕ) (hn : w.stop n = .idle) :
    ∃ k w', Lts.exec (step P) w (.stop n :: List.replicate k (.next n)) = some w' ∧
      w'.stop n = .done ∧
      w'.shut = w.shut ++ ((conns w.system.state.activeSlots).map (·.client) ++
        w.system.state.idle.map (·.client)) ∧
      ∀ later v, Lts.exec (step P) w' later = some v →
        v.system.state.stats = { active := 0, idle := 0 } ∧
          ∀ i r, w.system.pc i = .idle → v.system.pc i = .done r → r = .error .exhausted := by
  have hw : Bounded P w.system :=
    Lts.inv_of_exec (I := fun w => Bounded P w.system) bounded_step (System.bounded_init store) h
  have hstart : step P w (.stop n) = some (w.goto n .draining) := by
    simp only [step, hn]
  have hdraining : (w.goto n .draining).stop n = .draining := update_self ..
  obtain ⟨w', ⟨k, hs⟩, hdone, hsystem, hshut⟩ := stops_all P hdraining hw
  refine ⟨k, w', ?_, hdone, hshut, fun later v hv => ?_⟩
  · rw [Lts.exec_cons_of_step hstart]
    exact hs
  · -- The calls that were made before the stop have returned.
    have hspent : Spent (fun i => w.system.pc i ≠ .idle) w'.system := by
      rw [hsystem]
      refine ⟨rfl, rfl, rfl, fun i hi => ⟨hq i, hi⟩, fun i hi => ?_⟩
      have hidle : w.system.pc i = .idle := not_not.1 hi
      exact congrArg Pc.barred hidle
    have hlater : Spent (fun i => w.system.pc i ≠ .idle) v.system :=
      Lts.inv_of_exec (I := fun v => Spent _ v.system) spent_step hspent hv
    refine ⟨?_, fun i r hi hr => ?_⟩
    · unfold PoolState.stats
      rw [hlater.active, hlater.count]
      rfl
    · have hbarred := hlater.barred i (not_not.2 hi)
      rw [hr] at hbarred
      exact System.exhausted_of_barred hbarred

/-- A run without a stop is a run of the calls. -/
theorem exec_calls (w : Stoppable Cl σ) (as : List Label) :
    Lts.exec (step P) w (as.map .call) =
      (Lts.exec (System.step P) w.system as).map fun s => { w with system := s } := by
  induction as generalizing w with
  | nil => rfl
  | cons a as ih =>
    rw [List.map_cons, Lts.exec_cons, Lts.exec_cons]
    simp only [step]
    cases w.system.step P a with
    | none => rfl
    | some s => exact ih { w with system := s }

/-- A session acquires its connection. -/
def acquired : List Label :=
  .acquire 0 { sessionId := "s1" } :: List.replicate 4 (.next 0) ++
    .connect 0 (.ok ()) :: .bootstrap 0 (.ok "l1") :: List.replicate 4 (.next 0)

/-- A pool with an active connection and an idle slot is stopped. -/
theorem stop_final_acquired : ∃ k w',
    Lts.exec (step System.twoSlots) (init System.twoSlots ∅)
        (acquired.map .call ++ .stop 0 :: List.replicate k (.next 0)) = some w' ∧
      w'.shut.length = 2 ∧ w'.system.state.stats = { active := 0, idle := 0 } := by
  have hrun : (Lts.exec (System.step System.twoSlots) (.init System.twoSlots ∅) acquired).map
      (fun s => ((s.pc 0).inProgress, (conns s.state.activeSlots).length, s.state.idle.length)) =
        some (false, 1, 1) := by
    decide +kernel
  obtain ⟨s, hs, hend⟩ := Option.map_eq_some_iff.1 hrun
  simp only [Prod.mk.injEq] at hend
  obtain ⟨hzero, hactive, hidle⟩ := hend
  have hq : s.Quiescent := by
    intro i
    rcases eq_or_ne i 0 with rfl | hi
    · exact hzero
    · rw [System.exec_frame hs (by simp [acquired, Label.call, hi])]
      rfl
  have hw : Lts.exec (step System.twoSlots) (init System.twoSlots ∅) (acquired.map .call) =
      some { init System.twoSlots ∅ with system := s } := by
    rw [exec_calls, show (init System.twoSlots ∅).system = .init System.twoSlots ∅ from rfl, hs]
    rfl
  obtain ⟨k, w', hw', -, hshut, hlater⟩ := stop_final System.twoSlots ∅ _ _ hw hq 0 rfl
  refine ⟨k, w', ?_, ?_, (hlater [] w' rfl).1⟩
  · rw [Lts.exec_append_of_exec hw, hw']
  · rw [hshut]
    simp [init, hactive, hidle]

end Stoppable

end SootheClient.Pool
