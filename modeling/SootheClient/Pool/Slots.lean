import SootheClient.Pool.Steps

/-!
# Slot conservation

A run is sequential when each call finishes before the next one starts. `Accounted` follows the
slots of such a run: idle, active, in the hands of the one call in progress, or lost. A slot is
lost exactly when a `connect` or a bootstrap on it fails: the first of the four exits returns
without a `release`, and the other three release a session that has no active connection.
-/

namespace SootheClient

namespace StrMap

variable {β : Type*} {m : StrMap β} {sid : String} {b : β}

theorem size_insert_of_lookup (h : m.lookup sid = none) :
    size (m.insert sid b) = m.size + 1 := by
  have hmem : sid ∉ m.keys := AList.lookup_eq_none.1 h
  rw [size, AList.keys_insert, List.erase_of_not_mem hmem, List.length_cons, size]

theorem size_erase_of_lookup (h : m.lookup sid = some b) :
    size (m.erase sid) + 1 = m.size := by
  have hmem : sid ∈ m.keys := AList.lookup_isSome.1 (by rw [h]; rfl)
  have hpos : 0 < m.keys.length := List.length_pos_of_mem hmem
  rw [size, AList.keys_erase, List.length_erase_of_mem hmem, size]
  omega

end StrMap

namespace Pool

open Function (update update_self update_of_ne)

variable {Cl σ : Type*}

/-- A call has started and not returned. -/
def Pc.inProgress : Pc Cl → Bool
  | .idle | .done _ | .released => false
  | _ => true

/-- The call has pulled a slot and does not fail: from the pull to the insert. -/
def Pc.building : Pc Cl → Bool
  | .assign _ | .loopIdFor _ | .connect _ _ | .bootstrap _ _ | .resume _ _ | .persist _ _
  | .write _ _ _ | .finish _ _ | .insert _ => true
  | _ => false

/-- The slots a call has in its hands. -/
def Pc.held : Pc Cl → ℕ
  | .closing _ _ | .giveBack _ => 1
  | p => if p.building then 1 else 0

/-- In a sequential run the session of the call has no active connection there. -/
def Pc.vacant : Pc Cl → Bool
  | .closing _ _ | .giveBack _ | .pull | .remove (.fail _) => true
  | p => p.building

/-- A failed `connect` or bootstrap on a pulled slot. -/
def Label.losesSlot : Label → Bool
  | .connect _ (.error _) | .bootstrap _ (.error _) => true
  | _ => false

namespace System

variable {P : ConnectionPool Cl σ} {s t : System Cl σ} {a : Label} {as : List Label} {i k : ℕ}

/-- No call is in progress. -/
def Quiescent (s : System Cl σ) : Prop := ∀ i, (s.pc i).inProgress = false

/-- A call starts only when no other is in progress. -/
def Sequential (s : System Cl σ) : Label → Prop
  | .acquire _ _ | .release _ _ => s.Quiescent
  | _ => True

/-- Every slot of the pool is idle or active, and the idle ones are counted. -/
def Conserved (P : ConnectionPool Cl σ) (s : System Cl σ) : Prop :=
  s.state.idleCount = s.state.idle.length ∧
    s.state.idleCount + s.state.activeSlots.size = P.cfg.poolSize

/-- The slots after the labels `as`, with call `i` the only one in progress. -/
structure Accounted (P : ConnectionPool Cl σ) (as : List Label) (s : System Cl σ) (i : ℕ) :
    Prop where
  others : ∀ k ≠ i, (s.pc k).inProgress = false
  count : s.state.idleCount = s.state.idle.length
  total : s.state.idle.length + s.state.activeSlots.size + (s.pc i).held +
    as.countP Label.losesSlot = P.cfg.poolSize
  vacant : (s.pc i).vacant = true → s.state.activeSlots.lookup (s.sid i) = none

theorem held_of_not_inProgress {p : Pc Cl} (h : p.inProgress = false) : p.held = 0 := by
  cases p <;> first | rfl | cases h

theorem countP_append_singleton :
    (as ++ [a]).countP Label.losesSlot =
      as.countP Label.losesSlot + if a.losesSlot then 1 else 0 := by
  rw [List.countP_append, List.countP_singleton]

theorem accounted_init (store : σ) : Accounted P [] (init P store) 0 where
  others _ _ := rfl
  count := by simp [init, ConnectionPool.initState]
  total := by
    simp [init, ConnectionPool.initState, StrMap.size, Pc.held, Pc.building]
  vacant h := by cases h

/-- In a quiescent state the next call may be any. -/
theorem Accounted.start (h : Accounted P as s i) (hq : s.Quiescent) (k : ℕ)
    {p : Pc Cl} (hp : p.held = 0) (hv : p.vacant = false) {args : Args}
    (ha : a.losesSlot = false) :
    Accounted P (as ++ [a]) { s.goto k p with args := update s.args k args } k := by
  refine ⟨fun l hl => ?_, h.count, ?_, fun hv' => ?_⟩
  · simp only [goto, update_of_ne hl]
    exact hq l
  · have := h.total
    rw [held_of_not_inProgress (hq i)] at this
    simp only [goto, update_self, hp, countP_append_singleton, ha]
    simpa using this
  · simp only [goto, update_self, hv] at hv'
    cases hv'

/-- A step that leaves the slots where they are, or loses the one in hand. -/
theorem Accounted.goto (h : Accounted P as s i) {p : Pc Cl} {st : σ} {closed : ℕ → Bool}
    (hp : p.held + (if a.losesSlot then 1 else 0) = (s.pc i).held)
    (hv : p.vacant = true → (s.pc i).vacant = true ∨
      s.state.activeSlots.lookup (s.sid i) = none) :
    Accounted P (as ++ [a]) { s.goto i p with store := st, closed := closed } i := by
  refine ⟨fun l hl => ?_, h.count, ?_, fun hv' => ?_⟩
  · simp only [System.goto, update_of_ne hl]
    exact h.others l hl
  · have := h.total
    simp only [System.goto, update_self, countP_append_singleton]
    omega
  · simp only [System.goto, update_self] at hv'
    exact (hv hv').elim h.vacant id

theorem held_pc (k : After) : (k.pc : Pc Cl).held = 0 := by cases k <;> rfl

theorem Accounted.remove (h : Accounted P as s i) {k : After} {c : PooledConn Cl}
    (hi : s.pc i = .remove k) (hc : s.state.activeSlots.lookup (s.sid i) = some c)
    (ha : a.losesSlot = false) :
    Accounted P (as ++ [a])
      { s with
        state := s.state.remove (s.sid i)
        pc := update s.pc i (.closing c k)
        torn := update s.torn c.call (some i) } i := by
  have htot := h.total
  rw [hi] at htot
  refine ⟨fun l hl => ?_, h.count, ?_, fun _ => AList.lookup_erase _ _⟩
  · simp only [update_of_ne hl]
    exact h.others l hl
  · have := StrMap.size_erase_of_lookup hc
    simp only [PoolState.remove, update_self, countP_append_singleton, ha, Pc.held,
      Pc.building] at htot ⊢
    simp only [Bool.false_eq_true, if_false] at htot ⊢
    omega

theorem Accounted.giveBack (h : Accounted P as s i) {k : After} {slot : IdleSlot Cl}
    (hi : s.pc i = .giveBack k) (ha : a.losesSlot = false) :
    Accounted P (as ++ [a])
      { s.goto i k.pc with state := s.state.trySend P.cfg.poolSize slot } i := by
  have htot := h.total
  rw [hi] at htot
  have hroom : s.state.idle.length < P.cfg.poolSize := by
    simp only [Pc.held] at htot
    omega
  have hst : s.state.trySend P.cfg.poolSize slot =
      { s.state with idle := s.state.idle ++ [slot], idleCount := s.state.idleCount + 1 } :=
    if_pos hroom
  rw [hst]
  refine ⟨fun l hl => ?_, ?_, ?_, fun _ => h.vacant (by rw [hi]; rfl)⟩
  · simp only [System.goto, update_of_ne hl]
    exact h.others l hl
  · simp [h.count]
  · simp only [System.goto, update_self, held_pc, countP_append_singleton, ha,
      List.length_append, List.length_singleton]
    simp only [Pc.held] at htot
    simp only [Bool.false_eq_true, if_false]
    omega

theorem Accounted.pull (h : Accounted P as s i) {slot : IdleSlot Cl}
    {rest : List (IdleSlot Cl)} (hi : s.pc i = .pull) (hidle : s.state.idle = slot :: rest)
    (ha : a.losesSlot = false) :
    Accounted P (as ++ [a])
      { s with
        state := { s.state with idle := rest, idleCount := s.state.idleCount - 1 }
        pc := update s.pc i (.assign slot) } i := by
  have htot := h.total
  have hcount := h.count
  rw [hi, hidle] at htot
  rw [hidle] at hcount
  refine ⟨fun l hl => ?_, ?_, ?_, fun _ => h.vacant (by rw [hi]; rfl)⟩
  · simp only [update_of_ne hl]
    exact h.others l hl
  · simp [hcount]
  · simp only [update_self, countP_append_singleton, ha]
    simp only [Pc.held, Pc.building, List.length_cons, Bool.false_eq_true, if_false,
      if_true] at htot ⊢
    omega

theorem Accounted.assign (h : Accounted P as s i) {slot : IdleSlot Cl}
    (hi : s.pc i = .assign slot) (ha : a.losesSlot = false) :
    Accounted P (as ++ [a]) (s.assignStep i slot) i := by
  have hg : Accounted P (as ++ [a])
      { s.goto i (.loopIdFor
        { call := i, slotId := s.state.nextSlotId, sessionId := s.sid i, loopId := ""
          workspaceId := (s.args i).workspaceId, client := slot.client }) with
        store := s.store, closed := s.closed } i :=
    h.goto (by rw [hi, ha]; rfl) (fun _ => Or.inl (by rw [hi]; rfl))
  exact ⟨hg.others, hg.count, hg.total, hg.vacant⟩

theorem Accounted.insert (h : Accounted P as s i) {c : PooledConn Cl} (hi : s.pc i = .insert c)
    (ha : a.losesSlot = false) :
    Accounted P (as ++ [a])
      { s.goto i (.done (.ok c)) with state := s.state.insert (s.sid i) c } i := by
  have htot := h.total
  rw [hi] at htot
  have hsize := StrMap.size_insert_of_lookup (b := c) (h.vacant (by rw [hi]; rfl))
  refine ⟨fun l hl => ?_, h.count, ?_, fun hv => ?_⟩
  · simp only [System.goto, update_of_ne hl]
    exact h.others l hl
  · simp only [System.goto, PoolState.insert, update_self, countP_append_singleton, ha, hsize]
    simp only [Pc.held, Pc.building, Bool.false_eq_true, if_false, if_true] at htot ⊢
    omega
  · simp [System.goto, Pc.vacant, Pc.building] at hv

/-- A step that starts no call is one of a call in progress. -/
theorem inProgress_of_step (ht : step P s a = some t)
    (ha : ∀ k args, a ≠ .acquire k args) (ha' : ∀ k sid, a ≠ .release k sid) :
    (s.pc a.call).inProgress = true := by
  cases step_inv ht with
  | acquire k args => exact absurd rfl (ha k args)
  | release k sid => exact absurd rfl (ha' k sid)
  | missing _ hi | found _ _ hi | touch _ _ hi | absent _ _ hi | remove _ _ _ hi | closing _ _ _ hi
  | giveBack _ _ hi | exhausted _ hi | pull _ _ _ hi | assign _ _ hi | loopIdFor _ _ hi
  | persist _ _ _ hi | write _ _ _ _ hi | finish _ _ _ hi | insert _ _ hi | check _ _ _ _ hi
  | connect _ _ _ _ hi | bootstrap _ _ _ _ hi | resume _ _ _ _ hi =>
    exact congrArg Pc.inProgress hi

/-- A step of the call in progress. -/
theorem accounted_move (h : Accounted P as s i) (ha : a.call = i)
    (hrun : (s.pc i).inProgress = true) (ht : step P s a = some t) :
    Accounted P (as ++ [a]) t i := by
  cases step_inv ht with
  | acquire k args hi =>
    obtain rfl : k = i := ha
    rw [hi] at hrun
    cases hrun
  | release k sid hi =>
    obtain rfl : k = i := ha
    rw [hi] at hrun
    cases hrun
  | missing k hi hl =>
    obtain rfl : k = i := ha
    exact h.goto (by rw [hi]; rfl) (fun _ => Or.inr hl)
  | found k c hi hl =>
    obtain rfl : k = i := ha
    exact h.goto (by rw [hi]; rfl) (fun hv => by cases hv)
  | touch k c hi =>
    obtain rfl : k = i := ha
    exact h.goto (by rw [hi]; rfl) (fun hv => by cases hv)
  | absent k l hi hl =>
    obtain rfl : k = i := ha
    exact h.goto (by rw [held_pc, hi]; rfl) (fun _ => Or.inr hl)
  | remove k c l hi hl =>
    obtain rfl : k = i := ha
    exact h.remove hi hl rfl
  | closing k c l hi =>
    obtain rfl : k = i := ha
    exact h.goto (by rw [hi]; rfl) (fun _ => Or.inl (by rw [hi]; rfl))
  | giveBack k l hi =>
    obtain rfl : k = i := ha
    exact h.giveBack hi rfl
  | exhausted k hi hidle =>
    obtain rfl : k = i := ha
    exact h.goto (by rw [hi]; rfl) (fun hv => by cases hv)
  | pull k slot rest hi hidle =>
    obtain rfl : k = i := ha
    exact h.pull hi hidle rfl
  | assign k slot hi =>
    obtain rfl : k = i := ha
    exact h.assign hi rfl
  | loopIdFor k c hi =>
    obtain rfl : k = i := ha
    obtain hp | ⟨l, hp⟩ := loopPc_eq (P := P) (s := s) (i := k) (c := c)
    · rw [hp]
      exact h.goto (by rw [hi]; rfl) (fun _ => Or.inl (by rw [hi]; rfl))
    · rw [hp]
      exact h.goto (by rw [hi]; rfl) (fun _ => Or.inl (by rw [hi]; rfl))
  | persist k c l hi =>
    obtain rfl : k = i := ha
    exact h.goto (by rw [hi]; rfl) (fun _ => Or.inl (by rw [hi]; rfl))
  | write k c l b hi =>
    obtain rfl : k = i := ha
    exact h.goto (by rw [hi]; rfl) (fun _ => Or.inl (by rw [hi]; rfl))
  | finish k c l hi =>
    obtain rfl : k = i := ha
    exact h.goto (by rw [hi]; rfl) (fun _ => Or.inl (by rw [hi]; rfl))
  | insert k c hi =>
    obtain rfl : k = i := ha
    exact h.insert hi rfl
  | check k c dropped elapsed hi =>
    obtain rfl : k = i := ha
    obtain hp | hp := checkPc_eq (P := P) (s := s) (c := c) dropped elapsed
    · rw [hp]
      exact h.goto (by rw [hi]; rfl) (fun hv => by cases hv)
    · rw [hp]
      exact h.goto (by rw [hi]; rfl) (fun hv => by cases hv)
  | connect k c fresh r hi =>
    obtain rfl : k = i := ha
    refine h.goto ?_ (fun _ => Or.inl (by rw [hi]; rfl))
    rw [hi]
    cases r <;> cases fresh <;> rfl
  | bootstrap k c fresh r hi =>
    obtain rfl : k = i := ha
    refine h.goto ?_ (fun _ => Or.inl (by rw [hi]; rfl))
    rw [hi]
    cases r <;> cases fresh <;> rfl
  | resume k c l ok hi =>
    obtain rfl : k = i := ha
    refine h.goto ?_ (fun _ => Or.inl (by rw [hi]; rfl))
    rw [hi]
    cases ok <;> rfl

/-- **Step lemma.** -/
theorem accounted_step (as : List Label) (s : System Cl σ) (a : Label) (t : System Cl σ)
    (h : ∃ i, Accounted P as s i) (hG : Sequential s a) (ht : step P s a = some t) :
    ∃ i, Accounted P (as ++ [a]) t i := by
  obtain ⟨i, h⟩ := h
  have hcurrent : ∀ k, (s.pc k).inProgress = true → k = i := by
    intro k hk
    by_contra hne
    rw [h.others k hne] at hk
    cases hk
  cases a with
  | acquire k args =>
    cases step_inv ht with
    | acquire _ _ hi => exact ⟨k, h.start hG k rfl rfl rfl⟩
  | release k sid =>
    cases step_inv ht with
    | release _ _ hi => exact ⟨k, h.start hG k rfl rfl rfl⟩
  | next k | check k dropped elapsed | connect k r | bootstrap k r | resume k ok =>
    have hrun := inProgress_of_step ht (fun _ _ => nofun) (fun _ _ => nofun)
    have hk := hcurrent _ hrun
    exact ⟨i, accounted_move h hk (hk ▸ hrun) ht⟩

/-- **Run lemma.** -/
theorem accounted_of_run {store : σ}
    (hG : Lts.Guarded (step P) Sequential (init P store) as)
    (h : Lts.exec (step P) (init P store) as = some s) : ∃ i, Accounted P as s i :=
  Lts.trace_inv_of_guarded accounted_step ⟨0, accounted_init store⟩ hG h

/-- After a sequential run the slots are all there exactly when none was lost. -/
theorem conserved_iff_of_run {store : σ}
    (hG : Lts.Guarded (step P) Sequential (init P store) as)
    (h : Lts.exec (step P) (init P store) as = some s) (hq : s.Quiescent) :
    Conserved P s ↔ ∀ a ∈ as, a.losesSlot = false := by
  obtain ⟨i, hacc⟩ := accounted_of_run hG h
  have htot := hacc.total
  rw [held_of_not_inProgress (hq i)] at htot
  have hzero : (∀ a ∈ as, a.losesSlot = false) ↔ as.countP Label.losesSlot = 0 := by
    rw [List.countP_eq_zero]
    simp
  rw [hzero, Conserved]
  have hcount := hacc.count
  constructor
  · rintro ⟨-, hsum⟩
    omega
  · intro hloss
    exact ⟨hcount, by omega⟩

/-- **Slot conservation.** In a sequential run the idle slots are counted right, and every slot is
idle or active after every call, exactly when no `connect` or bootstrap on a pulled slot fails. -/
theorem slots_conserved (daemonUrl : String) (st : LoopSessionStore σ) (cfg : PoolConfig)
    (factory : String → Cl) (store : σ) (as : List Label) (s : System Cl σ)
    (hG : Lts.Guarded (step (.new daemonUrl st cfg factory)) Sequential
      (init (.new daemonUrl st cfg factory) store) as)
    (h : Lts.exec (step (.new daemonUrl st cfg factory))
      (init (.new daemonUrl st cfg factory) store) as = some s) (hq : s.Quiescent) :
    (∀ bs t, bs <+: as →
      Lts.exec (step (.new daemonUrl st cfg factory))
        (init (.new daemonUrl st cfg factory) store) bs = some t → t.Quiescent →
      Conserved (.new daemonUrl st cfg factory) t) ↔ ∀ a ∈ as, a.losesSlot = false := by
  constructor
  · intro hall
    exact (conserved_iff_of_run hG h hq).1 (hall as s List.prefix_rfl h hq)
  · rintro hnone bs t ⟨cs, rfl⟩ ht htq
    refine (conserved_iff_of_run (Lts.guarded_append.1 hG).1 ht htq).2 fun a ha => ?_
    exact hnone a (List.mem_append_left cs ha)

/-- A pool of one slot over the process-local store. -/
def oneSlot : ConnectionPool String (StrMap LoopSessionEntry) :=
  .new "ws://127.0.0.1:8765" inMemoryLoopSessionStore { poolSize := 1 } id

/-- An `acquire` whose `connect` fails with `r`. -/
def acquireRun (r : Except String Unit) : List Label :=
  [.acquire 0 { sessionId := "s1" }, .next 0, .next 0, .next 0, .next 0, .connect 0 r]

theorem guarded_acquireRun (r : Except String Unit) :
    Lts.Guarded (step oneSlot) Sequential (init oneSlot ∅) (acquireRun r) := by
  refine ⟨fun i => rfl, fun _ _ => ⟨trivial, fun _ _ => ⟨trivial, fun _ _ => ⟨trivial, fun _ _ =>
    ⟨trivial, fun _ _ => ⟨trivial, fun _ _ => trivial⟩⟩⟩⟩⟩⟩

/-- The refused connection takes the slot with it. -/
theorem exec_acquireRun : ∃ s, Lts.exec (step oneSlot) (init oneSlot ∅)
      (acquireRun (.error "refused")) = some s ∧
    s.Quiescent ∧ s.state.idleCount = 0 ∧ s.state.activeSlots.size = 0 := by
  have hrun : ((Lts.exec (step oneSlot) (init oneSlot ∅) (acquireRun (.error "refused"))).map
      fun s => ((s.pc 0).inProgress, s.state.idleCount, s.state.activeSlots.size)) =
      some (false, 0, 0) := rfl
  obtain ⟨s, hs, hv⟩ := Option.map_eq_some_iff.1 hrun
  simp only [Prod.mk.injEq] at hv
  refine ⟨s, hs, fun i => ?_, hv.2⟩
  rcases eq_or_ne i 0 with rfl | hi
  · exact hv.1
  · rw [exec_frame hs (by simp [acquireRun, Label.call, hi])]
    rfl

theorem slots_conserved_refused :
    ∃ s, Lts.exec (step oneSlot) (init oneSlot ∅) (acquireRun (.error "refused")) = some s ∧
      ¬ ∀ bs t, bs <+: acquireRun (.error "refused") →
        Lts.exec (step oneSlot) (init oneSlot ∅) bs = some t → t.Quiescent →
        Conserved oneSlot t := by
  obtain ⟨s, hs, hq, -⟩ := exec_acquireRun
  refine ⟨s, hs, fun hall => ?_⟩
  have hloss := (slots_conserved _ _ _ _ _ _ s (guarded_acquireRun (.error "refused")) hs hq).1 hall
  exact absurd (hloss (.connect 0 (.error "refused")) (by simp [acquireRun])) (by decide)

theorem slots_conserved_fails :
    ¬ ∀ (P : ConnectionPool String (StrMap LoopSessionEntry)) (store : StrMap LoopSessionEntry)
      (as : List Label) (s : System String (StrMap LoopSessionEntry)),
      Lts.Guarded (step P) Sequential (init P store) as →
      Lts.exec (step P) (init P store) as = some s → s.Quiescent → Conserved P s := by
  intro h
  obtain ⟨s, hs, hq, hidle, hactive⟩ := exec_acquireRun
  obtain ⟨-, hsum⟩ := h oneSlot ∅ _ s (guarded_acquireRun _) hs hq
  rw [hidle, hactive] at hsum
  exact absurd hsum (by decide)

end System

end Pool

end SootheClient
