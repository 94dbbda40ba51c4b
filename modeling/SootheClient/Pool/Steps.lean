import SootheClient.Pool.ConnectionPool

/-!
# What a step of the pool does

`PoolStep` has one case for each thing that a step of a call can do, with the place that the call
is in and the state that the step leaves.
-/

namespace SootheClient.Pool

open Function (update update_self update_of_ne)

variable {Cl σ : Type*}

namespace System

variable {P : ConnectionPool Cl σ} {s t : System Cl σ} {a : Label} {as : List Label} {i k : ℕ}
  {c : PooledConn Cl}

/-- What a step does. -/
inductive PoolStep (P : ConnectionPool Cl σ) (s : System Cl σ) : Label → System Cl σ → Prop
  | acquire (i : ℕ) (args : Args) (hi : s.pc i = .idle) : PoolStep P s (.acquire i args)
      { s.goto i .lookup with args := update s.args i args }
  | release (i : ℕ) (sid : String) (hi : s.pc i = .idle) : PoolStep P s (.release i sid)
      { s.goto i (.remove .returned) with args := update s.args i { sessionId := sid } }
  /-- The session has no active connection. -/
  | missing (i : ℕ) (hi : s.pc i = .lookup)
      (hl : s.state.activeSlots.lookup (s.sid i) = none) : PoolStep P s (.next i) (s.goto i .pull)
  | found (i : ℕ) (c : PooledConn Cl) (hi : s.pc i = .lookup)
      (hl : s.state.activeSlots.lookup (s.sid i) = some c) :
      PoolStep P s (.next i) (s.goto i (.check c))
  | touch (i : ℕ) (c : PooledConn Cl) (hi : s.pc i = .touch c) : PoolStep P s (.next i)
      { s.goto i (.done (.ok c)) with store := P.store.updateLastUsed s.store (s.sid i) }
  /-- A `release` finds no active connection. -/
  | absent (i : ℕ) (k : After) (hi : s.pc i = .remove k)
      (hl : s.state.activeSlots.lookup (s.sid i) = none) : PoolStep P s (.next i) (s.goto i k.pc)
  | remove (i : ℕ) (c : PooledConn Cl) (k : After) (hi : s.pc i = .remove k)
      (hl : s.state.activeSlots.lookup (s.sid i) = some c) : PoolStep P s (.next i)
      { s with
        state := s.state.remove (s.sid i)
        pc := update s.pc i (.closing c k)
        torn := update s.torn c.call (some i) }
  | closing (i : ℕ) (c : PooledConn Cl) (k : After) (hi : s.pc i = .closing c k) :
      PoolStep P s (.next i)
        { s.goto i (.giveBack k) with closed := update s.closed c.call true }
  | giveBack (i : ℕ) (k : After) (hi : s.pc i = .giveBack k) : PoolStep P s (.next i)
      { s.goto i k.pc with state := s.state.trySend P.cfg.poolSize ⟨P.factory P.daemonUrl⟩ }
  /-- The channel is empty. -/
  | exhausted (i : ℕ) (hi : s.pc i = .pull) (hidle : s.state.idle = []) :
      PoolStep P s (.next i) (s.goto i (.done (.error .exhausted)))
  | pull (i : ℕ) (slot : IdleSlot Cl) (rest : List (IdleSlot Cl)) (hi : s.pc i = .pull)
      (hidle : s.state.idle = slot :: rest) : PoolStep P s (.next i)
      { s with
        state := { s.state with idle := rest, idleCount := s.state.idleCount - 1 }
        pc := update s.pc i (.assign slot) }
  | assign (i : ℕ) (slot : IdleSlot Cl) (hi : s.pc i = .assign slot) :
      PoolStep P s (.next i) (s.assignStep i slot)
  | loopIdFor (i : ℕ) (c : PooledConn Cl) (hi : s.pc i = .loopIdFor c) :
      PoolStep P s (.next i) (s.goto i (s.loopPc P i c))
  | persist (i : ℕ) (c : PooledConn Cl) (loopId : String) (hi : s.pc i = .persist c loopId) :
      PoolStep P s (.next i)
        (s.goto i (.write c loopId (P.store.getSession s.store (s.sid i)).isSome))
  | write (i : ℕ) (c : PooledConn Cl) (loopId : String) (exists_ : Bool)
      (hi : s.pc i = .write c loopId exists_) : PoolStep P s (.next i)
      { s.goto i (.finish c loopId) with store := s.writeStep P i loopId exists_ }
  | finish (i : ℕ) (c : PooledConn Cl) (loopId : String) (hi : s.pc i = .finish c loopId) :
      PoolStep P s (.next i)
        { s.goto i (.insert { c with loopId := loopId }) with
          store := P.store.updateLastUsed s.store (s.sid i) }
  | insert (i : ℕ) (c : PooledConn Cl) (hi : s.pc i = .insert c) : PoolStep P s (.next i)
      { s.goto i (.done (.ok c)) with state := s.state.insert (s.sid i) c }
  | check (i : ℕ) (c : PooledConn Cl) (dropped : Bool) (elapsed : ℕ) (hi : s.pc i = .check c) :
      PoolStep P s (.check i dropped elapsed) (s.goto i (s.checkPc P c dropped elapsed))
  | connect (i : ℕ) (c : PooledConn Cl) (fresh : Bool) (r : Except String Unit)
      (hi : s.pc i = .connect c fresh) :
      PoolStep P s (.connect i r) (s.goto i (connectPc c fresh r))
  | bootstrap (i : ℕ) (c : PooledConn Cl) (fresh : Bool) (r : Except String String)
      (hi : s.pc i = .bootstrap c fresh) :
      PoolStep P s (.bootstrap i r) (s.goto i (bootstrapPc c fresh r))
  | resume (i : ℕ) (c : PooledConn Cl) (loopId : String) (ok : Bool)
      (hi : s.pc i = .resume c loopId) : PoolStep P s (.resume i ok)
      (s.goto i (if ok then .finish c loopId else .connect c false))

theorem lookup_inv (hi : s.pc i = .lookup) : PoolStep P s (.next i) (s.goto i (s.lookupPc i)) := by
  unfold lookupPc
  cases hl : s.state.activeSlots.lookup (s.sid i) with
  | none => exact .missing i hi hl
  | some c => exact .found i c hi hl

theorem removeStep_inv {k : After} (hi : s.pc i = .remove k) :
    PoolStep P s (.next i) (s.removeStep i k) := by
  unfold removeStep
  cases hl : s.state.activeSlots.lookup (s.sid i) with
  | none => exact .absent i k hi hl
  | some c => exact .remove i c k hi hl

theorem pullStep_inv (hi : s.pc i = .pull) : PoolStep P s (.next i) (s.pullStep i) := by
  unfold pullStep PoolState.tryRecv
  cases hidle : s.state.idle with
  | nil => exact .exhausted i hi hidle
  | cons slot rest => exact .pull i slot rest hi hidle

theorem next_inv (h : s.next P i = some t) : PoolStep P s (.next i) t := by
  unfold next at h
  cases hi : s.pc i with
  | lookup =>
    rw [hi] at h
    obtain rfl := Option.some.inj h
    exact lookup_inv hi
  | touch c =>
    rw [hi] at h
    obtain rfl := Option.some.inj h
    exact .touch i c hi
  | remove k =>
    rw [hi] at h
    obtain rfl := Option.some.inj h
    exact removeStep_inv hi
  | closing c k =>
    rw [hi] at h
    obtain rfl := Option.some.inj h
    exact .closing i c k hi
  | giveBack k =>
    rw [hi] at h
    obtain rfl := Option.some.inj h
    exact .giveBack i k hi
  | pull =>
    rw [hi] at h
    obtain rfl := Option.some.inj h
    exact pullStep_inv hi
  | assign slot =>
    rw [hi] at h
    obtain rfl := Option.some.inj h
    exact .assign i slot hi
  | loopIdFor c =>
    rw [hi] at h
    obtain rfl := Option.some.inj h
    exact .loopIdFor i c hi
  | persist c loopId =>
    rw [hi] at h
    obtain rfl := Option.some.inj h
    exact .persist i c loopId hi
  | write c loopId exists_ =>
    rw [hi] at h
    obtain rfl := Option.some.inj h
    exact .write i c loopId exists_ hi
  | finish c loopId =>
    rw [hi] at h
    obtain rfl := Option.some.inj h
    exact .finish i c loopId hi
  | insert c =>
    rw [hi] at h
    obtain rfl := Option.some.inj h
    exact .insert i c hi
  | idle | check | connect | bootstrap | resume | done | released =>
    rw [hi] at h
    cases h

/-- **Steps.** -/
theorem step_inv (h : step P s a = some t) : PoolStep P s a t := by
  unfold step at h
  cases a with
  | next i => exact next_inv h
  | acquire i args =>
    simp only at h
    split at h
    · rename_i hi
      obtain rfl := Option.some.inj h
      exact .acquire i args hi
    · cases h
  | release i sid =>
    simp only at h
    split at h
    · rename_i hi
      obtain rfl := Option.some.inj h
      exact .release i sid hi
    · cases h
  | check i dropped elapsed =>
    simp only at h
    split at h
    · rename_i c hi
      obtain rfl := Option.some.inj h
      exact .check i c dropped elapsed hi
    · cases h
  | connect i r =>
    simp only at h
    split at h
    · rename_i c fresh hi
      obtain rfl := Option.some.inj h
      exact .connect i c fresh r hi
    · cases h
  | bootstrap i r =>
    simp only at h
    split at h
    · rename_i c fresh hi
      obtain rfl := Option.some.inj h
      exact .bootstrap i c fresh r hi
    · cases h
  | resume i ok =>
    simp only at h
    split at h
    · rename_i c loopId hi
      obtain rfl := Option.some.inj h
      exact .resume i c loopId ok hi
    · cases h

/-- A step leaves the other calls where they are. -/
theorem step_frame (h : step P s a = some t) (hk : k ≠ a.call) :
    t.pc k = s.pc k ∧ t.args k = s.args k := by
  cases step_inv h with
  | acquire | release => exact ⟨update_of_ne hk _ _, update_of_ne hk _ _⟩
  | missing | found | touch | absent | remove | closing | giveBack | exhausted | pull | assign
  | loopIdFor | persist | write | finish | insert | check | connect | bootstrap | resume =>
    exact ⟨update_of_ne hk _ _, rfl⟩

theorem exec_frame (h : Lts.exec (step P) s as = some t) (hk : ∀ a ∈ as, k ≠ a.call) :
    t.pc k = s.pc k := by
  induction as generalizing s with
  | nil => exact congrArg (pc · k) (Option.some.inj h).symm
  | cons a as ih =>
    obtain ⟨u, hu, h⟩ := Lts.exec_cons_eq_some.1 h
    rw [ih h fun b hb => hk b (List.mem_cons_of_mem a hb),
      (step_frame hu (hk a List.mem_cons_self)).1]

theorem loopPc_eq : s.loopPc P i c = .connect c true ∨ ∃ l, s.loopPc P i c = .resume c l := by
  unfold loopPc
  split
  split_ifs
  · exact Or.inl rfl
  · exact Or.inr ⟨_, rfl⟩

theorem checkPc_eq (dropped : Bool) (elapsed : ℕ) :
    s.checkPc P c dropped elapsed = .remove .pull ∨ s.checkPc P c dropped elapsed = .touch c := by
  unfold checkPc
  split_ifs
  · exact Or.inl rfl
  · exact Or.inl rfl
  · exact Or.inr rfl

end System

end SootheClient.Pool
