import SootheClient.Pool.Slots

/-!
# One active slot per session

`Move` says once what a step does to the place of its call; only `remove` and `insert` change the
active slots. `WellFormed` holds in every run. `Sole` is the invariant of the runs in which no
call of the session pulls a slot while another one is building (`Sound`).
-/

namespace SootheClient.Pool

open Function (update update_self update_of_ne)

variable {Cl σ : Type*}

/-- The connection a call is building. -/
def Pc.built? : Pc Cl → Option (PooledConn Cl)
  | .loopIdFor c | .connect c _ | .bootstrap c _ | .resume c _ | .persist c _ | .write c _ _
  | .finish c _ | .insert c => some c
  | _ => none

/-- The call is on a failing exit that goes through `release`. -/
def Pc.failing : Pc Cl → Bool
  | .remove (.fail _) | .closing _ (.fail _) | .giveBack (.fail _) => true
  | _ => false

/-- Between the pull of a slot and the return. -/
def Pc.inflight (p : Pc Cl) : Bool := p.building || p.failing

/-- The connection that an `acquire` found active, and has returned unless it is still checking. -/
def Pc.seen? : Pc Cl → Option (PooledConn Cl)
  | .check c | .touch c | .done (.ok c) => some c
  | _ => none

theorem building_of_built {p : Pc Cl} {c : PooledConn Cl} (h : p.built? = some c) :
    p.building = true := by
  cases p <;> first | rfl | cases h

theorem not_seen_of_built {p : Pc Cl} {c : PooledConn Cl} (h : p.built? = some c) :
    p.seen? = none := by
  cases p <;> first | rfl | cases h

namespace System

variable {P : ConnectionPool Cl σ} {s t u : System Cl σ} {a : Label} {as : List Label}
  {i j k : ℕ} {sid : String} {c c' : PooledConn Cl}

/-- What the step `a` does to the place of its call, `remove` and `insert` apart. -/
inductive Move (s : System Cl σ) (a : Label) : Pc Cl → Pc Cl → Prop where
  | acquire : Move s a .idle .lookup
  | release : Move s a .idle (.remove .returned)
  | found {c : PooledConn Cl} (h : s.state.activeSlots.lookup (s.sid a.call) = some c) :
      Move s a .lookup (.check c)
  | missing : Move s a .lookup .pull
  | stale {c : PooledConn Cl} : Move s a (.check c) (.remove .pull)
  | live {c : PooledConn Cl} : Move s a (.check c) (.touch c)
  | reused {c : PooledConn Cl} : Move s a (.touch c) (.done (.ok c))
  | absent {k : After} (h : s.state.activeSlots.lookup (s.sid a.call) = none) :
      Move s a (.remove k) k.pc
  | closed {c : PooledConn Cl} {k : After} : Move s a (.closing c k) (.giveBack k)
  | given {k : After} : Move s a (.giveBack k) k.pc
  | exhausted (h : s.state.idle = []) (ha : a = .next a.call) :
      Move s a .pull (.done (.error .exhausted))
  | pulled {slot : IdleSlot Cl} (h : s.state.idle ≠ []) (ha : a = .next a.call) :
      Move s a .pull (.assign slot)
  | assigned {slot : IdleSlot Cl} {c : PooledConn Cl}
      (h : c.call = a.call ∧ c.sessionId = s.sid a.call) :
      Move s a (.assign slot) (.loopIdFor c)
  | work {p q : Pc Cl} {c c' : PooledConn Cl} (hp : p.built? = some c)
      (hq : q.built? = some c') (h : c'.call = c.call ∧ c'.sessionId = c.sessionId) : Move s a p q
  | refused {c : PooledConn Cl} {e : String} (ha : a.losesSlot = true) :
      Move s a (.connect c true) (.done (.error (.connect e)))
  | failed {p : Pc Cl} {c : PooledConn Cl} {e : AcquireError} (hp : p.built? = some c)
      (ha : a.losesSlot = true) :
      Move s a p (.remove (.fail e))

/-- Only the place of call `i` differs, and the parts that `Move` does not speak of. -/
structure Quiet (s t : System Cl σ) (i : ℕ) (q : Pc Cl) : Prop where
  pc : t.pc = update s.pc i q
  active : t.state.activeSlots = s.state.activeSlots
  torn : t.torn = s.torn
  args : ∀ k, s.pc k ≠ .idle → t.args k = s.args k

/-- The connection of the session is taken out of the active slots. -/
structure Removes (s t : System Cl σ) (i : ℕ) (c : PooledConn Cl) (k : After) : Prop where
  place : s.pc i = .remove k
  entry : s.state.activeSlots.lookup (s.sid i) = some c
  pc : t.pc = update s.pc i (.closing c k)
  active : t.state.activeSlots = s.state.activeSlots.erase (s.sid i)
  torn : t.torn = update s.torn c.call (some i)
  args : t.args = s.args

/-- A new connection becomes the active one of the session, and is returned. -/
structure Inserts (s t : System Cl σ) (i : ℕ) (c : PooledConn Cl) : Prop where
  place : s.pc i = .insert c
  pc : t.pc = update s.pc i (.done (.ok c))
  active : t.state.activeSlots = s.state.activeSlots.insert (s.sid i) c
  torn : t.torn = s.torn
  args : t.args = s.args

theorem Quiet.goto {q : Pc Cl} {st : σ} {cl : ℕ → Bool} :
    Quiet s { s.goto i q with store := st, closed := cl } i q :=
  ⟨rfl, rfl, rfl, fun _ _ => rfl⟩

/-- **What a step can do.** -/
theorem step_cases (h : step P s a = some t) :
    (∃ p q, s.pc a.call = p ∧ Move s a p q ∧ Quiet s t a.call q) ∨
      (∃ c k, Removes s t a.call c k) ∨ ∃ c, Inserts s t a.call c := by
  cases step_inv h with
  | acquire i args hi =>
    refine Or.inl ⟨_, .lookup, hi, .acquire, rfl, rfl, rfl, fun k hk => ?_⟩
    exact update_of_ne (by rintro rfl; exact hk hi) _ _
  | release i sid hi =>
    refine Or.inl ⟨_, .remove .returned, hi, .release, rfl, rfl, rfl, fun k hk => ?_⟩
    exact update_of_ne (by rintro rfl; exact hk hi) _ _
  | missing i hi hl => exact Or.inl ⟨_, _, hi, .missing, Quiet.goto⟩
  | found i c hi hl => exact Or.inl ⟨_, _, hi, .found hl, Quiet.goto⟩
  | touch i c hi => exact Or.inl ⟨_, _, hi, .reused, Quiet.goto⟩
  | absent i k hi hl => exact Or.inl ⟨_, _, hi, .absent hl, Quiet.goto⟩
  | remove i c k hi hl => exact Or.inr (Or.inl ⟨c, k, hi, hl, rfl, rfl, rfl, rfl⟩)
  | closing i c k hi => exact Or.inl ⟨_, _, hi, .closed, Quiet.goto⟩
  | giveBack i k hi =>
    refine Or.inl ⟨_, _, hi, .given, rfl, ?_, rfl, fun _ _ => rfl⟩
    simp only [PoolState.trySend]
    split <;> rfl
  | exhausted i hi hidle => exact Or.inl ⟨_, _, hi, .exhausted hidle rfl, Quiet.goto⟩
  | pull i slot rest hi hidle =>
    have hne : s.state.idle ≠ [] := by
      rw [hidle]
      exact List.cons_ne_nil _ _
    exact Or.inl ⟨_, .assign slot, hi, .pulled hne rfl, rfl, rfl, rfl, fun _ _ => rfl⟩
  | assign i slot hi =>
    exact Or.inl ⟨_, _, hi, .assigned ⟨rfl, rfl⟩, rfl, rfl, rfl, fun _ _ => rfl⟩
  | loopIdFor i c hi =>
    refine Or.inl ⟨_, _, hi, ?_, Quiet.goto⟩
    obtain hp | ⟨l, hp⟩ := loopPc_eq (P := P) (s := s) (i := i) (c := c)
    · rw [hp]; exact .work rfl rfl ⟨rfl, rfl⟩
    · rw [hp]; exact .work rfl rfl ⟨rfl, rfl⟩
  | persist i c l hi => exact Or.inl ⟨_, _, hi, .work rfl rfl ⟨rfl, rfl⟩, Quiet.goto⟩
  | write i c l b hi => exact Or.inl ⟨_, _, hi, .work rfl rfl ⟨rfl, rfl⟩, Quiet.goto⟩
  | finish i c l hi => exact Or.inl ⟨_, _, hi, .work rfl rfl (by exact ⟨rfl, rfl⟩), Quiet.goto⟩
  | insert i c hi => exact Or.inr (Or.inr ⟨c, hi, rfl, rfl, rfl, rfl⟩)
  | check i c dropped elapsed hi =>
    refine Or.inl ⟨_, _, hi, ?_, Quiet.goto⟩
    obtain hp | hp := checkPc_eq (P := P) (s := s) (c := c) dropped elapsed
    · rw [hp]; exact .stale
    · rw [hp]; exact .live
  | connect i c fresh r hi =>
    refine Or.inl ⟨_, _, hi, ?_, Quiet.goto⟩
    cases r with
    | ok => exact .work rfl rfl ⟨rfl, rfl⟩
    | error e =>
      cases fresh with
      | true => exact .refused rfl
      | false => exact .failed rfl rfl
  | bootstrap i c fresh r hi =>
    refine Or.inl ⟨_, _, hi, ?_, Quiet.goto⟩
    cases r with
    | ok => exact .work rfl rfl ⟨rfl, rfl⟩
    | error e => exact .failed rfl rfl
  | resume i c l ok hi =>
    refine Or.inl ⟨_, _, hi, ?_, Quiet.goto⟩
    cases ok <;> exact .work rfl rfl ⟨rfl, rfl⟩

theorem Move.not_done {p q : Pc Cl} (h : Move s a p q) (r : Except AcquireError (PooledConn Cl)) :
    p ≠ .done r := by
  rintro rfl
  cases h with
  | work hp => cases hp
  | failed hp => cases hp

/-- What a call returned stays. -/
theorem done_stable (h : step P s a = some t) {r : Except AcquireError (PooledConn Cl)}
    (hk : s.pc k = .done r) : t.pc k = .done r := by
  rcases eq_or_ne k a.call with rfl | hne
  · rcases step_cases h with ⟨p, q, hp, hm, -⟩ | ⟨c, k', hr⟩ | ⟨c, hr⟩
    · exact absurd (hp ▸ hk) (hm.not_done r)
    · rw [hr.place] at hk; cases hk
    · rw [hr.place] at hk; cases hk
  · rw [(step_frame h hne).1, hk]

theorem sid_congr (h : t.args = s.args) : t.sid k = s.sid k := by
  unfold System.sid
  rw [h]

theorem sid_stable (h : step P s a = some t) (hk : s.pc k ≠ .idle) : t.sid k = s.sid k := by
  unfold System.sid
  rcases step_cases h with ⟨p, q, -, -, hq⟩ | ⟨c, k', hr⟩ | ⟨c, hr⟩
  · rw [hq.args k hk]
  · rw [hr.args]
  · rw [hr.args]

/-- A session id that a call has after a step it had before, unless the step started the call. -/
theorem sid_of_step (h : step P s a = some t) (hk : t.pc k ≠ .lookup)
    (hk' : t.pc k ≠ .remove .returned) : t.sid k = s.sid k := by
  rcases eq_or_ne k a.call with rfl | hne
  · by_cases hidle : s.pc a.call = .idle
    · rcases step_cases h with ⟨p, q, hp, hm, hq⟩ | ⟨c, k', hr⟩ | ⟨c, hr⟩
      · rw [hidle] at hp
        subst hp
        have hpc : t.pc a.call = q := by rw [hq.pc, update_self]
        cases hm with
        | acquire => exact absurd hpc hk
        | release => exact absurd hpc hk'
        | work hp => cases hp
        | failed hp => cases hp
      · rw [hr.place] at hidle; cases hidle
      · rw [hr.place] at hidle; cases hidle
    · exact sid_stable h hidle
  · unfold System.sid
    rw [(step_frame h hne).2]

/-! ## Every run -/

/-- Which connections the calls and the active slots hold. -/
structure WellFormed (s : System Cl σ) : Prop where
  seen : ∀ i c, (s.pc i).seen? = some c → c.sessionId = s.sid i ∧ s.pc c.call = .done (.ok c)
  built : ∀ i c, (s.pc i).built? = some c → c.call = i ∧ c.sessionId = s.sid i
  entry : ∀ key c, s.state.activeSlots.lookup key = some c →
    c.sessionId = key ∧ s.pc c.call = .done (.ok c)
  tears : ∀ k i, s.torn k = some i → ∃ c, c.call = k ∧ s.pc k = .done (.ok c)

theorem wellFormed_init (store : σ) : WellFormed (init P store) where
  seen _ _ h := by cases h
  built _ _ h := by cases h
  entry _ _ h := by cases h
  tears _ _ h := by cases h

theorem After.seen_pc (k : After) : (k.pc : Pc Cl).seen? = none := by cases k <;> rfl

theorem After.built_pc (k : After) : (k.pc : Pc Cl).built? = none := by cases k <;> rfl

/-- The connection a call sees after a step was active, or the call saw it before. -/
theorem Move.seen {p q : Pc Cl} (h : Move s a p q) (hc : q.seen? = some c) :
    s.state.activeSlots.lookup (s.sid a.call) = some c ∨ p.seen? = some c := by
  cases h with
  | found h => exact Or.inl (by rw [h]; exact hc)
  | live | reused => exact Or.inr hc
  | absent | given => rw [After.seen_pc] at hc; cases hc
  | work _ hq => rw [not_seen_of_built hq] at hc; cases hc
  | _ => cases hc

theorem Move.built {p q : Pc Cl} (h : Move s a p q) (hc : q.built? = some c) :
    (c.call = a.call ∧ c.sessionId = s.sid a.call) ∨
      ∃ c', p.built? = some c' ∧ c.call = c'.call ∧ c.sessionId = c'.sessionId := by
  cases h with
  | assigned h => exact Or.inl (Option.some.inj hc ▸ h)
  | work hp hq h => exact Or.inr ⟨_, hp, Option.some.inj (hq.symm.trans hc) ▸ h⟩
  | absent | given => rw [After.built_pc] at hc; cases hc
  | _ => cases hc

theorem wellFormed_step (s : System Cl σ) (a : Label) (t : System Cl σ) (h : WellFormed s)
    (ht : step P s a = some t) : WellFormed t := by
  have hsid : ∀ {k : ℕ} {c : PooledConn Cl}, (t.pc k).seen? = some c ∨ (t.pc k).built? = some c →
      t.sid k = s.sid k := by
    intro k c hk
    refine sid_of_step ht ?_ ?_
    · intro hl; rw [hl] at hk; rcases hk with hk | hk <;> cases hk
    · intro hl; rw [hl] at hk; rcases hk with hk | hk <;> cases hk
  have hother : ∀ {k : ℕ}, k ≠ a.call → t.pc k = s.pc k := fun hk => (step_frame ht hk).1
  have hseen : ∀ k c, k ≠ a.call → (t.pc k).seen? = some c →
      c.sessionId = t.sid k ∧ t.pc c.call = .done (.ok c) := by
    intro k c hk hc
    obtain ⟨h1, h2⟩ := h.seen k c (hother hk ▸ hc)
    exact ⟨by rw [hsid (Or.inl hc), h1], done_stable ht h2⟩
  have hbuilt : ∀ k c, k ≠ a.call → (t.pc k).built? = some c →
      c.call = k ∧ c.sessionId = t.sid k := by
    intro k c hk hc
    rw [hsid (Or.inr hc)]
    exact h.built k c (hother hk ▸ hc)
  have hentry : ∀ key c, s.state.activeSlots.lookup key = some c →
      c.sessionId = key ∧ t.pc c.call = .done (.ok c) := fun key c hc =>
    ⟨(h.entry key c hc).1, done_stable ht (h.entry key c hc).2⟩
  have htears : ∀ k i, s.torn k = some i → ∃ c, c.call = k ∧ t.pc k = .done (.ok c) := by
    intro k i hk
    obtain ⟨c, hcall, hc⟩ := h.tears k i hk
    exact ⟨c, hcall, done_stable ht hc⟩
  rcases step_cases ht with ⟨p, q, hp, hm, hq⟩ | ⟨c, k, hr⟩ | ⟨c, hr⟩
  · have hpc : t.pc a.call = q := by rw [hq.pc, update_self]
    refine ⟨fun i c hc => ?_, fun i c hc => ?_, fun key c hc => ?_, fun k i hk => ?_⟩
    · rcases eq_or_ne i a.call with rfl | hne
      · rw [hsid (Or.inl hc)]
        rcases hm.seen (hpc ▸ hc) with hl | hs
        · exact hentry _ c hl
        · obtain ⟨h1, h2⟩ := h.seen _ c (hp ▸ hs)
          exact ⟨h1, done_stable ht h2⟩
      · exact hseen i c hne hc
    · rcases eq_or_ne i a.call with rfl | hne
      · rw [hsid (Or.inr hc)]
        rcases hm.built (hpc ▸ hc) with hl | ⟨c', hc', h1, h2⟩
        · exact hl
        · rw [h1, h2]
          exact h.built _ c' (hp ▸ hc')
      · exact hbuilt i c hne hc
    · exact hentry key c (hq.active ▸ hc)
    · exact htears k i (hq.torn ▸ hk)
  · have hpc : t.pc a.call = .closing c k := by rw [hr.pc, update_self]
    refine ⟨fun i c hc => ?_, fun i c hc => ?_, fun key c' hc => ?_, fun k i hk => ?_⟩
    · rcases eq_or_ne i a.call with rfl | hne
      · rw [hpc] at hc; cases hc
      · exact hseen i c hne hc
    · rcases eq_or_ne i a.call with rfl | hne
      · rw [hpc] at hc; cases hc
      · exact hbuilt i c hne hc
    · rw [hr.active] at hc
      rcases eq_or_ne key (s.sid a.call) with rfl | hne
      · rw [AList.lookup_erase] at hc; cases hc
      · rw [AList.lookup_erase_ne hne] at hc
        exact hentry key c' hc
    · rw [hr.torn] at hk
      rcases eq_or_ne k c.call with rfl | hne
      · exact ⟨c, rfl, (hentry _ c hr.entry).2⟩
      · rw [update_of_ne hne] at hk
        exact htears k i hk
  · have hpc : t.pc a.call = .done (.ok c) := by rw [hr.pc, update_self]
    have hsid' : t.sid a.call = s.sid a.call := hsid (c := c) (Or.inl (by rw [hpc]; rfl))
    obtain ⟨hcall, hsess⟩ := h.built a.call c (by rw [hr.place]; rfl)
    refine ⟨fun i c' hc => ?_, fun i c' hc => ?_, fun key c' hc => ?_, fun k i hk => ?_⟩
    · rcases eq_or_ne i a.call with rfl | hne
      · rw [hpc] at hc
        obtain rfl := Option.some.inj hc
        exact ⟨hsess.trans hsid'.symm, by rw [hcall, hpc]⟩
      · exact hseen i c' hne hc
    · rcases eq_or_ne i a.call with rfl | hne
      · rw [hpc] at hc; cases hc
      · exact hbuilt i c' hne hc
    · rw [hr.active] at hc
      rcases eq_or_ne key (s.sid a.call) with rfl | hne
      · rw [AList.lookup_insert] at hc
        obtain rfl := Option.some.inj hc
        exact ⟨hsess, by rw [hcall, hpc]⟩
      · rw [AList.lookup_insert_ne hne] at hc
        exact hentry key c' hc
    · exact htears k i (hr.torn ▸ hk)

/-! ## Runs in which the session's calls do not overlap -/

/-- The call took no connection out of the active slots. -/
def Clean (s : System Cl σ) (i : ℕ) : Prop := ∀ k, s.torn k ≠ some i

/-- The session has no active connection and no call of it is building one. -/
def Free (sid : String) (s : System Cl σ) : Prop :=
  s.state.activeSlots.lookup sid = none ∧ ∀ j, s.sid j = sid → (s.pc j).inflight = false

/-- A call of the session pulls a slot only when the session is free, and takes a failing exit
only when it recycled no connection. -/
def Sound (sid : String) (s : System Cl σ) (a : Label) : Prop :=
  s.sid a.call = sid →
    (a.losesSlot = true → s.Clean a.call) ∧
    (s.pc a.call = .pull →
      (s.state.idle = [] → s.Clean a.call) ∧ (s.state.idle ≠ [] → Free sid s))

/-- The call has failed, or is about to. -/
def Failed (p : Pc Cl) : Prop := p.failing = true ∨ ∃ e, p = .done (.error e)

/-- At most one call of the session is building, and then there is no active connection. -/
structure Sole (sid : String) (s : System Cl σ) : Prop where
  current : ∀ i c, (s.pc i).seen? = some c → s.sid i = sid → s.torn c.call = none →
    s.state.activeSlots.lookup sid = some c
  untorn : ∀ c, s.state.activeSlots.lookup sid = some c → s.torn c.call = none
  alone : ∀ i j, s.sid i = sid → s.sid j = sid → (s.pc i).inflight = true →
    (s.pc j).inflight = true → i = j
  vacant : ∀ i, s.sid i = sid → (s.pc i).inflight = true →
    s.state.activeSlots.lookup sid = none
  clean : ∀ i, s.sid i = sid → Failed (s.pc i) → s.Clean i
  closing : ∀ i c e, s.sid i = sid → s.pc i ≠ .closing c (.fail e)
  giving : ∀ i e, s.sid i = sid → s.pc i ≠ .giveBack (.fail e)

theorem sole_init (store : σ) : Sole sid (init P store) where
  current _ _ h := by cases h
  untorn _ h := by cases h
  alone _ _ _ _ h := by cases h
  vacant _ _ h := by cases h
  clean _ _ h := by rcases h with h | ⟨e, h⟩ <;> cases h
  closing _ _ _ _ := by rintro ⟨⟩
  giving _ _ _ := by rintro ⟨⟩

theorem inflight_of_built {p : Pc Cl} (h : p.built? = some c) : p.inflight = true := by
  rw [Pc.inflight, building_of_built h, Bool.true_or]

theorem After.inflight_pc (k : After) : (k.pc : Pc Cl).inflight = false := by cases k <;> rfl

/-- A call builds after a step when it did before, or pulled a slot. -/
theorem Move.inflight {p q : Pc Cl} (h : Move s a p q) (hq : q.inflight = true) :
    p.inflight = true ∨ (p = .pull ∧ s.state.idle ≠ []) := by
  cases h with
  | pulled h => exact Or.inr ⟨rfl, h⟩
  | assigned => exact Or.inl rfl
  | work hp => exact Or.inl (inflight_of_built hp)
  | failed hp => exact Or.inl (inflight_of_built hp)
  | closed =>
    rename_i k
    cases k <;> exact Or.inl hq
  | absent | given => rw [After.inflight_pc] at hq; cases hq
  | _ => cases hq

theorem After.failed_pc {k : After} (h : Failed (k.pc : Pc Cl)) : ∃ e, k = .fail e := by
  cases k with
  | fail e => exact ⟨e, rfl⟩
  | returned | pull => rcases h with h | ⟨e, h⟩ <;> cases h

/-- A call fails after a step when it did before, or takes a failing exit now. -/
theorem Move.fails {p q : Pc Cl} (h : Move s a p q) (hq : Failed q) :
    Failed p ∨ (∃ e, p = .giveBack (.fail e)) ∨ (p = .pull ∧ s.state.idle = []) ∨
      a.losesSlot = true := by
  have hno : ∀ {q : Pc Cl}, Failed q → q.failing = false → (∀ e, q ≠ .done (.error e)) →
      False := by
    rintro q (hq | ⟨e, hq⟩) hf he
    · rw [hf] at hq; cases hq
    · exact he e hq
  cases h with
  | exhausted h => exact Or.inr (Or.inr (Or.inl ⟨rfl, h⟩))
  | refused ha => exact Or.inr (Or.inr (Or.inr ha))
  | failed _ ha => exact Or.inr (Or.inr (Or.inr ha))
  | absent =>
    obtain ⟨e, rfl⟩ := After.failed_pc hq
    exact Or.inl (Or.inl rfl)
  | given =>
    obtain ⟨e, rfl⟩ := After.failed_pc hq
    exact Or.inr (Or.inl ⟨e, rfl⟩)
  | closed =>
    rename_i k
    cases k with
    | fail e => exact Or.inl (Or.inl rfl)
    | returned | pull => exact (hno hq rfl fun e he => nomatch he).elim
  | work hp hq' =>
    refine (hno hq ?_ ?_).elim
    · cases q <;> first | rfl | cases hq'
    · rintro e rfl; cases hq'
  | _ => exact (hno hq rfl fun e he => nomatch he).elim

theorem Move.not_closing {p q : Pc Cl} {k : After} (h : Move s a p q) : q ≠ .closing c k := by
  rintro hq
  cases h with
  | work _ hq' => rw [hq] at hq'; cases hq'
  | @absent k' => cases k' <;> cases hq
  | @given k' => cases k' <;> cases hq
  | _ => cases hq

theorem Move.giveBack {p q : Pc Cl} {k : After} (h : Move s a p q) (hq : q = .giveBack k) :
    ∃ c, p = .closing c k := by
  cases h with
  | closed =>
    obtain rfl := Pc.giveBack.inj hq
    exact ⟨_, rfl⟩
  | work _ hq' => rw [hq] at hq'; cases hq'
  | @absent k' => cases k' <;> cases hq
  | @given k' => cases k' <;> cases hq
  | _ => cases hq

theorem Quiet.lookup {q : Pc Cl} (hq : Quiet s t i q) (key : String) :
    t.state.activeSlots.lookup key = s.state.activeSlots.lookup key := by
  rw [hq.active]

theorem sole_quiet (h : Sole sid s) (hG : Sound sid s a)
    (ht : step P s a = some t) {p q : Pc Cl} (hp : s.pc a.call = p) (hm : Move s a p q)
    (hq : Quiet s t a.call q) : Sole sid t := by
  have hpc : t.pc a.call = q := by rw [hq.pc, update_self]
  have hother : ∀ {k : ℕ}, k ≠ a.call → t.pc k = s.pc k := fun hk => (step_frame ht hk).1
  have hsidn : ∀ {k : ℕ}, k ≠ a.call → t.sid k = s.sid k := fun hk => by
    unfold System.sid; rw [(step_frame ht hk).2]
  -- a building call has not started just now, so its session is the old one
  have hsid : ∀ {k : ℕ}, (t.pc k).inflight = true ∨ Failed (t.pc k) ∨
      (∃ c, (t.pc k).seen? = some c) → t.sid k = s.sid k := by
    intro k hk
    refine sid_of_step ht ?_ ?_
    · intro hl
      rw [hl] at hk
      rcases hk with hk | (hk | ⟨e, hk⟩) | ⟨c, hk⟩ <;> cases hk
    · intro hl
      rw [hl] at hk
      rcases hk with hk | (hk | ⟨e, hk⟩) | ⟨c, hk⟩ <;> cases hk
  have hback : ∀ i, t.sid i = sid → (t.pc i).inflight = true →
      (s.sid i = sid ∧ (s.pc i).inflight = true) ∨ (i = a.call ∧ Free sid s) := by
    intro i hi hfl
    rw [hsid (Or.inl hfl)] at hi
    rcases eq_or_ne i a.call with rfl | hne
    · rcases hm.inflight (hpc ▸ hfl) with hpi | ⟨rfl, hidle⟩
      · exact Or.inl ⟨hi, hp ▸ hpi⟩
      · exact Or.inr ⟨rfl, ((hG hi).2 hp).2 hidle⟩
    · exact Or.inl ⟨hi, hother hne ▸ hfl⟩
  refine ⟨fun i c hc hi htorn => ?_, fun c hc => ?_, fun i j hi hj hfi hfj => ?_,
    fun i hi hfi => ?_, fun i hi hfi k => ?_, fun i c e hi hc => ?_, fun i e hi hc => ?_⟩
  · rw [hsid (Or.inr (Or.inr ⟨c, hc⟩))] at hi
    rw [hq.lookup]
    rw [hq.torn] at htorn
    rcases eq_or_ne i a.call with rfl | hne
    · rcases hm.seen (hpc ▸ hc) with hl | hs
      · rw [← hi]; exact hl
      · exact h.current _ c (hp ▸ hs) hi htorn
    · exact h.current i c (hother hne ▸ hc) hi htorn
  · rw [hq.torn]
    exact h.untorn c (hq.active ▸ hc)
  · rcases hback i hi hfi with ⟨hi, hfi⟩ | ⟨rfl, hfree⟩
    · rcases hback j hj hfj with ⟨hj, hfj⟩ | ⟨rfl, hfree⟩
      · exact h.alone i j hi hj hfi hfj
      · rw [hfree.2 i hi] at hfi; cases hfi
    · rcases hback j hj hfj with ⟨hj, hfj⟩ | ⟨rfl, -⟩
      · rw [hfree.2 j hj] at hfj; cases hfj
      · rfl
  · rw [hq.lookup]
    rcases hback i hi hfi with ⟨hi, hfi⟩ | ⟨-, hfree⟩
    · exact h.vacant i hi hfi
    · exact hfree.1
  · rw [hsid (Or.inr (Or.inl hfi))] at hi
    rw [hq.torn]
    rcases eq_or_ne i a.call with rfl | hne
    · rcases hm.fails (hpc ▸ hfi) with hf | ⟨e, rfl⟩ | ⟨rfl, hidle⟩ | hloss
      · exact h.clean _ hi (hp ▸ hf) k
      · exact absurd hp (h.giving _ e hi)
      · exact ((hG hi).2 hp).1 hidle k
      · exact (hG hi).1 hloss k
    · exact h.clean i hi (hother hne ▸ hfi) k
  · rw [hsid (Or.inl (by rw [hc]; rfl))] at hi
    rcases eq_or_ne i a.call with rfl | hne
    · exact hm.not_closing (hpc.symm.trans hc)
    · exact h.closing i c e hi (hother hne ▸ hc)
  · rw [hsid (Or.inl (by rw [hc]; rfl))] at hi
    rcases eq_or_ne i a.call with rfl | hne
    · obtain ⟨c, rfl⟩ := hm.giveBack (hpc.symm.trans hc)
      exact h.closing _ c e hi hp
    · exact h.giving i e hi (hother hne ▸ hc)

/-! ### A connection is taken out -/

theorem Removes.inflight {k : After} (hr : Removes s t i c k) (h : (t.pc j).inflight = true) :
    (s.pc j).inflight = true := by
  rw [hr.pc] at h
  rcases eq_or_ne j i with rfl | hne
  · rw [update_self] at h
    rw [hr.place]
    cases k <;> exact h
  · rwa [update_of_ne hne] at h

/-- What is not torn down afterwards was not before, and is another connection. -/
theorem Removes.torn_none {k : After} (hr : Removes s t i c k) (h : t.torn c'.call = none) :
    s.torn c'.call = none ∧ c' ≠ c := by
  rw [hr.torn] at h
  rcases eq_or_ne c'.call c.call with hcc | hne
  · rw [hcc, update_self] at h
    cases h
  · rw [update_of_ne hne] at h
    exact ⟨h, fun hc => hne (hc ▸ rfl)⟩

theorem Removes.lookup {k : After} (hr : Removes s t i c k) (key : String) :
    t.state.activeSlots.lookup key = none ∨
      t.state.activeSlots.lookup key = s.state.activeSlots.lookup key := by
  rw [hr.active]
  rcases eq_or_ne key (s.sid i) with hs | hne
  · rw [hs]
    exact Or.inl (AList.lookup_erase _ _)
  · exact Or.inr (AList.lookup_erase_ne hne)

theorem Removes.lookup_of_ne {k : After} (hr : Removes s t i c k) (hne : c' ≠ c)
    (h : s.state.activeSlots.lookup sid = some c') : t.state.activeSlots.lookup sid = some c' := by
  rw [hr.active, AList.lookup_erase_ne]
  · exact h
  · rintro rfl
    rw [hr.entry] at h
    exact hne (Option.some.inj h).symm

/-- The entries that stay are those of other calls. -/
theorem Removes.lookup_some {k : After} (hw : WellFormed s) (hr : Removes s t i c k)
    (h : t.state.activeSlots.lookup sid = some c') :
    s.state.activeSlots.lookup sid = some c' ∧ c'.call ≠ c.call := by
  rw [hr.active] at h
  rcases eq_or_ne sid (s.sid i) with hs | hne
  · rw [hs, AList.lookup_erase] at h
    cases h
  · rw [AList.lookup_erase_ne hne] at h
    refine ⟨h, fun hcc => hne ?_⟩
    obtain ⟨hsess, hdone⟩ := hw.entry _ c' h
    obtain ⟨hsess', hdone'⟩ := hw.entry _ c hr.entry
    rw [hcc, hdone'] at hdone
    obtain rfl := Except.ok.inj (Pc.done.inj hdone)
    exact hsess.symm.trans hsess'

theorem sole_removes (hw : WellFormed s) (h : Sole sid s) (ht : step P s a = some t)
    {k : After} (hr : Removes s t a.call c k) : Sole sid t := by
  have hpc : t.pc a.call = .closing c k := by rw [hr.pc, update_self]
  have hother : ∀ {k : ℕ}, k ≠ a.call → t.pc k = s.pc k := fun hk => (step_frame ht hk).1
  have hsid : ∀ k, t.sid k = s.sid k := fun k => sid_congr hr.args
  refine ⟨fun i c' hc hi hto => ?_, fun c' hc => ?_, fun i j hi hj hfi hfj => ?_,
    fun i hi hfi => ?_, fun i hi hfi k' => ?_, fun i c' e hi hc => ?_, fun i e hi hc => ?_⟩
  · rw [hsid] at hi
    obtain ⟨hto, hne⟩ := hr.torn_none hto
    rcases eq_or_ne i a.call with rfl | hne'
    · rw [hpc] at hc; cases hc
    · exact hr.lookup_of_ne hne (h.current i c' (hother hne' ▸ hc) hi hto)
  · obtain ⟨hl, hne⟩ := hr.lookup_some hw hc
    rw [hr.torn, update_of_ne hne]
    exact h.untorn c' hl
  · rw [hsid] at hi hj
    exact h.alone i j hi hj (hr.inflight hfi) (hr.inflight hfj)
  · rw [hsid] at hi
    rcases hr.lookup sid with hn | he
    · exact hn
    · rw [he]
      exact h.vacant i hi (hr.inflight hfi)
  · rw [hsid] at hi
    rcases eq_or_ne i a.call with rfl | hne
    · -- a failing call finds no connection to remove
      have hpi : (s.pc a.call).inflight = true := by
        rw [hpc] at hfi
        rw [hr.place]
        rcases hfi with hf | ⟨e, he⟩
        · cases k <;> exact hf
        · cases he
      have hnone := h.vacant _ hi hpi
      rw [← hi, hr.entry] at hnone
      cases hnone
    · rw [hr.torn]
      rcases eq_or_ne k' c.call with rfl | hne'
      · rw [update_self]
        exact fun heq => hne (Option.some.inj heq).symm
      · rw [update_of_ne hne']
        exact h.clean i hi (hother hne ▸ hfi) k'
  · rw [hsid] at hi
    rcases eq_or_ne i a.call with rfl | hne
    · rw [hpc] at hc
      obtain ⟨rfl, rfl⟩ := Pc.closing.inj hc
      have hnone := h.vacant _ hi (by rw [hr.place]; rfl)
      rw [← hi, hr.entry] at hnone
      cases hnone
    · exact h.closing i c' e hi (hother hne ▸ hc)
  · rw [hsid] at hi
    rcases eq_or_ne i a.call with rfl | hne
    · rw [hpc] at hc; cases hc
    · exact h.giving i e hi (hother hne ▸ hc)

theorem sole_inserts (hw : WellFormed s) (h : Sole sid s) (ht : step P s a = some t)
    (hr : Inserts s t a.call c) : Sole sid t := by
  have hpc : t.pc a.call = .done (.ok c) := by rw [hr.pc, update_self]
  have hother : ∀ {k : ℕ}, k ≠ a.call → t.pc k = s.pc k := fun hk => (step_frame ht hk).1
  have hsid : ∀ k, t.sid k = s.sid k := fun k => sid_congr hr.args
  have hfl : (s.pc a.call).inflight = true := by rw [hr.place]; rfl
  obtain ⟨hcall, -⟩ := hw.built a.call c (by rw [hr.place]; rfl)
  have huntorn : s.torn c.call = none := by
    rw [hcall]
    by_contra hne
    obtain ⟨i, hi⟩ := Option.ne_none_iff_exists'.1 hne
    obtain ⟨c', -, hc'⟩ := hw.tears _ i hi
    rw [hr.place] at hc'
    cases hc'
  have hback : ∀ i, (t.pc i).inflight = true → i ≠ a.call ∧ (s.pc i).inflight = true := by
    intro i hi
    rcases eq_or_ne i a.call with rfl | hne
    · rw [hpc] at hi; cases hi
    · exact ⟨hne, hother hne ▸ hi⟩
  have hlook : s.sid a.call ≠ sid →
      t.state.activeSlots.lookup sid = s.state.activeSlots.lookup sid := fun hne => by
    rw [hr.active, AList.lookup_insert_ne hne.symm]
  have hself : s.sid a.call = sid → t.state.activeSlots.lookup sid = some c := fun hs => by
    rw [hr.active, hs, AList.lookup_insert]
  refine ⟨fun i c' hc hi hto => ?_, fun c' hc => ?_, fun i j hi hj hfi hfj => ?_,
    fun i hi hfi => ?_, fun i hi hfi k' => ?_, fun i c' e hi hc => ?_, fun i e hi hc => ?_⟩
  · rw [hsid] at hi
    rw [hr.torn] at hto
    rcases eq_or_ne i a.call with rfl | hne
    · rw [hpc] at hc
      obtain rfl := Option.some.inj hc
      exact hself hi
    · have hcur := h.current i c' (hother hne ▸ hc) hi hto
      by_cases hs : s.sid a.call = sid
      · rw [h.vacant _ hs hfl] at hcur
        cases hcur
      · rw [hlook hs]; exact hcur
  · rw [hr.torn]
    by_cases hs : s.sid a.call = sid
    · rw [hself hs] at hc
      obtain rfl := Option.some.inj hc
      exact huntorn
    · exact h.untorn c' (hlook hs ▸ hc)
  · rw [hsid] at hi hj
    exact h.alone i j hi hj (hback i hfi).2 (hback j hfj).2
  · rw [hsid] at hi
    obtain ⟨hne, hfi⟩ := hback i hfi
    by_cases hs : s.sid a.call = sid
    · exact absurd (h.alone i _ hi hs hfi hfl) hne
    · rw [hlook hs]; exact h.vacant i hi hfi
  · rw [hsid] at hi
    rw [hr.torn]
    rcases eq_or_ne i a.call with rfl | hne
    · rw [hpc] at hfi
      rcases hfi with hf | ⟨e, he⟩
      · cases hf
      · cases he
    · exact h.clean i hi (hother hne ▸ hfi) k'
  · rw [hsid] at hi
    rcases eq_or_ne i a.call with rfl | hne
    · rw [hpc] at hc; cases hc
    · exact h.closing i c' e hi (hother hne ▸ hc)
  · rw [hsid] at hi
    rcases eq_or_ne i a.call with rfl | hne
    · rw [hpc] at hc; cases hc
    · exact h.giving i e hi (hother hne ▸ hc)

/-- **Step lemma.** -/
theorem sole_step (s : System Cl σ) (a : Label) (t : System Cl σ)
    (h : WellFormed s ∧ Sole sid s) (hG : Sound sid s a) (ht : step P s a = some t) :
    WellFormed t ∧ Sole sid t := by
  refine ⟨wellFormed_step s a t h.1 ht, ?_⟩
  rcases step_cases ht with ⟨p, q, hp, hm, hq⟩ | ⟨c, k, hr⟩ | ⟨c, hr⟩
  · exact sole_quiet h.2 hG ht hp hm hq
  · exact sole_removes h.1 h.2 ht hr
  · exact sole_inserts h.1 h.2 ht hr

/-- **Run lemma.** -/
theorem sole_of_run {store : σ} (hG : Lts.Guarded (step P) (Sound sid) (init P store) as)
    (h : Lts.exec (step P) (init P store) as = some s) : WellFormed s ∧ Sole sid s :=
  Lts.inv_of_guarded (I := fun s => WellFormed s ∧ Sole sid s) sole_step
    ⟨wellFormed_init store, sole_init store⟩ hG h

end System

end SootheClient.Pool
