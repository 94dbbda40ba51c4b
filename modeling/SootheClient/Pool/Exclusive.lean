import SootheClient.Pool.Sessions

/-!
# Exclusive connections

`Exclusive` is the claim about one session: what was handed out and not torn down is the active
connection, and a failed call took down no connection that another call returned. It holds in the
runs whose steps are all `Sound`, and a step that is not can be continued to a state where it
fails.
-/

namespace SootheClient.Pool

open Function (update update_self update_of_ne)

variable {Cl σ : Type*}

namespace System

variable {P : ConnectionPool Cl σ} {s t u : System Cl σ} {a : Label} {as : List Label}
  {i j k : ℕ} {sid : String} {c c' : PooledConn Cl}

/-- A connection of the session that was returned and is not torn down is the active one; and a
call of the session that failed took down none that another call returned. -/
def Exclusive (sid : String) (s : System Cl σ) : Prop :=
  (∀ i c, s.pc i = .done (.ok c) → c.sessionId = sid → s.torn c.call = none →
    s.state.activeSlots.lookup sid = some c) ∧
  ∀ i e c, s.sid i = sid → s.pc i = .done (.error e) → s.torn c.call = some i →
    ∀ k ≠ i, s.pc k ≠ .done (.ok c)

theorem Sole.exclusive (hw : WellFormed s) (h : Sole sid s) : Exclusive sid s := by
  refine ⟨fun i c hi hc htorn => ?_, fun i e c hi he htorn => ?_⟩
  · have hseen : (s.pc i).seen? = some c := by rw [hi]; rfl
    exact h.current i c hseen ((hw.seen i c hseen).1.symm.trans hc) htorn
  · exact absurd htorn (h.clean i hi (Or.inr ⟨e, he⟩) c.call)

/-- Two connections of the session, neither torn down, are not exclusive. -/
theorem not_exclusive_of_two {d : PooledConn Cl} (hi : s.pc i = .done (.ok c))
    (hc : c.sessionId = sid) (htorn : s.torn c.call = none)
    (hactive : s.state.activeSlots.lookup sid = some d) (hne : c.call ≠ d.call) : ¬ Exclusive sid s := by
  rintro ⟨h, -⟩
  have := h i c hi hc htorn
  rw [hactive, Option.some.injEq] at this
  exact hne (by rw [this])

/-! ## A building call can always finish -/

/-- Steps of call `i` alone end with its insert. -/
def CanInsert (P : ConnectionPool Cl σ) (s : System Cl σ) (i : ℕ) : Prop :=
  ∃ as u c, Lts.exec (step P) s as = some u ∧ u.pc i = .done (.ok c) ∧
    c.call = i ∧ c.sessionId = s.sid i ∧ u.state.activeSlots.lookup (s.sid i) = some c ∧
    u.torn = s.torn ∧ u.args = s.args ∧ ∀ k ≠ i, u.pc k = s.pc k

/-- The step only moves call `i`. -/
structure Moves (s t : System Cl σ) (i : ℕ) : Prop where
  torn : t.torn = s.torn
  args : t.args = s.args
  others : ∀ k ≠ i, t.pc k = s.pc k

theorem Moves.goto {q : Pc Cl} : Moves s (s.goto i q) i :=
  ⟨rfl, rfl, fun _ hk => update_of_ne hk _ _⟩

theorem Moves.store {q : Pc Cl} {st : σ} : Moves s { s.goto i q with store := st } i :=
  ⟨rfl, rfl, fun _ hk => update_of_ne hk _ _⟩

theorem CanInsert.before (ha : step P s a = some t) (hm : Moves s t i) (h : CanInsert P t i) :
    CanInsert P s i := by
  obtain ⟨as, u, c, hu, hpc, hcall, hsess, hactive, htorn, hargs, hk⟩ := h
  rw [sid_congr hm.args] at hsess hactive
  exact ⟨a :: as, u, c, by rw [Lts.exec_cons_of_step ha, hu], hpc, hcall, hsess, hactive,
    htorn.trans hm.torn, hargs.trans hm.args, fun k hne => (hk k hne).trans (hm.others k hne)⟩

theorem canInsert_insert (hi : s.pc i = .insert c) (hc : c.call = i ∧ c.sessionId = s.sid i) :
    CanInsert P s i := by
  refine ⟨[.next i], { s.goto i (.done (.ok c)) with state := s.state.insert (s.sid i) c }, c,
    ?_, update_self _ _ _, hc.1, hc.2, AList.lookup_insert _, rfl, rfl,
    fun k hk => update_of_ne hk _ _⟩
  rw [Lts.exec_cons]
  simp [step, next, hi]

theorem canInsert_finish {loopId : String} (hi : s.pc i = .finish c loopId)
    (hc : c.call = i ∧ c.sessionId = s.sid i) : CanInsert P s i := by
  have ha : step P s (.next i) = some { s.goto i (.insert { c with loopId := loopId }) with
      store := P.store.updateLastUsed s.store (s.sid i) } := by simp [step, next, hi]
  exact CanInsert.before ha Moves.store (canInsert_insert (update_self _ _ _) hc)

theorem canInsert_write {loopId : String} {e : Bool} (hi : s.pc i = .write c loopId e)
    (hc : c.call = i ∧ c.sessionId = s.sid i) : CanInsert P s i := by
  have ha : step P s (.next i) = some { s.goto i (.finish c loopId) with
      store := s.writeStep P i loopId e } := by simp [step, next, hi]
  exact CanInsert.before ha Moves.store (canInsert_finish (update_self _ _ _) hc)

theorem canInsert_persist {loopId : String} (hi : s.pc i = .persist c loopId)
    (hc : c.call = i ∧ c.sessionId = s.sid i) : CanInsert P s i := by
  have ha : step P s (.next i) = some (s.goto i
      (.write c loopId (P.store.getSession s.store (s.sid i)).isSome)) := by simp [step, next, hi]
  exact CanInsert.before ha Moves.goto (canInsert_write (update_self _ _ _) hc)

theorem canInsert_bootstrap {fresh : Bool} (hi : s.pc i = .bootstrap c fresh)
    (hc : c.call = i ∧ c.sessionId = s.sid i) : CanInsert P s i := by
  have ha : step P s (.bootstrap i (.ok "loop-1")) = some (s.goto i (.persist c "loop-1")) := by
    simp [step, bootstrapPc, hi]
  exact CanInsert.before ha Moves.goto (canInsert_persist (update_self _ _ _) hc)

theorem canInsert_connect {fresh : Bool} (hi : s.pc i = .connect c fresh)
    (hc : c.call = i ∧ c.sessionId = s.sid i) : CanInsert P s i := by
  have ha : step P s (.connect i (.ok ())) = some (s.goto i (.bootstrap c fresh)) := by
    simp [step, connectPc, hi]
  exact CanInsert.before ha Moves.goto (canInsert_bootstrap (update_self _ _ _) hc)

theorem canInsert_resume {loopId : String} (hi : s.pc i = .resume c loopId)
    (hc : c.call = i ∧ c.sessionId = s.sid i) : CanInsert P s i := by
  have ha : step P s (.resume i true) = some (s.goto i (.finish c loopId)) := by
    simp [step, hi]
  exact CanInsert.before ha Moves.goto (canInsert_finish (update_self _ _ _) hc)

theorem canInsert_loopIdFor (hi : s.pc i = .loopIdFor c)
    (hc : c.call = i ∧ c.sessionId = s.sid i) : CanInsert P s i := by
  have ha : step P s (.next i) = some (s.goto i (s.loopPc P i c)) := by simp [step, next, hi]
  obtain hp | ⟨l, hp⟩ := loopPc_eq (P := P) (s := s) (i := i) (c := c)
  · rw [hp] at ha
    exact CanInsert.before ha Moves.goto (canInsert_connect (update_self _ _ _) hc)
  · rw [hp] at ha
    exact CanInsert.before ha Moves.goto (canInsert_resume (update_self _ _ _) hc)

theorem canInsert_assign {slot : IdleSlot Cl} (hi : s.pc i = .assign slot) : CanInsert P s i := by
  have ha : step P s (.next i) = some (s.assignStep i slot) := by simp [step, next, hi]
  have hm : Moves s (s.assignStep i slot) i := ⟨rfl, rfl, fun k hk => update_of_ne hk _ _⟩
  exact CanInsert.before ha hm (canInsert_loopIdFor (update_self _ _ _) ⟨rfl, rfl⟩)

theorem canInsert_of_building (hw : WellFormed s) (h : (s.pc i).building = true) :
    CanInsert P s i := by
  cases hi : s.pc i with
  | assign slot => exact canInsert_assign hi
  | loopIdFor c => exact canInsert_loopIdFor hi (hw.built i c (by rw [hi]; rfl))
  | connect c fresh => exact canInsert_connect hi (hw.built i c (by rw [hi]; rfl))
  | bootstrap c fresh => exact canInsert_bootstrap hi (hw.built i c (by rw [hi]; rfl))
  | resume c loopId => exact canInsert_resume hi (hw.built i c (by rw [hi]; rfl))
  | persist c loopId => exact canInsert_persist hi (hw.built i c (by rw [hi]; rfl))
  | write c loopId e => exact canInsert_write hi (hw.built i c (by rw [hi]; rfl))
  | finish c loopId => exact canInsert_finish hi (hw.built i c (by rw [hi]; rfl))
  | insert c => exact canInsert_insert hi (hw.built i c (by rw [hi]; rfl))
  | idle | lookup | check | touch | remove | closing | giveBack | pull | done | released =>
    rw [hi] at h
    cases h

theorem next_remove {k : After} (hi : s.pc i = .remove k) :
    s.next P i = some (s.removeStep i k) := by
  simp [next, hi]

theorem removeStep_of_none {k : After} (h : s.state.activeSlots.lookup (s.sid i) = none) :
    s.removeStep i k = s.goto i k.pc := by
  unfold removeStep
  rw [h]

/-- A failing call that finds an active connection takes it down. -/
theorem exists_takes_down {e : AcquireError} (hi : s.pc i = .remove (.fail e))
    (hc : s.state.activeSlots.lookup (s.sid i) = some c) :
    ∃ as u, Lts.exec (step P) s as = some u ∧ u.pc i = .done (.error e) ∧
      u.torn c.call = some i ∧ u.args = s.args ∧ ∀ k ≠ i, u.pc k = s.pc k := by
  let t : System Cl σ :=
    { s with
      state := s.state.remove (s.sid i)
      pc := update s.pc i (.closing c (.fail e))
      torn := update s.torn c.call (some i) }
  let u : System Cl σ :=
    { t.goto i (.giveBack (.fail e)) with closed := update t.closed c.call true }
  let v : System Cl σ :=
    { u.goto i (.done (.error e)) with
      state := u.state.trySend P.cfg.poolSize ⟨P.factory P.daemonUrl⟩ }
  have ht : step P s (.next i) = some t := by simp [step, next, hi, removeStep, hc, t]
  have hu : step P t (.next i) = some u := by simp [step, next, t, u]
  have hv : step P u (.next i) = some v := by simp [step, next, System.goto, u, v, After.pc]
  refine ⟨[.next i, .next i, .next i], v, ?_, update_self _ _ _, update_self _ _ _, rfl, ?_⟩
  · rw [Lts.exec_cons_of_step ht, Lts.exec_cons_of_step hu, Lts.exec_cons_of_step hv]
    rfl
  · intro k hk
    simp [System.goto, hk, t, u, v]

/-! ## A step that is not sound -/

theorem untorn_of_building (hw : WellFormed s) (hi : (s.pc i).building = true) :
    s.torn i = none := by
  by_contra hne
  obtain ⟨k, hk⟩ := Option.ne_none_iff_exists'.1 hne
  obtain ⟨c, -, hc⟩ := hw.tears i k hk
  rw [hc] at hi
  cases hi

/-- A building call can insert beside a connection of the session that is up. -/
theorem exists_not_exclusive_beside (hw : WellFormed s) (hb : (s.pc i).building = true)
    (hi : s.sid i = sid) (hc : s.pc c.call = .done (.ok c)) (hsess : c.sessionId = sid)
    (htorn : s.torn c.call = none) (hne : c.call ≠ i) :
    ∃ bs u, Lts.exec (step P) s bs = some u ∧ ¬ Exclusive sid u := by
  obtain ⟨bs, u, d, hu, -, hcall, -, hactive, htorn', -, hk⟩ :=
    canInsert_of_building (P := P) hw hb
  refine ⟨bs, u, hu, not_exclusive_of_two (c := c) (d := d) (i := c.call) ?_ hsess ?_ ?_ ?_⟩
  · rw [hk _ hne, hc]
  · rw [htorn', htorn]
  · rw [← hi]
    exact hactive
  · rw [hcall]
    exact hne

/-- The second of two building calls overwrites the entry of the first. -/
theorem exists_not_exclusive_of_two_building (hw : WellFormed s) (hb : (s.pc i).building = true)
    (hb' : (s.pc j).building = true) (hi : s.sid i = sid) (hj : s.sid j = sid) (hne : j ≠ i) :
    ∃ bs u, Lts.exec (step P) s bs = some u ∧ ¬ Exclusive sid u := by
  obtain ⟨as, u, c, hu, hdone, rfl, hsess, -, htorn, hargs, hk⟩ :=
    canInsert_of_building (P := P) hw hb'
  obtain ⟨bs, v, hv, hno⟩ := exists_not_exclusive_beside (P := P) (c := c)
    (Lts.inv_of_exec wellFormed_step hw hu) (by rw [hk i hne.symm]; exact hb)
    ((sid_congr hargs).trans hi) hdone (hsess.trans hj)
    (by rw [htorn]; exact untorn_of_building hw hb') hne
  exact ⟨as ++ bs, v, by rw [Lts.exec_append_of_exec hu, hv], hno⟩

/-- A failing call takes down the connection that a building call inserts. -/
theorem exists_not_exclusive_of_failing {e : AcquireError} (hw : WellFormed s)
    (hb : (s.pc i).building = true) (hrem : s.pc j = .remove (.fail e)) (hi : s.sid i = sid)
    (hj : s.sid j = sid) (hne : j ≠ i) :
    ∃ bs u, Lts.exec (step P) s bs = some u ∧ ¬ Exclusive sid u := by
  obtain ⟨as, u, c, hu, hdone, -, -, hactive, -, hargs, hk⟩ :=
    canInsert_of_building (P := P) hw hb
  have hlookup : u.state.activeSlots.lookup (u.sid j) = some c := by
    rw [sid_congr hargs, hj, ← hi]
    exact hactive
  obtain ⟨bs, v, hv, hfail, htorn, hargs', hk'⟩ :=
    exists_takes_down (P := P) ((hk j hne).trans hrem) hlookup
  refine ⟨as ++ bs, v, by rw [Lts.exec_append_of_exec hu, hv], ?_⟩
  rintro ⟨-, hno⟩
  refine hno j e c ?_ hfail htorn i hne.symm ?_
  · rw [sid_congr hargs', sid_congr hargs, hj]
  · rw [hk' i hne.symm, hdone]

/-- A failing call of the session that took nothing down is about to look for a connection. -/
theorem Sole.remove_of_failing (h : Sole sid s) (hj : s.sid j = sid)
    (hf : (s.pc j).failing = true) : ∃ e, s.pc j = .remove (.fail e) := by
  cases hp : s.pc j with
  | remove k | closing c k | giveBack k =>
    rw [hp] at hf
    cases k with
    | fail e =>
      first
      | exact ⟨e, rfl⟩
      | exact absurd hp (h.closing j _ e hj)
      | exact absurd hp (h.giving j e hj)
    | returned | pull => cases hf
  | _ =>
    rw [hp] at hf
    cases hf

/-- A slot was pulled while the session was not free. -/
theorem exists_not_exclusive_of_pull (hw : WellFormed s) (h : Sole sid s) (hi : s.sid i = sid)
    (hpull : s.pc i = .pull) (hidle : s.state.idle ≠ []) (hfree : ¬ Free sid s)
    (ht : step P s (.next i) = some t) :
    ∃ bs u, Lts.exec (step P) t bs = some u ∧ ¬ Exclusive sid u := by
  have hwt : WellFormed t := wellFormed_step s _ t hw ht
  obtain ⟨slot, rest, hcons⟩ := List.exists_cons_of_ne_nil hidle
  obtain rfl : { s with
      state := { s.state with idle := rest, idleCount := s.state.idleCount - 1 }
      pc := update s.pc i (.assign slot) } = t := by
    simpa only [step, next, hpull, pullStep, PoolState.tryRecv, hcons, Option.some.injEq] using ht
  have hb : (update s.pc i (.assign slot) i).building = true := by
    rw [update_self]
    rfl
  cases hl : s.state.activeSlots.lookup sid with
  | some c =>
    obtain ⟨hsess, hdone⟩ := hw.entry sid c hl
    have hci : c.call ≠ i := by
      intro hci
      rw [hci, hpull] at hdone
      cases hdone
    exact exists_not_exclusive_beside hwt hb hi ((update_of_ne hci _ _).trans hdone) hsess
      (h.untorn c hl) hci
  | none =>
    obtain ⟨j, hj, hfl⟩ : ∃ j, s.sid j = sid ∧ (s.pc j).inflight = true := by
      by_contra hno
      simp only [not_exists, not_and, Bool.not_eq_true] at hno
      exact hfree ⟨hl, hno⟩
    have hji : j ≠ i := by
      rintro rfl
      rw [hpull] at hfl
      cases hfl
    have hpcj : update s.pc i (.assign slot) j = s.pc j := update_of_ne hji _ _
    rw [Pc.inflight, Bool.or_eq_true] at hfl
    rcases hfl with hb' | hf
    · exact exists_not_exclusive_of_two_building hwt hb ((congrArg Pc.building hpcj).trans hb')
        hi hj hji
    · obtain ⟨e, hrem⟩ := h.remove_of_failing hj hf
      exact exists_not_exclusive_of_failing hwt hb (hpcj.trans hrem) hi hj hji

/-- A call that recycled a connection has failed. -/
theorem not_exclusive_of_unclean {e : AcquireError} (hw : WellFormed s) (hi : s.sid i = sid)
    (hfail : s.pc i = .done (.error e)) (hclean : ¬ s.Clean i) : ¬ Exclusive sid s := by
  unfold Clean at hclean
  simp only [not_forall, not_not] at hclean
  obtain ⟨k, hk⟩ := hclean
  obtain ⟨c, rfl, hc⟩ := hw.tears k i hk
  rintro ⟨-, hno⟩
  refine hno i e c hi hfail hk c.call ?_ hc
  intro hci
  rw [hci, hfail] at hc
  cases hc

/-- What a failed `connect` or bootstrap does. -/
theorem losesSlot_step (ha : a.losesSlot = true) (ht : step P s a = some t) :
    (s.pc a.call).building = true ∧ ∃ e q, (q = .done (.error e) ∨ q = .remove (.fail e)) ∧
      t = s.goto a.call q := by
  cases step_inv ht with
  | connect i c fresh r hi =>
    refine ⟨congrArg Pc.building hi, ?_⟩
    cases r with
    | ok => cases ha
    | error e =>
      cases fresh with
      | true => exact ⟨_, _, Or.inl rfl, rfl⟩
      | false => exact ⟨_, _, Or.inr rfl, rfl⟩
  | bootstrap i c fresh r hi =>
    refine ⟨congrArg Pc.building hi, ?_⟩
    cases r with
    | ok => cases ha
    | error e => exact ⟨_, _, Or.inr rfl, rfl⟩
  | acquire | release | missing | found | touch | absent | remove | closing | giveBack | exhausted
  | pull | assign | loopIdFor | persist | write | finish | insert | check | resume => cases ha

theorem exists_not_exclusive_of_fail (hw : WellFormed s) (h : Sole sid s)
    (hi : s.sid a.call = sid) (ha : a.losesSlot = true) (hclean : ¬ s.Clean a.call)
    (ht : step P s a = some t) :
    ∃ bs u, Lts.exec (step P) t bs = some u ∧ ¬ Exclusive sid u := by
  have hwt : WellFormed t := wellFormed_step s a t hw ht
  obtain ⟨hb, e, q, hq, rfl⟩ := losesSlot_step ha ht
  rcases hq with rfl | rfl
  · exact ⟨[], _, rfl, not_exclusive_of_unclean hwt hi (update_self _ _ _) hclean⟩
  · -- the release finds no active connection
    have hnone := h.vacant a.call hi (by rw [Pc.inflight, hb, Bool.true_or])
    have hu : step P (s.goto a.call (.remove (.fail e))) (.next a.call) =
        some ((s.goto a.call (.remove (.fail e))).goto a.call (.done (.error e))) := by
      rw [step, next_remove (update_self _ _ _), removeStep_of_none]
      · rfl
      · rw [← hi] at hnone
        exact hnone
    refine ⟨[.next a.call], _, by rw [Lts.exec_cons_of_step hu]; rfl, ?_⟩
    exact not_exclusive_of_unclean (wellFormed_step _ _ _ hwt hu) hi (update_self _ _ _) hclean

theorem exists_not_exclusive (hw : WellFormed s) (h : Sole sid s) (hG : ¬ Sound sid s a)
    (ht : step P s a = some t) :
    ∃ bs u, Lts.exec (step P) t bs = some u ∧ ¬ Exclusive sid u := by
  simp only [Sound, Classical.not_imp, not_and_or] at hG
  obtain ⟨hi, ⟨ha, hclean⟩ | ⟨hpull, hbad⟩⟩ := hG
  · exact exists_not_exclusive_of_fail hw h hi ha hclean ht
  · obtain ⟨i, rfl⟩ : ∃ i, a = .next i := by
      cases a with
      | next i => exact ⟨i, rfl⟩
      | _ =>
        simp only [step] at ht
        rw [Label.call] at hpull
        simp only [hpull] at ht
        cases ht
    rcases hbad with ⟨hidle, hclean⟩ | ⟨hidle, hfree⟩
    · have htt : t = s.goto i (.done (.error .exhausted)) := by
        rw [Label.call] at hpull
        simp only [step, next, hpull, pullStep, PoolState.tryRecv, hidle, Option.some.injEq] at ht
        exact ht.symm
      refine ⟨[], t, rfl, ?_⟩
      refine not_exclusive_of_unclean (i := i) (e := .exhausted) (wellFormed_step _ _ _ hw ht) ?_
        ?_ ?_
      · rw [htt]; exact hi
      · rw [htt]; exact update_self _ _ _
      · rw [htt]; exact hclean
    · exact exists_not_exclusive_of_pull hw h hi hpull hidle hfree ht

/-- **One active slot per session.** In a run whose steps are all sound the session's connections
are exclusive; and a step that is not sound, from any such run, opens a run in which they are
not. -/
theorem one_active_slot (P : ConnectionPool Cl σ) (store : σ) (sid : String) :
    (∀ as s, Lts.Guarded (step P) (Sound sid) (init P store) as →
      Lts.exec (step P) (init P store) as = some s → Exclusive sid s) ∧
    ∀ as s a t, Lts.Guarded (step P) (Sound sid) (init P store) as →
      Lts.exec (step P) (init P store) as = some s → ¬ Sound sid s a → step P s a = some t →
      ∃ bs u, Lts.exec (step P) t bs = some u ∧ ¬ Exclusive sid u := by
  refine ⟨fun as s hG hs => ?_, fun as s a t hG hs hbad ht => ?_⟩
  · obtain ⟨hw, h⟩ := sole_of_run hG hs
    exact h.exclusive hw
  · obtain ⟨hw, h⟩ := sole_of_run hG hs
    exact exists_not_exclusive hw h hbad ht

/-- Two calls look up the session, and the first pulls a slot. -/
def pulledRun : List Label :=
  [.acquire 0 { sessionId := "s1" }, .acquire 1 { sessionId := "s1" }, .next 0, .next 1, .next 0]

/-- A pool of two slots over the process-local store. -/
def twoSlots : ConnectionPool String (StrMap LoopSessionEntry) :=
  .new "ws://127.0.0.1:8765" inMemoryLoopSessionStore { poolSize := 2 } id

theorem sound_of_ne (ha : a.losesSlot = false) (hp : s.pc a.call ≠ .pull) : Sound sid s a :=
  fun _ => ⟨fun h => absurd h (by simp [ha]), fun h => absurd h hp⟩

theorem guarded_pulledRun :
    Lts.Guarded (step twoSlots) (Sound "s1") (init twoSlots ∅) pulledRun := by
  refine Lts.guarded_cons (sound_of_ne rfl ?_) rfl (Lts.guarded_cons (sound_of_ne rfl ?_) rfl
    (Lts.guarded_cons (sound_of_ne rfl ?_) rfl (Lts.guarded_cons (sound_of_ne rfl ?_) rfl
      (Lts.guarded_cons (fun _ => ⟨fun h => ?_, fun _ => ⟨fun h => ?_, fun _ => ⟨rfl, ?_⟩⟩⟩) rfl
        trivial))))
  · rintro ⟨⟩
  · rintro ⟨⟩
  · rintro ⟨⟩
  · rintro ⟨⟩
  · cases h
  · cases h
  · intro j _
    match j with
    | 0 => rfl
    | 1 => rfl
    | _ + 2 => rfl

theorem exec_pulledRun : ∃ s, Lts.exec (step twoSlots) (init twoSlots ∅) pulledRun = some s ∧
    s.sid 1 = "s1" ∧ s.pc 1 = .pull ∧ s.state.idle.length = 1 ∧ s.sid 0 = "s1" ∧
    (s.pc 0).inflight = true :=
  ⟨_, rfl, rfl, rfl, rfl, rfl, rfl⟩

/-- The condition at work: the second call pulls a slot too. -/
theorem one_active_slot_pulled :
    ∃ s t, Lts.exec (step twoSlots) (init twoSlots ∅) pulledRun = some s ∧ Exclusive "s1" s ∧
      step twoSlots s (.next 1) = some t ∧
      ∃ bs u, Lts.exec (step twoSlots) t bs = some u ∧ ¬ Exclusive "s1" u := by
  obtain ⟨s, hs, hsid, hpull, hidle, hsid0, hfl⟩ := exec_pulledRun
  have hstep : step twoSlots s (.next 1) = some (s.pullStep 1) := by simp [step, next, hpull]
  refine ⟨s, _, hs, (one_active_slot twoSlots ∅ "s1").1 _ s guarded_pulledRun hs, hstep,
    (one_active_slot twoSlots ∅ "s1").2 _ s (.next 1) _ guarded_pulledRun hs ?_ hstep⟩
  intro hsound
  have hne : s.state.idle ≠ [] := by
    intro hnil
    rw [hnil] at hidle
    cases hidle
  have hfree := ((hsound hsid).2 hpull).2 hne
  rw [hfree.2 0 hsid0] at hfl
  cases hfl

/-- Both calls finish. -/
def overwritingRun : List Label :=
  pulledRun ++ [.next 1, .next 0, .next 1, .next 0, .next 1, .connect 0 (.ok ()),
    .connect 1 (.ok ()), .bootstrap 0 (.ok "loop-1"), .bootstrap 1 (.ok "loop-2"), .next 0,
    .next 0, .next 0, .next 0, .next 1, .next 1, .next 1, .next 1]

theorem one_active_slot_fails :
    ¬ ∀ (P : ConnectionPool String (StrMap LoopSessionEntry)) (store : StrMap LoopSessionEntry)
      (sid : String) (as : List Label) (s : System String (StrMap LoopSessionEntry)),
      Lts.exec (step P) (init P store) as = some s → Exclusive sid s := by
  intro h
  obtain ⟨s, c, c', hs, hc, hc', hsess, htorn, h0, h1⟩ : ∃ s c c',
      Lts.exec (step twoSlots) (init twoSlots ∅) overwritingRun = some s ∧
        s.pc 0 = .done (.ok c) ∧ s.state.activeSlots.lookup "s1" = some c' ∧ c.sessionId = "s1" ∧
        s.torn c.call = none ∧ c.call = 0 ∧ c'.call = 1 :=
    ⟨_, _, _, rfl, rfl, rfl, rfl, rfl, rfl, rfl⟩
  exact not_exclusive_of_two hc hsess htorn hc' (by rw [h0, h1]; decide) (h twoSlots ∅ "s1" _ s hs)

end System

end SootheClient.Pool
