import SootheClient.Pool.Binding

/-!
# Resetting a session

`reset_session` takes the connection of a session down and leaves the store alone. So whether the
next `acquire` reattaches is up to the stored loop id: it bootstraps a new loop for sure only when
there is none to resume, or when it gets no slot at all.
-/

namespace SootheClient.Pool

open Function (update update_self update_of_ne)

variable {Cl σ : Type*}

namespace System

/-- Whatever the network does, an `acquire` from `u` does not reattach to a loop; and when it returns
a connection, it has bootstrapped the loop of the connection and stored its id. -/
def Resets (P : ConnectionPool Cl σ) (u : System Cl σ) (i : ℕ) (args : Args) : Prop :=
  ∀ cs t, (∀ a ∈ cs, a.call = i) → Lts.exec (step P) u (.acquire i args :: cs) = some t →
    Label.resume i true ∉ cs ∧
      ∀ c, t.pc i = .done (.ok c) →
        Label.bootstrap i (.ok c.loopId) ∈ cs ∧
          stored P t.store args.sessionId = some c.loopId

/-- The pool's state after a `reset_session`. -/
def resetState (P : ConnectionPool Cl σ) (s : System Cl σ) (key : String) : PoolState Cl :=
  match s.state.activeSlots.lookup key with
  | none => s.state
  | some _ => (s.state.remove key).trySend P.cfg.poolSize ⟨P.factory P.daemonUrl⟩

/-- Where a `reset_session` that began in `s` is. -/
def ResetPlace (P : ConnectionPool Cl σ) (s : System Cl σ) (key : String) (st : PoolState Cl) :
    Pc Cl → Prop
  | .remove .returned => st = s.state
  | .closing _ .returned | .giveBack .returned =>
    (s.state.activeSlots.lookup key).isSome ∧ st = s.state.remove key
  | .released => st = resetState P s key
  | _ => False

/-- A `reset_session` by call `j`, which began in `s`, has come to `v`. -/
structure Resetting (P : ConnectionPool Cl σ) (s : System Cl σ) (j : ℕ) (key : String)
    (v : System Cl σ) : Prop where
  session : v.sid j = key
  store : v.store = s.store
  others : ∀ k ≠ j, v.pc k = s.pc k
  place : ResetPlace P s key v.state (v.pc j)

/-- What holds at each place of an `acquire` that finds no loop to resume, or no slot; `cs` are its
labels so far. -/
def FreshPlace (P : ConnectionPool Cl σ) (i : ℕ) (key : String) (cs : List Label)
    (st : PoolState Cl) (store : σ) : Pc Cl → Prop
  | .lookup | .pull =>
    st.activeSlots.lookup key = none ∧ (P.loopIdFor store key = ("", false) ∨ st.idle = [])
  | .assign _ | .loopIdFor _ =>
    st.activeSlots.lookup key = none ∧ P.loopIdFor store key = ("", false)
  | .connect _ true | .bootstrap _ true | .remove (.fail _) => st.activeSlots.lookup key = none
  | .persist _ l => Label.bootstrap i (.ok l) ∈ cs
  | .write _ l exists_ =>
    Label.bootstrap i (.ok l) ∈ cs ∧ exists_ = (P.store.getSession store key).isSome
  | .finish _ l => Label.bootstrap i (.ok l) ∈ cs ∧ stored P store key = some l
  | .insert c | .done (.ok c) =>
    Label.bootstrap i (.ok c.loopId) ∈ cs ∧ stored P store key = some c.loopId
  | .done (.error _) => True
  | _ => False

/-- An `acquire` by call `i` that has taken the steps `cs` to `v`. -/
structure Freshly (P : ConnectionPool Cl σ) (i : ℕ) (key : String) (cs : List Label)
    (v : System Cl σ) : Prop where
  session : v.sid i = key
  clean : Label.resume i true ∉ cs
  place : FreshPlace P i key cs v.state v.store (v.pc i)

variable {P : ConnectionPool Cl σ} {s t u v : System Cl σ} {a : Label} {as bs cs : List Label}
  {i j k : ℕ} {key l : String} {c : PooledConn Cl} {args : Args}

/-! ## The reset -/

theorem Resetting.goto (h : Resetting P s j key v) {p : Pc Cl} {d : ℕ → Bool} {w : PoolState Cl}
    (hplace : ResetPlace P s key w p) :
    Resetting P s j key { v.goto j p with closed := d, state := w } where
  session := h.session
  store := h.store
  others k hk := (update_of_ne hk _ _).trans (h.others k hk)
  place := by
    show ResetPlace P s key w (update v.pc j p j)
    rw [update_self]
    exact hplace

theorem resetting_release (ht : step P s (.release j key) = some t) : Resetting P s j key t := by
  cases step_inv ht with
  | release _ _ hj =>
    refine ⟨?_, rfl, fun k hk => update_of_ne hk _ _, ?_⟩
    · exact congrArg Args.sessionId (update_self j { sessionId := key } s.args)
    · show ResetPlace P s key s.state (update s.pc j (.remove .returned) j)
      rw [update_self]
      exact rfl

theorem resetState_none (h : s.state.activeSlots.lookup key = none) :
    resetState P s key = s.state := by
  unfold resetState
  rw [h]

theorem resetState_some (h : (s.state.activeSlots.lookup key).isSome = true) :
    resetState P s key =
      (s.state.remove key).trySend P.cfg.poolSize ⟨P.factory P.daemonUrl⟩ := by
  obtain ⟨c, hc⟩ := Option.isSome_iff_exists.1 h
  unfold resetState
  rw [hc]

/-- **Step lemma.** -/
theorem resetting_step (h : Resetting P s j key v) (ha : a.call = j) (ht : step P v a = some t) :
    Resetting P s j key t := by
  have hplace := h.place
  cases step_inv ht with
  | absent k l hj hl =>
    obtain rfl : k = j := ha
    rw [hj] at hplace
    rw [h.session] at hl
    cases l with
    | returned =>
      have hsame : v.state = s.state := hplace
      rw [hsame] at hl
      exact h.goto (d := v.closed) (w := v.state) (p := .released)
        (hsame.trans (resetState_none hl).symm)
    | pull => exact absurd hplace id
    | fail e => exact absurd hplace id
  | remove k c l hj hl =>
    obtain rfl : k = j := ha
    rw [hj] at hplace
    rw [h.session] at hl ⊢
    cases l with
    | returned =>
      have hsame : v.state = s.state := hplace
      rw [hsame] at hl ⊢
      have hgone := h.goto (d := v.closed) (p := .closing c .returned) (w := s.state.remove key)
        ⟨by rw [hl]; rfl, rfl⟩
      exact ⟨hgone.session, hgone.store, hgone.others, hgone.place⟩
    | pull => exact absurd hplace id
    | fail e => exact absurd hplace id
  | closing k c l hj =>
    obtain rfl : k = j := ha
    rw [hj] at hplace
    cases l with
    | returned => exact h.goto (w := v.state) (p := .giveBack .returned) hplace
    | pull => exact absurd hplace id
    | fail e => exact absurd hplace id
  | giveBack k l hj =>
    obtain rfl : k = j := ha
    rw [hj] at hplace
    cases l with
    | returned =>
      have hgone : _ ∧ v.state = s.state.remove key := hplace
      refine h.goto (d := v.closed) (p := .released) ?_
      show _ = resetState P s key
      rw [hgone.2, resetState_some hgone.1]
    | pull => exact absurd hplace id
    | fail e => exact absurd hplace id
  | acquire k _ hj | release k _ hj | missing k hj | found k _ hj | touch k _ hj | exhausted k hj
  | pull k _ _ hj | assign k _ hj | loopIdFor k _ hj | persist k _ _ hj | write k _ _ _ hj
  | finish k _ _ hj | insert k _ hj | check k _ _ _ hj | connect k _ _ _ hj | bootstrap k _ _ _ hj
  | resume k _ _ _ hj =>
    obtain rfl : k = j := ha
    rw [hj] at hplace
    exact absurd hplace id

theorem resetting_exec (h : Resetting P s j key v) (hbs : ∀ a ∈ bs, a.call = j)
    (hu : Lts.exec (step P) v bs = some u) : Resetting P s j key u := by
  have hG : Lts.Guarded (step P) (fun _ a => a.call = j) v bs := Lts.guarded_of_labels hbs
  exact Lts.inv_of_guarded (fun _ _ _ h ha hs => resetting_step h ha hs) h hG hu

/-- After a reset the session has no connection. -/
theorem resetState_lookup : (resetState P s key).activeSlots.lookup key = none := by
  cases hl : s.state.activeSlots.lookup key with
  | none => rw [resetState_none hl, hl]
  | some c =>
    rw [resetState_some (by rw [hl]; rfl), trySend_activeSlots]
    exact AList.lookup_erase _ _

/-- It leaves no idle slot when there was none and the session had none to give back. -/
theorem resetState_idle (hsize : 0 < P.cfg.poolSize) : (resetState P s key).idle = [] ↔
    s.state.idle = [] ∧ s.state.activeSlots.lookup key = none := by
  cases hl : s.state.activeSlots.lookup key with
  | none =>
    rw [resetState_none hl]
    exact (and_iff_left rfl).symm
  | some c =>
    rw [resetState_some (by rw [hl]; rfl)]
    refine ⟨fun hidle => ?_, fun h => absurd h.2 (Option.some_ne_none c)⟩
    unfold PoolState.trySend at hidle
    split_ifs at hidle with hroom
    · exact absurd hidle (List.append_ne_nil_of_right_ne_nil _ (List.cons_ne_nil _ _))
    · rw [hidle] at hroom
      exact absurd hsize hroom

/-! ## The next acquire -/

theorem Freshly.goto (h : Freshly P i key cs v) (ha : a ≠ .resume i true) {p : Pc Cl}
    {w : PoolState Cl} {m : σ} (hplace : FreshPlace P i key (cs ++ [a]) w m p) :
    Freshly P i key (cs ++ [a]) { v.goto i p with state := w, store := m } where
  session := h.session
  clean hmem := (List.mem_append.1 hmem).elim h.clean fun hc => ha (List.mem_singleton.1 hc).symm
  place := by
    show FreshPlace P i key (cs ++ [a]) w m (update v.pc i p i)
    rw [update_self]
    exact hplace

theorem freshly_acquire (ht : step P u (.acquire i args) = some t)
    (hnone : u.state.activeSlots.lookup args.sessionId = none)
    (hbarred : P.loopIdFor u.store args.sessionId = ("", false) ∨ u.state.idle = []) :
    Freshly P i args.sessionId [] t := by
  cases step_inv ht with
  | acquire _ _ hi =>
    refine ⟨?_, List.not_mem_nil, ?_⟩
    · exact congrArg Args.sessionId (update_self i args u.args)
    · show FreshPlace P i args.sessionId [] u.state u.store (update u.pc i .lookup i)
      rw [update_self]
      exact ⟨hnone, hbarred⟩

/-- **Step lemma.** -/
theorem freshly_step (hS : Lawful P.store) (h : Freshly P i key cs v) (ha : a.call = i)
    (ht : step P v a = some t) : Freshly P i key (cs ++ [a]) t := by
  have hplace := h.place
  cases step_inv ht with
  | missing k hi hl =>
    obtain rfl : k = i := ha
    rw [hi] at hplace
    exact h.goto (a := .next k) nofun (w := v.state) (m := v.store) (p := .pull) hplace
  | found k c hi hl =>
    obtain rfl : k = i := ha
    rw [hi] at hplace
    rw [h.session, hplace.1] at hl
    cases hl
  | absent k l hi hl =>
    obtain rfl : k = i := ha
    rw [hi] at hplace
    cases l with
    | returned => exact absurd hplace id
    | pull => exact absurd hplace id
    | fail e =>
      exact h.goto (a := .next k) nofun (w := v.state) (m := v.store) (p := .done (.error e)) trivial
  | remove k c l hi hl =>
    obtain rfl : k = i := ha
    rw [hi] at hplace
    rw [h.session] at hl
    cases l with
    | returned => exact absurd hplace id
    | pull => exact absurd hplace id
    | fail e =>
      have hnone : v.state.activeSlots.lookup key = none := hplace
      rw [hnone] at hl
      cases hl
  | exhausted k hi hidle =>
    obtain rfl : k = i := ha
    exact h.goto (a := .next k) nofun (w := v.state) (m := v.store)
      (p := .done (.error .exhausted)) trivial
  | pull k slot rest hi hidle =>
    obtain rfl : k = i := ha
    rw [hi] at hplace
    obtain ⟨hnone, hbarred⟩ := hplace
    rw [hidle] at hbarred
    have hfresh := hbarred.resolve_right (List.cons_ne_nil _ _)
    have hgo := h.goto (a := .next k) (p := .assign slot) (m := v.store) nofun
      (w := { v.state with idle := rest, idleCount := v.state.idleCount - 1 }) ⟨hnone, hfresh⟩
    exact ⟨hgo.session, hgo.clean, hgo.place⟩
  | assign k slot hi =>
    obtain rfl : k = i := ha
    rw [hi] at hplace
    exact h.goto (a := .next k) nofun (m := v.store) (p := .loopIdFor _) hplace
  | loopIdFor k c hi =>
    obtain rfl : k = i := ha
    rw [hi] at hplace
    rw [loopPc_fresh (by rw [h.session]; exact hplace.2)]
    exact h.goto (a := .next k) nofun (w := v.state) (m := v.store) (p := .connect c true) hplace.1
  | persist k c l hi =>
    obtain rfl : k = i := ha
    rw [hi] at hplace
    refine h.goto (a := .next k) nofun (w := v.state) (m := v.store) (p := .write c l _)
      ⟨List.mem_append_left _ hplace, ?_⟩
    rw [h.session]
  | write k c l exists_ hi =>
    obtain rfl : k = i := ha
    rw [hi] at hplace
    refine h.goto (a := .next k) nofun (w := v.state) (p := .finish c l)
      ⟨List.mem_append_left _ hplace.1, ?_⟩
    rw [← h.session]
    exact stored_writeStep hS (by rw [h.session]; exact hplace.2)
  | finish k c l hi =>
    obtain rfl : k = i := ha
    rw [hi] at hplace
    exact h.goto (a := .next k) nofun (w := v.state) (p := .insert { c with loopId := l })
      ⟨List.mem_append_left _ hplace.1, hS.touched.trans hplace.2⟩
  | insert k c hi =>
    obtain rfl : k = i := ha
    rw [hi] at hplace
    exact h.goto (a := .next k) nofun (m := v.store) (p := .done (.ok c))
      ⟨List.mem_append_left _ hplace.1, hplace.2⟩
  | connect k c fresh r hi =>
    obtain rfl : k = i := ha
    rw [hi] at hplace
    refine h.goto (a := .connect k r) nofun (w := v.state) (m := v.store) ?_
    cases fresh with
    | false => exact absurd hplace id
    | true =>
      cases r with
      | ok u => exact hplace
      | error e => exact trivial
  | bootstrap k c fresh r hi =>
    obtain rfl : k = i := ha
    rw [hi] at hplace
    refine h.goto (a := .bootstrap k r) nofun (w := v.state) (m := v.store) ?_
    cases fresh with
    | false => exact absurd hplace id
    | true =>
      cases r with
      | ok l => exact List.mem_append_right _ List.mem_cons_self
      | error e => exact hplace
  | acquire k _ hi | release k _ hi | touch k _ hi | closing k _ _ hi | giveBack k _ hi
  | check k _ _ _ hi | resume k _ _ _ hi =>
    obtain rfl : k = i := ha
    rw [hi] at hplace
    exact absurd hplace id

/-- Without a loop to resume, or without a slot, the next `acquire` starts afresh. -/
theorem resets_of_barred (hS : Lawful P.store)
    (hnone : u.state.activeSlots.lookup args.sessionId = none)
    (hbarred : P.loopIdFor u.store args.sessionId = ("", false) ∨ u.state.idle = []) :
    Resets P u i args := by
  intro cs t hcs ht
  obtain ⟨v, hv, ht⟩ := Lts.exec_cons_eq_some.1 ht
  have hfreshly : Freshly P i args.sessionId cs t :=
    Lts.trace_inv_of_guarded (I := fun cs v => Freshly P i args.sessionId cs v)
      (fun _ _ _ _ h ha hstep => freshly_step hS h ha hstep) (freshly_acquire hv hnone hbarred)
      (Lts.guarded_of_labels hcs) ht
  refine ⟨hfreshly.clean, fun c hc => ?_⟩
  have hplace := hfreshly.place
  rw [hc] at hplace
  exact hplace

/-! ## Courses -/

/-- Steps of call `i` alone lead to a state with `G`. -/
def Leads (P : ConnectionPool Cl σ) (v : System Cl σ) (i : ℕ)
    (G : List Label → System Cl σ → Prop) : Prop :=
  ∃ as u, (∀ a ∈ as, a.call = i) ∧ Lts.exec (step P) v as = some u ∧ G as u

theorem Leads.before {G G' : List Label → System Cl σ → Prop} (ht : step P v a = some t)
    (ha : a.call = i) (hG : ∀ as u, G as u → G' (a :: as) u) (h : Leads P t i G) :
    Leads P v i G' := by
  obtain ⟨as, u, has, hu, hg⟩ := h
  exact ⟨a :: as, u, List.forall_mem_cons.2 ⟨ha, has⟩, (Lts.exec_cons_of_step ht).trans hu,
    hG as u hg⟩

/-- The call has returned from its `release`. -/
def Ended (j : ℕ) (_ : List Label) (u : System Cl σ) : Prop := u.pc j = .released

/-- The call has reattached. -/
def Resumed (i : ℕ) (as : List Label) (_ : System Cl σ) : Prop := Label.resume i true ∈ as

theorem leads_giveBack (hj : v.pc j = .giveBack .returned) : Leads P v j (Ended j) := by
  refine ⟨[.next j], { v.goto j .released with
    state := v.state.trySend P.cfg.poolSize ⟨P.factory P.daemonUrl⟩ }, ?_, ?_, update_self _ _ _⟩
  · exact List.forall_mem_singleton.2 rfl
  · rw [Lts.exec_cons]
    simp [step, next, hj, After.pc]

theorem leads_closing (hj : v.pc j = .closing c .returned) : Leads P v j (Ended j) := by
  have hstep : step P v (.next j) =
      some { v.goto j (.giveBack .returned) with closed := update v.closed c.call true } := by
    simp [step, next, hj]
  exact Leads.before hstep rfl (fun _ _ h => h) (leads_giveBack (update_self _ _ _))

theorem leads_remove (hj : v.pc j = .remove .returned) : Leads P v j (Ended j) := by
  have hstep : step P v (.next j) = some (v.removeStep j .returned) := by simp [step, next, hj]
  refine Leads.before hstep rfl (fun _ _ h => h) ?_
  unfold System.removeStep
  cases v.state.activeSlots.lookup (v.sid j) with
  | none => exact ⟨[], _, nofun, rfl, update_self _ _ _⟩
  | some c => exact leads_closing (update_self _ _ _)

/-- A `reset_session` can run to its end. -/
theorem exists_reset (P : ConnectionPool Cl σ) (key : String) (hj : s.pc j = .idle) :
    ∃ bs u, (∀ a ∈ bs, a.call = j) ∧
      Lts.exec (step P) s (.release j key :: bs) = some u ∧ u.pc j = .released := by
  have hstep : step P s (.release j key) = some
      { s.goto j (.remove .returned) with args := update s.args j { sessionId := key } } := by
    simp [step, hj]
  obtain ⟨bs, u, hbs, hu, hend⟩ := leads_remove (P := P) (j := j)
    (v := { s.goto j (.remove .returned) with args := update s.args j { sessionId := key } })
    (update_self _ _ _)
  exact ⟨bs, u, hbs, (Lts.exec_cons_of_step hstep).trans hu, hend⟩

theorem leads_resume (hi : v.pc i = .resume c l) : Leads P v i (Resumed i) := by
  refine ⟨[.resume i true], v.goto i (.finish c l), List.forall_mem_singleton.2 rfl, ?_,
    List.mem_cons_self⟩
  rw [Lts.exec_cons]
  simp [step, hi]

theorem resumed_cons (as : List Label) (u : System Cl σ) (h : Resumed i as u) :
    Resumed i (a :: as) u :=
  List.mem_cons_of_mem a h

theorem leads_loopIdFor (hi : v.pc i = .loopIdFor c)
    (hloop : P.loopIdFor v.store (v.sid i) = (l, true))
    (hne : l ≠ "") : Leads P v i (Resumed i) := by
  have hstep : step P v (.next i) = some (v.goto i (v.loopPc P i c)) := by simp [step, next, hi]
  rw [loopPc_stored hloop hne] at hstep
  exact Leads.before hstep rfl resumed_cons (leads_resume (update_self _ _ _))

theorem leads_assign {slot : IdleSlot Cl} (hi : v.pc i = .assign slot)
    (hloop : P.loopIdFor v.store (v.sid i) = (l, true)) (hne : l ≠ "") :
    Leads P v i (Resumed i) := by
  have hstep : step P v (.next i) = some (v.assignStep i slot) := by simp [step, next, hi]
  exact Leads.before hstep rfl resumed_cons (leads_loopIdFor (update_self _ _ _) hloop hne)

theorem leads_pull (hi : v.pc i = .pull) (hidle : v.state.idle ≠ [])
    (hloop : P.loopIdFor v.store (v.sid i) = (l, true)) (hne : l ≠ "") :
    Leads P v i (Resumed i) := by
  have hstep : step P v (.next i) = some (v.pullStep i) := by simp [step, next, hi]
  refine Leads.before hstep rfl resumed_cons ?_
  obtain ⟨slot, rest, hcons⟩ := List.exists_cons_of_ne_nil hidle
  unfold System.pullStep PoolState.tryRecv
  rw [hcons]
  exact leads_assign (update_self _ _ _) hloop hne

theorem leads_lookup (hi : v.pc i = .lookup)
    (hnone : v.state.activeSlots.lookup (v.sid i) = none) (hidle : v.state.idle ≠ [])
    (hloop : P.loopIdFor v.store (v.sid i) = (l, true)) (hne : l ≠ "") :
    Leads P v i (Resumed i) := by
  have hstep : step P v (.next i) = some (v.goto i .pull) := by
    simp [step, next, hi, lookupPc, hnone]
  exact Leads.before hstep rfl resumed_cons (leads_pull (update_self _ _ _) hidle hloop hne)

/-- With a loop to resume and a slot, an `acquire` without an active connection can reattach. -/
theorem exists_resume (hi : u.pc i = .idle)
    (hnone : u.state.activeSlots.lookup args.sessionId = none) (hidle : u.state.idle ≠ [])
    (hloop : P.loopIdFor u.store args.sessionId = (l, true)) (hne : l ≠ "") :
    ¬ Resets P u i args := by
  have hstep : step P u (.acquire i args) =
      some { u.goto i .lookup with args := update u.args i args } := by simp [step, hi]
  have hsid : ({ u.goto i .lookup with args := update u.args i args } : System Cl σ).sid i =
      args.sessionId := congrArg Args.sessionId (update_self i args u.args)
  obtain ⟨cs, t, hcs, ht, hmem⟩ := leads_lookup (P := P) (i := i) (l := l)
    (v := { u.goto i .lookup with args := update u.args i args }) (update_self _ _ _)
    (by rw [hsid]; exact hnone) hidle (by rw [hsid]; exact hloop) hne
  intro h
  exact (h cs t hcs ((Lts.exec_cons_of_step hstep).trans ht)).1 hmem

/-- **Resetting a session.** From any state, `reset_session` makes the next `acquire` start afresh,
whatever the network does, if and only if the store has no loop of the session to resume, or the
pool has no slot for it. -/
theorem reset_session_resets (daemonUrl : String) (store : LoopSessionStore σ) (cfg : PoolConfig)
    (factory : String → Cl) (hS : Lawful store) (s : System Cl σ) (i j : ℕ) (args : Args)
    (hi : s.pc i = .idle) (hj : s.pc j = .idle) (hij : i ≠ j) :
    (∀ bs u, (∀ a ∈ bs, a.call = j) →
      Lts.exec (step (.new daemonUrl store cfg factory)) s (.release j args.sessionId :: bs) = some u →
      u.pc j = .released → Resets (.new daemonUrl store cfg factory) u i args) ↔
    (ConnectionPool.new daemonUrl store cfg factory).loopIdFor s.store args.sessionId = ("", false) ∨
      (s.state.idle = [] ∧ s.state.activeSlots.lookup args.sessionId = none) := by
  have hsize : 0 < (ConnectionPool.new daemonUrl store cfg factory : ConnectionPool Cl σ).cfg.poolSize := by
    unfold ConnectionPool.new
    simp only
    split_ifs with h
    · decide
    · exact Nat.pos_of_ne_zero h
  generalize hP : (ConnectionPool.new daemonUrl store cfg factory : ConnectionPool Cl σ) = P at *
  have hS : Lawful P.store := hP ▸ hS
  have hreset : ∀ bs u, (∀ a ∈ bs, a.call = j) →
      Lts.exec (step P) s (.release j args.sessionId :: bs) = some u → u.pc j = .released →
      u.store = s.store ∧ u.state = resetState P s args.sessionId ∧ u.pc i = .idle := by
    intro bs u hbs hu hend
    obtain ⟨v, hv, hu⟩ := Lts.exec_cons_eq_some.1 hu
    have hr := resetting_exec (resetting_release hv) hbs hu
    have hplace := hr.place
    rw [hend] at hplace
    exact ⟨hr.store, hplace, (hr.others i hij).trans hi⟩
  constructor
  · intro hall
    by_contra hno
    rw [not_or] at hno
    obtain ⟨bs, u, hbs, hu, hend⟩ := exists_reset P args.sessionId hj
    obtain ⟨hst, hstate, hidle⟩ := hreset bs u hbs hu hend
    obtain ⟨l, hne, hloop⟩ : ∃ l, l ≠ "" ∧ P.loopIdFor s.store args.sessionId = (l, true) := by
      obtain h | ⟨l, -, hne, h⟩ := loopIdFor_cases P s.store args.sessionId
      · exact absurd h hno.1
      · exact ⟨_, hne, h⟩
    refine exists_resume hidle ?_ ?_ (hst ▸ hloop) hne (hall bs u hbs hu hend)
    · rw [hstate]
      exact resetState_lookup
    · rw [hstate]
      exact fun h => hno.2 ((resetState_idle hsize).1 h)
  · intro hcond bs u hbs hu hend
    obtain ⟨hst, hstate, -⟩ := hreset bs u hbs hu hend
    refine resets_of_barred hS (by rw [hstate]; exact resetState_lookup) ?_
    rw [hst, hstate, resetState_idle hsize]
    exact hcond

/-- A session that the store does not know starts afresh. -/
theorem reset_session_resets_unknown : ∃ u,
    Lts.exec (step oneSlot) (init oneSlot ∅) (.release 1 "s1" :: [.next 1]) = some u ∧
      u.pc 1 = .released ∧ Resets oneSlot u 0 { sessionId := "s1" } := by
  refine ⟨_, rfl, rfl, ?_⟩
  exact (reset_session_resets "ws://127.0.0.1:8765" inMemoryLoopSessionStore { poolSize := 1 } id
    lawful_inMemory (init oneSlot ∅) 0 1 { sessionId := "s1" } rfl rfl (by decide)).2
    (Or.inl rfl) [.next 1] _ (by decide) rfl rfl

/-- The next `acquire` reattaches to the loop that was bound before the reset. -/
theorem reset_session_resets_fails :
    ¬ ∀ (P : ConnectionPool String (StrMap LoopSessionEntry)) (store : StrMap LoopSessionEntry)
      (as : List Label) (s : System String (StrMap LoopSessionEntry)) (i j : ℕ) (args : Args),
      Lts.exec (step P) (init P store) as = some s → s.pc i = .idle → s.pc j = .idle → i ≠ j →
      ∀ bs u, (∀ a ∈ bs, a.call = j) →
        Lts.exec (step P) s (.release j args.sessionId :: bs) = some u → u.pc j = .released →
        Resets P u i args := by
  intro h
  have hresets := h oneSlot ∅ (.acquire 0 { sessionId := "s1" } :: freshCourse 0 "loop-1") _ 2 1
    { sessionId := "s1" } rfl rfl rfl (by decide) [.next 1, .next 1, .next 1] _ (by decide) rfl rfl
  have hno := (hresets [.next 2, .next 2, .next 2, .next 2, .resume 2 true] _ (by decide) rfl).1
  exact hno (by simp)

end System

end SootheClient.Pool
