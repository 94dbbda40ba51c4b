import SootheClient.Gate.Reservation

/-!
# Single flight per session

Under `Undisturbed` at most one `run_turn` body of the session is in flight (`Owned.live_unique`).
The condition is exact: `Owned.crowded_of_broken` continues every step that breaks it to a session
with two calls on their way into the body, and `Crowded.two_live` brings both there.
-/

namespace SootheClient.Gate

open Function (update update_self update_of_ne)

namespace Flight

variable {sid : String} {s t u : Flight} {i j : ℕ} {a : Label}

/-- Under the condition at most one `run_turn` body is in flight. -/
theorem Owned.live_unique (h : Owned sid s) (hi : s.Live i) (hj : s.Live j) : i = j :=
  h.unfinished_unique (unfinished_of_live hi) (unfinished_of_live hj)

/-- Steps of its own bring the call into the body of `run_turn`. -/
def CanStart (sid : String) (s : Flight) (i : ℕ) : Prop :=
  (s.pc i = .reserved ∧ s.gate.isActive sid = true) ∨
    ((s.pc i).unfinished = true ∧ ∀ r, s.pc i ≠ .returned r)

/-- A run of steps of call `i` that ends in its body and leaves the other calls alone. -/
def GoesLive (sid : String) (s : Flight) (i : ℕ) : Prop :=
  ∃ as u, Lts.exec (step sid) s as = some u ∧ u.Live i ∧ (∀ k ≠ i, u.pc k = s.pc k) ∧
    u.revoked = s.revoked ∧ u.gate.isActive sid = s.gate.isActive sid

theorem GoesLive.of_step (h : GoesLive sid t i) (ha : step sid s a = some t)
    (hpc : ∀ k ≠ i, t.pc k = s.pc k) (hr : t.revoked = s.revoked)
    (hg : t.gate.isActive sid = s.gate.isActive sid) : GoesLive sid s i := by
  obtain ⟨as, u, hu, hlive, hk, hru, hgu⟩ := h
  exact ⟨a :: as, u, by rw [Lts.exec_cons_of_step ha, hu], hlive,
    fun k hne => (hk k hne).trans (hpc k hne), hru.trans hr, hgu.trans hg⟩

theorem goesLive_entering (sid : String) (hi : s.pc i = .entering) : GoesLive sid s i := by
  have ha : step sid s (.runTurn i) = some { s with pc := update s.pc i .poolAcquire } := by
    simp [step, hi]
  refine GoesLive.of_step ⟨[], _, rfl, ?_, fun _ _ => rfl, rfl, rfl⟩ ha
    (fun k hk => update_of_ne hk _ _) rfl rfl
  simp [Live, Pc.live]

theorem goesLive_checked (hi : s.pc i = .checked) : GoesLive sid s i := by
  have ha : ∃ t, step sid s (.replaceCancel i) = some t ∧ t.pc = update s.pc i .entering ∧
      t.revoked = s.revoked ∧ t.gate = s.gate.replaceCancel sid ⟨i, .run⟩ := by
    simp [step, hi]
  obtain ⟨t, ht, hpc, hr, hg⟩ := ha
  refine (goesLive_entering sid (by simp [hpc])).of_step ht (fun k hk => ?_) hr (by rw [hg]; simp)
  rw [hpc, update_of_ne hk]

theorem CanStart.goesLive (h : CanStart sid s i) : GoesLive sid s i := by
  rcases h with ⟨hi, hact⟩ | ⟨hu, hr⟩
  · have ha : step sid s (.executeReserved i) =
        some { s with pc := update s.pc i .checked } := by
      simp [step, hi, hact]
    exact (goesLive_checked (by simp)).of_step ha (fun k hk => update_of_ne hk _ _) rfl rfl
  · cases hi : s.pc i with
    | checked => exact goesLive_checked hi
    | entering => exact goesLive_entering sid hi
    | poolAcquire | registered | looping =>
      exact ⟨[], s, rfl, by rw [Live, hi]; rfl, fun _ _ => rfl, rfl, rfl⟩
    | returned r => exact absurd hi (hr r)
    | idle | reserved | done r => rw [hi] at hu; cases hu

theorem acquireStep_of_inactive (h : s.gate.isActive sid = false) (i : ℕ) (c : Token)
    (d? : Option Token) (q : Pc) : (s.acquireStep sid i c d? q).pc = update s.pc i q ∧
      (s.acquireStep sid i c d? q).gate.isActive sid = true ∧
      (s.acquireStep sid i c d? q).revoked = s.revoked := by
  obtain ⟨g, hg⟩ := QueryGate.acquire_of_inactive h c d?
  simp only [Flight.acquireStep, hg, true_and, and_true]
  exact QueryGate.isActive_iff.2 ⟨c, (QueryGate.acquire_spec hg).2.1⟩

/-- A run of steps of call `i` that ends after its `release`: the gate is empty for the key. -/
theorem exists_released (sid : String) (hi : (s.pc i).unfinished = true) :
    ∃ as u, Lts.exec (step sid) s as = some u ∧ u.gate.isActive sid = false ∧
      (∀ k ≠ i, u.pc k = s.pc k) ∧ u.revoked = s.revoked := by
  have hrel : ∀ {t : Flight} {r : Outcome}, t.pc i = .returned r →
      ∃ u, step sid t (.release i) = some u ∧ u.gate.isActive sid = false ∧
        (∀ k ≠ i, u.pc k = t.pc k) ∧ u.revoked = t.revoked := by
    intro t r hr
    refine ⟨{ t with gate := t.gate.release sid, pc := update t.pc i (.done r), owner := none },
      by simp only [step, hr], ?_, fun k hk => update_of_ne hk _ _, rfl⟩
    exact QueryGate.isActive_eq_false.2 QueryGate.release_cancels
  by_cases hret : ∃ r, s.pc i = .returned r
  · obtain ⟨r, hr⟩ := hret
    obtain ⟨u, hu, h⟩ := hrel hr
    exact ⟨[.release i], u, by rw [Lts.exec_cons_of_step hu]; rfl, h⟩
  · have hstart : CanStart sid s i := Or.inr ⟨hi, fun r hr => hret ⟨r, hr⟩⟩
    obtain ⟨as, t, ht, hlive, hpc, hrt, -⟩ := hstart.goesLive
    have hfin : step sid t (.finish i .other) =
        some { t with pc := update t.pc i (.returned .other) } := by
      rw [Live] at hlive
      simp [step, hlive]
    obtain ⟨u, hu, hgu, hpu, hru⟩ := hrel (t := { t with pc := update t.pc i (.returned .other) })
      (update_self _ _ _)
    refine ⟨as ++ [.finish i .other, .release i], u, ?_, hgu, fun k hk => ?_, hru.trans hrt⟩
    · rw [Lts.exec_append_of_exec ht, Lts.exec_cons_of_step hfin, Lts.exec_cons_of_step hu]; rfl
    · exact (hpu k hk).trans ((update_of_ne hk _ _).trans (hpc k hk))

/-- An uncancelled call is on its way into its body next to another unfinished one. -/
def Crowded (sid : String) (s : Flight) : Prop :=
  (∃ i j, i ≠ j ∧ CanStart sid s i ∧ s.revoked i = false ∧ (s.pc j).unfinished = true) ∧
    ∃ n, ∀ k ≥ n, s.pc k = .idle

/-- A step that breaks the condition crowds the session, at the latest when the call it collides
with has released and a third one has come. -/
theorem Owned.crowded_of_broken (h : Owned sid s) (hG : ¬ Undisturbed sid s a)
    (ht : step sid s a = some t) :
    ∃ as u, Lts.exec (step sid) t as = some u ∧ Crowded sid u := by
  have hacq : ∀ (i : ℕ) (c : Token) (d? : Option Token) (q : Pc), s.pc i = .idle →
      (q = .entering ∨ q = .reserved) →
      ¬ (s.gate.isActive sid = true ∨ ∀ j, ¬ s.Orphan j) → t = s.acquireStep sid i c d? q →
      ∃ as u, Lts.exec (step sid) t as = some u ∧ Crowded sid u := by
    rintro i c d? q hi hq hG rfl
    simp only [not_or, Bool.not_eq_true, not_forall, not_not] at hG
    obtain ⟨hfree, j, hj⟩ := hG
    obtain ⟨hpc, hact, hr⟩ := acquireStep_of_inactive hfree i c d? q
    have hij : j ≠ i := by
      rintro rfl
      have := hj.2
      rw [hi] at this
      cases this
    refine ⟨[], _, rfl, ⟨i, j, hij.symm, ?_, by rw [hr]; exact h.idle i hi, ?_⟩,
      by rw [hpc]; exact fresh_update h.fresh⟩
    · rcases hq with rfl | rfl
      · exact Or.inr (by rw [hpc, update_self]; exact ⟨rfl, fun r hr => nomatch hr⟩)
      · exact Or.inl ⟨by rw [hpc, update_self], hact⟩
    · rw [hpc, update_of_ne hij]
      exact hj.2
  cases step_inv ht with
  | execute i hi => exact hacq i _ _ _ hi (Or.inl rfl) hG rfl
  | reserve i withSend hi => exact hacq i _ _ _ hi (Or.inr rfl) hG rfl
  | executeReserved i hi =>
    simp only [Undisturbed, Classical.not_imp, Bool.not_eq_false] at hG
    obtain ⟨hr, hact⟩ := hG
    obtain ⟨k, hk⟩ := Option.ne_none_iff_exists'.1 (h.isActive_iff.1 hact)
    obtain ⟨hhold, hrk, -⟩ := h.held k hk
    have hki : k ≠ i := by
      rintro rfl
      rw [hr] at hrk
      cases hrk
    simp only [hact, if_true]
    set t : Flight := { s with pc := update s.pc i .checked } with htdef
    have hti : (t.pc i).unfinished = true := by simp [htdef, Pc.unfinished]
    have htk : t.pc k = s.pc k := by simp [htdef, hki]
    have hft : ∃ n, ∀ k ≥ n, t.pc k = .idle := fresh_update h.fresh
    by_cases hret : ∃ r, s.pc k = .returned r
    · -- the owner releases and a third call takes the session
      obtain ⟨r, hkr⟩ := hret
      obtain ⟨as, u, hu, hfree, hpc, hru⟩ :=
        exists_released sid (s := t) (i := k) (by rw [htk, hkr]; rfl)
      obtain ⟨n, hn⟩ := hft
      let m := max n (max (i + 1) (k + 1))
      have hmi : m ≠ i := by omega
      have hmk : m ≠ k := by omega
      have htm : t.pc m = .idle := hn m (by omega)
      have hum : u.pc m = .idle := by rw [hpc m hmk, htm]
      obtain ⟨hvpc, -, hvr⟩ := acquireStep_of_inactive hfree m ⟨m, .run⟩ none
        .entering
      have hv : step sid u (.execute m) =
          some (u.acquireStep sid m ⟨m, .run⟩ none .entering) := by simp [step, hum]
      refine ⟨as ++ [.execute m], _, by rw [Lts.exec_concat hu, hv],
        ⟨m, i, hmi, Or.inr ?_, ?_, ?_⟩, ?_⟩
      · rw [hvpc, update_self]
        exact ⟨rfl, fun r hr => nomatch hr⟩
      · rw [hvr, hru]
        exact h.idle m (by rw [htdef] at htm; simpa [hmi] using htm)
      · rw [hvpc, update_of_ne hmi.symm, hpc i hki.symm]
        exact hti
      · rw [hvpc]
        refine fresh_update ⟨m + 1, fun l hl => ?_⟩
        rw [hpc l (by omega)]
        exact hn l (by omega)
    · refine ⟨[], t, rfl, ⟨k, i, hki, ?_, hrk, hti⟩, hft⟩
      simp only [Pc.holding, Bool.or_eq_true, decide_eq_true_eq] at hhold
      rcases hhold with hu | hres
      · exact Or.inr (by rw [htk]; exact ⟨hu, fun r hr => hret ⟨r, hr⟩⟩)
      · exact Or.inl ⟨by rw [htk]; exact hres, hact⟩
  | _ => exact absurd trivial hG

/-- A crowded session comes to two bodies in flight. -/
theorem Crowded.two_live (h : Crowded sid s) :
    ∃ as u, Lts.exec (step sid) s as = some u ∧ ∃ i j, i ≠ j ∧ u.Live i ∧ u.Live j := by
  obtain ⟨⟨i, j, hij, hi, -, hj⟩, n, hn⟩ := h
  obtain ⟨as, t, ht, hlive, hpc, -⟩ := hi.goesLive
  have hpj : t.pc j = s.pc j := hpc j hij.symm
  by_cases hret : ∃ r, s.pc j = .returned r
  · -- the late `release` frees the session for a third call
    obtain ⟨bs, v, hv, hfree, hvpc, -⟩ :=
      exists_released sid (s := t) (i := j) (by rw [hpj]; exact hj)
    let k := max n (max (i + 1) (j + 1))
    have hki : k ≠ i := by omega
    have hkj : k ≠ j := by omega
    have hvk : v.pc k = .idle := by
      rw [hvpc k hkj, hpc k hki]
      exact hn k (by omega)
    obtain ⟨hwpc, -, -⟩ := acquireStep_of_inactive hfree k ⟨k, .run⟩ none .entering
    have hw : step sid v (.execute k) =
        some (v.acquireStep sid k ⟨k, .run⟩ none .entering) := by simp [step, hvk]
    obtain ⟨cs, u, hu, hul, hupc, -⟩ := goesLive_entering sid
      (s := v.acquireStep sid k ⟨k, .run⟩ none .entering) (i := k) (by simp [hwpc])
    refine ⟨as ++ (bs ++ (.execute k :: cs)), u, ?_, i, k, hki.symm, ?_, hul⟩
    · rw [Lts.exec_append_of_exec ht, Lts.exec_append_of_exec hv, Lts.exec_cons_of_step hw, hu]
    · rw [Live, hupc i hki.symm, hwpc, update_of_ne hki.symm, hvpc i hij]
      exact hlive
  · have hj' : CanStart sid t j := Or.inr (by rw [hpj]; exact ⟨hj, fun r hr => hret ⟨r, hr⟩⟩)
    obtain ⟨bs, u, hu, hul, hupc, -⟩ := hj'.goesLive
    refine ⟨as ++ bs, u, by rw [Lts.exec_append_of_exec ht, hu], i, j, hij, ?_, hul⟩
    rw [Live, hupc i hij]
    exact hlive

/-- A crowded session comes to a running turn, not cancelled, that the gate does not know. -/
theorem Crowded.unreserved (h : Crowded sid s) :
    ∃ as u, Lts.exec (step sid) s as = some u ∧
      ∃ i, u.Live i ∧ u.revoked i = false ∧ u.gate.isActive sid = false := by
  obtain ⟨⟨i, j, hij, hi, hr, hj⟩, -⟩ := h
  obtain ⟨as, t, ht, hlive, hpc, hrt, -⟩ := hi.goesLive
  obtain ⟨bs, u, hu, hfree, hupc, hru⟩ :=
    exists_released sid (s := t) (i := j) (by rw [hpc j hij.symm]; exact hj)
  refine ⟨as ++ bs, u, by rw [Lts.exec_append_of_exec ht, hu], i, ?_, ?_, hfree⟩
  · rw [Live, hupc i hij]
    exact hlive
  · rw [hru, hrt]
    exact hr

/-- **Single flight.** In a run whose steps all meet the condition at most one `run_turn` body of
the session is in flight; and a step that breaks it, from any such run, opens a run with two. -/
theorem single_flight (sid : String) :
    (∀ as s, Lts.Guarded (step sid) (Undisturbed sid) init as →
      Lts.exec (step sid) init as = some s → ∀ i j, s.Live i → s.Live j → i = j) ∧
    (∀ as s a t, Lts.Guarded (step sid) (Undisturbed sid) init as →
      Lts.exec (step sid) init as = some s → ¬ Undisturbed sid s a → step sid s a = some t →
      ∃ bs u, Lts.exec (step sid) t bs = some u ∧ ∃ i j, i ≠ j ∧ u.Live i ∧ u.Live j) := by
  refine ⟨fun as s hG h i j hi hj => (owned_of_run hG h).live_unique hi hj,
    fun as s a t hG h hbad ht => ?_⟩
  obtain ⟨bs, u, hu, hcrowd⟩ := (owned_of_run hG h).crowded_of_broken hbad ht
  obtain ⟨cs, v, hv, hlive⟩ := hcrowd.two_live
  exact ⟨bs ++ cs, v, by rw [Lts.exec_append_of_exec hu, hv], hlive⟩

/-- A turn runs and is cancelled; its `run_turn` has not returned. -/
def cancelledTurn : List Label := [.execute 0, .runTurn 0, .cancel 0]

theorem guarded_cancelledTurn :
    Lts.Guarded (step sid) (Undisturbed sid) init cancelledTurn :=
  ⟨Or.inr fun _ h => Bool.noConfusion h.1,
    fun _ _ => ⟨trivial, fun _ _ => ⟨trivial, fun _ _ => trivial⟩⟩⟩

theorem exec_cancelledTurn : ∃ s, Lts.exec (step "s1") init cancelledTurn = some s ∧
    s.gate.isActive "s1" = false ∧ s.revoked 0 = true ∧ s.pc 0 = .poolAcquire ∧
    s.pc 1 = .idle := by
  have hrun : ((Lts.exec (step "s1") init cancelledTurn).map fun s =>
      (s.gate.isActive "s1", s.revoked 0, s.pc 0, s.pc 1)) =
      some (false, true, .poolAcquire, .idle) := by decide
  obtain ⟨s, hs, hv⟩ := Option.map_eq_some_iff.1 hrun
  simp only [Prod.mk.injEq] at hv
  exact ⟨s, hs, hv⟩

/-- The condition at work: the second `execute` breaks it, and two bodies are in flight. -/
theorem single_flight_cancelled :
    ∃ s, Lts.exec (step "s1") init cancelledTurn = some s ∧
      (∀ i j, s.Live i → s.Live j → i = j) ∧
      ∃ t, step "s1" s (.execute 1) = some t ∧
        ∃ bs u, Lts.exec (step "s1") t bs = some u ∧ ∃ i j, i ≠ j ∧ u.Live i ∧ u.Live j := by
  obtain ⟨s, hs, hfree, hr, h0, h1⟩ := exec_cancelledTurn
  have hstep : step "s1" s (.execute 1) =
      some (s.acquireStep "s1" 1 ⟨1, .run⟩ none .entering) := by simp [step, h1]
  refine ⟨s, hs, (single_flight "s1").1 _ s guarded_cancelledTurn hs, _, hstep,
    (single_flight "s1").2 _ s (.execute 1) _ guarded_cancelledTurn hs ?_ hstep⟩
  simp only [Undisturbed, hfree, Bool.false_eq_true, false_or, not_forall, not_not]
  exact ⟨0, hr, by rw [h0]; rfl⟩

theorem single_flight_fails :
    ¬ ∀ (sid : String) (as : List Label) (s : Flight),
      Lts.exec (step sid) init as = some s → ∀ i j, s.Live i → s.Live j → i = j := by
  intro h
  have hrun : ((Lts.exec (step "s1") init (cancelledTurn ++ [.execute 1, .runTurn 1])).map
      fun s => ((s.pc 0).live, (s.pc 1).live)) = some (true, true) := by decide
  obtain ⟨s, hs, hl⟩ := Option.map_eq_some_iff.1 hrun
  rw [Prod.mk.injEq] at hl
  exact absurd (h "s1" _ s hs 0 1 hl.1 hl.2) (by decide)

end Flight

end SootheClient.Gate
