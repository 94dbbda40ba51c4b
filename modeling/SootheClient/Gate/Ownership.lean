import SootheClient.Gate.SingleFlight

/-!
# Whose reservation a cancel reaches

`CallTrace` follows one `cancel` call from its critical section: it calls exactly the sender and
the local callback it took out of the gate, the sender first. With `Owned` this gives that, under
the condition `Undisturbed`, a cancel issued while a turn runs uncancelled reaches that turn's own
callbacks, and that no earlier call touches its reservation.
-/

namespace SootheClient.Gate

open Function (update update_self update_of_ne)

namespace Flight

variable {sid : String} {s t u : Flight} {i j k : ℕ} {a : Label} {as : List Label}
  {c d? : Option Token}

/-- The senders called by the cancel `j`. -/
def sendsOf (s : Flight) (j : ℕ) : List Token := (s.sends.filter (·.1 = j)).map (·.2)

/-- The local callbacks called by the cancel `j`. -/
def localsOf (s : Flight) (j : ℕ) : List Token := (s.locals.filter (·.1 = j)).map (·.2)

/-- A cancel call that took out `c` and `d?`: what it has called so far, by its place. -/
def CallTrace (s : Flight) (j : ℕ) (c d? : Option Token) : Prop :=
  match s.cancelPc j with
  | .idle => False
  | .taken c' d => c' = c ∧ some d = d? ∧ s.sendsOf j = [] ∧ s.localsOf j = []
  | .sending c' d => c' = c ∧ some d = d? ∧ s.sendsOf j = [d] ∧ s.localsOf j = []
  | .callback c' => c' = c ∧ s.sendsOf j = d?.toList ∧ s.localsOf j = []
  | .done => s.sendsOf j = d?.toList ∧ s.localsOf j = c.toList ∧
      ∀ i, c = some ⟨i, .run⟩ → s.flag i = true

/-- The cancel call a label is a step of. -/
def cancelCall : Label → Option ℕ
  | .cancel j | .sendCancel j | .sendDone j | .localCancel j => some j
  | _ => none

/-- A cancel that was not issued has called nothing. -/
def Unissued (s : Flight) : Prop :=
  ∀ j, s.cancelPc j = .idle → s.sendsOf j = [] ∧ s.localsOf j = []

theorem sendsOf_append_self {l : List (ℕ × Token)} {d : Token} (h : s.sends = l ++ [(j, d)]) :
    s.sendsOf j = (l.filter (·.1 = j)).map (·.2) ++ [d] := by
  simp [sendsOf, h]

theorem sendsOf_append_of_ne {l : List (ℕ × Token)} {d : Token} (h : s.sends = l ++ [(k, d)])
    (hne : j ≠ k) : s.sendsOf j = (l.filter (·.1 = j)).map (·.2) := by
  simp [sendsOf, h, hne.symm]

theorem localsOf_append_self {l : List (ℕ × Token)} {d : Token} (h : s.locals = l ++ [(j, d)]) :
    s.localsOf j = (l.filter (·.1 = j)).map (·.2) ++ [d] := by
  simp [localsOf, h]

theorem localsOf_append_of_ne {l : List (ℕ × Token)} {d : Token} (h : s.locals = l ++ [(k, d)])
    (hne : j ≠ k) : s.localsOf j = (l.filter (·.1 = j)).map (·.2) := by
  simp [localsOf, h, hne.symm]

theorem cancelCall_eq (h : cancelCall a = some j) :
    a = .cancel j ∨ a = .sendCancel j ∨ a = .sendDone j ∨ a = .localCancel j := by
  cases a <;> simp_all [cancelCall]

/-- A step of another call leaves a cancel's trace alone, and flags are never cleared. -/
theorem step_other (ht : step sid s a = some t)
    (ha : cancelCall a ≠ some j) :
    t.cancelPc j = s.cancelPc j ∧ t.sendsOf j = s.sendsOf j ∧ t.localsOf j = s.localsOf j ∧
      ∀ i, s.flag i = true → t.flag i = true := by
  have hacq : ∀ (i : ℕ) (c : Token) (d? : Option Token) (q : Pc),
      (s.acquireStep sid i c d? q).cancelPc = s.cancelPc ∧
      (s.acquireStep sid i c d? q).sends = s.sends ∧
      (s.acquireStep sid i c d? q).locals = s.locals ∧
      (s.acquireStep sid i c d? q).flag = s.flag := by
    intro i c d? q
    unfold Flight.acquireStep
    split <;> exact ⟨rfl, rfl, rfl, rfl⟩
  cases step_inv ht with
  | execute i | reserve i withSend =>
    obtain ⟨h1, h2, h3, h4⟩ := hacq i _ _ _
    exact ⟨by rw [h1], by rw [sendsOf, h2, sendsOf], by rw [localsOf, h3, localsOf],
      fun i hi => by rw [h4, hi]⟩
  | executeReserved | replaceCancel | runTurn | setSendCancel | sendInput | finish | release =>
    exact ⟨rfl, rfl, rfl, fun i hi => hi⟩
  | cancel k =>
    have hne : j ≠ k := fun h => ha (congrArg some h.symm)
    exact ⟨update_of_ne hne _ _, rfl, rfl, fun i hi => hi⟩
  | sendCancel k =>
    have hne : j ≠ k := fun h => ha (congrArg some h.symm)
    exact ⟨update_of_ne hne _ _, sendsOf_append_of_ne rfl hne, rfl, fun i hi => hi⟩
  | sendDone k =>
    have hne : j ≠ k := fun h => ha (congrArg some h.symm)
    exact ⟨update_of_ne hne _ _, rfl, rfl, fun i hi => hi⟩
  | localCancel k c =>
    have hne : j ≠ k := fun h => ha (congrArg some h.symm)
    cases c with
    | none => exact ⟨update_of_ne hne _ _, rfl, rfl, fun i hi => hi⟩
    | some d =>
      refine ⟨update_of_ne hne _ _, rfl, localsOf_append_of_ne rfl hne, fun i hi => ?_⟩
      simp only [localStep]
      split
      · rcases eq_or_ne i d.turn with rfl | hid
        · exact update_self _ _ _
        · rw [update_of_ne hid]; exact hi
      · exact hi

theorem callTrace_step (s : Flight) (a : Label) (t : Flight) (h : CallTrace s j c d?)
    (ht : step sid s a = some t) : CallTrace t j c d? := by
  by_cases ha : cancelCall a ≠ some j
  · obtain ⟨hpc, hs, hl, hf⟩ := step_other ht ha
    unfold CallTrace at h ⊢
    rw [hpc, hs, hl]
    split at h
    · exact h
    · exact h
    · exact h
    · exact h
    · exact ⟨h.1, h.2.1, fun i hi => hf i (h.2.2 i hi)⟩
  · unfold CallTrace at h
    rcases cancelCall_eq (not_not.1 ha) with rfl | rfl | rfl | rfl
    · cases step_inv ht with
      | cancel _ hj =>
        rw [hj] at h
        exact h.elim
    · cases step_inv ht with
      | sendCancel _ c' d hpc =>
        rw [hpc] at h
        obtain ⟨h1, h2, h3, h4⟩ := h
        unfold CallTrace
        simp only [update_self]
        refine ⟨h1, h2, ?_, h4⟩
        rw [sendsOf_append_self rfl]
        exact congrArg (· ++ [d]) h3
    · cases step_inv ht with
      | sendDone _ c' d hpc =>
        rw [hpc] at h
        obtain ⟨h1, h2, h3, h4⟩ := h
        unfold CallTrace
        simp only [update_self]
        exact ⟨h1, by rw [← h2]; exact h3, h4⟩
    · cases step_inv ht with
      | localCancel _ c' hpc =>
        rw [hpc] at h
        obtain ⟨rfl, h2, h3⟩ := h
        unfold CallTrace
        cases c' with
        | none =>
          simp only [localStep, update_self]
          exact ⟨h2, h3, fun i hi => nomatch hi⟩
        | some d =>
          simp only [localStep, update_self]
          refine ⟨h2, ?_, fun i hi => ?_⟩
          · rw [localsOf_append_self rfl]
            exact congrArg (· ++ [d]) h3
          · obtain rfl := Option.some.inj hi
            simp

theorem unissued_step (s : Flight) (a : Label) (t : Flight) (h : Unissued s)
    (ht : step sid s a = some t) : Unissued t := by
  intro j hj
  by_cases ha : cancelCall a ≠ some j
  · obtain ⟨hpc, hs, hl, -⟩ := step_other ht ha
    rw [hs, hl]
    exact h j (hpc ▸ hj)
  · rcases cancelCall_eq (not_not.1 ha) with rfl | rfl | rfl | rfl
    · cases step_inv ht with
      | cancel =>
        simp only [cancelStep, update_self] at hj
        split at hj <;> cases hj
    · cases step_inv ht with
      | sendCancel =>
        simp only [update_self] at hj
        cases hj
    · cases step_inv ht with
      | sendDone =>
        simp only [update_self] at hj
        cases hj
    · cases step_inv ht with
      | localCancel _ c =>
        cases c with
        | none =>
          simp only [localStep, update_self] at hj
          cases hj
        | some d =>
          simp only [localStep, update_self] at hj
          cases hj

/-- The critical section of a cancel starts its trace with what the gate held. -/
theorem callTrace_cancel (h : Unissued s) (ht : step sid s (.cancel j) = some t) :
    CallTrace t j (s.gate.cancels.lookup sid) (s.gate.sendCancels.lookup sid) := by
  cases step_inv ht with
  | cancel _ hj =>
    obtain ⟨hs, hl⟩ := h j hj
    unfold CallTrace
    simp only [cancelStep, update_self, QueryGate.takeCancel_fst]
    cases hc : s.gate.cancels.lookup sid with
    | none =>
      cases hd : s.gate.sendCancels.lookup sid with
      | none => exact ⟨hs, hl, fun i hi => by cases hi⟩
      | some d => exact ⟨rfl, rfl, hs, hl⟩
    | some c =>
      cases hd : s.gate.sendCancels.lookup sid with
      | none => exact ⟨rfl, hs, hl⟩
      | some d => exact ⟨rfl, rfl, hs, hl⟩

theorem CallTrace.spec (h : CallTrace s j c d?) :
    s.sendsOf j <+: d?.toList ∧ s.localsOf j <+: c.toList ∧
      (s.cancelPc j = .done → s.sendsOf j = d?.toList ∧ s.localsOf j = c.toList ∧
        ∀ i, c = some ⟨i, .run⟩ → s.flag i = true) := by
  unfold CallTrace at h
  split at h
  · exact h.elim
  · rename_i hpc
    rw [h.2.2.1, h.2.2.2, hpc]
    exact ⟨List.nil_prefix, List.nil_prefix, fun hd => nomatch hd⟩
  · rename_i hpc
    rw [h.2.2.1, h.2.2.2, ← h.2.1, hpc]
    exact ⟨List.prefix_rfl, List.nil_prefix, fun hd => nomatch hd⟩
  · rename_i hpc
    rw [h.2.1, h.2.2, hpc]
    exact ⟨List.prefix_rfl, List.nil_prefix, fun hd => nomatch hd⟩
  · rw [h.1, h.2.1]
    exact ⟨List.prefix_rfl, List.prefix_rfl, fun _ => ⟨rfl, rfl, h.2.2⟩⟩

/-- A cancel call in progress always has a next step. -/
theorem CallTrace.progress (h : CallTrace s j c d?) (hd : s.cancelPc j ≠ .done) :
    ∃ a t, cancelCall a = some j ∧ step sid s a = some t := by
  cases hpc : s.cancelPc j with
  | idle => unfold CallTrace at h; rw [hpc] at h; exact h.elim
  | taken c d => exact ⟨.sendCancel j, _, rfl, by simp only [step, hpc]; rfl⟩
  | sending c d => exact ⟨.sendDone j, _, rfl, by simp only [step, hpc]; rfl⟩
  | callback c => exact ⟨.localCancel j, s.localStep j c, rfl, by simp only [step, hpc]⟩
  | done => exact absurd hpc hd

/-! ## What a turn has registered -/

/-- From `run_turn`'s entry to its return. -/
def Entered (p : Pc) : Prop := p = .entering ∨ p.live = true

/-- Past `set_send_cancel`. -/
def Registered (p : Pc) : Prop := p = .registered ∨ p = .looping

/-- The callbacks a turn registered are its own: `run_turn`'s once it has entered, and
`run_turn`'s sender once it is past `set_send_cancel`. -/
structure OwnTokens (s : Flight) : Prop where
  cancel : ∀ i, Entered (s.pc i) → s.cancelOf i = some ⟨i, .run⟩
  send : ∀ i, Registered (s.pc i) → s.sendOf i = some ⟨i, .run⟩
  turn : ∀ i d, s.sendOf i = some d → d.turn = i

/-- A step that only moves call `i` from `p` to `q`, and what `p` allows `q` needs no more. -/
theorem OwnTokens.move (h : OwnTokens s) {q : Pc} (he : Entered q → Entered (s.pc i))
    (hr : Registered q → Registered (s.pc i)) :
    OwnTokens { s with pc := update s.pc i q } := by
  refine ⟨fun k hk => ?_, fun k hk => ?_, h.turn⟩
  · rcases eq_or_ne k i with rfl | hne
    · exact h.cancel k (he (by simpa using hk))
    · exact h.cancel k (by simpa [hne] using hk)
  · rcases eq_or_ne k i with rfl | hne
    · exact h.send k (hr (by simpa using hk))
    · exact h.send k (by simpa [hne] using hk)

/-- Call `i` registers its callbacks and moves to `q`. -/
theorem OwnTokens.set (h : OwnTokens s) {q : Pc} {c d : Option Token}
    {g : QueryGate Token Token} {o : Option ℕ}
    (hc : Entered q → c = some ⟨i, .run⟩) (hd : Registered q → d = some ⟨i, .run⟩)
    (ht : ∀ e, d = some e → e.turn = i) :
    OwnTokens { s with
      gate := g
      pc := update s.pc i q
      owner := o
      cancelOf := update s.cancelOf i c
      sendOf := update s.sendOf i d } := by
  refine ⟨fun k hk => ?_, fun k hk => ?_, fun k e hk => ?_⟩
  all_goals
    rcases eq_or_ne k i with rfl | hne
    · simp only [update_self] at hk ⊢
      first
      | exact hc hk
      | exact hd hk
      | exact ht e hk
    · simp only [update_of_ne hne] at hk ⊢
      first
      | exact h.cancel k hk
      | exact h.send k hk
      | exact h.turn k e hk

theorem OwnTokens.acquireStep (h : OwnTokens s) {c : Token} {q : Pc}
    (hc : Entered q → c = ⟨i, .run⟩) (hq : ¬ Registered q) (ht : ∀ d, d? = some d → d.turn = i) :
    OwnTokens (s.acquireStep sid i c d? q) := by
  unfold Flight.acquireStep
  split
  · exact h.move (by rintro (h | h) <;> cases h) (by rintro (h | h) <;> cases h)
  · exact h.set (fun he => congrArg some (hc he)) (fun hr => absurd hr hq) ht

theorem ownTokens_step (s : Flight) (a : Label) (t : Flight) (h : OwnTokens s)
    (ht : step sid s a = some t) : OwnTokens t := by
  cases step_inv ht with
  | execute i =>
    exact h.acquireStep (fun _ => rfl) (by rintro (h | h) <;> cases h) (fun d hd => nomatch hd)
  | reserve i withSend =>
    refine h.acquireStep (by rintro (h | h) <;> cases h) (by rintro (h | h) <;> cases h) ?_
    intro d hd
    split_ifs at hd
    exact (Option.some.inj hd) ▸ rfl
  | executeReserved i =>
    split
    · exact h.move (by rintro (h | h) <;> cases h) (by rintro (h | h) <;> cases h)
    · exact h.move (by rintro (h | h) <;> cases h) (by rintro (h | h) <;> cases h)
  | replaceCancel i =>
    have := h.set (i := i) (q := .entering) (c := some ⟨i, .run⟩) (d := s.sendOf i)
      (g := s.gate.replaceCancel sid ⟨i, .run⟩) (o := s.owner) (fun _ => rfl)
      (by rintro (h | h) <;> cases h) (h.turn i)
    rwa [Function.update_eq_self] at this
  | runTurn i hi => exact h.move (fun _ => Or.inl hi) (by rintro (h | h) <;> cases h)
  | setSendCancel i hi =>
    have := h.set (i := i) (q := .registered) (c := s.cancelOf i) (d := some ⟨i, .run⟩)
      (g := s.gate.setSendCancel sid ⟨i, .run⟩) (o := s.owner)
      (fun _ => h.cancel i (Or.inr (by rw [hi]; rfl))) (fun _ => rfl)
      (fun d hd => (Option.some.inj hd) ▸ rfl)
    rwa [Function.update_eq_self] at this
  | sendInput i hi => exact h.move (fun _ => Or.inr (by rw [hi]; rfl)) (fun _ => Or.inl hi)
  | finish i r => exact h.move (by rintro (h | h) <;> cases h) (by rintro (h | h) <;> cases h)
  | release i r hi =>
    have := h.move (i := i) (q := .done r) (by rintro (h | h) <;> cases h)
      (by rintro (h | h) <;> cases h)
    exact ⟨this.cancel, this.send, this.turn⟩
  | cancel | sendCancel | sendDone => exact ⟨h.cancel, h.send, h.turn⟩
  | localCancel j c => cases c <;> exact ⟨h.cancel, h.send, h.turn⟩

theorem ownTokens_init : OwnTokens init := by
  refine ⟨fun i hi => ?_, fun i hi => ?_, fun i d hd => nomatch hd⟩
  · rcases hi with hi | hi <;> cases hi
  · rcases hi with hi | hi <;> cases hi

theorem ownTokens_of_run (h : Lts.exec (step sid) init as = some s) : OwnTokens s :=
  Lts.inv_of_exec ownTokens_step ownTokens_init h

/-- A call made by `execute` has no sender before `set_send_cancel`. -/
structure NoSender (s : Flight) (i : ℕ) : Prop where
  place : s.pc i ≠ .reserved ∧ s.pc i ≠ .checked
  none : s.pc i = .entering ∨ s.pc i = .poolAcquire → s.sendOf i = none

theorem noSender_step (s : Flight) (a : Label) (t : Flight) (h : NoSender s i)
    (ha : ∀ w, a ≠ .reserve i w) (ht : step sid s a = some t) : NoSender t i := by
  have hmove : ∀ {t : Flight}, t.pc i = s.pc i → t.sendOf i = s.sendOf i → NoSender t i :=
    fun hp hs => ⟨by rw [hp]; exact h.place, by rw [hp, hs]; exact h.none⟩
  have hacq : ∀ {k : ℕ} {c : Token} {d? : Option Token} {q : Pc},
      (k = i → q = .entering ∧ d? = Option.none) → NoSender (s.acquireStep sid k c d? q) i := by
    intro k c d? q hk
    unfold Flight.acquireStep
    split
    · rcases eq_or_ne i k with rfl | hne
      · exact ⟨by simp, by simp⟩
      · exact hmove (update_of_ne hne _ _) rfl
    · rcases eq_or_ne i k with rfl | hne
      · obtain ⟨rfl, rfl⟩ := hk rfl
        exact ⟨by simp, by simp⟩
      · exact hmove (update_of_ne hne _ _) (update_of_ne hne _ _)
  cases step_inv ht with
  | execute k => exact hacq fun _ => ⟨rfl, rfl⟩
  | reserve k w => exact hacq fun hk => absurd (by rw [hk]) (ha w)
  | executeReserved k hk =>
    have hne : i ≠ k := by
      rintro rfl
      exact h.place.1 hk
    exact hmove (update_of_ne hne _ _) rfl
  | replaceCancel k hk =>
    have hne : i ≠ k := by
      rintro rfl
      exact h.place.2 hk
    exact hmove (update_of_ne hne _ _) rfl
  | runTurn k hk =>
    rcases eq_or_ne i k with rfl | hne
    · exact ⟨by simp, fun _ => h.none (Or.inl hk)⟩
    · exact hmove (update_of_ne hne _ _) rfl
  | setSendCancel k =>
    rcases eq_or_ne i k with rfl | hne
    · exact ⟨by simp, by simp⟩
    · exact hmove (update_of_ne hne _ _) (update_of_ne hne _ _)
  | sendInput k | finish k | release k =>
    rcases eq_or_ne i k with rfl | hne
    · exact ⟨by simp, by simp⟩
    · exact hmove (update_of_ne hne _ _) rfl
  | cancel | sendCancel | sendDone => exact hmove rfl rfl
  | localCancel j c => cases c <;> exact hmove rfl rfl

theorem sendOf_eq_none (h : Lts.exec (step sid) init as = some s)
    (has : ∀ w, Label.reserve i w ∉ as) (hi : s.pc i = .poolAcquire) : s.sendOf i = none := by
  have hinit : NoSender init i := ⟨by simp [init], by simp [init]⟩
  have hinv : ∀ {s : Flight} {as : List Label}, NoSender s i → (∀ w, Label.reserve i w ∉ as) →
      ∀ {t}, Lts.exec (step sid) s as = some t → NoSender t i := by
    intro s as
    induction as generalizing s with
    | nil => intro hs _ t ht; exact Option.some.inj ht ▸ hs
    | cons a as ih =>
      intro hs has t ht
      obtain ⟨v, hv, ht⟩ := Lts.exec_cons_eq_some.1 ht
      simp only [List.mem_cons, not_or] at has
      exact ih (noSender_step s a v hs (fun w => (has w).1 ∘ Eq.symm) hv) (fun w => (has w).2) ht
  exact (hinv hinit has h).none (Or.inr hi)

/-! ## Reservation ownership -/

/-- Every cancel issued now calls the sender and the local callback of turn `i`, and no others. -/
def ReachesOwn (sid : String) (s : Flight) (i : ℕ) : Prop :=
  ∀ j t, step sid s (.cancel j) = some t → ∀ bs u, Lts.exec (step sid) t bs = some u →
    u.sendsOf j <+: (s.sendOf i).toList ∧ u.localsOf j <+: [⟨i, .run⟩] ∧
    (u.cancelPc j ≠ .done → ∃ a v, cancelCall a = some j ∧ step sid u a = some v) ∧
    (u.cancelPc j = .done → u.sendsOf j = (s.sendOf i).toList ∧ u.localsOf j = [⟨i, .run⟩] ∧
      u.flag i = true)

theorem Owned.reachesOwn (h : Owned sid s) (hu : Unissued s) (ho : OwnTokens s)
    (hi : s.Live i) (hr : s.revoked i = false) : ReachesOwn sid s i := by
  intro j t ht bs u hbs
  have hown := h.holder i (holding_of_unfinished (unfinished_of_live hi)) hr
  obtain ⟨-, -, -, hc, hd⟩ := h.held i hown
  have htr := callTrace_cancel hu ht
  rw [hc, hd, ho.cancel i (Or.inr hi)] at htr
  have hend := Lts.inv_of_exec (fun s a t => callTrace_step s a t) htr hbs
  obtain ⟨h1, h2, h3⟩ := hend.spec
  refine ⟨h1, h2, hend.progress, fun hdone => ?_⟩
  obtain ⟨h4, h5, h6⟩ := h3 hdone
  exact ⟨h4, h5, h6 i rfl⟩

theorem unissued_of_run (h : Lts.exec (step sid) init as = some s) : Unissued s :=
  Lts.inv_of_exec unissued_step (fun _ _ => ⟨rfl, rfl⟩) h

/-- No call but the owner's own changes what the gate holds, a cancel apart. -/
theorem Owned.gate_of_other (h : Owned sid s) (hi : s.owner = some i) (hk : k ≠ i)
    (ha : a = .release k ∨ a = .replaceCancel k ∨ a = .setSendCancel k) :
    step sid s a = none := by
  have hno : (s.pc k).unfinished = false := by
    by_contra hu
    rcases h.owner_of_unfinished (i := k) (by simpa using hu) with hn | hn
    · rw [hi] at hn; cases hn
    · rw [hi] at hn; exact hk (Option.some.inj hn).symm
  rcases ha with rfl | rfl | rfl
  · simp only [step]
    split
    · rename_i r hr
      rw [hr] at hno
      cases hno
    · rfl
  · exact if_neg fun hc => by rw [hc] at hno; cases hno
  · exact if_neg fun hc => by rw [hc] at hno; cases hno

/-- **Reservation ownership.** In a run whose steps all meet the condition, a turn that runs
uncancelled has its reservation in the gate; a cancel issued then calls that turn's own callbacks
and no others; and no `release`, `replace_cancel` or `set_send_cancel` of another call is possible
while a call owns the reservation. A step that breaks the condition, from any such run, opens a
run in which a turn runs uncancelled and the gate does not know it. -/
theorem reservation_owned (sid : String) :
    (∀ as s, Lts.Guarded (step sid) (Undisturbed sid) init as →
      Lts.exec (step sid) init as = some s →
      (∀ i, s.Live i → s.revoked i = false →
        s.gate.isActive sid = true ∧ ReachesOwn sid s i ∧ (∀ d, s.sendOf i = some d → d.turn = i) ∧
        (s.pc i ≠ .poolAcquire → s.sendOf i = some ⟨i, .run⟩) ∧
        (s.pc i = .poolAcquire → (∀ w, Label.reserve i w ∉ as) → s.sendOf i = none)) ∧
      (∀ i k, s.owner = some i → k ≠ i → ∀ a,
        a = .release k ∨ a = .replaceCancel k ∨ a = .setSendCancel k → step sid s a = none)) ∧
    (∀ as s a t, Lts.Guarded (step sid) (Undisturbed sid) init as →
      Lts.exec (step sid) init as = some s → ¬ Undisturbed sid s a → step sid s a = some t →
      ∃ bs u, Lts.exec (step sid) t bs = some u ∧
        ∃ i, u.Live i ∧ u.revoked i = false ∧ u.gate.isActive sid = false) := by
  refine ⟨fun as s hG hs => ⟨fun i hi hr => ?_, fun i k hi hk a ha =>
    (owned_of_run hG hs).gate_of_other hi hk ha⟩, fun as s a t hG hs hbad ht => ?_⟩
  · have hown := owned_of_run hG hs
    have htok := ownTokens_of_run hs
    refine ⟨?_, hown.reachesOwn (unissued_of_run hs) htok hi hr, htok.turn i, fun hne => ?_,
      fun hp has => sendOf_eq_none hs has hp⟩
    · rw [hown.isActive_iff, hown.holder i (holding_of_unfinished (unfinished_of_live hi)) hr]
      simp
    · refine htok.send i ?_
      unfold Live at hi
      cases hp : s.pc i <;> simp_all [Registered, Pc.live]
  · obtain ⟨bs, u, hu, hcrowd⟩ := (owned_of_run hG hs).crowded_of_broken hbad ht
    obtain ⟨cs, v, hv, hlive⟩ := hcrowd.unreserved
    exact ⟨bs ++ cs, v, by rw [Lts.exec_append_of_exec hu, hv], hlive⟩

/-- The condition at work: a running turn is reached by its cancel, and once it is cancelled a
second `execute` breaks the condition. -/
theorem reservation_owned_cancelled :
    (∃ s, Lts.exec (step "s1") init [.execute 0, .runTurn 0] = some s ∧ s.Live 0 ∧
      s.gate.isActive "s1" = true ∧ ReachesOwn "s1" s 0 ∧ s.sendOf 0 = none) ∧
    ∃ s t, Lts.exec (step "s1") init cancelledTurn = some s ∧
      step "s1" s (.execute 1) = some t ∧ ∃ bs u, Lts.exec (step "s1") t bs = some u ∧
        ∃ i, u.Live i ∧ u.revoked i = false ∧ u.gate.isActive "s1" = false := by
  constructor
  · have hrun : ((Lts.exec (step "s1") init [.execute 0, .runTurn 0]).map fun s =>
        (s.pc 0, s.revoked 0)) = some (.poolAcquire, false) := by decide
    obtain ⟨s, hs, hv⟩ := Option.map_eq_some_iff.1 hrun
    simp only [Prod.mk.injEq] at hv
    have hlive : s.Live 0 := by rw [Live, hv.1]; rfl
    have hG : Lts.Guarded (step "s1") (Undisturbed "s1") init [.execute 0, .runTurn 0] :=
      ⟨Or.inr fun _ h => Bool.noConfusion h.1, fun _ _ => ⟨trivial, fun _ _ => trivial⟩⟩
    obtain ⟨hact, hown, -, -, hsend⟩ := ((reservation_owned "s1").1 _ s hG hs).1 0 hlive hv.2
    exact ⟨s, hs, hlive, hact, hown, hsend hv.1 (by decide)⟩
  · obtain ⟨s, hs, hfree, hr, h0, h1⟩ := exec_cancelledTurn
    have hstep : step "s1" s (.execute 1) =
        some (s.acquireStep "s1" 1 ⟨1, .run⟩ none .entering) := by simp [step, h1]
    refine ⟨s, _, hs, hstep,
      (reservation_owned "s1").2 _ s (.execute 1) _ guarded_cancelledTurn hs ?_ hstep⟩
    simp only [Undisturbed, hfree, Bool.false_eq_true, false_or, not_forall, not_not]
    exact ⟨0, hr, by rw [h0]; rfl⟩

/-- The cancelled turn's `release` takes the reservation of the turn after it. -/
theorem reservation_owned_fails :
    ¬ ∀ (sid : String) (as : List Label) (s : Flight), Lts.exec (step sid) init as = some s →
      ∀ i, s.Live i → s.revoked i = false → s.gate.isActive sid = true := by
  intro h
  have hrun : ((Lts.exec (step "s1") init
      (cancelledTurn ++ [.execute 1, .runTurn 1, .finish 0 .other, .release 0])).map fun s =>
        ((s.pc 1).live, s.revoked 1, s.gate.isActive "s1")) = some (true, false, false) := by
    decide
  obtain ⟨s, hs, hv⟩ := Option.map_eq_some_iff.1 hrun
  simp only [Prod.mk.injEq] at hv
  have hact := h "s1" _ s hs 1 hv.1 hv.2.1
  rw [hv.2.2] at hact
  cases hact

end Flight

end SootheClient.Gate
