import SootheClient.Gate.Callbacks
import SootheClient.Gate.Ownership

/-!
# Cancelled turns at the daemon

Any number of `execute` and `cancel` calls on one session. `loop i` is the loop that the pool gives
to the turn `i`; the sender that the turn registers cancels that loop. A turn that sees its flag
returns `query cancelled` after it has sent its input, and it sends no daemon cancel of its own.
-/

namespace SootheClient.Gate

open Function (update update_self update_of_ne)

/-- A step of an `execute` or of a `cancel` call. -/
def Label.ofExecute : Label → Bool
  | .reserve _ _ | .executeReserved _ | .replaceCancel _ => false
  | _ => true

/-- The local callback that a `cancel` call has in hand. -/
def CancelPc.holds : CancelPc → Option Token
  | .taken c _ | .sending c _ | .callback c => c
  | .idle | .done => none

namespace Flight

/-- The turn returned `query cancelled`. -/
def Cancelled (p : Pc) : Prop := p = .returned .cancelled ∨ p = .done .cancelled

/-- Every turn that returned `query cancelled` was cancelled at the daemon: the `cancel` that ran
its callback has called a sender for its loop. -/
def Told (loop : ℕ → String) (s : Flight) : Prop :=
  ∀ i, Cancelled (s.pc i) → ∃ j d, (j, ⟨i, .run⟩) ∈ s.locals ∧ (j, d) ∈ s.sends ∧
    loop d.turn = loop i

/-- A `cancel` that takes the callback of a turn that has not returned finds a sender for the
turn's loop. -/
def SenderHeld (sid : String) (loop : ℕ → String) (s : Flight) : Label → Prop
  | .cancel _ => ∀ i, s.gate.callbackOf sid = some ⟨i, .run⟩ → Entered (s.pc i) →
      ∃ d, s.gate.senderOf sid = some d ∧ loop d.turn = loop i
  | _ => True

variable {sid : String} {loop : ℕ → String} {s t u : Flight} {a : Label} {as : List Label}
  {i j : ℕ}

/-! ## Steps -/

/-- What a step of an `execute` or of a `cancel` call does. -/
inductive Executed (sid : String) (s : Flight) : Label → Flight → Prop
  | busy (i : ℕ) (hi : s.pc i = .idle) :
      Executed sid s (.execute i) { s with pc := update s.pc i (.done .busy) }
  | acquire (i : ℕ) (g : QueryGate Token Token) (o : Option ℕ) (cs ds : ℕ → Option Token)
      (hi : s.pc i = .idle) (hg : g.callbackOf sid = some ⟨i, .run⟩) :
      Executed sid s (.execute i)
        { s with
          gate := g
          pc := update s.pc i .entering
          owner := o
          cancelOf := cs
          sendOf := ds }
  /-- The turn goes on, or its `run_turn` returns. -/
  | move {a : Label} (i : ℕ) (q : Pc) (g : QueryGate Token Token) (ds : ℕ → Option Token)
      (ha : ∀ j, a ≠ .cancel j) (hi : Entered (s.pc i))
      (hg : g.callbackOf sid = s.gate.callbackOf sid)
      (hq : Entered q ∨ ∃ r, q = .returned r ∧ (r = .cancelled → s.flag i = true)) :
      Executed sid s a { s with gate := g, pc := update s.pc i q, sendOf := ds }
  | release (i : ℕ) (r : Outcome) (g : QueryGate Token Token) (o : Option ℕ)
      (hi : s.pc i = .returned r) (hg : g.callbackOf sid = none) :
      Executed sid s (.release i)
        { s with gate := g, pc := update s.pc i (.done r), owner := o }
  /-- The critical section of a `cancel`. -/
  | cancel (j : ℕ) (g : QueryGate Token Token) (pc : CancelPc) (o : Option ℕ) (rs : ℕ → Bool)
      (hj : s.cancelPc j = .idle) (hg : g.callbackOf sid = none)
      (hpc : (pc = .done ∧ s.gate.callbackOf sid = none) ∨
        (∃ d, pc = .taken (s.gate.callbackOf sid) d ∧ s.gate.senderOf sid = some d) ∨
        (pc = .callback (s.gate.callbackOf sid) ∧ s.gate.senderOf sid = none)) :
      Executed sid s (.cancel j)
        { s with gate := g, cancelPc := update s.cancelPc j pc, owner := o, revoked := rs }
  | send (j : ℕ) (c : Option Token) (d : Token) (hj : s.cancelPc j = .taken c d) :
      Executed sid s (.sendCancel j)
        { s with cancelPc := update s.cancelPc j (.sending c d), sends := s.sends ++ [(j, d)] }
  | sent (j : ℕ) (c : Option Token) (d : Token) (hj : s.cancelPc j = .sending c d) :
      Executed sid s (.sendDone j) { s with cancelPc := update s.cancelPc j (.callback c) }
  | call (j : ℕ) (c : Option Token) (hj : s.cancelPc j = .callback c) :
      Executed sid s (.localCancel j) (s.localStep j c)

theorem executed_execute (hi : s.pc i = .idle) :
    Executed sid s (.execute i) (s.acquireStep sid i ⟨i, .run⟩ none .entering) := by
  unfold acquireStep
  cases hg : s.gate.acquire sid ⟨i, .run⟩ none with
  | error _ => exact .busy i hi
  | ok g =>
    obtain ⟨-, hc, -⟩ := QueryGate.acquire_entries hg
    refine .acquire i g _ _ _ hi ?_
    rw [hc, update_self]

theorem executed_cancel (hj : s.cancelPc j = .idle) :
    Executed sid s (.cancel j) (s.cancelStep sid j) := by
  refine .cancel j _ _ _ _ hj QueryGate.takeCancel_cancels ?_
  rw [QueryGate.takeCancel_fst]
  show _ ∨ (∃ d, _ ∧ s.gate.sendCancels.lookup sid = some d) ∨
    _ ∧ s.gate.sendCancels.lookup sid = none
  cases hd : s.gate.sendCancels.lookup sid with
  | some d =>
    refine Or.inr (Or.inl ⟨d, ?_, rfl⟩)
    show _ = CancelPc.taken (s.gate.cancels.lookup sid) d
    cases s.gate.cancels.lookup sid <;> rfl
  | none =>
    show (_ ∧ s.gate.cancels.lookup sid = none) ∨ _ ∨
      _ = CancelPc.callback (s.gate.cancels.lookup sid) ∧ _
    cases hc : s.gate.cancels.lookup sid with
    | none => exact Or.inl ⟨rfl, rfl⟩
    | some r => exact Or.inr (Or.inr ⟨rfl, rfl⟩)

theorem entered_of_live {p : Pc} (h : p.live = true) : Entered p := Or.inr h

/-- **Steps.** -/
theorem step_executed (ha : a.ofExecute = true) (ht : step sid s a = some t) :
    Executed sid s a t := by
  cases step_inv ht with
  | execute i hi => exact executed_execute hi
  | reserve | executeReserved | replaceCancel => cases ha
  | runTurn i hi =>
    exact .move i _ s.gate s.sendOf nofun (Or.inl hi) rfl (Or.inl (entered_of_live rfl))
  | setSendCancel i hi =>
    refine .move i _ _ _ nofun (entered_of_live (by rw [hi]; rfl)) ?_ (Or.inl (entered_of_live rfl))
    unfold QueryGate.callbackOf
    rw [QueryGate.setSendCancel_cancels]
  | sendInput i hi =>
    exact .move i _ s.gate s.sendOf nofun (entered_of_live (by rw [hi]; rfl)) rfl
      (Or.inl (entered_of_live rfl))
  | finish i r hlive hr =>
    exact .move i _ s.gate s.sendOf nofun (entered_of_live hlive) rfl
      (Or.inr ⟨r, rfl, fun hc => (hr hc).2⟩)
  | release i r hi => exact .release i r _ _ hi QueryGate.release_cancels
  | cancel j hj => exact executed_cancel hj
  | sendCancel j c d hj => exact .send j c d hj
  | sendDone j c d hj => exact .sent j c d hj
  | localCancel j c hj => exact .call j c hj

/-! ## One place for each turn's callback -/

/-- The turns whose callback the gate or a `cancel` holds, or that ran. -/
def books (sid : String) (s : Flight) : Custody.Books (Option ℕ) ℕ where
  held p := (p.elim (s.gate.callbackOf sid) fun j => (s.cancelPc j).holds).map Token.turn
  issued := {i | s.pc i ≠ .idle}
  spent := s.locals.map fun p => p.2.turn

theorem not_idle_of_entered {p : Pc} (h : Entered p) : p ≠ .idle := by
  rintro rfl
  rcases h with h | h <;> cases h

theorem issued_update {q : Pc} (hq : q ≠ .idle) :
    {k | s.pc k ≠ .idle} ⊆ {k | update s.pc i q k ≠ .idle} := by
  intro k hk
  show update s.pc i q k ≠ .idle
  by_cases hki : k = i
  · rw [hki, update_self]
    exact hq
  · rw [update_of_ne hki]
    exact hk

theorem issued_insert {q : Pc} (hq : q ≠ .idle) :
    insert i {k | s.pc k ≠ .idle} ⊆ {k | update s.pc i q k ≠ .idle} := by
  rintro k (rfl | hk)
  · show update s.pc k q k ≠ .idle
    rw [update_self]
    exact hq
  · exact issued_update hq hk

/-- The books after a step on the gate. -/
theorem held_gate {g : QueryGate Token Token} {c : Option Token} (hg : g.callbackOf sid = c) :
    (books sid { s with gate := g }).held =
      update (books sid s).held none (c.map Token.turn) := by
  funext p
  cases p with
  | none =>
    rw [update_self, ← hg]
    rfl
  | some j =>
    rw [update_of_ne (Option.some_ne_none j)]
    rfl

theorem held_cancelPc {pc : CancelPc} :
    (books sid { s with cancelPc := update s.cancelPc j pc }).held =
      update (books sid s).held (some j) (pc.holds.map Token.turn) := by
  funext p
  cases p with
  | none =>
    rw [update_of_ne (Option.some_ne_none j).symm]
    rfl
  | some k =>
    show (update s.cancelPc j pc k).holds.map Token.turn = _
    by_cases hk : k = j
    · rw [hk, update_self, update_self]
    · rw [update_of_ne hk, update_of_ne fun h => hk (Option.some.inj h)]
      rfl

/-- A `cancel` that goes on with what it holds. -/
theorem held_keep {pc : CancelPc} (h : pc.holds = (s.cancelPc j).holds) :
    (books sid { s with cancelPc := update s.cancelPc j pc }).held = (books sid s).held := by
  rw [held_cancelPc, h]
  exact Function.update_eq_self (some j) _

/-- **Step lemma.** The books stay sound. -/
theorem sound_step (h : Custody.Sound (books sid s)) (ht : Executed sid s a t) :
    Custody.Sound (books sid t) := by
  cases ht with
  | busy i hi => exact h.grow rfl rfl (issued_update nofun)
  | acquire i g o cs ds hi hg =>
    exact (h.issue none (not_not.2 hi)).grow (held_gate hg) rfl (issued_insert nofun)
  | move i q g ds ha hi hg hq =>
    refine h.grow ?_ rfl (issued_update ?_)
    · exact (held_gate hg).trans (Function.update_eq_self none _)
    · rcases hq with hq | ⟨r, rfl, -⟩
      · exact not_idle_of_entered hq
      · nofun
  | release i r g o hi hg =>
    exact (h.drop none).grow (held_gate hg) rfl (issued_update nofun)
  | cancel j g pc o rs hj hg hpc =>
    have hholds : pc.holds = s.gate.callbackOf sid := by
      rcases hpc with ⟨rfl, hnone⟩ | ⟨d, rfl, -⟩ | ⟨rfl, -⟩
      · rw [hnone]
        rfl
      · rfl
      · rfl
    refine (h.move none (some j)).grow ?_ rfl (Set.Subset.refl _)
    have hheld : (books sid { s with gate := g, cancelPc := update s.cancelPc j pc }).held =
        update (books sid { s with gate := g }).held (some j) (pc.holds.map Token.turn) :=
      held_cancelPc (s := { s with gate := g })
    rw [hholds, held_gate hg] at hheld
    exact hheld
  | send j c d hj =>
    refine h.grow (held_keep ?_) rfl (Set.Subset.refl _)
    rw [hj]
    rfl
  | sent j c d hj =>
    refine h.grow (held_keep ?_) rfl (Set.Subset.refl _)
    rw [hj]
    rfl
  | call j c hj =>
    have hheld : (books sid s).held (some j) = c.map Token.turn := by
      show (s.cancelPc j).holds.map Token.turn = _
      rw [hj]
      rfl
    have hdone : (books sid { s with cancelPc := update s.cancelPc j .done }).held =
        update (books sid s).held (some j) none := held_cancelPc
    cases c with
    | none => exact (h.drop (some j)).grow hdone rfl (Set.Subset.refl _)
    | some c =>
      refine (h.spend hheld).grow hdone ?_ (Set.Subset.refl _)
      exact List.map_append

/-! ## Guarded runs -/

/-- The `cancel` has called, or is about to call, a sender for the turn's loop. -/
def Announces (loop : ℕ → String) (s : Flight) (i j : ℕ) : Prop :=
  match s.cancelPc j with
  | .taken _ d => loop d.turn = loop i
  | _ => ∃ d, (j, d) ∈ s.sends ∧ loop d.turn = loop i

/-- A `cancel` that holds or has run the callback of a turn that has not returned tells the
daemon. -/
structure Warned (loop : ℕ → String) (s : Flight) : Prop where
  told : Told loop s
  ran : ∀ i j, (j, ⟨i, .run⟩) ∈ s.locals → Entered (s.pc i) →
    ∃ d, (j, d) ∈ s.sends ∧ loop d.turn = loop i
  hands : ∀ i j, (s.cancelPc j).holds = some ⟨i, .run⟩ → Entered (s.pc i) → Announces loop s i j
  flagged : ∀ i, s.flag i = true → ∃ j, (j, ⟨i, .run⟩) ∈ s.locals

/-- No `cancel` holds the callback of the turn or has run it. -/
structure Unheld (s : Flight) (i : ℕ) : Prop where
  ran : ∀ j, (j, ⟨i, .run⟩) ∉ s.locals
  hands : ∀ j, (s.cancelPc j).holds ≠ some ⟨i, .run⟩

theorem unheld_of_idle (h : Custody.Sound (books sid s)) (hi : s.pc i = .idle) : Unheld s i where
  ran j hj := h.past i (List.mem_map.2 ⟨_, hj, rfl⟩) hi
  hands j hj := by
    refine h.old (some j) i ?_ hi
    show (s.cancelPc j).holds.map Token.turn = some i
    rw [hj]
    rfl

/-- A step of a turn. -/
theorem Warned.turn (h : Warned loop s) {q : Pc} {g : QueryGate Token Token} {o : Option ℕ}
    {cs ds : ℕ → Option Token} (hent : Entered q → Entered (s.pc i) ∨ Unheld s i)
    (hcan : Cancelled q → Cancelled (s.pc i) ∨ (s.flag i = true ∧ Entered (s.pc i))) :
    Warned loop
      { s with gate := g, pc := update s.pc i q, owner := o, cancelOf := cs, sendOf := ds } := by
  have hback : ∀ k, Entered (update s.pc i q k) → Entered (s.pc k) ∨ Unheld s k := by
    intro k hk
    by_cases hki : k = i
    · rw [hki, update_self] at hk
      rw [hki]
      exact hent hk
    · rw [update_of_ne hki] at hk
      exact Or.inl hk
  refine ⟨fun k hk => ?_, fun k j hj hk => ?_, fun k j hj hk => ?_, h.flagged⟩
  · by_cases hki : k = i
    · have hq : Cancelled (update s.pc i q k) := hk
      rw [hki, update_self] at hq
      rw [hki]
      rcases hcan hq with hold | ⟨hflag, hi⟩
      · exact h.told i hold
      · obtain ⟨j, hj⟩ := h.flagged i hflag
        obtain ⟨d, hd, hloop⟩ := h.ran i j hj hi
        exact ⟨j, d, hj, hd, hloop⟩
    · have hq : Cancelled (update s.pc i q k) := hk
      rw [update_of_ne hki] at hq
      exact h.told k hq
  · rcases hback k hk with hold | hun
    · exact h.ran k j hj hold
    · exact absurd hj (hun.ran j)
  · rcases hback k hk with hold | hun
    · exact h.hands k j hj hold
    · exact absurd hj (hun.hands j)

theorem announces_of_ne {pc : CancelPc} {k : ℕ} (hk : k ≠ j) (h : Announces loop s i k)
    (hpc : t.cancelPc = update s.cancelPc j pc) (hsends : ∀ p ∈ s.sends, p ∈ t.sends) :
    Announces loop t i k := by
  unfold Announces at h ⊢
  rw [hpc, update_of_ne hk]
  split
  · rename_i c d hd
    rw [hd] at h
    exact h
  · rename_i hne
    split at h
    · rename_i c d hd
      exact absurd hd (hne c d)
    · obtain ⟨d, hd, hloop⟩ := h
      exact ⟨d, hsends _ hd, hloop⟩

/-- A step of the `cancel` call `j` that runs no callback. -/
theorem Warned.call (h : Warned loop s) {p : CancelPc} (hlocals : t.locals = s.locals)
    (hcalls : t.pc = s.pc) (hflag : t.flag = s.flag) (hsends : ∀ d ∈ s.sends, d ∈ t.sends)
    (hpc : t.cancelPc = update s.cancelPc j p)
    (hj : ∀ i, p.holds = some ⟨i, .run⟩ → Entered (s.pc i) → Announces loop t i j) :
    Warned loop t := by
  refine ⟨fun i hi => ?_, fun i k hk hi => ?_, fun i k hk hi => ?_, fun i hi => ?_⟩
  · rw [hcalls] at hi
    obtain ⟨k, d, hk, hd, hloop⟩ := h.told i hi
    exact ⟨k, d, hlocals ▸ hk, hsends _ hd, hloop⟩
  · rw [hcalls] at hi
    rw [hlocals] at hk
    obtain ⟨d, hd, hloop⟩ := h.ran i k hk hi
    exact ⟨d, hsends _ hd, hloop⟩
  · rw [hcalls] at hi
    rw [hpc] at hk
    by_cases hkj : k = j
    · rw [hkj, update_self] at hk
      rw [hkj]
      exact hj i hk hi
    · rw [update_of_ne hkj] at hk
      exact announces_of_ne hkj (h.hands i k hk hi) hpc hsends
  · rw [hflag] at hi
    rw [hlocals]
    exact h.flagged i hi

/-- The `cancel` call `j` runs the callback that it holds. -/
theorem Warned.local (h : Warned loop s) {c : Option Token} (hj : s.cancelPc j = .callback c) :
    Warned loop (s.localStep j c) := by
  have hdone : Warned loop { s with cancelPc := update s.cancelPc j .done } :=
    h.call (j := j) (p := .done) rfl rfl rfl (fun _ hp => hp) rfl nofun
  cases c with
  | none => exact hdone
  | some c =>
    have hmem : ∀ p ∈ s.locals, p ∈ s.locals ++ [(j, c)] := fun p hp => List.mem_append_left _ hp
    refine ⟨fun i hi => ?_, fun i k hk hi => ?_, hdone.hands, fun i hi => ?_⟩
    · obtain ⟨k, d, hk, hd, hloop⟩ := h.told i hi
      exact ⟨k, d, hmem _ hk, hd, hloop⟩
    · rcases List.mem_append.1 hk with hold | hnew
      · exact h.ran i k hold hi
      · obtain ⟨rfl, rfl⟩ := Prod.mk.inj (List.mem_singleton.1 hnew)
        have hann := h.hands i k (by rw [hj]; rfl) hi
        unfold Announces at hann
        rw [hj] at hann
        exact hann
    · by_cases hrun : c.stage = .run ∧ i = c.turn
      · refine ⟨j, List.mem_append_right _ ?_⟩
        obtain ⟨turn, stage⟩ := c
        obtain ⟨hstage, hturn⟩ := hrun
        rw [hturn]
        exact List.mem_singleton.2 (by rw [← hstage])
      · have hold : s.flag i = true := by
          have hflag : (if c.stage = .run then update s.flag c.turn true else s.flag) i = true := hi
          split_ifs at hflag with hstage
          · rwa [update_of_ne fun hturn => hrun ⟨hstage, hturn⟩] at hflag
          · exact hflag
        obtain ⟨k, hk⟩ := h.flagged i hold
        exact ⟨k, hmem _ hk⟩

theorem not_entered_done {r : Outcome} : ¬ Entered (.done r) := by
  rintro (h | h) <;> cases h

theorem not_entered_returned {r : Outcome} : ¬ Entered (.returned r) := by
  rintro (h | h) <;> cases h

theorem not_cancelled_of_entered {p : Pc} (h : Entered p) : ¬ Cancelled p := by
  rintro (rfl | rfl)
  · exact not_entered_returned h
  · exact not_entered_done h

/-- **Step lemma.** A step that meets the condition keeps the daemon told. -/
theorem warned_step (hb : Custody.Sound (books sid s)) (h : Warned loop s)
    (hG : SenderHeld sid loop s a) (ht : Executed sid s a t) : Warned loop t := by
  cases ht with
  | busy i hi =>
    refine h.turn (fun hq => absurd hq not_entered_done) fun hq => ?_
    rcases hq with hq | hq <;> cases hq
  | acquire i g o cs ds hi hg =>
    refine h.turn (fun _ => Or.inr (unheld_of_idle hb hi)) fun hq => ?_
    rcases hq with hq | hq <;> cases hq
  | move i q g ds ha hi hg hq =>
    refine h.turn (fun _ => Or.inl hi) fun hcan => Or.inr ⟨?_, hi⟩
    rcases hq with hq | ⟨r, rfl, hr⟩
    · exact absurd hcan (not_cancelled_of_entered hq)
    · rcases hcan with hret | hdone
      · exact hr (Pc.returned.inj hret)
      · cases hdone
  | release i r g o hi hg =>
    refine h.turn (fun hq => absurd hq not_entered_done) fun hq => Or.inl ?_
    rcases hq with hq | hq
    · cases hq
    · rw [hi, Pc.done.inj hq]
      exact Or.inl rfl
  | cancel j g pc o rs hj hg hpc =>
    refine h.call (j := j) (p := pc) rfl rfl rfl (fun _ hp => hp) rfl fun i hi hent => ?_
    unfold Announces
    simp only [update_self]
    rcases hpc with ⟨rfl, -⟩ | ⟨d, rfl, hd⟩ | ⟨rfl, hd⟩
    · cases hi
    · obtain ⟨d', hd', hloop⟩ := hG i hi hent
      rw [hd] at hd'
      obtain rfl := Option.some.inj hd'
      exact hloop
    · obtain ⟨d', hd', -⟩ := hG i hi hent
      rw [hd] at hd'
      cases hd'
  | send j c d hj =>
    refine h.call (j := j) (p := .sending c d) rfl rfl rfl
      (fun _ hp => List.mem_append_left _ hp) rfl fun i hi hent => ?_
    have hann := h.hands i j (by rw [hj]; exact hi) hent
    unfold Announces at hann ⊢
    rw [hj] at hann
    simp only [update_self]
    exact ⟨d, List.mem_append_right _ (List.mem_singleton.2 rfl), hann⟩
  | sent j c d hj =>
    refine h.call (j := j) (p := .callback c) rfl rfl rfl (fun _ hp => hp) rfl
      fun i hi hent => ?_
    have hann := h.hands i j (by rw [hj]; exact hi) hent
    unfold Announces at hann ⊢
    rw [hj] at hann
    simp only [update_self]
    exact hann
  | call j c hj => exact h.local hj

/-! ## Steps that break the condition -/

/-- The turn goes on to its return, which is `query cancelled`, and no `cancel` does anything. -/
def GoesCancelled (sid : String) (s : Flight) (i : ℕ) : Prop :=
  ∃ bs u, (∀ b ∈ bs, b.ofExecute = true) ∧ Lts.exec (step sid) s bs = some u ∧
    Cancelled (u.pc i) ∧ u.locals = s.locals ∧ u.sends = s.sends

theorem GoesCancelled.of_step (ht : step sid s a = some t) (ha : a.ofExecute = true)
    (hlocals : t.locals = s.locals) (hsends : t.sends = s.sends) (h : GoesCancelled sid t i) :
    GoesCancelled sid s i := by
  obtain ⟨bs, u, hbs, hu, hcan, hl, hs⟩ := h
  refine ⟨a :: bs, u, List.forall_mem_cons.2 ⟨ha, hbs⟩, ?_, hcan, hl.trans hlocals,
    hs.trans hsends⟩
  rw [Lts.exec_cons_of_step ht, hu]

theorem goesCancelled_looping (hi : s.pc i = .looping) (hf : s.flag i = true) :
    GoesCancelled sid s i := by
  refine ⟨[.finish i .cancelled], { s with pc := update s.pc i (.returned .cancelled) },
    by simp [Label.ofExecute], ?_, Or.inl (update_self ..), rfl, rfl⟩
  rw [Lts.exec_cons_of_step (t := { s with pc := update s.pc i (.returned .cancelled) })]
  · rfl
  · simp [step, hi, hf, Pc.live]

theorem goesCancelled_registered (hi : s.pc i = .registered) (hf : s.flag i = true) :
    GoesCancelled sid s i := by
  have ht : step sid s (.sendInput i) = some { s with pc := update s.pc i .looping } := if_pos hi
  exact .of_step ht rfl rfl rfl (goesCancelled_looping (update_self ..) hf)

theorem goesCancelled_poolAcquire (hi : s.pc i = .poolAcquire) (hf : s.flag i = true) :
    GoesCancelled sid s i := by
  have ht : step sid s (.setSendCancel i) = some { s with
      gate := s.gate.setSendCancel sid ⟨i, .run⟩
      pc := update s.pc i .registered
      sendOf := update s.sendOf i (some ⟨i, .run⟩) } := if_pos hi
  exact .of_step ht rfl rfl rfl (goesCancelled_registered (update_self ..) hf)

/-- A turn that has not returned and whose flag is set returns `query cancelled`, if it likes. -/
theorem goesCancelled_of_entered (sid : String) (hi : Entered (s.pc i)) (hf : s.flag i = true) :
    GoesCancelled sid s i := by
  rcases hi with hi | hi
  · have ht : step sid s (.runTurn i) = some { s with pc := update s.pc i .poolAcquire } :=
      if_pos hi
    exact .of_step ht rfl rfl rfl (goesCancelled_poolAcquire (update_self ..) hf)
  · cases hpc : s.pc i with
    | poolAcquire => exact goesCancelled_poolAcquire hpc hf
    | registered => exact goesCancelled_registered hpc hf
    | looping => exact goesCancelled_looping hpc hf
    | idle | reserved | checked | entering | returned | done =>
      rw [hpc] at hi
      cases hi

/-- The `cancel` goes on to run the callback, after the sender, if any. -/
theorem exists_called (sid : String) (hpc : s.cancelPc j = .callback (some ⟨i, .run⟩) ∨
      ∃ d, s.cancelPc j = .taken (some ⟨i, .run⟩) d) :
    ∃ bs u, (∀ b ∈ bs, b.ofExecute = true) ∧ Lts.exec (step sid) s bs = some u ∧
      u.pc = s.pc ∧ u.flag i = true ∧ u.locals = s.locals ++ [(j, ⟨i, .run⟩)] ∧
      ∀ p ∈ u.sends, p ∈ s.sends ∨ ∃ d, p = (j, d) ∧ s.cancelPc j = .taken (some ⟨i, .run⟩) d := by
  have hcall : ∀ {t : Flight}, t.cancelPc j = .callback (some ⟨i, .run⟩) →
      step sid t (.localCancel j) = some (t.localStep j (some ⟨i, .run⟩)) := by
    intro t ht
    simp only [step, ht]
  rcases hpc with hpc | ⟨d, hpc⟩
  · refine ⟨[.localCancel j], _, by simp [Label.ofExecute],
      Lts.exec_cons_of_step (hcall hpc), rfl, ?_, rfl, fun p hp => Or.inl hp⟩
    exact update_self ..
  · have hsend : step sid s (.sendCancel j) = some { s with
        cancelPc := update s.cancelPc j (.sending (some ⟨i, .run⟩) d)
        sends := s.sends ++ [(j, d)] } := by
      simp only [step, hpc]
    have hsent : ∀ {t : Flight}, t.cancelPc j = .sending (some ⟨i, .run⟩) d →
        step sid t (.sendDone j) = some { t with
          cancelPc := update t.cancelPc j (.callback (some ⟨i, .run⟩)) } := by
      intro t ht
      simp only [step, ht]
    have hrun : Lts.exec (step sid) s [.sendCancel j, .sendDone j, .localCancel j] =
        some (localStep { s with
          cancelPc := update (update s.cancelPc j (.sending (some ⟨i, .run⟩) d)) j
            (.callback (some ⟨i, .run⟩))
          sends := s.sends ++ [(j, d)] } j (some ⟨i, .run⟩)) := by
      rw [Lts.exec_cons_of_step hsend, Lts.exec_cons_of_step (hsent (update_self ..)),
        Lts.exec_cons_of_step (hcall (update_self ..))]
      rfl
    refine ⟨_, _, by simp [Label.ofExecute], hrun, rfl, update_self .., rfl, fun p hp => ?_⟩
    rcases List.mem_append.1 hp with hold | hnew
    · exact Or.inl hold
    · exact Or.inr ⟨d, List.mem_singleton.1 hnew, hpc⟩

theorem senderHeld_of_ne (ha : ∀ j, a ≠ .cancel j) : SenderHeld sid loop s a := by
  cases a with
  | cancel j => exact absurd rfl (ha j)
  | execute | reserve | executeReserved | replaceCancel | runTurn | setSendCancel | sendInput
  | finish | release | sendCancel | sendDone | localCancel => trivial

theorem unsent_of_idle (hu : Unissued s) (hj : s.cancelPc j = .idle) (d : Token) :
    (j, d) ∉ s.sends := by
  intro hd
  have hmem : d ∈ s.sendsOf j :=
    List.mem_map.2 ⟨(j, d), List.mem_filter.2 ⟨hd, decide_eq_true rfl⟩, rfl⟩
  rw [(hu j hj).1] at hmem
  cases hmem

/-- A `cancel` that breaks the condition opens a run in which the cancelled turn's `cancel` has not
told the daemon. -/
theorem untold_of_broken (hb : Custody.Sound (books sid s)) (hu : Unissued s)
    (hG : ¬ SenderHeld sid loop s a) (ha : a.ofExecute = true) (ht : step sid s a = some t) :
    ∃ bs u, (∀ b ∈ bs, b.ofExecute = true) ∧ Lts.exec (step sid) t bs = some u ∧
      ¬ Told loop u := by
  cases step_executed ha ht with
  | busy | acquire | release | send | sent | call => exact absurd trivial hG
  | move i q g ds hne => exact absurd (senderHeld_of_ne hne) hG
  | cancel j g pc o rs hj hg hpc =>
    simp only [SenderHeld] at hG
    push Not at hG
    obtain ⟨i, hc, hi, hno⟩ := hG
    rw [hc] at hpc
    have htaken : ∀ d, pc = .taken (some ⟨i, .run⟩) d → s.gate.senderOf sid = some d := by
      rintro d rfl
      rcases hpc with ⟨h, -⟩ | ⟨d', h, hd'⟩ | ⟨h, -⟩
      · cases h
      · rw [hd', (CancelPc.taken.inj h).2]
      · cases h
    have hplace : pc = .callback (some ⟨i, .run⟩) ∨ ∃ d, pc = .taken (some ⟨i, .run⟩) d := by
      rcases hpc with ⟨-, h⟩ | ⟨d, h, -⟩ | ⟨h, -⟩
      · cases h
      · exact Or.inr ⟨d, h⟩
      · exact Or.inl h
    obtain ⟨bs, t₁, hbs, ht₁, hpcs, hflag, hlocals, hsends⟩ := exists_called sid
      (s := { s with gate := g, cancelPc := update s.cancelPc j pc, owner := o, revoked := rs })
      (j := j) (i := i) (by simpa only [update_self] using hplace)
    obtain ⟨cs, u, hcs, hu', hcan, hlocals', hsends'⟩ :=
      goesCancelled_of_entered sid (s := t₁) (i := i) (by rw [hpcs]; exact hi) hflag
    refine ⟨bs ++ cs, u, fun b hb => ?_, ?_, fun htold => ?_⟩
    · rcases List.mem_append.1 hb with hb | hb
      · exact hbs b hb
      · exact hcs b hb
    · rw [Lts.exec_append_of_exec ht₁, hu']
    · obtain ⟨k, d, hk, hd, hloop⟩ := htold i hcan
      rw [hlocals', hlocals] at hk
      have hkj : k = j := by
        rcases List.mem_append.1 hk with hold | hnew
        · have hheld : (books sid s).held none = some i := congrArg (Option.map Token.turn) hc
          exact absurd (List.mem_map.2 ⟨_, hold, rfl⟩) (hb.unspent none i hheld)
        · exact (Prod.mk.inj (List.mem_singleton.1 hnew)).1
      rw [hsends', hkj] at hd
      rcases hsends _ hd with hold | ⟨d', hp, hpc'⟩
      · exact unsent_of_idle hu hj d hold
      · simp only [update_self] at hpc'
        rw [(Prod.mk.inj hp).2] at hloop
        exact hno d' (htaken d' hpc') hloop

/-! ## Runs -/

theorem sound_init : Custody.Sound (books sid init) := by
  refine Custody.sound_empty.grow ?_ rfl (Set.empty_subset _)
  funext p
  cases p <;> rfl

theorem warned_init : Warned loop init where
  told i hi := by rcases hi with hi | hi <;> cases hi
  ran _ _ hj := absurd hj List.not_mem_nil
  hands _ _ hj := (nomatch hj)
  flagged _ hi := (nomatch hi)

theorem sound_of_run (has : ∀ a ∈ as, a.ofExecute = true)
    (h : Lts.exec (step sid) init as = some s) : Custody.Sound (books sid s) := by
  have hG : Lts.Guarded (step sid) (fun _ a => a.ofExecute = true) init as :=
    Lts.guarded_of_labels has
  exact Lts.inv_of_guarded (I := fun s => Custody.Sound (books sid s))
    (fun _ _ _ hb ha ht => sound_step hb (step_executed ha ht)) sound_init hG h

/-- **Run lemma.** -/
theorem warned_of_run (has : ∀ a ∈ as, a.ofExecute = true)
    (hG : Lts.Guarded (step sid) (SenderHeld sid loop) init as)
    (h : Lts.exec (step sid) init as = some s) : Warned loop s := by
  refine (Lts.inv_of_guarded (I := fun s => Custody.Sound (books sid s) ∧ Warned loop s) ?_
    ⟨sound_init, warned_init⟩ (hG.and_mem has) h).2
  intro s a t hI hG ht
  have hstep := step_executed hG.1 ht
  exact ⟨sound_step hI.1 hstep, warned_step hI.1 hI.2 hG.2 hstep⟩

/-- **Cancelled turns are told.** In a run of `execute` and `cancel` calls whose steps all meet the
condition, the `cancel` of every turn that returned `query cancelled` has called a sender for its
loop. A step that breaks the condition, from any run, opens one in which such a turn's has not. -/
theorem cancelled_told (sid : String) (loop : ℕ → String) :
    (∀ as s, (∀ a ∈ as, a.ofExecute = true) →
      Lts.Guarded (step sid) (SenderHeld sid loop) init as →
      Lts.exec (step sid) init as = some s → Told loop s) ∧
    (∀ as s a t, (∀ a ∈ as, a.ofExecute = true) → Lts.exec (step sid) init as = some s →
      a.ofExecute = true → ¬ SenderHeld sid loop s a → step sid s a = some t →
      ∃ bs u, (∀ b ∈ bs, b.ofExecute = true) ∧ Lts.exec (step sid) t bs = some u ∧
        ¬ Told loop u) := by
  constructor
  · intro as s has hG hs
    exact (warned_of_run has hG hs).told
  · intro as s a t has hs ha hG ht
    exact untold_of_broken (sound_of_run has hs) (unissued_of_run hs) hG ha ht

/-- A turn has registered its sender and sent its input. -/
def sentTurn : List Label := [.execute 0, .runTurn 0, .setSendCancel 0, .sendInput 0]

/-- It is cancelled, and returns. -/
def stopped : List Label :=
  [.cancel 0, .sendCancel 0, .sendDone 0, .localCancel 0, .finish 0 .cancelled, .release 0]

theorem guarded_of_ne (has : ∀ a ∈ as, ∀ j, a ≠ .cancel j) :
    Lts.Guarded (step sid) (SenderHeld sid loop) s as :=
  (Lts.guarded_of_labels has).mono fun _ _ h => senderHeld_of_ne h

theorem guarded_stopped :
    Lts.Guarded (step "s1") (SenderHeld "s1" fun _ => "l1") init (sentTurn ++ stopped) := by
  have hrun : (Lts.exec (step "s1") init sentTurn).map (fun s => s.gate.senderOf "s1") =
      some (some ⟨0, .run⟩) := by decide
  refine Lts.guarded_append.2 ⟨guarded_of_ne (by simp [sentTurn]), fun s hs => ?_⟩
  rw [hs] at hrun
  refine ⟨fun i _ _ => ⟨_, Option.some.inj hrun, rfl⟩, fun t _ => guarded_of_ne (by simp)⟩

/-- The condition at work: a turn that is cancelled after it has sent its input is told, and a
`cancel` before the turn has registered its sender breaks the condition. -/
theorem cancelled_told_stopped :
    (∃ s, Lts.exec (step "s1") init (sentTurn ++ stopped) = some s ∧ s.pc 0 = .done .cancelled ∧
      Told (fun _ => "l1") s) ∧
    ∃ s t, Lts.exec (step "s1") init [.execute 0, .runTurn 0] = some s ∧
      step "s1" s (.cancel 0) = some t ∧ ∃ bs u, (∀ b ∈ bs, b.ofExecute = true) ∧
        Lts.exec (step "s1") t bs = some u ∧ ¬ Told (fun _ => "l1") u := by
  constructor
  · have hrun : (Lts.exec (step "s1") init (sentTurn ++ stopped)).map (fun s => s.pc 0) =
        some (.done .cancelled) := by decide
    obtain ⟨s, hs, hpc⟩ := Option.map_eq_some_iff.1 hrun
    exact ⟨s, hs, hpc, (cancelled_told "s1" fun _ => "l1").1 _ s (by decide) guarded_stopped hs⟩
  · have hrun : (Lts.exec (step "s1") init [.execute 0, .runTurn 0]).map (fun s =>
        (s.gate.callbackOf "s1", s.gate.senderOf "s1", s.pc 0, s.cancelPc 0)) =
          some (some ⟨0, .run⟩, none, .poolAcquire, .idle) := by decide
    obtain ⟨s, hs, hv⟩ := Option.map_eq_some_iff.1 hrun
    simp only [Prod.mk.injEq] at hv
    obtain ⟨hc, hd, hpc, hj⟩ := hv
    have hstep : step "s1" s (.cancel 0) = some (s.cancelStep "s1" 0) := if_pos hj
    refine ⟨s, _, hs, hstep, (cancelled_told "s1" fun _ => "l1").2 _ s _ _ (by decide) hs rfl ?_
      hstep⟩
    intro hG
    obtain ⟨d, hd', -⟩ := hG 0 hc (Or.inr (by rw [hpc]; rfl))
    rw [hd] at hd'
    cases hd'

/-- A `cancel` that lands before `set_send_cancel` leaves the daemon running the query. -/
theorem cancelled_told_fails : ¬ ∀ (sid : String) (loop : ℕ → String) (as : List Label)
    (s : Flight), (∀ a ∈ as, a.ofExecute = true) →
    Lts.exec (step sid) init as = some s → Told loop s := by
  intro h
  have hrun : (Lts.exec (step "s1") init [.execute 0, .runTurn 0, .cancel 0, .localCancel 0,
      .setSendCancel 0, .sendInput 0, .finish 0 .cancelled]).map (fun s => (s.pc 0, s.sends)) =
        some (.returned .cancelled, []) := by decide
  obtain ⟨s, hs, hv⟩ := Option.map_eq_some_iff.1 hrun
  obtain ⟨hpc, hsends⟩ := Prod.mk.inj hv
  obtain ⟨j, d, -, hd, -⟩ := h "s1" (fun _ => "l1") _ s (by decide) hs 0 (Or.inl hpc)
  rw [hsends] at hd
  cases hd

end Flight

end SootheClient.Gate
