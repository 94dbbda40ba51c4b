import SootheClient.Gate.Steps

/-!
# The reservation of a session

The gate has no reservation token: `cancel` takes the entry of a key out before the turn that made
it has observed its flag, and every turn ends with a `release` by key. So a session acquired again
while a cancelled turn is still on its way out has two turns in flight.

`Undisturbed` is the condition on a step that rules this out, and `Owned` the invariant of the
runs whose steps all meet it.
-/

namespace SootheClient.Gate

open Function (update update_self update_of_ne)

namespace Flight

variable {sid : String} {s t u : Flight} {i j : ℕ} {a : Label}

/-- No session is reserved while a cancelled turn is on its way out, and no `execute_reserved`
goes ahead on another call's reservation. -/
def Undisturbed (sid : String) (s : Flight) : Label → Prop
  | .execute _ | .reserve _ _ => s.gate.isActive sid = true ∨ ∀ j, ¬ s.Orphan j
  | .executeReserved i => s.revoked i = true → s.gate.isActive sid = false
  | _ => True

/-- What the gate holds is the reservation of one call, and it is the last one not cancelled. -/
structure Owned (sid : String) (s : Flight) : Prop where
  vacant : s.owner = none →
    s.gate.cancels.lookup sid = none ∧ s.gate.sendCancels.lookup sid = none
  held : ∀ i, s.owner = some i → (s.pc i).holding = true ∧ s.revoked i = false ∧
    (s.cancelOf i).isSome ∧ s.gate.cancels.lookup sid = s.cancelOf i ∧
    s.gate.sendCancels.lookup sid = s.sendOf i
  holder : ∀ i, (s.pc i).holding = true → s.revoked i = false → s.owner = some i
  orphan : ∀ j, s.Orphan j → s.owner = none
  orphan_unique : ∀ i j, s.Orphan i → s.Orphan j → i = j
  idle : ∀ i, s.pc i = .idle → s.revoked i = false
  fresh : ∃ n, ∀ k ≥ n, s.pc k = .idle

theorem holding_of_unfinished {p : Pc} (h : p.unfinished = true) : p.holding = true := by
  simp [Pc.holding, h]

theorem unfinished_of_live {p : Pc} (h : p.live = true) : p.unfinished = true := by
  cases p <;> first | rfl | cases h

theorem owned_init : Owned sid init where
  vacant _ := ⟨rfl, rfl⟩
  held _ h := by cases h
  holder _ h := by cases h
  orphan _ h := by cases h.1
  orphan_unique _ _ h := by cases h.1
  idle _ _ := rfl
  fresh := ⟨0, fun _ _ => rfl⟩

theorem Owned.isActive_iff (h : Owned sid s) : s.gate.isActive sid = true ↔ s.owner ≠ none := by
  constructor
  · intro ha hn
    rw [QueryGate.isActive, (h.vacant hn).1] at ha
    cases ha
  · intro hn
    obtain ⟨i, hi⟩ := Option.ne_none_iff_exists'.1 hn
    obtain ⟨-, -, hs, hc, -⟩ := h.held i hi
    rw [QueryGate.isActive, hc]
    exact hs

theorem Owned.inactive (h : Owned sid s) (hn : s.owner = none) : s.gate.isActive sid = false :=
  QueryGate.isActive_eq_false.2 (h.vacant hn).1

/-- While a call is unfinished, the reservation in the gate is no other call's. -/
theorem Owned.owner_of_unfinished (h : Owned sid s) (hi : (s.pc i).unfinished = true) :
    s.owner = none ∨ s.owner = some i := by
  cases hr : s.revoked i with
  | true => exact Or.inl (h.orphan i ⟨hr, hi⟩)
  | false => exact Or.inr (h.holder i (holding_of_unfinished hi) hr)

/-- **At most one unfinished call.** -/
theorem Owned.unfinished_unique (h : Owned sid s) (hi : (s.pc i).unfinished = true)
    (hj : (s.pc j).unfinished = true) : i = j := by
  cases hri : s.revoked i with
  | true =>
    cases hrj : s.revoked j with
    | true => exact h.orphan_unique i j ⟨hri, hi⟩ ⟨hrj, hj⟩
    | false =>
      have ho := h.holder j (holding_of_unfinished hj) hrj
      rw [h.orphan i ⟨hri, hi⟩] at ho
      cases ho
  | false =>
    have ho := h.holder i (holding_of_unfinished hi) hri
    rcases h.owner_of_unfinished hj with hn | hn
    · rw [hn] at ho; cases ho
    · rw [hn] at ho; exact (Option.some.inj ho).symm

theorem fresh_update {q : Pc} (h : ∃ n, ∀ k ≥ n, s.pc k = .idle) :
    ∃ n, ∀ k ≥ n, update s.pc i q k = .idle := by
  obtain ⟨n, hn⟩ := h
  refine ⟨max n (i + 1), fun k hk => ?_⟩
  rw [update_of_ne (by omega)]
  exact hn k (by omega)

/-- A step that only moves call `i`, and neither makes nor ends its hold. -/
theorem Owned.move (h : Owned sid s) {q : Pc} (hh : q.holding = (s.pc i).holding)
    (hu : q.unfinished = true → (s.pc i).unfinished = true ∨ s.revoked i = false)
    (hq : q ≠ .idle) : Owned sid { s with pc := update s.pc i q } := by
  have hhold : ∀ k, (update s.pc i q k).holding = (s.pc k).holding := by
    intro k
    rcases eq_or_ne k i with rfl | hk
    · rw [update_self, hh]
    · rw [update_of_ne hk]
  have horph : ∀ k, Orphan { s with pc := update s.pc i q } k → s.Orphan k := by
    rintro k ⟨hr, hk⟩
    rcases eq_or_ne k i with rfl | hne
    · simp only [update_self] at hk
      rcases hu hk with hk | hf
      · exact ⟨hr, hk⟩
      · exact absurd hr (by simp [hf])
    · exact ⟨hr, by simpa [hne] using hk⟩
  refine ⟨h.vacant, fun k hk => ?_, fun k hk hr => ?_, fun k hk => h.orphan k (horph k hk),
    fun k l hk hl => h.orphan_unique k l (horph k hk) (horph l hl), fun k hk => ?_,
    fresh_update h.fresh⟩
  · obtain ⟨h1, h2⟩ := h.held k hk
    exact ⟨(hhold k).trans h1, h2⟩
  · exact h.holder k ((hhold k).symm.trans hk) hr
  · rcases eq_or_ne k i with rfl | hne
    · simp only [update_self] at hk
      exact absurd hk hq
    · exact h.idle k (by simpa [hne] using hk)

/-- A call that holds nothing ends. -/
theorem Owned.ends (h : Owned sid s) {r : Outcome}
    (hi : (s.pc i).holding = false ∨ s.revoked i = true) :
    Owned sid { s with pc := update s.pc i (.done r) } := by
  have hback : ∀ k, (update s.pc i (.done r) k).holding = true → k ≠ i ∧ (s.pc k).holding = true := by
    intro k hk
    rcases eq_or_ne k i with rfl | hne
    · rw [update_self] at hk; cases hk
    · rw [update_of_ne hne] at hk; exact ⟨hne, hk⟩
  have horph : ∀ k, Orphan { s with pc := update s.pc i (.done r) } k → s.Orphan k := by
    rintro k ⟨hr, hk⟩
    obtain ⟨hne, -⟩ := hback k (holding_of_unfinished hk)
    exact ⟨hr, by simpa [hne] using hk⟩
  refine ⟨h.vacant, fun k hk => ?_, fun k hk hr => h.holder k (hback k hk).2 hr,
    fun k hk => h.orphan k (horph k hk),
    fun k l hk hl => h.orphan_unique k l (horph k hk) (horph l hl), fun k hk => ?_,
    fresh_update h.fresh⟩
  · obtain ⟨h1, h2, h3⟩ := h.held k hk
    have hne : k ≠ i := by
      rintro rfl
      rcases hi with hi | hi
      · rw [hi] at h1; cases h1
      · rw [hi] at h2; cases h2
    exact ⟨by simpa [hne] using h1, h2, h3⟩
  · rcases eq_or_ne k i with rfl | hne
    · simp at hk
    · exact h.idle k (by simpa [hne] using hk)

theorem Owned.acquireStep (h : Owned sid s) {c : Token} {d? : Option Token} {q : Pc}
    (hi : s.pc i = .idle) (hq : q.holding = true) (hqi : q ≠ .idle)
    (hG : s.gate.isActive sid = true ∨ ∀ j, ¬ s.Orphan j) :
    Owned sid (s.acquireStep sid i c d? q) := by
  unfold Flight.acquireStep
  split
  · exact h.ends (Or.inl (by rw [hi]; rfl))
  · rename_i g hg
    obtain ⟨hfree, hc, hd⟩ := QueryGate.acquire_spec hg
    have hown : s.owner = none := by
      by_contra hn
      rw [h.isActive_iff.2 hn] at hfree
      cases hfree
    have hno : ∀ j, ¬ s.Orphan j := hG.resolve_left (by simp [hfree])
    rw [(h.vacant hown).2, Option.or_none] at hd
    have horph : ∀ k, ¬ ((s.revoked k = true) ∧ (update s.pc i q k).unfinished = true) := by
      rintro k ⟨hr, hk⟩
      rcases eq_or_ne k i with rfl | hne
      · rw [h.idle k hi] at hr; cases hr
      · rw [update_of_ne hne] at hk; exact hno k ⟨hr, hk⟩
    refine ⟨fun hn => (nomatch hn), fun k hk => ?_, fun k hk hr => ?_,
      fun k hk => (horph k hk).elim, fun k _ hk => (horph k hk).elim, fun k hk => ?_,
      fresh_update h.fresh⟩
    · obtain rfl := Option.some.inj hk
      simp [hq, h.idle i hi, hc, hd]
    · rcases eq_or_ne k i with rfl | hne
      · rfl
      · have := h.holder k (by simpa [hne] using hk) hr
        rw [hown] at this
        cases this
    · rcases eq_or_ne k i with rfl | hne
      · exact absurd (by simpa using hk) hqi
      · exact h.idle k (by simpa [hne] using hk)

/-- `cancel` takes the owner's reservation; the owner becomes the only orphan. -/
theorem Owned.cancelStep (h : Owned sid s) : Owned sid (s.cancelStep sid j) := by
  cases ho : s.owner with
  | none =>
    refine ⟨fun _ => by simp [Flight.cancelStep], fun k hk => (nomatch hk), fun k hk hr => ?_,
      fun _ _ => rfl, fun k l hk hl => ?_, fun k hk => ?_, h.fresh⟩
    · simp only [Flight.cancelStep, ho] at hk hr
      have := h.holder k hk hr
      rw [ho] at this
      cases this
    · simp only [Orphan, Flight.cancelStep, ho] at hk hl
      exact h.orphan_unique k l hk hl
    · simp only [Flight.cancelStep, ho] at hk ⊢
      exact h.idle k hk
  | some i =>
    obtain ⟨hhold, -⟩ := h.held i ho
    have hnone : ∀ k, ¬ s.Orphan k := fun k hk => by
      have := h.orphan k hk
      rw [ho] at this
      cases this
    have honly : ∀ k, Orphan (s.cancelStep sid j) k → k = i := by
      rintro k ⟨hr, hk⟩
      by_contra hne
      simp only [Flight.cancelStep, ho, update_of_ne hne] at hr hk
      exact hnone k ⟨hr, hk⟩
    refine ⟨fun _ => by simp [Flight.cancelStep], fun k hk => (nomatch hk), fun k hk hr => ?_,
      fun _ _ => rfl, fun k l hk hl => (honly k hk).trans (honly l hl).symm, fun k hk => ?_,
      h.fresh⟩
    · simp only [Flight.cancelStep, ho] at hk hr
      rcases eq_or_ne k i with rfl | hne
      · rw [update_self] at hr; cases hr
      · rw [update_of_ne hne] at hr
        have := h.holder k hk hr
        rw [ho, Option.some.injEq] at this
        exact absurd this.symm hne
    · simp only [Flight.cancelStep, ho] at hk ⊢
      rcases eq_or_ne k i with rfl | hne
      · rw [hk] at hhold; cases hhold
      · rw [update_of_ne hne]; exact h.idle k hk

/-- A call on its way registers callbacks; the gate takes them when the reservation is its own. -/
theorem Owned.register (h : Owned sid s) {g : QueryGate Token Token} {q : Pc}
    {c d : Option Token} (hi : (s.pc i).unfinished = true) (hq : q.unfinished = true)
    (hnone : s.owner = none → g = s.gate)
    (hown : s.owner = some i →
      c.isSome ∧ g.cancels.lookup sid = c ∧ g.sendCancels.lookup sid = d) :
    Owned sid { s with
      gate := g
      pc := update s.pc i q
      cancelOf := update s.cancelOf i c
      sendOf := update s.sendOf i d } := by
  have hm := h.move (i := i) (q := q)
    (by rw [holding_of_unfinished hi, holding_of_unfinished hq]) (fun _ => Or.inl hi)
    (by rintro rfl; cases hq)
  refine ⟨fun hn => by simpa only [hnone hn] using h.vacant hn, fun k hk => ?_, hm.holder,
    hm.orphan, hm.orphan_unique, hm.idle, hm.fresh⟩
  have hki : k = i := by
    rcases h.owner_of_unfinished hi with hn | hn
    · rw [hk] at hn; cases hn
    · rw [hk] at hn; exact Option.some.inj hn
  subst hki
  obtain ⟨h1, h2, -⟩ := hm.held k hk
  exact ⟨h1, h2, by simpa using hown hk⟩

theorem Owned.release (h : Owned sid s) {r : Outcome} (hi : s.pc i = .returned r) :
    Owned sid { s with
      gate := s.gate.release sid
      pc := update s.pc i (.done r)
      owner := none } := by
  have hui : (s.pc i).unfinished = true := by rw [hi]; rfl
  have hback : ∀ k, (update s.pc i (.done r) k).holding = true → k ≠ i ∧ (s.pc k).holding = true := by
    intro k hk
    rcases eq_or_ne k i with rfl | hne
    · rw [update_self] at hk; cases hk
    · rw [update_of_ne hne] at hk; exact ⟨hne, hk⟩
  refine ⟨fun _ => by simp, fun k hk => (nomatch hk), fun k hk hr => ?_, fun _ _ => rfl,
    fun k l hk hl => ?_, fun k hk => ?_, fresh_update h.fresh⟩
  · obtain ⟨hne, hk⟩ := hback k hk
    have ho := h.holder k hk hr
    rcases h.owner_of_unfinished hui with hn | hn
    · rw [hn] at ho; cases ho
    · rw [hn] at ho; exact absurd (Option.some.inj ho).symm hne
  · obtain ⟨hnk, -⟩ := hback k (holding_of_unfinished hk.2)
    obtain ⟨hnl, -⟩ := hback l (holding_of_unfinished hl.2)
    exact h.orphan_unique k l ⟨hk.1, by simpa [hnk] using hk.2⟩ ⟨hl.1, by simpa [hnl] using hl.2⟩
  · rcases eq_or_ne k i with rfl | hne
    · simp at hk
    · exact h.idle k (by simpa [hne] using hk)

/-- **Step lemma.** -/
theorem owned_step (s : Flight) (a : Label) (t : Flight) (h : Owned sid s)
    (hG : Undisturbed sid s a) (ht : step sid s a = some t) : Owned sid t := by
  cases step_inv ht with
  | execute i hi => exact h.acquireStep hi rfl (by simp) hG
  | reserve i withSend hi => exact h.acquireStep hi rfl (by simp) hG
  | executeReserved i hi =>
    by_cases hact : s.gate.isActive sid = true
    · simp only [hact, if_true]
      have hr : s.revoked i = false := by
        by_contra hr
        rw [hG (by simpa using hr)] at hact
        cases hact
      exact h.move (by rw [hi]; rfl) (fun _ => Or.inr hr) (by simp)
    · simp only [hact]
      refine h.ends ?_
      cases hr : s.revoked i with
      | true => exact Or.inr rfl
      | false =>
        have ho := h.holder i (by rw [hi]; rfl) hr
        exact absurd (h.isActive_iff.2 (by simp [ho])) hact
  | replaceCancel i hi =>
    have hreg := h.register (i := i) (g := s.gate.replaceCancel sid ⟨i, .run⟩) (q := .entering)
      (c := some ⟨i, .run⟩) (d := s.sendOf i) (by rw [hi]; rfl) rfl
      (fun hn => QueryGate.replaceCancel_of_inactive (h.inactive hn))
      (fun ho => ⟨rfl,
        QueryGate.replaceCancel_cancels (h.isActive_iff.2 (by simp [ho])),
        by rw [QueryGate.replaceCancel_sendCancels]; exact (h.held i ho).2.2.2.2⟩)
    rwa [Function.update_eq_self] at hreg
  | runTurn i hi => exact h.move (by rw [hi]; rfl) (fun _ => Or.inl (by rw [hi]; rfl)) (by simp)
  | setSendCancel i hi =>
    have hreg := h.register (i := i) (g := s.gate.setSendCancel sid ⟨i, .run⟩) (q := .registered)
      (c := s.cancelOf i) (d := some ⟨i, .run⟩) (by rw [hi]; rfl) rfl
      (fun hn => QueryGate.setSendCancel_of_inactive (h.inactive hn))
      (fun ho => by
        obtain ⟨-, -, hs, hc, -⟩ := h.held i ho
        exact ⟨hs, by rw [QueryGate.setSendCancel_cancels]; exact hc,
          QueryGate.setSendCancel_sendCancels (h.isActive_iff.2 (by simp [ho]))⟩)
    rwa [Function.update_eq_self] at hreg
  | sendInput i hi => exact h.move (by rw [hi]; rfl) (fun _ => Or.inl (by rw [hi]; rfl)) (by simp)
  | finish i r hi =>
    have hu := unfinished_of_live hi
    exact h.move (by rw [holding_of_unfinished hu]; rfl) (fun _ => Or.inl hu) (by simp)
  | release i r hi => exact h.release hi
  | cancel j => exact h.cancelStep
  | sendCancel | sendDone =>
    exact ⟨h.vacant, h.held, h.holder, h.orphan, h.orphan_unique, h.idle, h.fresh⟩
  | localCancel j c =>
    cases c <;>
      exact ⟨h.vacant, h.held, h.holder, h.orphan, h.orphan_unique, h.idle, h.fresh⟩

/-- **Run lemma.** -/
theorem owned_of_run {as : List Label} (hG : Lts.Guarded (step sid) (Undisturbed sid) init as)
    (h : Lts.exec (step sid) init as = some s) : Owned sid s :=
  Lts.inv_of_guarded owned_step owned_init hG h

end Flight

end SootheClient.Gate
