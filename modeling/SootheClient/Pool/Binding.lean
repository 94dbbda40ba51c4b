import SootheClient.Pool.Slots

/-!
# Binding sessions to loops

In a sequential run over a lawful store every active connection carries the loop id that the store
has for its session, up to white space. `Stage` says for each place of a call what holds of its
session; the other sessions are as they were when the call began.
-/

namespace SootheClient.Pool

open Function (update update_self update_of_ne)

variable {Cl σ : Type*}

/-- What the pool relies on in a store: a loop id that is created or set is found, and no method
touches the loop id of another session. -/
structure Lawful (S : LoopSessionStore σ) : Prop where
  created : ∀ {st record}, S.getSession st record.sessionId = none →
    S.getLoopIdForSession (S.createSession st record) record.sessionId = record.loopId
  created_other : ∀ {st record key}, key ≠ record.sessionId →
    S.getLoopIdForSession (S.createSession st record) key = S.getLoopIdForSession st key
  bound : ∀ {st key loopId}, S.getLoopIdForSession (S.setLoopId st key loopId) key = some loopId
  bound_other : ∀ {st key loopId key'}, key' ≠ key →
    S.getLoopIdForSession (S.setLoopId st key loopId) key' = S.getLoopIdForSession st key'
  touched : ∀ {st key key'},
    S.getLoopIdForSession (S.updateLastUsed st key) key' = S.getLoopIdForSession st key'

/-- The process-local store is lawful. -/
theorem lawful_inMemory : Lawful inMemoryLoopSessionStore where
  created := by
    intro st record _
    show (AList.lookup record.sessionId (st.insert record.sessionId record)).bind _ = _
    rw [AList.lookup_insert]
    rfl
  created_other := by
    intro st record key hne
    show (AList.lookup key (st.insert record.sessionId record)).bind _ = _
    rw [AList.lookup_insert_ne hne]
    rfl
  bound := by
    intro st key loopId
    unfold inMemoryLoopSessionStore
    simp only
    cases AList.lookup key st with
    | none => simp only [AList.lookup_insert, Option.bind_some]
    | some rec => simp only [AList.lookup_insert, Option.bind_some]
  bound_other := by
    intro st key loopId key' hne
    unfold inMemoryLoopSessionStore
    simp only
    cases AList.lookup key st with
    | none => simp only [AList.lookup_insert_ne hne]
    | some rec => simp only [AList.lookup_insert_ne hne]
  touched := rfl

namespace System

variable (P : ConnectionPool Cl σ)

/-- The stored loop id of a session. -/
def stored (st : σ) (key : String) : Option String := P.store.getLoopIdForSession st key

/-- The stored loop id of the session is `l`, up to white space. -/
def Agrees (st : σ) (key l : String) : Prop :=
  ∃ l', stored P st key = some l' ∧ Text.trim l' = Text.trim l

/-- What holds of the session `key` of a call at its place; `old` is what was stored when the call
began. -/
def Stage (old : Option String) (slots : StrMap (PooledConn Cl)) (st : σ) (key : String) :
    Pc Cl → Prop
  | .idle => False
  | .lookup | .remove .returned | .remove .pull => stored P st key = old
  | .check c | .touch c => slots.lookup key = some c ∧ stored P st key = old
  | .resume _ l => slots.lookup key = none ∧ stored P st key = old ∧ Agrees P st key l
  | .write _ _ exists_ =>
    slots.lookup key = none ∧ stored P st key = old ∧
      exists_ = (P.store.getSession st key).isSome
  | .finish _ l => slots.lookup key = none ∧ Agrees P st key l
  | .insert c => slots.lookup key = none ∧ Agrees P st key c.loopId
  | .done (.ok c) => slots.lookup key = some c ∧ Agrees P st key c.loopId
  | _ => slots.lookup key = none ∧ stored P st key = old

/-- Every active connection has the stored loop id of its session. -/
def Bound (s : System Cl σ) : Prop :=
  ∀ key c, s.state.activeSlots.lookup key = some c → Agrees P s.store key c.loopId

/-- Call `i` of the session `key`, which began in `s`, has come to `v`. -/
structure Serves (s : System Cl σ) (i : ℕ) (key : String) (v : System Cl σ) : Prop where
  session : v.sid i = key
  bound : Bound P v
  others : ∀ key' ≠ key,
    v.state.activeSlots.lookup key' = s.state.activeSlots.lookup key' ∧
      stored P v.store key' = stored P s.store key'
  stage : Stage P (stored P s.store key) v.state.activeSlots v.store key (v.pc i)

variable {P}
variable {s t v : System Cl σ} {a : Label} {as bs cs : List Label} {i k : ℕ} {key l : String}
  {c : PooledConn Cl} {old : Option String} {slots : StrMap (PooledConn Cl)} {st st' : σ}

theorem agrees_trim (h : stored P st key = some l) : Agrees P st key (Text.trim l) :=
  ⟨l, h, (Text.trim_trim l).symm⟩

theorem Agrees.congr (h : Agrees P st key l) (hst : stored P st' key = stored P st key) :
    Agrees P st' key l := by
  obtain ⟨l', hl', htrim⟩ := h
  exact ⟨l', hst.trans hl', htrim⟩

/-- Where a `release` goes on nothing is active. -/
theorem stage_pc {k : After} (hnone : slots.lookup key = none) (hold : stored P st key = old) :
    Stage P old slots st key k.pc := by
  cases k with
  | returned => exact ⟨hnone, hold⟩
  | pull => exact ⟨hnone, hold⟩
  | fail e => exact ⟨hnone, hold⟩

/-- A session has a loop to resume when a loop id is stored that is neither blank nor pending. -/
theorem loopIdFor_cases (P : ConnectionPool Cl σ) (st : σ) (key : String) :
    P.loopIdFor st key = ("", false) ∨
      ∃ l, stored P st key = some l ∧ Text.trim l ≠ "" ∧ P.loopIdFor st key = (Text.trim l, true) := by
  unfold ConnectionPool.loopIdFor
  cases hl : P.store.getLoopIdForSession st key with
  | none => exact Or.inl rfl
  | some l =>
    by_cases hskip : ((Text.trim l).isEmpty || Text.startsWith (Text.trim l) "pending-") = true
    · exact Or.inl (if_pos hskip)
    · refine Or.inr ⟨l, hl, fun hempty => hskip ?_, if_neg hskip⟩
      rw [hempty]
      rfl

theorem loopPc_fresh (h : P.loopIdFor s.store (s.sid i) = ("", false)) :
    s.loopPc P i c = .connect c true := by
  unfold loopPc
  rw [h]
  rfl

theorem loopPc_stored (h : P.loopIdFor s.store (s.sid i) = (l, true)) (hne : l ≠ "") :
    s.loopPc P i c = .resume c l := by
  unfold loopPc
  rw [h]
  have hempty : l.isEmpty = false := Bool.eq_false_iff.2 fun hc => hne (String.isEmpty_iff.1 hc)
  simp only [hempty]
  rfl

/-- A stored loop is resumed under its trimmed id. -/
theorem stage_loopPc (hnone : slots.lookup (s.sid i) = none)
    (hold : stored P s.store (s.sid i) = old) :
    Stage P old slots s.store (s.sid i) (s.loopPc P i c) := by
  rcases loopIdFor_cases P s.store (s.sid i) with h | ⟨l, hl, hne, h⟩
  · rw [loopPc_fresh h]
    exact ⟨hnone, hold⟩
  · rw [loopPc_stored h hne]
    exact ⟨hnone, hold, agrees_trim hl⟩

/-! ## One step of the call -/

/-- A step that leaves the active slots and the stored loop ids alone. -/
theorem Serves.quiet (h : Serves P s i key v) (hargs : t.args = v.args)
    (hslots : t.state.activeSlots = v.state.activeSlots)
    (hst : ∀ key', stored P t.store key' = stored P v.store key')
    (hstage : Stage P (stored P s.store key) t.state.activeSlots t.store key (t.pc i)) :
    Serves P s i key t where
  session := (congrArg (fun args => (args i).sessionId) hargs).trans h.session
  bound := by
    intro key' c hc
    rw [hslots] at hc
    exact (h.bound key' c hc).congr (hst key')
  others := by
    intro key' hne
    rw [hslots, hst key']
    exact h.others key' hne
  stage := hstage

/-- A step that only moves the call. -/
theorem Serves.goto (h : Serves P s i key v) {p : Pc Cl} {d : ℕ → Bool}
    (hstage : Stage P (stored P s.store key) v.state.activeSlots v.store key p) :
    Serves P s i key { v.goto i p with closed := d } := by
  refine h.quiet rfl rfl (fun _ => rfl) ?_
  rw [show ({ v.goto i p with closed := d } : System Cl σ).pc i = p from update_self _ _ _]
  exact hstage

/-- A `release` does not touch the stored loop id. -/
theorem Serves.stored_of_remove (h : Serves P s i key v) {k : After} (hi : v.pc i = .remove k) :
    stored P v.store key = stored P s.store key := by
  have hstage := h.stage
  rw [hi] at hstage
  cases k with
  | returned => exact hstage
  | pull => exact hstage
  | fail e => exact hstage.2

/-- `release` takes the connection of the session out. -/
theorem Serves.remove (h : Serves P s i key v) {k : After} (hi : v.pc i = .remove k) :
    Serves P s i key
      { v with
        state := v.state.remove (v.sid i)
        pc := update v.pc i (.closing c k)
        torn := update v.torn c.call (some i) } := by
  rw [h.session]
  refine ⟨h.session, fun key' c' hc => ?_, fun key' hne => ?_, ?_⟩
  · have hc : (v.state.activeSlots.erase key).lookup key' = some c' := hc
    by_cases hkey : key' = key
    · rw [hkey, AList.lookup_erase] at hc
      cases hc
    · rw [AList.lookup_erase_ne hkey] at hc
      exact h.bound key' c' hc
  · refine ⟨?_, (h.others key' hne).2⟩
    exact (AList.lookup_erase_ne hne).trans (h.others key' hne).1
  · show Stage P _ (v.state.activeSlots.erase key) v.store key (update v.pc i (.closing c k) i)
    rw [update_self]
    exact ⟨AList.lookup_erase _ _, h.stored_of_remove hi⟩

/-- The new loop id is persisted, by a record or in the one that is there. -/
theorem stored_writeStep (hS : Lawful P.store) {exists_ : Bool}
    (he : exists_ = (P.store.getSession v.store (v.sid i)).isSome) :
    stored P (v.writeStep P i l exists_) (v.sid i) = some l := by
  unfold System.writeStep stored
  cases exists_ with
  | true => exact hS.bound
  | false =>
    have hnone : P.store.getSession v.store (v.sid i) = none :=
      Option.isNone_iff_eq_none.1 (Option.isSome_eq_false_iff.1 he.symm)
    rw [if_neg Bool.false_ne_true]
    refine hS.created ?_
    exact hnone

theorem stored_writeStep_of_ne (hS : Lawful P.store) {exists_ : Bool} (hne : key ≠ v.sid i) :
    stored P (v.writeStep P i l exists_) key = stored P v.store key := by
  unfold System.writeStep stored
  cases exists_ with
  | true => exact hS.bound_other hne
  | false => exact hS.created_other hne

theorem Serves.writeStep (hS : Lawful P.store) (h : Serves P s i key v) {exists_ : Bool}
    (hi : v.pc i = .write c l exists_) :
    Serves P s i key { v.goto i (.finish c l) with store := v.writeStep P i l exists_ } := by
  have hstage := h.stage
  rw [hi] at hstage
  obtain ⟨hnone, -, he⟩ := hstage
  rw [← h.session] at he
  refine ⟨h.session, fun key' c' hc => ?_, fun key' hne => ?_, ?_⟩
  · have hne : key' ≠ key := by
      rintro rfl
      exact absurd (hnone.symm.trans hc) (Option.some_ne_none _).symm
    exact (h.bound key' c' hc).congr (stored_writeStep_of_ne hS (h.session ▸ hne))
  · refine ⟨(h.others key' hne).1, ?_⟩
    exact (stored_writeStep_of_ne hS (h.session ▸ hne)).trans (h.others key' hne).2
  · show Stage P _ v.state.activeSlots _ key (update v.pc i (.finish c l) i)
    rw [update_self]
    refine ⟨hnone, l, ?_, rfl⟩
    rw [← h.session]
    exact stored_writeStep hS he

theorem Serves.insert (h : Serves P s i key v) (hi : v.pc i = .insert c) :
    Serves P s i key
      { v.goto i (.done (.ok c)) with state := v.state.insert (v.sid i) c } := by
  have hstage := h.stage
  rw [hi] at hstage
  rw [h.session]
  refine ⟨h.session, fun key' c' hc => ?_, fun key' hne => ?_, ?_⟩
  · have hc : (v.state.activeSlots.insert key c).lookup key' = some c' := hc
    by_cases hkey : key' = key
    · rw [hkey, AList.lookup_insert] at hc
      obtain rfl := Option.some.inj hc
      rw [hkey]
      exact hstage.2
    · rw [AList.lookup_insert_ne hkey] at hc
      exact h.bound key' c' hc
  · exact ⟨(AList.lookup_insert_ne hne).trans (h.others key' hne).1, (h.others key' hne).2⟩
  · show Stage P _ (v.state.activeSlots.insert key c) v.store key (update v.pc i (.done (.ok c)) i)
    rw [update_self]
    exact ⟨AList.lookup_insert _, hstage.2⟩

theorem trySend_activeSlots {ps : PoolState Cl} {n : ℕ} {slot : IdleSlot Cl} :
    (ps.trySend n slot).activeSlots = ps.activeSlots := by
  unfold PoolState.trySend
  split_ifs <;> rfl

/-- A step that touches the session's record. -/
theorem Serves.touch (hS : Lawful P.store) (h : Serves P s i key v) {p : Pc Cl} {key' : String}
    (hstage : Stage P (stored P s.store key) v.state.activeSlots
      (P.store.updateLastUsed v.store key') key p) :
    Serves P s i key { v.goto i p with store := P.store.updateLastUsed v.store key' } := by
  refine h.quiet rfl rfl (fun _ => hS.touched) ?_
  rw [show ({ v.goto i p with store := P.store.updateLastUsed v.store key' } : System Cl σ).pc i = p
    from update_self _ _ _]
  exact hstage

/-- **Step lemma.** -/
theorem serves_step (hS : Lawful P.store) (h : Serves P s i key v) (ha : a.call = i)
    (ht : step P v a = some t) : Serves P s i key t := by
  have hstage := h.stage
  cases step_inv ht with
  | acquire k args hi | release k sid hi =>
    obtain rfl : k = i := ha
    rw [hi] at hstage
    exact absurd hstage id
  | missing k hi hl =>
    obtain rfl : k = i := ha
    rw [hi] at hstage
    rw [h.session] at hl
    exact h.goto (d := v.closed) ⟨hl, hstage⟩
  | found k c hi hl =>
    obtain rfl : k = i := ha
    rw [hi] at hstage
    rw [h.session] at hl
    exact h.goto (d := v.closed) ⟨hl, hstage⟩
  | touch k c hi =>
    obtain rfl : k = i := ha
    rw [hi] at hstage
    exact h.touch hS ⟨hstage.1, (h.bound key c hstage.1).congr hS.touched⟩
  | absent k l hi hl =>
    obtain rfl : k = i := ha
    rw [h.session] at hl
    exact h.goto (d := v.closed) (stage_pc hl (h.stored_of_remove hi))
  | remove k c l hi hl =>
    obtain rfl : k = i := ha
    exact h.remove hi
  | closing k c l hi =>
    obtain rfl : k = i := ha
    rw [hi] at hstage
    exact h.goto hstage
  | giveBack k l hi =>
    obtain rfl : k = i := ha
    rw [hi] at hstage
    refine h.quiet rfl trySend_activeSlots (fun _ => rfl) ?_
    show Stage P _ (v.state.trySend _ _).activeSlots v.store key (update v.pc k l.pc k)
    rw [trySend_activeSlots, update_self]
    exact stage_pc hstage.1 hstage.2
  | exhausted k hi hidle =>
    obtain rfl : k = i := ha
    rw [hi] at hstage
    exact h.goto (d := v.closed) hstage
  | pull k slot rest hi hidle =>
    obtain rfl : k = i := ha
    rw [hi] at hstage
    refine h.quiet rfl rfl (fun _ => rfl) ?_
    rw [show (_ : System Cl σ).pc k = Pc.assign slot from update_self _ _ _]
    exact hstage
  | assign k slot hi =>
    obtain rfl : k = i := ha
    rw [hi] at hstage
    refine h.quiet rfl rfl (fun _ => rfl) ?_
    show Stage P _ v.state.activeSlots v.store key (update v.pc k (.loopIdFor _) k)
    rw [update_self]
    exact hstage
  | loopIdFor k c hi =>
    obtain rfl : k = i := ha
    rw [hi] at hstage
    refine h.goto (d := v.closed) ?_
    have hkey := h.session
    subst hkey
    exact stage_loopPc hstage.1 hstage.2
  | persist k c l hi =>
    obtain rfl : k = i := ha
    rw [hi] at hstage
    refine h.goto (d := v.closed) ⟨hstage.1, hstage.2, ?_⟩
    rw [h.session]
  | write k c l exists_ hi =>
    obtain rfl : k = i := ha
    exact h.writeStep hS hi
  | finish k c l hi =>
    obtain rfl : k = i := ha
    rw [hi] at hstage
    exact h.touch hS ⟨hstage.1, hstage.2.congr hS.touched⟩
  | insert k c hi =>
    obtain rfl : k = i := ha
    exact h.insert hi
  | check k c dropped elapsed hi =>
    obtain rfl : k = i := ha
    rw [hi] at hstage
    obtain hp | hp := checkPc_eq (P := P) (s := v) (c := c) dropped elapsed
    · rw [hp]
      exact h.goto (d := v.closed) hstage.2
    · rw [hp]
      exact h.goto (d := v.closed) hstage
  | connect k c fresh r hi =>
    obtain rfl : k = i := ha
    rw [hi] at hstage
    refine h.goto (d := v.closed) ?_
    cases r with
    | ok u => exact hstage
    | error e => cases fresh <;> exact hstage
  | bootstrap k c fresh r hi =>
    obtain rfl : k = i := ha
    rw [hi] at hstage
    refine h.goto (d := v.closed) ?_
    cases r with
    | ok l => exact hstage
    | error e => exact hstage
  | resume k c l ok hi =>
    obtain rfl : k = i := ha
    rw [hi] at hstage
    refine h.goto (d := v.closed) ?_
    cases ok with
    | true => exact ⟨hstage.1, hstage.2.2⟩
    | false => exact ⟨hstage.1, hstage.2.1⟩

/-! ## Runs -/

theorem serves_acquire {args : Args} (hb : Bound P s) (ht : step P s (.acquire i args) = some t) :
    Serves P s i args.sessionId t := by
  cases step_inv ht with
  | acquire _ _ hi =>
    refine ⟨?_, hb, fun _ _ => ⟨rfl, rfl⟩, ?_⟩
    · exact congrArg Args.sessionId (update_self i args s.args)
    · show Stage P _ s.state.activeSlots s.store _ (update s.pc i .lookup i)
      rw [update_self]
      exact rfl

theorem serves_release (hb : Bound P s) (ht : step P s (.release i key) = some t) :
    Serves P s i key t := by
  cases step_inv ht with
  | release _ _ hi =>
    refine ⟨?_, hb, fun _ _ => ⟨rfl, rfl⟩, ?_⟩
    · exact congrArg Args.sessionId (update_self i { sessionId := key } s.args)
    · show Stage P _ s.state.activeSlots s.store _ (update s.pc i (.remove .returned) i)
      rw [update_self]
      exact rfl

/-- No call is in progress, or the one that is has come some way. -/
def InService (P : ConnectionPool Cl σ) (v : System Cl σ) : Prop :=
  Bound P v ∧ (v.Quiescent ∨ ∃ s i key, (∀ k ≠ i, (v.pc k).inProgress = false) ∧ Serves P s i key v)

theorem inService_init (store : σ) : InService P (init P store) :=
  ⟨fun _ _ h => (nomatch h), Or.inl fun _ => rfl⟩

theorem inService_step (hS : Lawful P.store) (s : System Cl σ) (a : Label) (t : System Cl σ)
    (h : InService P s) (hG : Sequential s a) (ht : step P s a = some t) : InService P t := by
  have hstart : ∀ {k key}, s.Quiescent → a.call = k → Serves P s k key t → InService P t := by
    intro k key hq hk hserves
    refine ⟨hserves.bound, Or.inr ⟨s, k, key, fun j hj => ?_, hserves⟩⟩
    rw [(step_frame ht (hk ▸ hj)).1]
    exact hq j
  cases a with
  | acquire k args => exact hstart hG rfl (serves_acquire h.1 ht)
  | release k sid => exact hstart hG rfl (serves_release h.1 ht)
  | next k | check k dropped elapsed | connect k r | bootstrap k r | resume k ok =>
    have hk := inProgress_of_step ht (fun _ _ => nofun) (fun _ _ => nofun)
    obtain ⟨-, hq | ⟨s₀, i, key, hothers, hserves⟩⟩ := h
    · exact (Bool.false_ne_true ((hq _).symm.trans hk)).elim
    obtain rfl : Label.call _ = i := by
      by_contra hne
      exact Bool.false_ne_true ((hothers _ hne).symm.trans hk)
    have hserves := serves_step hS hserves rfl ht
    refine ⟨hserves.bound, Or.inr ⟨s₀, _, key, fun j hj => ?_, hserves⟩⟩
    rw [(step_frame ht hj).1]
    exact hothers j hj

/-- **Run lemma.** After a sequential run every active connection has the stored loop id of its
session. -/
theorem bound_of_run (hS : Lawful P.store) {store : σ}
    (hG : Lts.Guarded (step P) Sequential (init P store) as)
    (h : Lts.exec (step P) (init P store) as = some s) : Bound P s :=
  (Lts.inv_of_guarded (I := InService P) (inService_step hS) (inService_init store) hG h).1

/-- The call, by itself, goes from one place to the next. -/
theorem serves_exec (hS : Lawful P.store) (h : Serves P s i key v) (hcs : ∀ a ∈ cs, a.call = i)
    (ht : Lts.exec (step P) v cs = some t) : Serves P s i key t := by
  have hG : Lts.Guarded (step P) (fun _ a => a.call = i) v cs := Lts.guarded_of_labels hcs
  exact Lts.inv_of_guarded (fun _ _ _ h ha hs => serves_step hS h ha hs) h hG ht

/-- **Binding agreement.** In a sequential run over a lawful store, an `acquire` that returns a
connection leaves it active, with the stored loop id up to white space; one that fails leaves the
session without a connection and its stored loop id as it was; and both leave the other sessions
alone. -/
theorem binding_agreement (P : ConnectionPool Cl σ) (hS : Lawful P.store) (store : σ)
    (bs cs : List Label) (i : ℕ) (args : Args) (s t : System Cl σ)
    (r : Except AcquireError (PooledConn Cl))
    (hG : Lts.Guarded (step P) Sequential (init P store) (bs ++ .acquire i args :: cs))
    (hs : Lts.exec (step P) (init P store) bs = some s)
    (ht : Lts.exec (step P) s (.acquire i args :: cs) = some t)
    (hcs : ∀ a ∈ cs, a.call = i) (hdone : t.pc i = .done r) :
    (∀ c, r = .ok c → t.state.activeSlots.lookup args.sessionId = some c ∧
      ∃ l, P.store.getLoopIdForSession t.store args.sessionId = some l ∧
        Text.trim l = Text.trim c.loopId) ∧
    (∀ e, r = .error e → t.state.activeSlots.lookup args.sessionId = none ∧
      P.store.getLoopIdForSession t.store args.sessionId =
        P.store.getLoopIdForSession s.store args.sessionId) ∧
    ∀ sid ≠ args.sessionId, t.state.activeSlots.lookup sid = s.state.activeSlots.lookup sid ∧
      P.store.getLoopIdForSession t.store sid = P.store.getLoopIdForSession s.store sid := by
  obtain ⟨u, hu, ht⟩ := Lts.exec_cons_eq_some.1 ht
  have hbound := bound_of_run hS (Lts.guarded_append.1 hG).1 hs
  have hserves := serves_exec hS (serves_acquire hbound hu) hcs ht
  have hstage := hserves.stage
  rw [hdone] at hstage
  refine ⟨fun c hc => ?_, fun e he => ?_, fun sid hne => hserves.others sid hne⟩
  · rw [hc] at hstage
    exact hstage
  · rw [he] at hstage
    exact hstage

/-- What call `i` does when no connection is active and no loop is stored: it bootstraps `l`. -/
def freshCourse (i : ℕ) (l : String) : List Label :=
  [.next i, .next i, .next i, .next i, .connect i (.ok ()), .bootstrap i (.ok l), .next i, .next i,
    .next i, .next i]

theorem guarded_freshCourse {args : Args} (hq : s.Quiescent) :
    Lts.Guarded (step P) Sequential s (.acquire i args :: freshCourse i l) := by
  refine ⟨hq, fun _ _ => ?_⟩
  iterate 10 refine ⟨trivial, fun _ _ => ?_⟩
  exact trivial

/-- The first `acquire` of a session binds it to a loop with blanks around its id. -/
theorem binding_agreement_fresh : ∃ (t : System String (StrMap LoopSessionEntry)) (c : _),
    Lts.exec (step oneSlot) (init oneSlot ∅)
      (.acquire 0 { sessionId := "s1" } :: freshCourse 0 " loop-1 ") = some t ∧
    t.pc 0 = .done (.ok c) ∧ t.state.activeSlots.lookup "s1" = some c ∧
      ∃ l, inMemoryLoopSessionStore.getLoopIdForSession t.store "s1" = some l ∧
        Text.trim l = Text.trim c.loopId := by
  have hrun := binding_agreement oneSlot lawful_inMemory ∅ [] (freshCourse 0 " loop-1 ") 0
    { sessionId := "s1" } (init oneSlot ∅) _ _ (guarded_freshCourse fun _ => rfl) rfl rfl
    (by decide) rfl
  exact ⟨_, _, rfl, rfl, hrun.1 _ rfl⟩

end System

end SootheClient.Pool
