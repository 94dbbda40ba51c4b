import SootheClient.Client.Steps

/-!
# Readers of earlier connections

Any number of calls dial, close and reconnect one client. Every connection that is dialed gets a
reader task, which the first step after `spawn` starts. A step is `Fenced` when a new sender is
stored only after every earlier reader has finished `mark_disconnected`.
-/

namespace SootheClient.Client

open Tasks

/-- The reader that takes the step. -/
def Label.readerOf : Label → Option ℕ
  | .receive e _ | .reader e => some e
  | _ => none

/-- The fields that belong to the newest connection are the same. -/
structure SameConnection (s t : Shared) : Prop where
  connected : t.connected = s.connected
  readerAlive : t.readerAlive = s.readerAlive
  writeTx : t.writeTx = s.writeTx
  disconnectCause : t.disconnectCause = s.disconnectCause
  rpcWaiters : t.rpcWaiters = s.rpcWaiters
  inbound : t.inbound = s.inbound

/-- A reader whose connection is no longer the newest one changes a field of the newest. -/
def Disturbance (w : Tasks) (a : Label) (w' : Tasks) : Prop :=
  Tasks.step w a = some w' ∧ ∃ e, a.readerOf = some e ∧ e + 1 < w.installed ∧
    ¬ SameConnection w.shared w'.shared

namespace ReaderPc

/-- `mark_disconnected` is through. -/
def finished : ReaderPc → Bool
  | .marking [] => true
  | _ => false

/-- The steps that the loop has to do before it reads again. -/
def work : ReaderPc → ℕ
  | .routing msgs => 4 * msgs.length + 1
  | .acking _ _ _ rest => 4 * rest.length + 4
  | .dispatching _ rest => 4 * rest.length + 3
  | .enqueueing _ rest => 4 * rest.length + 2
  | _ => 0

end ReaderPc

def FencedAt (w : Tasks) : Pc → Prop
  | .installing => ∀ e < w.installed, (w.reader e).finished = true
  | _ => True

/-- A new sender is stored when all readers are finished. -/
def Fenced (w : Tasks) : Label → Prop
  | .step i .next => FencedAt w (w.call i).pc
  | _ => True

instance (w : Tasks) : ∀ p, Decidable (FencedAt w p)
  | .installing => inferInstanceAs (Decidable (∀ e < w.installed, _ = _))
  | .idle | .checking | .dialing | .updating _ _ | .sendingInit _ | .awaiting _ | .sleeping
    | .closing | .notifying | .returned _ => isTrue trivial

instance (w : Tasks) : ∀ a, Decidable (Fenced w a)
  | .step _ .next => inferInstanceAs (Decidable (FencedAt w _))
  | .step _ .deadline | .step _ .dialed | .step _ .dialFailed => isTrue trivial
  | .call _ _ | .receive _ _ | .reader _ | .writerDown _ | .register _ | .unregister _
    | .readEvent => isTrue trivial

/-! ## Spawning -/

/-- The updates that are left before a connection's tasks are spawned, and the connection. -/
def Pc.spawns : Pc → Option (List Update × ℕ)
  | .updating rest (.spawn e) => some (rest, e)
  | _ => none

/-- A step of the call `i` that neither dials a connection nor spawns its tasks. -/
structure Moves (w w' : Tasks) (i : ℕ) : Prop where
  reader : w'.reader = w.reader
  installed : w'.installed = w.installed
  others : ∀ j, j ≠ i → w'.call j = w.call j
  spawns : ((w.call i).pc.spawns = none ∧ (w'.call i).pc.spawns = none) ∨
    ∃ u rest e, (w.call i).pc.spawns = some (u :: rest, e) ∧
      (w'.call i).pc.spawns = some (rest, e)

variable {w w' : Tasks} {i j e : ℕ} {a : Label} {c : Call} {p : Pc} {event : Event}
  {rest : List Update} {u : Update} {s : Shared}

theorem spawns_eq_some : p.spawns = some (rest, e) ↔ p = .updating rest (.spawn e) := by
  constructor
  · intro h
    unfold Pc.spawns at h
    split at h
    · cases h
      rfl
    · cases h
  · rintro rfl
    rfl

/-- A call moves between places outside `connect`'s updates. -/
theorem moves_of (hp : (w.call i).pc.spawns = none) (hc : c.pc.spawns = none)
    {sent : List (ℕ × Outgoing)} {acked : List (ℕ × Json)} :
    Moves w ({ w with shared := s, sent := sent, acked := acked }.setCall i c) i where
  reader := rfl
  installed := rfl
  others _ hj := setCall_call_ne hj
  spawns := Or.inl ⟨hp, by rw [setCall_call_self]; exact hc⟩

theorem moves_sendInit (hp : (w.call i).pc.spawns = none) : Moves w (w.sendInit i e) i := by
  obtain ⟨sent, p, hpc, heq⟩ := sendInit_eq (w := w) (i := i) (e := e)
  rw [heq]
  obtain rfl | ⟨err, rfl⟩ := hpc
  · exact moves_of hp rfl
  · exact moves_of hp rfl

theorem moves_onFrame {origin : ℕ} {msg : Json} {q : List (ℕ × Json)}
    (hp : (w.call i).pc.spawns = none) :
    Moves w ({ w with shared := { w.shared with inbound := q } }.onFrame i e origin msg) i := by
  unfold onFrame
  cases handshakeVerdict msg with
  | ignore => exact ⟨rfl, rfl, fun _ _ => rfl, Or.inl ⟨hp, hp⟩⟩
  | resend => exact moves_of hp rfl
  | accept state => exact moves_of hp rfl
  | fail err => exact moves_of hp rfl

/-- **Call steps.** A call dials, spawns the tasks of its connection, or moves. -/
theorem callStep_cases (h : w.callStep i event = some w') :
    (event = .next ∧ (w.call i).pc = .installing ∧ w' = w.install i) ∨
      (∃ e, (w.call i).pc = .updating [] (.spawn e) ∧
        w' = (w.setReader e .reading).setPc i (.sendingInit e)) ∨ Moves w w' i := by
  cases callStep_inv h with
  | install hp => exact Or.inl ⟨rfl, hp, rfl⟩
  | resume k hp =>
    cases k with
    | spawn e => exact Or.inr (Or.inl ⟨e, hp, rfl⟩)
    | connect | ok => exact Or.inr (Or.inr (moves_of (by rw [hp]; rfl) rfl))
  | update u rest k hp =>
    refine Or.inr (Or.inr ⟨rfl, rfl, fun _ hj => setPc_call_ne hj, ?_⟩)
    rw [setPc_pc_self, hp]
    cases k with
    | spawn e => exact Or.inr ⟨u, rest, e, rfl, rfl⟩
    | connect | ok => exact Or.inl ⟨rfl, rfl⟩
  | sendInit e hp => exact Or.inr (Or.inr (moves_sendInit (by rw [hp]; rfl)))
  | frame e ev q hp => exact Or.inr (Or.inr (moves_onFrame (by rw [hp]; rfl)))
  | connected hp | dial hp | dialed hp | dialFailed hp | deadline _ hp | retry _ _ _ hp | wake hp
  | notify hp | close hp | notified _ hp => exact Or.inr (Or.inr (moves_of (by rw [hp]; rfl) rfl))

theorem start_moves {op : Op} (h : w.free i = true) : Moves w (w.start i op) i := by
  have hp : (w.call i).pc.spawns = none := by
    unfold free at h
    cases hp : (w.call i).pc with
    | updating rest k =>
      rw [hp] at h
      cases h
    | idle | checking | dialing | installing | sendingInit | awaiting | sleeping | closing
      | notifying | returned => rfl
  cases op <;> exact moves_of hp rfl

/-- What a step can do. -/
inductive Taken (w : Tasks) : Label → Tasks → Prop
  | install (i : ℕ) (hp : (w.call i).pc = .installing) : Taken w (.step i .next) (w.install i)
  | spawn {a : Label} (i e : ℕ) (hp : (w.call i).pc = .updating [] (.spawn e)) :
    Taken w a ((w.setReader e .reading).setPc i (.sendingInit e))
  | moves {a : Label} {w' : Tasks} (i : ℕ) (h : Moves w w' i) : Taken w a w'
  | works {a : Label} {w' : Tasks} (e : ℕ) (h : Working w w' e) : Taken w a w'
  | marks {a : Label} {w' : Tasks} (e : ℕ) (h : Marks w w' e) : Taken w a w'
  | still {a : Label} {w' : Tasks} (hr : w'.reader = w.reader) (hi : w'.installed = w.installed)
    (hc : w'.call = w.call) : Taken w a w'

theorem step_taken (h : Tasks.step w a = some w') : Taken w a w' := by
  cases taskStep_inv h with
  | call i op hfree => exact .moves i (start_moves hfree)
  | step i event =>
    rcases callStep_cases h with ⟨rfl, hp, rfl⟩ | ⟨e, hp, rfl⟩ | hm
    · exact .install i hp
    · exact .spawn i e hp
    · exact .moves i hm
  | receive e item hr hs => exact .works e (working_received hr hs)
  | reader e =>
    rcases readerStep_cases h with hw | hm
    · exact .works e hw
    · exact .marks e hm
  | writerDown | register | unregister | readEvent => exact .still rfl rfl rfl

/-- Every connection without a reader is about to get one from a call of its own. -/
structure Owned (w : Tasks) : Prop where
  fresh : ∀ e, w.installed ≤ e → w.reader e = .unspawned
  marks : ∀ e rest, w.reader e = .marking rest → rest <:+ markDisconnected .unclean
  spawning : ∀ i rest e, (w.call i).pc.spawns = some (rest, e) →
    e < w.installed ∧ w.reader e = .unspawned
  unique : ∀ i j rest rest' e, (w.call i).pc.spawns = some (rest, e) →
    (w.call j).pc.spawns = some (rest', e) → i = j
  owner : ∀ e, e < w.installed → w.reader e = .unspawned →
    ∃ i rest, (w.call i).pc.spawns = some (rest, e)

theorem owned_init : Owned { shared := s } where
  fresh _ _ := rfl
  marks _ _ h := (nomatch h)
  spawning _ _ _ h := (nomatch h)
  unique _ _ _ _ _ h := (nomatch h)
  owner _ h := (nomatch h)

/-- A step of a reader that was spawned. -/
theorem Owned.reader (h : Owned w) (hs : w.reader e ≠ .unspawned) (hs' : w'.reader e ≠ .unspawned)
    (hm : ∀ rest, w'.reader e = .marking rest → rest <:+ markDisconnected .unclean)
    (ho : ∀ e', e' ≠ e → w'.reader e' = w.reader e') (hi : w'.installed = w.installed)
    (hc : w'.call = w.call) : Owned w' where
  fresh e' he' := by
    rw [hi] at he'
    have hne : e' ≠ e := by
      rintro rfl
      exact hs (h.fresh e' he')
    rw [ho e' hne]
    exact h.fresh e' he'
  marks e' rest hr := by
    by_cases hee : e' = e
    · subst hee
      exact hm rest hr
    · rw [ho e' hee] at hr
      exact h.marks e' rest hr
  spawning i rest e' hp := by
    rw [hc] at hp
    obtain ⟨hlt, hr⟩ := h.spawning i rest e' hp
    have hne : e' ≠ e := by
      rintro rfl
      exact hs hr
    rw [hi, ho e' hne]
    exact ⟨hlt, hr⟩
  unique := by
    rw [hc]
    exact h.unique
  owner e' hlt hr := by
    rw [hi] at hlt
    have hne : e' ≠ e := by
      rintro rfl
      exact hs' hr
    rw [ho e' hne] at hr
    rw [hc]
    exact h.owner e' hlt hr

theorem Owned.moves (h : Owned w) (hm : Moves w w' i) : Owned w' := by
  have hback : ∀ j rest e, (w'.call j).pc.spawns = some (rest, e) →
      ∃ rest', (w.call j).pc.spawns = some (rest', e) := by
    intro j rest e hp
    by_cases hj : j = i
    · subst hj
      rcases hm.spawns with ⟨-, hn⟩ | ⟨u, rest', e', hold, hnew⟩
      · rw [hn] at hp
        cases hp
      · rw [hnew] at hp
        cases hp
        exact ⟨_, hold⟩
    · rw [hm.others j hj] at hp
      exact ⟨rest, hp⟩
  refine ⟨?_, ?_, fun j rest e hp => ?_, fun j k rest rest' e hj hk => ?_, fun e hlt hr => ?_⟩
  · rw [hm.installed, hm.reader]
    exact h.fresh
  · rw [hm.reader]
    exact h.marks
  · obtain ⟨rest', hold⟩ := hback j rest e hp
    rw [hm.installed, hm.reader]
    exact h.spawning j rest' e hold
  · obtain ⟨_, hj⟩ := hback j rest e hj
    obtain ⟨_, hk⟩ := hback k rest' e hk
    exact h.unique j k _ _ e hj hk
  · rw [hm.installed] at hlt
    rw [hm.reader] at hr
    obtain ⟨j, rest, hp⟩ := h.owner e hlt hr
    by_cases hj : j = i
    · subst hj
      rcases hm.spawns with ⟨hn, -⟩ | ⟨u, rest', e', hold, hnew⟩
      · rw [hn] at hp
        cases hp
      · rw [hold] at hp
        cases hp
        exact ⟨j, rest', hnew⟩
    · exact ⟨j, rest, by rw [hm.others j hj]; exact hp⟩

theorem Owned.install (h : Owned w) (hp : (w.call i).pc = .installing) : Owned (w.install i) := by
  have hcall : ∀ j, j ≠ i → (w.install i).call j = w.call j := fun j hj => setPc_call_ne hj
  have hself : ((w.install i).call i).pc.spawns = some (publishUpdates, w.installed) := by
    unfold Tasks.install
    rw [setPc_pc_self]
    rfl
  refine ⟨fun e he => h.fresh e (Nat.le_of_succ_le he), h.marks, fun j rest e hs => ?_,
    fun j k rest rest' e hj hk => ?_, fun e hlt hr => ?_⟩
  · by_cases hj : j = i
    · subst hj
      rw [hself] at hs
      cases hs
      exact ⟨Nat.lt_succ_self _, h.fresh _ (Nat.le_refl _)⟩
    · rw [hcall j hj] at hs
      obtain ⟨hlt, hr⟩ := h.spawning j rest e hs
      exact ⟨Nat.lt_succ_of_lt hlt, hr⟩
  · by_cases hj' : j = i
    · by_cases hk' : k = i
      · rw [hj', hk']
      · subst hj'
        rw [hself] at hj
        rw [hcall k hk'] at hk
        cases hj
        exact absurd (h.spawning k _ _ hk).1 (Nat.lt_irrefl _)
    · rw [hcall j hj'] at hj
      by_cases hk' : k = i
      · subst hk'
        rw [hself] at hk
        cases hk
        exact absurd (h.spawning j _ _ hj).1 (Nat.lt_irrefl _)
      · rw [hcall k hk'] at hk
        exact h.unique j k _ _ e hj hk
  · by_cases he : e < w.installed
    · obtain ⟨j, rest, hs⟩ := h.owner e he hr
      have hj : j ≠ i := by
        rintro rfl
        rw [hp] at hs
        cases hs
      exact ⟨j, rest, by rw [hcall j hj]; exact hs⟩
    · have hlt' : e < w.installed + 1 := hlt
      obtain rfl : e = w.installed := by omega
      exact ⟨i, publishUpdates, hself⟩

theorem Owned.spawn (h : Owned w) (hp : (w.call i).pc = .updating [] (.spawn e)) :
    Owned ((w.setReader e .reading).setPc i (.sendingInit e)) := by
  have hspawns : (w.call i).pc.spawns = some ([], e) := spawns_eq_some.2 hp
  obtain ⟨hlt, hr⟩ := h.spawning i [] e hspawns
  have hpc : ∀ j rest e', (((w.setReader e .reading).setPc i (.sendingInit e)).call j).pc.spawns =
      some (rest, e') → j ≠ i ∧ (w.call j).pc.spawns = some (rest, e') := by
    intro j rest e' hs
    by_cases hj : j = i
    · subst hj
      rw [setPc_pc_self] at hs
      cases hs
    · rw [setPc_call_ne hj] at hs
      exact ⟨hj, hs⟩
  refine ⟨fun e' he' => ?_, fun e' rest hm => ?_, fun j rest e' hs => ?_,
    fun j k rest rest' e' hj hk => ?_, fun e' hlt' hr' => ?_⟩
  · have hne : e' ≠ e := fun hc => absurd (hc ▸ hlt) (Nat.not_lt.2 he')
    rw [setPc_reader, setReader_reader_ne hne]
    exact h.fresh e' he'
  · rw [setPc_reader] at hm
    by_cases hee : e' = e
    · subst hee
      rw [setReader_reader_self] at hm
      cases hm
    · rw [setReader_reader_ne hee] at hm
      exact h.marks e' rest hm
  · obtain ⟨hj, hold⟩ := hpc j rest e' hs
    have hne : e' ≠ e := by
      rintro rfl
      exact hj (h.unique j i _ _ e' hold hspawns)
    rw [setPc_reader, setReader_reader_ne hne]
    exact h.spawning j rest e' hold
  · exact h.unique j k _ _ e' (hpc j rest e' hj).2 (hpc k rest' e' hk).2
  · rw [setPc_reader] at hr'
    have hne : e' ≠ e := by
      rintro rfl
      rw [setReader_reader_self] at hr'
      cases hr'
    rw [setReader_reader_ne hne] at hr'
    obtain ⟨j, rest, hs⟩ := h.owner e' hlt' hr'
    have hj : j ≠ i := by
      rintro rfl
      rw [hspawns] at hs
      cases hs
      exact hne rfl
    exact ⟨j, rest, by rw [setPc_call_ne hj]; exact hs⟩

theorem Owned.step (h : Owned w) (hstep : Tasks.step w a = some w') : Owned w' := by
  cases step_taken hstep with
  | install i hp => exact h.install hp
  | spawn i e hp => exact h.spawn hp
  | moves i hm => exact h.moves hm
  | works e hw =>
    refine h.reader (ReaderPc.working_ne_unspawned hw.working) ?_ (fun rest hr => ?_) hw.others
      hw.installed hw.call
    · rcases hw.next with hn | hn
      · exact ReaderPc.working_ne_unspawned hn
      · rw [hn]
        exact fun hc => (nomatch hc)
    · rcases hw.next with hn | hn
      · exact absurd hr (ReaderPc.working_ne_marking hn)
      · rw [hn] at hr
        cases hr
        exact List.suffix_rfl
  | marks e hm =>
    obtain ⟨u, rest, hr, rfl⟩ := hm
    refine h.reader (by rw [hr]; exact fun hc => (nomatch hc)) ?_ (fun rest' hr' => ?_)
      (fun _ hne => setReader_reader_ne hne) rfl rfl
    · rw [setReader_reader_self]
      exact fun hc => (nomatch hc)
    · rw [setReader_reader_self] at hr'
      cases hr'
      exact (List.suffix_cons u rest).trans (h.marks e _ hr)
  | still hr hi hc =>
    exact ⟨by rw [hi, hr]; exact h.fresh, by rw [hr]; exact h.marks,
      by rw [hc, hi, hr]; exact h.spawning, by rw [hc]; exact h.unique,
      by rw [hi, hr, hc]; exact h.owner⟩

/-! ## Fenced runs -/

/-- The readers of earlier connections are finished. -/
def Fences (w : Tasks) : Prop := ∀ e, e + 1 < w.installed → (w.reader e).finished = true

theorem fences_step (ho : Owned w) (h : Fences w) (hf : Fenced w a)
    (hstep : Tasks.step w a = some w') : Fences w' := by
  intro e he
  cases step_taken hstep with
  | install i hp =>
    have hat : FencedAt w .installing := hp ▸ hf
    exact hat e (Nat.lt_of_succ_lt_succ he)
  | spawn i e' hp =>
    have hr := (ho.spawning i [] e' (spawns_eq_some.2 hp)).2
    have hfin := h e he
    have hne : e ≠ e' := by
      rintro rfl
      rw [hr] at hfin
      cases hfin
    rw [setPc_reader, setReader_reader_ne hne]
    exact hfin
  | moves i hm =>
    rw [hm.installed] at he
    rw [hm.reader]
    exact h e he
  | works e' hw =>
    rw [hw.installed] at he
    have hfin := h e he
    have hne : e ≠ e' := by
      rintro rfl
      have hwork := hw.working
      unfold ReaderPc.finished at hfin
      split at hfin
      · rename_i hr
        rw [hr] at hwork
        cases hwork
      · cases hfin
    rw [hw.others e hne]
    exact hfin
  | marks e' hm =>
    obtain ⟨u, rest, hr, rfl⟩ := hm
    have hfin := h e he
    have hne : e ≠ e' := by
      rintro rfl
      rw [hr] at hfin
      cases hfin
    rw [setReader_reader_ne hne]
    exact hfin
  | still hr hi hc =>
    rw [hi] at he
    rw [hr]
    exact h e he

/-- A finished reader takes no step. -/
theorem not_disturbance (h : Fences w) : ¬ Disturbance w a w' := by
  rintro ⟨hstep, e, ha, he, -⟩
  have hfin := h e he
  have hr : w.reader e = .marking [] := by
    unfold ReaderPc.finished at hfin
    split at hfin
    · assumption
    · cases hfin
  cases a with
  | receive e' item =>
    obtain rfl : e' = e := Option.some.inj ha
    have hw := (receive_cases hstep).working
    rw [hr] at hw
    cases hw
  | reader e' =>
    obtain rfl : e' = e := Option.some.inj ha
    change w.readerStep e' = some w' at hstep
    unfold Tasks.readerStep at hstep
    rw [hr] at hstep
    cases hstep
  | call | step | writerDown | register | unregister | readEvent => cases ha

/-! ## Steps that are not fenced -/

/-- From here some steps lead to a disturbance. -/
def Disturbs (w : Tasks) : Prop :=
  ∃ as a t t', Lts.exec Tasks.step w as = some t ∧ Disturbance t a t'

theorem disturbs_of_step (hs : Tasks.step w a = some w') (h : Disturbs w') : Disturbs w := by
  obtain ⟨as, b, t, t', ht, hd⟩ := h
  exact ⟨a :: as, b, t, t', by rw [Lts.exec_cons_of_step hs, ht], hd⟩

theorem step_marking (hr : w.reader e = .marking (u :: rest)) : Tasks.step w (.reader e) =
    some ({ w with shared := w.shared.update u }.setReader e (.marking rest)) := by
  show w.readerStep e = _
  unfold Tasks.readerStep
  rw [hr]

/-- The next update of an earlier reader changes the connection. -/
theorem disturbs_of_marking (hr : w.reader e = .marking (u :: rest)) (he : e + 1 < w.installed)
    (hne : ¬ SameConnection w.shared (w.shared.update u)) : Disturbs w :=
  ⟨[], .reader e, w, _, rfl, step_marking hr, e, rfl, he, hne⟩

/-- A reader that was set to a place in its loop is there. -/
theorem goes_on {pc : ReaderPc} {k : ℕ} (hpc : pc.working = true) (hlt : pc.work < k) :
    ((w.setReader e pc).reader e).working = true ∧ ((w.setReader e pc).reader e).work < k := by
  rw [setReader_reader_self]
  exact ⟨hpc, hlt⟩

/-- Routing a frame is one of its pieces of work. -/
theorem route_goes_on {msg : Json} {msgs : List Json} :
    ((w.route e msg msgs).reader e).working = true ∧
      ((w.route e msg msgs).reader e).work < (ReaderPc.routing (msg :: msgs)).work := by
  have hrouting : (ReaderPc.routing msgs).work < (ReaderPc.routing (msg :: msgs)).work := by
    simp only [ReaderPc.work, List.length_cons]
    omega
  have hdispatching : (ReaderPc.dispatching msg msgs).work <
      (ReaderPc.routing (msg :: msgs)).work := by
    simp only [ReaderPc.work, List.length_cons]
    omega
  unfold Tasks.route
  simp only
  split_ifs with hping hpong hack
  · exact goes_on rfl hrouting
  · exact goes_on rfl hrouting
  · refine goes_on rfl ?_
    simp only [ReaderPc.work, List.length_cons]
    omega
  · exact goes_on rfl hdispatching

/-- A reader in its loop goes on, with less to do before it reads. -/
theorem step_working (hw : (w.reader e).working = true) (hne : w.reader e ≠ .reading) :
    ∃ t, w.readerStep e = some t ∧ (t.reader e).working = true ∧
      (t.reader e).work < (w.reader e).work := by
  unfold Tasks.readerStep
  cases hr : w.reader e with
  | unspawned =>
    rw [hr] at hw
    cases hw
  | marking rest =>
    rw [hr] at hw
    cases hw
  | reading => exact absurd hr hne
  | routing msgs =>
    cases msgs with
    | nil => exact ⟨_, rfl, goes_on rfl (Nat.succ_pos _)⟩
    | cons msg rest => exact ⟨_, rfl, route_goes_on⟩
  | acking loopId seq msg rest =>
    refine ⟨_, rfl, goes_on rfl ?_⟩
    simp only [ReaderPc.work]
    omega
  | dispatching msg rest =>
    simp only
    cases w.shared.takeWaiter msg with
    | none =>
      refine ⟨_, rfl, goes_on rfl ?_⟩
      simp only [ReaderPc.work]
      omega
    | some shared =>
      refine ⟨_, rfl, goes_on rfl ?_⟩
      simp only [ReaderPc.work]
      omega
  | enqueueing msg rest =>
    refine ⟨_, rfl, goes_on rfl ?_⟩
    simp only [ReaderPc.work]
    omega

/-- An earlier reader in its loop ends it and stores that the newest connection is lost. -/
theorem disturbs_of_working (hw : (w.reader e).working = true) (he : e + 1 < w.installed)
    (hc : w.shared.connected = true) : Disturbs w := by
  generalize hn : (w.reader e).work = n
  induction n using Nat.strong_induction_on generalizing w with
  | h n ih =>
    by_cases hr : w.reader e = .reading
    · have hstep : Tasks.step w (.receive e .ended) =
          some (w.setReader e (.marking (markDisconnected .unclean))) := by
        unfold Tasks.step
        simp only
        rw [hr]
        rfl
      refine disturbs_of_step hstep (disturbs_of_marking setReader_reader_self he fun hsame => ?_)
      have hconn := hsame.connected
      rw [setReader_shared, hc] at hconn
      cases hconn
    · obtain ⟨t, ht, hw', hlt⟩ := step_working hw hr
      have hwork : Working w t e := by
        rcases readerStep_cases ht with hwork | ⟨u, rest, hm, -⟩
        · exact hwork
        · rw [hm] at hw
          cases hw
      refine disturbs_of_step (a := .reader e) ht (ih _ (hn ▸ hlt) hw' ?_ ?_ rfl)
      · rw [hwork.installed]
        exact he
      · rw [hwork.routed.connected]
        exact hc

/-- A call is about to publish a new connection. -/
structure Publishing (w : Tasks) (i n : ℕ) : Prop where
  pc : (w.call i).pc = .updating publishUpdates (.spawn n)
  writeTx : w.shared.writeTx = some n

/-- An earlier reader in `mark_disconnected` undoes a part of the new connection. -/
theorem disturbs_of_publishing_marking {n : ℕ} (hp : Publishing w i n) (he : e + 1 < w.installed)
    (hr : w.reader e = .marking (u :: rest)) (hs : u :: rest <:+ markDisconnected .unclean) :
    Disturbs w := by
  rcases mark_cases hs with ⟨rfl, rfl⟩ | ⟨rfl, rfl⟩ | ⟨rfl, rfl⟩ | ⟨rfl, rfl⟩ | ⟨rfl, rfl⟩
  · apply disturbs_of_step (step_updating hp.pc)
    exact disturbs_of_marking hr he fun hsame => (nomatch hsame.connected)
  · apply disturbs_of_step (step_updating hp.pc)
    apply disturbs_of_step (step_updating setPc_pc_self)
    exact disturbs_of_marking hr he fun hsame => (nomatch hsame.readerAlive)
  · refine disturbs_of_marking hr he fun hsame => ?_
    have htx := hsame.writeTx
    rw [hp.writeTx] at htx
    cases htx
  · apply disturbs_of_step (step_updating hp.pc)
    apply disturbs_of_step (step_updating setPc_pc_self)
    apply disturbs_of_step (step_updating setPc_pc_self)
    exact disturbs_of_marking hr he fun hsame => (nomatch hsame.disconnectCause)
  · apply disturbs_of_step (a := .register "id") rfl
    exact disturbs_of_marking hr he fun hsame => (nomatch hsame.rpcWaiters)

/-- An earlier reader in its loop. -/
theorem disturbs_of_publishing_working {n : ℕ} (hp : (w.call i).pc = .updating publishUpdates
    (.spawn n)) (he : e + 1 < w.installed) (hw : (w.reader e).working = true) : Disturbs w :=
  disturbs_of_step (step_updating hp) (disturbs_of_working hw he rfl)

/-- An earlier connection whose reader is yet to be spawned. -/
theorem disturbs_of_publishing_spawning {n : ℕ} (hij : j ≠ i)
    (hp : (w.call i).pc = .updating publishUpdates (.spawn n)) (he : e + 1 < w.installed)
    (hj : (w.call j).pc = .updating rest (.spawn e)) : Disturbs w := by
  induction rest generalizing w with
  | nil =>
    apply disturbs_of_step (step_resume hj)
    refine disturbs_of_publishing_working (i := i) (n := n) (e := e) ?_ he ?_
    · show (((w.setReader e .reading).setPc j (.sendingInit e)).call i).pc = _
      rw [setPc_call_ne hij.symm]
      exact hp
    · show (((w.setReader e .reading).setPc j (.sendingInit e)).reader e).working = true
      rw [setPc_reader, setReader_reader_self]
      rfl
  | cons u rest ih =>
    apply disturbs_of_step (step_updating hj)
    refine ih ?_ he setPc_pc_self
    rw [setPc_call_ne hij.symm]
    exact hp

/-- **Exactness.** A sender that is stored while an earlier reader is not finished. -/
theorem disturbs_of_not_fenced (ho : Owned w) (hno : ¬ Fenced w a)
    (hstep : Tasks.step w a = some w') : Disturbs w' := by
  have hinstall : ∃ i, (w.call i).pc = .installing ∧ w' = w.install i ∧
      ∃ e, e < w.installed ∧ ¬ (w.reader e).finished = true := by
    cases a with
    | step i event =>
      cases event with
      | next =>
        have hat : ¬ FencedAt w (w.call i).pc := hno
        cases hp : (w.call i).pc with
        | installing =>
          rw [hp] at hat
          obtain ⟨e, he⟩ := not_forall.1 hat
          obtain ⟨hlt, hfin⟩ := Classical.not_imp.1 he
          exact ⟨i, hp, Option.some.inj (hstep.symm.trans (step_install hp)), e, hlt, hfin⟩
        | idle | checking | dialing | updating | sendingInit | awaiting | sleeping | closing
          | notifying | returned =>
          rw [hp] at hat
          exact absurd trivial hat
      | dialed | dialFailed | deadline => exact absurd trivial hno
    | call | receive | reader | writerDown | register | unregister | readEvent =>
      exact absurd trivial hno
  obtain ⟨i, hp, rfl, e, hlt, hfin⟩ := hinstall
  have he : e + 1 < (w.install i).installed := Nat.succ_lt_succ hlt
  have hpub : Publishing (w.install i) i w.installed := ⟨setPc_pc_self, rfl⟩
  cases hr : w.reader e with
  | unspawned =>
    obtain ⟨j, rest, hj⟩ := ho.owner e hlt hr
    have hji : j ≠ i := by
      rintro rfl
      rw [hp] at hj
      cases hj
    have hcall : ((w.install i).call j).pc = .updating rest (.spawn e) := by
      unfold Tasks.install
      rw [setPc_call_ne hji]
      exact spawns_eq_some.1 hj
    exact disturbs_of_publishing_spawning hji hpub.pc he hcall
  | marking rest =>
    cases rest with
    | nil =>
      rw [hr] at hfin
      exact absurd rfl hfin
    | cons u rest => exact disturbs_of_publishing_marking hpub he hr (ho.marks e _ hr)
  | reading | routing | acking | dispatching | enqueueing =>
    refine disturbs_of_publishing_working hpub.pc he (e := e) ?_
    show (w.reader e).working = true
    rw [hr]
    rfl

/-! ## The connections -/

theorem fences_of_fenced {run : List Label} (hf : Lts.Guarded Tasks.step Fenced {} run)
    (hw : Lts.exec Tasks.step {} run = some w) : Owned w ∧ Fences w :=
  Lts.inv_of_guarded (I := fun w => Owned w ∧ Fences w)
    (fun _ _ _ h hG hs => ⟨h.1.step hs, fences_step h.1 h.2 hG hs⟩)
    ⟨owned_init, fun _ h => (nomatch h)⟩ hf hw

/-- **Epochs.** In fenced runs no earlier reader changes the newest connection, and any other step
after such a run leads to a reader that does. -/
theorem epochs_apart (run : List Label) (w : Tasks)
    (hf : Lts.Guarded Tasks.step Fenced {} run) (hw : Lts.exec Tasks.step {} run = some w) :
    (∀ a w', ¬ Disturbance w a w') ∧
      ∀ a w', Tasks.step w a = some w' → ¬ Fenced w a → Disturbs w' := by
  obtain ⟨howned, hfences⟩ := fences_of_fenced hf hw
  exact ⟨fun _ _ => not_disturbance hfences,
    fun _ _ hstep hno => disturbs_of_not_fenced howned hno hstep⟩

/-- A connection is lost, its reader finishes, and a second one is dialed. -/
def redial : List Label :=
  [.call 0 .connect, .step 0 .next, .step 0 .dialed] ++ List.replicate 6 (.step 0 .next) ++
    .receive 0 .ended :: List.replicate 5 (.reader 0) ++
    [.call 1 .reconnect] ++ List.replicate 11 (.step 1 .next) ++ [.step 1 .dialed] ++
    List.replicate 6 (.step 1 .next)

theorem epochs_apart_redial : ∃ w, Lts.exec Tasks.step {} redial = some w ∧ w.installed = 2 ∧
    w.shared.connected = true ∧ ∀ a w', ¬ Disturbance w a w' := by
  have hrun : (Lts.exec Tasks.step {} redial).map (fun w => (w.installed, w.shared.connected)) =
      some (2, true) := by decide +kernel
  obtain ⟨w, hw, hpc⟩ := Option.map_eq_some_iff.1 hrun
  obtain ⟨hi, hc⟩ := Prod.mk.inj hpc
  exact ⟨w, hw, hi, hc,
    (epochs_apart redial w (by decide +kernel) hw).1⟩

/-- `reconnect` does not wait for the reader of the connection that it replaces. -/
def replaced : List Label :=
  [.call 0 .connect, .step 0 .next, .step 0 .dialed] ++ List.replicate 6 (.step 0 .next) ++
    [.call 1 .reconnect] ++ List.replicate 11 (.step 1 .next) ++ [.step 1 .dialed] ++
    List.replicate 6 (.step 1 .next) ++ [.receive 0 .ended]

/-- The first reader stores that the second connection is lost. -/
theorem epochs_apart_fails : ¬ ∀ run w a w', Lts.exec Tasks.step {} run = some w →
    ¬ Disturbance w a w' := by
  intro h
  have hrun : (Lts.exec Tasks.step {} replaced).map (fun w => (w.installed, w.shared.connected,
      (Tasks.step w (.reader 0)).map fun t => t.shared.connected)) =
        some (2, true, some false) := by decide +kernel
  obtain ⟨w, hw, hpc⟩ := Option.map_eq_some_iff.1 hrun
  obtain ⟨hi, hpc⟩ := Prod.mk.inj hpc
  obtain ⟨hc, hstep⟩ := Prod.mk.inj hpc
  obtain ⟨w', hw', hc'⟩ := Option.map_eq_some_iff.1 hstep
  refine h replaced w (.reader 0) w' hw ⟨hw', 0, rfl, ?_, fun hsame => ?_⟩
  · rw [hi]
    decide
  · rw [hsame.connected, hc] at hc'
    cases hc'

end SootheClient.Client
