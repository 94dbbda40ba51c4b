import SootheClient.Sse.Broadcaster

/-!
# Subscriber isolation

What a subscriber's channel goes through is a function of the subscriber's own view of the run: the
broadcasts to its key while it is registered, and its own receives. Each of these broadcasts enters
its channel unless that channel is full.
-/

namespace SootheClient.Sse

variable {s t u : Hub} {a : Label} {as bs cs : List Label} {key id k i : String} {n m : ℕ}
  {event : SootheClient.Turn.SseEvent} {live : Bool} {ch : ℕ → Channel} {l : List ℕ}

/-- The label removes the subscriber `id` of `key`. A second subscription under the same id, which
random ids do not produce, would take its place. -/
def removes (key id : String) : Label → Bool
  | .subscribe k i => k = key && i = id
  | .unsubscribe k i => k = key && i = id
  | .close k => k = key
  | .closeAll => true
  | _ => false

/-- What a label means for the channel `n` of a subscriber of `key`, while it is registered or
after. -/
def ownOps (key : String) (n : ℕ) (live : Bool) : Label → List (Mailbox.Op Turn.SseEvent)
  | .broadcast k event => if live && k = key then [.offer event] else []
  | .recv m => if m = n then [.take] else []
  | _ => []

/-- The subscriber's own view of a run. -/
def view (key id : String) (n : ℕ) : Bool → List Label → List (Mailbox.Op Turn.SseEvent)
  | _, [] => []
  | live, a :: as => ownOps key n live a ++ view key id n (live && !removes key id a) as

/-- The event that a label broadcasts to `key` while the channel `n` has room. -/
def accepted (key : String) (n : ℕ) (s : Hub) : Label → List Turn.SseEvent
  | .broadcast k event =>
    if k = key ∧ (s.channels n).waiting.length < SUBSCRIBER_BUFFER then [event] else []
  | _ => []

/-- The channels that are registered are open ones, each under one id, and no key has an empty
map. -/
structure WellFormed (s : Hub) : Prop where
  opened : ∀ {k i n}, s.broadcaster.sender k i = some n → n < s.opened
  sole : ∀ {k i k' i' n}, s.broadcaster.sender k i = some n →
    s.broadcaster.sender k' i' = some n → k = k' ∧ i = i'
  noneEmpty : s.broadcaster.NoneEmpty

/-- The subscriber `id` of `key` has the channel `n`; it is registered exactly while it is live. -/
structure Follows (key id : String) (n : ℕ) (live : Bool) (s : Hub) : Prop where
  wf : WellFormed s
  opened : n < s.opened
  registered : live = true → s.broadcaster.sender key id = some n
  gone : live = false → ∀ k i, s.broadcaster.sender k i ≠ some n

/-! ## Reachable hubs -/

theorem wellFormed_init : WellFormed Hub.init where
  opened h := nomatch h
  sole h := nomatch h
  noneEmpty := SseBroadcaster.noneEmpty_nil

/-- A change of the broadcaster that registers nothing new keeps a hub well formed. -/
theorem WellFormed.of_sender_le {b : SseBroadcaster ℕ} (h : WellFormed s)
    (hle : ∀ {k i n}, b.sender k i = some n → s.broadcaster.sender k i = some n)
    (hne : b.NoneEmpty) : WellFormed { s with broadcaster := b } where
  opened hn := h.opened (hle hn)
  sole hn hn' := h.sole (hle hn) (hle hn')
  noneEmpty := hne

theorem wellFormed_step (h : WellFormed s) (hs : s.step a = some t) : WellFormed t := by
  cases a with
  | subscribe k₀ i₀ =>
    obtain rfl := Option.some.inj hs
    refine ⟨fun {k i n} hn => ?_, fun {k i k' i' n} hn hn' => ?_, h.noneEmpty.subscribe⟩
    · rw [SseBroadcaster.sender_subscribe] at hn
      split_ifs at hn with hnew
      · obtain rfl := Option.some.inj hn
        exact Nat.lt_succ_self _
      · exact Nat.lt_succ_of_lt (h.opened hn)
    · rw [SseBroadcaster.sender_subscribe] at hn hn'
      split_ifs at hn hn' with hnew hnew'
      · exact ⟨hnew.1.trans hnew'.1.symm, hnew.2.trans hnew'.2.symm⟩
      · obtain rfl := Option.some.inj hn
        exact absurd (h.opened hn') (Nat.lt_irrefl _)
      · obtain rfl := Option.some.inj hn'
        exact absurd (h.opened hn) (Nat.lt_irrefl _)
      · exact h.sole hn hn'
  | unsubscribe k₀ i₀ =>
    obtain rfl := Option.some.inj hs
    refine h.of_sender_le (fun {k i n} hn => ?_) h.noneEmpty.unsubscribe
    rw [SseBroadcaster.sender_unsubscribe] at hn
    split_ifs at hn
    exact hn
  | broadcast k₀ event =>
    obtain rfl := Option.some.inj hs
    exact ⟨h.opened, h.sole, h.noneEmpty⟩
  | close k₀ =>
    obtain rfl := Option.some.inj hs
    refine h.of_sender_le (fun {k i n} hn => ?_) h.noneEmpty.erase
    rw [SseBroadcaster.sender_close] at hn
    split_ifs at hn
    exact hn
  | closeAll =>
    obtain rfl := Option.some.inj hs
    exact h.of_sender_le (fun hn => nomatch hn) SseBroadcaster.noneEmpty_nil
  | recv m =>
    obtain ⟨m', -, rfl⟩ := Option.map_eq_some_iff.1 hs
    exact ⟨h.opened, h.sole, h.noneEmpty⟩

theorem wellFormed_exec (h : Lts.exec Hub.step Hub.init as = some t) : WellFormed t :=
  Lts.inv_of_exec (fun _ _ _ => wellFormed_step) wellFormed_init h

theorem opened_le (hs : s.step a = some t) : s.opened ≤ t.opened := by
  cases a with
  | subscribe k₀ i₀ =>
    obtain rfl := Option.some.inj hs
    exact Nat.le_succ _
  | recv m =>
    obtain ⟨m', -, rfl⟩ := Option.map_eq_some_iff.1 hs
    exact Nat.le_refl _
  | _ =>
    obtain rfl := Option.some.inj hs
    exact Nat.le_refl _

/-- An open channel stays registered under its id until the id is removed, and is registered under
no other one. -/
theorem sender_step (hn : n < s.opened) (hs : s.step a = some t) :
    t.broadcaster.sender k i = some n ↔
      s.broadcaster.sender k i = some n ∧ removes k i a = false := by
  cases a with
  | subscribe k₀ i₀ =>
    obtain rfl := Option.some.inj hs
    show (s.broadcaster.subscribe k₀ i₀ s.opened).sender k i = some n ↔
      _ ∧ (decide (k₀ = k) && decide (i₀ = i)) = false
    rw [SseBroadcaster.sender_subscribe, ← Bool.decide_and, decide_eq_false_iff_not]
    by_cases hnew : k = k₀ ∧ i = i₀
    · rw [if_pos hnew]
      refine ⟨fun h => absurd (Option.some.inj h) (Nat.ne_of_gt hn), fun h => ?_⟩
      exact absurd ⟨hnew.1.symm, hnew.2.symm⟩ h.2
    · rw [if_neg hnew]
      exact (and_iff_left fun h => hnew ⟨h.1.symm, h.2.symm⟩).symm
  | unsubscribe k₀ i₀ =>
    obtain rfl := Option.some.inj hs
    show (s.broadcaster.unsubscribe k₀ i₀).sender k i = some n ↔
      _ ∧ (decide (k₀ = k) && decide (i₀ = i)) = false
    rw [SseBroadcaster.sender_unsubscribe, ← Bool.decide_and, decide_eq_false_iff_not]
    by_cases hrem : k = k₀ ∧ i = i₀
    · rw [if_pos hrem]
      refine ⟨fun h => (nomatch h), fun h => ?_⟩
      exact absurd ⟨hrem.1.symm, hrem.2.symm⟩ h.2
    · rw [if_neg hrem]
      exact (and_iff_left fun h => hrem ⟨h.1.symm, h.2.symm⟩).symm
  | broadcast k₀ event =>
    obtain rfl := Option.some.inj hs
    exact iff_self_and.2 fun _ => rfl
  | close k₀ =>
    obtain rfl := Option.some.inj hs
    show (s.broadcaster.close k₀).sender k i = some n ↔ _ ∧ decide (k₀ = k) = false
    rw [SseBroadcaster.sender_close, decide_eq_false_iff_not]
    by_cases hk : k = k₀
    · rw [if_pos hk]
      exact ⟨fun h => (nomatch h), fun h => absurd hk.symm h.2⟩
    · rw [if_neg hk]
      exact (and_iff_left fun h => hk h.symm).symm
  | closeAll =>
    obtain rfl := Option.some.inj hs
    exact ⟨fun h => (nomatch h), fun h => absurd h.2.symm Bool.false_ne_true⟩
  | recv m =>
    obtain ⟨m', -, rfl⟩ := Option.map_eq_some_iff.1 hs
    exact iff_self_and.2 fun _ => rfl

/-! ## One subscriber -/

theorem follows_step (h : Follows key id n live s) (hs : s.step a = some t) :
    Follows key id n (live && !removes key id a) t where
  wf := wellFormed_step h.wf hs
  opened := h.opened.trans_le (opened_le hs)
  registered hlive := by
    rw [Bool.and_eq_true, Bool.not_eq_true'] at hlive
    exact (sender_step h.opened hs).2 ⟨h.registered hlive.1, hlive.2⟩
  gone hgone := by
    intro k i hki
    obtain ⟨hki, hkeep⟩ := (sender_step h.opened hs).1 hki
    cases hl : live with
    | false => exact h.gone hl k i hki
    | true =>
      obtain ⟨rfl, rfl⟩ := h.wf.sole hki (h.registered hl)
      rw [hl, hkeep] at hgone
      cases hgone

/-- A broadcast offers its event once to each of its targets. -/
theorem foldl_trySend (hl : l.Nodup) :
    l.foldl (Hub.trySend event) ch n = if n ∈ l then (ch n).offer event else ch n := by
  induction l generalizing ch with
  | nil => rfl
  | cons m l ih =>
    rw [List.nodup_cons] at hl
    rw [List.foldl_cons, ih hl.2]
    unfold Hub.trySend
    by_cases hn : n = m
    · rw [hn, Function.update_self, if_neg hl.1, if_pos List.mem_cons_self]
    · rw [Function.update_of_ne hn]
      by_cases hmem : n ∈ l
      · rw [if_pos hmem, if_pos (List.mem_cons_of_mem m hmem)]
      · rw [if_neg hmem, if_neg fun h => (List.mem_cons.1 h).elim hn hmem]

/-- The subscriber's channel is a target of a broadcast to its key, while it is registered. -/
theorem mem_targets_iff (h : Follows key id n live s) :
    n ∈ s.broadcaster.targets k ↔ live = true ∧ k = key := by
  rw [SseBroadcaster.mem_targets]
  constructor
  · rintro ⟨i, hi⟩
    cases hl : live with
    | false => exact absurd hi (h.gone hl k i)
    | true => exact ⟨rfl, (h.wf.sole hi (h.registered hl)).1⟩
  · rintro ⟨hl, rfl⟩
    exact ⟨id, h.registered hl⟩

theorem ownOps_broadcast : ownOps key n live (.broadcast k event) =
    if live = true ∧ k = key then [.offer event] else [] := by
  unfold ownOps
  simp only [Bool.and_eq_true, decide_eq_true_eq]

theorem ownOps_recv : ownOps key n live (.recv m) = if m = n then [.take] else [] := rfl

/-- **One step of a subscriber.** Its channel goes through what the label means for it. -/
theorem channel_step (h : Follows key id n live s) (hs : s.step a = some t) :
    Lts.exec Mailbox.step (s.channels n) (ownOps key n live a) = some (t.channels n) := by
  cases a with
  | subscribe k₀ i₀ =>
    obtain rfl := Option.some.inj hs
    exact congrArg some (Function.update_of_ne (Nat.ne_of_lt h.opened) _ _).symm
  | broadcast k₀ event =>
    obtain rfl := Option.some.inj hs
    have hnodup : (s.broadcaster.targets k₀).Nodup :=
      SseBroadcaster.nodup_targets fun i i' tx hi hi' => (h.wf.sole hi hi').2
    show _ = some ((s.broadcaster.targets k₀).foldl (Hub.trySend event) s.channels n)
    rw [ownOps_broadcast, foldl_trySend hnodup]
    simp only [mem_targets_iff h]
    by_cases hown : live = true ∧ k₀ = key
    · rw [if_pos hown, if_pos hown]
      rfl
    · rw [if_neg hown, if_neg hown]
      rfl
  | recv m =>
    obtain ⟨m', hm, rfl⟩ := Option.map_eq_some_iff.1 hs
    show _ = some (Function.update s.channels m m' n)
    rw [ownOps_recv]
    by_cases hown : m = n
    · rw [if_pos hown, ← hown, Function.update_self]
      exact Lts.exec_cons_of_step hm
    · rw [if_neg hown, Function.update_of_ne (Ne.symm hown)]
      rfl
  | unsubscribe k₀ i₀ | close k₀ | closeAll =>
    obtain rfl := Option.some.inj hs
    rfl

/-- So over a run it goes through the subscriber's view. -/
theorem channel_exec (h : Follows key id n live s) (hs : Lts.exec Hub.step s cs = some t) :
    Lts.exec Mailbox.step (s.channels n) (view key id n live cs) = some (t.channels n) := by
  induction cs generalizing s live with
  | nil =>
    obtain rfl := Option.some.inj hs
    rfl
  | cons a cs ih =>
    obtain ⟨u, hu, hs⟩ := Lts.exec_cons_eq_some.1 hs
    unfold view
    rw [Lts.exec_append_of_exec (channel_step h hu)]
    exact ih (follows_step h hu) hs

/-! ## What it accepts -/

theorem accepted_broadcast : accepted key n s (.broadcast k event) =
    if k = key ∧ (s.channels n).waiting.length < SUBSCRIBER_BUFFER then [event] else [] := rfl

/-- The channel accepts what is broadcast to the key while it has room. -/
theorem collect_ownOps :
    Lts.collect Mailbox.step Mailbox.accepts (s.channels n) (ownOps key n live a) =
      if live = true then accepted key n s a else [] := by
  cases a with
  | broadcast k₀ event =>
    rw [ownOps_broadcast, accepted_broadcast]
    by_cases hlive : live = true
    · rw [if_pos hlive]
      by_cases hkey : k₀ = key
      · rw [if_pos ⟨hlive, hkey⟩, Lts.collect_singleton]
        unfold Mailbox.accepts
        simp only [hkey, true_and]
      · rw [if_neg fun h => hkey h.2, if_neg fun h => hkey h.1]
        rfl
    · rw [if_neg fun h => hlive h.1, if_neg hlive]
      rfl
  | recv m =>
    rw [ownOps_recv]
    have hnil : (if live = true then accepted key n s (.recv m) else []) = [] := ite_self _
    rw [hnil]
    split_ifs
    · exact Lts.collect_singleton
    · rfl
  | subscribe k₀ i₀ | unsubscribe k₀ i₀ | close k₀ | closeAll => exact (ite_self _).symm

theorem history_step (h : Follows key id n live s) (hs : s.step a = some t) :
    (t.channels n).history =
      (s.channels n).history ++ if live = true then accepted key n s a else [] := by
  rw [Mailbox.history_exec (channel_step h hs), collect_ownOps]

/-- After its removal a subscriber gets nothing more. -/
theorem history_gone (h : Follows key id n false s) (hs : Lts.exec Hub.step s cs = some t) :
    (t.channels n).history = (s.channels n).history := by
  induction cs generalizing s with
  | nil =>
    obtain rfl := Option.some.inj hs
    rfl
  | cons a cs ih =>
    obtain ⟨u, hu, hs⟩ := Lts.exec_cons_eq_some.1 hs
    rw [ih (follows_step h hu) hs, history_step h hu]
    exact List.append_nil _

theorem accepted_of_removes (h : removes key id a = true) : accepted key n s a = [] := by
  cases a with
  | broadcast k₀ event => exact absurd h Bool.false_ne_true
  | _ => rfl

/-- Until then it gets what it accepts. -/
theorem history_live (h : Follows key id n true s) (hs : Lts.exec Hub.step s cs = some t) :
    (t.channels n).history = (s.channels n).history ++
      Lts.collect Hub.step (accepted key n) s (cs.takeWhile fun a => !removes key id a) := by
  induction cs generalizing s with
  | nil =>
    obtain rfl := Option.some.inj hs
    exact (List.append_nil _).symm
  | cons a cs ih =>
    obtain ⟨u, hu, hs⟩ := Lts.exec_cons_eq_some.1 hs
    have hfollows := follows_step h hu
    have hhead := history_step h hu
    rw [if_pos rfl] at hhead
    cases hrem : removes key id a with
    | true =>
      rw [hrem] at hfollows
      rw [history_gone hfollows hs, hhead, accepted_of_removes hrem,
        List.takeWhile_cons_of_neg (by rw [hrem]; decide)]
      rfl
    | false =>
      rw [hrem] at hfollows
      rw [ih hfollows hs, hhead, List.takeWhile_cons_of_pos (by rw [hrem]; rfl),
        Lts.collect_cons_of_step hu, List.append_assoc]

/-- A new subscriber is followed from its subscription on. -/
theorem follows_subscribe (h : WellFormed s) (hs : s.step (.subscribe key id) = some t) :
    Follows key id s.opened true t ∧ t.channels s.opened = .empty := by
  have hwf := wellFormed_step h hs
  obtain rfl := Option.some.inj hs
  refine ⟨⟨hwf, Nat.lt_succ_self _, fun _ => ?_, fun h => nomatch h⟩, Function.update_self _ _ _⟩
  show (s.broadcaster.subscribe key id s.opened).sender key id = some s.opened
  rw [SseBroadcaster.sender_subscribe, if_pos ⟨rfl, rfl⟩]

/-- **Subscriber isolation.** What a subscriber has received, with what waits for it, is what was
broadcast to its key between its subscription and its removal less what met its full channel; what
it has received is a function of its own view; and no key is ever kept with an empty map. -/
theorem subscriber_isolation (bs cs : List Label) (key id : String) (s t : Hub)
    (hs : Lts.exec Hub.step Hub.init bs = some s)
    (ht : Lts.exec Hub.step s (.subscribe key id :: cs) = some t) :
    (t.channels s.opened).taken ++ (t.channels s.opened).waiting =
        Lts.collect Hub.step (accepted key s.opened) s
          (.subscribe key id :: cs.takeWhile fun a => !removes key id a) ∧
      (∀ bs' cs' key' id' s' t', Lts.exec Hub.step Hub.init bs' = some s' →
        Lts.exec Hub.step s' (.subscribe key' id' :: cs') = some t' →
        view key id s.opened true cs = view key' id' s'.opened true cs' →
        (t.channels s.opened).taken = (t'.channels s'.opened).taken) ∧
      ∀ as u, Lts.exec Hub.step Hub.init as = some u →
        ∀ k appSubs, u.broadcaster.subscribers.lookup k = some appSubs → appSubs ≠ ∅ := by
  obtain ⟨u, hu, hcs⟩ := Lts.exec_cons_eq_some.1 ht
  obtain ⟨hfollows, hempty⟩ := follows_subscribe (wellFormed_exec hs) hu
  refine ⟨?_, fun bs' cs' key' id' s' t' hs' ht' hview => ?_,
    fun as u h => (wellFormed_exec h).noneEmpty⟩
  · have hlive := history_live hfollows hcs
    rw [hempty, Mailbox.history_empty] at hlive
    rw [Lts.collect_cons_of_step hu]
    exact hlive
  · obtain ⟨u', hu', hcs'⟩ := Lts.exec_cons_eq_some.1 ht'
    obtain ⟨hfollows', hempty'⟩ := follows_subscribe (wellFormed_exec hs') hu'
    have hrun := channel_exec hfollows hcs
    have hrun' := channel_exec hfollows' hcs'
    rw [hempty] at hrun
    rw [hempty', ← hview, hrun] at hrun'
    rw [Option.some.inj hrun']

/-- An event that says hello. -/
def delta : Turn.SseEvent := ⟨"delta", .str "hi"⟩

/-- A subscriber's stay, beside a subscriber of another key. -/
def visit : List Label :=
  [.broadcast "chat-2" delta, .broadcast "chat-1" delta, .recv 1, .unsubscribe "chat-2" "b",
    .broadcast "chat-2" delta]

/-- It gets what came before it was removed. -/
theorem subscriber_isolation_run : ∃ s t : Hub,
    Lts.exec Hub.step Hub.init [.subscribe "chat-1" "a"] = some s ∧
    Lts.exec Hub.step s (.subscribe "chat-2" "b" :: visit) = some t ∧
    (t.channels s.opened).taken ++ (t.channels s.opened).waiting =
      Lts.collect Hub.step (accepted "chat-2" s.opened) s
        (.subscribe "chat-2" "b" :: visit.takeWhile fun a => !removes "chat-2" "b" a) := by
  have h := subscriber_isolation [.subscribe "chat-1" "a"] visit "chat-2" "b" _ _ rfl rfl
  exact ⟨_, _, rfl, rfl, h.1⟩

end SootheClient.Sse
