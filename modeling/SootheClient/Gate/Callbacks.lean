import Mathlib.Data.Sum.Basic
import SootheClient.Gate.Cancels
import SootheClient.Lib.Custody

/-!
# Callbacks run once

What the gate holds is read as two functions of the key. A registration is in one place at a time:
under a key of the gate or in the hands of a `cancel` call, until it runs. A call runs it after its
sender, because it took both in one critical section.
-/

namespace SootheClient

open Function (update update_self update_of_ne)

namespace QueryGate

variable {C D : Type*} {g g' : QueryGate C D} {key : String} {c : C} {d : D} {d? : Option D}

/-- The callback of a key. -/
def callbackOf (g : QueryGate C D) (key : String) : Option C := g.cancels.lookup key

/-- The sender of a key. -/
def senderOf (g : QueryGate C D) (key : String) : Option D := g.sendCancels.lookup key

theorem lookup_insert_eq {β : Type*} (m : StrMap β) (key : String) (v : β) :
    (fun k => (m.insert key v).lookup k) = update (fun k => m.lookup k) key (some v) := by
  funext k
  by_cases hk : k = key
  · rw [hk, update_self]
    exact AList.lookup_insert m
  · rw [update_of_ne hk]
    exact AList.lookup_insert_ne hk

theorem lookup_erase_eq {β : Type*} (m : StrMap β) (key : String) :
    (fun k => (m.erase key).lookup k) = update (fun k => m.lookup k) key none := by
  funext k
  by_cases hk : k = key
  · rw [hk, update_self]
    exact AList.lookup_erase key m
  · rw [update_of_ne hk]
    exact AList.lookup_erase_ne hk

/-- An accepted `acquire` writes the entries of its key. -/
theorem acquire_entries (h : g.acquire key c d? = .ok g') :
    g.callbackOf key = none ∧ g'.callbackOf = update g.callbackOf key (some c) ∧
      g'.senderOf = update g.senderOf key (d?.or (g.senderOf key)) := by
  have hfree := (acquire_spec h).1
  unfold acquire at h
  rw [if_neg (by rw [hfree]; exact Bool.false_ne_true)] at h
  obtain rfl := Except.ok.inj h
  refine ⟨isActive_eq_false.1 hfree, lookup_insert_eq g.cancels key c, ?_⟩
  cases d? with
  | none => exact (Function.update_eq_self key g.senderOf).symm
  | some d => exact lookup_insert_eq g.sendCancels key d

theorem release_entries : (g.release key).callbackOf = update g.callbackOf key none ∧
    (g.release key).senderOf = update g.senderOf key none :=
  ⟨lookup_erase_eq g.cancels key, lookup_erase_eq g.sendCancels key⟩

theorem replaceCancel_entries (h : g.isActive key = true) :
    (g.replaceCancel key c).callbackOf = update g.callbackOf key (some c) ∧
      (g.replaceCancel key c).senderOf = g.senderOf := by
  unfold replaceCancel
  rw [if_pos h]
  exact ⟨lookup_insert_eq g.cancels key c, rfl⟩

theorem setSendCancel_entries (h : g.isActive key = true) :
    (g.setSendCancel key d).callbackOf = g.callbackOf ∧
      (g.setSendCancel key d).senderOf = update g.senderOf key (some d) := by
  unfold setSendCancel
  rw [if_pos h]
  exact ⟨rfl, lookup_insert_eq g.sendCancels key d⟩

end QueryGate

namespace Gate

/-- The registration that a `cancel` call took out, with its key. -/
def CancelCall.holds {C D : Type*} : CancelCall C D → Option (String × Registration C)
  | .taken key c? _ | .sending key c? _ | .callback key c? => c?.map fun r => (key, r)
  | .idle | .done => none

namespace Traffic

variable {C D : Type*} {s s' : Traffic C D} {a : Label C D} {as : List (Label C D)} {j : ℕ}
  {key : String} {c : C} {d : D} {r : Registration C} {c? : Option (Registration C)}
  {d? : Option D}

/-! ## Steps -/

/-- The entries of a key are written, those of other keys are not. -/
structure Writes (s s' : Traffic C D) (key : String) (c? : Option (Registration C))
    (d? : Option D) : Prop where
  callback : s'.gate.callbackOf = update s.gate.callbackOf key c?
  sender : s'.gate.senderOf = update s.gate.senderOf key d?

/-- What a step does. -/
inductive Takes (s : Traffic C D) : Label C D → Traffic C D → Prop
  /-- A busy `acquire`, or an update of a key that is not reserved. -/
  | refused {a : Label C D} : Takes s a s
  /-- A callback is put into the gate, by an `acquire` or a `replace_cancel`. -/
  | registered {a : Label C D} {s' : Traffic C D} {key : String} {c : C} {d? : Option D}
      (ha : a.key = some key)
      (hw : Writes s s' key (some (s.register c)) d?) (hmade : s'.made = s.made ++ [(key, c)])
      (hcall : s'.call = s.call) (hran : s'.ran = s.ran) : Takes s a s'
  | sender {a : Label C D} {s' : Traffic C D} {key : String} {r : Registration C} {d? : Option D}
      (ha : a.key = some key)
      (hold : s.gate.callbackOf key = some r) (hw : Writes s s' key (some r) d?)
      (hmade : s'.made = s.made) (hcall : s'.call = s.call) (hran : s'.ran = s.ran) : Takes s a s'
  | released {a : Label C D} {s' : Traffic C D} {key : String} (ha : a.key = some key)
      (hw : Writes s s' key none none)
      (hmade : s'.made = s.made) (hcall : s'.call = s.call) (hran : s'.ran = s.ran) : Takes s a s'
  /-- The critical section of a `cancel`. -/
  | taken {s' : Traffic C D} {j : ℕ} {key : String} {call : CancelCall C D}
      (hidle : s.call j = .idle) (hw : Writes s s' key none none) (hmade : s'.made = s.made)
      (hcall : s'.call = update s.call j call) (hran : s'.ran = s.ran)
      (hc : (call = .done ∧ s.gate.callbackOf key = none) ∨
        (∃ d, call = .taken key (s.gate.callbackOf key) d ∧ s.gate.senderOf key = some d) ∨
        call = .callback key (s.gate.callbackOf key) ∧ s.gate.senderOf key = none) :
      Takes s (.cancel j key) s'
  | called {j : ℕ} {key : String} {c? : Option (Registration C)} {d : D}
      (hpc : s.call j = .taken key c? d) :
      Takes s (.sendCancel j) { s with call := update s.call j (.sending key c? d) }
  | waited {j : ℕ} {key : String} {c? : Option (Registration C)} {d : D} {wait : Wait}
      (hpc : s.call j = .sending key c? d) :
      Takes s (.sendDone j wait) { s with call := update s.call j (.callback key c?) }
  | ran {j : ℕ} {key : String} {c? : Option (Registration C)} (hpc : s.call j = .callback key c?) :
      Takes s (.localCancel j) (s.localStep j key c?)

theorem takes_acquire : Takes s (.acquire key c d?) (s.acquireStep key c d?) := by
  unfold acquireStep
  cases h : s.gate.acquire key (s.register c) d? with
  | error _ => exact .refused
  | ok g =>
    obtain ⟨-, hc, hd⟩ := QueryGate.acquire_entries h
    exact .registered rfl ⟨hc, hd⟩ rfl rfl rfl

theorem takes_replace : Takes s (.replaceCancel key c) (s.replaceStep key c) := by
  unfold replaceStep
  cases h : s.gate.isActive key with
  | true =>
    obtain ⟨hc, hd⟩ := QueryGate.replaceCancel_entries h
    have hkeep : (s.gate.replaceCancel key (s.register c)).senderOf =
        update s.gate.senderOf key (s.gate.senderOf key) :=
      hd.trans (Function.update_eq_self key s.gate.senderOf).symm
    exact .registered rfl ⟨hc, hkeep⟩ rfl rfl rfl
  | false =>
    rw [QueryGate.replaceCancel_of_inactive h]
    exact .refused

theorem takes_set :
    Takes s (.setSendCancel key d) { s with gate := s.gate.setSendCancel key d } := by
  cases h : s.gate.isActive key with
  | true =>
    obtain ⟨r, hr⟩ := QueryGate.isActive_iff.1 h
    obtain ⟨hc, hd⟩ := QueryGate.setSendCancel_entries h
    refine .sender rfl hr ⟨?_, hd⟩ rfl rfl rfl
    exact hc.trans ((congrArg (update s.gate.callbackOf key) hr).symm.trans
      (Function.update_eq_self key s.gate.callbackOf)).symm
  | false =>
    rw [QueryGate.setSendCancel_of_inactive h]
    exact .refused

theorem takes_cancel (hidle : s.call j = .idle) :
    Takes s (.cancel j key) (s.cancelStep j key) := by
  obtain ⟨hc, hd⟩ := @QueryGate.release_entries _ _ s.gate key
  refine .taken hidle ⟨hc, hd⟩ rfl rfl rfl ?_
  show (_ ∧ s.gate.cancels.lookup key = none) ∨
    (∃ d, _ = CancelCall.taken key (s.gate.cancels.lookup key) d ∧
      s.gate.sendCancels.lookup key = some d) ∨
    _ = CancelCall.callback key (s.gate.cancels.lookup key) ∧ s.gate.sendCancels.lookup key = none
  rw [QueryGate.takeCancel_fst]
  cases hs : s.gate.sendCancels.lookup key with
  | some d =>
    refine Or.inr (Or.inl ⟨d, ?_, rfl⟩)
    cases s.gate.cancels.lookup key <;> rfl
  | none =>
    cases hc : s.gate.cancels.lookup key with
    | none => exact Or.inl ⟨rfl, rfl⟩
    | some r => exact Or.inr (Or.inr ⟨rfl, rfl⟩)

/-- **Steps.** -/
theorem step_takes (h : s.step a = some s') : Takes s a s' := by
  cases a with
  | acquire key c d? =>
    obtain rfl := Option.some.inj h
    exact takes_acquire
  | replaceCancel key c =>
    obtain rfl := Option.some.inj h
    exact takes_replace
  | setSendCancel key d =>
    obtain rfl := Option.some.inj h
    exact takes_set
  | release key =>
    obtain rfl := Option.some.inj h
    obtain ⟨hc, hd⟩ := @QueryGate.release_entries _ _ s.gate key
    exact .released rfl ⟨hc, hd⟩ rfl rfl rfl
  | cancel j key =>
    unfold step at h
    simp only at h
    split at h
    · rename_i hidle
      obtain rfl := Option.some.inj h
      exact takes_cancel hidle
    · cases h
  | sendCancel j =>
    unfold step at h
    simp only at h
    split at h
    · rename_i key c? d hpc
      obtain rfl := Option.some.inj h
      exact .called hpc
    · cases h
  | sendDone j wait =>
    unfold step at h
    simp only at h
    split at h
    · rename_i key c? d hpc
      obtain rfl := Option.some.inj h
      exact .waited hpc
    · cases h
  | localCancel j =>
    unfold step at h
    simp only at h
    split at h
    · rename_i key c? hpc
      obtain rfl := Option.some.inj h
      exact .ran hpc
    · cases h

/-! ## One place for each registration -/

/-- The places of the registrations: the keys of the gate and the `cancel` calls. -/
def books (s : Traffic C D) : Custody.Books (String ⊕ ℕ) ℕ where
  held := Sum.elim (Option.map Registration.number ∘ s.gate.callbackOf)
    (Option.map (fun p => p.2.number) ∘ CancelCall.holds ∘ s.call)
  issued := {n | n < s.made.length}
  spent := s.ran.map fun p => p.2.2.number

theorem books_of_writes (hw : Writes s s' key c? d?) (hcall : s'.call = s.call)
    (hran : s'.ran = s.ran) : s'.books =
      { held := update s.books.held (Sum.inl key) (c?.map Registration.number)
        issued := {n | n < s'.made.length}
        spent := s.books.spent } := by
  unfold books
  rw [hw.callback, hcall, hran, Function.comp_update, Sum.update_elim_inl]

theorem held_of_setCall {call : CancelCall C D} :
    books { s with call := update s.call j call } =
      { s.books with
        held := update s.books.held (Sum.inr j) (call.holds.map fun p => p.2.number) } := by
  unfold books
  simp only [Function.comp_update, Sum.update_elim_inr]

/-- A call that keeps what it holds. -/
theorem books_of_keeps {call : CancelCall C D} (h : call.holds = (s.call j).holds) :
    books { s with call := update s.call j call } = s.books := by
  rw [held_of_setCall, h]
  have hself : (s.call j).holds.map (fun p => p.2.number) = s.books.held (Sum.inr j) := rfl
  rw [hself, Function.update_eq_self]

theorem books_empty : books ({} : Traffic C D) = ⟨fun _ => none, ∅, []⟩ := by
  unfold books
  congr 1
  · funext p
    cases p <;> rfl
  · ext n
    exact iff_of_false (Nat.not_lt_zero n) (Set.notMem_empty n)

/-- **Step lemma.** The books stay sound. -/
theorem sound_step (h : Custody.Sound s.books) (hs : s.step a = some s') :
    Custody.Sound s'.books := by
  cases step_takes hs with
  | refused => exact h
  | registered ha hw hmade hcall hran =>
    have hnew : {n | n < s'.made.length} = insert s.made.length s.books.issued := by
      ext n
      show n < s'.made.length ↔ n = s.made.length ∨ n < s.made.length
      rw [hmade, List.length_append, List.length_singleton]
      omega
    rw [books_of_writes hw hcall hran, hnew]
    exact h.issue _ (Nat.lt_irrefl s.made.length)
  | sender ha hold hw hmade hcall hran =>
    rename_i key r d?
    have hself : (some r).map Registration.number = s.books.held (Sum.inl key) :=
      (congrArg (Option.map Registration.number) hold).symm
    rw [books_of_writes hw hcall hran, hmade, hself, Function.update_eq_self]
    exact h
  | released ha hw hmade hcall hran =>
    rw [books_of_writes hw hcall hran, hmade]
    exact h.drop _
  | taken hidle hw hmade hcall hran hc =>
    rename_i j key call
    have hheld : call.holds.map (fun p => p.2.number) = s.books.held (Sum.inl key) := by
      show _ = (s.gate.callbackOf key).map Registration.number
      rcases hc with ⟨rfl, hnone⟩ | ⟨d, rfl, -⟩ | ⟨rfl, -⟩
      · rw [hnone]
        rfl
      · exact Option.map_map ..
      · exact Option.map_map ..
    have hbooks : s'.books =
        { s.books with
          held := update (update s.books.held (Sum.inl key) none) (Sum.inr j)
            (s.books.held (Sum.inl key)) } := by
      rw [← hheld]
      unfold books
      rw [hw.callback, hcall, hran, hmade]
      simp only [Function.comp_update, Sum.update_elim_inl, Sum.update_elim_inr, Option.map_none]
    rw [hbooks]
    exact h.move _ _
  | called hpc =>
    rw [books_of_keeps (by rw [hpc]; rfl)]
    exact h
  | waited hpc =>
    rw [books_of_keeps (by rw [hpc]; rfl)]
    exact h
  | ran hpc =>
    rename_i j key c?
    have hheld : s.books.held (Sum.inr j) = c?.map Registration.number := by
      show (s.call j).holds.map _ = _
      rw [hpc]
      exact Option.map_map ..
    have hbooks : (s.localStep j key c?).books =
        { s.books with
          held := update s.books.held (Sum.inr j) none
          spent := s.books.spent ++ (c?.map Registration.number).toList } := by
      unfold localStep books
      simp only [Function.comp_update, Sum.update_elim_inr, List.map_append]
      cases c? <;> rfl
    rw [hbooks]
    cases c? with
    | none =>
      rw [Option.map_none, Option.toList_none, List.append_nil]
      exact h.drop _
    | some r => exact h.spend hheld

/-! ## Registrations under their keys -/

/-- The registration is the one that was made with this key. -/
def Filed (s : Traffic C D) (key : String) (r : Registration C) : Prop :=
  s.made[r.number]? = some (key, r.callback)

/-- Every registration is under the key that it was made with. -/
structure AllFiled (s : Traffic C D) : Prop where
  gate : ∀ key r, s.gate.callbackOf key = some r → s.Filed key r
  call : ∀ j key r, (s.call j).holds = some (key, r) → s.Filed key r
  ran : ∀ j key r, (j, key, r) ∈ s.ran → s.Filed key r

theorem Filed.append {more : List (String × C)} (h : s.Filed key r)
    (hmade : s'.made = s.made ++ more) : s'.Filed key r := by
  obtain ⟨hlt, -⟩ := List.getElem?_eq_some_iff.1 h
  unfold Filed
  rw [hmade, List.getElem?_append_left hlt]
  exact h

theorem filed_register (hmade : s'.made = s.made ++ [(key, c)]) :
    s'.Filed key (s.register c) := by
  unfold Filed register
  rw [hmade]
  exact List.getElem?_concat_length

/-- Writing an entry of the gate files what is filed. -/
theorem AllFiled.writes {more : List (String × C)} (h : AllFiled s) (hw : Writes s s' key c? d?)
    (hmade : s'.made = s.made ++ more) (hcall : s'.call = s.call) (hran : s'.ran = s.ran)
    (hc : ∀ r, c? = some r → s'.Filed key r) : AllFiled s' where
  gate k r hr := by
    rw [hw.callback] at hr
    by_cases hk : k = key
    · rw [hk, update_self] at hr
      rw [hk]
      exact hc r hr
    · rw [update_of_ne hk] at hr
      exact (h.gate k r hr).append hmade
  call j k r hr := by
    rw [hcall] at hr
    exact (h.call j k r hr).append hmade
  ran j k r hr := by
    rw [hran] at hr
    exact (h.ran j k r hr).append hmade

/-- A call takes over what is filed. -/
theorem AllFiled.setCall {p : CancelCall C D} (h : AllFiled s)
    (hc : ∀ key r, p.holds = some (key, r) → s.Filed key r) :
    AllFiled { s with call := update s.call j p } where
  gate := h.gate
  call k key r hr := by
    by_cases hk : k = j
    · simp only [hk, update_self] at hr
      exact hc key r hr
    · simp only [update_of_ne hk] at hr
      exact h.call k key r hr
  ran := h.ran

/-- **Step lemma.** Registrations stay under their keys. -/
theorem filed_step (h : AllFiled s) (hs : s.step a = some s') : AllFiled s' := by
  cases step_takes hs with
  | refused => exact h
  | registered ha hw hmade hcall hran =>
    refine h.writes hw hmade hcall hran fun r hr => ?_
    obtain rfl := Option.some.inj hr
    exact filed_register hmade
  | sender ha hold hw hmade hcall hran =>
    have hsame := hmade.trans (List.append_nil _).symm
    refine h.writes hw hsame hcall hran fun r hr => ?_
    obtain rfl := Option.some.inj hr
    exact (h.gate _ _ hold).append hsame
  | released ha hw hmade hcall hran =>
    exact h.writes hw (hmade.trans (List.append_nil _).symm) hcall hran nofun
  | taken hidle hw hmade hcall hran hc =>
    rename_i j key call
    have hsame := hmade.trans (List.append_nil _).symm
    have hgate : AllFiled { s' with call := s.call } :=
      h.writes ⟨hw.callback, hw.sender⟩ hsame rfl hran nofun
    have hnew := hgate.setCall (j := j) (p := call) fun k r hr => by
      have hentry : k = key ∧ s.gate.callbackOf key = some r := by
        rcases hc with ⟨rfl, -⟩ | ⟨d, rfl, -⟩ | ⟨rfl, -⟩
        · cases hr
        · obtain ⟨r', hr', hp⟩ := Option.map_eq_some_iff.1 hr
          obtain ⟨rfl, rfl⟩ := Prod.mk.inj hp
          exact ⟨rfl, hr'⟩
        · obtain ⟨r', hr', hp⟩ := Option.map_eq_some_iff.1 hr
          obtain ⟨rfl, rfl⟩ := Prod.mk.inj hp
          exact ⟨rfl, hr'⟩
      rw [hentry.1]
      exact (h.gate key r hentry.2).append hsame
    have hs' : s' = { s' with call := update s.call j call } := by rw [← hcall]
    rw [hs']
    exact hnew
  | called hpc =>
    rename_i j key c? d
    refine h.setCall fun k r hr => h.call j k r ?_
    rw [hpc]
    exact hr
  | waited hpc =>
    rename_i j key c? d wait
    refine h.setCall fun k r hr => h.call j k r ?_
    rw [hpc]
    exact hr
  | ran hpc =>
    rename_i j key c?
    have hdone : AllFiled { s with call := update s.call j .done } := h.setCall nofun
    refine ⟨hdone.gate, hdone.call, fun k key' r hr => ?_⟩
    rcases List.mem_append.1 hr with hold | hnew
    · exact h.ran k key' r hold
    · obtain ⟨r', hr', hp⟩ := Option.map_eq_some_iff.1 (Option.mem_toList.1 hnew)
      obtain ⟨-, hp⟩ := Prod.mk.inj hp
      refine h.call j key' r ?_
      rw [hpc, ← hp]
      show c?.map _ = _
      rw [hr']
      rfl

theorem filed_empty : AllFiled ({} : Traffic C D) where
  gate key r hr := by
    have hnone : ({} : Traffic C D).gate.callbackOf key = none := rfl
    rw [hnone] at hr
    cases hr
  call _ _ _ hr := (nomatch hr)
  ran _ _ _ hr := absurd hr List.not_mem_nil

/-! ## Keys -/

/-- A key that has a sender has a callback. -/
def KeysAgree (s : Traffic C D) : Prop :=
  ∀ key, s.gate.callbackOf key = none → s.gate.senderOf key = none

theorem KeysAgree.writes (h : KeysAgree s) (hw : Writes s s' key c? d?)
    (hc : c? = none → d? = none) : KeysAgree s' := by
  intro k hk
  rw [hw.callback] at hk
  rw [hw.sender]
  by_cases hkk : k = key
  · rw [hkk, update_self] at hk ⊢
    exact hc hk
  · rw [update_of_ne hkk] at hk ⊢
    exact h k hk

/-- **Step lemma.** The keys of the senders stay among those of the callbacks. -/
theorem keysAgree_step (h : KeysAgree s) (hs : s.step a = some s') : KeysAgree s' := by
  cases step_takes hs with
  | refused => exact h
  | registered ha hw => exact h.writes hw nofun
  | sender ha hold hw => exact h.writes hw nofun
  | released ha hw => exact h.writes hw fun _ => rfl
  | taken hidle hw => exact h.writes hw fun _ => rfl
  | called | waited | ran => exact h

/-- A step leaves the entries of other keys alone. -/
theorem step_frame (hs : s.step a = some s') (ha : a.key ≠ some key) :
    s'.gate.callbackOf key = s.gate.callbackOf key ∧
      s'.gate.senderOf key = s.gate.senderOf key := by
  have hwrites : ∀ {k : String} {c? : Option (Registration C)} {d? : Option D},
      a.key = some k → Writes s s' k c? d? →
        s'.gate.callbackOf key = s.gate.callbackOf key ∧
          s'.gate.senderOf key = s.gate.senderOf key := by
    intro k c? d? hk hw
    have hne : key ≠ k := by
      rintro rfl
      exact ha hk
    rw [hw.callback, hw.sender, update_of_ne hne, update_of_ne hne]
    exact ⟨rfl, rfl⟩
  cases step_takes hs with
  | refused | called | waited | ran => exact ⟨rfl, rfl⟩
  | registered hk hw => exact hwrites hk hw
  | sender hk _ hw => exact hwrites hk hw
  | released hk hw => exact hwrites hk hw
  | taken _ hw => exact hwrites rfl hw

/-! ## What a `cancel` call has done -/

/-- The call `j` took `c?` and `d?` out of the gate, and has since taken the steps `l`. -/
def Took (as : List (Label C D)) (j : ℕ) (key : String) (c? : Option (Registration C))
    (d? : Option D) (l : List (Label C D)) : Prop :=
  ∃ before s after, as = before ++ .cancel j key :: after ∧
    Lts.exec step {} before = some s ∧ s.gate.callbackOf key = c? ∧ s.gate.senderOf key = d? ∧
    l.Sublist after

/-- The call took `c?`; if it took a sender too, it has called it and waited for its end. -/
def Through (as : List (Label C D)) (j : ℕ) (key : String) (c? : Option (Registration C))
    (l : List (Label C D)) : Prop :=
  Took as j key c? none l ∨
    ∃ d wait, Took as j key c? (some d) (.sendCancel j :: .sendDone j wait :: l)

/-- What a call has done, by its place. -/
def Did (as : List (Label C D)) (j : ℕ) : CancelCall C D → Prop
  | .idle | .done => True
  | .taken key c? d => Took as j key c? (some d) []
  | .sending key c? d => Took as j key c? (some d) [.sendCancel j]
  | .callback key c? => Through as j key c? []

variable {l : List (Label C D)} {p : CancelCall C D}

theorem Took.more (h : Took as j key c? d? l) (a : Label C D) : Took (as ++ [a]) j key c? d? l := by
  obtain ⟨before, s, after, rfl, hs, hc, hd, hl⟩ := h
  refine ⟨before, s, after ++ [a], ?_, hs, hc, hd, hl.trans (List.sublist_append_left after [a])⟩
  rw [List.append_assoc, List.cons_append]

theorem Took.step (h : Took as j key c? d? l) (a : Label C D) :
    Took (as ++ [a]) j key c? d? (l ++ [a]) := by
  obtain ⟨before, s, after, rfl, hs, hc, hd, hl⟩ := h
  refine ⟨before, s, after ++ [a], ?_, hs, hc, hd, hl.append_right [a]⟩
  rw [List.append_assoc, List.cons_append]

theorem Through.more (h : Through as j key c? l) (a : Label C D) :
    Through (as ++ [a]) j key c? l := by
  rcases h with h | ⟨d, wait, h⟩
  · exact Or.inl (h.more a)
  · exact Or.inr ⟨d, wait, h.more a⟩

theorem Through.step (h : Through as j key c? l) (a : Label C D) :
    Through (as ++ [a]) j key c? (l ++ [a]) := by
  rcases h with h | ⟨d, wait, h⟩
  · exact Or.inl (h.step a)
  · exact Or.inr ⟨d, wait, h.step a⟩

theorem Did.more (h : Did as j p) (a : Label C D) : Did (as ++ [a]) j p := by
  cases p with
  | idle | done => trivial
  | taken key c? d | sending key c? d => exact Took.more h a
  | callback key c? => exact Through.more h a

/-- What the calls have done, and how the callbacks that ran came to it. -/
structure History (as : List (Label C D)) (s : Traffic C D) : Prop where
  run : Lts.exec step {} as = some s
  calls : ∀ j, Did as j (s.call j)
  ran : ∀ j key r, (j, key, r) ∈ s.ran → Through as j key (some r) [.localCancel j]

/-- Only the call `j` goes on. -/
theorem History.of_call (h : History as s) (hs : s.step a = some s')
    (hcall : s'.call = update s.call j p) (hj : Did (as ++ [a]) j p)
    (hran : ∀ k key r, (k, key, r) ∈ s'.ran → (k, key, r) ∈ s.ran ∨
      Through (as ++ [a]) k key (some r) [.localCancel k]) : History (as ++ [a]) s' where
  run := by
    rw [Lts.exec_concat h.run]
    exact hs
  calls k := by
    rw [hcall]
    by_cases hk : k = j
    · rw [hk, update_self]
      exact hj
    · rw [update_of_ne hk]
      exact (h.calls k).more a
  ran k key r hr := by
    rcases hran k key r hr with hold | hnew
    · exact (h.ran k key r hold).more a
    · exact hnew

theorem History.of_gate (h : History as s) (hs : s.step a = some s') (hcall : s'.call = s.call)
    (hran : s'.ran = s.ran) : History (as ++ [a]) s' := by
  refine h.of_call (j := 0) (p := s.call 0) hs ?_ ((h.calls 0).more a) fun k key r hr => ?_
  · rw [hcall, Function.update_eq_self]
  · rw [hran] at hr
    exact Or.inl hr

/-- **Step lemma.** -/
theorem history_step (h : History as s) (hs : s.step a = some s') : History (as ++ [a]) s' := by
  cases step_takes hs with
  | refused => exact h.of_gate hs rfl rfl
  | registered ha hw hmade hcall hran => exact h.of_gate hs hcall hran
  | sender ha hold hw hmade hcall hran => exact h.of_gate hs hcall hran
  | released ha hw hmade hcall hran => exact h.of_gate hs hcall hran
  | taken hidle hw hmade hcall hran hc =>
    rename_i j key call
    refine h.of_call hs hcall ?_ fun k key r hr => Or.inl (hran ▸ hr)
    have htook : Took (as ++ [.cancel j key]) j key (s.gate.callbackOf key)
        (s.gate.senderOf key) [] := ⟨as, s, [], rfl, h.run, rfl, rfl, List.Sublist.refl _⟩
    rcases hc with ⟨rfl, -⟩ | ⟨d, rfl, hd⟩ | ⟨rfl, hd⟩
    · trivial
    · rw [hd] at htook
      exact htook
    · rw [hd] at htook
      exact Or.inl htook
  | called hpc =>
    rename_i j key c? d
    have hdid := h.calls j
    rw [hpc] at hdid
    exact h.of_call hs rfl (Took.step hdid (.sendCancel j)) fun k key r hr => Or.inl hr
  | waited hpc =>
    rename_i j key c? d wait
    have hdid := h.calls j
    rw [hpc] at hdid
    refine h.of_call hs rfl ?_ fun k key r hr => Or.inl hr
    exact Or.inr ⟨d, wait, Took.step hdid (.sendDone j wait)⟩
  | ran hpc =>
    rename_i j key c?
    have hdid := h.calls j
    rw [hpc] at hdid
    refine h.of_call (p := .done) hs rfl trivial fun k key' r hr => ?_
    rcases List.mem_append.1 hr with hold | hnew
    · exact Or.inl hold
    · obtain ⟨r', hr', hp⟩ := Option.map_eq_some_iff.1 (Option.mem_toList.1 hnew)
      obtain ⟨hj, hkr⟩ := Prod.mk.inj hp
      obtain ⟨hk, hrr⟩ := Prod.mk.inj hkr
      rw [hr', hk, hrr] at hdid
      rw [← hj]
      exact Or.inr (Through.step hdid (.localCancel j))

/-- **Callbacks run once, after their sender.** In every run no registration runs twice; one that
runs does so in a `cancel` of the key that it was made with, which took it out of the gate and has
called and awaited the sender that it took with it; only reserved keys have a sender, so that an
accepted `acquire` leaves the sender that it was given; and the steps on a key leave the entries of
the others alone. -/
theorem callbacks_once (as : List (Label C D)) (s : Traffic C D)
    (h : Lts.exec step {} as = some s) :
    (s.ran.map fun p => p.2.2.number).Nodup ∧
    (∀ j key r, (j, key, r) ∈ s.ran → s.made[r.number]? = some (key, r.callback) ∧
      Through as j key (some r) [.localCancel j]) ∧
    (∀ key, (s.gate.senderOf key).isSome → (s.gate.callbackOf key).isSome) ∧
    (∀ key r d? g, s.gate.acquire key r d? = .ok g → g.senderOf key = d?) ∧
    (∀ a s' key, s.step a = some s' → a.key ≠ some key →
      s'.gate.callbackOf key = s.gate.callbackOf key ∧
        s'.gate.senderOf key = s.gate.senderOf key) := by
  have hsound : Custody.Sound s.books :=
    Lts.inv_of_exec (I := fun s => Custody.Sound s.books) (fun _ _ _ => sound_step)
      (by rw [books_empty]; exact Custody.sound_empty) h
  have hfiled : AllFiled s :=
    Lts.inv_of_exec (fun _ _ _ => filed_step) filed_empty h
  have hkeys : KeysAgree s := Lts.inv_of_exec (fun _ _ _ => keysAgree_step) (fun _ _ => rfl) h
  have hhist : History as s := by
    refine Lts.trace_inv_of_guarded (I := History) (G := fun _ _ => True) ?_ ?_
      (Lts.guarded_of_forall fun _ _ => trivial) h
    · exact fun _ _ _ _ hI _ hs => history_step hI hs
    · exact ⟨rfl, fun _ => trivial, fun _ _ _ hr => absurd hr List.not_mem_nil⟩
  refine ⟨hsound.nodup, ?_, ?_, ?_, ?_⟩
  · intro j key r hr
    exact ⟨hfiled.ran j key r hr, hhist.ran j key r hr⟩
  · intro key hsome
    by_contra hnone
    rw [hkeys key (Option.not_isSome_iff_eq_none.1 hnone)] at hsome
    cases hsome
  · intro key r d? g hg
    obtain ⟨hfree, -, hd⟩ := QueryGate.acquire_entries hg
    rw [hd, update_self, hkeys key hfree, Option.or_none]
  · intro a s' key hs ha
    exact step_frame hs ha

/-- A query is reserved with a sender, and cancelled. -/
def cancelled : List (Label String String) :=
  [.acquire "s1" "local" (some "daemon"), .cancel 0 "s1", .sendCancel 0, .sendDone 0 .completed,
    .localCancel 0]

/-- Its local callback has run, after the sender. -/
theorem callbacks_once_cancelled : ∃ s, Lts.exec step {} cancelled = some s ∧
    s.ran = [(0, "s1", ⟨0, "local"⟩)] ∧
      Through cancelled 0 "s1" (some ⟨0, "local"⟩) [.localCancel 0] := by
  have hrun : (Lts.exec step {} cancelled).map (fun s => s.ran) = some [(0, "s1", ⟨0, "local"⟩)] :=
    rfl
  obtain ⟨s, hs, hran⟩ := Option.map_eq_some_iff.1 hrun
  refine ⟨s, hs, hran, ?_⟩
  refine ((callbacks_once cancelled s hs).2.1 0 "s1" ⟨0, "local"⟩ ?_).2
  rw [hran]
  exact List.mem_cons_self

end Traffic

end Gate

end SootheClient
