import SootheClient.Turn.History

/-!
# Premature terminals

The progress flag of a gate is set by any progress chunk and reset when a bound id changes. The
first running status binds an id and leaves the flag as it is, so progress from before it counts.
`Honest` is what the gate of a reader says about the calls it observed as long as nothing of the
kind was left over.
-/

namespace SootheClient.Turn

open SootheClient.Frame

/-- A progress chunk came after the first running status that carried `T`. -/
def Earned (h : List Call) (T : String) : Prop :=
  ∃ pre r post, h = pre ++ r :: post ∧ r.runningId = some T ∧
    (∀ c ∈ pre, c.runningId ≠ some T) ∧ ∃ c ∈ post, c.isProgress = true

/-- No progress chunk came before the first running status that carried an id. -/
def NoLeftovers (h : List Call) : Prop :=
  ∀ pre r post, h = pre ++ r :: post → r.runningId ≠ none → (∀ c ∈ pre, c.runningId = none) →
    ∀ c ∈ pre, c.isProgress = false

/-- What the gate says about the history. -/
structure Honest (h : List Call) (g : TurnLifecycleGate) : Prop where
  bound : ∀ T, g.expectedTurnId = some T → ∃ c ∈ h, c.runningId = some T
  unbound : g.expectedTurnId = none → ∀ c ∈ h, c.runningId = none
  progress : g.expectedTurnId = none →
    (g.sawTurnProgress = true ↔ ∃ c ∈ h, c.isProgress = true)
  earned : ∀ T, g.expectedTurnId = some T → g.sawTurnProgress = true → Earned h T

variable {h : List Call} {c r : Call} {g : TurnLifecycleGate} {b : TurnBoundary} {T : String}

theorem NoLeftovers.of_append {l : List Call} (hno : NoLeftovers (h ++ l)) : NoLeftovers h := by
  intro pre r post heq
  exact hno pre r (post ++ l) (by rw [heq]; simp)

/-- A history that starts with a binding has no leftovers. -/
theorem noLeftovers_cons (hr : r.runningId ≠ none) : NoLeftovers (r :: h) := by
  intro pre d post heq hd hpre
  cases pre with
  | nil => simp
  | cons e pre =>
    obtain ⟨rfl, -⟩ := List.cons.inj heq
    exact absurd (hpre r List.mem_cons_self) hr

/-- Nothing is left over before the first binding. -/
theorem noLeftovers_of_unbound (hid : ∀ c ∈ h, c.runningId = none) : NoLeftovers h := by
  intro pre d post heq hd hpre
  rw [heq] at hid
  exact absurd (hid d (List.mem_append_right _ List.mem_cons_self)) hd

theorem not_noLeftovers {d : Call} (hd : d.isProgress = true) (hid : d.runningId = none)
    (hr : r.runningId ≠ none) : ¬ NoLeftovers [d, r] := by
  intro hno
  have hclean := hno [d] r [] rfl hr (List.forall_mem_singleton.2 hid) d List.mem_cons_self
  rw [hd] at hclean
  cases hclean

theorem honest_nil : Honest [] {} where
  bound := by simp
  unbound := by simp
  progress := by simp
  earned := by simp

/-- Progress stays earned. -/
theorem Earned.append {l : List Call} (he : Earned h T) : Earned (h ++ l) T := by
  obtain ⟨pre, r, post, rfl, hr, hpre, d, hd, hp⟩ := he
  exact ⟨pre, r, post ++ l, by simp, hr, hpre, d, List.mem_append_left _ hd, hp⟩

/-- A progress chunk after a running status with the id is earned. -/
theorem earned_of_progress (hc : c.isProgress = true) (hr : r ∈ h) (hT : r.runningId = some T) :
    Earned (h ++ [c]) T := by
  obtain ⟨d, pre, post, hpre, hd, rfl, -⟩ :=
    List.exists_of_eraseP (p := fun c => c.runningId = some T) hr (decide_eq_true hT)
  refine ⟨pre, d, post ++ [c], by simp, of_decide_eq_true hd, fun x hx hxT => ?_, c, ?_, hc⟩
  · exact hpre x hx (decide_eq_true hxT)
  · exact List.mem_append_right _ (List.mem_singleton_self c)

/-- A running status that binds keeps the gate honest when no progress was left over. -/
theorem honest_running (hg : Honest h g) (hno : NoLeftovers (h ++ [c])) {state : String}
    (hc : c = .status state (some T)) (hstate : Text.eqIgnoreAsciiCase state "running" = true)
    (hreb : g.rebinds T = true) : Honest (h ++ [c]) (g.observe c) := by
  subst hc
  have hid : (Call.status state (some T)).runningId = some T := if_pos hstate
  have hobs : g.observe (.status state (some T)) =
      { g with
        sawRunning := true
        sawTurnProgress := if g.expectedTurnId.any (· ≠ T) then false else g.sawTurnProgress
        expectedTurnId := some T } := by
    show g.observeStatus state (some T) = _
    unfold TurnLifecycleGate.observeStatus
    rw [if_pos hstate]
    exact if_pos hreb
  rw [hobs]
  refine ⟨?_, ?_, ?_, ?_⟩
  · rintro u hu
    exact ⟨_, List.mem_append_right _ (List.mem_singleton_self _), hid.trans hu⟩
  · intro hnone
    cases hnone
  · intro hnone
    cases hnone
  · intro u hu hp
    obtain rfl : T = u := Option.some.inj hu
    simp only at hp
    cases he : g.expectedTurnId with
    | none =>
      -- the flag was raised by a chunk that is left over
      rw [he] at hp
      have hsaw : g.sawTurnProgress = true := by simpa using hp
      obtain ⟨d, hd, hprog⟩ := (hg.progress he).1 hsaw
      have hclean := hno h _ [] rfl (by rw [hid]; simp) (hg.unbound he) d hd
      rw [hclean] at hprog
      cases hprog
    | some e =>
      rw [he] at hp
      by_cases hne : e ≠ T
      · simp [hne] at hp
      · rw [not_not] at hne
        subst hne
        have hsaw : g.sawTurnProgress = true := by simpa using hp
        exact (hg.earned e he hsaw).append

/-- A call that changes neither the binding nor the progress flag keeps the gate honest. -/
theorem honest_same {g' : TurnLifecycleGate} (hg : Honest h g)
    (hbound : g'.expectedTurnId = g.expectedTurnId)
    (hprog : g'.sawTurnProgress = g.sawTurnProgress)
    (hid : g.expectedTurnId = none → c.runningId = none) (hc : c.isProgress = false) :
    Honest (h ++ [c]) g' where
  bound := by
    intro T hT
    rw [hbound] at hT
    obtain ⟨d, hd, hdT⟩ := hg.bound T hT
    exact ⟨d, List.mem_append_left _ hd, hdT⟩
  unbound := by
    intro hnone
    rw [hbound] at hnone
    intro d hd
    rcases List.mem_append.1 hd with hd | hd
    · exact hg.unbound hnone d hd
    · rw [List.mem_singleton.1 hd]
      exact hid hnone
  progress := by
    intro hnone
    rw [hbound] at hnone
    rw [hprog, hg.progress hnone]
    simp [or_and_right, exists_or, hc]
  earned := by
    intro T hT hp
    rw [hbound] at hT
    rw [hprog] at hp
    exact (hg.earned T hT hp).append

/-- A progress chunk keeps the gate honest. -/
theorem honest_progress (hg : Honest h g) (hc : c.isProgress = true) (hid : c.runningId = none) :
    Honest (h ++ [c]) { g with sawTurnProgress := true } where
  bound := by
    intro T hT
    obtain ⟨d, hd, hdT⟩ := hg.bound T hT
    exact ⟨d, List.mem_append_left _ hd, hdT⟩
  unbound := by
    intro hnone d hd
    rcases List.mem_append.1 hd with hd | hd
    · exact hg.unbound hnone d hd
    · rw [List.mem_singleton.1 hd]
      exact hid
  progress := by
    intro _
    exact ⟨fun _ => ⟨c, List.mem_append_right _ (List.mem_singleton_self c), hc⟩, fun _ => rfl⟩
  earned := by
    intro T hT _
    obtain ⟨d, hd, hdT⟩ := hg.bound T hT
    exact earned_of_progress hc hd hdT

/-- **Step lemma.** Every call keeps the gate honest when no progress was left over. -/
theorem honest_observe (hg : Honest h g) (hno : NoLeftovers (h ++ [c])) :
    Honest (h ++ [c]) (g.observe c) := by
  cases c with
  | event mode data frameTurn =>
    by_cases hp : isTurnProgressChunk mode data = true
    · have hobs : g.observe (.event mode data frameTurn) = { g with sawTurnProgress := true } :=
        if_pos hp
      rw [hobs]
      exact honest_progress hg hp rfl
    · have hobs : g.observe (.event mode data frameTurn) = g := if_neg hp
      rw [hobs]
      exact honest_same hg rfl rfl (fun _ => rfl) (Bool.eq_false_iff.2 hp)
  | status state turnId =>
    by_cases hrun : Text.eqIgnoreAsciiCase state "running" = true
    · cases turnId with
      | none =>
        have hobs : g.observe (.status state none) = { g with sawRunning := true } := if_pos hrun
        rw [hobs]
        exact honest_same hg rfl rfl (fun _ => if_pos hrun) rfl
      | some u =>
        by_cases hreb : g.rebinds u = true
        · exact honest_running hg hno rfl hrun hreb
        · have hobs : g.observe (.status state (some u)) = { g with sawRunning := true } := by
            show g.observeStatus state (some u) = _
            unfold TurnLifecycleGate.observeStatus
            rw [if_pos hrun]
            exact if_neg hreb
          rw [hobs]
          refine honest_same hg rfl rfl (fun hnone => ?_) rfl
          unfold TurnLifecycleGate.rebinds at hreb
          rw [hnone] at hreb
          exact absurd rfl hreb
    · have hobs : g.observe (.status state turnId) = g := if_neg hrun
      rw [hobs]
      exact honest_same hg rfl rfl (fun _ => if_neg hrun) rfl

/-- **Run lemma.** The gate of a boundary that has not ended is honest. -/
theorem honest_run (hb : (run h).ended = false) (hno : NoLeftovers h) :
    Honest h (run h).gate := by
  induction h using List.reverseRecOn with
  | nil => exact honest_nil
  | append_singleton h c ih =>
    rw [run_concat] at hb ⊢
    cases hb' : (run h).ended with
    | true =>
      rw [feed_of_ended hb'] at hb
      rw [hb'] at hb
      cases hb
    | false =>
      have hg := honest_observe (ih hb' hno.of_append) hno
      rw [feed_eq hb'] at hb ⊢
      cases hv : verdict ((run h).gate.observe c) c with
      | none => exact hg
      | some q =>
        rw [hv] at hb
        cases hb

/-- A `stream.end` or an idle status that ends a boundary finds progress, and is no progress
itself. -/
theorem verdict_progress {reason : String} (hg : g.cancellationSeen = false)
    (hv : verdict g c = some reason) (hr : reason = TURN_END_STREAM_END ∨ reason = TURN_END_IDLE) :
    g.sawTurnProgress = true := by
  cases c with
  | event mode data frameTurn =>
    simp only [verdict] at hv
    split_ifs at hv with hall
    rw [Bool.and_eq_true] at hall
    exact (of_isTurnTerminalAllowed hall.2).2
  | status state turnId =>
    simp only [verdict] at hv
    split_ifs at hv with _ _ hall
    · obtain rfl := Option.some.inj hv
      rcases hr with hr | hr
      · exact absurd hr (by decide)
      · exact absurd hr (by decide)
    · rw [Bool.and_eq_true] at hall
      have hidle := hall.2
      unfold TurnLifecycleGate.allowIdleComplete at hidle
      rw [hg] at hidle
      exact of_isIdleTerminalAllowed hidle

/-- A call that ends a boundary leaves the gate as it is. -/
theorem observe_of_verdict {g' : TurnLifecycleGate} {reason : String}
    (hv : verdict g' c = some reason) : g.observe c = g := by
  cases c with
  | event mode data frameTurn =>
    simp only [verdict] at hv
    split_ifs at hv with hall
    rw [Bool.and_eq_true, Bool.and_eq_true, decide_eq_true_eq] at hall
    obtain ⟨⟨rfl, hend⟩, -⟩ := hall
    refine if_neg ?_
    rw [not_progress_of_turnEnd hend]
    decide
  | status state turnId =>
    refine if_neg fun hrun => ?_
    have hstate : ∀ word, Text.eqIgnoreAsciiCase state word = true →
        word.toList.map Text.lowerChar = "running".toList.map Text.lowerChar := fun word hword =>
      isState_unique (c := .status state turnId) hword hrun
    simp only [verdict] at hv
    split_ifs at hv with hstop _ hidle
    · rw [Bool.and_eq_true] at hstop
      exact absurd (hstate _ hstop.1) (by decide)
    · rw [Bool.and_eq_true] at hidle
      exact absurd (hstate _ hidle.1) (by decide)

/-- Without leftovers, a boundary that ends on a `stream.end` or an idle status has earned it. -/
theorem earned_of_endsAs {reason : String} (hno : NoLeftovers h) (hend : EndsAs h c reason)
    (hr : reason = TURN_END_STREAM_END ∨ reason = TURN_END_IDLE)
    (hT : (run h).gate.expectedTurnId = some T) : Earned h T := by
  have hb := hend.1
  have hv := (endsAs_iff hb).1 hend
  have hsame : (run h).gate.observe c = (run h).gate := observe_of_verdict hv
  rw [hsame] at hv
  have hcancel := ((follows_run h).1 hb).cancellation
  exact (honest_run hb hno).earned T hT (verdict_progress hcancel hv hr)

/-- A turn that has only just been bound has earned nothing. -/
theorem not_earned_of_leftover (hid : ∀ c ∈ h, c.runningId = none) : ¬ Earned (h ++ [r]) T := by
  rintro ⟨pre, d, post, heq, hd, -, e, he, -⟩
  rcases List.eq_nil_or_concat post with rfl | ⟨post, q, rfl⟩
  · simp at he
  · rw [List.concat_eq_append, ← List.cons_append, ← List.append_assoc] at heq
    obtain ⟨rfl, -⟩ := List.append_inj' heq rfl
    have hnone := hid d (List.mem_append_right _ List.mem_cons_self)
    rw [hnone] at hd
    cases hd

/-- What breaks the condition is a first running status with an id, after a progress chunk. -/
theorem leftover_of_not (hno : NoLeftovers h) (hr : ¬ NoLeftovers (h ++ [r])) :
    r.runningId ≠ none ∧ (∀ c ∈ h, c.runningId = none) ∧ ∃ c ∈ h, c.isProgress = true := by
  unfold NoLeftovers at hr
  push Not at hr
  obtain ⟨pre, d, post, heq, hd, hpre, c, hc, hp⟩ := hr
  rcases List.eq_nil_or_concat post with rfl | ⟨post, q, rfl⟩
  · obtain ⟨rfl, hrd⟩ := List.append_inj' heq rfl
    obtain rfl := List.singleton_inj.1 hrd
    exact ⟨hd, hpre, c, hc, by simpa using hp⟩
  · rw [List.concat_eq_append, ← List.cons_append, ← List.append_assoc] at heq
    obtain ⟨rfl, -⟩ := List.append_inj' heq rfl
    exact absurd (hno pre d post rfl hd hpre c hc) hp

/-- An honest gate after a leftover: the flag is up and nothing is bound. -/
theorem Honest.leftover (hg : Honest h g) (hid : ∀ c ∈ h, c.runningId = none)
    (hp : ∃ c ∈ h, c.isProgress = true) :
    g.expectedTurnId = none ∧ g.sawTurnProgress = true := by
  have hnone : g.expectedTurnId = none := by
    by_contra hne
    obtain ⟨T, hT⟩ := Option.ne_none_iff_exists'.1 hne
    obtain ⟨c, hc, hcT⟩ := hg.bound T hT
    rw [hid c hc] at hcT
    cases hcT
  exact ⟨hnone, (hg.progress hnone).2 hp⟩

/-- What a running status with an id does to a gate that has bound nothing. -/
theorem observe_unbound {state : String} (hstate : Text.eqIgnoreAsciiCase state "running" = true)
    (hnone : g.expectedTurnId = none) : g.observe (.status state (some T)) =
      { g with sawRunning := true, expectedTurnId := some T } := by
  have hreb : g.rebinds T = true := by
    unfold TurnLifecycleGate.rebinds
    rw [hnone]
  show g.observeStatus state (some T) = _
  unfold TurnLifecycleGate.observeStatus
  rw [if_pos hstate]
  simp only
  rw [if_pos hreb, hnone]
  rfl

/-- An idle status with the bound id ends a boundary that is running and has seen progress. -/
theorem endsAs_idle (hb : (run h).ended = false) (hT : Frame.Trimmed (some T))
    (hrun : (run h).gate.sawRunning = true) (hbound : (run h).gate.expectedTurnId = some T)
    (hp : (run h).gate.sawTurnProgress = true) :
    EndsAs h (.status "idle" (some T)) TURN_END_IDLE := by
  have hobs : (run h).gate.observe (.status "idle" (some T)) = (run h).gate := by
    show (run h).gate.observeStatus "idle" (some T) = (run h).gate
    unfold TurnLifecycleGate.observeStatus
    exact if_neg (by decide)
  have hallow : (run h).gate.allowIdleComplete (some T) = true := by
    unfold TurnLifecycleGate.allowIdleComplete
    rw [((follows_run h).1 hb).cancellation, hrun, hbound, hp]
    exact (isIdleTerminalAllowed_iff hT hT).2 ⟨rfl, rfl, T, rfl, rfl⟩
  have hstop : (Text.eqIgnoreAsciiCase "idle" "stopped" && (run h).gate.sawRunning) = false := by
    rw [hrun]
    decide
  have hidle : (Text.eqIgnoreAsciiCase "idle" "idle" &&
      (run h).gate.allowIdleComplete (some T)) = true := by
    rw [hallow]
    decide
  rw [endsAs_iff hb, hobs]
  simp only [verdict, hstop, hidle, if_true, Bool.false_eq_true, if_false]

/-- With a leftover, the idle status after the first running status ends the boundary, and nothing
is earned. -/
theorem ends_of_leftover (hb : (run h).ended = false) (hno : NoLeftovers h) (hr : r.Trimmed)
    (hleft : ¬ NoLeftovers (h ++ [r])) : ∃ T,
    EndsAs (h ++ [r]) (.status "idle" (some T)) TURN_END_IDLE ∧
      (run (h ++ [r])).gate.expectedTurnId = some T ∧ ¬ Earned (h ++ [r]) T := by
  obtain ⟨hid, hpre, hp⟩ := leftover_of_not hno hleft
  obtain ⟨hnone, hprog⟩ := (honest_run hb hno).leftover hpre hp
  cases r with
  | event mode data frameTurn => exact absurd rfl hid
  | status state turnId =>
    have hstate : Text.eqIgnoreAsciiCase state "running" = true := by
      by_contra hne
      exact hid (if_neg hne)
    obtain ⟨T, rfl⟩ : ∃ T, turnId = some T := by
      refine Option.ne_none_iff_exists'.1 fun h => hid ?_
      rw [h]
      exact if_pos hstate
    have hobs := observe_unbound (T := T) hstate hnone
    have hv : verdict ((run h).gate.observe (.status state (some T))) (.status state (some T)) =
        none := by
      cases hv : verdict ((run h).gate.observe (.status state (some T))) (.status state (some T)) with
      | none => rfl
      | some q =>
        have hsame : (run h).gate.observe (.status state (some T)) = (run h).gate :=
          observe_of_verdict hv
        rw [hobs] at hsame
        have hbad := congrArg TurnLifecycleGate.expectedTurnId hsame
        rw [hnone] at hbad
        cases hbad
    have hrun : run (h ++ [.status state (some T)]) =
        { run h with gate := { (run h).gate with sawRunning := true, expectedTurnId := some T } } := by
      rw [run_concat, feed_eq hb, hv, hobs]
    refine ⟨T, endsAs_idle ?_ hr ?_ ?_ ?_, ?_, not_earned_of_leftover hpre⟩ <;> rw [hrun]
    · exact hb
    · exact hprog

end SootheClient.Turn
