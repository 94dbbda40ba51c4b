import Mathlib.Data.List.MinMax
import Mathlib.Data.Int.Order.Basic
import Mathlib.Order.WithBot
import SootheClient.Turn.Boundary

/-!
# The boundary and the history of its calls

`binding`, `SawRunning` and `ProgressSince` say of a sequence of calls what the gate keeps of it
in three fields: the latest of the running turn ids whose generation is maximal, whether a running
status came, and whether a progress chunk came since the binding last changed. `follows_run` is
the invariant, by induction on the history from its end.
-/

namespace SootheClient.Turn

open SootheClient.Frame

/-! ## The binding of a list of turn ids -/

/-- The order of the generations, kept apart from the lattices above it. -/
local instance generationOrder : Preorder ℤ := Int.instLinearOrder.toPartialOrder.toPreorder

/-- The generation of an id; the least one when it does not parse. -/
def generation (t : String) : WithBot ℤ := parseTurnGeneration (some t)

/-- The latest id of maximal generation, the first id when none parses. -/
def binding (ids : List String) : Option String :=
  if ∀ t ∈ ids, generation t = ⊥ then ids.head? else ids.reverse.argmax generation

/-- `t?` is the latest of the ids with the maximal parsed generation, or the first if none
parses. -/
def IsBinding (ids : List String) (t? : Option String) : Prop :=
  match t? with
  | none => ids = []
  | some t =>
    (∃ n pre post, ids = pre ++ t :: post ∧ parseTurnGeneration (some t) = some n ∧
      (∀ u ∈ pre, ∀ m, parseTurnGeneration (some u) = some m → m ≤ n) ∧
      ∀ u ∈ post, ∀ m, parseTurnGeneration (some u) = some m → m < n) ∨
    ((∀ u ∈ ids, parseTurnGeneration (some u) = none) ∧ ids.head? = some t)

variable {ids : List String} {t u : String} {g : TurnLifecycleGate}

theorem generation_eq_bot : generation t = ⊥ ↔ parseTurnGeneration (some t) = none := Iff.rfl

theorem generation_eq_coe {n : ℤ} :
    generation t = n ↔ parseTurnGeneration (some t) = some n := Iff.rfl

theorem binding_of_all (h : ∀ t ∈ ids, generation t = ⊥) : binding ids = ids.head? := if_pos h

theorem binding_of_exists (ht : t ∈ ids) (hg : generation t ≠ ⊥) :
    binding ids = ids.reverse.argmax generation :=
  if_neg fun h => hg (h t ht)

theorem binding_eq_none : binding ids = none ↔ ids = [] := by
  unfold binding
  split_ifs
  · exact List.head?_eq_none_iff
  · rw [List.argmax_eq_none, List.reverse_eq_nil_iff]

/-- The binding of a list with an id that parses is of maximal generation, and parses. -/
theorem generation_le_binding (hu : binding ids = some u) (ht : t ∈ ids) :
    generation t ≤ generation u := by
  by_cases h : ∀ t ∈ ids, generation t = ⊥
  · rw [h t ht]
    exact bot_le
  · unfold binding at hu
    rw [if_neg h] at hu
    exact List.le_of_mem_argmax (List.mem_reverse.2 ht) hu

theorem binding_mem (hu : binding ids = some u) : u ∈ ids := by
  unfold binding at hu
  split_ifs at hu
  · exact List.mem_of_head? hu
  · exact List.mem_reverse.1 (List.argmax_mem hu)

/-- An id takes over a binding when nothing is bound, or when its generation parses and is no
lower. -/
theorem rebinds_iff : g.rebinds t = true ↔
    ∀ e, g.expectedTurnId = some e → generation t ≠ ⊥ ∧ generation e ≤ generation t := by
  unfold TurnLifecycleGate.rebinds
  cases g.expectedTurnId with
  | none => simp
  | some e =>
    simp only [Option.some.injEq, forall_eq']
    cases ht : parseTurnGeneration (some t) with
    | none => simp [generation_eq_bot.2 ht]
    | some n =>
      rw [generation_eq_coe.2 ht]
      cases he : parseTurnGeneration (some e) with
      | none => simp [generation_eq_bot.2 he]
      | some m => simp [generation_eq_coe.2 he]

/-- **One more id.** The gate's three-way condition computes the binding step by step. -/
theorem binding_concat (hg : g.expectedTurnId = binding ids) :
    binding (ids ++ [t]) = if g.rebinds t then some t else binding ids := by
  by_cases hall : ∀ u ∈ ids, generation u = ⊥
  · cases ids with
    | nil =>
      have hr : g.rebinds t = true := rebinds_iff.2 fun e he => by rw [hg] at he; cases he
      rw [if_pos hr]
      unfold binding
      split_ifs <;> rfl
    | cons e rest =>
      have hbind : binding (e :: rest) = some e := binding_of_all hall
      by_cases ht : generation t = ⊥
      · have hr : g.rebinds t ≠ true := fun hr =>
          (rebinds_iff.1 hr e (hg.trans hbind)).1 ht
        rw [if_neg hr, hbind, binding_of_all]
        · rfl
        · intro u hu
          rcases List.mem_append.1 hu with hu | hu
          · exact hall u hu
          · rw [List.mem_singleton.1 hu, ht]
      · have hr : g.rebinds t = true := by
          refine rebinds_iff.2 fun e' he' => ⟨ht, ?_⟩
          rw [hg, hbind, Option.some.injEq] at he'
          rw [← he', hall e List.mem_cons_self]
          exact bot_le
        rw [if_pos hr, binding_of_exists (List.mem_append_right _ (List.mem_singleton_self t)) ht,
          List.reverse_concat, List.argmax_cons]
        cases hm : (e :: rest).reverse.argmax generation with
        | none => rfl
        | some c =>
          have hc := hall c (List.mem_reverse.1 (List.argmax_mem hm))
          show (if generation t < generation c then some c else some t) = some t
          rw [if_neg (by rw [hc]; exact not_lt_bot)]
  · have hex : ∃ u ∈ ids, generation u ≠ ⊥ := by simpa using hall
    obtain ⟨u, hu, hgu⟩ := hex
    have hbind := binding_of_exists hu hgu
    obtain ⟨c, hc⟩ := Option.ne_none_iff_exists'.1
      fun h => List.ne_nil_of_mem hu (binding_eq_none.1 h)
    have hgc : generation c ≠ ⊥ := by
      intro hbot
      have hle := generation_le_binding hc hu
      rw [hbot, le_bot_iff] at hle
      exact hgu hle
    have hnew : binding (ids ++ [t]) = if generation t < generation c then some c else some t := by
      rw [binding_of_exists (List.mem_append_left _ hu) hgu, List.reverse_concat,
        List.argmax_cons, ← hbind, hc]
    have hr : g.rebinds t = true ↔ ¬ generation t < generation c := by
      rw [rebinds_iff, not_lt]
      constructor
      · intro h
        exact (h c (hg.trans hc)).2
      · intro h e he
        rw [hg, hc, Option.some.injEq] at he
        subst he
        exact ⟨fun hbot => hgc (le_bot_iff.1 (hbot ▸ h)), h⟩
    rw [hnew, hc]
    by_cases hlt : generation t < generation c
    · rw [if_pos hlt, if_neg (fun h => hr.1 h hlt)]
    · rw [if_neg hlt, if_pos (hr.2 hlt)]

/-- The binding never goes to a lower generation. -/
theorem generation_binding_mono (h : binding ids = some u) :
    ∃ v, binding (ids ++ [t]) = some v ∧ generation u ≤ generation v := by
  have hne : binding (ids ++ [t]) ≠ none := fun hn => by
    have := binding_eq_none.1 hn
    simp at this
  obtain ⟨v, hv⟩ := Option.ne_none_iff_exists'.1 hne
  exact ⟨v, hv, generation_le_binding hv (List.mem_append_left _ (binding_mem h))⟩

/-- `binding` is the latest id of maximal parsed generation. -/
theorem isBinding_binding (ids : List String) : IsBinding ids (binding ids) := by
  induction ids using List.reverseRecOn with
  | nil => rfl
  | append_singleton ids t ih =>
    have hstep := binding_concat (g := { expectedTurnId := binding ids }) (t := t) rfl
    rw [hstep]
    split_ifs with hr
    · rw [rebinds_iff] at hr
      cases ht : parseTurnGeneration (some t) with
      | none =>
        cases hb : binding ids with
        | none =>
          rw [binding_eq_none.1 hb]
          exact Or.inr ⟨by simpa using ht, rfl⟩
        | some e => exact absurd (generation_eq_bot.2 ht) (hr e hb).1
      | some n =>
        refine Or.inl ⟨n, ids, [], rfl, ht, fun u hu m hm => ?_, by simp⟩
        cases hb : binding ids with
        | none =>
          rw [binding_eq_none.1 hb] at hu
          cases hu
        | some e =>
          have hle := (generation_le_binding hb hu).trans (hr e hb).2
          rw [generation_eq_coe.2 hm, generation_eq_coe.2 ht] at hle
          exact WithBot.coe_le_coe.1 hle
    · cases hb : binding ids with
      | none => exact absurd (rebinds_iff.2 fun e he => by rw [hb] at he; cases he) hr
      | some e =>
        rw [hb] at ih
        have hno : generation t = ⊥ ∨ generation t < generation e := by
          by_contra hcon
          rw [not_or, not_lt] at hcon
          exact hr (rebinds_iff.2 fun e' he' => by
            rw [hb, Option.some.injEq] at he'
            exact he' ▸ hcon)
        rcases ih with ⟨n, pre, post, rfl, he, hpre, hpost⟩ | ⟨hall, hhead⟩
        · refine Or.inl ⟨n, pre, post ++ [t], by simp, he, hpre, fun u hu m hm => ?_⟩
          rcases List.mem_append.1 hu with hu | hu
          · exact hpost u hu m hm
          · rw [List.mem_singleton.1 hu] at hm
            rw [generation_eq_coe.2 hm, generation_eq_coe.2 he] at hno
            rcases hno with hno | hno
            · cases hno
            · exact WithBot.coe_lt_coe.1 hno
        · have hbot : generation e = ⊥ := hall e (List.mem_of_head? hhead)
          have ht : generation t = ⊥ := by
            rcases hno with hno | hno
            · exact hno
            · rw [hbot] at hno
              exact absurd hno not_lt_bot
          refine Or.inr ⟨fun u hu => ?_, ?_⟩
          · rcases List.mem_append.1 hu with hu | hu
            · exact hall u hu
            · rw [List.mem_singleton.1 hu]
              exact ht
          · rw [List.head?_append, hhead]
            rfl

/-! ## The history of calls -/

/-- A status call with the state, in any case. -/
def Call.isState (state : String) : Call → Bool
  | .status s _ => Text.eqIgnoreAsciiCase s state
  | .event _ _ _ => false

/-- The turn id of a running status. -/
def Call.runningId : Call → Option String
  | .status s turnId => if Text.eqIgnoreAsciiCase s "running" then turnId else none
  | .event _ _ _ => none

/-- A progress chunk. -/
def Call.isProgress : Call → Bool
  | .status _ _ => false
  | .event mode data _ => isTurnProgressChunk mode data

/-- A custom turn-end payload. -/
def Call.isTurnEnd : Call → Bool
  | .status _ _ => false
  | .event mode data _ => mode = "custom" && isTurnEndCustomData data

/-- The turn id of a call: of the data first, then of the outer frame. -/
def Call.turnId : Call → Option String
  | .status _ turnId => turnId
  | .event _ data frameTurn => (frameTurnId data).or frameTurn

/-- The turn id handed over is absent, or trimmed and not blank. -/
def Call.Trimmed : Call → Prop
  | .status _ turnId => Frame.Trimmed turnId
  | .event _ _ frameTurn => Frame.Trimmed frameTurn

def runningIds (h : List Call) : List String := h.filterMap Call.runningId

/-- Some running status was seen. -/
def SawRunning (h : List Call) : Prop := ∃ c ∈ h, c.isState "running" = true

/-- The call `c` after `h` changes an existing binding to a different id. -/
def Rebinds (h : List Call) (c : Call) : Prop :=
  ∃ t u, binding (runningIds h) = some t ∧ binding (runningIds (h ++ [c])) = some u ∧ t ≠ u

/-- A progress chunk was seen since an existing binding last changed to a different id. -/
def ProgressSince (h : List Call) : Prop :=
  ∃ pre c post, h = pre ++ c :: post ∧ c.isProgress = true ∧
    ∀ mid r rest, post = mid ++ r :: rest → ¬ Rebinds (pre ++ c :: mid) r

/-- The call's turn id is the binding. -/
def Bound (h : List Call) (c : Call) : Prop :=
  ∃ t, c.turnId = some t ∧ binding (runningIds h) = some t

variable {h : List Call} {c : Call} {b : TurnBoundary}

theorem runningIds_concat : runningIds (h ++ [c]) = runningIds h ++ c.runningId.toList := by
  unfold runningIds
  rw [List.filterMap_append]
  cases hc : c.runningId <;> simp [hc]

theorem sawRunning_concat : SawRunning (h ++ [c]) ↔ SawRunning h ∨ c.isState "running" = true := by
  unfold SawRunning
  simp [or_and_right, exists_or]

/-- Progress counts from the call itself, or from before when the call does not rebind. -/
theorem progressSince_concat :
    ProgressSince (h ++ [c]) ↔ c.isProgress = true ∨ (ProgressSince h ∧ ¬ Rebinds h c) := by
  constructor
  · rintro ⟨pre, d, post, heq, hd, hpost⟩
    rcases List.eq_nil_or_concat post with rfl | ⟨post, r, rfl⟩
    · obtain ⟨-, hcd⟩ := List.append_inj' heq rfl
      obtain rfl := List.singleton_inj.1 hcd
      exact Or.inl hd
    · rw [List.concat_eq_append] at heq hpost
      rw [← List.cons_append, ← List.append_assoc] at heq
      obtain ⟨rfl, hcr⟩ := List.append_inj' heq rfl
      obtain rfl := List.singleton_inj.1 hcr
      refine Or.inr ⟨⟨pre, d, post, rfl, hd, fun mid r rest hp => ?_⟩, hpost post c [] rfl⟩
      exact hpost mid r (rest ++ [c]) (by rw [hp]; simp)
  · rintro (hc | ⟨⟨pre, d, post, rfl, hd, hpost⟩, hno⟩)
    · exact ⟨h, c, [], rfl, hc, fun mid r rest hp => by simp at hp⟩
    · refine ⟨pre, d, post ++ [c], by simp, hd, fun mid r rest hp => ?_⟩
      rcases List.eq_nil_or_concat rest with rfl | ⟨rest, e, rfl⟩
      · obtain ⟨rfl, hrc⟩ := List.append_inj' hp rfl
        obtain rfl := List.singleton_inj.1 hrc
        exact hno
      · rw [List.concat_eq_append, ← List.cons_append, ← List.append_assoc] at hp
        exact hpost mid r rest (List.append_inj' hp rfl).1

/-- The two states of a status call exclude each other. -/
theorem isState_unique {a b : String} (ha : c.isState a = true) (hb : c.isState b = true) :
    a.toList.map Text.lowerChar = b.toList.map Text.lowerChar := by
  cases c with
  | event => cases ha
  | status s turnId =>
    exact (beq_iff_eq.1 ha).symm.trans (beq_iff_eq.1 hb)

theorem not_running_of_isState {a : String} (ha : c.isState a = true)
    (hne : a.toList.map Text.lowerChar ≠ "running".toList.map Text.lowerChar) :
    c.isState "running" = false := by
  by_contra hr
  exact hne (isState_unique ha (by simpa using hr))

/-! ## The invariant -/

/-- What a call does to the gate of a boundary that has not ended. -/
def TurnLifecycleGate.observe (g : TurnLifecycleGate) : Call → TurnLifecycleGate
  | .status state turnId => g.observeStatus state turnId
  | .event mode data _ => g.observeEvent mode data

/-- The gate keeps the three facts of the history. -/
structure Follows (h : List Call) (g : TurnLifecycleGate) : Prop where
  running : g.sawRunning = true ↔ SawRunning h
  bound : g.expectedTurnId = binding (runningIds h)
  progress : g.sawTurnProgress = true ↔ ProgressSince h
  cancellation : g.cancellationSeen = false

theorem follows_nil : Follows [] {} where
  running := by simp [SawRunning]
  bound := rfl
  progress := by simp [ProgressSince]
  cancellation := rfl

theorem not_rebinds_of_none (hc : c.runningId = none) : ¬ Rebinds h c := by
  rintro ⟨t, u, ht, hu, hne⟩
  rw [runningIds_concat, hc, Option.toList_none, List.append_nil, ht] at hu
  exact hne (Option.some.inj hu)

theorem follows_observe (hf : Follows h g) : Follows (h ++ [c]) (g.observe c) := by
  cases c with
  | event mode data frameTurn =>
    have hno : ¬ Rebinds h (.event mode data frameTurn) := not_rebinds_of_none rfl
    have hobs : g.observe (.event mode data frameTurn) = { g with
        sawTurnProgress := isTurnProgressChunk mode data || g.sawTurnProgress } := by
      show g.observeEvent mode data = _
      unfold TurnLifecycleGate.observeEvent
      cases isTurnProgressChunk mode data <;> rfl
    rw [hobs]
    refine ⟨?_, ?_, ?_, hf.cancellation⟩
    · rw [sawRunning_concat, ← hf.running]
      simp [Call.isState]
    · show g.expectedTurnId = _
      rw [runningIds_concat, hf.bound]
      simp [Call.runningId]
    · rw [progressSince_concat, ← hf.progress]
      simp [Call.isProgress, hno]
  | status state turnId =>
    by_cases hrun : Text.eqIgnoreAsciiCase state "running" = true
    · have hsaw : SawRunning (h ++ [.status state turnId]) := sawRunning_concat.2 (Or.inr hrun)
      cases turnId with
      | none =>
        have hno : ¬ Rebinds h (.status state none) := not_rebinds_of_none (by simp [Call.runningId])
        have hobs : g.observe (.status state none) = { g with sawRunning := true } := by
          show g.observeStatus state none = _
          unfold TurnLifecycleGate.observeStatus
          rw [if_pos hrun]
        rw [hobs]
        refine ⟨by simpa using hsaw, ?_, ?_, hf.cancellation⟩
        · show g.expectedTurnId = _
          rw [runningIds_concat, hf.bound]
          simp [Call.runningId]
        · rw [progressSince_concat, ← hf.progress]
          simp [Call.isProgress, hno]
      | some t =>
        have hids : runningIds (h ++ [.status state (some t)]) = runningIds h ++ [t] := by
          rw [runningIds_concat]
          simp [Call.runningId, hrun]
        have hstep := binding_concat (t := t) hf.bound
        have hobs : g.observe (.status state (some t)) = if g.rebinds t then { g with
            sawRunning := true
            sawTurnProgress :=
              if g.expectedTurnId.any (· ≠ t) then false else g.sawTurnProgress
            expectedTurnId := some t } else { g with sawRunning := true } := by
          show g.observeStatus state (some t) = _
          unfold TurnLifecycleGate.observeStatus
          rw [if_pos hrun]
        rw [hobs]
        by_cases hr : g.rebinds t = true
        · rw [if_pos hr] at hstep ⊢
          refine ⟨by simpa using hsaw, ?_, ?_, hf.cancellation⟩
          · rw [hids, hstep]
          · have hreb : Rebinds h (.status state (some t)) ↔
                g.expectedTurnId.any (· ≠ t) = true := by
              unfold Rebinds
              rw [hids, hstep, ← hf.bound]
              cases g.expectedTurnId with
              | none => simp
              | some e => simp
            rw [progressSince_concat, hreb, ← hf.progress]
            show (if g.expectedTurnId.any (· ≠ t) = true then false else g.sawTurnProgress) = true
              ↔ _
            generalize g.expectedTurnId.any (· ≠ t) = moved
            cases moved <;> simp [Call.isProgress]
        · rw [if_neg hr] at hstep ⊢
          have hno : ¬ Rebinds h (.status state (some t)) := by
            rintro ⟨e, u, he, hu, hne⟩
            rw [hids, hstep, he] at hu
            exact hne (Option.some.inj hu)
          refine ⟨by simpa using hsaw, ?_, ?_, hf.cancellation⟩
          · rw [hids, hstep]
            exact hf.bound
          · rw [progressSince_concat, ← hf.progress]
            simp [Call.isProgress, hno]
    · have hno : ¬ Rebinds h (.status state turnId) :=
        not_rebinds_of_none (by simp [Call.runningId, hrun])
      have hobs : g.observe (.status state turnId) = g := by
        show g.observeStatus state turnId = _
        unfold TurnLifecycleGate.observeStatus
        rw [if_neg hrun]
      rw [hobs]
      refine ⟨?_, ?_, ?_, hf.cancellation⟩
      · rw [sawRunning_concat, ← hf.running]
        simp [Call.isState, hrun]
      · rw [runningIds_concat, hf.bound]
        simp [Call.runningId, hrun]
      · rw [progressSince_concat, ← hf.progress]
        simp [Call.isProgress, hno]

/-- The reason with which a call ends a boundary whose gate has observed it, if it does. -/
def verdict (g : TurnLifecycleGate) : Call → Option String
  | .status state turnId =>
    if Text.eqIgnoreAsciiCase state "stopped" && g.sawRunning then
      if g.expectedTurnId.isSome && !turnIdsMatch g.expectedTurnId turnId then none
      else some TURN_END_STOPPED
    else if Text.eqIgnoreAsciiCase state "idle" && g.allowIdleComplete turnId then
      some TURN_END_IDLE
    else none
  | .event mode data frameTurn =>
    if mode = "custom" && isTurnEndCustomData data &&
        g.allowStreamEnd ((frameTurnId data).or frameTurn) then
      some TURN_END_STREAM_END
    else none

/-- A call on a boundary that has not ended. -/
theorem feed_eq (hb : b.ended = false) : b.feed c =
    match verdict (b.gate.observe c) c with
    | some r => ({ gate := b.gate.observe c, ended := true, reason := r }, some r)
    | none => ({ b with gate := b.gate.observe c }, none) := by
  cases c with
  | status state turnId =>
    show b.feedStatusTurn state turnId = _
    unfold TurnBoundary.feedStatusTurn verdict TurnLifecycleGate.observe
    rw [if_neg (by simp [hb])]
    simp only
    split_ifs <;> rfl
  | event mode data frameTurn =>
    show b.feedEventTurn mode data frameTurn = _
    unfold TurnBoundary.feedEventTurn verdict TurnLifecycleGate.observe
    rw [if_neg (by simp [hb])]
    simp only
    split_ifs <;> rfl

theorem verdict_reason {r : String} (h : verdict g c = some r) :
    r = TURN_END_STREAM_END ∨ r = TURN_END_IDLE ∨ r = TURN_END_STOPPED := by
  cases c with
  | status state turnId =>
    simp only [verdict] at h
    split_ifs at h
    · exact Or.inr (Or.inr (Option.some.inj h).symm)
    · exact Or.inr (Or.inl (Option.some.inj h).symm)
  | event mode data frameTurn =>
    simp only [verdict] at h
    split_ifs at h
    exact Or.inl (Option.some.inj h).symm

/-- **Run lemma.** Until a call ends the boundary, its gate follows the history; afterwards the
reason is one of the three. -/
theorem follows_run (h : List Call) :
    ((run h).ended = false → Follows h (run h).gate) ∧
      ((run h).ended = true → staticReason (run h).reason = some (run h).reason) := by
  induction h using List.reverseRecOn with
  | nil => exact ⟨fun _ => follows_nil, fun h => by cases h⟩
  | append_singleton h c ih =>
    rw [run_concat]
    cases hb : (run h).ended with
    | true =>
      rw [feed_of_ended hb]
      exact ⟨fun hf => absurd (hb.symm.trans hf) (by decide), ih.2⟩
    | false =>
      have hobs : Follows (h ++ [c]) ((run h).gate.observe c) := follows_observe (ih.1 hb)
      rw [feed_eq hb]
      cases hv : verdict ((run h).gate.observe c) c with
      | none =>
        exact ⟨fun _ => hobs, fun he =>
          absurd (hb.symm.trans (show (run h).ended = true from he)) (by decide)⟩
      | some r =>
        refine ⟨fun he => (nomatch he), fun _ => ?_⟩
        show staticReason r = some r
        exact if_pos (verdict_reason hv)

/-! ## The characterisation -/

theorem trimmed_binding (hh : ∀ c ∈ h, c.Trimmed) : Frame.Trimmed (binding (runningIds h)) := by
  intro t ht
  obtain ⟨c, hc, hid⟩ := List.mem_filterMap.1 (binding_mem ht)
  have hct := hh c hc
  cases c with
  | event => cases hid
  | status state turnId =>
    simp only [Call.runningId] at hid
    split_ifs at hid
    exact hct t hid

theorem trimmed_turnId (hc : c.Trimmed) : Frame.Trimmed c.turnId := by
  cases c with
  | status => exact hc
  | event mode data frameTurn =>
    intro t ht
    simp only [Call.turnId] at ht
    cases hd : frameTurnId data with
    | none =>
      rw [hd, Option.none_or] at ht
      exact hc t ht
    | some u =>
      rw [hd, Option.some_or] at ht
      exact trimmed_frameTurnId data t (hd.trans ht)

theorem observe_of_not_running (hs : c.isState "running" = false) (hp : c.isProgress = false) :
    g.observe c = g := by
  cases c with
  | status state turnId =>
    show g.observeStatus state turnId = g
    unfold TurnLifecycleGate.observeStatus
    rw [if_neg]
    intro hr
    exact absurd hs (by simpa [Call.isState] using hr)
  | event mode data frameTurn =>
    show g.observeEvent mode data = g
    unfold TurnLifecycleGate.observeEvent
    rw [if_neg]
    intro hr
    exact absurd hp (by simpa [Call.isProgress] using hr)

theorem bound_iff (hf : Follows h g) :
    Bound h c ↔ ∃ t, g.expectedTurnId = some t ∧ c.turnId = some t := by
  unfold Bound
  rw [hf.bound]
  exact exists_congr fun t => and_comm

theorem verdict_streamEnd (hf : Follows h g) (hh : ∀ c ∈ h, c.Trimmed) (hc : c.Trimmed) :
    verdict (g.observe c) c = some TURN_END_STREAM_END ↔
      c.isTurnEnd = true ∧ SawRunning h ∧ ProgressSince h ∧ Bound h c := by
  cases c with
  | status state turnId =>
    constructor
    · intro hv
      simp only [verdict] at hv
      split_ifs at hv
      · exact absurd (Option.some.inj hv) (by decide)
      · exact absurd (Option.some.inj hv) (by decide)
    · rintro ⟨hend, -⟩
      cases hend
  | event mode data frameTurn =>
    have hbt := trimmed_binding hh
    rw [← hf.bound] at hbt
    have hiff : g.allowStreamEnd ((frameTurnId data).or frameTurn) = true ↔
        SawRunning h ∧ ProgressSince h ∧ Bound h (.event mode data frameTurn) := by
      rw [bound_iff hf, ← hf.running, ← hf.progress]
      exact isTurnTerminalAllowed_iff hbt (trimmed_turnId hc)
    by_cases hend : (Call.event mode data frameTurn).isTurnEnd = true
    · have hmode : mode = "custom" ∧ isTurnEndCustomData data = true := by
        simpa [Call.isTurnEnd] using hend
      have hobs : g.observe (.event mode data frameTurn) = g :=
        observe_of_not_running rfl (by
          show isTurnProgressChunk mode data = false
          rw [hmode.1]
          exact not_progress_of_turnEnd hmode.2)
      rw [hobs, ← hiff]
      obtain ⟨rfl, hdata⟩ := hmode
      simp [verdict, hdata, hend]
    · constructor
      · intro hv
        simp only [verdict] at hv
        split_ifs at hv with hcond
        rw [Bool.and_eq_true] at hcond
        exact absurd hcond.1 hend
      · rintro ⟨hend', -⟩
        exact absurd hend' hend

theorem verdict_idle (hf : Follows h g) (hh : ∀ c ∈ h, c.Trimmed) (hc : c.Trimmed) :
    verdict (g.observe c) c = some TURN_END_IDLE ↔
      c.isState "idle" = true ∧ SawRunning h ∧ ProgressSince h ∧ Bound h c := by
  cases c with
  | event mode data frameTurn =>
    constructor
    · intro hv
      simp only [verdict] at hv
      split_ifs at hv
      exact absurd (Option.some.inj hv) (by decide)
    · rintro ⟨hs, -⟩
      cases hs
  | status state turnId =>
    have hbt := trimmed_binding hh
    rw [← hf.bound] at hbt
    by_cases hidle : (Call.status state turnId).isState "idle" = true
    · have hobs : g.observe (.status state turnId) = g :=
        observe_of_not_running (not_running_of_isState hidle (by decide)) rfl
      have hstop : Text.eqIgnoreAsciiCase state "stopped" = false := by
        by_contra hs
        exact absurd (isState_unique hidle (show Call.isState "stopped" (.status state turnId) = true
          by simpa [Call.isState] using hs)) (by decide)
      have hiff : g.allowIdleComplete turnId = true ↔
          SawRunning h ∧ ProgressSince h ∧ Bound h (.status state turnId) := by
        rw [bound_iff hf, ← hf.running, ← hf.progress]
        unfold TurnLifecycleGate.allowIdleComplete
        rw [hf.cancellation]
        exact isIdleTerminalAllowed_iff hbt hc
      have hst : Text.eqIgnoreAsciiCase state "idle" = true := hidle
      rw [hobs, ← hiff]
      unfold verdict
      simp [hstop, hst, hidle]
    · constructor
      · intro hv
        simp only [verdict] at hv
        split_ifs at hv with h1 h2 h3
        · exact absurd (Option.some.inj hv) (by decide)
        · rw [Bool.and_eq_true] at h3
          exact absurd h3.1 hidle
      · rintro ⟨hs, -⟩
        exact absurd hs hidle

theorem verdict_stopped (hf : Follows h g) (hh : ∀ c ∈ h, c.Trimmed) (hc : c.Trimmed) :
    verdict (g.observe c) c = some TURN_END_STOPPED ↔
      c.isState "stopped" = true ∧ SawRunning h ∧
        (binding (runningIds h) = none ∨ Bound h c) := by
  cases c with
  | event mode data frameTurn =>
    constructor
    · intro hv
      simp only [verdict] at hv
      split_ifs at hv
      exact absurd (Option.some.inj hv) (by decide)
    · rintro ⟨hs, -⟩
      cases hs
  | status state turnId =>
    have hbt := trimmed_binding hh
    rw [← hf.bound] at hbt
    by_cases hstop : (Call.status state turnId).isState "stopped" = true
    · have hobs : g.observe (.status state turnId) = g :=
        observe_of_not_running (not_running_of_isState hstop (by decide)) rfl
      have hst : Text.eqIgnoreAsciiCase state "stopped" = true := hstop
      have hidle : Text.eqIgnoreAsciiCase state "idle" = false := by
        by_contra hi
        exact absurd (isState_unique hstop (show Call.isState "idle" (.status state turnId) = true
          by simpa [Call.isState] using hi)) (by decide)
      have hmatch := turnIdsMatch_iff hbt (show Frame.Trimmed turnId from hc)
      rw [hobs, ← hf.bound, bound_iff hf, ← hf.running]
      unfold verdict
      cases he : g.expectedTurnId with
      | none => simp [hst, hidle, hstop]
      | some e =>
        rw [he] at hmatch
        cases hm : turnIdsMatch (some e) turnId with
        | true =>
          have hex := hmatch.1 hm
          simp only [hst, hidle, hm]
          simpa [hstop, Call.turnId] using fun _ => hex
        | false =>
          have hnex : ¬ ∃ t, some e = some t ∧ turnId = some t := fun hex => by
            rw [hmatch.2 hex] at hm
            cases hm
          simp only [hst, hidle, hm]
          simpa [hstop, Call.turnId] using fun _ => hnex
    · constructor
      · intro hv
        simp only [verdict] at hv
        split_ifs at hv with h1 h2 h3
        · rw [Bool.and_eq_true] at h1
          exact absurd h1.1 hstop
        · exact absurd (Option.some.inj hv) (by decide)
      · rintro ⟨hs, -⟩
        exact absurd hs hstop

/-- The call after `h` ends the boundary with the reason. -/
def EndsAs (h : List Call) (c : Call) (reason : String) : Prop :=
  (run h).ended = false ∧ ((run h).feed c).1.ended = true ∧
    ((run h).feed c).1.reason = reason ∧ ((run h).feed c).2 = some reason

theorem endsAs_iff (hb : (run h).ended = false) {r : String} :
    EndsAs h c r ↔ verdict ((run h).gate.observe c) c = some r := by
  unfold EndsAs
  rw [feed_eq hb]
  cases hv : verdict ((run h).gate.observe c) c with
  | none => simp [hb]
  | some q => simp [hb]

/-- **History characterisation.** What is bound, which calls end the boundary and with which
reason, and that nothing changes afterwards. -/
theorem boundary_history (h : List Call) (c : Call) (hh : ∀ d ∈ h, d.Trimmed) (hc : c.Trimmed) :
    ((run h).ended = false →
      IsBinding (runningIds h) (run h).gate.expectedTurnId ∧
      (run h).gate.expectedTurnId = binding (runningIds h) ∧
      (((run h).feed c).1.ended = false → ∀ t, (run h).gate.expectedTurnId = some t →
        ∃ u, ((run h).feed c).1.gate.expectedTurnId = some u ∧ generation t ≤ generation u) ∧
      (EndsAs h c TURN_END_STREAM_END ↔
        c.isTurnEnd = true ∧ SawRunning h ∧ ProgressSince h ∧ Bound h c) ∧
      (EndsAs h c TURN_END_IDLE ↔
        c.isState "idle" = true ∧ SawRunning h ∧ ProgressSince h ∧ Bound h c) ∧
      (EndsAs h c TURN_END_STOPPED ↔
        c.isState "stopped" = true ∧ SawRunning h ∧
          (binding (runningIds h) = none ∨ Bound h c)) ∧
      (((run h).feed c).1.ended = true → EndsAs h c TURN_END_STREAM_END ∨
        EndsAs h c TURN_END_IDLE ∨ EndsAs h c TURN_END_STOPPED)) ∧
    ((run h).ended = true → (run h).feed c = (run h, some (run h).reason)) := by
  refine ⟨fun hb => ?_, fun hb => ?_⟩
  · have hf := (follows_run h).1 hb
    refine ⟨?_, hf.bound, fun hb' t ht => ?_, ?_, ?_, ?_, fun hend => ?_⟩
    · rw [hf.bound]
      exact isBinding_binding _
    · have hf' := (follows_run (h ++ [c])).1 (by rw [run_concat]; exact hb')
      rw [run_concat] at hf'
      rw [hf.bound] at ht
      rw [hf'.bound, runningIds_concat]
      cases c.runningId with
      | none => exact ⟨t, by simpa using ht, le_rfl⟩
      | some u => exact generation_binding_mono ht
    · rw [endsAs_iff hb]
      exact verdict_streamEnd hf hh hc
    · rw [endsAs_iff hb]
      exact verdict_idle hf hh hc
    · rw [endsAs_iff hb]
      exact verdict_stopped hf hh hc
    · rw [endsAs_iff hb, endsAs_iff hb, endsAs_iff hb]
      rw [feed_eq hb] at hend
      cases hv : verdict ((run h).gate.observe c) c with
      | none =>
        rw [hv] at hend
        rw [show (run h).ended = true from hend] at hb
        cases hb
      | some r =>
        rcases verdict_reason hv with rfl | rfl | rfl
        · exact Or.inl rfl
        · exact Or.inr (Or.inl rfl)
        · exact Or.inr (Or.inr rfl)
  · rw [feed_of_ended hb, (follows_run h).2 hb]

/-- Running, progress and the turn's `stream.end`. -/
theorem boundary_history_streamEnd :
    EndsAs [.status "running" (some "L:1"), .event "messages" (.arr []) none]
      (.event "custom" (.obj [("type", .str "soothe.stream.end"), ("turn_id", .str "L:1")]) none)
      TURN_END_STREAM_END := by
  have htrim : Frame.Trimmed (some "L:1") := by
    intro t ht
    obtain rfl := Option.some.inj ht
    decide
  refine (((boundary_history _ _ ?_ ?_).1 rfl).2.2.2.1).2 ⟨by decide, ?_, ?_, "L:1", by decide, by decide⟩
  · intro d hd
    rcases List.mem_cons.1 hd with rfl | hd
    · exact htrim
    · rw [List.mem_singleton.1 hd]
      exact fun t ht => nomatch ht
  · exact fun t ht => nomatch ht
  · exact ⟨_, List.mem_cons_self, by decide⟩
  · exact ⟨[_], _, [], rfl, by decide, fun mid r rest hp => by simp at hp⟩

end SootheClient.Turn
