import SootheClient.Session.Lifecycle

/-!
# Inputs go to the loop of the subscription

A method leaves a session as it stood, binds it to a loop that the stream is subscribed to, or fails
after it connected. So what an input names can be read off the log of the stream before it.
-/

namespace SootheClient.Session.Lifecycle

open Json (Members)
open Script

/-! ## What a method does to the standing -/

/-- The session is bound to a loop that the stream is subscribed to. -/
def Binds (v v' : Standing) : Prop :=
  ∃ l n, l ≠ "" ∧ v.dials ≤ n ∧ v' = ⟨l, some l, some l, n⟩

/-- The stream was connected again, and the session keeps its loop. -/
structure Retains (v v' : Standing) : Prop where
  loopId : v'.loopId = v.loopId
  dials : v.dials < v'.dials
  named : v'.named = v.named ∨ v.loopId ≠ "" ∧ v'.named = some v.loopId

/-- How a session stands after a method. -/
def Evolves (v : Standing) (ok : Bool) (v' : Standing) : Prop :=
  v' = v ∨ Binds v v' ∨ ok = false ∧ Retains v v'

/-- The world after a method. -/
def Leads (J : List Entry → Prop) (v : Standing) (ok : Bool) (w : World) : Prop :=
  ∃ v', Evolves v ok v' ∧ At J v' w

/-- The world after a method that connected the stream: a success binds the session. -/
def Recovers (J : List Entry → Prop) (v : Standing) (ok : Bool) (w : World) : Prop :=
  ∃ v', v.dials < v'.dials ∧ (if ok then Binds v v' else Retains v v') ∧ At J v' w

variable {J : List Entry → Prop} {v v' : Standing} {w w' : World} {s : Socket} {r : Reply}
  {α : Type} {m : Method α} {P : World → Prop} {opts : DaemonSessionOptions} {loopId : String}
  {log : List Entry} {e : Entry} {params : Members}

theorem Recovers.leads {ok : Bool} (h : Recovers J v ok w) : Leads J v ok w := by
  obtain ⟨v', -, hev, h⟩ := h
  cases ok with
  | true => exact ⟨v', Or.inr (Or.inl hev), h⟩
  | false => exact ⟨v', Or.inr (Or.inr ⟨rfl, hev⟩), h⟩

theorem At.leads {ok : Bool} (h : At J v w) : Leads J v ok w := ⟨v, Or.inl rfl, h⟩

theorem void_spec {Q : Bool → World → Prop}
    (h : Triple handle P m fun res w => Q res.isOk w) :
    Triple handle P m.void fun res w => Q res.isOk w :=
  h.andThen (fun _ => triple_done fun _ hq => hq) fun _ _ hq => hq

/-- A method that leaves the standing alone. -/
theorem stays_spec (h : Triple handle (At J v) m fun _ => At J v) :
    Triple handle (At J v) m fun res w => Leads J v res.isOk w :=
  h.mono (fun _ h => h) fun _ _ h => h.leads

section Methods

variable (hJ : Stable J)
include hJ

/-- A bootstrap binds the session to the loop that it subscribes to, or changes nothing. -/
theorem bootstrapLoop_spec {resumeLoopId : Option String} : Triple handle (At J v)
    (DaemonSession.bootstrapLoop opts resumeLoopId) fun res w =>
      (∃ l, l ≠ "" ∧ At J ⟨l, some l, some l, v.dials⟩ w ∧ res.isOk = true) ∨
        At J v w ∧ res.isOk = false := by
  refine (bootstrapLoopSession_spec hJ).andThen (fun ready => ?_) fun e w h => ?_
  · by_cases hready : ∃ l, l ≠ "" ∧ ready = sessionReady l
    · obtain ⟨l, hne, rfl⟩ := hready
      refine triple_call (M := fun _ w => At J ⟨l, some l, some l, v.dials⟩ w) (fun r w h => ?_)
        fun _ => triple_done fun w h => Or.inl ⟨l, hne, h, rfl⟩
      obtain ⟨l', -, heq, h⟩ | ⟨⟨e, he⟩, -⟩ := h
      · have hl : l' = l := by
          have hm := congrArg (Except.map fun m => Members.get m "loop_id") heq
          exact (Json.str.inj (Option.some.inj (Except.ok.inj hm))).symm
        rw [hl] at h
        exact h.lose.setLoopId
      · cases he
    · refine triple_of_not fun w h => ?_
      obtain ⟨l, hne, heq, -⟩ | ⟨⟨e, he⟩, -⟩ := h
      · exact hready ⟨l, hne, Except.ok.inj heq⟩
      · cases he
  · obtain ⟨l, -, heq, -⟩ | ⟨-, h⟩ := h
    · cases heq
    · exact Or.inr ⟨h, rfl⟩

theorem leads_bootstrapLoop {resumeLoopId : Option String} : Triple handle (At J v)
    (DaemonSession.bootstrapLoop opts resumeLoopId) fun res w => Leads J v res.isOk w := by
  refine (bootstrapLoop_spec hJ).mono (fun _ h => h) fun res w h => ?_
  obtain ⟨l, hne, h, -⟩ | ⟨h, -⟩ := h
  · exact ⟨_, Or.inr (Or.inl ⟨l, v.dials, hne, le_rfl, rfl⟩), h⟩
  · exact h.leads

/-- A bootstrap after the stream was connected, and perhaps subscribed. -/
theorem recovers_bootstrapLoop {v₁ : Standing} {resumeLoopId : Option String} (hv : Retains v v₁) :
    Triple handle (At J v₁) (DaemonSession.bootstrapLoop opts resumeLoopId)
      fun res w => Recovers J v res.isOk w := by
  refine (bootstrapLoop_spec hJ).mono (fun _ h => h) fun res w h => ?_
  unfold Recovers
  obtain ⟨l, hne, h, hok⟩ | ⟨h, herr⟩ := h
  · rw [hok]
    exact ⟨⟨l, some l, some l, v₁.dials⟩, hv.dials, ⟨l, v₁.dials, hne, hv.dials.le, rfl⟩, h⟩
  · rw [herr]
    exact ⟨v₁, hv.dials, hv, h⟩

theorem startOver_spec {v₁ : Standing} (hv : Retains v v₁) :
    Triple handle (At J v₁) (DaemonSession.startOver opts)
      fun res w => Recovers J v res.isOk w := by
  refine triple_call (M := fun _ => At J v₁) (fun r w h => h.close hJ) fun _ => ?_
  refine triple_call (M := fun _ => At J v₁) (fun r w h => h.setRpcConnected) fun _ => ?_
  exact (recovers_bootstrapLoop hJ hv).andThen (fun _ => triple_done fun w h => h) fun _ _ h => h

/-- A stream that was connected again is subscribed, or the method fails. -/
theorem recover_spec {n : ℕ} (hn : v.dials < n) : Triple handle (At J (v.dialed n))
    (DaemonSession.recover opts v.loopId) fun res w => Recovers J v res.isOk w := by
  have hretains : Retains v (v.dialed n) := ⟨rfl, hn, Or.inl rfl⟩
  unfold DaemonSession.recover
  split_ifs with hne
  · exact (recovers_bootstrapLoop hJ hretains).andThen (fun _ => triple_done fun w h => h)
      fun _ _ h => h
  refine Triple.bind (reattachAndProbe_spec hJ) fun res => ?_
  cases res with
  | ok _ =>
    refine triple_done fun w h => ?_
    obtain ⟨-, h⟩ | ⟨⟨e, he⟩, -⟩ := h
    · exact ⟨(v.dialed n).subscribed v.loopId, hn, ⟨v.loopId, n, hne, hn.le, rfl⟩, h⟩
    · cases he
  | error e =>
    have hsub : Retains v ((v.dialed n).subscribed v.loopId) := ⟨rfl, hn, Or.inr ⟨hne, rfl⟩⟩
    refine (triple_or (startOver_spec hJ hretains) (startOver_spec hJ hsub)).mono (fun w h => ?_)
      fun _ _ h => h
    obtain ⟨he, -⟩ | ⟨-, h⟩ := h
    · cases he
    · exact h

/-- `ensure_connected` does nothing on a stream that is up, and recovers another. -/
theorem ensureConnected_spec : Triple handle (At J v) (DaemonSession.ensureConnected opts)
    fun res w => (w.up .stream = true ∧ res = .ok () ∧ At J v w) ∨ Recovers J v res.isOk w ∨
      (∃ e, res = .error e) ∧ At J v w := by
  refine triple_call (M := fun alive w => At J v w ∧ alive = w.up .stream)
    (fun r w h => ⟨h.lose, rfl⟩) fun alive => ?_
  cases alive with
  | true => exact triple_done fun w h => Or.inl ⟨h.2.symm, rfl, h.1⟩
  | false =>
    refine Triple.andThen ((connectWithRetries_spec hJ true _ _).mono
      (fun w h => ⟨h.1, fun _ => h.2.symm⟩) fun _ _ h => h) (fun _ => ?_) fun e w h => ?_
    · refine triple_call (M := fun l w => ∃ n, l = v.loopId ∧ v.dials < n ∧ At J (v.dialed n) w)
        (fun r w h => ?_) fun l => triple_exists fun n => triple_pure fun hl =>
          triple_pure fun hn => ?_
      · obtain ⟨n, hn, h⟩ | ⟨-, hdown⟩ := h
        · refine ⟨n, ?_, hn, h.lose⟩
          exact congrArg Standing.loopId h.1
        · obtain ⟨e, he⟩ := hdown rfl
          cases he
      · subst hl
        exact (recover_spec hJ hn).mono (fun _ h => h) fun _ _ h => Or.inr (Or.inl h)
    · obtain ⟨n, hn, h⟩ | ⟨h, -⟩ := h
      · exact Or.inr (Or.inl ⟨v.dialed n, hn, ⟨rfl, hn, Or.inl rfl⟩, h⟩)
      · exact Or.inr (Or.inr ⟨⟨e, rfl⟩, h⟩)

theorem connect_spec {resumeLoopId : Option String} : Triple handle (At J v)
    (DaemonSession.connect opts resumeLoopId) fun res w => Leads J v res.isOk w := by
  refine Triple.andThen ((connectWithRetries_spec hJ false _ _).mono
    (fun w h => ⟨h, fun hd => by cases hd⟩) fun _ _ h => h) (fun _ => ?_) fun e w h => ?_
  · refine triple_or (triple_exists fun n => triple_pure fun hn => ?_) ?_
    · have hretains : Retains v (v.dialed n) := ⟨rfl, hn, Or.inl rfl⟩
      exact (recovers_bootstrapLoop hJ hretains).mono (fun _ h => h) fun _ _ h => h.leads
    · exact (leads_bootstrapLoop hJ).mono (fun _ h => h.1) fun _ _ h => h
  · obtain ⟨n, hn, h⟩ | ⟨h, -⟩ := h
    · exact ⟨v.dialed n, Or.inr (Or.inr ⟨rfl, rfl, hn, Or.inl rfl⟩), h⟩
    · exact h.leads

/-! ## The other methods -/

theorem notify_spec {method : String} (hm : method ≠ "loop_input") :
    Triple handle (At J v) (ask (.notify s method params)) fun _ => At J v :=
  triple_ask fun _ _ h => h.notify hJ hm

theorem close_spec : Triple handle (At J v) DaemonSession.close fun _ => At J v :=
  triple_call (M := fun _ => At J v) (fun _ _ h => h.close hJ) fun _ =>
    triple_call (M := fun _ => At J v) (fun _ _ h => h.close hJ) fun _ =>
      triple_call (M := fun _ => At J v) (fun _ _ h => h.setRpcConnected) fun _ =>
        triple_done fun _ h => h

theorem ensureRpcConnected_spec :
    Triple handle (At J v) DaemonSession.ensureRpcConnected fun _ => At J v := by
  refine triple_call (M := fun _ => At J v) (fun _ _ h => h.lose) fun flag => ?_
  refine triple_call (M := fun _ => At J v) (fun _ _ h => h.lose) fun up => ?_
  split_ifs
  · exact triple_done fun _ h => h
  · refine (connectWithRetries_other hJ (by decide) _ _).andThen (fun _ => ?_) fun _ _ h => h
    exact triple_call (M := fun _ => At J v) (fun _ _ h => h.setRpcConnected) fun _ =>
      triple_done fun _ h => h

theorem rpcRequest_spec {method : String} {timeout : ℕ} :
    Triple handle (At J v) (DaemonSession.rpcRequest method params timeout) fun _ => At J v :=
  (ensureRpcConnected_spec hJ).andThen (fun _ => request_spec hJ) fun _ _ h => h

theorem setClarificationMode_spec {mode : String} {interactionMode : Option String} :
    Triple handle (At J v) (DaemonSession.setClarificationMode mode interactionMode)
      fun _ => At J v := by
  refine triple_call (M := fun _ => At J v) (fun _ _ h => h.lose) fun l => ?_
  split_ifs
  · exact triple_done fun _ h => h
  · exact (rpcRequest_spec hJ).andThen (fun _ => triple_done fun _ h => h) fun _ _ h => h

end Methods

/-! ## Inputs -/

variable {Q : List Entry → String → Prop} {op : Op} {replies : List Reply} {act : Act}
  {run : List Act} {res : Except Error Unit}

/-- Every input names a loop, and `Q` says which, by the log before the input. -/
def Inputs (Q : List Entry → String → Prop) (log : List Entry) : Prop :=
  ∀ before e after params, log = before ++ e :: after → e.input = some params →
    ∃ l, l ≠ "" ∧ params.get "loop_id" = some (.str l) ∧ Q before l

theorem inputs_nil : Inputs Q [] := by
  intro before e after params h
  exact absurd h (List.append_ne_nil_of_right_ne_nil before (List.cons_ne_nil e after)).symm

theorem inputs_concat (h : Inputs Q log) (he : ∀ params, e.input = some params →
    ∃ l, l ≠ "" ∧ params.get "loop_id" = some (.str l) ∧ Q log l) : Inputs Q (log ++ [e]) := by
  intro before e' after params heq hin
  rcases List.eq_nil_or_concat after with rfl | ⟨after', a, rfl⟩
  · obtain ⟨rfl, hee⟩ := List.append_inj' heq rfl
    obtain rfl := (List.cons.inj hee).1
    exact he params hin
  · rw [List.concat_eq_append, ← List.cons_append, ← List.append_assoc] at heq
    obtain ⟨rfl, -⟩ := List.append_inj' heq rfl
    exact h before e' after' params rfl hin

theorem stable_inputs : Stable (Inputs Q) :=
  fun _ _ he h => inputs_concat h fun _ hp => absurd (he.symm.trans hp) (Option.some_ne_none _).symm

/-- The params of an input name the loop. -/
theorem sendTurn_params (turn : SendTurnOptions) (text loopId : String) :
    (turn.params text loopId).get "loop_id" = some (.str loopId) :=
  Members.get_insertAll_nil (l := turn.fields text loopId)
    (by exact (by decide : ["content", "loop_id", "preferred_subagent", "intake_scope", "model",
      "model_params", "attachments", "intent_hint", "clarification_mode", "clarification_answer",
      "interaction_mode", "autopilot_rail_id"].Nodup)) "loop_id"

/-- An input names the session's loop. -/
theorem sendTurn_spec {text : String} {turn : SendTurnOptions}
    (hQ : ∀ u : World, u.standing = v → v.loopId ≠ "" → Q u.log v.loopId) :
    Triple handle (At (Inputs Q) v) (DaemonSession.sendTurn text turn)
      fun _ => At (Inputs Q) v := by
  refine triple_call (M := fun l w => l = v.loopId ∧ At (Inputs Q) v w) (fun r w h => ?_)
    fun l => triple_pure fun hl => ?_
  · exact ⟨congrArg Standing.loopId h.1, h⟩
  subst hl
  split_ifs with hne
  · exact triple_done fun _ h => h
  refine triple_ask fun r w h => ?_
  simp only [handle, answer]
  split_ifs
  · cases r.result with
    | error e => exact h.lose.note_quiet stable_inputs ⟨rfl, rfl, rfl⟩
    | ok _ =>
      refine ⟨(standing_note rfl rfl).trans h.1, inputs_concat h.2 fun params hp => ?_⟩
      obtain rfl := Option.some.inj hp
      exact ⟨v.loopId, hne, sendTurn_params turn text v.loopId, hQ w h.1 hne⟩
  · exact h.lose

/-- **Methods.** -/
theorem op_spec (hQ : ∀ u : World, u.standing = v → v.loopId ≠ "" → Q u.log v.loopId) (op : Op) :
    Triple handle (At (Inputs Q) v) (op.script opts)
      fun res w => Leads (Inputs Q) v res.isOk w := by
  have hJ : Stable (Inputs Q) := stable_inputs
  cases op with
  | connect => exact void_spec (connect_spec hJ)
  | newLoop | switchLoop => exact void_spec (leads_bootstrapLoop hJ)
  | ensureConnected =>
    refine (ensureConnected_spec hJ).mono (fun _ h => h) fun res w h => ?_
    obtain ⟨-, -, h⟩ | h | ⟨-, h⟩ := h
    · exact h.leads
    · exact h.leads
    · exact h.leads
  | close => exact stays_spec (close_spec hJ)
  | detach | cancelActiveTurn => exact stays_spec (notify_spec hJ (by decide))
  | sendTurn text turn => exact stays_spec (sendTurn_spec hQ)
  | listLoops | fetchLoopHistory | invokeSkill =>
    exact void_spec (stays_spec (rpcRequest_spec hJ))
  | setClarificationMode => exact void_spec (stays_spec (setClarificationMode_spec hJ))

theorem perform_spec (hQ : w.loopId ≠ "" → ∀ u : World, u.standing = w.standing → Q u.log w.loopId)
    (hin : Inputs Q w.log) (h : w.perform opts op replies = some (res, w')) :
    Evolves w.standing res.isOk w'.standing ∧ Inputs Q w'.log := by
  unfold World.perform at h
  split at h
  · rename_i res' w'' hrun
    obtain ⟨rfl, rfl⟩ := Prod.mk.inj (Option.some.inj h)
    obtain ⟨v', hev, rfl, hlog⟩ := op_spec (fun u hu hne => hQ hne u hu) op replies w _ _ _
      ⟨rfl, hin⟩ hrun
    exact ⟨hev, hlog⟩
  · cases h

/-! ## Runs -/

/-- The loop that a session knows is the one of the latest subscription. -/
def Named (v : Standing) : Prop := v.loopId ≠ "" → v.named = some v.loopId

/-- That subscription is on the present connection. -/
def Attached (v : Standing) : Prop := v.loopId ≠ "" → v.attached = some v.loopId

theorem Named.evolves {ok : Bool} (h : Named v) (hev : Evolves v ok v') : Named v' := by
  obtain rfl | ⟨l, n, -, -, rfl⟩ | ⟨-, hk⟩ := hev
  · exact h
  · exact fun _ => rfl
  · intro hne
    rw [hk.loopId] at hne ⊢
    obtain hn | ⟨-, hn⟩ := hk.named
    · rw [hn]
      exact h hne
    · exact hn

/-- A method that succeeds, or does not connect the stream, leaves no connection unsubscribed. -/
theorem Attached.evolves {ok : Bool} (h : Attached v) (hev : Evolves v ok v')
    (hwhole : ok = true ∨ v'.dials = v.dials) : Attached v' := by
  obtain rfl | ⟨l, n, -, -, rfl⟩ | ⟨rfl, hk⟩ := hev
  · exact h
  · exact fun _ => rfl
  · obtain hok | hd := hwhole
    · cases hok
    · exact absurd hd (Nat.ne_of_gt hk.dials)

/-- A turn tells a session that has no loop which it is, and no other. -/
theorem adopt_cases {maxWait : Option ℕ} {queued late : List Tick} {dropped : ℕ}
    (h : w.step opts (.turn maxWait queued late dropped) = some w') :
    w' = w ∨ ∃ l, w.loopId = "" ∧ w' = { w with loopId := l }.note .stream (.adopt l) := by
  obtain ⟨t, ht, rfl⟩ := Option.map_eq_some_iff.1 h
  unfold World.adopt
  split_ifs with heq
  · exact Or.inl rfl
  · refine Or.inr ⟨t.session.loopId, ?_, rfl⟩
    by_contra hne
    exact heq (turnFrom_loopId hne rfl ht)

theorem adopt_standing {l : String} :
    ({ w with loopId := l }.note .stream (.adopt l)).standing =
      ⟨l, some l, some l, dials w.log⟩ := by
  simp only [World.standing, World.note, named_concat, attached_concat, dials_concat]
  rfl

/-- What `connect` is told when the daemon starts the loop `l`. -/
def bootstrapped (l : String) : List Reply :=
  [{}, { result := .ok (.obj [("loop_id", .str l)]) }, {}, {}]

/-- The stream is lost; its loop is reattached. -/
def reattached : List Reply := [{ lost := [.stream] }, {}, {}, {}, {}, {}]

/-- A session that sends an input, loses its stream, recovers it and sends another input. -/
def recovering : List Act :=
  [.op (.connect none) (bootstrapped "L"), .op (.sendTurn "hi" {}) [{}, {}],
    .op .ensureConnected reattached, .op (.sendTurn "again" {}) [{}, {}]]

/-- **Inputs.** Whatever the daemon answers, and whichever connections are lost, every input of a
session names the loop that the stream was last subscribed to. -/
theorem inputs_named (hw : Lts.exec (World.step opts) {} run = some w) :
    Inputs (fun before l => named before = some l) w.log := by
  suffices Inputs (fun before l => named before = some l) w.log ∧ Named w.standing from this.1
  refine Lts.inv_of_exec (I := fun w : World =>
    Inputs (fun before l => named before = some l) w.log ∧ Named w.standing) ?_
    ⟨inputs_nil, fun hne => absurd rfl hne⟩ hw
  rintro w act w' ⟨hin, hnamed⟩ hs
  cases act with
  | op op replies =>
    obtain ⟨⟨res, w₁⟩, hp, rfl⟩ := Option.map_eq_some_iff.1 hs
    obtain ⟨hev, hin'⟩ := perform_spec
      (fun hne u hu => (congrArg Standing.named hu).trans (hnamed hne)) hin hp
    exact ⟨hin', hnamed.evolves hev⟩
  | turn =>
    obtain rfl | ⟨l, -, rfl⟩ := adopt_cases hs
    · exact ⟨hin, hnamed⟩
    · refine ⟨stable_inputs _ _ rfl hin, ?_⟩
      rw [adopt_standing]
      exact fun _ => rfl

theorem inputs_named_recovering : ∃ w, Lts.exec (World.step {}) {} recovering = some w ∧
    w.loopId = "L" ∧ (w.log.filterMap Entry.input).length = 2 ∧
      Inputs (fun before l => named before = some l) w.log := by
  have hrun : (Lts.exec (World.step {}) {} recovering).map
      (fun w => (w.loopId, (w.log.filterMap Entry.input).length)) = some ("L", 2) := by
    decide +kernel
  obtain ⟨w, hw, hpc⟩ := Option.map_eq_some_iff.1 hrun
  obtain ⟨hl, hlen⟩ := Prod.mk.inj hpc
  exact ⟨w, hw, hl, hlen, inputs_named hw⟩

/-- The method succeeds, or it does not connect the stream. -/
def Whole (opts : DaemonSessionOptions) (w : World) : Act → Prop
  | .op op replies => ∀ res w', w.perform opts op replies = some (res, w') →
    res.isOk = true ∨ dials w'.log = dials w.log
  | .turn _ _ _ _ => True

instance (opts : DaemonSessionOptions) (w : World) : ∀ act, Decidable (Whole opts w act)
  | .turn _ _ _ _ => isTrue trivial
  | .op op replies =>
    match h : w.perform opts op replies with
    | none => isTrue fun _ _ hp => by cases h.symm.trans hp
    | some (res, w') =>
      decidable_of_iff (res.isOk = true ∨ dials w'.log = dials w.log)
        ⟨fun hG res₁ w₁ hp => by
          obtain ⟨rfl, rfl⟩ := Prod.mk.inj (Option.some.inj (h.symm.trans hp))
          exact hG, fun hG => hG res w' h⟩

/-- **Subscribed inputs.** Where no method fails after it connected the stream, that subscription is
on the connection that the input is sent on. -/
theorem inputs_attached (hG : Lts.Guarded (World.step opts) (Whole opts) {} run)
    (hw : Lts.exec (World.step opts) {} run = some w) :
    Inputs (fun before l => attached before = some l) w.log := by
  suffices Inputs (fun before l => attached before = some l) w.log ∧ Attached w.standing from this.1
  refine Lts.inv_of_guarded (I := fun w : World =>
    Inputs (fun before l => attached before = some l) w.log ∧ Attached w.standing) ?_
    ⟨inputs_nil, fun hne => absurd rfl hne⟩ hG hw
  rintro w act w' ⟨hin, hatt⟩ hwhole hs
  cases act with
  | op op replies =>
    obtain ⟨⟨res, w₁⟩, hp, rfl⟩ := Option.map_eq_some_iff.1 hs
    obtain ⟨hev, hin'⟩ := perform_spec
      (fun hne u hu => (congrArg Standing.attached hu).trans (hatt hne)) hin hp
    exact ⟨hin', hatt.evolves hev (hwhole res w₁ hp)⟩
  | turn =>
    obtain rfl | ⟨l, -, rfl⟩ := adopt_cases hs
    · exact ⟨hin, hatt⟩
    · refine ⟨stable_inputs _ _ rfl hin, ?_⟩
      rw [adopt_standing]
      exact fun _ => rfl

theorem inputs_attached_recovering : ∃ w, Lts.exec (World.step {}) {} recovering = some w ∧
    dials w.log = 2 ∧ (w.log.filterMap Entry.input).length = 2 ∧
      Inputs (fun before l => attached before = some l) w.log := by
  have hrun : (Lts.exec (World.step {}) {} recovering).map
      (fun w => (dials w.log, (w.log.filterMap Entry.input).length)) = some (2, 2) := by
    decide +kernel
  obtain ⟨w, hw, hpc⟩ := Option.map_eq_some_iff.1 hrun
  obtain ⟨hd, hlen⟩ := Prod.mk.inj hpc
  exact ⟨w, hw, hd, hlen, inputs_attached (by decide +kernel) hw⟩

/-- The stream is lost, and neither is its loop reattached nor a new one started. -/
def forsaken : List Reply :=
  [{ lost := [.stream] }, {}, {}, { result := .error (.message "") }, {}, {},
    { result := .error (.message "") }]

/-- A recovery that failed is taken for a success: the next input goes to a loop that the connection
is not subscribed to. -/
example : (Lts.exec (World.step {}) {}
    [.op (.connect none) (bootstrapped "L"), .op .ensureConnected forsaken,
      .op .ensureConnected [{}], .op (.sendTurn "hi" {}) [{}, {}]]).map
        (fun w => ((w.log.filterMap Entry.input).length, attached w.log)) = some (1, none) := by
  decide +kernel

/-- **Recovery.** `ensure_connected` succeeds on a stream that is up, where the session stands as
before, or with the stream subscribed to the session's loop, on a new connection; a failure keeps
the loop. -/
theorem ensureConnected_recovers (h : w.perform opts .ensureConnected replies = some (res, w')) :
    (res = .ok () → w'.up .stream = true ∧ w'.standing = w.standing ∨
      w'.loopId ≠ "" ∧ attached w'.log = some w'.loopId ∧ dials w.log < dials w'.log) ∧
    ((∃ e, res = .error e) → w'.loopId = w.loopId) := by
  unfold World.perform at h
  split at h
  · rename_i res' w'' hrun
    obtain ⟨rfl, rfl⟩ := Prod.mk.inj (Option.some.inj h)
    have hspec := ensureConnected_spec (J := fun _ => True) (fun _ _ _ _ => trivial) replies w _ _ _
      ⟨rfl, trivial⟩ hrun
    obtain ⟨hup, rfl, hst, -⟩ | ⟨v', hn, hev, rfl, -⟩ | ⟨⟨e, rfl⟩, hst, -⟩ := hspec
    · exact ⟨fun _ => Or.inl ⟨hup, hst⟩, fun ⟨e, he⟩ => (by cases he)⟩
    · refine ⟨fun hok => ?_, fun ⟨e, he⟩ => ?_⟩
      · subst hok
        obtain ⟨l, n, hne, -, heq⟩ := hev
        have hl : w''.loopId = l := congrArg Standing.loopId heq
        refine Or.inr ⟨hl ▸ hne, ?_, hn⟩
        rw [hl]
        exact congrArg Standing.attached heq
      · subst he
        exact hev.loopId
    · exact ⟨fun hok => (by cases hok), fun _ => congrArg Standing.loopId hst⟩
  · cases h

/-- The stream is lost and connected again; its loop is not reattached, and a new one is started. -/
def restarted : List Reply :=
  [{ lost := [.stream] }, {}, {}, { result := .error (.message "") }, {}, {},
    { result := .ok (.obj [("loop_id", .str "M")]) }, {}, {}]

/-- A session whose stream is connected again, and one whose stream is lost for good. -/
theorem ensureConnected_recovers_redialed : ∃ w,
    World.step {} {} (.op (.connect none) (bootstrapped "L")) = some w ∧
      (∃ w', w.perform {} .ensureConnected restarted = some (.ok (), w') ∧ w'.loopId = "M" ∧
        attached w'.log = some w'.loopId ∧ dials w.log < dials w'.log) ∧
      ∃ e w', w.perform {} .ensureConnected forsaken = some (.error e, w') ∧
        w'.loopId = w.loopId := by
  have hstep : ((World.step {} {} (.op (.connect none) (bootstrapped "L"))).map fun w =>
      (dials w.log,
        (w.perform {} .ensureConnected restarted).map fun p =>
          (p.1.isOk, p.2.loopId, dials p.2.log),
        (w.perform {} .ensureConnected forsaken).map fun p => p.1.isOk)) =
      some (1, some (true, "M", 2), some false) := by
    decide +kernel
  obtain ⟨w, hw, hp⟩ := Option.map_eq_some_iff.1 hstep
  simp only [Prod.mk.injEq] at hp
  obtain ⟨hone, hrestart, hforsake⟩ := hp
  obtain ⟨⟨res, w₁⟩, hperf, hres⟩ := Option.map_eq_some_iff.1 hrestart
  obtain ⟨⟨res', w₂⟩, hperf', hfail⟩ := Option.map_eq_some_iff.1 hforsake
  simp only [Prod.mk.injEq] at hres
  obtain ⟨hok, hloop, htwo⟩ := hres
  refine ⟨w, hw, ?_, ?_⟩
  · cases res with
    | error e => cases hok
    | ok u =>
      obtain ⟨-, hst⟩ | ⟨-, hatt, hlt⟩ := (ensureConnected_recovers hperf).1 rfl
      · have hdials : dials w₁.log = dials w.log := congrArg Standing.dials hst
        rw [htwo, hone] at hdials
        cases hdials
      · exact ⟨w₁, hperf, hloop, hatt, hlt⟩
  · cases res' with
    | ok u => cases hfail
    | error e => exact ⟨e, w₂, hperf', (ensureConnected_recovers hperf').2 ⟨e, rfl⟩⟩

end SootheClient.Session.Lifecycle
