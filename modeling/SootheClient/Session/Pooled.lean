import SootheClient.Pool.Slots
import SootheClient.Session.Bootstrap

/-!
# The loop of a pooled connection

What `acquire` does to the daemon between the lookup of the stored loop and the loop that the
connection gets is a script of calls. The pool sees of it what the calls answer; here the answers
come from the script, and the loop of the connection is the one that its client is subscribed to.
-/

namespace SootheClient.Session.Lifecycle

open Json (Members)
open Script
open SootheClient.Pool (AcquireError ConnectionPool PooledConn Pc System)

/-! ## The scripts -/

/-- `default_bootstrap_fn`. -/
def defaultBootstrap (workspaceId userId : String) : Method String :=
  (bootstrapLoopSession .stream { workspace := some workspaceId, userId := some userId }
    (30 * SECOND)).andThen fun ready =>
  if newLoopId ready = "" then Method.fail (.message "bootstrap missing loop_id")
  else Method.ok (newLoopId ready)

/-- `resume_and_reattach`. -/
def resumeAndReattach (loopId : String) : Method Unit :=
  (ask (.connect .stream)).andThen fun _ => reattachAndProbe .stream loopId

/-- An error as `acquire` returns it. -/
def acquireError (wrap : String → AcquireError) (e : Error) : Error :=
  .message (wrap e.display).message

/-- A new loop on the client of a slot; `fresh` when the session had no stored loop. -/
def acquireFresh (fresh : Bool) (workspaceId userId : String) : Method String :=
  (Method.mapError (acquireError (if fresh then .connect else .connectAfterReattach))
    (ask (.connect .stream))).andThen fun _ =>
  Method.mapError (acquireError (if fresh then .bootstrapNew else .bootstrapAfterReattach))
    (defaultBootstrap workspaceId userId)

/-- The loop that an `acquire` gives its connection. -/
def acquireLoop (stored : String × Bool) (workspaceId userId : String) : Method String :=
  if !stored.2 || stored.1.isEmpty then acquireFresh true workspaceId userId
  else
    (resumeAndReattach stored.1).bind fun
      | .ok _ => Method.ok stored.1
      | .error _ => acquireFresh false workspaceId userId

/-! ## The pool -/

section Pool

variable {Cl σ : Type*}

/-- What an `acquire` returns with the result of the script. -/
def Returns (c : PooledConn Cl) (p : Pc Cl) : Except Error String → Prop
  | .ok l => p = .done (.ok { c with loopId := l })
  | .error e => ∃ err : AcquireError, e = .message err.message ∧ p = .done (.error err)

/-- The call can come to its return. -/
def Lands (P : ConnectionPool Cl σ) (i : ℕ) (c : PooledConn Cl) (s : System Cl σ)
    (res : Except Error String) : Prop :=
  ∃ as t, (∀ a ∈ as, a.call = i) ∧ Lts.exec (System.step P) s as = some t ∧
    Returns c (t.pc i) res

variable {P : ConnectionPool Cl σ} {s t : System Cl σ} {i : ℕ} {c : PooledConn Cl}
  {res : Except Error String}

theorem lands_of_pc (h : Returns c (s.pc i) res) : Lands P i c s res :=
  ⟨[], s, fun _ ha => absurd ha List.not_mem_nil, rfl, h⟩

theorem Lands.head {a : Pool.Label} (ha : a.call = i) (hs : System.step P s a = some t)
    (h : Lands P i c t res) : Lands P i c s res := by
  obtain ⟨as, u, has, hu, hland⟩ := h
  exact ⟨a :: as, u, List.forall_mem_cons.2 ⟨ha, has⟩, (Lts.exec_cons_of_step hs).trans hu, hland⟩

/-- A step that the pool decides. -/
theorem Lands.next (h : Lands P i c t res) (hs : s.next P i = some t) : Lands P i c s res :=
  Lands.head (a := .next i) rfl hs h

theorem lands_insert {l : String} (hi : s.pc i = .insert { c with loopId := l }) :
    Lands P i c s (.ok l) := by
  obtain ⟨t, ht, hpc⟩ : ∃ t, s.next P i = some t ∧
      t.pc i = .done (.ok { c with loopId := l }) := by
    unfold System.next
    rw [hi]
    exact ⟨_, rfl, Function.update_self ..⟩
  exact Lands.next (lands_of_pc hpc) ht

theorem lands_finish {l : String} (hi : s.pc i = .finish c l) : Lands P i c s (.ok l) := by
  obtain ⟨t, ht, hpc⟩ : ∃ t, s.next P i = some t ∧ t.pc i = .insert { c with loopId := l } := by
    unfold System.next
    rw [hi]
    exact ⟨_, rfl, Function.update_self ..⟩
  exact (lands_insert hpc).next ht

theorem lands_write {l : String} {exists_ : Bool} (hi : s.pc i = .write c l exists_) :
    Lands P i c s (.ok l) := by
  obtain ⟨t, ht, hpc⟩ : ∃ t, s.next P i = some t ∧ t.pc i = .finish c l := by
    unfold System.next
    rw [hi]
    exact ⟨_, rfl, Function.update_self ..⟩
  exact (lands_finish hpc).next ht

theorem lands_persist {l : String} (hi : s.pc i = .persist c l) : Lands P i c s (.ok l) := by
  obtain ⟨t, ht, b, hpc⟩ : ∃ t, s.next P i = some t ∧ ∃ b, t.pc i = .write c l b := by
    unfold System.next
    rw [hi]
    exact ⟨_, rfl, _, Function.update_self ..⟩
  exact (lands_write hpc).next ht

theorem lands_giveBack {err : AcquireError} (hi : s.pc i = .giveBack (.fail err)) :
    Lands P i c s (.error (.message err.message)) := by
  obtain ⟨t, ht, hpc⟩ : ∃ t, s.next P i = some t ∧ t.pc i = .done (.error err) := by
    unfold System.next
    rw [hi]
    exact ⟨_, rfl, Function.update_self ..⟩
  exact Lands.next (lands_of_pc ⟨err, rfl, hpc⟩) ht

theorem lands_closing {old : PooledConn Cl} {err : AcquireError}
    (hi : s.pc i = .closing old (.fail err)) :
    Lands P i c s (.error (.message err.message)) := by
  obtain ⟨t, ht, hpc⟩ : ∃ t, s.next P i = some t ∧ t.pc i = .giveBack (.fail err) := by
    unfold System.next
    rw [hi]
    exact ⟨_, rfl, Function.update_self ..⟩
  exact (lands_giveBack hpc).next ht

/-- The `release` before an error. -/
theorem lands_fail {err : AcquireError} (hi : s.pc i = .remove (.fail err)) :
    Lands P i c s (.error (.message err.message)) := by
  have hremove : s.next P i = some (s.removeStep i (.fail err)) := by
    unfold System.next
    rw [hi]
  refine Lands.next ?_ hremove
  unfold System.removeStep
  split
  · exact lands_of_pc ⟨err, rfl, Function.update_self ..⟩
  · exact lands_closing (Function.update_self ..)

theorem lands_bootstrap {fresh : Bool} (hi : s.pc i = .bootstrap c fresh)
    (r : Except Error String) : Lands P i c s
      (r.mapError (acquireError (if fresh then .bootstrapNew else .bootstrapAfterReattach))) := by
  have hstep : System.step P s (.bootstrap i (r.mapError Error.display)) =
      some (s.goto i (System.bootstrapPc c fresh (r.mapError Error.display))) := by
    simp only [System.step, hi]
  refine Lands.head rfl hstep ?_
  cases r with
  | ok l => exact lands_persist (Function.update_self ..)
  | error e => cases fresh <;> exact lands_fail (Function.update_self ..)

theorem lands_connect_error {fresh : Bool} (hi : s.pc i = .connect c fresh) (e : Error) :
    Lands P i c s
      (.error (acquireError (if fresh then .connect else .connectAfterReattach) e)) := by
  have hstep : System.step P s (.connect i (.error e.display)) =
      some (s.goto i (System.connectPc c fresh (.error e.display))) := by
    simp only [System.step, hi]
  refine Lands.head rfl hstep ?_
  cases fresh with
  | true => exact lands_of_pc ⟨_, rfl, Function.update_self ..⟩
  | false => exact lands_fail (Function.update_self ..)

theorem lands_connect {fresh : Bool} (hi : s.pc i = .connect c fresh)
    (h : ∀ t : System Cl σ, t.pc i = .bootstrap c fresh → Lands P i c t res) :
    Lands P i c s res := by
  have hstep : System.step P s (.connect i (.ok ())) = some (s.goto i (.bootstrap c fresh)) := by
    simp only [System.step, hi]
    rfl
  exact Lands.head rfl hstep (h _ (Function.update_self ..))

theorem lands_resume {loopId : String} (hi : s.pc i = .resume c loopId) (ok : Bool)
    (h : ∀ t : System Cl σ, t.pc i = (if ok then .finish c loopId else .connect c false) →
      Lands P i c t res) : Lands P i c s res := by
  have hstep : System.step P s (.resume i ok) =
      some (s.goto i (if ok then .finish c loopId else .connect c false)) := by
    simp only [System.step, hi]
  exact Lands.head rfl hstep (h _ (Function.update_self ..))

end Pool

/-! ## The daemon -/

variable {workspaceId userId loopId : String} {opts : BootstrapOptions} {timeout : ℕ}
  {sock : Socket} {w : World}

/-- The loop of a result is the one that the stream is subscribed to. -/
def Bound (res : Except Error String) (w : World) : Prop :=
  ∀ l, res = .ok l → l ≠ "" ∧ attached w.log = some l

/-- The loop of a bootstrap is trimmed. -/
theorem bootstrapLoopId_trimmed : Triple handle (fun _ => True)
    (bootstrapLoopId sock opts timeout) fun res _ => ∀ l, res = .ok l → Text.trim l = l := by
  unfold bootstrapLoopId
  cases hres : opts.resumeLoopId.bind Text.nonBlank with
  | some id =>
    obtain ⟨text, -, hid⟩ := Option.bind_eq_some_iff.1 hres
    refine triple_done fun w _ l hl => ?_
    obtain rfl := Except.ok.inj hl
    unfold Text.nonBlank at hid
    split_ifs at hid
    rw [← Option.some.inj hid, Text.trim_trim]
  | none =>
    refine Triple.andThen (Q := fun _ _ => True) (fun _ _ _ _ _ _ _ => trivial) (fun resp => ?_)
      fun e w _ l hl => by cases hl
    split_ifs
    · exact triple_done fun w _ l hl => by cases hl
    · refine triple_done fun w _ l hl => ?_
      obtain rfl := Except.ok.inj hl
      exact Text.trim_trim _

theorem bootstrapLoopSession_trimmed : Triple handle (fun _ => True)
    (bootstrapLoopSession sock opts timeout) fun res _ =>
      ∀ ready, res = .ok ready → ∃ l, Text.trim l = l ∧ ready = sessionReady l := by
  refine bootstrapLoopId_trimmed.andThen (fun l => ?_) fun e w _ ready hready => by cases hready
  by_cases hl : Text.trim l = l
  · refine Triple.andThen (Q := fun _ _ => True) (fun _ _ _ _ _ _ _ => trivial) (fun _ => ?_)
      fun e w _ ready hready => by cases hready
    refine triple_done fun w _ ready hready => ⟨l, hl, ?_⟩
    exact (Except.ok.inj hready).symm
  · exact triple_of_not fun w h => hl (h l rfl)

theorem loopId_sessionReady {l l' : String} (h : sessionReady l = sessionReady l') : l = l' := by
  have hm := congrArg (fun m => Members.get m "loop_id") h
  exact Json.str.inj (Option.some.inj hm)

theorem newLoopId_sessionReady (l : String) : newLoopId (sessionReady l) = Text.trim l := rfl

/-- The standing of a world is always some. -/
theorem stable_any : Stable fun _ => True := fun _ _ _ _ => trivial

theorem at_standing (w : World) : At (fun _ => True) w.standing w := ⟨rfl, trivial⟩

theorem attached_of_at {v : Standing} (h : At (fun _ => True) (v.subscribed loopId) w) :
    attached w.log = some loopId :=
  congrArg Standing.attached h.1

/-- **The default bootstrap.** -/
theorem defaultBootstrap_bound :
    Triple handle (fun _ => True) (defaultBootstrap workspaceId userId) Bound := by
  have hspec : Triple handle (fun _ => True) (bootstrapLoopSession .stream
      { workspace := some workspaceId, userId := some userId } (30 * SECOND)) fun res w =>
        ∀ ready, res = .ok ready → ∃ l, l ≠ "" ∧ Text.trim l = l ∧ ready = sessionReady l ∧
          attached w.log = some l := by
    intro rs w res rs' w' _ hrun ready hready
    obtain ⟨l, hne, heq, hat⟩ | ⟨⟨e, he⟩, -⟩ :=
      bootstrapLoopSession_spec stable_any rs w res rs' w' (at_standing w) hrun
    · obtain ⟨l', htrim, hl'⟩ :=
        bootstrapLoopSession_trimmed rs w res rs' w' trivial hrun ready hready
      have hl : ready = sessionReady l := Except.ok.inj (hready.symm.trans heq)
      obtain rfl := loopId_sessionReady (hl.symm.trans hl')
      exact ⟨l, hne, htrim, hl, attached_of_at hat⟩
    · rw [hready] at he
      cases he
  refine hspec.andThen (fun ready => ?_) fun e w _ l hl => by cases hl
  split_ifs
  · exact triple_done fun w _ l hl => by cases hl
  · refine triple_done fun w h l hl => ?_
    obtain ⟨l', hne, htrim, hready, hattached⟩ := h ready rfl
    obtain rfl := Except.ok.inj hl
    rw [hready, newLoopId_sessionReady, htrim]
    exact ⟨hne, hattached⟩

theorem resumeAndReattach_attached : Triple handle (fun _ => True) (resumeAndReattach loopId)
    fun res w => res = .ok () → attached w.log = some loopId := by
  refine Triple.andThen (Q := fun _ _ => True) (fun _ _ _ _ _ _ _ => trivial) (fun _ => ?_)
    fun e w _ h => by cases h
  intro rs w res rs' w' _ hrun hres
  obtain ⟨-, hat⟩ | ⟨⟨e, he⟩, -⟩ :=
    reattachAndProbe_spec stable_any rs w res rs' w' (at_standing w) hrun
  · exact attached_of_at hat
  · rw [hres] at he
    cases he

/-! ## Both -/

section Both

variable {Cl σ : Type*} (P : ConnectionPool Cl σ) (i : ℕ) (c : PooledConn Cl)

/-- What comes of a script, for a call that stands where `at_` says. -/
def Acquires (at_ : System Cl σ → Prop) (res : Except Error String) (w : World) : Prop :=
  (∀ s, at_ s → Lands P i c s res) ∧ Bound res w

theorem acquireFresh_spec (fresh : Bool) : Triple handle (fun _ => True)
    (acquireFresh fresh workspaceId userId)
    (Acquires P i c fun s => s.pc i = .connect c fresh) := by
  refine Triple.andThen (Q := fun res _ => ∃ r : Except Error Unit, res =
    r.mapError (acquireError (if fresh then .connect else .connectAfterReattach)))
    (fun rs w res rs' w' _ hrun => ?_) (fun _ => ?_) fun e w h => ?_
  · have hconnect : Triple handle (fun _ => True) (ask (.connect .stream)) fun _ _ => True :=
      fun _ _ _ _ _ _ _ => trivial
    obtain ⟨r, -, hr⟩ := mapError_spec hconnect rs w res rs' w' trivial hrun
    exact ⟨r, hr⟩
  · refine (mapError_spec defaultBootstrap_bound).mono (fun _ _ => trivial) fun res w h => ?_
    obtain ⟨r, hr, rfl⟩ := h
    refine ⟨fun s hs => lands_connect hs fun t ht => lands_bootstrap ht r, fun l hl => ?_⟩
    cases r with
    | ok l' => exact hr l hl
    | error e => cases hl
  · obtain ⟨r, hr⟩ := h
    refine ⟨fun s hs => ?_, fun l hl => by cases hl⟩
    cases r with
    | ok _ => cases hr
    | error e' =>
      obtain rfl := Except.error.inj hr
      exact lands_connect_error hs e'

/-- The call goes on from the stored loop. -/
theorem lands_stored {stored : String × Bool} {p : Pc Cl} {s : System Cl σ}
    (hs : s.pc i = .loopIdFor c ∧ P.loopIdFor s.store (s.sid i) = stored)
    (hp : (if !stored.2 || stored.1.isEmpty then Pc.connect c true else .resume c stored.1) = p)
    (h : ∀ t : System Cl σ, t.pc i = p → Lands P i c t res) : Lands P i c s res := by
  have hnext : s.next P i = some (s.goto i (s.loopPc P i c)) := by
    unfold System.next
    rw [hs.1]
  refine Lands.next (h _ ?_) hnext
  simp only [System.goto, Function.update_self, System.loopPc, hs.2]
  exact hp

theorem acquireLoop_spec (stored : String × Bool) : Triple handle (fun _ => True)
    (acquireLoop stored workspaceId userId)
    (Acquires P i c fun s => s.pc i = .loopIdFor c ∧ P.loopIdFor s.store (s.sid i) = stored) := by
  unfold acquireLoop
  split_ifs with hnone
  · refine (acquireFresh_spec P i c true).mono (fun _ h => h) fun res w h =>
      ⟨fun s hs => ?_, h.2⟩
    exact lands_stored P i c hs (if_pos hnone) h.1
  · refine resumeAndReattach_attached.bind fun res => ?_
    cases res with
    | ok _ =>
      refine triple_done fun w h => ⟨fun s hs => ?_, fun l hl => ?_⟩
      · refine lands_stored P i c hs (if_neg hnone) fun t ht => ?_
        exact lands_resume ht true fun u hu => lands_finish hu
      · obtain rfl := Except.ok.inj hl
        simp only [Bool.or_eq_true, not_or] at hnone
        exact ⟨fun hempty => hnone.2 (by rw [hempty]; rfl), h rfl⟩
    | error e =>
      refine (acquireFresh_spec P i c false).mono (fun _ _ => trivial) fun res w h =>
        ⟨fun s hs => ?_, h.2⟩
      refine lands_stored P i c hs (if_neg hnone) fun t ht => ?_
      exact lands_resume ht false fun u hu => h.1 u hu

/-- **Pooled connections.** An `acquire` that has its slot runs the script of its stored loop.
Whatever the daemon answers, the pool can follow with the same answers, and return what the script
does: the error of the script, or the connection with a loop that its client is subscribed to, on
the connection that it has. -/
theorem acquire_bound (s : System Cl σ) (hi : s.pc i = .loopIdFor c) (rs rs' : List Reply)
    (w w' : World) (res : Except Error String)
    (h : (acquireLoop (P.loopIdFor s.store (s.sid i)) (s.args i).workspaceId
      (s.args i).userId).run handle rs w = some (res, rs', w')) :
    (∃ as t, (∀ a ∈ as, a.call = i) ∧ Lts.exec (System.step P) s as = some t ∧
      Returns c (t.pc i) res) ∧ ∀ l, res = .ok l → l ≠ "" ∧ attached w'.log = some l := by
  obtain ⟨hlands, hbound⟩ := acquireLoop_spec P i c _ rs w res rs' w' trivial h
  exact ⟨hlands s ⟨hi, rfl⟩, hbound⟩

end Both

/-- A call that has its slot. -/
def slotted : PooledConn String where
  call := 0
  slotId := 1
  sessionId := "s1"
  loopId := ""
  workspaceId := ""
  client := "ws://127.0.0.1:8765"

def beforeLoop : System String (StrMap LoopSessionEntry) :=
  (System.init System.oneSlot ∅).goto 0 (.loopIdFor slotted)

/-- The daemon makes a loop, and the subscription succeeds. -/
def named1 : List Reply :=
  [{}, { result := .ok (.obj [("loop_id", .str " l1 ")]) }, { result := .ok (.str "sub") }]

theorem acquire_bound_new : ∃ w as t,
    ((acquireLoop (System.oneSlot.loopIdFor ∅ "") "" "").run handle named1 {}).map
        (·.1.toOption) = some (some "l1") ∧
      Lts.exec (System.step System.oneSlot) beforeLoop as = some t ∧
      t.pc 0 = .done (.ok { slotted with loopId := "l1" }) ∧
      attached (World.log w) = some "l1" := by
  have hrun : ((acquireLoop (System.oneSlot.loopIdFor ∅ "") "" "").run handle named1 {}).map
      (·.1.toOption) = some (some "l1") := by
    decide +kernel
  obtain ⟨⟨res, rs, w⟩, hw, hres⟩ := Option.map_eq_some_iff.1 hrun
  obtain ⟨⟨as, t, -, ht, hreturns⟩, hbound⟩ :=
    acquire_bound System.oneSlot 0 slotted beforeLoop rfl named1 rs {} w res hw
  cases res with
  | ok l =>
    obtain rfl := Option.some.inj hres
    exact ⟨w, as, t, hrun, ht, hreturns, (hbound _ rfl).2⟩
  | error e => cases hres

end SootheClient.Session.Lifecycle
