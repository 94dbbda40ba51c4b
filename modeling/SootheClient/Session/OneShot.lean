import SootheClient.Session.Bootstrap

/-!
# One-shot calls

A one-shot connects a socket of its own, sends what it has to send and closes the socket again. It
closes whatever it connected, unless the attempts to connect fail or run out of time.
-/

namespace SootheClient.Session.Lifecycle

open Json (Members)
open Script

/-! ## The scripts -/

/-- `AsyncCommandClient::with_client`: connect, go on, close. -/
def withClient (f : Method Members) : Method Members :=
  (connectWithRetries .own 5 (250 * MILLISECOND)).andThen fun _ =>
  f.bind fun result => .call (.close .own) fun _ => .done result

/-- `AsyncCommandClient::rpc`. -/
def commandRpc (method : String) (params : Members) (timeout : ℕ) : Method Members :=
  withClient (ask (.request .own method params timeout))

def errorMembers (e : Error) : Members := [("error", .str e.display)]

/-- What `protocol1_rpc` sends, by its mode. -/
def protocol1Send (method : String) (params : Members) (mode : String) (timeout : ℕ) :
    Script Call Members :=
  if mode = "notify" then
    .call (.notify .own method params) fun
      | .ok () => .done []
      | .error e => .done (errorMembers e)
  else if mode = "subscribe" then
    .call (.subscribe .own method params timeout) fun
      | .ok id => .done [("subscription_id", .str id)]
      | .error e => .done (errorMembers e)
  else
    .call (.request .own method params timeout) fun
      | .ok r => .done r
      | .error e => .done (errorMembers e)

/-- Errors are returned as members. -/
def protocol1Rpc (method : String) (params : Members) (mode : String) (timeout : ℕ) :
    Script Call Members :=
  (connectWithRetries .own 5 (200 * MILLISECOND)).bind fun
    | .error e => .done (errorMembers e)
    | .ok () =>
      (protocol1Send method params mode timeout).bind fun out =>
      .call (.close .own) fun _ => .done out

/-- The daemon says that it is ready, or that it runs. -/
def isReady (status : Members) : Bool :=
  (status.get "readiness_state").bind Json.asStr? = some "ready" ||
    (status.get "running").bind Json.asBool? = some true

/-- `n` polls before the deadline. -/
def pollStatus : ℕ → Script Call Bool
  | 0 => .done false
  | n + 1 => .call (.request .own "daemon_status" [] (10 * SECOND)) fun
    | .ok status =>
      if isReady status then .done true
      else .call (.sleep (100 * MILLISECOND)) fun _ => pollStatus n
    | .error _ => .call (.sleep (100 * MILLISECOND)) fun _ => pollStatus n

/-- `is_daemon_live`; the time to connect is over after `calls` calls, and that to become ready
after `polls` polls. A call that is cut leaves what one that fails leaves. -/
def isDaemonLive (waitForReady : Bool) (calls polls : ℕ) : Script Call Bool :=
  ((connectWithRetries .own 5 (200 * MILLISECOND)).within calls).bind fun
    | some (.ok ()) =>
      if waitForReady then
        (pollStatus polls).bind fun ok => .call (.close .own) fun _ => .done ok
      else .call (.close .own) fun _ => .done true
    | _ => .done false

/-! ## What they leave behind -/

/-- A one-shot with its arguments. -/
inductive OneShot where
  | command (method : String) (params : Members) (timeout : ℕ)
  | protocol1 (method : String) (params : Members) (mode : String) (timeout : ℕ)
  | live (waitForReady : Bool) (calls polls : ℕ)

namespace OneShot

/-- The one-shot without its result. -/
def script : OneShot → Script Call Unit
  | .command method params timeout => (commandRpc method params timeout).bind fun _ => .done ()
  | .protocol1 method params mode timeout =>
    (protocol1Rpc method params mode timeout).bind fun _ => .done ()
  | .live waitForReady calls polls =>
    (isDaemonLive waitForReady calls polls).bind fun _ => .done ()

end OneShot

/-! ## What they send -/

namespace Reply

variable (r : Reply)

/-- The connection of a one-shot is lost. -/
def drops : Bool := r.lost.contains .own

/-- The answer says that the daemon is ready. -/
def ready : Bool :=
  match r.result with
  | .ok v => isReady (resultMembers v)
  | .error _ => false

/-- The envelope goes out, unless the connection is lost. -/
def passes (t : Bool → Traffic) : List Entry :=
  if r.drops then [] else [(.own, t r.result.isOk)]

end Reply

/-- The envelope of each mode. -/
def envelope (method : String) (params : Members) (mode : String) : Bool → Traffic :=
  if mode = "notify" then .notify method params
  else if mode = "subscribe" then .subscribe method params
  else .request method params

/-- The requests of `n` polls, which are answered every other time: they end with an answer that the
daemon is ready, or with the connection. -/
def polled : ℕ → List Reply → List Entry
  | n + 1, r :: rest =>
    r.passes (.request "daemon_status" []) ++
      if r.drops || r.ready || rest.head?.any Reply.drops then [] else polled n rest.tail
  | _, _ => []

/-- Attempts to connect that fail, each with the sleep after it. -/
inductive Failed : List Reply → Prop
  | nil : Failed []
  | cons (r s : Reply) {tried : List Reply} (hr : r.result.isOk = false) (h : Failed tried) :
      Failed (r :: s :: tried)

namespace OneShot

/-- What goes out on the connection, with the replies after it. -/
def sends : OneShot → List Reply → List Entry
  | .command method params _, r :: _ => r.passes (.request method params)
  | .protocol1 method params mode _, r :: _ => r.passes (envelope method params mode)
  | .live true _ polls, replies => polled polls replies
  | _, _ => []

/-- The time to connect is over. -/
def cut : OneShot → List Reply → Prop
  | .live _ calls _, tried => tried.length = calls
  | _, _ => False

/-- With these replies five attempts to connect fail, or they run out of time. -/
def GivesUp (o : OneShot) (tried : List Reply) : Prop :=
  o.cut tried ∨ ∃ before r, tried = before ++ [r] ∧ Failed before ∧ r.result.isOk = false ∧
    before.length = 8

end OneShot

/-- Attempts to connect are all there is, and all of them fail; or one of them connects the socket,
what is to be sent goes out on it, and it is closed last. -/
def Disposed (o : OneShot) (L : List Entry) (rs rs' : List Reply) (w : World) : Prop :=
  ∃ ds, (∀ e ∈ ds, e = (.own, .dial)) ∧
    ((∃ tried, rs = tried ++ rs' ∧ o.GivesUp tried ∧ w.log = L ++ ds) ∨
      ∃ tried r after, rs = tried ++ r :: after ∧ Failed tried ∧ ds ≠ [] ∧ w.up .own = false ∧
        w.log = L ++ ds ++ o.sends after ++ [(.own, .close)])

/-- The log since `L` is of attempts to connect; without one the socket is down. -/
def Opening (L : List Entry) (w : World) : Prop :=
  ∃ ds, (∀ e ∈ ds, e = (.own, .dial)) ∧ w.log = L ++ ds ∧ (ds = [] → w.up .own = false)

/-- The socket is connected. -/
def Opened (L : List Entry) (w : World) : Prop := Opening L w ∧ w.up .own = true

variable {L sent : List Entry} {w w₁ w' : World} {r : Reply} {rs rs₁ rs' tried : List Reply}
  {α : Type} {o : OneShot} {method mode : String} {params : Members} {timeout n : ℕ}

/-! ## Connecting -/

theorem lose_down {l : List Socket} (h : w.up .own = false) : (w.lose l).up .own = false := by
  simp only [World.lose, h, Bool.false_and]

theorem Opening.lose {l : List Socket} (h : Opening L w) : Opening L (w.lose l) := by
  obtain ⟨ds, hds, hlog, hup⟩ := h
  exact ⟨ds, hds, hlog, fun hnil => lose_down (hup hnil)⟩

theorem Opening.dial (h : Opening L w) : Opening L (w.dial .own) := by
  obtain ⟨ds, hds, hlog, -⟩ := h
  refine ⟨ds ++ [(.own, .dial)], fun e he => ?_, ?_, fun hnil => ?_⟩
  · obtain he | he := List.mem_append.1 he
    · exact hds e he
    · exact List.mem_singleton.1 he
  · show w.log ++ [(.own, .dial)] = _
    rw [hlog, List.append_assoc]
  · exact absurd hnil (List.append_ne_nil_of_right_ne_nil _ (List.cons_ne_nil _ _))

theorem Opening.connect (h : Opening L w) : Opening L (handle (.connect .own) r w).2 ∧
    ((handle (.connect .own) r w).1 = .ok () → (handle (.connect .own) r w).2.up .own = true) := by
  obtain ⟨hup, heq⟩ | ⟨res, heq⟩ | ⟨e, heq⟩ := connect_cases .own r w
  · rw [heq]
    exact ⟨h.lose, fun _ => hup⟩
  · rw [heq]
    exact ⟨h.lose.dial, fun _ => World.dial_up _⟩
  · rw [heq]
    exact ⟨h.lose, fun hok => by cases hok⟩

/-- An attempt that fails was answered with an error. -/
theorem isOk_of_connect {e : Error} (h : (handle (.connect .own) r w).1 = .error e) :
    r.result.isOk = false := by
  cases hr : r.result with
  | error e' => rfl
  | ok v =>
    simp only [handle, answer, hr] at h
    split_ifs at h

theorem connectAttempts_preserves (delay n : ℕ) :
    (connectAttempts .own delay n).Preserves handle (Opening L) := by
  induction n with
  | zero => trivial
  | succ n ih =>
    refine ⟨fun r w h => h.connect.1, fun res => ?_⟩
    cases res with
    | ok _ => trivial
    | error e =>
      show Script.Preserves handle _ (if n = 0 then _ else _)
      split_ifs
      · trivial
      · exact ⟨fun r w h => h.lose, fun _ => ih⟩

/-- An attempt comes to a connection, or the next one is made. -/
theorem connectAttempts_step {delay : ℕ} {res : Except Error Unit} (h : Opening L w)
    (hrun : (connectAttempts .own delay (n + 1)).run handle (r :: rs) w = some (res, rs', w')) :
    (res = .ok () ∧ rs' = rs ∧ Opened L w') ∨ ∃ e w₁, r.result.isOk = false ∧ Opening L w₁ ∧
      (if n = 0 then Method.fail e else
        .call (.sleep delay) fun _ => connectAttempts .own delay n).run handle rs w₁ =
          some (res, rs', w') := by
  have hc := h.connect (r := r)
  have hnext : (match (handle (.connect .own) r w).1 with
      | .ok () => Method.ok ()
      | .error e => if n = 0 then Method.fail e else
        .call (.sleep delay) fun _ => connectAttempts .own delay n : Method Unit).run handle rs
          (handle (.connect .own) r w).2 = some (res, rs', w') := hrun
  cases hres : (handle (.connect .own) r w).1 with
  | ok u =>
    rw [hres] at hnext
    obtain ⟨rfl, rfl, rfl⟩ := by
      simpa only [Method.ok, run, Option.some.injEq, Prod.mk.injEq] using hnext
    exact Or.inl ⟨rfl, rfl, hc.1, hc.2 hres⟩
  | error e =>
    rw [hres] at hnext
    exact Or.inr ⟨e, _, isOk_of_connect hres, hc.1, hnext⟩

/-- Attempts to connect come to a connection, or all of them fail. -/
theorem connectAttempts_run {delay : ℕ} {res : Except Error Unit} (h : Opening L w)
    (hrun : (connectAttempts .own delay (n + 1)).run handle rs w = some (res, rs', w')) :
    Opening L w' ∧ ∃ tried r, rs = tried ++ r :: rs' ∧ Failed tried ∧
      (res = .ok () ∧ w'.up .own = true ∨
        (∃ e, res = .error e) ∧ r.result.isOk = false ∧ tried.length = 2 * n) := by
  induction n generalizing rs w with
  | zero =>
    cases rs with
    | nil => cases hrun
    | cons r rs =>
      obtain ⟨hok, rfl, ho, hup⟩ | ⟨e, w₁, hr, ho, hrest⟩ := connectAttempts_step h hrun
      · exact ⟨ho, [], r, rfl, .nil, Or.inl ⟨hok, hup⟩⟩
      · obtain ⟨rfl, rfl, rfl⟩ := by
          simpa only [Method.fail, if_true, run, Option.some.injEq, Prod.mk.injEq] using hrest
        exact ⟨ho, [], r, rfl, .nil, Or.inr ⟨⟨e, rfl⟩, hr, rfl⟩⟩
  | succ n ih =>
    cases rs with
    | nil => cases hrun
    | cons r rs =>
      obtain ⟨hok, rfl, ho, hup⟩ | ⟨e, w₁, hr, ho, hrest⟩ := connectAttempts_step h hrun
      · exact ⟨ho, [], r, rfl, .nil, Or.inl ⟨hok, hup⟩⟩
      · rw [if_neg n.succ_ne_zero] at hrest
        cases rs with
        | nil => cases hrest
        | cons s rs =>
          obtain ⟨ho', tried, r', rfl, htried, hres⟩ := ih (w := w₁.lose s.lost) ho.lose hrest
          refine ⟨ho', r :: s :: tried, r', rfl, .cons r s hr htried, ?_⟩
          obtain hok | ⟨he, hr', hlen⟩ := hres
          · exact Or.inl hok
          · refine Or.inr ⟨he, hr', ?_⟩
            rw [List.length_cons, List.length_cons, hlen]
            rfl

/-! ## Sending -/

/-- A connection is up after a call unless the call finds it lost. -/
theorem lose_up (hup : w.up .own = true) : (w.lose r.lost).up .own = !r.drops := by
  simp only [World.lose, Reply.drops, hup, Bool.true_and]

/-- An envelope goes out on a connection that is up, unless the call finds it lost. -/
theorem answer_log {β : Type} {a b : β} {t : Bool → Traffic} (hup : w.up .own = true) :
    (if (w.lose r.lost).up .own = true then (a, (w.lose r.lost).note .own (t r.result.isOk))
      else (b, w.lose r.lost)).2.log = w.log ++ r.passes t := by
  unfold Reply.passes
  rw [lose_up hup]
  cases r.drops with
  | false => rfl
  | true => exact (List.append_nil _).symm

theorem protocol1Send_log {out : Members} (hup : w.up .own = true)
    (h : (protocol1Send method params mode timeout).run handle rs w = some (out, rs', w')) :
    ∃ r, rs = r :: rs' ∧ w'.log = w.log ++ r.passes (envelope method params mode) := by
  unfold protocol1Send at h
  unfold envelope
  split_ifs at h ⊢
  · obtain ⟨r, rfl, rfl⟩ := run_once (fun res => by cases res <;> exact ⟨_, rfl⟩) h
    exact ⟨r, rfl, answer_log hup⟩
  · obtain ⟨r, rfl, rfl⟩ := run_once (fun res => by cases res <;> exact ⟨_, rfl⟩) h
    exact ⟨r, rfl, answer_log hup⟩
  · obtain ⟨r, rfl, rfl⟩ := run_once (fun res => by cases res <;> exact ⟨_, rfl⟩) h
    exact ⟨r, rfl, answer_log hup⟩

/-- Without a connection polls send nothing. -/
theorem pollStatus_down (L : List Entry) (n : ℕ) : Triple handle
    (fun w => w.up .own = false ∧ w.log = L) (pollStatus n) fun _ w => w.log = L := by
  induction n with
  | zero => exact triple_done fun w h => h.2
  | succ n ih =>
    refine triple_call (M := fun res w => (∃ e, res = .error e) ∧ w.up .own = false ∧ w.log = L)
      (fun r w h => ?_) fun res => ?_
    · simp only [handle, answer, lose_down h.1]
      exact ⟨⟨_, rfl⟩, lose_down h.1, h.2⟩
    · refine triple_pure fun he => ?_
      obtain ⟨e, rfl⟩ := he
      exact triple_call (M := fun _ w => w.up .own = false ∧ w.log = L)
        (fun r w h => ⟨lose_down h.1, h.2⟩) fun _ => ih

/-- The polls after a sleep find the connection, or they find it lost. -/
theorem sleep_log {duration : ℕ} {ok : Bool} (hup : w.up .own = true)
    (hpolls : ∀ {rs w}, w.up .own = true → (pollStatus n).run handle rs w = some (ok, rs', w') →
      w'.log = w.log ++ polled n rs)
    (h : (Script.call (.sleep duration) fun _ => pollStatus n).run handle rs w =
      some (ok, rs', w')) :
    w'.log = w.log ++ if rs.head?.any Reply.drops then [] else polled n rs.tail := by
  cases rs with
  | nil => cases h
  | cons s rs =>
    have hpoll : (pollStatus n).run handle rs (w.lose s.lost) = some (ok, rs', w') := h
    have hlost : (w.lose s.lost).up .own = !s.drops := lose_up hup
    show w'.log = w.log ++ if s.drops = true then [] else polled n rs
    cases hs : s.drops with
    | false =>
      have hup' : (w.lose s.lost).up .own = true := hlost.trans (by rw [hs]; rfl)
      have hsent := hpolls hup' hpoll
      exact hsent
    | true =>
      rw [if_pos rfl, List.append_nil]
      exact pollStatus_down w.log n rs _ ok rs' w' ⟨hlost.trans (by rw [hs]; rfl), rfl⟩ hpoll

/-- **Polls.** -/
theorem pollStatus_log {ok : Bool} (hup : w.up .own = true)
    (h : (pollStatus n).run handle rs w = some (ok, rs', w')) :
    w'.log = w.log ++ polled n rs := by
  induction n generalizing rs w with
  | zero =>
    obtain ⟨-, -, rfl⟩ := by
      simpa only [pollStatus, run, Option.some.injEq, Prod.mk.injEq] using h
    exact (List.append_nil _).symm
  | succ n ih =>
    cases rs with
    | nil => cases h
    | cons r rs =>
      have hnext : (match (handle (.request .own "daemon_status" [] (10 * SECOND)) r w).1 with
          | .ok status => if isReady status then .done true
            else .call (.sleep (100 * MILLISECOND)) fun _ => pollStatus n
          | .error _ => .call (.sleep (100 * MILLISECOND)) fun _ => pollStatus n :
            Script Call Bool).run handle rs
              (handle (.request .own "daemon_status" [] (10 * SECOND)) r w).2 =
                some (ok, rs', w') := h
      simp only [handle, answer, lose_up hup] at hnext
      unfold polled Reply.passes Reply.ready
      cases hd : r.drops with
      | true =>
        rw [hd] at hnext
        cases rs with
        | nil => cases hnext
        | cons s rs =>
          have hdown : (w.lose r.lost).up .own = false := (lose_up hup).trans (by rw [hd]; rfl)
          exact (pollStatus_down w.log n rs _ ok rs' w' ⟨lose_down hdown, rfl⟩ hnext).trans
            (List.append_nil _).symm
      | false =>
        rw [hd] at hnext
        have hnote : ((w.lose r.lost).note .own
            (.request "daemon_status" [] r.result.isOk)).up .own = true :=
          (lose_up hup).trans (by rw [hd]; rfl)
        have hsleep : (Script.call (.sleep (100 * MILLISECOND)) fun _ => pollStatus n).run handle rs
            ((w.lose r.lost).note .own (.request "daemon_status" [] r.result.isOk)) =
              some (ok, rs', w') →
            w'.log = w.log ++ ([(.own, .request "daemon_status" [] r.result.isOk)] ++
              if rs.head?.any Reply.drops then [] else polled n rs.tail) :=
          fun hrest => (sleep_log hnote ih hrest).trans (List.append_assoc _ _ _)
        cases hr : r.result with
        | error e =>
          rw [hr] at hnext hsleep
          exact hsleep hnext
        | ok v =>
          rw [hr] at hnext hsleep
          simp only [Bool.false_or]
          cases hready : isReady (resultMembers v) with
          | true =>
            obtain ⟨-, -, rfl⟩ := by
              simpa only [Except.map, hready, if_true, Bool.not_false, run, Option.some.injEq,
                Prod.mk.injEq] using hnext
            rfl
          | false =>
            simp only [Except.map, hready, Bool.not_false, if_true] at hnext
            exact hsleep hnext

/-! ## One-shots -/

/-- The socket is closed after what was sent. -/
theorem Opened.disposed {res a : α} {after : List Reply} (h : Opened L w) (htried : Failed tried)
    (hrs : rs = tried ++ r :: after) (hlog : w₁.log = w.log ++ o.sends after)
    (hclose : (Script.call (.close .own) fun _ => .done res).run handle rs₁ w₁ =
      some (a, rs', w')) : Disposed o L rs rs' w' := by
  obtain ⟨c, -, rfl⟩ := run_once (fun _ => ⟨res, rfl⟩) hclose
  obtain ⟨⟨ds, hds, hopen, hdown⟩, hup⟩ := h
  refine ⟨ds, hds, Or.inr ⟨tried, r, after, hrs, htried, fun hnil => ?_, World.hangUp_up _, ?_⟩⟩
  · exact absurd ((hdown hnil).symm.trans hup) Bool.false_ne_true
  · show w₁.log ++ [(.own, .close)] = _
    rw [hlog, hopen]

theorem Opening.disposed (h : Opening L w') (hrs : rs = tried ++ rs') (hgives : o.GivesUp tried) :
    Disposed o L rs rs' w' := by
  obtain ⟨ds, hds, hlog, -⟩ := h
  exact ⟨ds, hds, Or.inl ⟨tried, hrs, hgives, hlog⟩⟩

theorem OneShot.givesUp (htried : Failed tried) (hr : r.result.isOk = false)
    (hlen : tried.length = 8) : o.GivesUp (tried ++ [r]) :=
  Or.inr ⟨tried, r, rfl, htried, hr, hlen⟩

/-- A one-shot goes on with a connection, or it returns. -/
theorem connectWithRetries_run {res : Except Error Unit} (h : Opening L w) (delay : ℕ)
    (hrun : (connectWithRetries .own 5 delay).run handle rs w = some (res, rs₁, w₁)) :
    (res = .ok () ∧ ∃ tried r, rs = tried ++ r :: rs₁ ∧ Failed tried ∧ Opened L w₁) ∨
      (∃ e, res = .error e) ∧ Opening L w₁ ∧ ∃ tried, rs = tried ++ rs₁ ∧
        ∀ o : OneShot, o.GivesUp tried := by
  obtain ⟨ho, tried, r, hrs, htried, ⟨hok, hup⟩ | ⟨he, hr, hlen⟩⟩ := connectAttempts_run h hrun
  · exact Or.inl ⟨hok, tried, r, hrs, htried, ho, hup⟩
  · refine Or.inr ⟨he, ho, tried ++ [r], ?_, fun o => OneShot.givesUp htried hr hlen⟩
    rw [hrs, List.append_assoc]
    rfl

theorem commandRpc_disposes {res : Except Error Members} (h : Opening L w)
    (hrun : (commandRpc method params timeout).run handle rs w = some (res, rs', w')) :
    Disposed (.command method params timeout) L rs rs' w' := by
  obtain ⟨conn, rs₁, w₁, hconn, hrest⟩ := run_bind_inv hrun
  obtain ⟨rfl, tried, r, hrs, htried, ho⟩ | ⟨⟨e, rfl⟩, ho, tried, hrs, hgives⟩ :=
    connectWithRetries_run h _ hconn
  · obtain ⟨out, rs₂, w₂, hask, hclose⟩ := run_bind_inv hrest
    obtain ⟨r', rfl, rfl⟩ := run_once (fun b => ⟨b, rfl⟩) hask
    exact ho.disposed htried hrs (answer_log ho.2) hclose
  · obtain ⟨-, rfl, rfl⟩ := by simpa only [run, Option.some.injEq, Prod.mk.injEq] using hrest
    exact ho.disposed hrs (hgives _)

theorem protocol1Rpc_disposes {out : Members} (h : Opening L w)
    (hrun : (protocol1Rpc method params mode timeout).run handle rs w = some (out, rs', w')) :
    Disposed (.protocol1 method params mode timeout) L rs rs' w' := by
  obtain ⟨conn, rs₁, w₁, hconn, hrest⟩ := run_bind_inv hrun
  obtain ⟨rfl, tried, r, hrs, htried, ho⟩ | ⟨⟨e, rfl⟩, ho, tried, hrs, hgives⟩ :=
    connectWithRetries_run h _ hconn
  · obtain ⟨out, rs₂, w₂, hsend, hclose⟩ := run_bind_inv hrest
    obtain ⟨r', rfl, hlog⟩ := protocol1Send_log ho.2 hsend
    exact ho.disposed htried hrs hlog hclose
  · obtain ⟨-, rfl, rfl⟩ := by simpa only [run, Option.some.injEq, Prod.mk.injEq] using hrest
    exact ho.disposed hrs (hgives _)

theorem isDaemonLive_disposes {waitForReady live : Bool} {calls polls : ℕ} (h : Opening L w)
    (hrun : (isDaemonLive waitForReady calls polls).run handle rs w = some (live, rs', w')) :
    Disposed (.live waitForReady calls polls) L rs rs' w' := by
  obtain ⟨conn, rs₁, w₁, hconn, hrest⟩ := run_bind_inv hrun
  obtain ⟨res, rfl, hres⟩ | ⟨rfl, tried, hrs, hlen⟩ := run_within hconn
  · obtain ⟨rfl, tried, r, hrs, htried, ho⟩ | ⟨⟨e, rfl⟩, ho, tried, hrs, hgives⟩ :=
      connectWithRetries_run h _ hres
    · cases waitForReady with
      | true =>
        obtain ⟨ok, rs₂, w₂, hpolls, hclose⟩ := run_bind_inv hrest
        exact ho.disposed htried hrs (pollStatus_log ho.2 hpolls) hclose
      | false => exact ho.disposed htried hrs (List.append_nil _).symm hrest
    · obtain ⟨-, rfl, rfl⟩ := by simpa only [run, Option.some.injEq, Prod.mk.injEq] using hrest
      exact ho.disposed hrs (hgives _)
  · have ho : Opening L w₁ :=
      (connectAttempts_preserves _ 5).within calls rs w none rs₁ w₁ h hconn
    obtain ⟨-, rfl, rfl⟩ := by simpa only [run, Option.some.injEq, Prod.mk.injEq] using hrest
    exact ho.disposed hrs (Or.inl hlen)

/-- **One-shots.** Whatever the daemon answers and whichever connections are lost, all attempts of
a one-shot to connect fail and it sends nothing, or it sends the envelope of its mode on a socket
that it connected before and closes after it. -/
theorem oneShot_disposes (o : OneShot) {u : Unit} (hdown : w.up .own = false)
    (h : o.script.run handle rs w = some (u, rs', w')) : Disposed o w.log rs rs' w' := by
  have hstart : Opening w.log w := ⟨[], fun e he => absurd he List.not_mem_nil,
    (List.append_nil _).symm, fun _ => hdown⟩
  cases o with
  | command method params timeout => exact commandRpc_disposes hstart (run_map h).choose_spec
  | protocol1 method params mode timeout =>
    exact protocol1Rpc_disposes hstart (run_map h).choose_spec
  | live waitForReady calls polls => exact isDaemonLive_disposes hstart (run_map h).choose_spec

/-- The first attempt dials and fails in its handshake; the daemon is ready at the second poll. -/
def warming : List Reply :=
  [{ dialed := true, result := .error (.message "late") }, {}, {}, { result := .ok (.obj []) }, {},
    { result := .ok (.obj [("running", .bool true)]) }, {}]

theorem oneShot_disposes_live : ∃ w, (OneShot.live true 10 5).script.run handle warming {} =
    some ((), [], w) ∧ w.log.length = 4 ∧
      Disposed (.live true 10 5) [] warming [] w := by
  have hrun : ((OneShot.live true 10 5).script.run handle warming {}).map
      (fun x => (x.2.1.length, x.2.2.log.length)) = some (0, 4) := by
    decide +kernel
  obtain ⟨⟨u, rs, w⟩, hw, hpc⟩ := Option.map_eq_some_iff.1 hrun
  obtain ⟨hrs, hlen⟩ := Prod.mk.inj hpc
  obtain rfl := List.eq_nil_of_length_eq_zero hrs
  exact ⟨w, hw, hlen, oneShot_disposes _ rfl hw⟩

/-- Attempts that fail in their handshakes leave the socket of the last one open. -/
example : ((OneShot.command "m" [] 0).script.run handle
    ((List.range 9).map fun i => if i % 2 = 1 then { lost := [.own] }
      else { dialed := true, result := .error (.message "late") }) {}).map
      (fun x => (x.2.2.up .own, x.2.2.log.length)) = some (true, 5) := by
  decide +kernel

end SootheClient.Session.Lifecycle
