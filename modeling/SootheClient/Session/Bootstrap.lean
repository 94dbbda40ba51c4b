import SootheClient.Lib.Text
import SootheClient.Session.Calls

/-!
# Bootstrapping a loop

`connect_with_retries`, `bootstrap_loop_session` and `reattach_and_probe`, and what each of them
makes of the loop that a session is subscribed to. The log tells that loop: the latest subscription
to `loop_events` that succeeded on the stream socket, at all or on the present connection.
-/

namespace SootheClient.Session.Lifecycle

open Json (Members)
open Script

/-! ## The scripts -/

def SECOND : ℕ := 10 ^ 9

def MILLISECOND : ℕ := 10 ^ 6

/-- `n` attempts, with a sleep between two of them. -/
def connectAttempts (s : Socket) (delay : ℕ) : ℕ → Method Unit
  | 0 => Method.fail (.message "connect failed")
  | n + 1 => .call (.connect s) fun
    | .ok () => Method.ok ()
    | .error e =>
      if n = 0 then Method.fail e else .call (.sleep delay) fun _ => connectAttempts s delay n

def connectWithRetries (s : Socket) (maxRetries retryDelay : ℕ) : Method Unit :=
  connectAttempts s (if retryDelay = 0 then 250 * MILLISECOND else retryDelay)
    (if maxRetries = 0 then 40 else maxRetries)

def loopParams (loopId : String) : Members := [("loop_id", .str loopId)]

def loopGet (s : Socket) (loopId : String) : Method Members :=
  ask (.request s "loop_get" (loopParams loopId) (15 * SECOND))

def loopReattach (s : Socket) (loopId : String) : Method Members :=
  ask (.request s "loop_reattach" (loopParams loopId) (15 * SECOND))

def loopSubscribe (s : Socket) (loopId streamDelivery : String) : Method String :=
  ask (.subscribe s "loop_events"
    [("loop_id", .str loopId), ("stream_delivery", .str streamDelivery), ("wire_tier", .str "full")]
    (30 * SECOND))

/-- Reattach, subscribe and probe; whatever is wrong with the probe, the loop is stale. -/
def reattachAndProbe (s : Socket) (loopId : String) : Method Unit :=
  (loopReattach s loopId).andThen fun _ =>
  (loopSubscribe s loopId "adaptive").andThen fun _ =>
  ((loopGet s loopId).mapError (.staleLoop loopId)).andThen fun _ => Method.ok ()

structure BootstrapOptions where
  resumeLoopId : Option String := none
  workspace : Option String := none
  userId : Option String := none
  clientWorkspaceId : Option String := none
  streamDelivery : String := "adaptive"
  isEphemeral : Bool := false

namespace BootstrapOptions

variable (opts : BootstrapOptions)

/-- The delivery mode, when the daemon knows it. -/
def delivery : String :=
  if opts.streamDelivery = "batch" ∨ opts.streamDelivery = "adaptive" ∨
      opts.streamDelivery = "streaming" then opts.streamDelivery
  else "adaptive"

/-- An option that is not empty. -/
def filled (o : Option String) : Option Json := (o.filter (· ≠ "")).map .str

def loopNewParams : Members :=
  Members.insertAll []
    [("client_workspace", filled opts.workspace), ("user_id", filled opts.userId),
      ("client_workspace_id", filled opts.clientWorkspaceId),
      ("is_ephemeral", if opts.isEphemeral then some (.bool true) else none)]

end BootstrapOptions

/-- The loop that a `loop_new` response names. -/
def newLoopId (resp : Members) : String :=
  Text.trim (((resp.get "loop_id").bind Json.asStr?).getD "")

/-- The loop of a bootstrap: the one to resume, or a new one. -/
def bootstrapLoopId (s : Socket) (opts : BootstrapOptions) (loopStatusTimeout : ℕ) :
    Method String :=
  match opts.resumeLoopId.bind Text.nonBlank with
  | some loopId => Method.ok loopId
  | none =>
    (Method.mapError (fun e => .message ("loop_new: " ++ e.display))
      (ask (.request s "loop_new" opts.loopNewParams loopStatusTimeout))).andThen fun resp =>
    if newLoopId resp = "" then Method.fail (.message "loop_new response missing loop_id")
    else Method.ok (newLoopId resp)

def sessionReady (loopId : String) : Members :=
  [("type", .str "session_ready"), ("loop_id", .str loopId), ("success", .bool true)]

def bootstrapLoopSession (s : Socket) (opts : BootstrapOptions) (loopStatusTimeout : ℕ) :
    Method Members :=
  (bootstrapLoopId s opts loopStatusTimeout).andThen fun loopId =>
  (Method.mapError (fun e => .message ("loop_subscribe: " ++ e.display))
    (loopSubscribe s loopId opts.delivery)).andThen fun _ =>
  Method.ok (sessionReady loopId)

/-! ## What the log tells -/

namespace Entry

/-- The stream socket is connected. -/
def dials : Entry → Bool
  | (.stream, .dial) => true
  | _ => false

/-- The loop that the stream is subscribed to from here. -/
def names : Entry → Option String
  | (.stream, .subscribe method params true) =>
    if method = "loop_events" then (params.get "loop_id").bind Json.asStr? else none
  | (.stream, .adopt loopId) => some loopId
  | _ => none

/-- The params of an input that went to the daemon. -/
def input : Entry → Option Members
  | (.stream, .notify method params true) => if method = "loop_input" then some params else none
  | _ => none

/-- The entry is of no account to loops. -/
def quiet (e : Entry) : Prop := e.dials = false ∧ e.names = none ∧ e.input = none

end Entry

/-- The loop of the latest subscription. -/
def named (log : List Entry) : Option String := Latest.latest (fun _ => false) Entry.names log

/-- The loop of the latest subscription on the present connection. -/
def attached (log : List Entry) : Option String := Latest.latest Entry.dials Entry.names log

/-- How often the stream was connected. -/
def dials (log : List Entry) : ℕ := log.countP Entry.dials

/-- How a session stands: what it knows of its loop, and what the log tells. -/
structure Standing where
  loopId : String
  named : Option String
  attached : Option String
  dials : ℕ

def World.standing (w : World) : Standing := ⟨w.loopId, named w.log, attached w.log, dials w.log⟩

/-- What the log says is not about entries other than inputs. -/
def Stable (J : List Entry → Prop) : Prop :=
  ∀ log e, e.input = none → J log → J (log ++ [e])

/-- The session stands as `v`, with a log in `J`. -/
def At (J : List Entry → Prop) (v : Standing) (w : World) : Prop := w.standing = v ∧ J w.log

namespace Standing

variable (v : Standing)

/-- The standing after a subscription to a loop. -/
def subscribed (loopId : String) : Standing :=
  { v with named := some loopId, attached := some loopId }

/-- The standing after the stream was connected `n` times in all. -/
def dialed (n : ℕ) : Standing := { v with attached := none, dials := n }

end Standing

variable {J : List Entry → Prop} {v : Standing} {w : World} {s : Socket} {t : Traffic} {e : Entry}
  {log : List Entry} {r : Reply} {loopId method : String} {params : Members} {timeout : ℕ}

theorem named_concat : named (log ++ [e]) = e.names.or (named log) := by
  unfold named
  rw [Latest.latest_concat, if_neg Bool.false_ne_true]

theorem attached_concat :
    attached (log ++ [e]) = if e.dials then none else e.names.or (attached log) :=
  Latest.latest_concat

theorem dials_concat : dials (log ++ [e]) = dials log + if e.dials then 1 else 0 := by
  unfold dials
  rw [List.countP_append, List.countP_singleton]

theorem quiet_of_socket (hs : s ≠ .stream) : Entry.quiet (s, t) := by
  cases s with
  | stream => exact absurd rfl hs
  | rpc | own => exact ⟨rfl, rfl, rfl⟩

theorem quiet_request {ok : Bool} : Entry.quiet (s, .request method params ok) := by
  cases s <;> exact ⟨rfl, rfl, rfl⟩

theorem quiet_close : Entry.quiet (s, .close) := by cases s <;> exact ⟨rfl, rfl, rfl⟩

theorem quiet_notify {ok : Bool} (hm : method ≠ "loop_input") :
    Entry.quiet (s, .notify method params ok) := by
  cases s with
  | stream =>
    cases ok with
    | true => exact ⟨rfl, rfl, if_neg hm⟩
    | false => exact ⟨rfl, rfl, rfl⟩
  | rpc | own => exact ⟨rfl, rfl, rfl⟩

theorem standing_note (hd : Entry.dials (s, t) = false) (hn : Entry.names (s, t) = none) :
    (w.note s t).standing = w.standing := by
  simp only [World.standing, World.note, named_concat, attached_concat, dials_concat, hd, hn,
    Option.none_or, Bool.false_eq_true, if_false, Nat.add_zero]

/-! ## Calls -/

section Calls

variable (hJ : Stable J)
include hJ

theorem At.note_quiet (h : At J v w) (hq : Entry.quiet (s, t)) : At J v (w.note s t) := by
  obtain ⟨hd, hn, hi⟩ := hq
  exact ⟨(standing_note hd hn).trans h.1, hJ _ _ hi h.2⟩

omit hJ in
theorem At.lose {l : List Socket} (h : At J v w) : At J v (w.lose l) := h

omit hJ in
theorem At.setUp {up : Socket → Bool} (h : At J v w) : At J v { w with up := up } := h

omit hJ in
theorem At.setLoopId (h : At J v w) :
    At J { v with loopId := loopId } { w with loopId := loopId } := by
  refine ⟨?_, h.2⟩
  rw [← h.1]
  rfl

omit hJ in
theorem At.setRpcConnected {b : Bool} (h : At J v w) :
    At J v (handle (.setRpcConnected b) r w).2 := h

/-- A request tells nothing of loops. -/
theorem At.request (h : At J v w) :
    At J v (handle (.request s method params timeout) r w).2 := by
  simp only [handle, answer]
  split_ifs
  · exact h.lose.note_quiet hJ quiet_request
  · exact h.lose

theorem At.notify (hm : method ≠ "loop_input") (h : At J v w) :
    At J v (handle (.notify s method params) r w).2 := by
  simp only [handle, answer]
  split_ifs
  · exact h.lose.note_quiet hJ (quiet_notify hm)
  · exact h.lose

theorem At.close (h : At J v w) : At J v (handle (.close s) r w).2 :=
  h.lose.setUp.note_quiet hJ quiet_close

theorem At.dial (h : At J v w) : At J (v.dialed (v.dials + 1)) (w.dial .stream) := by
  refine ⟨?_, hJ _ _ rfl h.2⟩
  have hnamed : v.named = named w.log := by rw [← h.1]; rfl
  have hdials : v.dials = dials w.log := by rw [← h.1]; rfl
  have hid : v.loopId = w.loopId := by rw [← h.1]; rfl
  simp only [World.standing, World.dial, World.note, named_concat, attached_concat, dials_concat,
    Standing.dialed, hnamed, hdials, hid]
  rfl

omit hJ in
/-- A socket that is up stays as it is; another is connected, or the attempt fails. -/
theorem connect_cases (s : Socket) (r : Reply) (w : World) :
    ((w.lose r.lost).up s = true ∧ handle (.connect s) r w = (.ok (), w.lose r.lost)) ∨
      (∃ res, handle (.connect s) r w = (res, (w.lose r.lost).dial s)) ∨
        ∃ e, handle (.connect s) r w = (.error e, w.lose r.lost) := by
  simp only [handle, answer]
  by_cases hup : (w.lose r.lost).up s = true
  · rw [if_pos hup]
    exact Or.inl ⟨hup, rfl⟩
  rw [if_neg hup]
  cases r.result with
  | ok _ => exact Or.inr (Or.inl ⟨_, rfl⟩)
  | error e =>
    cases r.dialed with
    | true => exact Or.inr (Or.inl ⟨_, rfl⟩)
    | false => exact Or.inr (Or.inr ⟨e, rfl⟩)

/-- A connection of another socket tells nothing of loops. -/
theorem At.connect_other (hs : s ≠ .stream) (h : At J v w) :
    At J v (handle (.connect s) r w).2 := by
  obtain ⟨-, heq⟩ | ⟨res, heq⟩ | ⟨e, heq⟩ := connect_cases s r w
  · rw [heq]
    exact h.lose
  · rw [heq]
    exact h.lose.setUp.note_quiet hJ (quiet_of_socket hs)
  · rw [heq]
    exact h.lose

/-- A subscription names its loop when it succeeds. -/
theorem At.subscribe {delivery : String} (h : At J v w) :
    let x := handle (.subscribe .stream "loop_events" [("loop_id", .str loopId),
      ("stream_delivery", .str delivery), ("wire_tier", .str "full")] timeout) r w
    (∃ id, x.1 = .ok id) ∧ At J (v.subscribed loopId) x.2 ∨
      (∃ e, x.1 = .error e) ∧ At J v x.2 := by
  simp only [handle, answer]
  split_ifs
  · cases r.result with
    | ok id =>
      refine Or.inl ⟨⟨_, rfl⟩, ?_, hJ _ _ rfl h.2⟩
      rw [← h.1]
      simp only [World.standing, World.note, named_concat, attached_concat, dials_concat,
        Standing.subscribed]
      rfl
    | error e =>
      refine Or.inr ⟨⟨e, rfl⟩, h.lose.note_quiet hJ ⟨rfl, rfl, rfl⟩⟩
  · exact Or.inr ⟨⟨_, rfl⟩, h.lose⟩

/-! ## Scripts -/

variable {α : Type}

/-- The stream was connected since. -/
def Dialed (J : List Entry → Prop) (v : Standing) (w : World) : Prop :=
  ∃ n, v.dials < n ∧ At J (v.dialed n) w

omit hJ in
theorem Dialed.lose {l : List Socket} (h : Dialed J v w) : Dialed J v (w.lose l) := h

theorem Dialed.dial (h : Dialed J v w) : Dialed J v (w.dial .stream) := by
  obtain ⟨n, hn, hat⟩ := h
  exact ⟨n + 1, Nat.lt_succ_of_lt hn, hat.dial hJ⟩

/-- Attempts to connect; a stream that was down is connected where they succeed. -/
theorem connectAttempts_spec (down : Bool) (delay n : ℕ) : Triple handle
    (fun w => At J v w ∧ (down = true → w.up .stream = false) ∨ Dialed J v w)
    (connectAttempts .stream delay n)
    fun res w => Dialed J v w ∨ At J v w ∧ (down = true → ∃ e, res = .error e) := by
  induction n with
  | zero =>
    refine triple_done fun w h => ?_
    obtain ⟨h, -⟩ | h := h
    · exact Or.inr ⟨h, fun _ => ⟨_, rfl⟩⟩
    · exact Or.inl h
  | succ n ih =>
    refine triple_call (M := fun res w => Dialed J v w ∨
      At J v w ∧ (down = true → w.up .stream = false ∧ ∃ e, res = .error e)) (fun r w h => ?_) ?_
    · obtain ⟨hup, heq⟩ | ⟨res, heq⟩ | ⟨e, heq⟩ := connect_cases .stream r w
      · rw [heq]
        obtain ⟨h, hdown⟩ | h := h
        · refine Or.inr ⟨h.lose, fun hd => ?_⟩
          have hlost : (w.lose r.lost).up .stream = false := by
            simp only [World.lose, hdown hd, Bool.false_and]
          exact absurd (hlost.symm.trans hup) (by decide)
        · exact Or.inl h.lose
      · rw [heq]
        obtain ⟨h, -⟩ | h := h
        · exact Or.inl ⟨v.dials + 1, Nat.lt_succ_self _, h.lose.dial hJ⟩
        · exact Or.inl (h.lose.dial hJ)
      · rw [heq]
        obtain ⟨h, hdown⟩ | h := h
        · refine Or.inr ⟨h.lose, fun hd => ⟨?_, e, rfl⟩⟩
          simp only [World.lose, hdown hd, Bool.false_and]
        · exact Or.inl h.lose
    · intro res
      cases res with
      | ok _ =>
        refine triple_done fun w h => ?_
        obtain h | ⟨h, hdown⟩ := h
        · exact Or.inl h
        · exact Or.inr ⟨h, fun hd => (hdown hd).2⟩
      | error e =>
        show Triple handle _ (if n = 0 then _ else _) _
        split_ifs
        · refine triple_done fun w h => ?_
          obtain h | ⟨h, -⟩ := h
          · exact Or.inl h
          · exact Or.inr ⟨h, fun _ => ⟨e, rfl⟩⟩
        · refine triple_call (M := fun _ w => At J v w ∧ (down = true → w.up .stream = false) ∨
            Dialed J v w) (fun r w h => ?_) fun _ => ih
          obtain h | ⟨h, hdown⟩ := h
          · exact Or.inr h.lose
          · refine Or.inl ⟨h.lose, fun hd => ?_⟩
            simp only [handle, answer, World.lose, (hdown hd).1, Bool.false_and]

theorem connectWithRetries_spec (down : Bool) (maxRetries delay : ℕ) : Triple handle
    (fun w => At J v w ∧ (down = true → w.up .stream = false))
    (connectWithRetries .stream maxRetries delay)
    fun res w => Dialed J v w ∨ At J v w ∧ (down = true → ∃ e, res = .error e) :=
  (connectAttempts_spec hJ down _ _).mono (fun _ h => Or.inl h) fun _ _ h => h

/-- Attempts to connect another socket tell nothing of loops. -/
theorem connectAttempts_other (hs : s ≠ .stream) (delay n : ℕ) :
    Triple handle (At J v) (connectAttempts s delay n) fun _ => At J v := by
  induction n with
  | zero => exact triple_done fun w h => h
  | succ n ih =>
    refine triple_call (M := fun _ => At J v) (fun r w h => h.connect_other hJ hs) fun res => ?_
    cases res with
    | ok _ => exact triple_done fun w h => h
    | error e =>
      show Triple handle _ (if n = 0 then _ else _) _
      split_ifs
      · exact triple_done fun w h => h
      · exact triple_call (M := fun _ => At J v) (fun r w h => h.lose) fun _ => ih

theorem connectWithRetries_other (hs : s ≠ .stream) (maxRetries delay : ℕ) :
    Triple handle (At J v) (connectWithRetries s maxRetries delay) fun _ => At J v :=
  connectAttempts_other hJ hs _ _

theorem request_spec :
    Triple handle (At J v) (ask (.request s method params timeout)) fun _ => At J v :=
  triple_ask fun _ _ h => h.request hJ

theorem loopSubscribe_spec {delivery : String} : Triple handle (At J v)
    (loopSubscribe .stream loopId delivery) fun res w =>
      (∃ id, res = .ok id) ∧ At J (v.subscribed loopId) w ∨ (∃ e, res = .error e) ∧ At J v w :=
  triple_ask fun _ _ h => h.subscribe hJ

omit hJ in
theorem mapError_spec {m : Method α} {f : Error → Error} {P : World → Prop}
    {Q : Except Error α → World → Prop} (h : Triple handle P m Q) :
    Triple handle P (m.mapError f) fun res w => ∃ res', Q res' w ∧ res = res'.mapError f :=
  h.bind fun res => triple_done fun _ hq => ⟨res, hq, rfl⟩

theorem request_mapError_spec {f : Error → Error} : Triple handle (At J v)
    (Method.mapError f (ask (.request s method params timeout))) fun _ => At J v :=
  (mapError_spec (request_spec hJ)).mono (fun _ h => h) fun _ _ ⟨_, h, _⟩ => h

/-- The loop of a bootstrap has a name. -/
theorem bootstrapLoopId_spec {opts : BootstrapOptions} : Triple handle (At J v)
    (bootstrapLoopId s opts timeout) fun res w => At J v w ∧ ∀ l, res = .ok l → l ≠ "" := by
  unfold bootstrapLoopId
  cases hres : opts.resumeLoopId.bind Text.nonBlank with
  | some l =>
    obtain ⟨id, -, hid⟩ := Option.bind_eq_some_iff.1 hres
    refine triple_done fun w h => ⟨h, fun l' hl => ?_⟩
    obtain rfl := Except.ok.inj hl
    unfold Text.nonBlank at hid
    split_ifs at hid with hne
    exact Option.some.inj hid ▸ hne
  | none =>
    refine (request_mapError_spec hJ).andThen (fun resp => ?_) fun e w h => ⟨h, fun l hl => ?_⟩
    · split_ifs with hne
      · refine triple_done fun w h => ⟨h, fun l hl => ?_⟩
        cases hl
      · refine triple_done fun w h => ⟨h, fun l hl => ?_⟩
        obtain rfl := Except.ok.inj hl
        exact hne
    · cases hl

/-- **Bootstrap.** It succeeds where it subscribed to the loop that it returns; where it fails, the
stream is subscribed as before. -/
theorem bootstrapLoopSession_spec {opts : BootstrapOptions} : Triple handle (At J v)
    (bootstrapLoopSession .stream opts timeout) fun res w =>
      (∃ l, l ≠ "" ∧ res = .ok (sessionReady l) ∧ At J (v.subscribed l) w) ∨
        (∃ e, res = .error e) ∧ At J v w := by
  refine (bootstrapLoopId_spec hJ).andThen (fun l => ?_) fun e w h => Or.inr ⟨⟨e, rfl⟩, h.1⟩
  by_cases hne : l = ""
  · exact triple_of_not fun w h => h.2 l rfl hne
  refine Triple.andThen ((mapError_spec (loopSubscribe_spec hJ)).mono (fun w h => h.1)
    fun _ _ h => h) (fun id => triple_done fun w h => ?_) fun e w h => ?_
  · obtain ⟨res, ⟨-, h⟩ | ⟨⟨e, rfl⟩, -⟩, heq⟩ := h
    · exact Or.inl ⟨l, hne, rfl, h⟩
    · cases heq
  · obtain ⟨res, ⟨⟨id, rfl⟩, -⟩ | ⟨-, h⟩, heq⟩ := h
    · cases heq
    · exact Or.inr ⟨⟨e, rfl⟩, h⟩

/-- **Reattach.** It succeeds where the stream is subscribed to the loop; where it fails, the stream
may be, too. -/
theorem reattachAndProbe_spec : Triple handle (At J v) (reattachAndProbe .stream loopId)
    fun res w => res = .ok () ∧ At J (v.subscribed loopId) w ∨
      (∃ e, res = .error e) ∧ (At J v w ∨ At J (v.subscribed loopId) w) := by
  refine (request_spec hJ).andThen (fun _ => ?_) fun e w h => Or.inr ⟨⟨e, rfl⟩, Or.inl h⟩
  refine (loopSubscribe_spec hJ).andThen (fun id => ?_) fun e w h => ?_
  · refine Triple.andThen (Q := fun _ => At J (v.subscribed loopId)) ?_ (fun _ => ?_)
      fun e w h => Or.inr ⟨⟨e, rfl⟩, Or.inr h⟩
    · refine (request_mapError_spec hJ).mono (fun w h => ?_) fun _ _ h => h
      obtain ⟨-, h⟩ | ⟨⟨e, he⟩, -⟩ := h
      · exact h
      · cases he
    · exact triple_done fun w h => Or.inl ⟨rfl, h⟩
  · obtain ⟨⟨id, hid⟩, -⟩ | ⟨-, h⟩ := h
    · cases hid
    · exact Or.inr ⟨⟨e, rfl⟩, Or.inl h⟩

end Calls

end SootheClient.Session.Lifecycle
