import Mathlib.Logic.Function.Basic
import SootheClient.Lib.Lts
import SootheClient.Lib.Text
import SootheClient.Pool.Store

/-!
# The connection pool

`PoolState` is what the pool's mutex guards, with one operation for each critical section. Over it
any number of `acquire`, `release` and `reset_session` calls run: a label is the code of one call
up to its next await. What the network does (drops, `connect`, `reattach_and_probe`, bootstrap) is
an argument of the label.

`PooledConn.call` is ghost: the call that built the connection stands for the identity of its
`Arc`. `torn` is ghost too: the call that took a connection out of the active slots.
-/

namespace SootheClient

open Function (update)

/-- The number of entries of a map. -/
def StrMap.size {β : Type*} (m : StrMap β) : ℕ := m.keys.length

namespace Pool

/-- Pool configuration; the idle time is in nanoseconds. -/
structure PoolConfig where
  poolSize : ℕ := 1000
  maxIdleTime : ℕ := 600 * 10 ^ 9
  deriving DecidableEq, Repr

/-- One connection slot in the pool. -/
structure PooledConn (Cl : Type*) where
  call : ℕ
  slotId : UInt32
  sessionId : String
  loopId : String
  workspaceId : String
  client : Cl

/-- A slot waiting in the pool's channel. -/
structure IdleSlot (Cl : Type*) where
  client : Cl

/-- What the pool's mutex guards. -/
structure PoolState (Cl : Type*) where
  activeSlots : StrMap (PooledConn Cl)
  nextSlotId : UInt32
  idle : List (IdleSlot Cl)
  idleCount : ℕ

/-- A pool without its state. -/
structure ConnectionPool (Cl σ : Type*) where
  daemonUrl : String
  store : LoopSessionStore σ
  cfg : PoolConfig
  factory : String → Cl

/-- Why an `acquire` fails. -/
inductive AcquireError where
  | exhausted
  | connect (e : String)
  | bootstrapNew (e : String)
  | connectAfterReattach (e : String)
  | bootstrapAfterReattach (e : String)
  deriving DecidableEq, Repr

/-- The text of the error. -/
def AcquireError.message : AcquireError → String
  | .exhausted => "appkit: connection pool exhausted"
  | .connect e => "connect: " ++ e
  | .bootstrapNew e => "bootstrap new loop: " ++ e
  | .connectAfterReattach e => "connect after reattach fail: " ++ e
  | .bootstrapAfterReattach e => "bootstrap after reattach fail: " ++ e

section Critical

variable {Cl σ : Type*}

/-- The pool of `ConnectionPool::new`: a size of 0 means the default one. -/
def ConnectionPool.new (daemonUrl : String) (store : LoopSessionStore σ) (cfg : PoolConfig)
    (factory : String → Cl) : ConnectionPool Cl σ where
  daemonUrl := daemonUrl
  store := store
  cfg := { cfg with
    poolSize := if cfg.poolSize = 0 then ({} : PoolConfig).poolSize else cfg.poolSize }
  factory := factory

/-- The state of a new pool: every slot is idle. -/
def ConnectionPool.initState (P : ConnectionPool Cl σ) : PoolState Cl where
  activeSlots := ∅
  nextSlotId := 1
  idle := List.replicate P.cfg.poolSize ⟨P.factory P.daemonUrl⟩
  idleCount := P.cfg.poolSize

namespace PoolState

variable (st : PoolState Cl) (sid : String)

/-- Take an idle slot, when there is one. -/
def tryRecv : Option (IdleSlot Cl × PoolState Cl) :=
  match st.idle with
  | [] => none
  | slot :: rest => some (slot, { st with idle := rest, idleCount := st.idleCount - 1 })

/-- Put a slot back; a channel that is full refuses it. -/
def trySend (capacity : ℕ) (slot : IdleSlot Cl) : PoolState Cl :=
  if st.idle.length < capacity then
    { st with idle := st.idle ++ [slot], idleCount := st.idleCount + 1 }
  else st

def insert (c : PooledConn Cl) : PoolState Cl :=
  { st with activeSlots := st.activeSlots.insert sid c }

def remove : PoolState Cl := { st with activeSlots := st.activeSlots.erase sid }

end PoolState

/-- The stored loop of a session, when it has one to resume. -/
def ConnectionPool.loopIdFor (P : ConnectionPool Cl σ) (st : σ) (sid : String) : String × Bool :=
  match P.store.getLoopIdForSession st sid with
  | none => ("", false)
  | some loopId =>
    let loopId := Text.trim loopId
    if loopId.isEmpty || Text.startsWith loopId "pending-" then ("", false) else (loopId, true)

end Critical

/-- The arguments of an `acquire`. -/
structure Args where
  sessionId : String := ""
  workspaceId : String := ""
  userId : String := ""

/-- Where a `release` goes on. -/
inductive After where
  /-- It was called as such, or by `reset_session`. -/
  | returned
  /-- `acquire` released a dead or stale connection and pulls a slot next. -/
  | pull
  /-- `acquire` returns the error. -/
  | fail (e : AcquireError)

/-- Where a call is. -/
inductive Pc (Cl : Type*) where
  | idle
  /-- `active_slots.get`. -/
  | lookup
  /-- The found connection is checked. -/
  | check (c : PooledConn Cl)
  /-- It is live: `update_last_used`, then it is returned. -/
  | touch (c : PooledConn Cl)
  /-- `release`: `active_slots.remove`. -/
  | remove (k : After)
  /-- `release`: the reader is aborted and the client closed. -/
  | closing (c : PooledConn Cl) (k : After)
  /-- `release`: the fresh slot. -/
  | giveBack (k : After)
  /-- `idle_rx.try_recv`. -/
  | pull
  /-- The slot id, and the connection is built. -/
  | assign (slot : IdleSlot Cl)
  | loopIdFor (c : PooledConn Cl)
  /-- `client.connect`; `fresh` when the session had no stored loop. -/
  | connect (c : PooledConn Cl) (fresh : Bool)
  /-- `bootstrap_new`. -/
  | bootstrap (c : PooledConn Cl) (fresh : Bool)
  /-- `resume_and_reattach`. -/
  | resume (c : PooledConn Cl) (loopId : String)
  /-- `persist_new_session`: `get_session`. -/
  | persist (c : PooledConn Cl) (loopId : String)
  /-- `persist_new_session`: `create_session` or `set_loop_id`. -/
  | write (c : PooledConn Cl) (loopId : String) (exists_ : Bool)
  /-- `update_last_used`. -/
  | finish (c : PooledConn Cl) (loopId : String)
  /-- `active_slots.insert`; `acquire` returns without another await. -/
  | insert (c : PooledConn Cl)
  /-- `acquire` returned. -/
  | done (r : Except AcquireError (PooledConn Cl))
  /-- `release` returned. -/
  | released

def After.pc {Cl : Type*} : After → Pc Cl
  | .returned => .released
  | .pull => .pull
  | .fail e => .done (.error e)

/-- The pool with all calls on it. -/
structure System (Cl σ : Type*) where
  state : PoolState Cl
  store : σ
  /-- `release` dropped the connection's event stream. -/
  closed : ℕ → Bool
  args : ℕ → Args
  pc : ℕ → Pc Cl
  torn : ℕ → Option ℕ

inductive Label where
  | acquire (i : ℕ) (args : Args)
  /-- `release`, or `reset_session`, which only calls it. -/
  | release (i : ℕ) (sid : String)
  /-- Code whose course the pool and the store decide. -/
  | next (i : ℕ)
  /-- The check of an active connection: did it drop, and how long ago was it last used. -/
  | check (i : ℕ) (dropped : Bool) (elapsed : ℕ)
  | connect (i : ℕ) (r : Except String Unit)
  | bootstrap (i : ℕ) (r : Except String String)
  | resume (i : ℕ) (ok : Bool)

/-- The call that a label is a step of. -/
def Label.call : Label → ℕ
  | .acquire i _ | .release i _ | .next i | .check i _ _ | .connect i _ | .bootstrap i _
  | .resume i _ => i

namespace System

variable {Cl σ : Type*} (P : ConnectionPool Cl σ) (s : System Cl σ)

/-- No call was made yet. -/
def init (store : σ) : System Cl σ where
  state := P.initState
  store := store
  closed _ := false
  args _ := {}
  pc _ := .idle
  torn _ := none

def goto (i : ℕ) (p : Pc Cl) : System Cl σ := { s with pc := update s.pc i p }

/-- The session id of a call. -/
def sid (i : ℕ) : String := (s.args i).sessionId

/-- After the lookup of an active connection. -/
def lookupPc (i : ℕ) : Pc Cl :=
  match s.state.activeSlots.lookup (s.sid i) with
  | some c => .check c
  | none => .pull

/-- After the lookup of the stored loop. -/
def loopPc (i : ℕ) (c : PooledConn Cl) : Pc Cl :=
  let (storedLoopId, hasLoop) := P.loopIdFor s.store (s.sid i)
  if !hasLoop || storedLoopId.isEmpty then .connect c true else .resume c storedLoopId

/-- The critical section that starts a `release`. -/
def removeStep (i : ℕ) (k : After) : System Cl σ :=
  match s.state.activeSlots.lookup (s.sid i) with
  | none => s.goto i k.pc
  | some c =>
    { s with
      state := s.state.remove (s.sid i)
      pc := update s.pc i (.closing c k)
      torn := update s.torn c.call (some i) }

/-- A slot is pulled from the channel. -/
def pullStep (i : ℕ) : System Cl σ :=
  match s.state.tryRecv with
  | none => s.goto i (.done (.error .exhausted))
  | some (slot, st) => { s with state := st, pc := update s.pc i (.assign slot) }

/-- The slot id is drawn and the connection built. -/
def assignStep (i : ℕ) (slot : IdleSlot Cl) : System Cl σ :=
  { s with
    state := { s.state with nextSlotId := s.state.nextSlotId + 1 }
    pc := update s.pc i (.loopIdFor
      { call := i
        slotId := s.state.nextSlotId
        sessionId := s.sid i
        loopId := ""
        workspaceId := (s.args i).workspaceId
        client := slot.client }) }

/-- What `persist_new_session` writes. -/
def writeStep (i : ℕ) (loopId : String) (exists_ : Bool) : σ :=
  if exists_ then P.store.setLoopId s.store (s.sid i) loopId
  else P.store.createSession s.store
    { sessionId := s.sid i
      workspaceId := (s.args i).workspaceId
      userId := (s.args i).userId
      loopId := some loopId }

/-- The steps of a call that need no answer from outside. -/
def next (i : ℕ) : Option (System Cl σ) :=
  match s.pc i with
  | .lookup => some (s.goto i (s.lookupPc i))
  | .touch c =>
    some { s.goto i (.done (.ok c)) with store := P.store.updateLastUsed s.store (s.sid i) }
  | .remove k => some (s.removeStep i k)
  | .closing c k => some { s.goto i (.giveBack k) with closed := update s.closed c.call true }
  | .giveBack k =>
    some { s.goto i k.pc with
      state := s.state.trySend P.cfg.poolSize ⟨P.factory P.daemonUrl⟩ }
  | .pull => some (s.pullStep i)
  | .assign slot => some (s.assignStep i slot)
  | .loopIdFor c => some (s.goto i (s.loopPc P i c))
  | .persist c loopId =>
    some (s.goto i (.write c loopId (P.store.getSession s.store (s.sid i)).isSome))
  | .write c loopId exists_ =>
    some { s.goto i (.finish c loopId) with store := s.writeStep P i loopId exists_ }
  | .finish c loopId =>
    some { s.goto i (.insert { c with loopId := loopId }) with
      store := P.store.updateLastUsed s.store (s.sid i) }
  | .insert c => some { s.goto i (.done (.ok c)) with state := s.state.insert (s.sid i) c }
  | _ => none

/-- After the check of an active connection. -/
def checkPc (c : PooledConn Cl) (dropped : Bool) (elapsed : ℕ) : Pc Cl :=
  if dropped || s.closed c.call then .remove .pull
  else if 0 < P.cfg.maxIdleTime ∧ P.cfg.maxIdleTime < elapsed then .remove .pull
  else .touch c

/-- After `client.connect`. -/
def connectPc (c : PooledConn Cl) (fresh : Bool) : Except String Unit → Pc Cl
  | .ok () => .bootstrap c fresh
  | .error e =>
    if fresh then .done (.error (.connect e)) else .remove (.fail (.connectAfterReattach e))

/-- After `bootstrap_new`. -/
def bootstrapPc (c : PooledConn Cl) (fresh : Bool) : Except String String → Pc Cl
  | .ok loopId => .persist c loopId
  | .error e => .remove (.fail (if fresh then .bootstrapNew e else .bootstrapAfterReattach e))

/-- One step of one call. -/
def step : Label → Option (System Cl σ)
  | .acquire i args =>
    match s.pc i with
    | .idle => some { s.goto i .lookup with args := update s.args i args }
    | _ => none
  | .release i sid =>
    match s.pc i with
    | .idle =>
      some { s.goto i (.remove .returned) with args := update s.args i { sessionId := sid } }
    | _ => none
  | .next i => s.next P i
  | .check i dropped elapsed =>
    match s.pc i with
    | .check c => some (s.goto i (s.checkPc P c dropped elapsed))
    | _ => none
  | .connect i r =>
    match s.pc i with
    | .connect c fresh => some (s.goto i (connectPc c fresh r))
    | _ => none
  | .bootstrap i r =>
    match s.pc i with
    | .bootstrap c fresh => some (s.goto i (bootstrapPc c fresh r))
    | _ => none
  | .resume i ok =>
    match s.pc i with
    | .resume c loopId => some (s.goto i (if ok then .finish c loopId else .connect c false))
    | _ => none

end System

end Pool

end SootheClient
