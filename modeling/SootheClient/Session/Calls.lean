import Mathlib.Logic.Function.Basic
import SootheClient.Client.Shared
import SootheClient.Lib.Latest
import SootheClient.Lib.Members
import SootheClient.Lib.Script

/-!
# The calls of a session

What the methods of a session do to the daemon and to their own fields is a script of calls. The
world knows for each socket whether its connection is up, and logs what was sent; the environment
decides what the daemon answers and when a connection is lost.
-/

namespace SootheClient.Session.Lifecycle

open SootheClient.Client (DaemonError)
open Json (Members)

/-! ## Errors -/

/-- The errors that sessions see. -/
inductive Error where
  | connection (url : String) (attempt : ℕ) (source : String)
  | daemon (err : DaemonError)
  | timeout (operation duration : String)
  /-- Reattach was accepted, but the probe failed. -/
  | staleLoop (loopId : String) (source : Error)
  | protocol (text : String)
  | message (text : String)

def Error.display : Error → String
  | .connection url attempt source =>
    s!"connection error to {url} (attempt {attempt}): {source}"
  | .daemon err => s!"daemon error [{err.code}]: {err.message}"
  | .timeout operation duration => s!"timeout after {duration} waiting for {operation}"
  | .staleLoop loopId _ =>
    s!"stale loop {loopId}: reattach accepted but liveness probe failed"
  | .protocol text | .message text => text

/-! ## Calls -/

/-- The stream socket of a session, its sidecar, and the socket of a one-shot. -/
inductive Socket where
  | stream
  | rpc
  | own
  deriving DecidableEq, Repr

/-- A call, with the type of its answer; durations are in nanoseconds. -/
inductive Call : Type → Type where
  | connect (s : Socket) : Call (Except Error Unit)
  | request (s : Socket) (method : String) (params : Members) (timeout : ℕ) :
    Call (Except Error Members)
  | subscribe (s : Socket) (method : String) (params : Members) (timeout : ℕ) :
    Call (Except Error String)
  | notify (s : Socket) (method : String) (params : Members) : Call (Except Error Unit)
  | close (s : Socket) : Call Unit
  | isConnectionAlive (s : Socket) : Call Bool
  | isConnected (s : Socket) : Call Bool
  | sleep (duration : ℕ) : Call Unit
  | loopId : Call String
  | setLoopId (loopId : String) : Call Unit
  | rpcConnected : Call Bool
  | setRpcConnected (b : Bool) : Call Unit

/-- What was done on a socket; `ok` says whether it succeeded. -/
inductive Traffic where
  | dial
  | request (method : String) (params : Members) (ok : Bool)
  | subscribe (method : String) (params : Members) (ok : Bool)
  | notify (method : String) (params : Members) (ok : Bool)
  | close
  /-- A status frame of a turn named the loop of a session that had none. -/
  | adopt (loopId : String)

abbrev Entry := Socket × Traffic

/-- What the environment gives to a call. -/
structure Reply where
  /-- The sockets whose connection is lost before the call. -/
  lost : List Socket := []
  /-- A connection attempt that fails dialed, and failed in its handshake. -/
  dialed : Bool := false
  result : Except Error Json := .ok .null

structure World where
  /-- The connection of the socket is up. -/
  up : Socket → Bool := fun _ => false
  loopId : String := ""
  rpcConnected : Bool := false
  log : List Entry := []

namespace World

variable (w : World)

def lose (sockets : List Socket) : World := { w with up := fun s => w.up s && !sockets.contains s }

def note (s : Socket) (t : Traffic) : World := { w with log := w.log ++ [(s, t)] }

def dial (s : Socket) : World :=
  { w with up := Function.update w.up s true }.note s .dial

def hangUp (s : Socket) : World :=
  { w with up := Function.update w.up s false }.note s .close

@[simp] theorem dial_up {s : Socket} : (w.dial s).up s = true := by
  simp only [dial, note, Function.update_self]

@[simp] theorem hangUp_up {s : Socket} : (w.hangUp s).up s = false := by
  simp only [hangUp, note, Function.update_self]

end World

/-- `send_raw` without a sender. -/
def notConnected : Error := .protocol "not connected"

/-- The result of a request: one that is no object is wrapped. -/
def resultMembers : Json → Members
  | .obj m => m
  | other => [("result", other)]

/-- The call on a world that has lost what it loses. -/
def answer {β : Type} : Call β → Reply → World → β × World
  | .connect s, r, w =>
    if w.up s then (.ok (), w)
    else
      match r.result with
      | .ok _ => (.ok (), w.dial s)
      | .error e => (.error e, if r.dialed then w.dial s else w)
  | .request s method params _, r, w =>
    if w.up s then (r.result.map resultMembers, w.note s (.request method params r.result.isOk))
    else (.error notConnected, w)
  | .subscribe s method params _, r, w =>
    if w.up s then
      (r.result.map fun v => v.asStr?.getD "", w.note s (.subscribe method params r.result.isOk))
    else (.error notConnected, w)
  | .notify s method params, r, w =>
    if w.up s then (r.result.map fun _ => (), w.note s (.notify method params r.result.isOk))
    else (.error notConnected, w)
  | .close s, _, w => ((), w.hangUp s)
  | .isConnectionAlive s, _, w => (w.up s, w)
  | .isConnected s, _, w => (w.up s, w)
  | .sleep _, _, w => ((), w)
  | .loopId, _, w => (w.loopId, w)
  | .setLoopId loopId, _, w => ((), { w with loopId := loopId })
  | .rpcConnected, _, w => (w.rpcConnected, w)
  | .setRpcConnected b, _, w => ((), { w with rpcConnected := b })

/-- What a call answers and does. -/
def handle {β : Type} (c : Call β) (r : Reply) (w : World) : β × World :=
  answer c r (w.lose r.lost)

/-- A method: a script that returns a value or an error. -/
abbrev Method (α : Type) := Script Call (Except Error α)

namespace Method

variable {α β : Type}

def ok (a : α) : Method α := .done (.ok a)

def fail (e : Error) : Method α := .done (.error e)

/-- `map_err`. -/
def mapError (f : Error → Error) (s : Method α) : Method α := s.bind fun r => .done (r.mapError f)

end Method

end SootheClient.Session.Lifecycle
