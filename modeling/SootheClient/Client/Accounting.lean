import SootheClient.Client.Mux
import SootheClient.Client.Routing
import SootheClient.Lib.Ledger
import SootheClient.Lib.Lts

/-!
# Accounting for routed frames

Every frame that is routed has one fate, every frame that is offered to the queue is in it or has
left it in one way, and every result of a waiter is that of a frame with its id.
-/

namespace SootheClient.Client

open SootheClient.Frame

namespace Mux

variable {m m' : Mux} {n : ℕ}

theorem noteOffer_none : m.noteOffer none = m := by
  simp [noteOffer]

/-- A step of a call is one of its reader, with what it offers and the fate that it gives. -/
theorem routeStep_eq_some : m.routeStep n = some m' ↔ (m.tasks.reader n).hand.isSome ∧
    ∃ w, m.tasks.readerStep n = some w ∧ m' =
      { m.noteOffer (m.offer n) with
        tasks := w
        fates := m.fates ++ ((m.fateOf n).map fun f => (⟨n, f.1, f.2⟩ : Outcome)).toList } := by
  unfold routeStep
  cases (m.tasks.reader n).hand with
  | none => simp
  | some f =>
    simp only [Option.isNone_some, Option.isSome_some, Bool.false_eq_true, if_false, true_and,
      Option.map_eq_some_iff]
    exact exists_congr fun w => and_congr_right fun _ => eq_comm

end Mux

/-! ## The queue -/

/-- The frame of an outcome, with the number of its call. -/
def Outcome.frame (o : Outcome) : ℕ × Json := (o.number, o.msg)

/-- The frames that left the queue otherwise than by a read. -/
def gone (peeled cleared dropped : List (ℕ × Json)) : Multiset (ℕ × Json) :=
  ↑peeled + ↑cleared + ↑dropped

/-- The outcomes with a fate. -/
def fated (fate : Fate) (fates : List Outcome) : List Outcome := fates.filter (·.fate = fate)

/-- The books of the queue. -/
structure Books (m : Mux) : Prop where
  balanced : Ledger.Balanced m.enqueued m.popped (gone m.peeled m.cleared m.dropped)
    m.tasks.shared.inbound
  counter : m.tasks.shared.inboundDropped = m.dropped.length
  offered : (m.enqueued : Multiset (ℕ × Json)) =
    ↑((fated .enqueued m.fates).map Outcome.frame) + ↑m.pushed

variable {m m' : Mux} {a : Act} {n : ℕ} {ev : ℕ × Json}

theorem enqueue_inboundDropped {s : Shared} : (s.enqueuePendingLocked ev).inboundDropped =
    s.inboundDropped + (s.lost ev).toList.length := by
  obtain ⟨q, b, heq, -⟩ := enqueue_eq s ev
  rw [heq]

theorem Mux.push_object (hev : ev.2.asObject?.isSome = true) : m.push ev =
    { (m.noteOffer (some ev)).setShared (m.tasks.shared.enqueuePendingLocked ev) with
      pushed := m.pushed ++ [ev] } := by
  unfold Mux.push Shared.pushPendingEvent
  rw [if_pos hev, if_pos hev]
  rfl

theorem Mux.push_other (hev : ev.2.asObject?.isSome = false) : m.push ev = m := by
  simp [Mux.push, Shared.pushPendingEvent, hev, Mux.noteOffer_none, Mux.setShared]

/-- The result that a waiter was given, with its id. -/
def Outcome.result (o : Outcome) : String × Except DaemonError Json :=
  (o.msg.getStrD "id", Shared.rpcResult o.msg)

/-- The fate that suits a frame. -/
def Fate.Fits : Fate → Json → Prop
  | .answered, msg => msg.getStr "type" = some "ping"
  | .absorbed, msg => msg.getStr "type" = some "pong"
  | .handed, msg => msg.getStrD "type" = "response" ∨ msg.getStrD "type" = "error"
  | .enqueued, _ => True

end SootheClient.Client
