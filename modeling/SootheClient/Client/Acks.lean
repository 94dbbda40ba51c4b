import SootheClient.Client.Queue
import SootheClient.Client.Routing
import SootheClient.Frame.LoopId

/-!
# Acknowledging a frame

What `route_inbound` does with one frame: whether it acknowledges a frame that ends a turn, and
whether the queue may then refuse a frame that was acknowledged.
-/

namespace SootheClient.Client

open SootheClient.Frame
open Json (Members)

variable {w w' : Tasks} {e seq : ℕ} {msg : Json} {rest : List Json} {L : String} {m : Members}

/-! ## Turn ends -/

/-- The reader takes the frame and then sends an acknowledgement for the loop. -/
def SendsAck (w : Tasks) (e : ℕ) (L : String) : Prop :=
  ∃ w' seq msg rest, w.readerStep e = some w' ∧ w'.reader e = .acking L seq msg rest ∧
    w'.readerStep e =
      some ((w'.sendRaw (.deliveryAck L seq)).2.setReader e (.dispatching msg rest))

theorem readerStep_routing (hpc : w.reader e = .routing (msg :: rest)) :
    w.readerStep e = some (w.route e msg rest) := by
  unfold Tasks.readerStep
  rw [hpc]

theorem readerStep_acking (hpc : w.reader e = .acking L seq msg rest) : w.readerStep e =
    some ((w.sendRaw (.deliveryAck L seq)).2.setReader e (.dispatching msg rest)) := by
  unfold Tasks.readerStep
  rw [hpc]

/-- A frame other than a ping or a pong is acknowledged for its loop, or goes on. -/
theorem route_eq (w : Tasks) (e : ℕ) (rest : List Json)
    (hping : msg.getStr "type" ≠ some "ping") (hpong : msg.getStr "type" ≠ some "pong") :
    w.route e msg rest =
      if inboundNeedsDeliveryAck msg ∧ extractLoopIdFromInbound msg ≠ "" then
        let bumped := w.shared.bumpDeliverySeq (extractLoopIdFromInbound msg)
        { w with shared := bumped.2 }.setReader e
          (.acking (extractLoopIdFromInbound msg) bumped.1 msg rest)
      else w.setReader e (.dispatching msg rest) := by
  unfold Tasks.route
  rw [if_neg hping, if_neg hpong]

theorem sendsAck_iff (hpc : w.reader e = .routing (msg :: rest))
    (hping : msg.getStr "type" ≠ some "ping") (hpong : msg.getStr "type" ≠ some "pong")
    (hne : L ≠ "") :
    SendsAck w e L ↔ inboundNeedsDeliveryAck msg = true ∧ extractLoopIdFromInbound msg = L := by
  constructor
  · rintro ⟨w', seq, msg', rest', hw', hacking, -⟩
    rw [readerStep_routing hpc, route_eq _ _ _ hping hpong] at hw'
    obtain rfl := Option.some.inj hw'
    by_cases hack : inboundNeedsDeliveryAck msg = true ∧ extractLoopIdFromInbound msg ≠ ""
    · rw [if_pos hack, Tasks.setReader_reader_self] at hacking
      obtain ⟨hid, -⟩ := ReaderPc.acking.inj hacking
      exact ⟨hack.1, hid⟩
    · rw [if_neg hack, Tasks.setReader_reader_self] at hacking
      cases hacking
  · rintro ⟨hack, rfl⟩
    have hroute := route_eq w e rest hping hpong
    rw [if_pos ⟨hack, hne⟩] at hroute
    have hacking := congrArg (fun w => w.reader e) hroute
    simp only [Tasks.setReader_reader_self] at hacking
    exact ⟨_, _, msg, rest, readerStep_routing hpc, hacking, readerStep_acking hacking⟩

/-- A frame that ends a turn is no ping and no pong. -/
theorem type_of_endsTurn (hend : endsTurn msg = true) :
    msg.getStr "type" ≠ some "ping" ∧ msg.getStr "type" ≠ some "pong" := by
  obtain ⟨m, rfl, h⟩ := endsTurn_cases hend
  have htype : valueAsStr (m.get "type") ∈ ["complete", "event", "next"] := by
    rcases h with ht | ⟨ht, -⟩ | ⟨ht, -⟩
    · rw [ht]
      decide
    · rw [ht]
      decide
    · rw [ht]
      decide
  refine ⟨fun hping => ?_, fun hpong => ?_⟩
  · rw [valueAsStr_of_getStr hping] at htype
    exact absurd htype (by decide)
  · rw [valueAsStr_of_getStr hpong] at htype
    exact absurd htype (by decide)

/-- **Turn ends are acknowledged.** When the reader takes a frame that ends a turn and whose loop
the application can tell, it acknowledges the frame for that loop exactly when the frame is
addressed to it. -/
theorem turn_end_acknowledged (w : Tasks) (e : ℕ) (msg : Json) (rest : List Json) (L : String)
    (hpc : w.reader e = .routing (msg :: rest)) (hend : endsTurn msg = true)
    (hL : extractSootheLoopId msg = some L) (hne : Text.trim L ≠ "") :
    SendsAck w e (Text.trim L) ↔ Addressed msg L := by
  obtain ⟨hping, hpong⟩ := type_of_endsTurn hend
  rw [sendsAck_iff hpc hping hpong hne]
  exact acknowledged_for_iff hend hL hne

/-- A `complete` frame of a loop. -/
def completeFrame (key loopId : String) : Json :=
  .obj [("type", .str "complete"), (key, .str loopId)]

/-- A client whose reader is about to route a frame. -/
def routingOne (msg : Json) : Tasks := ({} : Tasks).setReader 0 (.routing [msg])

theorem routingOne_reader : (routingOne msg).reader 0 = .routing [msg] :=
  Tasks.setReader_reader_self

theorem turn_end_acknowledged_complete :
    SendsAck (routingOne (completeFrame "loop_id" " loop-1")) 0 "loop-1" :=
  (turn_end_acknowledged _ 0 _ [] " loop-1" routingOne_reader (by decide) (by decide)
    (by decide)).2 ⟨_, rfl, (if_neg (by decide)).mpr (by decide)⟩

/-- The loop id in camel case is not acknowledged. -/
theorem turn_end_acknowledged_fails : ¬ ∀ (w : Tasks) (e : ℕ) (msg : Json) (rest : List Json)
    (L : String), w.reader e = .routing (msg :: rest) → endsTurn msg = true →
    extractSootheLoopId msg = some L → Text.trim L ≠ "" → SendsAck w e (Text.trim L) := by
  intro h
  have hack := h (routingOne (completeFrame "loopId" "loop-1")) 0 _ [] "loop-1" routingOne_reader
    (by decide) (by decide) (by decide)
  rw [sendsAck_iff routingOne_reader (by decide) (by decide) (by decide)] at hack
  exact absurd hack.2 (by decide)

/-! ## Acknowledged frames in a full queue -/

variable {s : Shared} {ev : ℕ × Json} {q : List (ℕ × Json)} {l : Option (ℕ × Json)}

/-- A critical frame is behind the frames that stay. -/
theorem Admission.of_critical (h : Admission s ev q l)
    (hp : dropPriority ev = DROP_PRIORITY_CRITICAL) :
    ∃ q', q'.Sublist s.inbound ∧ q = q' ++ [ev] := by
  cases h with
  | room => exact ⟨_, List.Sublist.refl _, rfl⟩
  | evict i => exact ⟨_, List.eraseIdx_sublist _ i, rfl⟩
  | refuse _ _ hnormal =>
    rw [hp] at hnormal
    exact absurd hnormal (by decide)
  | alone => exact ⟨[], List.nil_sublist _, rfl⟩
  | force f q hf =>
    rw [hf]
    exact ⟨q, List.sublist_cons_self f q, rfl⟩

/-- An empty queue that may hold nothing takes no normal frame in. -/
theorem Admission.of_normal (h : Admission s ev q l) (hnil : s.inbound = [])
    (hmax : s.maxInbound = 0) (hp : dropPriority ev = DROP_PRIORITY_NORMAL) : q = [] := by
  cases h with
  | room hroom =>
    rw [hmax] at hroom
    exact absurd hroom (Nat.not_lt_zero _)
  | evict i f _ hf =>
    rw [hnil] at hf
    cases hf
  | refuse => exact hnil
  | alone _ _ hlow => exact absurd hp hlow.ne
  | force f q hf =>
    rw [hnil] at hf
    cases hf

/-- **Acknowledged frames are kept.** An acknowledged frame has the critical priority unless it is
exposed; and then an acknowledged frame is in the queue after it was enqueued, whatever the queue
held. -/
theorem acknowledged_kept (m : Members) :
    ((inboundNeedsDeliveryAck (.obj m) = true →
        inboundFrameDropPriority (some m) = DROP_PRIORITY_CRITICAL) ↔ ¬ Exposed m) ∧
    (¬ Exposed m → inboundNeedsDeliveryAck (.obj m) = true →
      ∀ (s : Shared) (e : ℕ), ∃ q, q.Sublist s.inbound ∧
        (s.enqueuePendingLocked (e, .obj m)).inbound = q ++ [(e, .obj m)]) := by
  have hiff : (inboundNeedsDeliveryAck (.obj m) = true →
      inboundFrameDropPriority (some m) = DROP_PRIORITY_CRITICAL) ↔ ¬ Exposed m := by
    show (_ → objectDropPriority m = _) ↔ _
    rw [objectDropPriority_eq_critical, acknowledged_iff]
    constructor
    · intro h hx
      have hack := acknowledged_of_exposed hx
      exact (critical_of_acknowledged hack).1 (h hack) hx
    · exact fun hx hack => (critical_of_acknowledged hack).2 hx
  refine ⟨hiff, fun hx hack s e => ?_⟩
  obtain ⟨q, b, heq, hadm⟩ := enqueue_eq s (e, .obj m)
  rw [heq]
  exact hadm.of_critical (hiff.2 hx hack)

/-- The end of a stream, under no type. -/
def untypedEnd : Members :=
  [("mode", .str "custom"), ("data", .obj [("type", .str STREAM_END)])]

/-- A `next` frame in the mode of events. -/
def nextEvent (inner : Members) : Members :=
  [("type", .str "next"), ("payload", .obj [("mode", .str "event"), ("data", .obj inner)])]

theorem untypedEnd_priority :
    objectDropPriority (nextEvent untypedEnd) = DROP_PRIORITY_NORMAL := by
  have hnext : objectDropPriority (nextEvent untypedEnd) = objectDropPriority untypedEnd :=
    objectDropPriority_next rfl rfl rfl (by decide) (by decide)
  have htype : objectDropPriority untypedEnd = typeDropPriority untypedEnd "" :=
    objectDropPriority_of_type rfl (by decide)
  rw [hnext, htype]
  rfl

/-- The frame is acknowledged, and a queue with no room drops it. -/
theorem acknowledged_kept_fails : ¬ ∀ m : Members, inboundNeedsDeliveryAck (.obj m) = true →
    inboundFrameDropPriority (some m) = DROP_PRIORITY_CRITICAL ∧
      ∀ (s : Shared) (e : ℕ), (e, .obj m) ∈ (s.enqueuePendingLocked (e, .obj m)).inbound := by
  intro h
  have hin := (h (nextEvent untypedEnd) (by decide)).2 { maxInbound := 0 } 0
  obtain ⟨q, b, heq, hadm⟩ := enqueue_eq { maxInbound := 0 } (0, .obj (nextEvent untypedEnd))
  rw [heq, hadm.of_normal rfl rfl untypedEnd_priority] at hin
  cases hin

end SootheClient.Client
