import SootheClient.Client.Tasks

/-!
# Steps of a reader

All that a step of a reader task can do, with the shared state that it leaves.
-/

namespace SootheClient.Client

open SootheClient.Frame

variable {w w' : Tasks} {e : ℕ} {msg : Json} {s s' : Shared}

/-- A frame that finds its waiter is a reply with the waiter's id. -/
theorem takeWaiter_eq_some : s.takeWaiter msg = some s' ↔
    (msg.getStrD "type" = "response" ∨ msg.getStrD "type" = "error") ∧ msg.getStrD "id" ≠ "" ∧
      msg.getStrD "id" ∈ s.rpcWaiters ∧
        s' = { s with
          rpcWaiters := s.rpcWaiters.filter (· != msg.getStrD "id")
          settled := s.settled ++ [(msg.getStrD "id", Shared.rpcResult msg)] } := by
  unfold Shared.takeWaiter
  simp only
  constructor
  · intro h
    split_ifs at h with hc
    exact ⟨hc.1, hc.2.1, hc.2.2, (Option.some.inj h).symm⟩
  · rintro ⟨htype, hid, hin, rfl⟩
    rw [if_pos ⟨htype, hid, hin⟩]

/-- What a step of the reader `e` does. -/
inductive ReaderStep (w : Tasks) (e : ℕ) : Tasks → Prop
  /-- The message is through. -/
  | turn (hpc : w.reader e = .routing []) : ReaderStep w e (w.setReader e .reading)
  /-- A ping is answered, a pong absorbed. -/
  | settle (msg : Json) (rest : List Json) (sent : List (ℕ × Outgoing))
      (hpc : w.reader e = .routing (msg :: rest))
      (htype : msg.getStr "type" = some "ping" ∨ msg.getStr "type" = some "pong") :
      ReaderStep w e ({ w with sent := sent }.setReader e (.routing rest))
  /-- The frame is to be acknowledged, or not. -/
  | route (msg : Json) (rest : List Json) (pc : ReaderPc) (seqs : List (String × ℕ))
      (hpc : w.reader e = .routing (msg :: rest)) (hping : msg.getStr "type" ≠ some "ping")
      (hpong : msg.getStr "type" ≠ some "pong")
      (hnext : pc = .dispatching msg rest ∨ ∃ loopId seq, pc = .acking loopId seq msg rest) :
      ReaderStep w e ({ w with shared := { w.shared with deliverySeq := seqs } }.setReader e pc)
  | ack (loopId : String) (seq : ℕ) (msg : Json) (rest : List Json) (sent : List (ℕ × Outgoing))
      (hpc : w.reader e = .acking loopId seq msg rest) :
      ReaderStep w e ({ w with sent := sent }.setReader e (.dispatching msg rest))
  /-- The frame is handed to its waiter. -/
  | hand (msg : Json) (rest : List Json) (s : Shared) (hpc : w.reader e = .dispatching msg rest)
      (hs : w.shared.takeWaiter msg = some s) :
      ReaderStep w e ({ w with shared := s }.setReader e (.routing rest))
  /-- The frame has no waiter. -/
  | miss (msg : Json) (rest : List Json) (hpc : w.reader e = .dispatching msg rest)
      (hs : w.shared.takeWaiter msg = none) :
      ReaderStep w e (w.setReader e (.enqueueing msg rest))
  | enqueue (msg : Json) (rest : List Json) (hpc : w.reader e = .enqueueing msg rest) :
      ReaderStep w e
        ({ w with shared := w.shared.enqueuePendingLocked (e, msg) }.setReader e (.routing rest))
  /-- An update of `mark_disconnected`. -/
  | mark (u : Update) (rest : List Update) (hpc : w.reader e = .marking (u :: rest)) :
      ReaderStep w e ({ w with shared := w.shared.update u }.setReader e (.marking rest))

/-- **Reader steps.** -/
theorem readerStep_inv (h : w.readerStep e = some w') : ReaderStep w e w' := by
  unfold Tasks.readerStep at h
  generalize hpc : w.reader e = pc at h
  cases pc with
  | unspawned | reading => cases h
  | routing msgs =>
    cases msgs with
    | nil =>
      obtain rfl := Option.some.inj h
      exact .turn hpc
    | cons msg rest =>
      obtain rfl := Option.some.inj h
      unfold Tasks.route
      by_cases hping : msg.getStr "type" = some "ping"
      · obtain ⟨sent, hs⟩ := Tasks.sendRaw_eq (w := w) (m := .pong)
        rw [if_pos hping, hs]
        exact .settle msg rest sent hpc (Or.inl hping)
      by_cases hpong : msg.getStr "type" = some "pong"
      · rw [if_neg hping, if_pos hpong]
        exact .settle msg rest w.sent hpc (Or.inr hpong)
      rw [if_neg hping, if_neg hpong]
      simp only
      split_ifs
      · exact .route msg rest (.acking _ _ msg rest) _ hpc hping hpong (Or.inr ⟨_, _, rfl⟩)
      · exact .route msg rest _ w.shared.deliverySeq hpc hping hpong (Or.inl rfl)
  | acking loopId seq msg rest =>
    obtain ⟨sent, hs⟩ := Tasks.sendRaw_eq (w := w) (m := .deliveryAck loopId seq)
    simp only [hs] at h
    obtain rfl := Option.some.inj h
    exact .ack loopId seq msg rest sent hpc
  | dispatching msg rest =>
    simp only at h
    cases ht : w.shared.takeWaiter msg with
    | none =>
      rw [ht] at h
      obtain rfl := Option.some.inj h
      exact .miss msg rest hpc ht
    | some s =>
      rw [ht] at h
      obtain rfl := Option.some.inj h
      exact .hand msg rest s hpc ht
  | enqueueing msg rest =>
    obtain rfl := Option.some.inj h
    exact .enqueue msg rest hpc
  | marking rest =>
    cases rest with
    | nil => cases h
    | cons u rest =>
      obtain rfl := Option.some.inj h
      exact .mark u rest hpc

end SootheClient.Client
