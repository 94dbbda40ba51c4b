import SootheClient.Gate.Flight

/-!
# What a step of a flight does

`FlightStep` has one case for each label, with the place that the call is in and the state that the
step leaves.
-/

namespace SootheClient.Gate

open Function (update)

namespace Flight

variable {sid : String} {s t : Flight} {a : Label}

/-- What a step does. -/
inductive FlightStep (sid : String) (s : Flight) : Label → Flight → Prop
  | execute (i : ℕ) (hi : s.pc i = .idle) :
      FlightStep sid s (.execute i) (s.acquireStep sid i ⟨i, .run⟩ none .entering)
  | reserve (i : ℕ) (withSend : Bool) (hi : s.pc i = .idle) :
      FlightStep sid s (.reserve i withSend)
        (s.acquireStep sid i ⟨i, .reserve⟩ (if withSend then some ⟨i, .reserve⟩ else none)
          .reserved)
  | executeReserved (i : ℕ) (hi : s.pc i = .reserved) : FlightStep sid s (.executeReserved i)
      { s with pc := update s.pc i (if s.gate.isActive sid then .checked else .done .inactive) }
  | replaceCancel (i : ℕ) (hi : s.pc i = .checked) : FlightStep sid s (.replaceCancel i)
      { s with
        gate := s.gate.replaceCancel sid ⟨i, .run⟩
        pc := update s.pc i .entering
        cancelOf := update s.cancelOf i (some ⟨i, .run⟩) }
  | runTurn (i : ℕ) (hi : s.pc i = .entering) :
      FlightStep sid s (.runTurn i) { s with pc := update s.pc i .poolAcquire }
  | setSendCancel (i : ℕ) (hi : s.pc i = .poolAcquire) : FlightStep sid s (.setSendCancel i)
      { s with
        gate := s.gate.setSendCancel sid ⟨i, .run⟩
        pc := update s.pc i .registered
        sendOf := update s.sendOf i (some ⟨i, .run⟩) }
  | sendInput (i : ℕ) (hi : s.pc i = .registered) :
      FlightStep sid s (.sendInput i) { s with pc := update s.pc i .looping }
  | finish (i : ℕ) (r : Outcome) (hi : (s.pc i).live = true)
      (hr : r = .cancelled → s.pc i = .looping ∧ s.flag i = true) :
      FlightStep sid s (.finish i r) { s with pc := update s.pc i (.returned r) }
  | release (i : ℕ) (r : Outcome) (hi : s.pc i = .returned r) : FlightStep sid s (.release i)
      { s with gate := s.gate.release sid, pc := update s.pc i (.done r), owner := none }
  | cancel (j : ℕ) (hj : s.cancelPc j = .idle) :
      FlightStep sid s (.cancel j) (s.cancelStep sid j)
  | sendCancel (j : ℕ) (c : Option Token) (d : Token) (hj : s.cancelPc j = .taken c d) :
      FlightStep sid s (.sendCancel j)
        { s with cancelPc := update s.cancelPc j (.sending c d), sends := s.sends ++ [(j, d)] }
  | sendDone (j : ℕ) (c : Option Token) (d : Token) (hj : s.cancelPc j = .sending c d) :
      FlightStep sid s (.sendDone j) { s with cancelPc := update s.cancelPc j (.callback c) }
  | localCancel (j : ℕ) (c : Option Token) (hj : s.cancelPc j = .callback c) :
      FlightStep sid s (.localCancel j) (s.localStep j c)

/-- **Steps.** -/
theorem step_inv (ht : step sid s a = some t) : FlightStep sid s a t := by
  cases a with
  | execute i =>
    simp only [step, Option.ite_none_right_eq_some, Option.some.injEq] at ht
    obtain ⟨hi, rfl⟩ := ht
    exact .execute i hi
  | reserve i withSend =>
    simp only [step, Option.ite_none_right_eq_some, Option.some.injEq] at ht
    obtain ⟨hi, rfl⟩ := ht
    exact .reserve i withSend hi
  | executeReserved i =>
    simp only [step, Option.ite_none_right_eq_some, Option.some.injEq] at ht
    obtain ⟨hi, rfl⟩ := ht
    exact .executeReserved i hi
  | replaceCancel i =>
    simp only [step, Option.ite_none_right_eq_some, Option.some.injEq] at ht
    obtain ⟨hi, rfl⟩ := ht
    exact .replaceCancel i hi
  | runTurn i =>
    simp only [step, Option.ite_none_right_eq_some, Option.some.injEq] at ht
    obtain ⟨hi, rfl⟩ := ht
    exact .runTurn i hi
  | setSendCancel i =>
    simp only [step, Option.ite_none_right_eq_some, Option.some.injEq] at ht
    obtain ⟨hi, rfl⟩ := ht
    exact .setSendCancel i hi
  | sendInput i =>
    simp only [step, Option.ite_none_right_eq_some, Option.some.injEq] at ht
    obtain ⟨hi, rfl⟩ := ht
    exact .sendInput i hi
  | finish i r =>
    simp only [step, Option.ite_none_right_eq_some, Option.some.injEq] at ht
    obtain ⟨⟨hi, hr⟩, rfl⟩ := ht
    exact .finish i r hi hr
  | release i =>
    simp only [step] at ht
    split at ht
    · rename_i r hi
      obtain rfl := Option.some.inj ht
      exact .release i r hi
    · cases ht
  | cancel j =>
    simp only [step, Option.ite_none_right_eq_some, Option.some.injEq] at ht
    obtain ⟨hj, rfl⟩ := ht
    exact .cancel j hj
  | sendCancel j =>
    simp only [step] at ht
    split at ht
    · rename_i c d hj
      obtain rfl := Option.some.inj ht
      exact .sendCancel j c d hj
    · cases ht
  | sendDone j =>
    simp only [step] at ht
    split at ht
    · rename_i c d hj
      obtain rfl := Option.some.inj ht
      exact .sendDone j c d hj
    · cases ht
  | localCancel j =>
    simp only [step] at ht
    split at ht
    · rename_i c hj
      obtain rfl := Option.some.inj ht
      exact .localCancel j c hj
    · cases ht

end Flight

end SootheClient.Gate
