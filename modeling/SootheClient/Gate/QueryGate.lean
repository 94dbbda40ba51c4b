import Mathlib.Data.List.AList

/-!
# The query gate

`QueryGate` keeps, for every app key, the local cancel callback of the query in flight and the
sender of its daemon cancel. Each operation below is one critical section of its mutex. `cancel`
is the exception: its critical section is `takeCancel`, and what it runs afterwards is in the
system of `SootheClient.Gate.Flight`.
-/

namespace SootheClient

/-- A hash map keyed by strings. -/
abbrev StrMap (β : Type*) := AList (fun _ : String => β)

/-- Returned when an app key already has an in-flight query. -/
structure ErrQueryBusy where
  deriving DecidableEq, Repr

/-- The gate's two maps, for local cancel callbacks `C` and daemon-cancel senders `D`. -/
structure QueryGate (C D : Type*) where
  cancels : StrMap C
  sendCancels : StrMap D

namespace QueryGate

variable {C D : Type*} (g : QueryGate C D) (appKey : String)

/-- An empty gate. -/
def new : QueryGate C D := ⟨∅, ∅⟩

/-- Whether a query is in flight for `appKey`. -/
def isActive : Bool := (g.cancels.lookup appKey).isSome

/-- Reserve `appKey`; a sender is recorded only when one is given. -/
def acquire (cancel : C) (sendCancel : Option D) : Except ErrQueryBusy (QueryGate C D) :=
  if g.isActive appKey then .error {}
  else .ok
    { cancels := g.cancels.insert appKey cancel
      sendCancels :=
        match sendCancel with
        | some send => g.sendCancels.insert appKey send
        | none => g.sendCancels }

/-- The critical section of `cancel`: both entries of the key are taken out. -/
def takeCancel : (Option C × Option D) × QueryGate C D :=
  ((g.cancels.lookup appKey, g.sendCancels.lookup appKey),
    { cancels := g.cancels.erase appKey, sendCancels := g.sendCancels.erase appKey })

/-- Clear the key without a daemon cancel. -/
def release : QueryGate C D :=
  { cancels := g.cancels.erase appKey, sendCancels := g.sendCancels.erase appKey }

/-- Update the daemon-cancel sender of a reserved key. -/
def setSendCancel (sendCancel : D) : QueryGate C D :=
  if g.isActive appKey then { g with sendCancels := g.sendCancels.insert appKey sendCancel }
  else g

/-- Update the local cancel callback of a reserved key. -/
def replaceCancel (cancel : C) : QueryGate C D :=
  if g.isActive appKey then { g with cancels := g.cancels.insert appKey cancel } else g

variable {g appKey} {g' : QueryGate C D} {c : C} {d : D} {d? : Option D}

theorem isActive_iff : g.isActive appKey = true ↔ ∃ c, g.cancels.lookup appKey = some c :=
  Option.isSome_iff_exists

theorem isActive_eq_false : g.isActive appKey = false ↔ g.cancels.lookup appKey = none := by
  simp [isActive]

/-- What a successful `acquire` does: the key was free, and it now holds what was given. -/
theorem acquire_spec (h : g.acquire appKey c d? = .ok g') :
    g.isActive appKey = false ∧ g'.cancels.lookup appKey = some c ∧
      g'.sendCancels.lookup appKey = d?.or (g.sendCancels.lookup appKey) := by
  unfold acquire at h
  split_ifs at h with hb
  obtain rfl := Except.ok.inj h
  refine ⟨by simpa using hb, AList.lookup_insert _, ?_⟩
  cases d? with
  | none => rfl
  | some d => exact AList.lookup_insert _

theorem acquire_of_inactive (h : g.isActive appKey = false) (c : C) (d? : Option D) :
    ∃ g', g.acquire appKey c d? = .ok g' := by
  unfold acquire
  rw [if_neg (by simp [h])]
  exact ⟨_, rfl⟩

@[simp] theorem takeCancel_fst :
    (g.takeCancel appKey).1 = (g.cancels.lookup appKey, g.sendCancels.lookup appKey) := rfl

@[simp] theorem takeCancel_cancels : (g.takeCancel appKey).2.cancels.lookup appKey = none :=
  AList.lookup_erase _ _

@[simp] theorem takeCancel_sendCancels :
    (g.takeCancel appKey).2.sendCancels.lookup appKey = none :=
  AList.lookup_erase _ _

@[simp] theorem release_cancels : (g.release appKey).cancels.lookup appKey = none :=
  AList.lookup_erase _ _

@[simp] theorem release_sendCancels : (g.release appKey).sendCancels.lookup appKey = none :=
  AList.lookup_erase _ _

theorem setSendCancel_of_inactive (h : g.isActive appKey = false) :
    g.setSendCancel appKey d = g := by
  rw [setSendCancel, if_neg (by simp [h])]

@[simp] theorem setSendCancel_cancels : (g.setSendCancel appKey d).cancels = g.cancels := by
  unfold setSendCancel
  split_ifs <;> rfl

theorem setSendCancel_sendCancels (h : g.isActive appKey = true) :
    (g.setSendCancel appKey d).sendCancels.lookup appKey = some d := by
  rw [setSendCancel, if_pos h]
  exact AList.lookup_insert _

theorem replaceCancel_of_inactive (h : g.isActive appKey = false) :
    g.replaceCancel appKey c = g := by
  rw [replaceCancel, if_neg (by simp [h])]

@[simp] theorem replaceCancel_sendCancels :
    (g.replaceCancel appKey c).sendCancels = g.sendCancels := by
  unfold replaceCancel
  split_ifs <;> rfl

theorem replaceCancel_cancels (h : g.isActive appKey = true) :
    (g.replaceCancel appKey c).cancels.lookup appKey = some c := by
  rw [replaceCancel, if_pos h]
  exact AList.lookup_insert _

@[simp] theorem isActive_replaceCancel :
    (g.replaceCancel appKey c).isActive appKey = g.isActive appKey := by
  cases h : g.isActive appKey with
  | true => exact isActive_iff.2 ⟨c, replaceCancel_cancels h⟩
  | false => rw [replaceCancel_of_inactive h, h]

end QueryGate

end SootheClient
