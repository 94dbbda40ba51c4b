import SootheClient.Frame.Namespace
import SootheClient.Lib.Latest

/-!
# The heartbeat tracker

A `HeartbeatTracker` remembers when the daemon was last heard of and what it said, and from the
clock it tells whether the daemon is alive. Instants and durations are in nanoseconds; every
operation is given the instant it reads.
-/

namespace SootheClient.Heartbeat

open SootheClient.Frame

/-- Health of the daemon. -/
structure DaemonHealth where
  lastHeartbeat : ℕ
  state : String
  loopId : String
  isAlive : Bool

structure HeartbeatTracker where
  lastHeartbeat : Option ℕ := none
  daemonState : String := ""
  heartbeatLoopId : String := ""
  aliveThreshold : ℕ
  startTime : ℕ

def DEFAULT_ALIVE_THRESHOLD : ℕ := 15 * 10 ^ 9

/-- The time after a start in which the daemon counts as alive. -/
def GRACE : ℕ := 20 * 10 ^ 9

namespace HeartbeatTracker

def withThreshold (aliveThreshold now : ℕ) : HeartbeatTracker where
  aliveThreshold := aliveThreshold
  startTime := now

def new (now : ℕ) : HeartbeatTracker := withThreshold DEFAULT_ALIVE_THRESHOLD now

variable (t : HeartbeatTracker)

/-- Process the payload of a heartbeat event. -/
def update (heartbeatData : Option Json) (now : ℕ) : HeartbeatTracker :=
  let data := heartbeatData.bind Json.asObject?
  { t with
    lastHeartbeat := some now
    daemonState := ((data.bind (·.get "state")).bind Json.asStr?).getD t.daemonState
    heartbeatLoopId := ((data.bind (·.get "loop_id")).bind Json.asStr?).getD t.heartbeatLoopId }

def notePong (now : ℕ) : HeartbeatTracker := { t with lastHeartbeat := some now }

def getLastHeartbeat : ℕ := t.lastHeartbeat.getD t.startTime

def getHealth (now : ℕ) : DaemonHealth where
  lastHeartbeat := t.getLastHeartbeat
  state := t.daemonState
  loopId := t.heartbeatLoopId
  isAlive := now - t.getLastHeartbeat < t.aliveThreshold || now - t.startTime < GRACE

def isProcessing : Bool := t.daemonState == "running"

def isIdle : Bool := t.daemonState == "idle"

def getState : String := t.daemonState

def getLoopId : String := t.heartbeatLoopId

def setAliveThreshold (threshold : ℕ) : HeartbeatTracker := { t with aliveThreshold := threshold }

/-- Clear the tracker and start anew. -/
def reset (now : ℕ) : HeartbeatTracker :=
  { t with lastHeartbeat := none, daemonState := "", heartbeatLoopId := "", startTime := now }

end HeartbeatTracker

/-- An operation on a tracker. -/
inductive TrackerOp where
  | update (heartbeatData : Option Json)
  | notePong
  | setAliveThreshold (threshold : ℕ)
  | reset

def HeartbeatTracker.apply (t : HeartbeatTracker) : ℕ × TrackerOp → HeartbeatTracker
  | (now, .update data) => t.update data now
  | (now, .notePong) => t.notePong now
  | (_, .setAliveThreshold threshold) => t.setAliveThreshold threshold
  | (now, .reset) => t.reset now

/-! ## The history of a tracker -/

namespace TrackerOp

def isReset : ℕ × TrackerOp → Bool
  | (_, .reset) => true
  | _ => false

/-- The instant at which the daemon was heard of. -/
def beat : ℕ × TrackerOp → Option ℕ
  | (now, .update _) | (now, .notePong) => some now
  | _ => none

/-- A string member of a heartbeat payload. -/
def said (key : String) : ℕ × TrackerOp → Option String
  | (_, .update data) => ((data.bind Json.asObject?).bind (·.get key)).bind Json.asStr?
  | _ => none

def threshold : ℕ × TrackerOp → Option ℕ
  | (_, .setAliveThreshold threshold) => some threshold
  | _ => none

def resetAt : ℕ × TrackerOp → Option ℕ
  | (now, .reset) => some now
  | _ => none

end TrackerOp

variable {created threshold clock now : ℕ} {ops : List (ℕ × TrackerOp)} {key : String}

/-- The instants since the last reset at which the daemon was heard of. -/
def beats (ops : List (ℕ × TrackerOp)) : List ℕ :=
  (Latest.since TrackerOp.isReset ops).filterMap TrackerOp.beat

/-- What the daemon last said of a member since the last reset. -/
def lastSaid (key : String) (ops : List (ℕ × TrackerOp)) : String :=
  (Latest.latest TrackerOp.isReset (TrackerOp.said key) ops).getD ""

/-- The threshold in force. -/
def thresholdAfter (threshold : ℕ) (ops : List (ℕ × TrackerOp)) : ℕ :=
  (Latest.latest (fun _ => false) TrackerOp.threshold ops).getD threshold

/-- The last start: the last reset, or the creation. -/
def startedAt (created : ℕ) (ops : List (ℕ × TrackerOp)) : ℕ :=
  (Latest.latest (fun _ => false) TrackerOp.resetAt ops).getD created

/-- The daemon was heard of within the threshold, or the tracker started within the threshold and
heard nothing since, or it started within the grace period. -/
def AliveAt (created threshold : ℕ) (ops : List (ℕ × TrackerOp)) (clock : ℕ) : Prop :=
  (∃ b ∈ beats ops, clock - b < thresholdAfter threshold ops) ∨
    (beats ops = [] ∧ clock - startedAt created ops < thresholdAfter threshold ops) ∨
      clock - startedAt created ops < GRACE

/-- The instants are read in order from `created` on, and `clock` is read last. -/
def Clocked {α : Type*} (created : ℕ) (log : List (ℕ × α)) (clock : ℕ) : Prop :=
  (created :: log.map Prod.fst ++ [clock]).Pairwise (· ≤ ·)

/-! ## The fields after a history -/

/-- A tracker that was created, and what it was given since. -/
def trackerAfter (created threshold : ℕ) (ops : List (ℕ × TrackerOp)) : HeartbeatTracker :=
  ops.foldl HeartbeatTracker.apply (.withThreshold threshold created)

theorem startTime_trackerAfter :
    (trackerAfter created threshold ops).startTime = startedAt created ops :=
  Latest.value_foldl fun t op => by
    obtain ⟨now, _ | _ | _ | _⟩ := op <;> rfl

theorem aliveThreshold_trackerAfter :
    (trackerAfter created threshold ops).aliveThreshold = thresholdAfter threshold ops :=
  Latest.value_foldl fun t op => by
    obtain ⟨now, _ | _ | _ | _⟩ := op <;> rfl

theorem lastHeartbeat_trackerAfter :
    (trackerAfter created threshold ops).lastHeartbeat = (beats ops).getLast? :=
  Latest.cell_foldl (fun t op => by
    obtain ⟨now, _ | _ | _ | _⟩ := op <;> rfl) rfl

/-- The text of a field that is cleared by a reset and set by what the daemon says. -/
theorem text_foldl (field : HeartbeatTracker → String) {t : HeartbeatTracker}
    (hfield : ∀ t op, field (t.apply op) =
      if TrackerOp.isReset op then "" else (TrackerOp.said key op).getD (field t))
    (ht : field t = "") : field (ops.foldl HeartbeatTracker.apply t) = lastSaid key ops := by
  unfold lastSaid
  induction ops using List.reverseRecOn with
  | nil => exact ht
  | append_singleton ops op ih =>
    rw [List.foldl_concat, hfield, ih, Latest.latest_concat]
    cases TrackerOp.isReset op with
    | true => rfl
    | false => cases TrackerOp.said key op <;> rfl

theorem getState_trackerAfter :
    (trackerAfter created threshold ops).getState = lastSaid "state" ops :=
  text_foldl HeartbeatTracker.getState (fun t op => by
    obtain ⟨now, _ | _ | _ | _⟩ := op <;> rfl) rfl

theorem getLoopId_trackerAfter :
    (trackerAfter created threshold ops).getLoopId = lastSaid "loop_id" ops :=
  text_foldl HeartbeatTracker.getLoopId (fun t op => by
    obtain ⟨now, _ | _ | _ | _⟩ := op <;> rfl) rfl

/-! ## Health -/

theorem sorted_beats (h : Clocked created ops clock) : (beats ops).Pairwise (· ≤ ·) := by
  have hops : (ops.map Prod.fst).Pairwise (· ≤ ·) := by
    have := (List.pairwise_append.1 h).1
    exact (List.pairwise_cons.1 this).2
  have hsub : (beats ops).Sublist (ops.map Prod.fst) := by
    unfold beats
    have hfst : ∀ l : List (ℕ × TrackerOp),
        (l.filterMap TrackerOp.beat).Sublist (l.map Prod.fst) := by
      intro l
      induction l with
      | nil => exact .slnil
      | cons op l ih =>
        obtain ⟨now, _ | _ | _ | _⟩ := op
        · exact ih.cons_cons now
        · exact ih.cons_cons now
        · exact ih.cons now
        · exact ih.cons now
    exact (hfst _).trans ((List.rtakeWhile_suffix _ ops).sublist.map _)
  exact hops.sublist hsub

/-- The latest beat is as recent as any. -/
theorem le_getLast?_beats {b last : ℕ} (h : Clocked created ops clock) (hb : b ∈ beats ops)
    (hlast : (beats ops).getLast? = some last) : b ≤ last := by
  obtain ⟨l, hl⟩ := List.getLast?_eq_some_iff.1 hlast
  have hsorted := sorted_beats h
  rw [hl] at hb hsorted
  obtain hb | hb := List.mem_append.1 hb
  · exact (List.pairwise_append.1 hsorted).2.2 b hb last (List.mem_singleton_self last)
  · rw [List.mem_singleton] at hb
    exact hb.le

/-- **Health.** What a tracker reports is read off what it was given. -/
theorem isAlive_trackerAfter (h : Clocked created ops clock) :
    ((trackerAfter created threshold ops).getHealth clock).isAlive = true ↔
      AliveAt created threshold ops clock := by
  unfold HeartbeatTracker.getHealth HeartbeatTracker.getLastHeartbeat AliveAt
  rw [lastHeartbeat_trackerAfter, startTime_trackerAfter, aliveThreshold_trackerAfter]
  simp only [Bool.or_eq_true, decide_eq_true_eq]
  cases hlast : (beats ops).getLast? with
  | none =>
    have hnil : beats ops = [] := List.getLast?_eq_none_iff.1 hlast
    rw [hnil, Option.getD_none]
    simp
  | some last =>
    have hmem : last ∈ beats ops := List.mem_of_getLast? hlast
    rw [Option.getD_some, ← or_assoc]
    refine or_congr ⟨fun hl => Or.inl ⟨last, hmem, hl⟩, ?_⟩ Iff.rfl
    rintro (⟨b, hb, hlt⟩ | ⟨hnil, -⟩)
    · exact (Nat.sub_le_sub_left (le_getLast?_beats h hb hlast) clock).trans_lt hlt
    · rw [hnil] at hmem
      cases hmem

end SootheClient.Heartbeat
