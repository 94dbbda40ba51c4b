import SootheClient.Gate.QueryGate
import SootheClient.Lib.Json

/-!
# Session persistence

`LoopSessionStore` is the trait: a state type with the methods the pool and the turn runner await.
`InMemoryLoopSessionStore` is the process-local one.
-/

namespace SootheClient

/-- Persisted session record. -/
structure LoopSessionEntry where
  sessionId : String := ""
  loopId : Option String := none
  workspaceId : String := ""
  userId : String := ""
  resetCount : UInt32 := 0
  messages : List Json := []

/-- The store's methods over a state `σ`; the ones that only write return the new state. -/
structure LoopSessionStore (σ : Type*) where
  getSession : σ → String → Option LoopSessionEntry
  createSession : σ → LoopSessionEntry → σ
  updateLastUsed : σ → String → σ
  getLoopIdForSession : σ → String → Option String
  setLoopId : σ → String → String → σ
  appendMessage : σ → String → Json → σ

/-- The process-local store. -/
def inMemoryLoopSessionStore : LoopSessionStore (StrMap LoopSessionEntry) where
  getSession m sid := m.lookup sid
  createSession m record := m.insert record.sessionId record
  updateLastUsed m _ := m
  getLoopIdForSession m sid := (m.lookup sid).bind (·.loopId)
  setLoopId m sid loopId :=
    match m.lookup sid with
    | some rec => m.insert sid { rec with loopId := some loopId }
    | none => m.insert sid { sessionId := sid, loopId := some loopId }
  appendMessage m sid message :=
    match m.lookup sid with
    | some rec => m.insert sid { rec with messages := rec.messages ++ [message] }
    | none => m

end SootheClient
