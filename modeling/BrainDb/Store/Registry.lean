import BrainDb.Base.Table
import Mathlib.Algebra.Ring.Nat
import Mathlib.Data.Prod.Lex

namespace BrainDb

abbrev NamespaceId := Nat
abbrev SpaceId := Nat
abbrev SessionId := Nat

abbrev Nanos := Nat

def u64Max : Nat := 2 ^ 64 - 1

def u32Max : Nat := 2 ^ 32 - 1

def saturatingAdd (greatest a b : Nat) : Nat := min (a + b) greatest

structure RowScope where
  namespaceId : NamespaceId
  spaceId : SpaceId

instance : LinearOrder RowScope :=
  LinearOrder.lift' (fun k => toLex (k.namespaceId, k.spaceId))
    fun ⟨_, _⟩ ⟨_, _⟩ h => by simpa using h

structure SessionKey where
  scope : RowScope
  sessionId : SessionId

instance : LinearOrder SessionKey :=
  LinearOrder.lift' (fun k => toLex (k.scope, k.sessionId))
    fun ⟨_, _⟩ ⟨_, _⟩ h => by simpa using h

structure SessionScopeKey where
  scope : RowScope
  lastActive : Nanos
  sessionId : SessionId

instance : LinearOrder SessionScopeKey :=
  LinearOrder.lift' (fun k => toLex (k.scope, toLex (k.lastActive, k.sessionId)))
    fun ⟨_, _, _⟩ ⟨_, _, _⟩ h => by simpa using h

structure SpaceMetadata where
  spaceString : String
  (createdAt lastActive : Nanos)
  (memoryCount sessionCount : Nat)
  metadata : Option (List UInt8)

variable (createdAt : Nanos)

def SpaceMetadata.new (spaceString : String) (metadata : Option (List UInt8)) : SpaceMetadata :=
  { spaceString, createdAt, lastActive := createdAt, memoryCount := 0, sessionCount := 0, metadata }

structure SessionMetadata where
  (createdAt lastActive : Nanos)
  title : Option String
  memoryCount : Nat

def SessionMetadata.new (title : Option String) : SessionMetadata :=
  { createdAt, lastActive := createdAt, title, memoryCount := 0 }

structure Registry where
  spaces : Table RowScope SpaceMetadata
  sessions : Table SessionKey SessionMetadata
  sessionsByScope : Table SessionScopeKey Unit

namespace Registry

def empty : Registry := ⟨Table.empty, Table.empty, Table.empty⟩

variable (r : Registry) (scope : RowScope) (sessionId : SessionId)

def touchSessionRow (now : Nanos) : Registry × Bool :=
  match r.sessions.get ⟨scope, sessionId⟩ with
  | some m =>
    let moved := now > m.lastActive
    let byScope := if moved then
        (r.sessionsByScope.remove ⟨scope, m.lastActive, sessionId⟩).insert
          ⟨scope, now, sessionId⟩ ()
      else r.sessionsByScope
    let m := { m with
      lastActive := if moved then now else m.lastActive
      memoryCount := saturatingAdd u32Max m.memoryCount 1 }
    ({ r with sessions := r.sessions.insert ⟨scope, sessionId⟩ m, sessionsByScope := byScope }, false)
  | none =>
    let m := { SessionMetadata.new now none with memoryCount := 1 }
    ({ r with
        sessions := r.sessions.insert ⟨scope, sessionId⟩ m
        sessionsByScope := r.sessionsByScope.insert ⟨scope, now, sessionId⟩ () }, true)

variable (spaceString : String)

def touchSpaceRow (now : Nanos) (sessionCreated : Bool) : Registry :=
  match r.spaces.get scope with
  | some m =>
    let m := { m with
      lastActive := max m.lastActive now
      memoryCount := saturatingAdd u64Max m.memoryCount 1
      sessionCount := if sessionCreated then saturatingAdd u32Max m.sessionCount 1 else m.sessionCount
      spaceString := if m.spaceString.isEmpty && !spaceString.isEmpty then spaceString
        else m.spaceString }
    { r with spaces := r.spaces.insert scope m }
  | none =>
    let m := { SpaceMetadata.new now spaceString none with
      memoryCount := 1, sessionCount := if sessionCreated then 1 else 0 }
    { r with spaces := r.spaces.insert scope m }

def touchOnWrite (sessionId : SessionId) (now : Nanos) : Registry :=
  let (r, sessionCreated) := r.touchSessionRow scope sessionId now
  r.touchSpaceRow scope spaceString now sessionCreated

def spaceCreate (now : Nanos) (metadata : Option (List UInt8)) : Registry × Bool :=
  match r.spaces.get scope with
  | some _ => (r, false)
  | none => ({ r with spaces := r.spaces.insert scope (.new now spaceString metadata) }, true)

def spaceDelete : Registry × Bool :=
  let victims := r.sessions.scan fun k => k.scope = scope
  let r' := victims.foldl (fun r v =>
    { r with
      sessions := r.sessions.remove v.1
      sessionsByScope := r.sessionsByScope.remove ⟨scope, v.2.lastActive, v.1.sessionId⟩ }) r
  ({ r' with spaces := r'.spaces.remove scope }, (r'.spaces.get scope).isSome)

def sessionCreate (now : Nanos) (title : Option String) : Registry × Bool :=
  match r.sessions.get ⟨scope, sessionId⟩ with
  | some _ => (r, false)
  | none =>
    let r := { r with
      sessions := r.sessions.insert ⟨scope, sessionId⟩ (.new now title)
      sessionsByScope := r.sessionsByScope.insert ⟨scope, now, sessionId⟩ () }
    (r.touchSpaceRow scope "" now true, true)

def sessionDelete : Registry × Bool :=
  match r.sessions.get ⟨scope, sessionId⟩ with
  | none => (r, false)
  | some m =>
    let spaces := match r.spaces.get scope with
      | some sm => r.spaces.insert scope { sm with sessionCount := sm.sessionCount - 1 }
      | none => r.spaces
    ({ sessions := r.sessions.remove ⟨scope, sessionId⟩
       sessionsByScope := r.sessionsByScope.remove ⟨scope, m.lastActive, sessionId⟩
       spaces }, true)

end Registry
end BrainDb
