import BrainDb.Store.Memory

namespace BrainDb

abbrev WriteId := Nat

structure EncodePayload where
  memoryId : MemoryId
  requestId : WriteId
  scope : RowScope
  sessionId : SessionId
  kind : MemoryKind
  salienceInitial : UInt32
  embeddingModelFp : Nat
  text : String
  vector : Embedding
  deduplicate : Bool
  occurredAt : Option Nanos

inductive MemoryPayload where
  | encode (p : EncodePayload)
  | forget (memoryId : MemoryId) (requestId : WriteId) (spaceId : SpaceId) (mode : TombstoneMode)
  | restoreMemory (memoryId : MemoryId) (requestId : WriteId) (spaceId : SpaceId)
  | updateSalience (updates : List (MemoryId × UInt32))
  | updateKind (memoryId : MemoryId) (newKind : MemoryKind)
  | updateSession (memoryId : MemoryId) (newSessionId : SessionId)
  | spaceCreate (scope : RowScope) (spaceString : String) (createdAt : Nanos)
      (metadata : Option (List UInt8))
  | spaceDelete (scope : RowScope)
  | sessionCreate (scope : RowScope) (sessionId : SessionId) (createdAt : Nanos)
      (title : Option String)
  | sessionDelete (scope : RowScope) (sessionId : SessionId) (hard : Bool)

def MemoryPhase.walPayload (writeId : WriteId) (caller : Caller) :
    MemoryPhase → Option MemoryPayload
  | .upsertMemory m => some (.encode
      { memoryId := m.id, requestId := writeId, scope := caller.scope, sessionId := m.sessionId
        kind := m.kind, salienceInitial := m.salience, embeddingModelFp := m.embeddingModelFp
        text := m.text, vector := m.vector, deduplicate := m.deduplicate
        occurredAt := m.occurredAt })
  | .tombstoneMemory id mode _ => some (.forget id writeId caller.scope.spaceId mode)
  | .restoreMemory id _ => some (.restoreMemory id writeId caller.scope.spaceId)
  | .updateSalience id s => some (.updateSalience [(id, s)])
  | .updateKind id k => some (.updateKind id k)
  | .updateSession id s => some (.updateSession id s)
  | .updateEmbedding _ _ => none
  | .spaceCreate createdAt spaceString metadata =>
    some (.spaceCreate caller.scope spaceString createdAt metadata)
  | .spaceDelete _ => some (.spaceDelete caller.scope)
  | .sessionCreate sessionId title createdAt =>
    some (.sessionCreate caller.scope sessionId createdAt title)
  | .sessionDelete sessionId hard _ => some (.sessionDelete caller.scope sessionId hard)

def EncodePayload.row (hashOf : String → Digest) (lsn : Nat) (timestamp : Nanos)
    (p : EncodePayload) : MemoryRow :=
  { MemoryRow.newActive p.memoryId p.scope p.sessionId p.memoryId.slot p.memoryId.version p.kind
      p.embeddingModelFp p.salienceInitial (min p.text.utf8ByteSize u32Max) timestamp with
    encodedAtLsn := lsn, occurredAt := p.occurredAt
    contentHash := if p.deduplicate then some (hashOf p.text) else none }

namespace Memories
variable (hashOf : String → Digest)

def replayEncode (lsn : Nat) (timestamp : Nanos) (p : EncodePayload) (t : Memories) :
    Memories :=
  { t with
    memories := t.memories.insert p.memoryId (p.row hashOf lsn timestamp)
    texts := t.texts.insert p.memoryId p.text
    fingerprints := if p.deduplicate then
        t.fingerprints.insert ⟨p.scope.spaceId, p.sessionId, hashOf p.text⟩
          ⟨p.memoryId, timestamp⟩
      else t.fingerprints
    registry := t.registry.touchOnWrite p.scope "" p.sessionId timestamp }

variable (timestamp : Nanos)

def replayForget (id : MemoryId) (mode : TombstoneMode) (t : Memories) : Memories :=
  match t.memories.get id with
  | some row => t.tombstoneRow id mode timestamp row
  | none => t

def replayRestoreMemory (id : MemoryId) (t : Memories) : Memories :=
  match t.memories.get id with
  | some row => if row.flags.hardForgotten then t else t.reactivateRow id timestamp row
  | none => t

variable (id : MemoryId)

def replayRow (f : MemoryRow → MemoryRow) (t : Memories) : Memories :=
  match t.memories.get id with
  | some row => { t with memories := t.memories.insert id (f row) }
  | none => t

def replayOneSalience (t : Memories) (u : MemoryId × UInt32) : Memories :=
  t.replayRow u.1 fun row => { row with salience := u.2 }

def replayUpdateKind (newKind : MemoryKind) (t : Memories) : Memories :=
  t.replayRow id fun row => { row with kind := newKind }

def replayUpdateSession (newSessionId : SessionId) (t : Memories) : Memories :=
  t.replayRow id fun row => { row with sessionId := newSessionId }

def replay (lsn : Nat) (timestamp : Nanos) (t : Memories) : MemoryPayload → Memories
  | .encode p => t.replayEncode hashOf lsn timestamp p
  | .forget id _ _ mode => t.replayForget timestamp id mode
  | .restoreMemory id _ _ => t.replayRestoreMemory timestamp id
  | .updateSalience updates => updates.foldl replayOneSalience t
  | .updateKind id k => t.replayUpdateKind id k
  | .updateSession id s => t.replayUpdateSession id s
  | .spaceCreate scope spaceString createdAt metadata =>
    { t with registry := (t.registry.spaceCreate scope spaceString createdAt metadata).1 }
  | .spaceDelete scope => { t with registry := (t.registry.spaceDelete scope).1 }
  | .sessionCreate scope sessionId createdAt title =>
    { t with registry := (t.registry.sessionCreate scope sessionId createdAt title).1 }
  | .sessionDelete scope sessionId _ =>
    { t with registry := (t.registry.sessionDelete scope sessionId).1 }

end Memories

inductive ResponseKind where
  | unknown
  | encode
  | forget
  | restore

def MemoryPayload.request : MemoryPayload → Option (WriteId × ResponseKind × MemoryId)
  | .encode p => some (p.requestId, .encode, p.memoryId)
  | .forget id requestId _ _ => some (requestId, .forget, id)
  | .restoreMemory id requestId _ => some (requestId, .restore, id)
  | _ => none

end BrainDb
