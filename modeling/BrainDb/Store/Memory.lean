import BrainDb.Store.Registry

namespace BrainDb

abbrev MemoryId := Nat

namespace MemoryId

def pack (shard slot version : Nat) : MemoryId :=
  shard % 2 ^ 16 * 2 ^ 112 + slot % 2 ^ 48 * 2 ^ 64 + version % 2 ^ 32 * 2 ^ 32

def slot (id : MemoryId) : Nat := id / 2 ^ 64 % 2 ^ 48

def version (id : MemoryId) : Nat := id / 2 ^ 32 % 2 ^ 32

end MemoryId

abbrev Embedding := List UInt32

abbrev Digest := Nat

inductive MemoryKind where
  | episodic
  | semantic
  | consolidated
  deriving DecidableEq

structure MemoryFlags where
  (active hardForgotten pinned stale : Bool)

structure MemoryRow where
  memoryId : MemoryId
  scope : RowScope
  sessionId : SessionId
  (slotId slotVersion : Nat)
  kind : MemoryKind
  textSize : Nat
  (createdAt lastAccessedAt : Nanos)
  (forgotAt tombstonedAt consolidatedAt occurredAt : Option Nanos)
  (salience salienceInitial : UInt32)
  (accessCount embeddingModelFp : Nat)
  flags : MemoryFlags
  (edgesOutCount edgesInCount : Nat)
  contentHash : Option Digest
  encodedAtLsn : Nat

structure TimelineKey where
  scope : RowScope
  createdAt : Nanos
  sessionId : SessionId
  memoryId : MemoryId

instance : LinearOrder TimelineKey :=
  LinearOrder.lift'
    (fun k => toLex (k.scope, toLex (k.createdAt, toLex (k.sessionId, k.memoryId))))
    fun ⟨_, _, _, _⟩ ⟨_, _, _, _⟩ h => by simpa using h

structure FingerprintKey where
  spaceId : SpaceId
  sessionId : SessionId
  contentHash : Digest

instance : LinearOrder FingerprintKey :=
  LinearOrder.lift' (fun k => toLex (k.spaceId, toLex (k.sessionId, k.contentHash)))
    fun ⟨_, _, _⟩ ⟨_, _, _⟩ h => by simpa using h

structure FingerprintEntry where
  memoryId : MemoryId
  insertedAt : Nanos

structure ArtifactBundle where
  vector : Embedding
  kind : MemoryKind
  salience : UInt32
  (createdAt occurredAt : Nanos)
  (dimensions textBytes : Nat)

structure Memories where
  memories : Table MemoryId MemoryRow
  texts : Table MemoryId String
  artifacts : Table MemoryId ArtifactBundle
  vectors : Table MemoryId Embedding
  timeline : Table TimelineKey Unit
  fingerprints : Table FingerprintKey FingerprintEntry
  registry : Registry

def Memories.empty : Memories :=
  { memories := Table.empty, texts := Table.empty, artifacts := Table.empty, vectors := Table.empty
    timeline := Table.empty, fingerprints := Table.empty, registry := Registry.empty }

namespace MemoryRow

def newActive (memoryId : MemoryId) (scope : RowScope) (sessionId : SessionId)
    (slotId slotVersion : Nat) (kind : MemoryKind) (embeddingModelFp : Nat)
    (salienceInitial : UInt32) (textSize : Nat) (createdAt : Nanos) : MemoryRow :=
  { memoryId, scope, sessionId, slotId, slotVersion, kind, textSize, createdAt
    lastAccessedAt := createdAt
    forgotAt := none, tombstonedAt := none, consolidatedAt := none, occurredAt := none
    salience := salienceInitial, salienceInitial, accessCount := 0, embeddingModelFp
    flags := { active := true, hardForgotten := false, pinned := false, stale := false }
    edgesOutCount := 0, edgesInCount := 0, contentHash := none, encodedAtLsn := 0 }

def timelineKey (row : MemoryRow) : TimelineKey :=
  ⟨row.scope, row.createdAt, row.sessionId, row.memoryId⟩

def fingerprintKey (row : MemoryRow) (hash : Digest) : FingerprintKey :=
  ⟨row.scope.spaceId, row.sessionId, hash⟩

end MemoryRow

inductive TombstoneMode where
  | soft
  | hard
  deriving DecidableEq

structure UpsertMemory where
  id : MemoryId
  text : String
  vector : Embedding
  kind : MemoryKind
  salience : UInt32
  sessionId : SessionId
  createdAt : Nanos
  occurredAt : Option Nanos
  (arenaSlot embeddingModelFp : Nat)
  contentHash : Option Digest
  deduplicate : Bool

inductive MemoryPhase where
  | upsertMemory (m : UpsertMemory)
  | tombstoneMemory (id : MemoryId) (mode : TombstoneMode) (now : Nanos)
  | restoreMemory (id : MemoryId) (now : Nanos)
  | updateSalience (id : MemoryId) (newSalience : UInt32)
  | updateKind (id : MemoryId) (newKind : MemoryKind)
  | updateSession (id : MemoryId) (newSessionId : SessionId)
  | updateEmbedding (id : MemoryId) (newVector : Embedding)
  | spaceCreate (createdAt : Nanos) (spaceString : String) (metadata : Option (List UInt8))
  | spaceDelete (now : Nanos)
  | sessionCreate (sessionId : SessionId) (title : Option String) (createdAt : Nanos)
  | sessionDelete (sessionId : SessionId) (hard : Bool) (now : Nanos)

inductive MemoryAck where
  | upsertedMemory (id : MemoryId)
  | tombstoned (id : MemoryId) (mode : TombstoneMode) (tombstonedAt : Nanos)
  | memoryRestored (id : MemoryId) (alreadyActive : Bool)
  | salienceUpdated
  | kindUpdated
  | contextUpdated
  | embeddingUpdated
  | spaceCreated (created : Bool)
  | spaceDeleted (existed : Bool)
  | sessionCreated (created : Bool)
  | sessionDeleted (existed : Bool)
  deriving DecidableEq

inductive ApplyError where
  | notFound (what : String) (id : Nat)
  | invariant (message : String)
  | metadata (message : String)
  deriving DecidableEq

structure Caller where
  scope : RowScope
  spaceString : String

namespace UpsertMemory

def dedupHash (m : UpsertMemory) : Option Digest := if m.deduplicate then m.contentHash else none

def row (caller : Caller) (m : UpsertMemory) : MemoryRow :=
  { MemoryRow.newActive m.id caller.scope m.sessionId m.arenaSlot m.id.version m.kind
      m.embeddingModelFp m.salience (m.text.utf8ByteSize % 2 ^ 32) m.createdAt with
    occurredAt := m.occurredAt, contentHash := m.dedupHash }

def bundle (m : UpsertMemory) : ArtifactBundle :=
  { vector := m.vector, kind := m.kind, salience := m.salience, createdAt := m.createdAt
    occurredAt := m.occurredAt.getD 0, dimensions := m.vector.length
    textBytes := m.text.utf8ByteSize % 2 ^ 32 }

end UpsertMemory

def MemoryRow.tombstoned (row : MemoryRow) (mode : TombstoneMode) (now : Nanos) : MemoryRow :=
  { row with
    tombstonedAt := some now
    forgotAt := if mode = .hard then some now else row.forgotAt
    flags := { row.flags with
      active := false, hardForgotten := row.flags.hardForgotten || mode = .hard } }

def MemoryRow.reactivated (row : MemoryRow) : MemoryRow :=
  { row with tombstonedAt := none, flags := { row.flags with active := true } }

namespace Memories

def applyUpsertMemory (caller : Caller) (m : UpsertMemory) (t : Memories) : Memories :=
  { memories := t.memories.insert m.id (m.row caller)
    texts := t.texts.insert m.id m.text
    artifacts := t.artifacts.insert m.id m.bundle
    vectors := t.vectors.insert m.id m.vector
    timeline := t.timeline.insert (m.row caller).timelineKey ()
    fingerprints := match m.dedupHash with
      | some hash =>
        t.fingerprints.insert ((m.row caller).fingerprintKey hash) ⟨m.id, m.createdAt⟩
      | none => t.fingerprints
    registry := t.registry.touchOnWrite caller.scope caller.spaceString m.sessionId m.createdAt }

def tombstoneRow (t : Memories) (id : MemoryId) (mode : TombstoneMode) (now : Nanos)
    (row : MemoryRow) : Memories :=
  { memories := t.memories.insert id (row.tombstoned mode now)
    texts := if mode = .hard then t.texts.remove id else t.texts
    artifacts := if mode = .hard then t.artifacts.remove id else t.artifacts
    vectors := if mode = .hard then t.vectors.remove id else t.vectors
    timeline := t.timeline.remove row.timelineKey
    fingerprints := match row.contentHash with
      | some hash => t.fingerprints.remove (row.fingerprintKey hash)
      | none => t.fingerprints
    registry := t.registry }

def reactivateRow (t : Memories) (id : MemoryId) (insertedAt : Nanos) (row : MemoryRow) :
    Memories :=
  { t with
    memories := t.memories.insert id row.reactivated
    timeline := t.timeline.insert row.timelineKey ()
    fingerprints := match row.contentHash with
      | some hash => t.fingerprints.insert (row.fingerprintKey hash) ⟨id, insertedAt⟩
      | none => t.fingerprints }

def applyTombstoneMemory (caller : Caller) (id : MemoryId) (mode : TombstoneMode)
    (now : Nanos) (t : Memories) : Except ApplyError Memories :=
  match t.memories.get id with
  | none => .error (.notFound "memory" id)
  | some row =>
    if row.scope.spaceId ≠ caller.scope.spaceId then .error (.notFound "memory" id)
    else .ok (t.tombstoneRow id mode now row)

def applyRestoreMemory (caller : Caller) (id : MemoryId) (t : Memories) :
    Except ApplyError (Memories × Bool) :=
  match t.memories.get id with
  | none => .error (.notFound "memory" id)
  | some row =>
    if row.scope.spaceId ≠ caller.scope.spaceId then .error (.notFound "memory" id)
    else if row.flags.hardForgotten then
      .error (.invariant "cannot restore a hard-forgotten memory (invariant #6)")
    else if row.flags.active then .ok (t, true)
    else .ok (t.reactivateRow id row.createdAt row, false)

def modifyRow (id : MemoryId) (f : MemoryRow → MemoryRow) (t : Memories) :
    Except ApplyError Memories :=
  match t.memories.get id with
  | none => .error (.notFound "memory" id)
  | some row => .ok { t with memories := t.memories.insert id (f row) }

def applyUpdateSalience (id : MemoryId) (newSalience : UInt32) :=
  modifyRow id fun row => { row with salience := newSalience }

def applyUpdateKind (id : MemoryId) (newKind : MemoryKind) :=
  modifyRow id fun row => { row with kind := newKind }

def applyUpdateEmbedding (id : MemoryId) :=
  modifyRow id fun row => { row with flags := { row.flags with stale := false } }

def applyUpdateSession (id : MemoryId) (newSessionId : SessionId) (t : Memories) :
    Except ApplyError Memories :=
  match t.memories.get id with
  | none => .error (.notFound "memory" id)
  | some row => .ok { t with
      memories := t.memories.insert id { row with sessionId := newSessionId }
      timeline := (t.timeline.remove ⟨row.scope, row.createdAt, row.sessionId, id⟩).insert
        ⟨row.scope, row.createdAt, newSessionId, id⟩ () }

def dispatch (caller : Caller) (t : Memories) :
    MemoryPhase → Except ApplyError (Memories × MemoryAck)
  | .upsertMemory m => .ok (t.applyUpsertMemory caller m, .upsertedMemory m.id)
  | .tombstoneMemory id mode now =>
    (t.applyTombstoneMemory caller id mode now).map fun t => (t, .tombstoned id mode now)
  | .restoreMemory id _ =>
    (t.applyRestoreMemory caller id).map fun (t, alreadyActive) =>
      (t, .memoryRestored id alreadyActive)
  | .updateSalience id s => (applyUpdateSalience id s t).map fun t => (t, .salienceUpdated)
  | .updateKind id k => (applyUpdateKind id k t).map fun t => (t, .kindUpdated)
  | .updateSession id s => (t.applyUpdateSession id s).map fun t => (t, .contextUpdated)
  | .updateEmbedding id _ => (applyUpdateEmbedding id t).map fun t => (t, .embeddingUpdated)
  | .spaceCreate createdAt spaceString metadata =>
    let (registry, created) := t.registry.spaceCreate caller.scope spaceString createdAt metadata
    .ok ({ t with registry }, .spaceCreated created)
  | .spaceDelete _ =>
    let (registry, existed) := t.registry.spaceDelete caller.scope
    .ok ({ t with registry }, .spaceDeleted existed)
  | .sessionCreate sessionId title createdAt =>
    let (registry, created) := t.registry.sessionCreate caller.scope sessionId createdAt title
    .ok ({ t with registry }, .sessionCreated created)
  | .sessionDelete sessionId _ _ =>
    let (registry, existed) := t.registry.sessionDelete caller.scope sessionId
    .ok ({ t with registry }, .sessionDeleted existed)

end Memories
end BrainDb
