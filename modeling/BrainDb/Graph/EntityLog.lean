import BrainDb.Graph.Merge

namespace BrainDb

structure UpsertEntity where
  id : EntityId
  ty : EntityTypeId
  session : SessionId
  (canonical normalized : String)
  aliases : List String
  attributes : List UInt8
  createdAt : Nanos

structure EntityUpdateBody where
  id : EntityId
  canonicalName : String
  aliases : List String
  attributes : List UInt8
  stamp : Nanos

structure EntityRenameBody where
  id : EntityId
  newCanonicalName : String
  stamp : Nanos

structure EntityTombstoneBody where
  id : EntityId
  stamp : Nanos

structure EntityMergeBody where
  (source target : EntityId)
  confidence : UInt32
  reason : String
  actor : MergeActor
  graceSeconds : Nat
  stamp : Nanos

structure EntityUnmergeBody where
  merged : EntityId
  actor : MergeActor
  stamp : Nanos

inductive EntityPhase where
  | upsert (p : UpsertEntity)
  | update (b : EntityUpdateBody)
  | rename (b : EntityRenameBody)
  | tombstone (b : EntityTombstoneBody)
  | merge (b : EntityMergeBody)
  | unmerge (b : EntityUnmergeBody)

def UpsertEntity.entity (p : UpsertEntity) : Entity :=
  { id := p.id, entityType := p.ty, canonicalName := p.canonical, normalizedName := p.normalized
    aliases := p.aliases, attributes := p.attributes, mentionCount := 0, createdAt := p.createdAt
    updatedAt := p.createdAt, mergedInto := none, embeddingVersion := 0, tombstoned := false
    merged := false }

inductive EntityApplyError where
  | notFound (id : EntityId)
  | conflict (e : EntityOpError)
  | metadata (e : EntityOpError)
  | mergeRefused (e : EntityMergeOpError)

def EntityApplyError.ofPut : EntityOpError → EntityApplyError
  | .duplicateCanonicalName ty name existing => .conflict (.duplicateCanonicalName ty name existing)
  | e => .metadata e

def EntityUpdateBody.newState [TextFolding] (b : EntityUpdateBody) (current : Entity) : Entity :=
  { current with
    canonicalName := b.canonicalName, normalizedName := normalizeName b.canonicalName
    aliases := b.aliases, attributes := b.attributes }

variable (g : Graph) (scope : RowScope) (mint : MergeId)

namespace Graph
variable (id : EntityId)

def entityScopeGuard : Except EntityApplyError EntityMetadata :=
  match g.entities.entities.get id with
  | some m => if m.scope = scope then .ok m else .error (.notFound id)
  | none => .error (.notFound id)

variable [TextFolding]

def putEntity (session : SessionId) (e : Entity) :
    Except EntityOpError Graph := do
  let entities ← g.entities.put g.catalog.entityTypes scope session e
  .ok { g with entities }

def updateEntity (newState : Entity) (now : Nanos) : Except EntityOpError Graph := do
  let entities ← g.entities.update g.catalog.entityTypes newState now
  .ok { g with entities }

def renameEntity (newName : String) (now : Nanos) :
    Except EntityOpError Graph := do
  let entities ← g.entities.rename g.catalog.entityTypes id newName now
  .ok { g with entities }

def tombstoneEntity (now : Nanos) : Except EntityOpError Graph := do
  let entities ← g.entities.tombstone id now
  .ok { g with entities }

def applyEntity :
    EntityPhase → Except EntityApplyError Graph
  | .upsert p => (g.putEntity scope p.session p.entity).mapError .ofPut
  | .update b => do
    let current ← g.entityScopeGuard scope b.id
    (g.updateEntity (b.newState current.toEntity) b.stamp).mapError .metadata
  | .rename b => do
    let _ ← g.entityScopeGuard scope b.id
    (g.renameEntity b.id b.newCanonicalName b.stamp).mapError .metadata
  | .tombstone b => do
    let _ ← g.entityScopeGuard scope b.id
    (g.tombstoneEntity b.id b.stamp).mapError .metadata
  | .merge b => do
    let _ ← g.entityScopeGuard scope b.target
    let _ ← g.entityScopeGuard scope b.source
    (g.mergeEntity mint b.target b.source b.confidence b.reason b.actor b.graceSeconds
      b.stamp).mapError .mergeRefused
  | .unmerge b => do
    let _ ← g.entityScopeGuard scope b.merged
    (g.unmergeEntity b.merged b.actor b.stamp).mapError .mergeRefused

end Graph

inductive EntityCall where
  | put (scope : RowScope) (session : SessionId) (e : Entity)
  | update (newState : Entity) (now : Nanos)
  | rename (id : EntityId) (newName : String) (now : Nanos)
  | tombstone (id : EntityId) (now : Nanos)
  | merge (mint : MergeId) (survivor merged : EntityId) (confidence : UInt32) (reason : String)
      (actor : MergeActor) (grace : Nat) (now : Nanos)
  | unmerge (merged : EntityId) (actor : MergeActor) (now : Nanos)

def Graph.call [TextFolding] : EntityCall → Except EntityApplyError Graph
  | .put scope session e => (g.putEntity scope session e).mapError .ofPut
  | .update newState now => (g.updateEntity newState now).mapError .metadata
  | .rename id newName now => (g.renameEntity id newName now).mapError .metadata
  | .tombstone id now => (g.tombstoneEntity id now).mapError .metadata
  | .merge mint survivor merged confidence reason actor grace now =>
    (g.mergeEntity mint survivor merged confidence reason actor grace now).mapError
      .mergeRefused
  | .unmerge merged actor now => (g.unmergeEntity merged actor now).mapError .mergeRefused

inductive EntityPayload where
  | create (row : EntityMetadata)
  | update (b : EntityUpdateBody)
  | rename (b : EntityRenameBody)
  | tombstone (b : EntityTombstoneBody)
  | merge (b : EntityMergeBody)
  | unmerge (b : EntityUnmergeBody)

def EntityPhase.walPayload : EntityPhase → EntityPayload
  | .upsert p => .create
    { EntityMetadata.fromEntity p.entity scope with sessionId := p.session }
  | .update b => .update b
  | .rename b => .rename b
  | .tombstone b => .tombstone b
  | .merge b => .merge b
  | .unmerge b => .unmerge b

inductive EntitySinkError where
  | put (e : EntityOpError)
  | tombstone (e : EntityOpError)
  | updateAbsent (id : EntityId)
  | update (e : EntityOpError)
  | renameAbsent (id : EntityId)
  | rename (e : EntityOpError)
  | merge (e : EntityMergeOpError)
  | unmerge (e : EntityMergeOpError)

namespace Graph
variable [TextFolding]

def replayEntityCreate (row : EntityMetadata) : Except EntitySinkError Graph :=
  match g.entities.entities.get row.id with
  | some _ => .ok g
  | none =>
    match g.putEntity row.scope row.sessionId row.toEntity with
    | .ok g' => .ok g'
    | .error (.duplicateCanonicalName _ _ _) => .ok g
    | .error e => .error (.put e)

def replayEntityUpdate (b : EntityUpdateBody) : Except EntitySinkError Graph :=
  match g.entities.entities.get b.id with
  | none => .error (.updateAbsent b.id)
  | some current =>
    if current.updatedAt < b.stamp then
      (g.updateEntity (b.newState current.toEntity) b.stamp).mapError .update
    else .ok g

def replayEntityRename (b : EntityRenameBody) : Except EntitySinkError Graph :=
  match g.entities.entities.get b.id with
  | none => .error (.renameAbsent b.id)
  | some current =>
    if current.canonicalName ≠ b.newCanonicalName then
      (g.renameEntity b.id b.newCanonicalName b.stamp).mapError .rename
    else .ok g

def replayEntityMerge (b : EntityMergeBody) : Except EntitySinkError Graph :=
  if (g.entities.entities.get b.source).bind (·.mergedInto) = some b.target then .ok g
  else (g.mergeEntity mint b.target b.source b.confidence b.reason b.actor b.graceSeconds
    b.stamp).mapError .merge

def replayEntityUnmerge (b : EntityUnmergeBody) : Except EntitySinkError Graph :=
  if ((g.entities.entities.get b.merged).bind (·.mergedInto)).isSome then
    (g.unmergeEntity b.merged b.actor b.stamp).mapError .unmerge
  else .ok g

def replayEntity : EntityPayload → Except EntitySinkError Graph
  | .create row => g.replayEntityCreate row
  | .update b => g.replayEntityUpdate b
  | .rename b => g.replayEntityRename b
  | .tombstone b => (g.tombstoneEntity b.id b.stamp).mapError .tombstone
  | .merge b => g.replayEntityMerge mint b
  | .unmerge b => g.replayEntityUnmerge b

end Graph
end BrainDb
