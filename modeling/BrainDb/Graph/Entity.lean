import BrainDb.Graph.Tables

namespace BrainDb

inductive EntityOpError where
  | notFound (id : EntityId)
  | unknownEntityType (id : EntityTypeId)
  | duplicateCanonicalName (entityType : EntityTypeId) (name : String) (existing : EntityId)

def requireEntityTypeExists (types : Schema.EntityTypes) (id : EntityTypeId) :
    Except EntityOpError Unit :=
  if (types.rows.get id).isSome then .ok () else .error (.unknownEntityType id)

namespace Entities

def indexTrigrams (t : Table TrigramKey Unit) (scope : RowScope) (ty : EntityTypeId)
    (id : EntityId) (trigrams : List Trigram) : Table TrigramKey Unit :=
  trigrams.foldl (fun t tg => t.insert ⟨scope, ty, tg, id⟩ ()) t

def removeTrigrams (t : Table TrigramKey Unit) (scope : RowScope) (ty : EntityTypeId)
    (id : EntityId) (trigrams : List Trigram) : Table TrigramKey Unit :=
  trigrams.foldl (fun t tg => t.remove ⟨scope, ty, tg, id⟩) t

def indexAliases (t : Table AliasKey Unit) (scope : RowScope) (ty : EntityTypeId) (id : EntityId)
    (names : List String) : Table AliasKey Unit :=
  names.foldl (fun t name => t.insert ⟨scope, ty, name, id⟩ ()) t

def removeAliases (t : Table AliasKey Unit) (scope : RowScope) (ty : EntityTypeId) (id : EntityId)
    (names : List String) : Table AliasKey Unit :=
  names.foldl (fun t name => t.remove ⟨scope, ty, name, id⟩) t

variable [TextFolding]

def entityKey (scope : RowScope) (e : Entity) : CanonicalNameKey :=
  ⟨scope, e.entityType, normalizeName e.canonicalName⟩

def nameKey (m : EntityMetadata) : CanonicalNameKey := entityKey m.scope m.toEntity

def newRow (scope : RowScope) (session : SessionId) (e : Entity) : EntityMetadata :=
  { EntityMetadata.fromEntity e scope with
    sessionId := session, normalizedName := normalizeName e.canonicalName }

def nextRow (current : EntityMetadata) (next : Entity) : EntityMetadata :=
  { EntityMetadata.fromEntity next current.scope with
    sessionId := current.sessionId, normalizedName := normalizeName next.canonicalName }

variable (t : Entities)

def added (scope : RowScope) (session : SessionId) (e : Entity) : Entities :=
  { entities := t.entities.insert e.id (newRow scope session e)
    byCanonicalName := t.byCanonicalName.insert (entityKey scope e) e.id
    byType := t.byType.insert ⟨scope, e.entityType, e.id⟩ ()
    aliases := indexAliases t.aliases scope e.entityType e.id (e.aliases.map normalizeName)
    trigrams := indexTrigrams t.trigrams scope e.entityType e.id
      (trigramsOfComponents e.canonicalName e.aliases) }

def put (types : Schema.EntityTypes) (scope : RowScope) (session : SessionId) (e : Entity) :
    Except EntityOpError Entities := do
  requireEntityTypeExists types e.entityType
  match t.byCanonicalName.get (entityKey scope e) with
  | some existing =>
    .error (.duplicateCanonicalName e.entityType (normalizeName e.canonicalName) existing)
  | none => .ok (t.added scope session e)

def revised (current : EntityMetadata) (newState : Entity) (now : Nanos) : Entity :=
  let old := normalizeName current.canonicalName
  if old = normalizeName newState.canonicalName then { newState with updatedAt := now }
  else
    let kept := newState.aliases.any fun a => normalizeName a = old
    { newState with
      updatedAt := now
      aliases := if kept then newState.aliases else newState.aliases ++ [current.canonicalName]
      embeddingVersion := current.embeddingVersion + 1 }

def rekeyName (current : EntityMetadata) (next : Entity) :
    Except EntityOpError (Table CanonicalNameKey EntityId) :=
  if nameKey current = entityKey current.scope next then .ok t.byCanonicalName
  else match (t.byCanonicalName.remove (nameKey current)).get (entityKey current.scope next) with
  | some existing =>
    .error (.duplicateCanonicalName next.entityType (normalizeName next.canonicalName) existing)
  | none => .ok
    ((t.byCanonicalName.remove (nameKey current)).insert (entityKey current.scope next) next.id)

def removedAndAdded {K : Type} [DecidableEq K] (typeChanged : Bool) (old new : List K) :
    List K × List K :=
  if typeChanged then (old, new) else (old.filter (· ∉ new), new.filter (· ∉ old))

def moved (current : EntityMetadata) (next : Entity)
    (byCanonicalName : Table CanonicalNameKey EntityId) : Entities :=
  let scope := current.scope
  let typeChanged : Bool := current.entityType ≠ next.entityType
  let aliases := removedAndAdded typeChanged (current.aliases.map normalizeName)
    (next.aliases.map normalizeName)
  let trigrams := removedAndAdded typeChanged
    (trigramsOfComponents current.canonicalName current.aliases)
    (trigramsOfComponents next.canonicalName next.aliases)
  { entities := t.entities.insert next.id (nextRow current next)
    byCanonicalName
    byType := if typeChanged then
      (t.byType.remove ⟨scope, current.entityType, current.id⟩).insert
        ⟨scope, next.entityType, next.id⟩ () else t.byType
    aliases := indexAliases
      (removeAliases t.aliases scope current.entityType current.id aliases.1)
      scope next.entityType next.id aliases.2
    trigrams := indexTrigrams
      (removeTrigrams t.trigrams scope current.entityType current.id trigrams.1)
      scope next.entityType next.id trigrams.2 }

def update (types : Schema.EntityTypes) (newState : Entity) (now : Nanos) :
    Except EntityOpError Entities :=
  match t.entities.get newState.id with
  | none => .error (.notFound newState.id)
  | some current => do
    requireEntityTypeExists types newState.entityType
    let byCanonicalName ← t.rekeyName current (revised current newState now)
    .ok (t.moved current (revised current newState now) byCanonicalName)

def rename (types : Schema.EntityTypes) (id : EntityId) (newName : String) (now : Nanos) :
    Except EntityOpError Entities :=
  match t.entities.get id with
  | none => .error (.notFound id)
  | some current => t.update types { current.toEntity with canonicalName := newName } now

def buried (current : EntityMetadata) (now : Nanos) : Entities :=
  { entities := t.entities.insert current.id
      { current with tombstoned := true, updatedAt := now, aliases := [] }
    byCanonicalName := t.byCanonicalName.remove (nameKey current)
    byType := t.byType
    aliases := removeAliases t.aliases current.scope current.entityType current.id
      (current.aliases.map normalizeName)
    trigrams := removeTrigrams t.trigrams current.scope current.entityType current.id
      (trigramsOfComponents current.canonicalName current.aliases) }

def tombstone (id : EntityId) (now : Nanos) : Except EntityOpError Entities :=
  match t.entities.get id with
  | none => .error (.notFound id)
  | some current => .ok (t.buried current now)

lemma tombstone_ok {t t' : Entities} {id : EntityId} {now : Nanos}
    (h : t.tombstone id now = .ok t') :
    ∃ current, t.entities.get id = some current ∧ t' = t.buried current now := by
  unfold tombstone at h
  split at h
  · cases h
  next current hcur => exact ⟨current, hcur, (Except.ok.inj h).symm⟩

end Entities
end BrainDb
