import BrainDb.Graph.Entity
import BrainDb.Graph.Relation

namespace BrainDb

inductive EntityMergeOpError where
  | entityNotFound (id : EntityId)
  | selfMerge
  | alreadyMerged (id survivor : EntityId)
  | typeMismatch (survivor merged : EntityTypeId)
  | tombstoned (id : EntityId)
  | lowConfidence (bits : UInt32)
  | outOfGracePeriod
  | notMerged (id : EntityId)
  | auditMissing (id : EntityId)

def mergeConfidence (bits : UInt32) : Bool := 0x3F333333 ≤ bits && bits ≤ 0x3F800000

def SubjectRef.withBytes (id : Nat) : SubjectRef → SubjectRef
  | entity _ => entity id
  | memory _ => memory id
  | pending _ => pending id

namespace Statements
variable (t : Statements)

def sidesOf (scope : RowScope) (entity : EntityId) : Table StatementId (Bool × Bool) :=
  let subjects := t.bySubject.scan fun k => k.scope = scope ∧ k.subject = entity
  let objects := t.byObjectEntity.scan fun k => k.scope = scope ∧ k.object = entity
  let marked := subjects.foldl (fun sides e => sides.insert e.2 (true, false)) Table.empty
  objects.foldl (fun sides e => sides.insert e.2 (((sides.get e.2).getD (false, false)).1, true))
    marked

def chainMax (scope : RowScope) (root : StatementId) : Nat :=
  (t.chain.scan fun k => k.scope = scope ∧ k.chainRoot = root).foldl
    (fun greatest e => max greatest e.1.version) 0

def repoint (scope : RowScope) (old new : EntityId) (subject object : Bool)
    (oldVersion newVersion : Nat) (root : StatementId) (m : StatementMetadata) : Statements :=
  let kind := m.kind.asU8
  let t := if object then { t with
      byObjectEntity := (t.byObjectEntity.remove ⟨scope, old, kind, m.id⟩).insert
        ⟨scope, new, kind, m.id⟩ m.id } else t
  let m := if object then { m with object := .entity new } else m
  if subject then
    let t := { t with
      bySubject := (t.bySubject.remove ⟨scope, old, kind, m.predicate, m.isCurrent, m.id⟩).insert
        ⟨scope, new, kind, m.predicate, m.isCurrent, m.id⟩ m.id
      bySubjectId := (t.bySubjectId.remove ⟨scope, old, m.id⟩).insert ⟨scope, new, m.id⟩ ()
      byEventTime := match m.kind, m.eventAt with
        | .event, some eventAt => (t.byEventTime.remove ⟨scope, eventAt, old, m.id⟩).insert
          ⟨scope, eventAt, new, m.id⟩ m.id
        | _, _ => t.byEventTime
      chain := if newVersion ≠ oldVersion then
        (t.chain.remove ⟨scope, root, oldVersion⟩).insert ⟨scope, root, newVersion⟩ m.id
        else t.chain }
    let m := { m with subject := m.subject.withBytes new, version := newVersion }
    { t with rows := t.rows.insert m.id m }
  else { t with rows := t.rows.insert m.id m }

/-- `reroute_statements`: the versions of a chain are shifted by its greatest one, which is read
before any row is moved. -/
def reroute (scope : RowScope) (merged survivor : EntityId) :
    Statements × List StatementReroute :=
  let rows := (t.sidesOf scope merged).entries.filterMap fun e =>
    match t.rows.get e.1 with
    | some m => if m.scope = scope then some (e.2, m) else none
    | none => none
  rows.foldl (fun acc row =>
    let ((subject, object), m) := row
    let newVersion := if subject then
      saturatingAdd u32Max m.version (t.chainMax scope m.chainRoot) else m.version
    let record : StatementReroute :=
      { statement := m.id, subjectChanged := subject, objectChanged := object
        oldVersion := m.version, newVersion, chainRoot := m.chainRoot }
    (acc.1.repoint scope merged survivor subject object m.version newVersion m.chainRoot m,
      acc.2 ++ [record])) (t, [])

def reverseReroutes (scope : RowScope) (records : List StatementReroute)
    (merged survivor : EntityId) : Statements :=
  records.foldl (fun t r =>
    match t.rows.get r.statement with
    | none => t
    | some m => t.repoint scope survivor merged r.subjectChanged r.objectChanged r.newVersion
        r.oldVersion r.chainRoot m) t

end Statements

def Edges.rewriteRelation (t : Edges) (m : RelationMetadata) (id : RelationId)
    (oldFrom oldTo newFrom newTo : EntityId) (now : Nanos) : Edges :=
  let key (source target : EntityId) : EdgeKey :=
    ⟨.entity source, .typed m.relationType, .entity target, id⟩
  let data := (t.forward.get (key oldFrom oldTo)).getD (relationEdgeData now)
  let t := (t.unlink (key oldFrom oldTo)).1
  let t := if m.isSymmetric ∧ oldFrom ≠ oldTo then (t.unlink (key oldTo oldFrom)).1 else t
  t.linkRelation (.entity newFrom) (.entity newTo) m.relationType id m.isSymmetric data

variable (g : Graph)

namespace Graph

def nodeBytes : NodeRef → Nat
  | .memory id => id
  | .entity id => id

def moveRelation (id : RelationId) (m : RelationMetadata) (oldFrom oldTo newFrom newTo : EntityId)
    (now : Nanos) : Graph :=
  let g := { g with edges := g.edges.rewriteRelation m id oldFrom oldTo newFrom newTo now }
  g.setRelationRow id { m with source := .entity newFrom, target := .entity newTo }

def rerouteRelations (scope : RowScope) (merged survivor : EntityId) (now : Nanos) :
    Graph × List RelationReroute :=
  let affected := g.relations.rows.entries.filter fun e =>
    e.2.scope = scope ∧ (e.2.source = .entity merged ∨ e.2.target = .entity merged)
  affected.foldl (fun acc e =>
    let (id, m) := e
    let fromChanged : Bool := m.source = .entity merged
    let toChanged : Bool := m.target = .entity merged
    let oldFrom := nodeBytes m.source
    let oldTo := nodeBytes m.target
    let newFrom := if fromChanged then survivor else oldFrom
    let newTo := if toChanged then survivor else oldTo
    let pair := if m.isSymmetric then canonicalPair newFrom newTo else (newFrom, newTo)
    let record : RelationReroute :=
      { relation := id, oldFrom, oldTo, newFrom := pair.1, newTo := pair.2, fromChanged, toChanged }
    (acc.1.moveRelation id m oldFrom oldTo pair.1 pair.2 now, acc.2 ++ [record])) (g, [])

def reverseRelationReroutes (records : List RelationReroute) (now : Nanos) : Graph :=
  records.foldl (fun g r =>
    match g.relations.rows.get r.relation with
    | none => g
    | some m => g.moveRelation r.relation m r.newFrom r.newTo r.oldFrom r.oldTo now) g

end Graph

section
variable [TextFolding]

def newAliases (survivor : EntityMetadata) (names : List String) : List String :=
  (names.foldl (fun (acc : List String × List String) name =>
    if normalizeName name ∈ acc.1 then acc
    else (acc.1 ++ [normalizeName name], acc.2 ++ [name]))
    ((survivor.canonicalName :: survivor.aliases).map normalizeName, [])).2

def mergeable (survivor merged : EntityId) (s m : EntityMetadata) :
    Except EntityMergeOpError Unit :=
  if s.tombstoned then .error (.tombstoned survivor)
  else if m.tombstoned then .error (.tombstoned merged)
  else match s.mergedInto, m.mergedInto with
  | some into, _ => .error (.alreadyMerged survivor into)
  | none, some into => .error (.alreadyMerged merged into)
  | none, none =>
    if s.entityType ≠ m.entityType ∨ s.scope ≠ m.scope then
      .error (.typeMismatch s.entityType m.entityType)
    else .ok ()

def attributeConflicts (survivor merged : List UInt8) : List AttributeConflict :=
  if survivor ≠ [] ∧ merged ≠ [] ∧ survivor ≠ merged then [⟨"*", survivor, merged⟩] else []

def survivorRow (s m : EntityMetadata) (aliasesAdded : List String) (now : Nanos) :
    EntityMetadata :=
  { s with
    aliases := s.aliases ++ aliasesAdded
    mentionCount := saturatingAdd u32Max s.mentionCount m.mentionCount
    attributes := if s.attributes = [] then m.attributes else s.attributes
    updatedAt := now }

def mergedRow (s m : EntityMetadata) (now : Nanos) : EntityMetadata :=
  { m with mergedInto := some s.id, merged := true, updatedAt := now }

def Entities.merge (t : Entities) (survivor merged : EntityId) (s m : EntityMetadata)
    (aliasesAdded : List String) (trigramsAdded : List Trigram) (now : Nanos) : Entities :=
  { entities := (t.entities.insert s.id (survivorRow s m aliasesAdded now)).insert m.id
      (mergedRow s m now)
    byCanonicalName := t.byCanonicalName.remove (nameKey m)
    byType := t.byType
    aliases := indexAliases
      (removeAliases t.aliases s.scope m.entityType m.id (m.aliases.map normalizeName))
      s.scope s.entityType s.id (aliasesAdded.map normalizeName)
    trigrams := indexTrigrams
      (removeTrigrams t.trigrams s.scope s.entityType merged
        (trigramsOfComponents m.canonicalName m.aliases))
      s.scope s.entityType survivor trigramsAdded }

def newTrigrams (s m : EntityMetadata) : List Trigram :=
  ((trigramsOfComponents m.canonicalName m.aliases).filter
    (· ∉ trigramsOfComponents s.canonicalName s.aliases)).dedup

namespace Graph

def merged (g : Graph) (mint : MergeId) (survivor merged : EntityId) (s m : EntityMetadata)
    (confidence : UInt32) (reason : String) (actor : MergeActor) (grace : Nat)
    (now : Nanos) : Graph :=
  let aliasesAdded := newAliases s (m.canonicalName :: m.aliases)
  let (statements, reroutedStatements) := g.statements.reroute s.scope merged survivor
  let (g, reroutedRelations) := { g with statements }.rerouteRelations s.scope merged s.id now
  let audit : MergeRecord :=
    { mergeId := mint, survivor, merged, mergedAt := now
      gracePeriodUntil := saturatingAdd u64Max now (min (grace * 1000000000) u64Max)
      confidence, reason, actor, aliasesAdded, trigramsAdded := newTrigrams s m
      attributeConflicts := attributeConflicts s.attributes m.attributes
      statementsRerouted := min reroutedStatements.length u32Max
      relationsRerouted := min reroutedRelations.length u32Max
      mentionCountAdded := m.mentionCount, reroutedStatements, reroutedRelations
      survivorAttributesBefore := s.attributes, finalized := false, unmergedAt := 0
      unmergedBy := .system }
  { g with
    entities := g.entities.merge survivor merged s m aliasesAdded (newTrigrams s m) now
    mergeLog := g.mergeLog.insert ⟨now, mint⟩ audit }

def mergeEntity (mint : MergeId) (survivor merged : EntityId) (confidence : UInt32)
    (reason : String) (actor : MergeActor) (grace : Nat) (now : Nanos) :
    Except EntityMergeOpError Graph :=
  if survivor = merged then .error .selfMerge
  else if !mergeConfidence confidence then .error (.lowConfidence confidence)
  else match g.entities.entities.get survivor, g.entities.entities.get merged with
  | none, _ => .error (.entityNotFound survivor)
  | some _, none => .error (.entityNotFound merged)
  | some s, some m => do
    mergeable survivor merged s m
    .ok (g.merged mint survivor merged s m confidence reason actor grace now)

def findActiveAudit (merged : EntityId) : Option (MergeLogKey × MergeRecord) :=
  g.mergeLog.entries.find? fun e => e.2.merged = merged && !e.2.isUnmerged && !e.2.finalized

end Graph

def Entities.unmerge (t : Entities) (survivor merged : EntityId) (s m : EntityMetadata)
    (audit : MergeRecord) (now : Nanos) : Entities :=
  let contributed := audit.aliasesAdded.map normalizeName
  let stripped := { s with
    aliases := s.aliases.filter fun a => normalizeName a ∉ contributed
    mentionCount := s.mentionCount - audit.mentionCountAdded
    attributes := audit.survivorAttributesBefore
    updatedAt := now }
  let restored := { m with mergedInto := none, merged := false, updatedAt := now }
  { entities := (t.entities.insert s.id stripped).insert m.id restored
    byCanonicalName := t.byCanonicalName.insert (nameKey m) m.id
    byType := t.byType
    aliases := indexAliases (removeAliases t.aliases m.scope s.entityType s.id contributed)
      m.scope m.entityType m.id (m.aliases.map normalizeName)
    trigrams := indexTrigrams
      (removeTrigrams t.trigrams m.scope m.entityType survivor audit.trigramsAdded)
      m.scope m.entityType merged (trigramsOfComponents m.canonicalName m.aliases) }

def Graph.unmerged (survivor merged : EntityId) (s m : EntityMetadata) (key : MergeLogKey)
    (audit : MergeRecord) (actor : MergeActor) (now : Nanos) : Graph :=
  let statements := g.statements.reverseReroutes m.scope audit.reroutedStatements merged survivor
  let g := { g with statements }.reverseRelationReroutes audit.reroutedRelations now
  { g with
    entities := g.entities.unmerge survivor merged s m audit now
    mergeLog := g.mergeLog.insert key
      { audit with unmergedAt := now, unmergedBy := actor, finalized := true } }

def Graph.unmergeEntity (merged : EntityId) (actor : MergeActor) (now : Nanos) :
    Except EntityMergeOpError Graph :=
  match g.entities.entities.get merged with
  | none => .error (.entityNotFound merged)
  | some m =>
    match m.mergedInto with
    | none => .error (.notMerged merged)
    | some survivor =>
      match g.entities.entities.get survivor with
      | none => .error (.entityNotFound survivor)
      | some s =>
        match g.findActiveAudit merged with
        | none => .error (.auditMissing merged)
        | some (key, audit) =>
          if audit.gracePeriodUntil < now then .error .outOfGracePeriod
          else .ok (g.unmerged survivor merged s m key audit actor now)
end
end BrainDb
