import BrainDb.Graph.Names
import BrainDb.Store.Edge

namespace BrainDb
open LinearOrder (lift')

abbrev EntityTypeId := Nat
abbrev StatementId := Nat
abbrev PredicateId := Nat
abbrev ExtractorId := Nat
abbrev AuditId := Nat
abbrev MergeId := Nat
abbrev EvidenceOverflowId := Nat

structure Entity where
  id : EntityId
  entityType : EntityTypeId
  (canonicalName normalizedName : String)
  aliases : List String
  attributes : List UInt8
  mentionCount : Nat
  (createdAt updatedAt : Nanos)
  mergedInto : Option EntityId
  embeddingVersion : Nat
  (tombstoned merged : Bool)
  deriving DecidableEq

structure EntityMetadata extends Entity where
  scope : RowScope
  sessionId : SessionId

def EntityMetadata.fromEntity (e : Entity) (scope : RowScope) : EntityMetadata :=
  { e with scope, sessionId := 0 }

structure CanonicalNameKey where
  scope : RowScope
  entityType : EntityTypeId
  name : String

instance : LinearOrder CanonicalNameKey :=
  lift' (fun k => toLex (k.scope, toLex (k.entityType, k.name)))
    fun ⟨_, _, _⟩ ⟨_, _, _⟩ h => by simpa using h

structure AliasKey where
  scope : RowScope
  entityType : EntityTypeId
  name : String
  entity : EntityId

instance : LinearOrder AliasKey :=
  lift' (fun k => toLex (k.scope, toLex (k.entityType, toLex (k.name, k.entity))))
    fun ⟨_, _, _, _⟩ ⟨_, _, _, _⟩ h => by simpa using h

structure TrigramKey where
  scope : RowScope
  entityType : EntityTypeId
  trigram : Trigram
  entity : EntityId

instance : LinearOrder TrigramKey :=
  lift' (fun k => toLex (k.scope, toLex (k.entityType, toLex (k.trigram, k.entity))))
    fun ⟨_, _, _, _⟩ ⟨_, _, _, _⟩ h => by simpa using h

structure ByTypeKey where
  scope : RowScope
  entityType : EntityTypeId
  entity : EntityId

instance : LinearOrder ByTypeKey :=
  lift' (fun k => toLex (k.scope, toLex (k.entityType, k.entity)))
    fun ⟨_, _, _⟩ ⟨_, _, _⟩ h => by simpa using h

structure Entities where
  entities : Table EntityId EntityMetadata
  byCanonicalName : Table CanonicalNameKey EntityId
  aliases : Table AliasKey Unit
  trigrams : Table TrigramKey Unit
  byType : Table ByTypeKey Unit

def Entities.empty : Entities := ⟨.empty, .empty, .empty, .empty, .empty⟩

inductive StatementKind where
  | fact
  | preference
  | event
  | attribute
  | relation
  | directive
  | custom (byte : Nat) (declared : Schema.firstCustomByte ≤ byte)
  deriving DecidableEq

def StatementKind.asU8 : StatementKind → Nat
  | .fact => 0
  | .preference => 1
  | .event => 2
  | .attribute => 3
  | .relation => 4
  | .directive => 5
  | .custom byte _ => byte

inductive SubjectRef where
  | entity (id : EntityId)
  | memory (id : MemoryId)
  | pending (audit : AuditId)
  deriving DecidableEq

def SubjectRef.bytes : SubjectRef → Nat
  | entity id => id
  | memory id => id
  | pending audit => audit

def SubjectRef.asEntity : SubjectRef → Option EntityId
  | entity id => some id
  | _ => none

inductive StatementValue where
  | text (s : String)
  | integer (i : Int)
  | float (bits : UInt64)
  | bool (b : Bool)
  | unixNanos (t : Nanos)
  | blob (bytes : List UInt8)
  deriving DecidableEq

inductive StatementObject where
  | entity (id : EntityId)
  | value (v : StatementValue)
  | memory (id : MemoryId)
  | statement (id : StatementId)
  deriving DecidableEq

def StatementObject.discriminant : StatementObject → Nat
  | entity _ => 0
  | value _ => 1
  | memory _ => 2
  | statement _ => 3

structure EvidenceEntry where
  memoryId : MemoryId
  confidenceMilli : Nat
  timestamp : Nanos
  extractorId : ExtractorId

inductive EvidenceRef where
  | inline (entries : List EvidenceEntry)
  | overflow (id : EvidenceOverflowId)

inductive TombstoneReason where
  | sourceMemoryForgotten
  | userRequest
  | schemaInvalidation
  | extractorRetraction
  | retract
  | retentionExpired
  deriving DecidableEq

structure Statement where
  id : StatementId
  kind : StatementKind
  subject : SubjectRef
  predicate : PredicateId
  object : StatementObject
  confidence : UInt32
  evidence : EvidenceRef
  extractorId : ExtractorId
  extractedAt : Nanos
  schemaVersion : Nat
  (validFrom validTo eventAt : Option Nanos)
  version : Nat
  (supersededBy supersedes : Option StatementId)
  chainRoot : StatementId
  tombstoned : Bool
  tombstonedAt : Option Nanos
  tombstoneReason : Option TombstoneReason
  recordInvalidatedAt : Option Nanos
  isStateful : Bool

structure StatementMetadata extends Statement where
  scope : RowScope
  sessionId : SessionId
  (isCurrent implicitPredicate : Bool)

structure BySubjectKey where
  scope : RowScope
  (subject kind : Nat)
  predicate : PredicateId
  isCurrent : Bool
  statement : StatementId

instance : LinearOrder BySubjectKey :=
  lift'
    (fun k => toLex (k.scope, toLex (k.subject, toLex (k.kind, toLex (k.predicate,
      toLex (k.isCurrent, k.statement))))))
    fun ⟨_, _, _, _, _, _⟩ ⟨_, _, _, _, _, _⟩ h => by simpa using h

structure BySubjectIdKey where
  scope : RowScope
  subject : Nat
  statement : StatementId

instance : LinearOrder BySubjectIdKey :=
  lift' (fun k => toLex (k.scope, toLex (k.subject, k.statement)))
    fun ⟨_, _, _⟩ ⟨_, _, _⟩ h => by simpa using h

structure ByPredicateKey where
  scope : RowScope
  predicate : PredicateId
  (kind confidenceBucket : Nat)
  statement : StatementId

instance : LinearOrder ByPredicateKey :=
  lift'
    (fun k => toLex (k.scope, toLex (k.predicate, toLex (k.kind,
      toLex (k.confidenceBucket, k.statement)))))
    fun ⟨_, _, _, _, _⟩ ⟨_, _, _, _, _⟩ h => by simpa using h

structure ByPredicateIdKey where
  scope : RowScope
  predicate : PredicateId
  statement : StatementId

instance : LinearOrder ByPredicateIdKey :=
  lift' (fun k => toLex (k.scope, toLex (k.predicate, k.statement)))
    fun ⟨_, _, _⟩ ⟨_, _, _⟩ h => by simpa using h

structure ByObjectKey where
  scope : RowScope
  object : EntityId
  kind : Nat
  statement : StatementId

instance : LinearOrder ByObjectKey :=
  lift' (fun k => toLex (k.scope, toLex (k.object, toLex (k.kind, k.statement))))
    fun ⟨_, _, _, _⟩ ⟨_, _, _, _⟩ h => by simpa using h

structure ByEventTimeKey where
  scope : RowScope
  eventAt : Nanos
  subject : Nat
  statement : StatementId

instance : LinearOrder ByEventTimeKey :=
  lift' (fun k => toLex (k.scope, toLex (k.eventAt, toLex (k.subject, k.statement))))
    fun ⟨_, _, _, _⟩ ⟨_, _, _, _⟩ h => by simpa using h

structure ByEvidenceKey where
  scope : RowScope
  memory : MemoryId
  row : Nat

instance : LinearOrder ByEvidenceKey :=
  lift' (fun k => toLex (k.scope, toLex (k.memory, k.row)))
    fun ⟨_, _, _⟩ ⟨_, _, _⟩ h => by simpa using h

structure ChainKey where
  scope : RowScope
  chainRoot : StatementId
  version : Nat

instance : LinearOrder ChainKey :=
  lift' (fun k => toLex (k.scope, toLex (k.chainRoot, k.version)))
    fun ⟨_, _, _⟩ ⟨_, _, _⟩ h => by simpa using h

structure Statements where
  rows : Table StatementId StatementMetadata
  bySubject : Table BySubjectKey StatementId
  bySubjectId : Table BySubjectIdKey Unit
  byPredicate : Table ByPredicateKey StatementId
  byPredicateId : Table ByPredicateIdKey Unit
  byObjectEntity : Table ByObjectKey StatementId
  byEventTime : Table ByEventTimeKey StatementId
  byEvidence : Table ByEvidenceKey Unit
  chain : Table ChainKey StatementId
  overflow : Table EvidenceOverflowId (List EvidenceEntry)
  embedQueue : Table StatementId Nanos

def Statements.empty : Statements :=
  ⟨.empty, .empty, .empty, .empty, .empty, .empty, .empty, .empty, .empty, .empty, .empty⟩

structure Relation where
  id : RelationId
  relationType : RelationTypeId
  (fromEntity toEntity : EntityId)
  properties : List UInt8
  confidence : UInt32
  evidence : List MemoryId
  extractorId : ExtractorId
  extractedAt : Nanos
  (validFrom validTo : Option Nanos)
  version : Nat
  (supersededBy supersedes : Option RelationId)
  chainRoot : RelationId
  tombstoned : Bool
  tombstonedAt : Option Nanos
  isSymmetric : Bool

def Relation.newRoot (id : RelationId) (relationType : RelationTypeId)
    (fromEntity toEntity : EntityId) (confidence : UInt32) (evidence : List MemoryId)
    (extractorId : ExtractorId) (extractedAt : Nanos) (isSymmetric : Bool) : Relation :=
  { id, relationType, fromEntity, toEntity, properties := [], confidence, evidence, extractorId
    extractedAt, validFrom := none, validTo := none, version := 1, supersededBy := none
    supersedes := none, chainRoot := id, tombstoned := false, tombstonedAt := none, isSymmetric }

structure RelationMetadata where
  scope : RowScope
  sessionId : SessionId
  (source target : NodeRef)
  relationType : RelationTypeId
  chainRoot : RelationId
  properties : List UInt8
  version : Nat
  confidence : UInt32
  extractorId : ExtractorId
  extractedAt : Nanos
  (validFrom validTo : Option Nanos)
  (supersededBy supersedes : Option RelationId)
  evidence : List MemoryId
  tombstoned : Bool
  tombstonedAt : Option Nanos
  (isCurrent isSymmetric : Bool)

structure RelationTables where
  rows : Table RelationId RelationMetadata
  byEvidence : Table ByEvidenceKey Unit

def RelationTables.empty : RelationTables := ⟨.empty, .empty⟩

inductive MergeActor where
  | system
  | space (id : SpaceId)

structure AttributeConflict where
  attributeKey : String
  (survivorValue mergedValue : List UInt8)

structure StatementReroute where
  statement : StatementId
  (subjectChanged objectChanged : Bool)
  (oldVersion newVersion : Nat)
  chainRoot : StatementId

structure RelationReroute where
  relation : RelationId
  (oldFrom oldTo newFrom newTo : EntityId)
  (fromChanged toChanged : Bool)

structure MergeRecord where
  mergeId : MergeId
  (survivor merged : EntityId)
  (mergedAt gracePeriodUntil : Nanos)
  confidence : UInt32
  reason : String
  actor : MergeActor
  aliasesAdded : List String
  trigramsAdded : List Trigram
  attributeConflicts : List AttributeConflict
  (statementsRerouted relationsRerouted mentionCountAdded : Nat)
  reroutedStatements : List StatementReroute
  reroutedRelations : List RelationReroute
  survivorAttributesBefore : List UInt8
  finalized : Bool
  unmergedAt : Nanos
  unmergedBy : MergeActor

def MergeRecord.isUnmerged (r : MergeRecord) : Bool := r.unmergedAt ≠ 0

structure MergeLogKey where
  mergedAt : Nanos
  mergeId : MergeId

instance : LinearOrder MergeLogKey :=
  lift' (fun k => toLex (k.mergedAt, k.mergeId)) fun ⟨_, _⟩ ⟨_, _⟩ h => by simpa using h

structure Graph where
  catalog : Schema.Catalog
  entities : Entities
  mergeLog : Table MergeLogKey MergeRecord
  statements : Statements
  relations : RelationTables
  edges : Edges

def Graph.empty (catalog : Schema.Catalog) : Graph :=
  { catalog, entities := .empty, mergeLog := .empty, statements := .empty, relations := .empty
    edges := .empty }

end BrainDb
