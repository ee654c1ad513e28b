import BrainDb.Graph.Tables

namespace BrainDb
open Schema (Cardinality QName RelationConstraints)

inductive RelationOpError where
  | invalidArgument (reason : String)
  | unknownEntity (id : EntityId)
  | unknownRelationType (id : RelationTypeId)
  | endpointTypeViolation (side : String) (entity : EntityId) (expected actual : EntityTypeId)
  | notFound (id : RelationId)
  | alreadyExists (id : RelationId)
  | alreadyTombstoned (id : RelationId)
  | alreadySuperseded (id successor : RelationId)
  | typeMismatch (old new : RelationTypeId)
  | cardinalityViolation (variant : Cardinality) (conflicting : Nat)

def canonicalPair (a b : EntityId) : EntityId × EntityId := if a ≤ b then (a, b) else (b, a)

inductive EndpointDirection where
  | asGiven
  | swapped

def resolveEndpointDirection (r : Relation) (fromActual toActual : EntityTypeId)
    (declared : RelationConstraints) : Except RelationOpError EndpointDirection :=
  let fromOk := declared.fromType = 0 ∨ declared.fromType = fromActual
  let toOk := declared.toType = 0 ∨ declared.toType = toActual
  if fromOk ∧ toOk then .ok .asGiven
  else if (declared.fromType ≠ 0 ∧ declared.toType ≠ 0) ∧
      declared.fromType = toActual ∧ declared.toType = fromActual then .ok .swapped
  else if fromOk then
    .error (.endpointTypeViolation "to" r.toEntity declared.toType toActual)
  else .error (.endpointTypeViolation "from" r.fromEntity declared.fromType fromActual)

def Relation.oriented (r : Relation) (direction : EndpointDirection) (isSymmetric : Bool) :
    Relation :=
  let ends := match direction with
    | .asGiven => (r.fromEntity, r.toEntity)
    | .swapped => (r.toEntity, r.fromEntity)
  let ends := if isSymmetric then canonicalPair ends.1 ends.2 else ends
  { r with fromEntity := ends.1, toEntity := ends.2, isSymmetric }

def metadataFromRelation (scope : RowScope) (sessionId : SessionId) (r : Relation) :
    RelationMetadata :=
  { scope, sessionId, source := .entity r.fromEntity, target := .entity r.toEntity
    relationType := r.relationType, chainRoot := r.chainRoot, properties := r.properties
    version := r.version, confidence := r.confidence, extractorId := r.extractorId
    extractedAt := r.extractedAt, validFrom := r.validFrom, validTo := r.validTo
    supersededBy := r.supersededBy, supersedes := r.supersedes, evidence := r.evidence
    tombstoned := r.tombstoned, tombstonedAt := r.tombstonedAt
    isCurrent := !r.tombstoned && r.supersededBy.isNone, isSymmetric := r.isSymmetric }

def relationEdgeData (now : Nanos) : EdgeData :=
  { weight := 0x3F800000, origin := 1, derivedBy := 0, createdAt := now }

def Edges.linkRelation (t : Edges) (source target : NodeRef) (ty : RelationTypeId)
    (id : RelationId) (isSymmetric : Bool) (data : EdgeData) : Edges :=
  let t := t.link ⟨source, .typed ty, target, id⟩ data
  if isSymmetric ∧ source ≠ target then t.link ⟨target, .typed ty, source, id⟩ data else t

def RelationTables.insertRow (t : RelationTables) (id : RelationId) (m : RelationMetadata) :
    RelationTables :=
  { rows := t.rows.insert id m
    byEvidence := m.evidence.foldl (fun t mem => t.insert ⟨m.scope, mem, id⟩ ()) t.byEvidence }

variable (g : Graph)

namespace Graph

def requireEntityExists (id : EntityId) : Except RelationOpError EntityTypeId :=
  match g.entities.entities.get id with
  | some row => .ok row.entityType
  | none => .error (.unknownEntity id)

def lookupType (id : RelationTypeId) : Except RelationOpError RelationConstraints :=
  match g.catalog.relationTypes.rows.get id with
  | some row => .ok row.constraints
  | none => .error (.unknownRelationType id)

def currentRelation (scope : RowScope) (id : RelationId) : Bool :=
  (g.relations.rows.get id).any fun m => m.scope = scope && m.isCurrent

def typedEdges (t : Table EdgeKey EdgeData) (anchor : EntityId) (ty : RelationTypeId) :
    List (NodeRef × RelationId) :=
  (t.scan fun k => k.source = .entity anchor ∧ k.kind = .typed ty).map fun e =>
    (e.1.target, e.1.disambiguator)

def findIdenticalActiveRelation (scope : RowScope) (r : Relation) : Option RelationId :=
  ((typedEdges g.edges.forward r.fromEntity r.relationType).find? fun e =>
    e.1 = .entity r.toEntity && e.2 ≠ r.id && g.currentRelation scope e.2).map Prod.snd

def collectTypedConflicts (scope : RowScope) (t : Table EdgeKey EdgeData) (anchor : EntityId)
    (ty : RelationTypeId) (newId : RelationId) (found : List RelationId) : List RelationId :=
  (typedEdges t anchor ty).foldl (fun found e =>
    if e.2 ≠ newId ∧ g.currentRelation scope e.2 ∧ e.2 ∉ found then found ++ [e.2] else found) found

def findCardinalityConflicts (scope : RowScope) (r : Relation) (cardinality : Cardinality) :
    List RelationId :=
  let wantFrom := cardinality = .manyToOne ∨ cardinality = .oneToOne
  let wantTo := cardinality = .oneToMany ∨ cardinality = .oneToOne
  let found := if wantFrom then
    g.collectTypedConflicts scope g.edges.forward r.fromEntity r.relationType r.id [] else []
  if wantTo then
    g.collectTypedConflicts scope g.edges.reverse r.toEntity r.relationType r.id found
  else found

variable (id : RelationId) (m : RelationMetadata)

def writeRelation (now : Nanos) : Graph :=
  { g with
    edges := g.edges.linkRelation m.source m.target m.relationType id m.isSymmetric
      (relationEdgeData now)
    relations := g.relations.insertRow id m }

def insertNewRelation (scope : RowScope) (sessionId : SessionId) (r : Relation) (now : Nanos) :
    Graph :=
  g.writeRelation r.id (metadataFromRelation scope sessionId r) now

def setRelationRow : Graph :=
  { g with relations := { g.relations with rows := g.relations.rows.insert id m } }

def confidenceCheck (bits : UInt32) : Except RelationOpError Unit :=
  if Schema.inUnitInterval bits then .ok ()
  else .error (.invalidArgument "confidence must be in [0, 1] and not NaN")

def supersededRow (old : RelationMetadata) (newId : RelationId) (stamp : Nanos) :
    RelationMetadata :=
  { old with
    supersededBy := some newId
    validTo := some (old.validTo.getD stamp)
    isCurrent := false }

def tombstonedRow (row : RelationMetadata) (now : Nanos) : RelationMetadata :=
  { row with tombstoned := true, tombstonedAt := some now, isCurrent := false }

def successorOf (oldId : RelationId) (old : RelationMetadata) (r : Relation) : Relation :=
  { r with
    version := saturatingAdd u32Max old.version 1
    supersedes := some oldId
    supersededBy := none
    chainRoot := if old.supersedes = none then oldId else old.chainRoot
    isSymmetric := old.isSymmetric }

def relationSupersede (scope : RowScope) (sessionId : SessionId) (oldId : RelationId) (r : Relation)
    (now : Nanos) : Except RelationOpError (RelationId × Graph) := do
  confidenceCheck r.confidence
  match g.relations.rows.get oldId with
  | none => .error (.notFound oldId)
  | some old =>
    if scope ≠ old.scope then .error (.notFound oldId)
    else if old.tombstoned then .error (.alreadyTombstoned oldId)
    else match old.supersededBy with
    | some successor => .error (.alreadySuperseded oldId successor)
    | none =>
      if old.relationType ≠ r.relationType then
        .error (.typeMismatch old.relationType r.relationType)
      else if (g.relations.rows.get r.id).isSome then .error (.alreadyExists r.id)
      else
        let g := g.setRelationRow oldId (supersededRow old r.id r.extractedAt)
        .ok (r.id, g.insertNewRelation scope sessionId (successorOf oldId old r) now)

def placeRelation (scope : RowScope) (sessionId : SessionId) (r : Relation)
    (cardinality : Cardinality) (now : Nanos) : Except RelationOpError (RelationId × Graph) :=
  match g.findIdenticalActiveRelation scope r with
  | some existing => .ok (existing, g)
  | none =>
    match g.findCardinalityConflicts scope r cardinality with
    | [] => .ok (r.id, g.insertNewRelation scope sessionId r now)
    | [conflict] => g.relationSupersede scope sessionId conflict r now
    | conflicting => .error (.cardinalityViolation cardinality conflicting.length)

def relationCreate (scope : RowScope) (sessionId : SessionId) (r : Relation) (now : Nanos) :
    Except RelationOpError (RelationId × Graph) := do
  confidenceCheck r.confidence
  let fromType ← g.requireEntityExists r.fromEntity
  let toType ← g.requireEntityExists r.toEntity
  let declared ← g.lookupType r.relationType
  let direction ← resolveEndpointDirection r fromType toType declared
  if (g.relations.rows.get r.id).isSome then .error (.alreadyExists r.id)
  else
    let stored := r.oriented direction declared.isSymmetric
    g.placeRelation scope sessionId stored declared.cardinality now

def relationTombstone (now : Nanos) : Except RelationOpError Graph :=
  match g.relations.rows.get id with
  | none => .error (.notFound id)
  | some row =>
    if row.tombstoned then .ok g
    else .ok (g.setRelationRow id (tombstonedRow row now))

end Graph

structure UpsertRelation where
  id : RelationId
  ty : RelationTypeId
  session : SessionId
  (source target : EntityId)
  confidence : UInt32
  evidence : List MemoryId
  isSymmetric : Bool
  extractor : ExtractorId
  extractedAt : Nanos
  properties : List UInt8
  (validFrom validTo : Option Nanos)
  internHint : Option QName

inductive RelationPhase where
  | upsert (p : UpsertRelation)
  | supersede (old : RelationId) (replacement : Relation) (stamp : Nanos)
  | tombstone (id : RelationId) (stamp : Nanos)

inductive RelationApplyError where
  | notFound (id : RelationId)
  | vocabulary (e : Schema.VocabularyError)
  | typeMissing (id : RelationTypeId)
  | refused (e : RelationOpError)

variable (p : UpsertRelation)

def UpsertRelation.relation (ty : RelationTypeId) (isSymmetric : Bool) : Relation :=
  { Relation.newRoot p.id ty p.source p.target p.confidence p.evidence p.extractor p.extractedAt
      isSymmetric with
    properties := p.properties, validFrom := p.validFrom, validTo := p.validTo }

namespace Graph

def resolveRelationType (ty : RelationTypeId) (hint : Option QName) (now : Nanos) :
    Except Schema.VocabularyError (RelationTypeId × Graph) :=
  match hint with
  | none => .ok (ty, g)
  | some q => do
    let (ty, relationTypes) ← Schema.relationTypeInternOrGet g.catalog.relationTypes q 0 now
    .ok (ty, { g with catalog := { g.catalog with relationTypes } })

def effectiveIsSymmetric (ty : RelationTypeId) : Except RelationApplyError Bool :=
  match p.internHint with
  | none => .ok p.isSymmetric
  | some _ =>
    match g.catalog.relationTypes.rows.get ty with
    | some row => .ok row.constraints.isSymmetric
    | none => .error (.typeMissing ty)

def applyUpsertRelation (scope : RowScope) (p : UpsertRelation) :
    Except RelationApplyError Graph := do
  let (ty, g) ← (g.resolveRelationType p.ty p.internHint p.extractedAt).mapError .vocabulary
  let isSymmetric ← g.effectiveIsSymmetric p ty
  let created ← (g.relationCreate scope p.session (p.relation ty isSymmetric)
    p.extractedAt).mapError .refused
  .ok created.2

def relationScopeGuard (scope : RowScope) (id : RelationId) : Except RelationApplyError Unit :=
  match g.relations.rows.get id with
  | some m => if m.scope = scope then .ok () else .error (.notFound id)
  | none => .error (.notFound id)

def applyRelation (scope : RowScope) : RelationPhase → Except RelationApplyError Graph
  | .upsert p => g.applyUpsertRelation scope p
  | .supersede old replacement stamp => do
    g.relationScopeGuard scope old
    let superseded ← (g.relationSupersede scope 0 old replacement stamp).mapError .refused
    .ok superseded.2
  | .tombstone id stamp => do
    g.relationScopeGuard scope id
    (g.relationTombstone id stamp).mapError .refused

end Graph
end BrainDb
