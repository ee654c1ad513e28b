import BrainDb.Graph.Tables

namespace BrainDb
open Schema (PredicateConstraints QName StatementKindAst)

class Confidences where
  aggregate : List EvidenceEntry → Nanos → StatementKind → UInt32
  bucket : UInt32 → Nat

inductive StatementOpError where
  | invalidArgument (reason : String)
  | unknownSubject (id : EntityId)
  | unknownPredicate (id : PredicateId)
  | unknownObjectEntity (id : EntityId)
  | subjectEntityTypeMismatch (entity : EntityId) (expected actual : EntityTypeId)
  | objectEntityTypeMismatch (entity : EntityId) (expected actual : EntityTypeId)
  | notFound (id : StatementId)
  | alreadyExists (id : StatementId)
  | alreadyTombstoned (id : StatementId)
  | alreadySuperseded (id successor : StatementId)
  | eventCannotSupersede
  | kindMismatch (old new : StatementKind)
  | subjectMismatch
  | predicateMismatch

def f64Eq (a b : UInt64) : Bool :=
  (a &&& 0x7FFFFFFFFFFFFFFF) ≤ 0x7FF0000000000000 &&
    (a == b || (a ||| b) &&& 0x7FFFFFFFFFFFFFFF == 0)

def StatementObject.sameAs : StatementObject → StatementObject → Bool
  | .value (.float a), .value (.float b) => f64Eq a b
  | a, b => a = b

def SubjectRef.isPending : SubjectRef → Bool
  | pending _ => true
  | _ => false

def Statement.newRoot (id : StatementId) (kind : StatementKind) (subject : SubjectRef)
    (predicate : PredicateId) (object : StatementObject) (confidence : UInt32)
    (evidence : EvidenceRef) (extractorId : ExtractorId) (extractedAt : Nanos)
    (schemaVersion : Nat) : Statement :=
  { id, kind, subject, predicate, object, confidence, evidence, extractorId, extractedAt
    schemaVersion, validFrom := none, validTo := none, eventAt := none, version := 1
    supersededBy := none, supersedes := none, chainRoot := id, tombstoned := false
    tombstonedAt := none, tombstoneReason := none, recordInvalidatedAt := none
    isStateful := false }

def validateTimes (s : Statement) : Except StatementOpError Unit :=
  if s.kind = .event then
    if s.validFrom.isSome ∨ s.validTo.isSome then
      .error (.invalidArgument "Event may not set valid_from_unix_nanos / valid_to_unix_nanos")
    else .ok ()
  else if s.eventAt.isSome then .error (.invalidArgument "only Event may set event_at_unix_nanos")
  else .ok ()

def validateStatementShape (s : Statement) : Except StatementOpError Unit := do
  if !Schema.inUnitInterval s.confidence then
    .error (.invalidArgument "confidence must be in [0, 1] and not NaN")
  validateTimes s
  match s.validFrom, s.validTo with
  | some start, some stop =>
    if stop < start then .error (.invalidArgument "valid_from must be <= valid_to") else .ok ()
  | _, _ => .ok ()

def kindConstraint : StatementKindAst → Option StatementKind
  | .fact => some .fact
  | .preference => some .preference
  | .event => some .event
  | .attribute => some .attribute
  | .relation => some .relation
  | .directive => some .directive
  | .any => none

variable (g : Graph)

namespace Graph

def entityTypeOf (id : EntityId) : Option EntityTypeId :=
  (g.entities.entities.get id).map (·.entityType)

def checkSubject : SubjectRef → Except StatementOpError Unit
  | .entity e =>
    if (g.entities.entities.get e).isSome then .ok () else .error (.unknownSubject e)
  | .memory _ => .ok ()
  | .pending _ => .error (.invalidArgument "pending subjects deferred to phase 22 audits")

def lookupPredicate (id : PredicateId) : Except StatementOpError PredicateConstraints :=
  match g.catalog.predicates.rows.get id with
  | some row => .ok row.constraints
  | none => .error (.unknownPredicate id)

def checkSubjectType (subject : SubjectRef) (declared : EntityTypeId) :
    Except StatementOpError Unit :=
  match subject with
  | .entity e =>
    if declared = 0 then .ok ()
    else match g.entityTypeOf e with
    | none => .error (.unknownSubject e)
    | some actual =>
      if actual = declared then .ok ()
      else .error (.subjectEntityTypeMismatch e declared actual)
  | _ => .ok ()

def checkObjectType (object : StatementObject) (declared : EntityTypeId) :
    Except StatementOpError Unit :=
  match object with
  | .entity e =>
    if declared = 0 then .ok ()
    else match g.entityTypeOf e with
    | none => .error (.unknownObjectEntity e)
    | some actual =>
      if actual = declared then .ok ()
      else .error (.objectEntityTypeMismatch e declared actual)
  | _ => .ok ()

def validateAgainstPredicate (s : Statement) (p : PredicateConstraints) :
    Except StatementOpError Unit := do
  if (kindConstraint p.kind).any (· ≠ s.kind) then
    .error (.invalidArgument "statement kind violates predicate kind_constraint")
  if p.objectType ≠ 0 ∧ p.objectType ≠ s.object.discriminant + 1 then
    .error (.invalidArgument "statement object variant violates predicate object_type_constraint")
  g.checkSubjectType s.subject p.subjectEntityType
  g.checkObjectType s.object p.objectEntityType

def kindSupersedes : StatementKind → Bool
  | .attribute | .directive => true
  | .fact | .preference | .event | .relation => false
  | .custom byte _ =>
    ((g.catalog.kinds.byByte.get byte).bind g.catalog.kinds.rows.get).any fun row =>
      row.cardinality = .single && row.temporal ≠ .event

end Graph

def Statement.row (s : Statement) (scope : RowScope) (sessionId : SessionId) : StatementMetadata :=
  { s with
    scope, sessionId, isCurrent := !s.tombstoned && s.supersededBy.isNone
    implicitPredicate := false }

namespace StatementMetadata
variable (m : StatementMetadata)

def subjectKeyAs (isCurrent : Bool) : BySubjectKey :=
  ⟨m.scope, m.subject.bytes, m.kind.asU8, m.predicate, isCurrent, m.id⟩

def subjectKey : BySubjectKey := m.subjectKeyAs m.isCurrent

def chainKey : ChainKey := ⟨m.scope, m.chainRoot, m.version⟩

def objectKey : Option ByObjectKey :=
  match m.object with
  | .entity e => some ⟨m.scope, e, m.kind.asU8, m.id⟩
  | _ => none

def eventKey : Option ByEventTimeKey :=
  if m.kind = .event then m.eventAt.map fun stamp => ⟨m.scope, stamp, m.subject.bytes, m.id⟩
  else none

def predicateKeyAt [Confidences] (confidence : UInt32) : ByPredicateKey :=
  ⟨m.scope, m.predicate, m.kind.asU8, Confidences.bucket confidence, m.id⟩

def predicateKey [Confidences] : ByPredicateKey :=
  m.predicateKeyAt m.confidence

def superseded (old : StatementMetadata) (new : Statement) (now : Nanos) :
    StatementMetadata :=
  { old with
    supersededBy := some new.id
    validTo := if old.kind = .event then old.validTo
      else some (old.validTo.getD new.extractedAt)
    recordInvalidatedAt := some (if now = 0 then new.extractedAt else now)
    isCurrent := false }

def buried (row : StatementMetadata) (reason : TombstoneReason) (now : Nanos) :
    StatementMetadata :=
  { row with
    tombstoned := true, tombstonedAt := some now, tombstoneReason := some reason
    recordInvalidatedAt := some now, isCurrent := false }

def successor (oldId : StatementId) (old : StatementMetadata) (s : Statement) : Statement :=
  { s with
    version := saturatingAdd u32Max old.version 1
    supersedes := some oldId
    supersededBy := none
    chainRoot := if old.supersedes = none then old.id else old.chainRoot }

end StatementMetadata

namespace Statements
variable (t : Statements)

def evidenceEntries : EvidenceRef → Option (List EvidenceEntry)
  | .inline entries => some entries
  | .overflow id => t.overflow.get id

variable (m : StatementMetadata)

def setRow : Statements :=
  { t with rows := t.rows.insert m.id m }

def flipBySubjectToNoncurrent : Statements :=
  { t with
    bySubject := (t.bySubject.remove (m.subjectKeyAs true)).insert (m.subjectKeyAs false) m.id }

def flipBySubjectToCurrent : Statements :=
  { t with
    bySubject := (t.bySubject.remove (m.subjectKeyAs false)).insert (m.subjectKeyAs true) m.id }

section
variable [Confidences]

def recomputeConfidence (s : Statement) (now : Nanos) : Statement :=
  match t.evidenceEntries s.evidence with
  | some entries =>
    if entries.any fun e => 0 < e.confidenceMilli then
      { s with confidence := Confidences.aggregate entries now s.kind }
    else s
  | none => s

def removeFromPredicateIndex : Statements :=
  if t.byPredicate.get m.predicateKey = some m.id then
    { t with byPredicate := t.byPredicate.remove m.predicateKey }
  else t

def addToPredicateIndex : Statements :=
  { t with byPredicate := t.byPredicate.insert m.predicateKey m.id }

def rekeyPredicateIndex (old new : UInt32) : Statements :=
  if Confidences.bucket old = Confidences.bucket new then t
  else if t.byPredicate.get (m.predicateKeyAt old) = some m.id then
    { t with
      byPredicate := (t.byPredicate.remove (m.predicateKeyAt old)).insert (m.predicateKeyAt new)
        m.id }
  else { t with byPredicate := t.byPredicate.insert (m.predicateKeyAt new) m.id }

def place (memories : List MemoryId) : Statements :=
  { rows := t.rows.insert m.id m
    bySubject := if m.subject.isPending then t.bySubject else t.bySubject.insert m.subjectKey m.id
    bySubjectId := if m.subject.isPending then t.bySubjectId
      else t.bySubjectId.insert ⟨m.scope, m.subject.bytes, m.id⟩ ()
    byPredicate := t.byPredicate.insert m.predicateKey m.id
    byPredicateId := t.byPredicateId.insert ⟨m.scope, m.predicate, m.id⟩ ()
    byObjectEntity := m.objectKey.elim t.byObjectEntity fun k => t.byObjectEntity.insert k m.id
    byEventTime := m.eventKey.elim t.byEventTime fun k => t.byEventTime.insert k m.id
    byEvidence := memories.foldl (fun e mem => e.insert ⟨m.scope, mem, m.id⟩ ()) t.byEvidence
    chain := t.chain.insert m.chainKey m.id
    overflow := t.overflow
    embedQueue := t.embedQueue.insert m.id m.extractedAt }

def insertNewStatement (scope : RowScope) (sessionId : SessionId) (s : Statement) :
    Except StatementOpError Statements :=
  match t.evidenceEntries s.evidence with
  | some entries => .ok (t.place (s.row scope sessionId) (entries.map (·.memoryId)))
  | none => .error (.invalidArgument "evidence overflow id references missing row")

def withdraw (old row : StatementMetadata) : Statements :=
  if old.isCurrent then
    ((t.setRow row).flipBySubjectToNoncurrent old).removeFromPredicateIndex old
  else t.setRow row

def supersedable (scope : RowScope) (oldId : StatementId) (old : StatementMetadata)
    (s : Statement) : Except StatementOpError Unit :=
  if scope ≠ old.scope then .error (.notFound oldId)
  else if old.tombstoned then .error (.alreadyTombstoned oldId)
  else match old.supersededBy with
  | some successor => .error (.alreadySuperseded oldId successor)
  | none =>
    if old.kind = .event then .error .eventCannotSupersede
    else if old.kind ≠ s.kind then .error (.kindMismatch old.kind s.kind)
    else if old.subject.bytes ≠ s.subject.bytes then .error .subjectMismatch
    else if old.predicate ≠ s.predicate then .error .predicateMismatch
    else .ok ()

def statementSupersede (scope : RowScope) (sessionId : SessionId) (oldId : StatementId)
    (s : Statement) (now : Nanos) :
    Except StatementOpError Statements := do
  validateStatementShape s
  match t.rows.get oldId with
  | none => .error (.notFound oldId)
  | some old => do
    supersedable scope oldId old s
    if (t.rows.get s.id).isSome then .error (.alreadyExists s.id)
    else
      (t.withdraw old (old.superseded s now)).insertNewStatement scope sessionId
        (t.recomputeConfidence (old.successor oldId s) s.extractedAt)

def bury (row : StatementMetadata) (reason : TombstoneReason) (now : Nanos) : Statements :=
  { t.withdraw row (row.buried reason now) with embedQueue := t.embedQueue.remove row.id }

def statementTombstone (id : StatementId) (reason : TombstoneReason) (now : Nanos) :
    Except StatementOpError Statements :=
  match t.rows.get id with
  | none => .error (.notFound id)
  | some row => if row.tombstoned then .ok t else .ok (t.bury row reason now)
end

def currentEntries (scope : RowScope) (subject : EntityId) (kind : StatementKind)
    (predicate : PredicateId) : List (BySubjectKey × StatementId) :=
  t.bySubject.scan fun k =>
    k.scope = scope ∧ k.subject = subject ∧ k.kind = kind.asU8 ∧ k.predicate = predicate ∧
      k.isCurrent

def findCurrentStatement (scope : RowScope) (subject : EntityId) (predicate : PredicateId)
    (kind : StatementKind) : Option StatementId :=
  (t.currentEntries scope subject kind predicate).head?.map Prod.snd

def findIdenticalActiveStatement (scope : RowScope) (subject : EntityId) (s : Statement) :
    Option StatementId :=
  (t.currentEntries scope subject s.kind s.predicate).findSome? fun e =>
    if e.2 = s.id then none
    else (t.rows.get e.2).bind fun m =>
      if m.object.sameAs s.object ∧ m.eventAt = s.eventAt then some m.id else none

end Statements

inductive Placement where
  | supersedes (prior : StatementId)
  | repeats (existing : StatementId)
  | fresh

namespace Graph

def priorValue (scope : RowScope) (subject : EntityId) (s : Statement) (p : PredicateConstraints) :
    Option StatementId :=
  if (g.kindSupersedes s.kind || p.isStateful) && s.kind ≠ .event then
    g.statements.findCurrentStatement scope subject s.predicate s.kind
  else none

def placement (scope : RowScope) (s : Statement) (p : PredicateConstraints) : Placement :=
  match s.subject.asEntity with
  | none => .fresh
  | some subject =>
    match g.priorValue scope subject s p with
    | some prior => .supersedes prior
    | none =>
      match g.statements.findIdenticalActiveStatement scope subject s with
      | some existing => .repeats existing
      | none => .fresh

def creatable (s : Statement) : Except StatementOpError PredicateConstraints := do
  validateStatementShape s
  g.checkSubject s.subject
  let p ← g.lookupPredicate s.predicate
  g.validateAgainstPredicate s p
  if (g.statements.rows.get s.id).isSome then .error (.alreadyExists s.id) else .ok p

variable [Confidences]

def statementCreate (scope : RowScope) (sessionId : SessionId) (s : Statement) (now : Nanos) :
    Except StatementOpError (StatementId × Graph) := do
  let p ← g.creatable s
  match g.placement scope s p with
  | .supersedes prior => do
    let statements ← g.statements.statementSupersede scope sessionId prior s now
    .ok (s.id, { g with statements })
  | .repeats existing => .ok (existing, g)
  | .fresh => do
    let statements ← g.statements.insertNewStatement scope sessionId
      (g.statements.recomputeConfidence s now)
    .ok (s.id, { g with statements })

end Graph

structure UpsertStatement where
  id : StatementId
  kind : StatementKind
  session : SessionId
  subject : SubjectRef
  predicate : PredicateId
  object : StatementObject
  confidence : UInt32
  evidence : EvidenceRef
  validFrom : Option Nanos
  extractor : ExtractorId
  extractedAt : Nanos
  schemaVersion : Nat
  internHint : Option QName

def inlineEvidenceCap : Nat := 8

def buildEvidenceRef : EvidenceRef → EvidenceRef
  | .inline entries => .inline (entries.take inlineEvidenceCap)
  | .overflow id => .overflow id

def UpsertStatement.statement (p : UpsertStatement) (predicate : PredicateId) : Statement :=
  { Statement.newRoot p.id p.kind p.subject predicate p.object p.confidence
      (buildEvidenceRef p.evidence) p.extractor p.extractedAt p.schemaVersion with
    validFrom := p.validFrom }

inductive StatementApplyError where
  | vocabulary (e : Schema.VocabularyError)
  | refused (e : StatementOpError)
  | missingAfterCreate (id : StatementId)

namespace Graph

def stampImplicitPredicateFlag (id : StatementId) : Except StatementApplyError Graph :=
  match g.statements.rows.get id with
  | none => .error (.missingAfterCreate id)
  | some row =>
    .ok { g with statements := { g.statements with
      rows := g.statements.rows.insert id { row with implicitPredicate := true } } }

def resolvePredicate [Schema.Unicode] (predicate : PredicateId) (hint : Option QName)
    (now : Nanos) : Except Schema.VocabularyError (PredicateId × Graph) :=
  match hint with
  | none => .ok (predicate, g)
  | some q => do
    let (predicate, predicates) ← Schema.predicateInternOrGet g.catalog.predicates q 0 now
    .ok (predicate, { g with catalog := { g.catalog with predicates } })

variable [Schema.Unicode] [Confidences]

def applyUpsertStatement (scope : RowScope) (p : UpsertStatement) :
    Except StatementApplyError (StatementId × Graph) := do
  let (predicate, g) ← (g.resolvePredicate p.predicate p.internHint p.extractedAt).mapError
    .vocabulary
  let created ← (g.statementCreate scope p.session (p.statement predicate)
    p.extractedAt).mapError .refused
  if p.internHint.isSome then
    let g ← created.2.stampImplicitPredicateFlag p.id
    .ok (p.id, g)
  else .ok (p.id, created.2)

end Graph
end BrainDb
