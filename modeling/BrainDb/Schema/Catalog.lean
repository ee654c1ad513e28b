import BrainDb.Base.Except
import BrainDb.Schema.Document
import BrainDb.Schema.Vocabulary

namespace BrainDb.Schema

class Unicode where
  (isAlphanumeric isWhitespace isControl : Char → Bool)

@[reducible] def asciiClasses : Unicode where
  isAlphanumeric := Char.isAlphanum
  isWhitespace := Char.isWhitespace
  isControl c := c.toNat < 32 || c.toNat = 127

def validateIdentifier (length max : Nat) (label s : String) : Except VocabularyError Unit :=
  match s.toList with
  | [] => .error (.invalidIdentifier (label ++ " must not be empty"))
  | c :: cs =>
    if max < length then .error (.invalidIdentifier (label ++ " exceeds " ++ toString max ++ " chars"))
    else if !c.isLower then .error (.invalidIdentifier (label ++ " must start with [a-z]"))
    else if (c :: cs).all fun c => c.isLower || c.isDigit || c == '_' then .ok ()
    else .error (.invalidIdentifier (label ++ " must match [a-z][a-z0-9_]*"))

variable (s : String)

def validatePredicateNamespace : Except VocabularyError Unit :=
  validateIdentifier s.utf8ByteSize 32 "namespace" s

def validateRelationNamespace : Except VocabularyError Unit :=
  validateIdentifier s.length 32 "namespace" s

def validateRelationName : Except VocabularyError Unit :=
  validateIdentifier s.length 64 "name" s

def checkNameChars [Unicode] (first : Bool) : List Char → Except VocabularyError Unit
  | [] => .ok ()
  | c :: cs =>
    if c == ':' || Unicode.isWhitespace c || Unicode.isControl c then
      .error (.invalidIdentifier "name must not contain ':', whitespace, or control characters")
    else if first && !Unicode.isAlphanumeric c then
      .error (.invalidIdentifier "name must start with a letter or digit")
    else if !Unicode.isAlphanumeric c && c != '_' && c != '-' then
      .error (.invalidIdentifier "name may contain only letters, digits, '_', or '-'")
    else checkNameChars false cs

def validatePredicateName [Unicode] : Except VocabularyError Unit :=
  if s = "" then .error (.invalidIdentifier "name must not be empty")
  else if 64 < s.length then .error (.invalidIdentifier "name exceeds 64 characters")
  else checkNameChars true s.toList

def validateExtractorNamespace : Except VocabularyError Unit :=
  if s = "" then .error (.invalidIdentifier "namespace must be non-empty")
  else if 32 < s.utf8ByteSize then .error (.invalidIdentifier "namespace exceeds 32-char limit")
  else .ok ()

def validateExtractorName : Except VocabularyError Unit :=
  if s = "" then .error (.invalidIdentifier "name must be non-empty")
  else if 64 < s.length then .error (.invalidIdentifier "name exceeds 64-char limit")
  else .ok ()

def validatePredicateQName [Unicode] (q : QName) : Except VocabularyError Unit := do
  validatePredicateNamespace q.nspace
  validatePredicateName q.name

def validateRelationQName (q : QName) : Except VocabularyError Unit := do
  validateRelationNamespace q.nspace
  validateRelationName q.name

structure ScopedName where
  namespaceId : NamespaceId
  name : String

instance : LinearOrder ScopedName :=
  LinearOrder.lift' (fun k => toLex (k.namespaceId, k.name)) fun ⟨_, _⟩ ⟨_, _⟩ h => by simpa using h

structure VersionKey where
  nspace : String
  version : Nat

instance : LinearOrder VersionKey :=
  LinearOrder.lift' (fun k => toLex (k.nspace, k.version)) fun ⟨_, _⟩ ⟨_, _⟩ h => by simpa using h

structure EntityTypeDefinition where
  id : Nat
  namespaceId : NamespaceId
  name : String
  schemaBlob : List UInt8
  createdAt : Nanos

structure EntityTypes where
  rows : Table Nat EntityTypeDefinition
  byScope : Table ScopedName Nat

structure PredicateConstraints where
  kind : StatementKindAst
  (objectType objectEntityType subjectEntityType : Nat)
  description : String
  isStateful : Bool
  deriving DecidableEq

def PredicateConstraints.open : PredicateConstraints :=
  { kind := .any, objectType := 0, objectEntityType := 0, subjectEntityType := 0, description := ""
    isStateful := false }

structure RelationConstraints where
  (fromType toType : Nat)
  cardinality : Cardinality
  isSymmetric : Bool
  description : String
  deriving DecidableEq

def RelationConstraints.open : RelationConstraints :=
  { fromType := 0, toType := 0, cardinality := .manyToMany, isSymmetric := false, description := "" }

structure ExtractorDefinition where
  id : Nat
  qname : QName
  kind : ExtractorKind
  schemaVersion : Nat
  definition : ExtractorDef
  createdAt : Nanos

structure Extractors where
  rows : Table Nat ExtractorDefinition
  byQname : Table QName Nat

structure KindDefinition where
  byteId : Nat
  qname : QName
  cardinality : KindCardinality
  temporal : TemporalModel
  polarity : Bool
  hint : String
  schemaVersion : Nat
  createdAt : Nanos

structure Kinds where
  rows : Table QName KindDefinition
  byByte : Table Nat QName

structure Namespaces where
  names : Table Nat String
  byName : Table String Nat

structure SchemaVersionRow where
  version : Nat
  uploadedAt : Nanos
  source : Document
  sourceText : Option String

structure Catalog where
  namespaces : Namespaces
  entityTypes : EntityTypes
  predicates : Vocabulary PredicateConstraints
  relationTypes : Vocabulary RelationConstraints
  extractors : Extractors
  kinds : Kinds
  versions : Table VersionKey SchemaVersionRow
  active : Table String Nat

def Catalog.empty : Catalog :=
  { namespaces := ⟨.empty, .empty⟩, entityTypes := ⟨.empty, .empty⟩, predicates := .empty
    relationTypes := .empty, extractors := ⟨.empty, .empty⟩, kinds := ⟨.empty, .empty⟩
    versions := .empty, active := .empty }

inductive SchemaError where
  | versionOverflow (nspace : String)
  | entityTypeAlreadyExists (name : String) (existingId : Nat)
  | predicate (e : VocabularyError)
  | relationType (e : VocabularyError)
  | extractor (e : VocabularyError)
  | kindConflict (q : QName)
  | kindCapacity
  | exhausted
  | revalidateFailed (errors : List ValidationErrorCode)
  deriving DecidableEq

def withError {E E' A : Type} (f : E → E') : Except E A → Except E' A
  | .ok a => .ok a
  | .error e => .error (f e)

def systemNamespaceId : NamespaceId := 0

def Namespaces.internOrGet (n : Namespaces) (name : String) :
    Except SchemaError (NamespaceId × Namespaces) :=
  if name = systemNamespace then .ok (systemNamespaceId, n)
  else
    match n.byName.get name with
    | some id => .ok (id, n)
    | none =>
      if n.names.maxKey < u32Max then
        let id := n.names.maxKey + 1
        .ok (id, { names := n.names.insert id name, byName := n.byName.insert name id })
      else .error .exhausted

variable (t : EntityTypes) (ns : NamespaceId) (name : String)

def EntityTypes.own : Option EntityTypeDefinition :=
  (t.byScope.get ⟨ns, name⟩).bind t.rows.get

def EntityTypes.lookup : Option EntityTypeDefinition :=
  (t.own ns name).or (if ns = systemNamespaceId then none else t.own systemNamespaceId name)

def EntityTypes.intern (blob : List UInt8) (now : Nanos) : Except SchemaError EntityTypes :=
  match t.own ns name with
  | some row =>
    if row.schemaBlob = blob then .ok t else .error (.entityTypeAlreadyExists name row.id)
  | none =>
    if t.rows.maxKey < u32Max then
      let id := t.rows.maxKey + 1
      let row := { id, namespaceId := ns, name, schemaBlob := blob, createdAt := now }
      .ok { rows := t.rows.insert id row, byScope := t.byScope.insert ⟨ns, name⟩ id }
    else .error .exhausted

def Extractors.intern (t : Extractors) (q : QName) (kind : ExtractorKind) (version : Nat)
    (definition : ExtractorDef) (now : Nanos) : Except VocabularyError Extractors := do
  validateExtractorNamespace q.nspace
  validateExtractorName q.name
  match t.byQname.get q with
  | some id =>
    match t.rows.get id with
    | none => .error .corrupt
    | some row =>
      if row.kind = kind ∧ row.schemaVersion = version ∧ row.definition = definition then .ok t
      else .error (.alreadyExists q id)
  | none =>
    if t.rows.maxKey < u32Max then
      let id := t.rows.maxKey + 1
      let row := { id, qname := q, kind, schemaVersion := version, definition, createdAt := now }
      .ok { rows := t.rows.insert id row, byQname := t.byQname.insert q id }
    else .error .exhausted

def Extractors.lookup (t : Extractors) (q : QName) : Option ExtractorDefinition :=
  (t.byQname.get q).bind t.rows.get

def Extractors.dropNamespace (t : Extractors) (nspace : String) : Extractors :=
  let victims := t.rows.entries.filter fun e => e.2.qname.nspace = nspace
  { rows := victims.foldl (fun r e => r.remove e.1) t.rows
    byQname := victims.foldl (fun r e => r.remove e.2.qname) t.byQname }

def firstCustomByte : Nat := 6

def u8Max : Nat := 255

def Kinds.intern (t : Kinds) (q : QName) (k : KindDef) (version : Nat) (now : Nanos) :
    Except SchemaError Kinds :=
  match t.rows.get q with
  | some row =>
    if row.cardinality = k.cardinality ∧ row.temporal = k.temporal ∧ row.polarity = k.polarity then
      .ok t
    else .error (.kindConflict q)
  | none =>
    let top := max (firstCustomByte - 1) t.byByte.maxKey
    if top < u8Max then
      let byteId := top + 1
      let row :=
        { byteId, qname := q, cardinality := k.cardinality, temporal := k.temporal
          polarity := k.polarity, hint := k.hint.getD "", schemaVersion := version
          createdAt := now }
      .ok { rows := t.rows.insert q row, byByte := t.byByte.insert byteId q }
    else .error .kindCapacity

def objectTypeByte : ObjectTypeDecl → Nat
  | .any => 0
  | .entity _ => 1
  | .value _ => 2
  | .memory => 3
  | .statement => 4

def declaredObjectEntityType : ObjectTypeDecl → Option String
  | .entity t => if t = "Any" then none else some t
  | _ => none

def resolveEntityType : Nat :=
  if name = "Any" then 0 else (t.lookup ns name).elim 0 (·.id)

def predicateConstraints (p : PredicateDef) : PredicateConstraints :=
  { kind := p.kind
    objectType := objectTypeByte p.object
    objectEntityType := (declaredObjectEntityType p.object).elim 0 (resolveEntityType t ns)
    subjectEntityType :=
      match p.subject with
      | some (.entity name) => resolveEntityType t ns name
      | some .any | none => 0
    description := p.description.getD ""
    isStateful := p.resolvedStateful }

def relationConstraints (r : RelationTypeDef) : RelationConstraints :=
  { fromType := resolveEntityType t ns r.fromType
    toType := resolveEntityType t ns r.toType
    cardinality := r.cardinality
    isSymmetric := r.symmetric
    description := r.description.getD "" }

section
variable [Unicode]

def predicateIntern (v : Vocabulary PredicateConstraints) (q : QName) (c : PredicateConstraints)
    (version : Nat) (now : Nanos) :
    Except VocabularyError (Nat × Vocabulary PredicateConstraints) := do
  validatePredicateQName q
  v.intern q c version now

def relationTypeIntern (v : Vocabulary RelationConstraints) (q : QName) (c : RelationConstraints)
    (version : Nat) (now : Nanos) :
    Except VocabularyError (Nat × Vocabulary RelationConstraints) := do
  validateRelationQName q
  v.intern q c version now

def predicateInternOrGet (v : Vocabulary PredicateConstraints) (q : QName) (firstSeenLsn : Nat)
    (now : Nanos) : Except VocabularyError (Nat × Vocabulary PredicateConstraints) := do
  validatePredicateQName q
  v.internOrGet q .open firstSeenLsn now

def relationTypeInternOrGet (v : Vocabulary RelationConstraints) (q : QName) (firstSeenLsn : Nat)
    (now : Nanos) : Except VocabularyError (Nat × Vocabulary RelationConstraints) := do
  validateRelationQName q
  v.internOrGet q .open firstSeenLsn now

def synonym (v : Vocabulary PredicateConstraints) (q : QName) (near : Option Nat) : Option Nat :=
  near.filter fun id => (v.rows.get id).any fun row =>
    row.qname.nspace = q.nspace && !row.origin.isSchemaDeclared

def resolveOrInternPredicate (v : Vocabulary PredicateConstraints) (q : QName) (near : Option Nat)
    (now : Nanos) : Except VocabularyError (Nat × Vocabulary PredicateConstraints) := do
  validatePredicateQName q
  match v.byQname.get q with
  | some id => .ok (id, v)
  | none =>
    match synonym v q near with
    | none => predicateInternOrGet v q 0 now
    | some target =>
      match v.aliasQname q target with
      | .ok v' => .ok (target, v')
      | .error _ => predicateInternOrGet v q 0 now

variable {v : Vocabulary PredicateConstraints}

omit [Unicode] in
lemma synonym_some {q : QName} {near : Option Nat} {id : Nat} (h : synonym v q near = some id) :
    ∃ row, v.rows.get id = some row ∧ row.qname.nspace = q.nspace ∧
      v.aliasQname q id = .ok { v with byQname := v.byQname.insert q id } := by
  have hany := (Option.filter_eq_some_iff.mp h).2
  cases hrow : v.rows.get id with
  | none => simp [hrow] at hany
  | some row =>
    simp only [hrow, Option.any_some, Bool.and_eq_true, decide_eq_true_eq,
      Bool.not_eq_eq_eq_not, Bool.not_true] at hany
    exact ⟨row, rfl, hany.1, by simp [Vocabulary.aliasQname, hrow, hany.2]⟩

lemma resolveOrInternPredicate_cases {v' : Vocabulary PredicateConstraints} {q : QName}
    {near : Option Nat} {id : Nat} {now : Nanos}
    (h : resolveOrInternPredicate v q near now = .ok (id, v')) : (v.byQname.get q ≠ none ∧ v' = v) ∨
      (v.byQname.get q = none ∧ synonym v q near = some id ∧
        v' = { v with byQname := v.byQname.insert q id }) ∨
      (v.byQname.get q = none ∧ synonym v q near = none ∧
        predicateInternOrGet v q 0 now = .ok (id, v')) := by
  obtain ⟨_, _, hrest⟩ := ExceptLemmas.bind_ok h
  split at hrest
  next k hq =>
    cases hrest
    exact .inl ⟨by simp [hq], rfl⟩
  next hq =>
    split at hrest
    next hnone => exact .inr (.inr ⟨hq, hnone, hrest⟩)
    next target htgt =>
      obtain ⟨_, _, _, halias⟩ := synonym_some htgt
      rw [halias] at hrest
      cases hrest
      exact .inr (.inl ⟨hq, htgt, rfl⟩)

def applyItem (nspace : String) (ns : NamespaceId) (version : Nat) (now : Nanos) (c : Catalog) :
    SchemaItem → Except SchemaError Catalog
  | .entityType e => do
    let entityTypes ← c.entityTypes.intern ns e.name [] now
    .ok { c with entityTypes }
  | .predicate p => do
    let constraints := predicateConstraints c.entityTypes ns p
    let (_, predicates) ←
      withError .predicate (predicateIntern c.predicates ⟨nspace, p.name⟩ constraints version now)
    .ok { c with predicates }
  | .relationType r => do
    let constraints := relationConstraints c.entityTypes ns r
    let (_, relationTypes) ← withError .relationType
      (relationTypeIntern c.relationTypes ⟨nspace, r.name⟩ constraints version now)
    .ok { c with relationTypes }
  | .extractor x => do
    let extractors ←
      withError .extractor (c.extractors.intern ⟨nspace, x.name⟩ x.kind version x now)
    .ok { c with extractors }
  | .kind k => do
    let kinds ← c.kinds.intern ⟨nspace, k.name⟩ k version now
    .ok { c with kinds }

def applyItems (nspace : String) (ns : NamespaceId) (version : Nat) (now : Nanos) :
    Catalog → List SchemaItem → Except SchemaError Catalog
  | c, [] => .ok c
  | c, item :: items => do
    let c ← applyItem nspace ns version now c item
    applyItems nspace ns version now c items

variable (c : Catalog) (d : Document) (version : Nat)

def applySchemaDefinitions (now : Nanos) :
    Except SchemaError Catalog := do
  let (ns, namespaces) ← c.namespaces.internOrGet d.nspace
  applyItems d.nspace ns version now { c with namespaces } d.items

inductive SourceMode where
  | merge
  | replace

def nextVersion (nspace : String) : Except SchemaError Nat :=
  match c.active.get nspace with
  | some v => if v < u32Max then .ok (v + 1) else .error (.versionOverflow nspace)
  | none => .ok 1

def activeSchema (nspace : String) : Option Document :=
  ((c.active.get nspace).bind fun v => c.versions.get ⟨nspace, v⟩).bind fun row =>
    if row.source.nspace = nspace then some row.source else none

def mergeSchemaItems (active incoming : Document) : List SchemaItem :=
  let keys := incoming.items.map itemKey
  active.items.filter (fun i => !keys.contains (itemKey i)) ++ incoming.items

def storedDocument : SourceMode → Document
  | .replace => d
  | .merge =>
    match activeSchema c d.nspace with
    | some active => { d with items := mergeSchemaItems active d }
    | none => d

def recordVersion (now : Nanos) (mode : SourceMode) : Catalog :=
  { c with
    versions := c.versions.insert ⟨d.nspace, version⟩
      { version, uploadedAt := now, source := storedDocument c d mode, sourceText := d.source }
    active := c.active.insert d.nspace version }

def schemaUploadWithMode (now : Nanos) (mode : SourceMode) :
    Except SchemaError (Nat × Catalog) := do
  let version ← nextVersion c d.nspace
  let c ← applySchemaDefinitions (recordVersion c d version now mode) d version now
  .ok (version, c)

def declaredContext (nspace : String) : DeclaredContext :=
  let docs := [nspace, systemNamespace].filterMap (activeSchema c)
  { entityTypes := docs.flatMap Document.entityNames
    relationTypes := docs.flatMap Document.relationNames }

inductive DropTarget where
  | predicate (name : String)
  | relationType (name : String)
  deriving DecidableEq

structure UpsertSchema where
  document : Document
  createdAt : Nanos
  replaceAll : Bool
  drops : List DropTarget
  deriving DecidableEq

variable (p : UpsertSchema)

def UpsertSchema.destructive : Bool := p.replaceAll || !p.drops.isEmpty

def UpsertSchema.mode : SourceMode :=
  if p.destructive then .replace else .merge

def UpsertSchema.context : DeclaredContext :=
  declaredContext c (if p.destructive then systemNamespace else p.document.nspace)

def dropAll (nspace : String) : Except SchemaError (Nat × Catalog) := do
  withError .predicate (validatePredicateNamespace nspace)
  withError .relationType (validateRelationNamespace nspace)
  withError .extractor (validateExtractorNamespace nspace)
  let extractorCount := (c.extractors.rows.entries.filter fun e => e.2.qname.nspace = nspace).length
  .ok ((c.predicates.declaredIn nspace).length + (c.relationTypes.declaredIn nspace).length +
      extractorCount,
    { c with
      predicates := c.predicates.dropSchemaDeclared nspace
      relationTypes := c.relationTypes.dropSchemaDeclared nspace
      extractors := c.extractors.dropNamespace nspace })

def dropTarget (nspace : String) : DropTarget → Except SchemaError (Nat × Catalog)
  | .predicate name => do
    withError .predicate (validatePredicateQName ⟨nspace, name⟩)
    let (id, predicates) := c.predicates.dropOne ⟨nspace, name⟩
    .ok (id.elim 0 fun _ => 1, { c with predicates })
  | .relationType name => do
    withError .relationType (validateRelationQName ⟨nspace, name⟩)
    let (id, relationTypes) := c.relationTypes.dropOne ⟨nspace, name⟩
    .ok (id.elim 0 fun _ => 1, { c with relationTypes })

def dropTargets (nspace : String) : Nat × Catalog → List DropTarget →
    Except SchemaError (Nat × Catalog)
  | s, [] => .ok s
  | (n, c), t :: ts => do
    let (m, c) ← dropTarget c nspace t
    dropTargets nspace (n + m, c) ts

def applySchemaDelta (nspace : String) (replaceAll : Bool) (drops : List DropTarget) :
    Except SchemaError (Nat × Catalog) := do
  let s ← if replaceAll then dropAll c nspace else .ok (0, c)
  dropTargets nspace s drops

structure UpsertedSchema where
  nspace : String
  (version dropped : Nat)
  deriving DecidableEq

def applyUpsertSchema :
    Except SchemaError (UpsertedSchema × Catalog) := do
  let d := p.document
  let errors := validateWith d (p.context c)
  if errors ≠ [] then .error (.revalidateFailed errors) else
  let (dropped, c) ← applySchemaDelta c d.nspace p.replaceAll p.drops
  let (version, c) ← schemaUploadWithMode c d p.createdAt p.mode
  .ok ({ nspace := d.nspace, version, dropped := min dropped u32Max }, c)
end
end BrainDb.Schema
