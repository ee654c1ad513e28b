import BrainDb.Schema.Catalog

namespace BrainDb.Schema

inductive ConflictKind where
  | entityType
  | predicate
  | relationType
  | extractor
  deriving DecidableEq

inductive SchemaOpError where
  | unauthorized (caller nspace : String)
  | invalidRequest (reason : String)
  | schemaConflict (kind : ConflictKind) (name nspace : String)
  | conflict (target : DropTarget) (nspace : String)
  | internal (e : VocabularyError)
  deriving DecidableEq

inductive Preflight where
  | invalid (errors : List ValidationErrorCode)
  | refused (e : SchemaOpError)
  | answered (version : Nat)
  | submit (phase : UpsertSchema)
  deriving DecidableEq

variable (c : Catalog)

def lookupEntityType (nspace name : String) : Option EntityTypeDefinition :=
  c.entityTypes.lookup ((c.namespaces.byName.get nspace).getD systemNamespaceId) name

variable (nspace : String)

def preflightConstraints (p : PredicateDef) : PredicateConstraints :=
  let resolve (name : String) : Nat := (lookupEntityType c nspace name).elim 0 (·.id)
  { kind := p.kind
    objectType := objectTypeByte p.object
    objectEntityType := (declaredObjectEntityType p.object).elim 0 resolve
    subjectEntityType :=
      match p.subject with
      | some (.entity name) => resolve name
      | some .any | none => 0
    description := p.description.getD ""
    isStateful := p.resolvedStateful }

section
variable [Unicode]

def classifyItem : SchemaItem → Except SchemaOpError Bool
  | .entityType e =>
    match lookupEntityType c nspace e.name with
    | none => .ok false
    | some row =>
      if row.schemaBlob = [] then .ok true else .error (.schemaConflict .entityType e.name nspace)
  | .predicate p => do
    withError .internal (validatePredicateQName ⟨nspace, p.name⟩)
    match c.predicates.lookup ⟨nspace, p.name⟩ with
    | none => .ok false
    | some row =>
      if row.constraints = preflightConstraints c nspace p then .ok true
      else .error (.schemaConflict .predicate p.name nspace)
  | .relationType r => do
    withError .internal (validateRelationQName ⟨nspace, r.name⟩)
    match c.relationTypes.lookup ⟨nspace, r.name⟩ with
    | none => .ok false
    | some row =>
      -- the end points are not compared here
      if row.constraints.cardinality = r.cardinality ∧ row.constraints.isSymmetric = r.symmetric ∧
          row.constraints.description = r.description.getD "" then .ok true
      else .error (.schemaConflict .relationType r.name nspace)
  | .extractor x =>
    match c.extractors.lookup ⟨nspace, x.name⟩ with
    | none => .ok false
    | some row =>
      -- nor is the definition
      if row.kind = x.kind then .ok true else .error (.schemaConflict .extractor x.name nspace)
  | .kind _ => .ok false

def classifySchemaMerge (c : Catalog) (nspace : String) :
    List SchemaItem → Except SchemaOpError Bool
  | [] => .ok true
  | item :: items => do
    let idempotent ← classifyItem c nspace item
    let rest ← classifySchemaMerge c nspace items
    .ok (idempotent && rest)

def activeSourceCovers (d : Document) : Bool :=
  match activeSchema c d.nspace with
  | none => d.items.isEmpty
  | some active => d.items.all fun i => (active.items.map itemKey).contains (itemKey i)

structure UploadRequest where
  document : Document
  dryRun : Bool

variable (d : Document)

def uploadPhase (now : Nanos) : UpsertSchema :=
  { document := d, createdAt := now, replaceAll := false, drops := [] }

variable (caller : String)

def handleSchemaUpload (now : Nanos) (req : UploadRequest) : Preflight :=
  let d := req.document
  if checkNamespace d ≠ [] then .invalid (checkNamespace d)
  else if d.nspace ≠ caller then .refused (.unauthorized caller d.nspace)
  else
    let errors := validateWith d (declaredContext c d.nspace)
    if errors ≠ [] then .invalid errors
    else
      match classifySchemaMerge c d.nspace d.items with
      | .error e => .refused e
      | .ok allIdempotent =>
        let current := c.active.get d.nspace
        match allIdempotent && activeSourceCovers c d, current, req.dryRun with
        | true, some version, _ => .answered version
        | _, _, true => .answered (min (current.getD 0 + 1) u32Max)
        | _, _, false => .submit (uploadPhase d now)

variable {req : UploadRequest}

lemma handleSchemaUpload_submit {c : Catalog} {caller : String} {now : Nanos}
    {phase : UpsertSchema} (h : handleSchemaUpload c caller now req = .submit phase) :
    phase = uploadPhase req.document now ∧
      validateWith req.document (declaredContext c req.document.nspace) = [] ∧ ∃ allIdempotent,
        classifySchemaMerge c req.document.nspace req.document.items = .ok allIdempotent := by
  unfold handleSchemaUpload at h
  simp only at h
  split at h
  · cases h
  · split at h
    · cases h
    · split at h
      · cases h
      next hval =>
        split at h
        · cases h
        next allIdempotent hclassify =>
          split at h
          · cases h
          · cases h
          · cases h
            exact ⟨rfl, by simpa using hval, allIdempotent, hclassify⟩

lemma handleSchemaUpload_answered {c : Catalog} {caller : String} {now : Nanos}
    {version : Nat} (hreal : req.dryRun = false)
    (h : handleSchemaUpload c caller now req = .answered version) :
    c.active.get req.document.nspace = some version ∧ activeSourceCovers c req.document = true := by
  unfold handleSchemaUpload at h
  simp only at h
  split at h
  · cases h
  · split at h
    · cases h
    · split at h
      · cases h
      · split at h
        · cases h
        · split at h
          next v hnoop hact =>
            cases h
            simp only [Bool.and_eq_true] at hnoop
            exact ⟨hact, hnoop.2⟩
          next hdry _ =>
            rw [hreal] at hdry
            cases hdry
          · cases h

structure ReplaceRequest where
  document : Document
  forceDropExisting : Bool

def replacePhase (now : Nanos) : UpsertSchema :=
  { document := d, createdAt := now, replaceAll := true, drops := [] }

def handleSchemaReplace (now : Nanos) (req : ReplaceRequest) : Preflight :=
  let d := req.document
  let errors := validateWith d (declaredContext c systemNamespace)
  if !req.forceDropExisting then
    .refused (.invalidRequest
      "schema_replace: force_drop_existing must be true to confirm a destructive replace")
  else if errors ≠ [] then .invalid errors
  else if d.nspace ≠ caller then .refused (.unauthorized caller d.nspace)
  else .submit (replacePhase d now)

structure DropRequest where
  nspace : String
  target : DropTarget
  force : Bool
  text : Option String

def DropTarget.name : DropTarget → String
  | .predicate name => name
  | .relationType name => name

variable (t : DropTarget)

def DropTarget.declares (item : SchemaItem) : Bool :=
  match t, item with
  | .predicate name, .predicate p => p.name == name
  | .relationType name, .relationType r => r.name == name
  | _, _ => false

def narrowed (text : Option String) : Document :=
  { d with items := d.items.eraseP t.declares, source := text }

def dropPhase (text : Option String) (now : Nanos) : UpsertSchema :=
  { document := narrowed d t text, createdAt := now, replaceAll := false, drops := [t] }

def validateTarget : DropTarget → Except VocabularyError Unit
  | .predicate name => validatePredicateQName ⟨nspace, name⟩
  | .relationType name => validateRelationQName ⟨nspace, name⟩

def handleSchemaDrop (now : Nanos) (inUse : Bool) (req : DropRequest) : Preflight :=
  if req.target.name = "" then
    .refused (.invalidRequest "schema_drop: target_name must be non-empty")
  else if req.nspace ≠ caller then .refused (.unauthorized caller req.nspace)
  else
    match (c.active.get req.nspace).bind fun v => c.versions.get ⟨req.nspace, v⟩ with
    | none => .answered 0
    | some row =>
      if !row.source.items.any req.target.declares then .answered row.version
      else
        match validateTarget req.nspace req.target with
        | .error e => .refused (.internal e)
        | .ok () =>
          if inUse && !req.force then .refused (.conflict req.target req.nspace)
          else
            let phase := dropPhase row.source req.target req.text now
            let errors := validateWith phase.document (declaredContext c systemNamespace)
            if errors ≠ [] then .invalid errors else .submit phase
end
end BrainDb.Schema
