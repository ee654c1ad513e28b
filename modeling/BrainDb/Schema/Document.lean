import Mathlib.Data.List.Dedup

namespace BrainDb.Schema

abbrev Json := String

inductive AttrType where
  | text
  | number
  | bool
  | date
  | timestamp
  | enum (variants : List String)
  | ref (target : String)
  deriving DecidableEq

inductive LiteralValue where
  | text (s : String)
  | number (bits : UInt64)
  | bool (b : Bool)
  | date (s : String)
  | timestamp (t : UInt64)
  | null
  deriving DecidableEq

structure AttributeDecl where
  name : String
  attrType : AttrType
  (required unique indexed : Bool)
  default : Option LiteralValue
  deriving DecidableEq

structure EntityTypeDef where
  name : String
  attributes : List AttributeDecl
  deriving DecidableEq

inductive StatementKindAst where
  | fact
  | preference
  | event
  | attribute
  | relation
  | directive
  | any
  deriving DecidableEq

inductive SubjectTypeDecl where
  | entity (entityType : String)
  | any
  deriving DecidableEq

inductive ObjectTypeDecl where
  | value (valueType : AttrType)
  | entity (entityType : String)
  | memory
  | statement
  | any
  deriving DecidableEq

structure PredicateDef where
  name : String
  kind : StatementKindAst
  subject : Option SubjectTypeDecl
  object : ObjectTypeDecl
  stateful : Option Bool
  description : Option String
  retention : Option Json
  deriving DecidableEq

variable (p : PredicateDef)

def PredicateDef.resolvedStateful : Bool :=
  p.stateful.getD <|
    match p.kind with
    | .attribute | .directive => true
    | .fact | .preference | .event | .relation | .any => false

inductive KindCardinality where
  | single
  | set
  deriving DecidableEq

inductive TemporalModel where
  | state
  | event
  | atemporal
  deriving DecidableEq

structure KindDef where
  name : String
  cardinality : KindCardinality
  temporal : TemporalModel
  object : List Json
  polarity : Bool
  hint : Option String
  deriving DecidableEq

inductive Cardinality where
  | oneToOne
  | oneToMany
  | manyToOne
  | manyToMany
  deriving DecidableEq

structure RelationTypeDef where
  (name fromType toType : String)
  cardinality : Cardinality
  symmetric : Bool
  properties : List AttributeDecl
  description : Option String
  deriving DecidableEq

inductive ExtractorKind where
  | pattern
  | classifier
  | llm
  deriving DecidableEq

inductive ExtractorTarget where
  | entity (entityType : String)
  | statement (kind : StatementKindAst)
  | relation (relationType : String)
  | entityOrStatement
  deriving DecidableEq

inductive ExtractorField where
  | patterns (ps : List String)
  | model (name : String)
  | featureExtraction (spec : String)
  | prompt (body : String)
  | examples (json : Json)
  | schema (json : Json)
  | cache (json : Json)
  | cacheTtl (json : Json)
  | confidence (bits : UInt32)
  | confidenceThreshold (bits : UInt32)
  | trigger (json : Json)
  | costBudget (json : Json)
  | dependsOn (names : List String)
  | resolver (json : Json)
  deriving DecidableEq

structure ExtractorDef where
  name : String
  kind : ExtractorKind
  target : ExtractorTarget
  fields : List ExtractorField
  deriving DecidableEq

inductive SchemaItem where
  | entityType (e : EntityTypeDef)
  | predicate (p : PredicateDef)
  | relationType (r : RelationTypeDef)
  | extractor (x : ExtractorDef)
  | kind (k : KindDef)
  deriving DecidableEq

structure Document where
  nspace : String
  items : List SchemaItem
  source : Option String
  deriving DecidableEq

def itemKey : SchemaItem → Nat × String
  | .entityType e => (0, e.name)
  | .predicate p => (1, p.name)
  | .relationType r => (2, r.name)
  | .extractor x => (3, x.name)
  | .kind k => (4, k.name)

def SchemaItem.entityName? : SchemaItem → Option String
  | .entityType e => some e.name
  | _ => none

def SchemaItem.predicateName? : SchemaItem → Option String
  | .predicate p => some p.name
  | _ => none

def SchemaItem.relationName? : SchemaItem → Option String
  | .relationType r => some r.name
  | _ => none

variable (d : Document)

def Document.entityNames : List String := d.items.filterMap (·.entityName?)

def Document.predicateNames : List String := d.items.filterMap (·.predicateName?)

def Document.relationNames : List String := d.items.filterMap (·.relationName?)

inductive ValidationErrorCode where
  | namespaceMissing
  | namespaceInvalidIdentifier
  | duplicateDefinition
  | unresolvedTypeRef
  | predicateKindObjectMismatch
  | relationCardinalitySymmetricInvalid
  | extractorMissingRequired
  | extractorDuplicateField
  | extractorInvalidConfig
  | attributeUniqueOnRefType
  | defaultIncompatibleWithType
  | nameInvalidIdentifier
  | nameTooLong
  deriving DecidableEq

structure DeclaredContext where
  (entityTypes relationTypes : List String)

def systemNamespace : String := "brain"

def isLowerSnakeIdent (s : String) : Bool :=
  match s.toList with
  | [] => false
  | c :: cs => c.isLower && cs.all fun c => c.isLower || c.isDigit || c == '_'

def checkNamespace : List ValidationErrorCode :=
  if d.nspace = "" then [.namespaceMissing]
  else if d.nspace = systemNamespace then [.namespaceInvalidIdentifier]
  else if !isLowerSnakeIdent d.nspace || d.nspace.utf8ByteSize > 32 then
    [.namespaceInvalidIdentifier]
  else []

def checkDuplicates : List ValidationErrorCode :=
  let keys := d.items.map itemKey
  List.replicate (keys.length - keys.dedup.length) .duplicateDefinition

variable (name : String) (entityNames : List String)

def resolvesToEntity : Bool :=
  name == "Any" || entityNames.contains name

def checkTypeName : List ValidationErrorCode :=
  if name = "" then [.nameInvalidIdentifier]
  else if name.utf8ByteSize > 128 then [.nameTooLong]
  else []

def defaultMatchesAttrType : LiteralValue → AttrType → Bool
  | .null, _ => true
  | .text _, .text => true
  | .text _, .date => true
  | .text s, .enum variants => variants.contains s
  | .text _, .ref _ => true
  | .number _, .number => true
  | .number _, .timestamp => true
  | .bool _, .bool => true
  | .date _, .date => true
  | .date _, .text => true
  | .timestamp _, .timestamp => true
  | _, _ => false

def checkAttributeDecl (a : AttributeDecl) : List ValidationErrorCode :=
  (if !isLowerSnakeIdent a.name then [.nameInvalidIdentifier]
    else if a.name.utf8ByteSize > 64 then [.nameTooLong] else []) ++
  (match a.unique, a.attrType with
    | true, .ref _ => [.attributeUniqueOnRefType]
    | _, _ => []) ++
  (match a.default with
    | some lit => if defaultMatchesAttrType lit a.attrType then [] else [.defaultIncompatibleWithType]
    | none => [])

def checkEntityAttributes (e : EntityTypeDef) : List ValidationErrorCode :=
  checkTypeName e.name ++ e.attributes.flatMap checkAttributeDecl

def predicateKindObjectCompatible : StatementKindAst → ObjectTypeDecl → Bool
  | .fact, _ | .attribute, _ | .any, _ => true
  | .preference, .value _ | .preference, .any => true
  | .relation, .entity _ | .relation, .any => true
  | .event, .value _ | .event, .entity _ | .event, .any => true
  | .directive, .value _ | .directive, .any => true
  | _, _ => false

def checkTypeRef : List ValidationErrorCode :=
  if resolvesToEntity name entityNames then [] else [.unresolvedTypeRef]

def checkPredicate (entityNames : List String) : List ValidationErrorCode :=
  checkTypeName p.name ++
  (match p.object with
    | .entity t => checkTypeRef t entityNames
    | _ => []) ++
  (match p.subject with
    | some (.entity t) => checkTypeRef t entityNames
    | _ => []) ++
  if predicateKindObjectCompatible p.kind p.object then [] else [.predicateKindObjectMismatch]

def checkRelation (r : RelationTypeDef) (entityNames : List String) : List ValidationErrorCode :=
  checkTypeName r.name ++ checkTypeRef r.fromType entityNames ++ checkTypeRef r.toType entityNames ++
  (match r.symmetric, r.cardinality with
    | true, .oneToMany | true, .manyToOne => [.relationCardinalitySymmetricInvalid]
    | _, _ => []) ++
  r.properties.flatMap checkAttributeDecl

def fieldDiscriminant : ExtractorField → Nat
  | .patterns _ => 0
  | .model _ => 1
  | .featureExtraction _ => 2
  | .prompt _ => 3
  | .examples _ => 4
  | .schema _ => 5
  | .cache _ => 6
  | .cacheTtl _ => 7
  | .confidence _ => 8
  | .confidenceThreshold _ => 9
  | .trigger _ => 10
  | .costBudget _ => 11
  | .dependsOn _ => 12
  | .resolver _ => 13

def inUnitInterval (bits : UInt32) : Bool := bits ≤ 0x3F800000 || bits == 0x80000000

def checkExtractor (x : ExtractorDef) (entityNames relationNames : List String) :
    List ValidationErrorCode :=
  let has (p : ExtractorField → Bool) := x.fields.any p
  let hasPatterns := has fun | .patterns ps => !ps.isEmpty | _ => false
  let hasModel := has fun | .model _ => true | _ => false
  let hasPrompt := has fun | .prompt _ => true | _ => false
  let counts := x.fields.map fieldDiscriminant
  checkTypeName x.name ++
  (match x.target with
    | .entity t => checkTypeRef t entityNames
    | .relation t => if relationNames.contains t then [] else [.unresolvedTypeRef]
    | .statement _ | .entityOrStatement => []) ++
  ((List.range 14).filter fun i => 1 < counts.count i).map (fun _ => .extractorDuplicateField) ++
  (match x.kind with
    | .pattern => if hasPatterns then [] else [.extractorMissingRequired]
    | .classifier => if hasModel then [] else [.extractorMissingRequired]
    | .llm =>
      (if hasModel then [] else [.extractorMissingRequired]) ++
        if hasPrompt then [] else [.extractorMissingRequired]) ++
  x.fields.flatMap fun
    | .confidence c | .confidenceThreshold c =>
      if inUnitInterval c then [] else [.extractorInvalidConfig]
    | _ => []

def builtinKindNames : List String :=
  ["fact", "preference", "event", "attribute", "relation", "directive"]

def checkKind (k : KindDef) : List ValidationErrorCode :=
  (if isLowerSnakeIdent k.name then [] else [.namespaceInvalidIdentifier]) ++
  if builtinKindNames.contains k.name.toLower then [.duplicateDefinition] else []

def checkItem (entityNames relationNames : List String) : SchemaItem → List ValidationErrorCode
  | .entityType e => checkEntityAttributes e
  | .predicate p => checkPredicate p entityNames
  | .relationType r => checkRelation r entityNames
  | .extractor x => checkExtractor x entityNames relationNames
  | .kind k => checkKind k

def validateWith (ctx : DeclaredContext) : List ValidationErrorCode :=
  let entityNames := d.entityNames ++ ctx.entityTypes
  let relationNames := d.relationNames ++ ctx.relationTypes
  checkNamespace d ++ checkDuplicates d ++ d.items.flatMap (checkItem entityNames relationNames)

lemma namespace_of_valid {d : Document} {ctx : DeclaredContext} (h : validateWith d ctx = []) :
    d.nspace ≠ "" ∧ d.nspace ≠ systemNamespace ∧ isLowerSnakeIdent d.nspace = true ∧
      d.nspace.utf8ByteSize ≤ 32 := by
  simp only [validateWith, List.append_eq_nil_iff] at h
  have hns := h.1.1
  unfold checkNamespace at hns
  split at hns
  · cases hns
  next hne =>
    split at hns
    · cases hns
    next hsys =>
      split at hns
      · cases hns
      next hok =>
        simp only [Bool.or_eq_true, Bool.not_eq_eq_eq_not, Bool.not_true, decide_eq_true_eq,
          not_or, Bool.not_eq_false] at hok
        exact ⟨hne, hsys, hok.1, by omega⟩

def factPredicate : SchemaItem :=
  .predicate
    { name, kind := .fact, subject := none, object := .any, stateful := none, description := none
      retention := none }

def factDocument (nspace : String) (names : List String) : Document :=
  { nspace, items := names.map factPredicate, source := none }

example : validateWith (factDocument "acme" ["likes", "owns"]) ⟨[], []⟩ = [] := by decide

end BrainDb.Schema
