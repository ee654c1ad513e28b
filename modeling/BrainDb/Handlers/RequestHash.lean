import BrainDb.Base.Framing
import BrainDb.Protocol.Requests
import BrainDb.Handlers.TxnOps

namespace BrainDb.Wire
open List (append_assoc append_cancel_left append_cancel_left_eq append_inj' cons_append nil_append)
open Bytes Framing

inductive Op where
  | encode
  | forget
  | link
  | unlink
  | entityCreate
  | entityUpdate
  | entityRename
  | entityMerge
  | entityTombstone
  | statementCreate
  | statementSupersede
  | statementTombstone
  | statementRetract
  | relationCreate
  | relationSupersede
  | relationTombstone

open Op

def Op.tag : Op → String
  | encode => "encode:"
  | forget => "forget:"
  | link => "link:"
  | unlink => "unlink:"
  | entityCreate => "entity_create:"
  | entityUpdate => "entity_update:"
  | entityRename => "entity_rename:"
  | entityMerge => "entity_merge:"
  | entityTombstone => "entity_tombstone:"
  | statementCreate => "statement_create:"
  | statementSupersede => "statement_supersede:"
  | statementTombstone => "statement_tombstone:"
  | statementRetract => "statement_retract:"
  | relationCreate => "relation_create:"
  | relationSupersede => "relation_supersede:"
  | relationTombstone => "relation_tombstone:"

def leU32 (x : UInt32) : Bytes := leBytes 4 x.toNat

def leU64 (x : UInt64) : Bytes := leBytes 8 x.toNat

def beId (id : MemoryId) : Bytes := beBytes 16 id.val

def memoryKindByte : MemoryKind → UInt8
  | .episodic => 0
  | .semantic => 1
  | .consolidated => 2

def edgeKindByte : EdgeKind → UInt8
  | .caused => 0
  | .followedBy => 1
  | .derivedFrom => 2
  | .similarTo => 3
  | .contradicts => 4
  | .supports => 5
  | .references => 6
  | .partOf => 7

def forgetModeByte : ForgetMode → UInt8
  | .soft => 0
  | .hard => 1

structure EncodeOpEdge where
  target : MemoryId
  kind : EdgeKind
  weight : UInt32

structure EncodeOp where
  text : String
  sessionId : UInt64
  kind : MemoryKind
  salienceInitial : UInt32
  fingerprint : Vector UInt8 16
  edges : List EncodeOpEdge

def hashEncodeEdge (edge : EncodeOpEdge) : Bytes :=
  beId edge.target ++ edgeKindByte edge.kind :: leU32 edge.weight

def hashEncodeOp (op : EncodeOp) : Bytes :=
  utf8 encode.tag ++ utf8 op.text ++ [0] ++ leU64 op.sessionId ++ [0] ++
    [memoryKindByte op.kind] ++ [0] ++ leU32 op.salienceInitial ++ [0] ++ op.fingerprint.toList ++
    [0] ++ leBytes 4 op.edges.length ++ op.edges.flatMap hashEncodeEdge

def hashEncodeRequest (fp : Vector UInt8 16) (req : EncodeRequest) : Bytes :=
  hashEncodeOp
    { text := req.text, sessionId := req.sessionId, kind := defaultKind
      salienceInitial := defaultSalience, fingerprint := fp, edges := [] }

def hashForgetRequest (req : ForgetRequest) : Bytes :=
  utf8 forget.tag ++ beId req.memoryId ++ [0] ++ [forgetModeByte req.mode]

def hashLinkRequest (req : LinkRequest) : Bytes :=
  utf8 link.tag ++ beId req.source ++ [0] ++ beId req.target ++ [0] ++ [edgeKindByte req.kind] ++
    [0] ++ leU32 req.weight

def hashUnlinkRequest (req : UnlinkRequest) : Bytes :=
  utf8 unlink.tag ++ beId req.source ++ [0] ++ beId req.target ++ [0] ++ [edgeKindByte req.kind]

variable (aliases : List String)

def hashAliases : Bytes := items utf8 0 aliases

def hashEntityCreateRequest (req : EntityCreateRequest) : Bytes :=
  utf8 entityCreate.tag ++ leU32 req.entityTypeId ++ [0] ++ utf8 req.canonicalName ++ [0] ++
    hashAliases req.aliases ++ req.attributesBlob ++ [0] ++ leU64 req.sessionId

def hashEntityUpdateRequest (req : EntityUpdateRequest) : Bytes :=
  utf8 entityUpdate.tag ++ req.entityId.toList ++ [0] ++ utf8 req.canonicalName ++ [0] ++
    hashAliases req.aliases ++ req.attributesBlob

def hashEntityRenameRequest (req : EntityRenameRequest) : Bytes :=
  utf8 entityRename.tag ++ req.entityId.toList ++ [0] ++ utf8 req.newCanonicalName ++ [0] ++
    [req.moveToAlias.toUInt8]

def hashEntityMergeRequest (req : EntityMergeRequest) : Bytes :=
  utf8 entityMerge.tag ++ req.survivor.toList ++ [0] ++ req.merged.toList ++ [0] ++
    leU32 req.confidence ++ [0] ++ utf8 req.reason

def hashEntityTombstoneRequest (req : EntityTombstoneRequest) : Bytes :=
  utf8 entityTombstone.tag ++ req.entityId.toList ++ [0] ++ utf8 req.reason

def StatementKind.asStorageByte : StatementKind → UInt8
  | .fact => 0
  | .preference => 1
  | .event => 2
  | .attribute => 3
  | .relation => 4
  | .directive => 5
  | .custom b => b

def hashStatementValue : StatementValue → Bytes
  | .text s => utf8 "vT" ++ utf8 s
  | .integer i => utf8 "vI" ++ leU64 i.toUInt64
  | .float f => utf8 "vF" ++ leU64 f
  | .bool b => utf8 "vB" ++ [b.toUInt8]
  | .unixNanos t => utf8 "vN" ++ leU64 t
  | .blob bytes => utf8 "vL" ++ counted bytes

def hashStatementObject : StatementObject → Bytes
  | .entityRef id => 0 :: (utf8 "e" ++ id.toList)
  | .value v => 1 :: hashStatementValue v
  | .memoryRef id => 2 :: (utf8 "m" ++ id.toList)
  | .statementRef id => 3 :: (utf8 "s" ++ id.toList)

def hashStatementEvidence : EvidenceRef → Bytes
  | .inline ids => utf8 "I" ++ leBytes 4 ids.length ++ ids.flatMap Vector.toList
  | .overflow id => utf8 "O" ++ id.toList

variable (req : StatementCreateRequest)

def hashStatementCreateRequest : Bytes :=
  utf8 statementCreate.tag ++ [req.kind.asStorageByte] ++ [0] ++ req.subject.toList ++ [0] ++
    utf8 req.predicate ++ [0] ++ hashStatementObject req.object ++ [0] ++ leU32 req.confidence ++
    [0] ++ leU32 req.extractorId ++ [0] ++ leU64 req.validFromUnixNanos ++
    leU64 req.validToUnixNanos ++ leU64 req.eventAtUnixNanos ++ leU32 req.schemaVersion ++
    leU64 req.sessionId ++ [0] ++ hashStatementEvidence req.evidence

def hashStatementTombstoneRequest (req : StatementTombstoneRequest) : Bytes :=
  utf8 statementTombstone.tag ++ req.statementId.toList ++ [0] ++ [req.reason] ++ [0] ++
    utf8 req.reasonMessage

def hashStatementRetractRequest (req : StatementRetractRequest) : Bytes :=
  utf8 statementRetract.tag ++ req.statementId.toList ++ [0] ++ [req.reason] ++ [0] ++
    utf8 req.reasonMessage

def hashRelationEvidence : EvidenceRef → Bytes
  | .inline ids => utf8 "inline:" ++ ids.flatMap Vector.toList
  | .overflow id => utf8 "overflow:" ++ id.toList

def hashRelationCreateRequest (req : RelationCreateRequest) : Bytes :=
  utf8 relationCreate.tag ++ utf8 req.relationType ++ [0] ++ req.fromEntity.toList ++
    req.toEntity.toList ++ req.propertiesBlob ++ [0] ++ hashRelationEvidence req.evidence ++
    leU32 req.extractorId ++ leU32 req.confidence ++ leU64 req.validFromUnixNanos ++
    leU64 req.validToUnixNanos ++ leU64 req.sessionId

def hashRelationTombstoneRequest (req : RelationTombstoneRequest) : Bytes :=
  utf8 relationTombstone.tag ++ req.relationId.toList ++ [0] ++ utf8 req.reason

section
variable (blake3 : Bytes → Vector UInt8 32)

def hashStatementSupersedeRequest (req : StatementSupersedeRequest) : Bytes :=
  utf8 statementSupersede.tag ++ req.oldStatementId.toList ++ [0] ++
    (blake3 (hashStatementCreateRequest req.newStatement)).toList

def hashRelationSupersedeRequest (req : RelationSupersedeRequest) : Bytes :=
  utf8 relationSupersede.tag ++ req.oldRelationId.toList ++ [0] ++
    (blake3 (hashRelationCreateRequest req.newRelation)).toList

namespace WriteRequest

def hashInput (fp : Vector UInt8 16) : WriteRequest → Bytes
  | encode req => hashEncodeRequest fp req
  | forget req => hashForgetRequest req
  | link req => hashLinkRequest req
  | unlink req => hashUnlinkRequest req
  | entityCreate req => hashEntityCreateRequest req
  | entityUpdate req => hashEntityUpdateRequest req
  | entityRename req => hashEntityRenameRequest req
  | entityMerge req => hashEntityMergeRequest req
  | entityTombstone req => hashEntityTombstoneRequest req
  | statementCreate req => hashStatementCreateRequest req
  | statementSupersede req => hashStatementSupersedeRequest blake3 req
  | statementTombstone req => hashStatementTombstoneRequest req
  | statementRetract req => hashStatementRetractRequest req
  | relationCreate req => hashRelationCreateRequest req
  | relationSupersede req => hashRelationSupersedeRequest blake3 req
  | relationTombstone req => hashRelationTombstoneRequest req

def hashed (fp : Vector UInt8 16) (r : WriteRequest) : List Bytes :=
  match r with
  | statementSupersede req =>
    [r.hashInput blake3 fp, hashStatementCreateRequest req.newStatement]
  | relationSupersede req => [r.hashInput blake3 fp, hashRelationCreateRequest req.newRelation]
  | _ => [r.hashInput blake3 fp]

def requestHash (fp : Vector UInt8 16) (r : WriteRequest) : Digest :=
  leNat (blake3 (r.hashInput blake3 fp)).toList

end WriteRequest
end

def noId : Uuid := Vector.replicate 16 0

def StatementCreateRequest.fields : StatementCreateRequest :=
  { req with requestId := noId, actAs := none }

def RelationCreateRequest.fields (req : RelationCreateRequest) : RelationCreateRequest :=
  { req with requestId := noId, actAs := none }

namespace WriteRequest

def fields : WriteRequest → WriteRequest
  | encode req => encode { req with requestId := noId, actAs := none }
  | forget req => forget { req with requestId := noId, actAs := none }
  | link req => link { req with requestId := noId, actAs := none }
  | unlink req => unlink { req with requestId := noId, actAs := none }
  | entityCreate req => entityCreate { req with requestId := noId, actAs := none }
  | entityUpdate req => entityUpdate { req with requestId := noId, actAs := none }
  | entityRename req => entityRename { req with requestId := noId, actAs := none }
  | entityMerge req => entityMerge { req with requestId := noId, actAs := none }
  | entityTombstone req => entityTombstone { req with requestId := noId, actAs := none }
  | statementCreate req => statementCreate req.fields
  | statementSupersede req =>
    statementSupersede { req with newStatement := req.newStatement.fields, requestId := noId
                                  actAs := none }
  | statementTombstone req => statementTombstone { req with requestId := noId, actAs := none }
  | statementRetract req => statementRetract { req with requestId := noId, actAs := none }
  | relationCreate req => relationCreate req.fields
  | relationSupersede req =>
    relationSupersede { req with newRelation := req.newRelation.fields, requestId := noId
                                 actAs := none }
  | relationTombstone req => relationTombstone { req with requestId := noId, actAs := none }

def hashedFields (r : WriteRequest) : WriteRequest :=
  match r.fields with
  | encode req =>
    encode { req with txnId := none, occurredAtUnixNanos := none, wait := .ack
                      allowDuplicates := false }
  | forget req => forget { req with txnId := none }
  | link req => link { req with txnId := none }
  | unlink req => unlink { req with txnId := none }
  | req => req

def op : WriteRequest → Op
  | encode _ => .encode
  | forget _ => .forget
  | link _ => .link
  | unlink _ => .unlink
  | entityCreate _ => .entityCreate
  | entityUpdate _ => .entityUpdate
  | entityRename _ => .entityRename
  | entityMerge _ => .entityMerge
  | entityTombstone _ => .entityTombstone
  | statementCreate _ => .statementCreate
  | statementSupersede _ => .statementSupersede
  | statementTombstone _ => .statementTombstone
  | statementRetract _ => .statementRetract
  | relationCreate _ => .relationCreate
  | relationSupersede _ => .relationSupersede
  | relationTombstone _ => .relationTombstone

end WriteRequest

def NulFree (s : String) : Prop := 0 ∉ utf8 s

instance (s : String) : Decidable (NulFree s) := inferInstanceAs (Decidable (_ ∉ _))

def PlainAliases : Prop := ∀ a ∈ aliases, NulFree a ∧ a ≠ ""

instance (aliases : List String) : Decidable (PlainAliases aliases) :=
  inferInstanceAs (Decidable (∀ a ∈ aliases, _ ∧ _))

def StatementKind.Plain : StatementKind → Prop
  | custom b => 6 ≤ b
  | _ => True

def StatementObject.Plain : StatementObject → Prop
  | value (.text s) => NulFree s
  | value (.blob bytes) => bytes.length < 2 ^ 32
  | _ => True

structure StatementCreateRequest.Plain (req : StatementCreateRequest) : Prop where
  kind : req.kind.Plain
  predicate : NulFree req.predicate
  object : req.object.Plain

structure RelationCreateRequest.Plain (req : RelationCreateRequest) : Prop where
  relationType : NulFree req.relationType
  properties : 0 ∉ req.propertiesBlob

def WriteRequest.Plain : WriteRequest → Prop
  | entityCreate req => NulFree req.canonicalName ∧ PlainAliases req.aliases
  | entityUpdate req => NulFree req.canonicalName ∧ PlainAliases req.aliases
  | statementCreate req => req.Plain
  | statementSupersede req => req.newStatement.Plain
  | relationCreate req => req.Plain
  | relationSupersede req => req.newRelation.Plain
  | _ => True

open WriteRequest (hashedFields fields)
variable {s t : Bytes} {fp fp' : Vector UInt8 16}

lemma split_sep {z : UInt8} (h : z :: s = z :: t) : s = t :=
  (List.cons.inj h).2

lemma split_leU32 {x y : UInt32} (h : leU32 x ++ s = leU32 y ++ t) : x = y ∧ s = t :=
  uint32_fixed.split h

lemma split_leU64 {x y : UInt64} (h : leU64 x ++ s = leU64 y ++ t) : x = y ∧ s = t :=
  uint64_fixed.split h

lemma split_beId {x y : MemoryId} (h : beId x ++ s = beId y ++ t) : x = y ∧ s = t :=
  be128_fixed.split h

lemma split_uuid {x y : Uuid} (h : x.toList ++ s = y.toList ++ t) : x = y ∧ s = t :=
  (vector_fixed 16).split h

lemma split_text {x y : String} (hx : NulFree x) (hy : NulFree y)
    (h : utf8 x ++ 0 :: s = utf8 y ++ 0 :: t) : x = y ∧ s = t := by
  obtain ⟨hxy, hst⟩ := split_terminated hx hy h
  exact ⟨utf8_injective hxy, hst⟩

lemma split_aliases {x y : List String} (hx : PlainAliases x) (hy : PlainAliases y)
    (h : hashAliases x ++ s = hashAliases y ++ t) : x = y ∧ s = t := by
  have hpl : ∀ l : List String, PlainAliases l → ∀ a ∈ l, 0 ∉ utf8 a ∧ utf8 a ≠ [] := by
    intro l hl a ha
    have hne : utf8 a ≠ utf8 "" := utf8_injective.ne (hl a ha).2
    exact ⟨(hl a ha).1, hne⟩
  exact items_delimited utf8_injective (hpl x hx) (hpl y hy) h

lemma edgeKindByte_injective : edgeKindByte.Injective := by
  intro a b h
  cases a <;> cases b <;> first | rfl | cases h

lemma forgetModeByte_injective : forgetModeByte.Injective := by
  intro a b h
  cases a <;> cases b <;> first | rfl | cases h

lemma toUInt64_injective : Int64.toUInt64.Injective := by
  rintro ⟨a⟩ ⟨b⟩ h
  exact congrArg Int64.ofUInt64 h

lemma toUInt8_injective : Bool.toUInt8.Injective := by decide

lemma StatementKind.asStorageByte_inj {a b : StatementKind} (ha : a.Plain) (hb : b.Plain)
    (h : a.asStorageByte = b.asStorageByte) : a = b := by
  cases a <;> cases b <;> simp only [asStorageByte, Plain] at ha hb h <;> grind

lemma split_value {x y : StatementValue} (hx : (StatementObject.value x).Plain)
    (hy : (StatementObject.value y).Plain)
    (h : hashStatementValue x ++ 0 :: s = hashStatementValue y ++ 0 :: t) : x = y ∧ s = t := by
  have hT : utf8 "vT" = [118, 84] := by decide
  have hI : utf8 "vI" = [118, 73] := by decide
  have hF : utf8 "vF" = [118, 70] := by decide
  have hB : utf8 "vB" = [118, 66] := by decide
  have hN : utf8 "vN" = [118, 78] := by decide
  have hL : utf8 "vL" = [118, 76] := by decide
  -- the second byte tells the kinds of value apart
  cases x <;> cases y <;>
    simp only [hashStatementValue, hT, hI, hF, hB, hN, hL, cons_append, nil_append,
      List.cons.injEq, true_and] at h <;>
    try exact absurd h.1 (by decide)
  case text.text a b =>
    obtain ⟨hab, hst⟩ := split_text hx hy h
    exact ⟨by rw [hab], hst⟩
  case integer.integer a b =>
    obtain ⟨hab, hst⟩ := split_leU64 h
    exact ⟨by rw [toUInt64_injective hab], split_sep hst⟩
  case float.float a b =>
    obtain ⟨hab, hst⟩ := split_leU64 h
    exact ⟨by rw [hab], split_sep hst⟩
  case bool.bool a b =>
    exact ⟨by rw [toUInt8_injective h.1], h.2⟩
  case unixNanos.unixNanos a b =>
    obtain ⟨hab, hst⟩ := split_leU64 h
    exact ⟨by rw [hab], split_sep hst⟩
  case blob.blob a b =>
    obtain ⟨hab, hst⟩ := counted_delimited hx hy h
    exact ⟨by rw [hab], split_sep hst⟩

lemma split_object {x y : StatementObject} (hx : x.Plain) (hy : y.Plain)
    (h : hashStatementObject x ++ 0 :: s = hashStatementObject y ++ 0 :: t) : x = y ∧ s = t := by
  cases x <;> cases y <;>
    simp only [hashStatementObject, cons_append, append_assoc, List.cons.injEq, true_and,
      append_cancel_left_eq] at h <;>
    try exact absurd h.1 (by decide)
  case value.value a b =>
    obtain ⟨hab, hst⟩ := split_value hx hy h
    exact ⟨by rw [hab], hst⟩
  all_goals
    obtain ⟨hab, hst⟩ := split_uuid h
    exact ⟨by rw [hab], split_sep hst⟩

lemma uuids_injective : (List.flatMap (fun id : Uuid => id.toList)).Injective :=
  (vector_fixed 16).flatMap_inj (by decide)

lemma hashStatementEvidence_injective : hashStatementEvidence.Injective := by
  have hI : utf8 "I" = [73] := by decide
  have hO : utf8 "O" = [79] := by decide
  intro x y h
  cases x <;> cases y <;>
    simp only [hashStatementEvidence, hI, hO, cons_append, nil_append, List.cons.injEq,
      true_and] at h <;>
    try exact absurd h.1 (by decide)
  case inline.inline a b =>
    have hlen : (leBytes 4 a.length).length = (leBytes 4 b.length).length := by simp
    rw [uuids_injective (List.append_inj h hlen).2]
  case overflow.overflow a b =>
    rw [Vector.toList_inj.mp h]

lemma hashRelationEvidence_injective : hashRelationEvidence.Injective := by
  have hi : utf8 "inline:" = [105, 110, 108, 105, 110, 101, 58] := by decide
  have ho : utf8 "overflow:" = [111, 118, 101, 114, 102, 108, 111, 119, 58] := by decide
  intro x y h
  cases x <;> cases y <;>
    simp only [hashRelationEvidence, hi, ho, cons_append, nil_append, List.cons.injEq,
      true_and] at h <;>
    try exact absurd h.1 (by decide)
  case inline.inline a b => rw [uuids_injective h]
  case overflow.overflow a b => rw [Vector.toList_inj.mp h]

lemma hashEncodeRequest_inj {a b : EncodeRequest}
    (h : hashEncodeRequest fp a = hashEncodeRequest fp' b) :
    hashedFields (.encode a) = hashedFields (.encode b) := by
  simp only [hashEncodeRequest, hashEncodeOp, append_assoc, append_cancel_left_eq] at h
  -- what follows the text has one width, so the text may hold the separator
  obtain ⟨htext, hrest⟩ := append_inj' h (by simp [leU64, leU32])
  obtain ⟨hsess, -⟩ := split_leU64 (append_cancel_left hrest)
  simp only [hashedFields, fields, utf8_injective htext, hsess]

lemma hashForgetRequest_inj {a b : ForgetRequest} (h : hashForgetRequest a = hashForgetRequest b) :
    hashedFields (.forget a) = hashedFields (.forget b) := by
  simp only [hashForgetRequest, append_assoc, append_cancel_left_eq] at h
  obtain ⟨hid, h⟩ := split_beId h
  simp only [hashedFields, fields, hid, forgetModeByte_injective (by simpa using h)]

lemma hashLinkRequest_inj {a b : LinkRequest} (h : hashLinkRequest a = hashLinkRequest b) :
    hashedFields (.link a) = hashedFields (.link b) := by
  simp only [hashLinkRequest, append_assoc, cons_append, nil_append, append_cancel_left_eq] at h
  obtain ⟨hsrc, h⟩ := split_beId h
  obtain ⟨htgt, h⟩ := split_beId (split_sep h)
  obtain ⟨hkind, h⟩ := List.cons.inj (split_sep h)
  simp only [hashedFields, fields, hsrc, htgt, edgeKindByte_injective hkind,
    uint32_fixed.inj (split_sep h)]

lemma hashUnlinkRequest_inj {a b : UnlinkRequest} (h : hashUnlinkRequest a = hashUnlinkRequest b) :
    hashedFields (.unlink a) = hashedFields (.unlink b) := by
  simp only [hashUnlinkRequest, append_assoc, cons_append, nil_append, append_cancel_left_eq] at h
  obtain ⟨hsrc, h⟩ := split_beId h
  obtain ⟨htgt, h⟩ := split_beId (split_sep h)
  obtain ⟨hkind, -⟩ := List.cons.inj (split_sep h)
  simp only [hashedFields, fields, hsrc, htgt, edgeKindByte_injective hkind]

lemma hashEntityCreateRequest_inj {a b : EntityCreateRequest}
    (ha : NulFree a.canonicalName ∧ PlainAliases a.aliases)
    (hb : NulFree b.canonicalName ∧ PlainAliases b.aliases)
    (h : hashEntityCreateRequest a = hashEntityCreateRequest b) :
    hashedFields (.entityCreate a) = hashedFields (.entityCreate b) := by
  simp only [hashEntityCreateRequest, append_assoc, cons_append, nil_append,
    append_cancel_left_eq] at h
  obtain ⟨htype, h⟩ := split_leU32 h
  obtain ⟨hname, h⟩ := split_text ha.1 hb.1 (split_sep h)
  obtain ⟨hals, h⟩ := split_aliases ha.2 hb.2 h
  -- the blob may hold anything: the session after it has one width
  obtain ⟨hblob, h⟩ := append_inj' h (by simp [leU64])
  simp only [hashedFields, fields, htype, hname, hals, hblob, uint64_fixed.inj (split_sep h)]

lemma hashEntityUpdateRequest_inj {a b : EntityUpdateRequest}
    (ha : NulFree a.canonicalName ∧ PlainAliases a.aliases)
    (hb : NulFree b.canonicalName ∧ PlainAliases b.aliases)
    (h : hashEntityUpdateRequest a = hashEntityUpdateRequest b) :
    hashedFields (.entityUpdate a) = hashedFields (.entityUpdate b) := by
  simp only [hashEntityUpdateRequest, append_assoc, cons_append, nil_append,
    append_cancel_left_eq] at h
  obtain ⟨hid, h⟩ := split_uuid h
  obtain ⟨hname, h⟩ := split_text ha.1 hb.1 (split_sep h)
  obtain ⟨hals, hblob⟩ := split_aliases ha.2 hb.2 h
  simp only [hashedFields, fields, hid, hname, hals, hblob]

lemma hashEntityRenameRequest_inj {a b : EntityRenameRequest}
    (h : hashEntityRenameRequest a = hashEntityRenameRequest b) :
    hashedFields (.entityRename a) = hashedFields (.entityRename b) := by
  simp only [hashEntityRenameRequest, append_assoc, cons_append, nil_append,
    append_cancel_left_eq] at h
  obtain ⟨hid, h⟩ := split_uuid h
  obtain ⟨hname, h⟩ := append_inj' (split_sep h) (by simp)
  simp only [hashedFields, fields, hid, utf8_injective hname, toUInt8_injective (by simpa using h)]

lemma hashEntityMergeRequest_inj {a b : EntityMergeRequest}
    (h : hashEntityMergeRequest a = hashEntityMergeRequest b) :
    hashedFields (.entityMerge a) = hashedFields (.entityMerge b) := by
  simp only [hashEntityMergeRequest, append_assoc, cons_append, nil_append,
    append_cancel_left_eq] at h
  obtain ⟨hsurv, h⟩ := split_uuid h
  obtain ⟨hmrg, h⟩ := split_uuid (split_sep h)
  obtain ⟨hconf, h⟩ := split_leU32 (split_sep h)
  simp only [hashedFields, fields, hsurv, hmrg, hconf, utf8_injective (split_sep h)]

lemma hashEntityTombstoneRequest_inj {a b : EntityTombstoneRequest}
    (h : hashEntityTombstoneRequest a = hashEntityTombstoneRequest b) :
    hashedFields (.entityTombstone a) = hashedFields (.entityTombstone b) := by
  simp only [hashEntityTombstoneRequest, append_assoc, cons_append, nil_append,
    append_cancel_left_eq] at h
  obtain ⟨hid, h⟩ := split_uuid h
  simp only [hashedFields, fields, hid, utf8_injective (split_sep h)]

lemma hashStatementCreateRequest_inj {a b : StatementCreateRequest} (ha : a.Plain) (hb : b.Plain)
    (h : hashStatementCreateRequest a = hashStatementCreateRequest b) : a.fields = b.fields := by
  unfold hashStatementCreateRequest at h
  simp only [append_assoc, cons_append, nil_append] at h
  obtain ⟨hkind, h⟩ := List.cons.inj (append_cancel_left h)
  obtain ⟨hsubj, h⟩ := split_uuid (split_sep h)
  obtain ⟨hpred, h⟩ := split_text ha.predicate hb.predicate (split_sep h)
  obtain ⟨hobj, h⟩ := split_object ha.object hb.object h
  obtain ⟨hconf, h⟩ := split_leU32 h
  obtain ⟨hextr, h⟩ := split_leU32 (split_sep h)
  obtain ⟨hfrom, h⟩ := split_leU64 (split_sep h)
  obtain ⟨hto, h⟩ := split_leU64 h
  obtain ⟨hev, h⟩ := split_leU64 h
  obtain ⟨hver, h⟩ := split_leU32 h
  obtain ⟨hsess, h⟩ := split_leU64 h
  have hevid := hashStatementEvidence_injective (split_sep h)
  have hkind' := StatementKind.asStorageByte_inj ha.kind hb.kind hkind
  simp only [StatementCreateRequest.fields, hkind', hsubj, hpred, hobj, hconf,
    hextr, hfrom, hto, hev, hver, hsess, hevid]

lemma hashStatementTombstoneRequest_inj {a b : StatementTombstoneRequest}
    (h : hashStatementTombstoneRequest a = hashStatementTombstoneRequest b) :
    hashedFields (.statementTombstone a) = hashedFields (.statementTombstone b) := by
  simp only [hashStatementTombstoneRequest, append_assoc, cons_append, nil_append,
    append_cancel_left_eq] at h
  obtain ⟨hid, h⟩ := split_uuid h
  obtain ⟨hreason, h⟩ := List.cons.inj (split_sep h)
  simp only [hashedFields, fields, hid, hreason, utf8_injective (split_sep h)]

lemma hashStatementRetractRequest_inj {a b : StatementRetractRequest}
    (h : hashStatementRetractRequest a = hashStatementRetractRequest b) :
    hashedFields (.statementRetract a) = hashedFields (.statementRetract b) := by
  simp only [hashStatementRetractRequest, append_assoc, cons_append, nil_append,
    append_cancel_left_eq] at h
  obtain ⟨hid, h⟩ := split_uuid h
  obtain ⟨hreason, h⟩ := List.cons.inj (split_sep h)
  simp only [hashedFields, fields, hid, hreason, utf8_injective (split_sep h)]

lemma hashRelationCreateRequest_inj {a b : RelationCreateRequest} (ha : a.Plain) (hb : b.Plain)
    (h : hashRelationCreateRequest a = hashRelationCreateRequest b) : a.fields = b.fields := by
  simp only [hashRelationCreateRequest, append_assoc, cons_append, nil_append,
    append_cancel_left_eq] at h
  obtain ⟨htype, h⟩ := split_text ha.relationType hb.relationType h
  obtain ⟨hfromEnt, h⟩ := split_uuid h
  obtain ⟨htoEnt, h⟩ := split_uuid h
  obtain ⟨hblob, h⟩ := split_terminated ha.properties hb.properties h
  -- the evidence carries no count: it is what stands before the numbers
  obtain ⟨hevid, h⟩ := append_inj' h (by simp [leU64, leU32])
  obtain ⟨hextr, h⟩ := split_leU32 h
  obtain ⟨hconf, h⟩ := split_leU32 h
  obtain ⟨hfrom, h⟩ := split_leU64 h
  obtain ⟨hto, h⟩ := split_leU64 h
  have hsess : a.sessionId = b.sessionId := uint64_fixed.inj h
  have hevid' := hashRelationEvidence_injective hevid
  simp only [RelationCreateRequest.fields, htype, hfromEnt, htoEnt, hblob, hevid',
    hextr, hconf, hfrom, hto, hsess]

lemma hashRelationTombstoneRequest_inj {a b : RelationTombstoneRequest}
    (h : hashRelationTombstoneRequest a = hashRelationTombstoneRequest b) :
    hashedFields (.relationTombstone a) = hashedFields (.relationTombstone b) := by
  simp only [hashRelationTombstoneRequest, append_assoc, cons_append, nil_append,
    append_cancel_left_eq] at h
  obtain ⟨hid, h⟩ := split_uuid h
  simp only [hashedFields, fields, hid, utf8_injective (split_sep h)]

lemma Op.tag_split {a b : Op} (h : utf8 a.tag ++ s = utf8 b.tag ++ t) : a = b ∧ s = t := by
  have hbeg : ∀ a b : Op, utf8 a.tag <+: utf8 b.tag → a = b := by
    intro a b hp
    cases a <;> cases b <;> first | rfl | exact absurd hp (by decide)
  have hab : a = b := by
    have ha : utf8 a.tag <+: utf8 b.tag ++ t := ⟨s, h⟩
    have hb : utf8 b.tag <+: utf8 b.tag ++ t := ⟨t, rfl⟩
    rcases List.prefix_or_prefix_of_prefix ha hb with hp | hp
    · exact hbeg a b hp
    · exact (hbeg b a hp).symm
  subst hab
  exact ⟨rfl, append_cancel_left h⟩

section
variable {blake3 : Bytes → Vector UInt8 32}

def CollisionFree (blake3 : Bytes → Vector UInt8 32) (xs ys : List Bytes) : Prop :=
  ∀ x ∈ xs, ∀ y ∈ ys, blake3 x = blake3 y → x = y

instance (blake3 : Bytes → Vector UInt8 32) (xs ys : List Bytes) :
    Decidable (CollisionFree blake3 xs ys) :=
  inferInstanceAs (Decidable (∀ x ∈ xs, ∀ y ∈ ys, _ → _))

namespace WriteRequest

lemma tag_prefix_hashInput (fp : Vector UInt8 16) (r : WriteRequest) :
    utf8 r.op.tag <+: r.hashInput blake3 fp := by
  cases r with
  | statementCreate req =>
    unfold hashInput hashStatementCreateRequest
    simp only [append_assoc]
    exact List.prefix_append _ _
  | _ =>
    simp only [hashInput, hashEncodeRequest, hashEncodeOp, hashForgetRequest, hashLinkRequest,
      hashUnlinkRequest, hashEntityCreateRequest, hashEntityUpdateRequest, hashEntityRenameRequest,
      hashEntityMergeRequest, hashEntityTombstoneRequest, hashStatementSupersedeRequest,
      hashStatementTombstoneRequest, hashStatementRetractRequest, hashRelationCreateRequest,
      hashRelationSupersedeRequest, hashRelationTombstoneRequest, append_assoc]
    exact List.prefix_append _ _

variable {r r' : WriteRequest}

lemma op_eq_of_hashInput (h : r.hashInput blake3 fp = r'.hashInput blake3 fp') : r.op = r'.op := by
  obtain ⟨s, hs⟩ := @tag_prefix_hashInput blake3 fp r
  obtain ⟨t, ht⟩ := @tag_prefix_hashInput blake3 fp' r'
  rw [← hs, ← ht] at h
  exact (tag_split h).1

lemma hashInput_hashedFields (fp : Vector UInt8 16) (r : WriteRequest) :
    r.hashedFields.hashInput blake3 fp = r.hashInput blake3 fp := by
  cases r <;> rfl

lemma hashedFields_of_hashInput (hr : r.Plain) (hr' : r'.Plain)
    (hfree : CollisionFree blake3 (r.hashed blake3 fp) (r'.hashed blake3 fp'))
    (h : r.hashInput blake3 fp = r'.hashInput blake3 fp') : r.hashedFields = r'.hashedFields := by
  have hop := op_eq_of_hashInput h
  cases r <;> cases r' <;> cases hop
  case encode.encode => exact hashEncodeRequest_inj h
  case forget.forget => exact hashForgetRequest_inj h
  case link.link => exact hashLinkRequest_inj h
  case unlink.unlink => exact hashUnlinkRequest_inj h
  case entityCreate.entityCreate => exact hashEntityCreateRequest_inj hr hr' h
  case entityUpdate.entityUpdate => exact hashEntityUpdateRequest_inj hr hr' h
  case entityRename.entityRename => exact hashEntityRenameRequest_inj h
  case entityMerge.entityMerge => exact hashEntityMergeRequest_inj h
  case entityTombstone.entityTombstone => exact hashEntityTombstoneRequest_inj h
  case statementCreate.statementCreate a b =>
    simp only [hashedFields, fields, hashStatementCreateRequest_inj hr hr' h]
  case statementSupersede.statementSupersede a b =>
    simp only [hashInput, hashStatementSupersedeRequest, append_assoc] at h
    obtain ⟨hid, hrest⟩ := split_uuid (append_cancel_left h)
    have hdigest := Vector.toList_inj.mp (split_sep hrest)
    have hnew := hfree _ (by simp [hashed]) _ (by simp [hashed]) hdigest
    simp only [hashedFields, fields, hid, hashStatementCreateRequest_inj hr hr' hnew]
  case statementTombstone.statementTombstone => exact hashStatementTombstoneRequest_inj h
  case statementRetract.statementRetract => exact hashStatementRetractRequest_inj h
  case relationCreate.relationCreate a b =>
    simp only [hashedFields, fields, hashRelationCreateRequest_inj hr hr' h]
  case relationSupersede.relationSupersede a b =>
    simp only [hashInput, hashRelationSupersedeRequest, append_assoc] at h
    obtain ⟨hid, hrest⟩ := split_uuid (append_cancel_left h)
    have hdigest := Vector.toList_inj.mp (split_sep hrest)
    have hnew := hfree _ (by simp [hashed]) _ (by simp [hashed]) hdigest
    simp only [hashedFields, fields, hid, hashRelationCreateRequest_inj hr hr' hnew]
  case relationTombstone.relationTombstone => exact hashRelationTombstoneRequest_inj h

lemma hashInput_mem_hashed (fp : Vector UInt8 16) (r : WriteRequest) :
    r.hashInput blake3 fp ∈ r.hashed blake3 fp := by
  cases r <;> simp [hashed]

lemma requestHash_ne (hfree : CollisionFree blake3 (r.hashed blake3 fp) (r'.hashed blake3 fp'))
    (h : r.hashInput blake3 fp ≠ r'.hashInput blake3 fp') :
    r.requestHash blake3 fp ≠ r'.requestHash blake3 fp' := by
  intro hhash
  have hbs : (blake3 (r.hashInput blake3 fp)).toList = (blake3 (r'.hashInput blake3 fp')).toList :=
    calc (blake3 (r.hashInput blake3 fp)).toList
        = leBytes 32 (r.requestHash blake3 fp) := (leBytes_leNat_of_length Vector.length_toList).symm
      _ = leBytes 32 (r'.requestHash blake3 fp') := by rw [hhash]
      _ = _ := leBytes_leNat_of_length Vector.length_toList
  have hdigest := Vector.toList_inj.mp hbs
  exact h (hfree _ (r.hashInput_mem_hashed fp) _ (r'.hashInput_mem_hashed fp') hdigest)

end WriteRequest

/-- For plain requests the hashed bytes tell two different ones apart iff they do not agree in all
the hashed fields; then the second under the request id of the first is refused. -/
theorem request_hash_separates_iff {A : Type} (r r' : WriteRequest) (hr : r.Plain) (hr' : r'.Plain)
    (hfree : ∀ fp fp', CollisionFree blake3 (r.hashed blake3 fp) (r'.hashed blake3 fp')) :
    ((∀ fp fp', r.hashInput blake3 fp = r'.hashInput blake3 fp' → r.fields = r'.fields) ↔
        (r.hashedFields = r'.hashedFields → r.fields = r'.fields)) ∧
      ((r.hashedFields = r'.hashedFields → r.fields = r'.fields) → r.fields ≠ r'.fields →
        ∀ (fp fp' : Vector UInt8 16) (ack : WriteAck A),
          classify (some (r.requestHash blake3 fp)) (some (r'.requestHash blake3 fp')) ack =
            .conflict) := by
  refine ⟨⟨?_, ?_⟩, ?_⟩
  · intro hsep hfields
    refine hsep noId noId ?_
    rw [← r.hashInput_hashedFields, ← r'.hashInput_hashedFields, hfields]
  · intro hcond fp fp' h
    exact hcond (WriteRequest.hashedFields_of_hashInput hr hr' (hfree fp fp') h)
  · intro hcond hne fp fp' ack
    have hinput : r.hashInput blake3 fp ≠ r'.hashInput blake3 fp' := fun h =>
      hne (hcond (WriteRequest.hashedFields_of_hashInput hr hr' (hfree fp fp') h))
    have hhash := WriteRequest.requestHash_ne (hfree fp fp') hinput
    simp [classify, hhash]
end

def firstBytes (bs : Bytes) : Vector UInt8 32 := Vector.ofFn fun i => bs.getD i 0

def sampleEntity (name : String) (aliases : List String) : WriteRequest :=
  .entityCreate
    { entityTypeId := 1, canonicalName := name, aliases, attributesBlob := [], sessionId := 0
      requestId := noId, actAs := none }

def sampleEncode (occurredAt : Option UInt64) : WriteRequest :=
  .encode
    { text := "note", sessionId := 0, requestId := noId, txnId := none
      occurredAtUnixNanos := occurredAt, actAs := none, wait := .ack, allowDuplicates := false }

def sampleAck : WriteAck Unit :=
  { writeId := 0, committedAt := 0, lsnFirst := 0, lsnLast := 0, phaseAcks := [] }

theorem renamed_entity_conflicts :
    classify (some ((sampleEntity "x" ["a"]).requestHash firstBytes noId))
      (some ((sampleEntity "y" ["a"]).requestHash firstBytes noId)) sampleAck = .conflict := by
  have hx : (sampleEntity "x" ["a"]).Plain := ⟨by decide, by decide⟩
  have hy : (sampleEntity "y" ["a"]).Plain := ⟨by decide, by decide⟩
  have hfields : (sampleEntity "x" ["a"]).hashedFields ≠ (sampleEntity "y" ["a"]).hashedFields := by
    decide
  have hfree : ∀ fp fp', CollisionFree firstBytes ((sampleEntity "x" ["a"]).hashed firstBytes fp)
      ((sampleEntity "y" ["a"]).hashed firstBytes fp') := by
    intro fp fp'
    change CollisionFree firstBytes ((sampleEntity "x" ["a"]).hashed firstBytes noId)
      ((sampleEntity "y" ["a"]).hashed firstBytes noId)
    decide
  exact (request_hash_separates_iff _ _ hx hy hfree).2 (fun h => absurd h hfields)
    (by decide) noId noId sampleAck

/-- Two different entities, and two encodes of one text at different event times, are replays of
each other. -/
theorem different_requests_replayed : ((sampleEntity "x" ["a"]).hashInput firstBytes noId =
        (sampleEntity "x\x00a" []).hashInput firstBytes noId ∧
      (sampleEntity "x" ["a"]).fields ≠ (sampleEntity "x\x00a" []).fields ∧
      classify (some ((sampleEntity "x" ["a"]).requestHash firstBytes noId))
        (some ((sampleEntity "x\x00a" []).requestHash firstBytes noId)) sampleAck =
          .hit sampleAck) ∧ (sampleEncode none).hashInput firstBytes noId =
          (sampleEncode (some 7)).hashInput firstBytes noId ∧
        (sampleEncode none).fields ≠ (sampleEncode (some 7)).fields := by
  have hinput : (sampleEntity "x" ["a"]).hashInput firstBytes noId =
      (sampleEntity "x\x00a" []).hashInput firstBytes noId := by decide
  refine ⟨⟨hinput, by decide, ?_⟩, rfl, by decide⟩
  simp [classify, WriteRequest.requestHash, hinput]

end BrainDb.Wire
