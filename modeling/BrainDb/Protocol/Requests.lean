import BrainDb.Store.Edge

namespace BrainDb.Wire

abbrev Uuid := Vector UInt8 16

abbrev MemoryId := Fin (2 ^ 128)

structure ActAs where
  (nspace space : String)
  grant : UInt32
  deriving DecidableEq

inductive WaitMode where
  | ack
  | derived
  deriving DecidableEq

inductive ForgetMode where
  | soft
  | hard
  deriving DecidableEq

structure EncodeRequest where
  text : String
  sessionId : UInt64
  requestId : Uuid
  txnId : Option Uuid
  occurredAtUnixNanos : Option UInt64
  actAs : Option ActAs
  wait : WaitMode
  allowDuplicates : Bool
  deriving DecidableEq

structure ForgetRequest where
  memoryId : MemoryId
  mode : ForgetMode
  requestId : Uuid
  txnId : Option Uuid
  actAs : Option ActAs
  deriving DecidableEq

structure LinkRequest where
  (source target : MemoryId)
  kind : EdgeKind
  weight : UInt32
  requestId : Uuid
  txnId : Option Uuid
  actAs : Option ActAs
  deriving DecidableEq

structure UnlinkRequest where
  (source target : MemoryId)
  kind : EdgeKind
  requestId : Uuid
  txnId : Option Uuid
  actAs : Option ActAs
  deriving DecidableEq

structure EntityCreateRequest where
  entityTypeId : UInt32
  canonicalName : String
  aliases : List String
  attributesBlob : List UInt8
  sessionId : UInt64
  requestId : Uuid
  actAs : Option ActAs
  deriving DecidableEq

structure EntityUpdateRequest where
  entityId : Uuid
  canonicalName : String
  aliases : List String
  attributesBlob : List UInt8
  requestId : Uuid
  actAs : Option ActAs
  deriving DecidableEq

structure EntityRenameRequest where
  entityId : Uuid
  newCanonicalName : String
  moveToAlias : Bool
  requestId : Uuid
  actAs : Option ActAs
  deriving DecidableEq

structure EntityMergeRequest where
  (survivor merged : Uuid)
  confidence : UInt32
  reason : String
  requestId : Uuid
  actAs : Option ActAs
  deriving DecidableEq

structure EntityTombstoneRequest where
  entityId : Uuid
  reason : String
  requestId : Uuid
  actAs : Option ActAs
  deriving DecidableEq

inductive StatementKind where
  | fact
  | preference
  | event
  | attribute
  | relation
  | directive
  | custom (byte : UInt8)
  deriving DecidableEq

inductive StatementValue where
  | text (s : String)
  | integer (i : Int64)
  | float (bits : UInt64)
  | bool (b : Bool)
  | unixNanos (t : UInt64)
  | blob (bytes : List UInt8)
  deriving DecidableEq

inductive StatementObject where
  | entityRef (id : Uuid)
  | value (v : StatementValue)
  | memoryRef (id : Uuid)
  | statementRef (id : Uuid)
  deriving DecidableEq

inductive EvidenceRef where
  | inline (ids : List Uuid)
  | overflow (id : Uuid)
  deriving DecidableEq

structure StatementCreateRequest where
  kind : StatementKind
  subject : Uuid
  predicate : String
  object : StatementObject
  confidence : UInt32
  evidence : EvidenceRef
  extractorId : UInt32
  (validFromUnixNanos validToUnixNanos eventAtUnixNanos : UInt64)
  schemaVersion : UInt32
  sessionId : UInt64
  requestId : Uuid
  actAs : Option ActAs
  deriving DecidableEq

structure StatementSupersedeRequest where
  oldStatementId : Uuid
  newStatement : StatementCreateRequest
  requestId : Uuid
  actAs : Option ActAs
  deriving DecidableEq

structure StatementTombstoneRequest where
  statementId : Uuid
  reason : UInt8
  reasonMessage : String
  requestId : Uuid
  actAs : Option ActAs
  deriving DecidableEq

structure StatementRetractRequest where
  statementId : Uuid
  reason : UInt8
  reasonMessage : String
  requestId : Uuid
  actAs : Option ActAs
  deriving DecidableEq

structure RelationCreateRequest where
  relationType : String
  (fromEntity toEntity : Uuid)
  propertiesBlob : List UInt8
  evidence : EvidenceRef
  (extractorId confidence : UInt32)
  (validFromUnixNanos validToUnixNanos sessionId : UInt64)
  requestId : Uuid
  actAs : Option ActAs
  deriving DecidableEq

structure RelationSupersedeRequest where
  oldRelationId : Uuid
  newRelation : RelationCreateRequest
  requestId : Uuid
  actAs : Option ActAs
  deriving DecidableEq

structure RelationTombstoneRequest where
  relationId : Uuid
  reason : String
  requestId : Uuid
  actAs : Option ActAs
  deriving DecidableEq

inductive WriteRequest where
  | encode (req : EncodeRequest)
  | forget (req : ForgetRequest)
  | link (req : LinkRequest)
  | unlink (req : UnlinkRequest)
  | entityCreate (req : EntityCreateRequest)
  | entityUpdate (req : EntityUpdateRequest)
  | entityRename (req : EntityRenameRequest)
  | entityMerge (req : EntityMergeRequest)
  | entityTombstone (req : EntityTombstoneRequest)
  | statementCreate (req : StatementCreateRequest)
  | statementSupersede (req : StatementSupersedeRequest)
  | statementTombstone (req : StatementTombstoneRequest)
  | statementRetract (req : StatementRetractRequest)
  | relationCreate (req : RelationCreateRequest)
  | relationSupersede (req : RelationSupersedeRequest)
  | relationTombstone (req : RelationTombstoneRequest)
  deriving DecidableEq

end BrainDb.Wire
