import BrainDb.Base.Codec
import BrainDb.Store.Edge
import BrainDb.Wal.Payload

namespace BrainDb.Disk
open Bytes Codec WalPayloadError

abbrev Uuid := TxnId
abbrev MemoryId := Fin (2 ^ 128)
abbrev Hash := { bytes : Bytes // bytes.length = 32 }

inductive NodeRef where
  | memory (id : MemoryId)
  | entity (id : Uuid)

inductive EdgeKindRef where
  | builtin (kind : EdgeKind)
  | mentions
  | typed (id : UInt32)

inductive EdgeOrigin where
  | explicit
  | autoDerived

inductive ForgetMode where
  | soft
  | hard
  deriving DecidableEq

inductive ForgetReason where
  | clientRequest
  | eviction

inductive SalienceReason where
  | access
  | decay
  | explicit

structure EdgePayload where
  (source target : NodeRef)
  kind : EdgeKindRef
  weight : UInt32
  origin : EdgeOrigin

structure EncodePayload where
  memoryId : MemoryId
  (requestId spaceId : Uuid)
  namespaceId : UInt32
  sessionId : UInt64
  kind : MemoryKind
  salienceInitial : UInt32
  embeddingModelFp : Uuid
  text : String
  vector : List UInt32
  edges : List EdgePayload
  requestHash : Hash
  responsePayload : Bytes
  deduplicate : Bool
  occurredAtUnixNanos : Option UInt64

structure ForgetPayload where
  memoryId : MemoryId
  (requestId spaceId : Uuid)
  mode : ForgetMode
  reason : ForgetReason

structure RestorePayload where
  memoryId : MemoryId
  (requestId spaceId : Uuid)

structure LinkPayload where
  (source target : NodeRef)
  edgeKind : EdgeKindRef
  weight : UInt32
  origin : EdgeOrigin

structure UnlinkPayload where
  (source target : NodeRef)
  edgeKind : EdgeKindRef
  edgeSeq : UInt32

structure SalienceUpdate where
  memoryId : MemoryId
  newSalience : UInt32
  reason : SalienceReason

structure ReclaimPayload where
  slotId : UInt64
  (oldVersion newVersion : UInt32)
  memoryId : MemoryId

structure ConsolidatePayload where
  newMemoryId : MemoryId
  sourceMemoryIds : List MemoryId
  text : String
  vector : List UInt32
  embeddingModelFp : Uuid

structure UpdateKindPayload where
  memoryId : MemoryId
  newKind : MemoryKind

structure UpdateSessionPayload where
  memoryId : MemoryId
  newSessionId : UInt64

structure CheckpointBeginPayload where
  (checkpointId startedAtUnixNanos : UInt64)

structure CheckpointEndPayload where
  (checkpointId durableLsn arenaCapacity : UInt64)

structure TxnBeginPayload where
  txnId : TxnId
  expectedRecordCount : UInt32

structure TxnAbortPayload where
  txnId : TxnId
  reasonCode : UInt32

structure MigrateEmbeddingPayload where
  memoryId : MemoryId
  (oldFingerprint newFingerprint : Uuid)
  newVector : List UInt32

structure RelationLinkPayload where
  relationId : Uuid
  (source target : NodeRef)
  relationTypeId : UInt32
  chainRoot : Uuid
  confidence : UInt32
  (validFrom validTo : Option UInt64)
  supersedes : Option Uuid
  evidence : List MemoryId
  extractorId : UInt32
  isSymmetric : Bool
  propertiesBlob : Bytes
  spaceId : Uuid
  namespaceId : UInt32
  sessionId : UInt64
  internHint : Option (String × String)

structure RelationSupersedePayload where
  oldRelationId : Uuid
  new : RelationLinkPayload

structure RelationTombstonePayload where
  relationId : Uuid
  reason : String
  atUnixNanos : UInt64
  spaceId : Uuid

structure PhaseBodyRecord where
  kind : WalRecordKind
  spaceId : Uuid
  body : Bytes

inductive WalPayload where
  | encode (p : EncodePayload)
  | forget (p : ForgetPayload)
  | link (p : LinkPayload)
  | unlink (p : UnlinkPayload)
  | updateSalience (updates : List SalienceUpdate)
  | reclaim (p : ReclaimPayload)
  | consolidate (p : ConsolidatePayload)
  | updateKind (p : UpdateKindPayload)
  | updateSession (p : UpdateSessionPayload)
  | checkpointBegin (p : CheckpointBeginPayload)
  | checkpointEnd (p : CheckpointEndPayload)
  | txnBegin (p : TxnBeginPayload)
  | txnCommit (txnId : TxnId)
  | txnAbort (p : TxnAbortPayload)
  | migrateEmbedding (p : MigrateEmbeddingPayload)
  | relationLink (p : RelationLinkPayload)
  | relationSupersede (p : RelationSupersedePayload)
  | relationTombstone (p : RelationTombstonePayload)
  | restoreMemory (p : RestorePayload)
  | phaseBody (r : PhaseBodyRecord)

variable (b : UInt8)

def putU8 : Option Bytes := some [b]
variable (bytes : Bytes)

def putBytes : Option Bytes := some bytes
def putUuidBytes (id : Uuid) : Option Bytes := putBytes id.1
def putMemoryId (id : MemoryId) : Option Bytes := some (beBytes 16 id.val)
def putU32Le (v : UInt32) : Option Bytes := some (leBytes 4 v.toNat)
def putU64Le (v : UInt64) : Option Bytes := some (leBytes 8 v.toNat)

def NodeRef.tag : NodeRef → UInt8
  | memory _ => 0
  | entity _ => 1

def NodeRef.idBytes : NodeRef → Bytes
  | memory id => beBytes 16 id.val
  | entity id => id.1

def putNodeRef (n : NodeRef) : Option Bytes := some (n.tag :: n.idBytes)

def EdgeKindRef.encode : EdgeKindRef → Bytes
  | builtin kind => [0, UInt8.ofNat kind.code]
  | mentions => [1]
  | typed id => 2 :: beBytes 4 id.toNat

def putEdgeKindRef (k : EdgeKindRef) : Option Bytes := some k.encode

def putVector (v : List UInt32) : Option Bytes :=
  join [putNat 2 v.length, join (v.map putU32Le)]

def putBlob : Option Bytes :=
  join [putNat 4 bytes.length, putBytes bytes]

def putText (text : String) : Option Bytes := putBlob (utf8 text)

def putOption {α : Type} (put : α → Option Bytes) : Option α → Option Bytes
  | none => putU8 0
  | some a => join [putU8 1, put a]

def putOptionU64 : Option UInt64 → Option Bytes := putOption putU64Le
def putOptionRelationId : Option Uuid → Option Bytes := putOption putUuidBytes

def putInternHint : Option (String × String) → Option Bytes :=
  putOption fun hint => join [putText hint.1, putText hint.2]

def memoryKindToU8 : MemoryKind → UInt8
  | .episodic => 0
  | .semantic => 1
  | .consolidated => 2

def EdgeOrigin.asU8 : EdgeOrigin → UInt8
  | explicit => 0
  | autoDerived => 1

def ForgetMode.asU8 : ForgetMode → UInt8
  | soft => 0
  | hard => 1

def ForgetReason.asU8 : ForgetReason → UInt8
  | clientRequest => 0
  | eviction => 1

def SalienceReason.asU8 : SalienceReason → UInt8
  | access => 0
  | decay => 1
  | explicit => 2

def putBool (b : Bool) : Option Bytes := putU8 (if b then 1 else 0)

def encodeEdge (e : EdgePayload) : Option Bytes :=
  join [putNodeRef e.source, putNodeRef e.target, putEdgeKindRef e.kind, putU32Le e.weight,
    putU8 e.origin.asU8]

def encodeEncode (p : EncodePayload) : Option Bytes :=
  join [putMemoryId p.memoryId, putUuidBytes p.requestId, putUuidBytes p.spaceId,
    putU32Le p.namespaceId, putU64Le p.sessionId, putU8 (memoryKindToU8 p.kind),
    putU32Le p.salienceInitial, putUuidBytes p.embeddingModelFp, putText p.text,
    putVector p.vector, putNat 2 p.edges.length, join (p.edges.map encodeEdge),
    putBytes p.requestHash.1, putBlob p.responsePayload, putBool p.deduplicate,
    putOptionU64 p.occurredAtUnixNanos]

def encodeForget (p : ForgetPayload) : Option Bytes :=
  join [putMemoryId p.memoryId, putUuidBytes p.requestId, putUuidBytes p.spaceId,
    putU8 p.mode.asU8, putU8 p.reason.asU8]

def encodeRestore (p : RestorePayload) : Option Bytes :=
  join [putMemoryId p.memoryId, putUuidBytes p.requestId, putUuidBytes p.spaceId]

def encodeLink (p : LinkPayload) : Option Bytes :=
  join [putNodeRef p.source, putNodeRef p.target, putEdgeKindRef p.edgeKind, putU32Le p.weight,
    putU8 p.origin.asU8]

def encodeUnlink (p : UnlinkPayload) : Option Bytes :=
  join [putNodeRef p.source, putNodeRef p.target, putEdgeKindRef p.edgeKind, putU32Le p.edgeSeq]

def encodeSalienceUpdate (u : SalienceUpdate) : Option Bytes :=
  join [putMemoryId u.memoryId, putU32Le u.newSalience, putU8 u.reason.asU8]

def encodeUpdateSalience (updates : List SalienceUpdate) : Option Bytes :=
  join [putNat 4 updates.length, join (updates.map encodeSalienceUpdate)]

def encodeReclaim (p : ReclaimPayload) : Option Bytes :=
  join [putU64Le p.slotId, putU32Le p.oldVersion, putU32Le p.newVersion, putMemoryId p.memoryId]

def encodeConsolidate (p : ConsolidatePayload) : Option Bytes :=
  join [putMemoryId p.newMemoryId, putNat 4 p.sourceMemoryIds.length,
    join (p.sourceMemoryIds.map putMemoryId), putText p.text, putVector p.vector,
    putUuidBytes p.embeddingModelFp]

def encodeUpdateKind (p : UpdateKindPayload) : Option Bytes :=
  join [putMemoryId p.memoryId, putU8 (memoryKindToU8 p.newKind)]

def encodeUpdateSession (p : UpdateSessionPayload) : Option Bytes :=
  join [putMemoryId p.memoryId, putU64Le p.newSessionId]

def encodeCheckpointBegin (p : CheckpointBeginPayload) : Option Bytes :=
  join [putU64Le p.checkpointId, putU64Le p.startedAtUnixNanos]

def encodeCheckpointEnd (p : CheckpointEndPayload) : Option Bytes :=
  join [putU64Le p.checkpointId, putU64Le p.durableLsn, putU64Le p.arenaCapacity]

def encodeTxnBegin (p : TxnBeginPayload) : Option Bytes :=
  join [putUuidBytes p.txnId, putU32Le p.expectedRecordCount]

def encodeTxnAbort (p : TxnAbortPayload) : Option Bytes :=
  join [putUuidBytes p.txnId, putU32Le p.reasonCode]

def encodeMigrateEmbedding (p : MigrateEmbeddingPayload) : Option Bytes :=
  join [putMemoryId p.memoryId, putUuidBytes p.oldFingerprint, putUuidBytes p.newFingerprint,
    putVector p.newVector]

def relationLinkBytes (flag : UInt8) (p : RelationLinkPayload) : Option Bytes :=
  join [putUuidBytes p.relationId, putNodeRef p.source, putNodeRef p.target,
    putU32Le p.relationTypeId, putUuidBytes p.chainRoot, putU32Le p.confidence,
    putOptionU64 p.validFrom, putOptionU64 p.validTo, putOptionRelationId p.supersedes,
    putNat 4 p.evidence.length, join (p.evidence.map putMemoryId), putU32Le p.extractorId,
    putU8 flag, putBlob p.propertiesBlob, putUuidBytes p.spaceId,
    putU32Le p.namespaceId, putU64Le p.sessionId, putInternHint p.internHint]

def encodeRelationLink (p : RelationLinkPayload) : Option Bytes :=
  relationLinkBytes (if p.isSymmetric then 1 else 0) p

def encodeRelationSupersede (p : RelationSupersedePayload) : Option Bytes :=
  join [putUuidBytes p.oldRelationId, encodeRelationLink p.new]

def encodeRelationTombstone (p : RelationTombstonePayload) : Option Bytes :=
  join [putUuidBytes p.relationId, putText p.reason, putU64Le p.atUnixNanos, putUuidBytes p.spaceId]

def WalPayload.kind : WalPayload → WalRecordKind
  | encode _ => .encode
  | forget _ => .forget
  | link _ => .link
  | unlink _ => .unlink
  | updateSalience _ => .updateSalience
  | reclaim _ => .reclaim
  | consolidate _ => .consolidate
  | updateKind _ => .updateKind
  | updateSession _ => .updateSession
  | checkpointBegin _ => .checkpointBegin
  | checkpointEnd _ => .checkpointEnd
  | txnBegin _ => .txnBegin
  | txnCommit _ => .txnCommit
  | txnAbort _ => .txnAbort
  | migrateEmbedding _ => .migrateEmbedding
  | relationLink _ => .relationCreate
  | relationSupersede _ => .relationSupersede
  | relationTombstone _ => .relationTombstone
  | restoreMemory _ => .restoreMemory
  | phaseBody r => r.kind

def WalPayload.encodeToBytes : WalPayload → Option Bytes
  | encode p => encodeEncode p
  | forget p => encodeForget p
  | link p => encodeLink p
  | unlink p => encodeUnlink p
  | updateSalience updates => encodeUpdateSalience updates
  | reclaim p => encodeReclaim p
  | consolidate p => encodeConsolidate p
  | updateKind p => encodeUpdateKind p
  | updateSession p => encodeUpdateSession p
  | checkpointBegin p => encodeCheckpointBegin p
  | checkpointEnd p => encodeCheckpointEnd p
  | txnBegin p => encodeTxnBegin p
  | txnCommit txnId => putUuidBytes txnId
  | txnAbort p => encodeTxnAbort p
  | migrateEmbedding p => encodeMigrateEmbedding p
  | relationLink p => encodeRelationLink p
  | relationSupersede p => encodeRelationSupersede p
  | relationTombstone p => encodeRelationTombstone p
  | restoreMemory p => encodeRestore p
  | phaseBody r => join [putUuidBytes r.spaceId, putBytes r.body]

abbrev Reader (α : Type) := Codec.Reader WalPayloadError α

def take (n : Nat) : Reader { bs : Bytes // bs.length = n } :=
  Codec.take n (underrun n)

def u8 : Reader UInt8 := do
  let b ← take 1
  return b.1.headD 0

def lengthLe (w : Nat) : Reader Nat := Codec.nat w (underrun w)

def u32Le : Reader UInt32 := do
  let v ← lengthLe 4
  return UInt32.ofNat v

def u64Le : Reader UInt64 := do
  let v ← lengthLe 8
  return UInt64.ofNat v

def array16 : Reader Uuid := take 16

lemma leNat_reverse_lt (b : Uuid) : leNat b.1.reverse < 2 ^ 128 := by
  have h := leNat_lt b.1.reverse
  rw [List.length_reverse, b.2] at h
  exact h

def MemoryId.fromBeBytes (b : Uuid) : MemoryId := ⟨leNat b.1.reverse, leNat_reverse_lt b⟩

def memoryId : Reader MemoryId := do
  let b ← array16
  return MemoryId.fromBeBytes b

def NodeRef.fromBytes (b : { bs : Bytes // bs.length = 17 }) :
    Except NodeRefError NodeRef :=
  let id : Uuid := ⟨b.1.drop 1, by rw [List.length_drop, b.2]⟩
  let tag := b.1.headD 0
  if tag = 0 then .ok (.memory (MemoryId.fromBeBytes id))
  else if tag = 1 then .ok (.entity id)
  else .error (.unknownTag tag)

def nodeRef : Reader NodeRef := do
  let b ← take 17
  (NodeRef.fromBytes b).mapError badNodeRef

def edgeKindFromU8 : Option EdgeKind :=
  match b.toNat with
  | 0 => some .caused
  | 1 => some .followedBy
  | 2 => some .derivedFrom
  | 3 => some .similarTo
  | 4 => some .contradicts
  | 5 => some .supports
  | 6 => some .references
  | 7 => some .partOf
  | _ => none

def EdgeKindRef.decodeFrom : Bytes → Except EdgeKindRefError (EdgeKindRef × Nat)
  | [] => .error (.short 0)
  | tag :: rest =>
    if tag = 0 then
      match rest with
      | [] => .error (.short 1)
      | byte :: _ =>
        match edgeKindFromU8 byte with
        | some kind => .ok (.builtin kind, 2)
        | none => .error (.invalidEdgeKind byte)
    else if tag = 1 then .ok (.mentions, 1)
    else if tag = 2 then
      if rest.length < 4 then .error (.short (rest.length + 1))
      else .ok (.typed (UInt32.ofNat (leNat (rest.take 4).reverse)), 5)
    else .error (.unknownTag tag)

def edgeKindRef : Reader EdgeKindRef := fun bytes =>
  match EdgeKindRef.decodeFrom bytes with
  | .ok (kind, consumed) => .ok (kind, bytes.drop consumed)
  | .error e => .error (.badEdgeKindRef e)

def vectorDimsMax : Nat := 4096
def responseBlobMax : Nat := 1024 * 1024

def readVector : Reader (List UInt32) := do
  let dims ← lengthLe 2
  check (dims ≤ vectorDimsMax) (.badVectorDims dims)
  require (dims * 4) (.underrun (dims * 4))
  many u32Le dims

def textOf : Except WalPayloadError String :=
  match String.fromUTF8? ⟨bytes.toArray⟩ with
  | some s => .ok s
  | none => .error .badUtf8

def readText : Reader String := do
  let len ← lengthLe 4
  require len fun _ => .badTextLength len
  let bytes ← take len
  textOf bytes.1

def readBlob : Reader Bytes := do
  let len ← lengthLe 4
  check (len ≤ responseBlobMax) (.badBlobLength len)
  require len fun _ => .badBlobLength len
  let bytes ← take len
  return bytes.1

def memoryKindFromU8 : Except WalPayloadError MemoryKind :=
  if b = 0 then .ok .episodic
  else if b = 1 then .ok .semantic
  else if b = 2 then .ok .consolidated
  else .error (.badMemoryKind b)

def edgeOriginFromU8 : Except WalPayloadError EdgeOrigin :=
  if b = 0 then .ok .explicit
  else if b = 1 then .ok .autoDerived
  else .error (.badEdgeOrigin b)

def forgetModeFromU8 : Except WalPayloadError ForgetMode :=
  if b = 0 then .ok .soft
  else if b = 1 then .ok .hard
  else .error (.badForgetMode b)

def forgetReasonFromU8 : Except WalPayloadError ForgetReason :=
  if b = 0 then .ok .clientRequest
  else if b = 1 then .ok .eviction
  else .error (.badForgetReason b)

def salienceReasonFromU8 : Except WalPayloadError SalienceReason :=
  if b = 0 then .ok .access
  else if b = 1 then .ok .decay
  else if b = 2 then .ok .explicit
  else .error (.badSalienceReason b)

def byteAs {α : Type} (fromU8 : UInt8 → Except WalPayloadError α) : Reader α := do
  let b ← u8
  fromU8 b

def readBool : Reader Bool := byteAs fun b => .ok (b ≠ 0)

def readOption {α : Type} (get : Reader α) : Reader (Option α) := do
  let tag ← u8
  if tag = 0 then return none
  else if tag = 1 then
    let a ← get
    return some a
  else throw (.badOptionTag tag)

def readOptionU64 : Reader (Option UInt64) := readOption u64Le
def readOptionRelationId : Reader (Option Uuid) := readOption array16

def readHintString : Reader String := do
  let bytes ← readBlob
  textOf bytes

def readInternHint : Reader (Option (String × String)) := readOption do
  let nspace ← readHintString
  let name ← readHintString
  return (nspace, name)

def decodeEdge : Reader EdgePayload := do
  let source ← nodeRef
  let target ← nodeRef
  let kind ← edgeKindRef
  let weight ← u32Le
  let origin ← byteAs edgeOriginFromU8
  return { source, target, kind, weight, origin }

def decodeEncode : Reader EncodePayload := do
  let memoryId ← memoryId
  let requestId ← array16
  let spaceId ← array16
  let namespaceId ← u32Le
  let sessionId ← u64Le
  let kind ← byteAs memoryKindFromU8
  let salienceInitial ← u32Le
  let embeddingModelFp ← array16
  let text ← readText
  let vector ← readVector
  let edgeCount ← lengthLe 2
  require (edgeCount * 40 + 37) fun _ => .badEdgeCount edgeCount
  let edges ← many decodeEdge edgeCount
  let requestHash ← take 32
  let responsePayload ← readBlob
  let deduplicate ← readBool
  let occurredAtUnixNanos ← readOptionU64
  return { memoryId, requestId, spaceId, namespaceId, sessionId, kind, salienceInitial
           embeddingModelFp, text, vector, edges, requestHash, responsePayload, deduplicate
           occurredAtUnixNanos }

def decodeForget : Reader ForgetPayload := do
  let memoryId ← memoryId
  let requestId ← array16
  let spaceId ← array16
  let mode ← byteAs forgetModeFromU8
  let reason ← byteAs forgetReasonFromU8
  return { memoryId, requestId, spaceId, mode, reason }

def decodeRestore : Reader RestorePayload := do
  let memoryId ← memoryId
  let requestId ← array16
  let spaceId ← array16
  return { memoryId, requestId, spaceId }

def decodeLink : Reader LinkPayload := do
  let source ← nodeRef
  let target ← nodeRef
  let edgeKind ← edgeKindRef
  let weight ← u32Le
  let origin ← byteAs edgeOriginFromU8
  return { source, target, edgeKind, weight, origin }

def decodeUnlink : Reader UnlinkPayload := do
  let source ← nodeRef
  let target ← nodeRef
  let edgeKind ← edgeKindRef
  let edgeSeq ← u32Le
  return { source, target, edgeKind, edgeSeq }

def decodeSalienceUpdate : Reader SalienceUpdate := do
  let memoryId ← memoryId
  let newSalience ← u32Le
  let reason ← byteAs salienceReasonFromU8
  return { memoryId, newSalience, reason }

def decodeUpdateSalience : Reader (List SalienceUpdate) := do
  let count ← lengthLe 4
  require (count * 21) fun _ => .badUpdateCount count
  many decodeSalienceUpdate count

def decodeReclaim : Reader ReclaimPayload := do
  let slotId ← u64Le
  let oldVersion ← u32Le
  let newVersion ← u32Le
  let memoryId ← memoryId
  return { slotId, oldVersion, newVersion, memoryId }

def decodeConsolidate : Reader ConsolidatePayload := do
  let newMemoryId ← memoryId
  let srcCount ← lengthLe 4
  require (srcCount * 16) fun _ => .badSourceCount srcCount
  let sourceMemoryIds ← many memoryId srcCount
  let text ← readText
  let vector ← readVector
  let embeddingModelFp ← array16
  return { newMemoryId, sourceMemoryIds, text, vector, embeddingModelFp }

def decodeUpdateKind : Reader UpdateKindPayload := do
  let memoryId ← memoryId
  let newKind ← byteAs memoryKindFromU8
  return { memoryId, newKind }

def decodeUpdateSession : Reader UpdateSessionPayload := do
  let memoryId ← memoryId
  let newSessionId ← u64Le
  return { memoryId, newSessionId }

def decodeCheckpointBegin : Reader CheckpointBeginPayload := do
  let checkpointId ← u64Le
  let startedAtUnixNanos ← u64Le
  return { checkpointId, startedAtUnixNanos }

def decodeCheckpointEnd : Reader CheckpointEndPayload := do
  let checkpointId ← u64Le
  let durableLsn ← u64Le
  let arenaCapacity ← u64Le
  return { checkpointId, durableLsn, arenaCapacity }

def decodeTxnBegin : Reader TxnBeginPayload := do
  let txnId ← array16
  let expectedRecordCount ← u32Le
  return { txnId, expectedRecordCount }

def decodeTxnAbort : Reader TxnAbortPayload := do
  let txnId ← array16
  let reasonCode ← u32Le
  return { txnId, reasonCode }

def decodeMigrateEmbedding : Reader MigrateEmbeddingPayload := do
  let memoryId ← memoryId
  let oldFingerprint ← array16
  let newFingerprint ← array16
  let newVector ← readVector
  return { memoryId, oldFingerprint, newFingerprint, newVector }

def decodeRelationLink : Reader RelationLinkPayload := do
  let relationId ← array16
  let source ← nodeRef
  let target ← nodeRef
  let relationTypeId ← u32Le
  let chainRoot ← array16
  let confidence ← u32Le
  let validFrom ← readOptionU64
  let validTo ← readOptionU64
  let supersedes ← readOptionRelationId
  let evCount ← lengthLe 4
  require (evCount * 16) fun _ => .badEvidenceCount evCount
  let evidence ← many memoryId evCount
  let extractorId ← u32Le
  let isSymmetric ← readBool
  let propertiesBlob ← readBlob
  let spaceId ← array16
  let namespaceId ← u32Le
  let sessionId ← u64Le
  let internHint ← readInternHint
  return { relationId, source, target, relationTypeId, chainRoot, confidence, validFrom, validTo
           supersedes, evidence, extractorId, isSymmetric, propertiesBlob, spaceId, namespaceId
           sessionId, internHint }

def decodeRelationSupersede : Reader RelationSupersedePayload := do
  let oldRelationId ← array16
  let new ← decodeRelationLink
  return { oldRelationId, new }

def decodeRelationTombstone : Reader RelationTombstonePayload := do
  let relationId ← array16
  let reason ← readText
  let atUnixNanos ← u64Le
  let spaceId ← array16
  return { relationId, reason, atUnixNanos, spaceId }

def whole {α : Type} (get : Reader α) (bytes : Bytes) : Except WalPayloadError α := do
  let (a, rest) ← get.run bytes
  if rest.length = 0 then return a else throw (.trailingBytes rest.length)

variable (kind : WalRecordKind)

def decodePhaseBody (bytes : Bytes) :
    Except WalPayloadError WalPayload := do
  let (spaceId, body) ← array16.run bytes
  return .phaseBody { kind, spaceId, body }

def WalPayload.decode (bytes : Bytes) : Except WalPayloadError WalPayload :=
  match kind with
  | .encode => whole (.encode <$> decodeEncode) bytes
  | .forget => whole (.forget <$> decodeForget) bytes
  | .link => whole (.link <$> decodeLink) bytes
  | .unlink => whole (.unlink <$> decodeUnlink) bytes
  | .updateSalience => whole (.updateSalience <$> decodeUpdateSalience) bytes
  | .reclaim => whole (.reclaim <$> decodeReclaim) bytes
  | .consolidate => whole (.consolidate <$> decodeConsolidate) bytes
  | .updateKind => whole (.updateKind <$> decodeUpdateKind) bytes
  | .updateSession => whole (.updateSession <$> decodeUpdateSession) bytes
  | .checkpointBegin => whole (.checkpointBegin <$> decodeCheckpointBegin) bytes
  | .checkpointEnd => whole (.checkpointEnd <$> decodeCheckpointEnd) bytes
  | .txnBegin => whole (.txnBegin <$> decodeTxnBegin) bytes
  | .txnCommit => whole (.txnCommit <$> array16) bytes
  | .txnAbort => whole (.txnAbort <$> decodeTxnAbort) bytes
  | .migrateEmbedding => whole (.migrateEmbedding <$> decodeMigrateEmbedding) bytes
  | .relationCreate => whole (.relationLink <$> decodeRelationLink) bytes
  | .relationSupersede => whole (.relationSupersede <$> decodeRelationSupersede) bytes
  | .relationTombstone => whole (.relationTombstone <$> decodeRelationTombstone) bytes
  | .restoreMemory => whole (.restoreMemory <$> decodeRestore) bytes
  | .entityCreate | .entityUpdate | .entityMerge | .entityTombstone | .entityRename
  | .entityUnmerge | .statementCreate | .statementSupersede | .statementTombstone
  | .schemaUpdate | .audit | .stageCompleted | .spaceCreate | .spaceDelete | .sessionCreate
  | .sessionDelete => decodePhaseBody kind bytes

end BrainDb.Disk
