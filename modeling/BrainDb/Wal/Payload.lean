import BrainDb.Wal.Record

namespace BrainDb
open Bytes

abbrev TxnId := { bytes : Bytes // bytes.length = 16 }

inductive NodeRefError where
  | unknownTag (tag : UInt8)
  deriving DecidableEq

inductive EdgeKindRefError where
  | unknownTag (tag : UInt8)
  | invalidEdgeKind (byte : UInt8)
  | short (got : Nat)
  deriving DecidableEq

inductive WalPayloadError where
  | underrun (needed had : Nat)
  | trailingBytes (count : Nat)
  | badMemoryKind (byte : UInt8)
  | badEdgeOrigin (byte : UInt8)
  | badNodeRef (e : NodeRefError)
  | badEdgeKindRef (e : EdgeKindRefError)
  | badEvidenceCount (count : Nat)
  | badOptionTag (tag : UInt8)
  | badForgetMode (byte : UInt8)
  | badForgetReason (byte : UInt8)
  | badSalienceReason (byte : UInt8)
  | badTextLength (length : Nat)
  | badUtf8
  | badVectorDims (dims : Nat)
  | badSourceCount (count : Nat)
  | badUpdateCount (count : Nat)
  | badEdgeCount (count : Nat)
  | badBlobLength (length : Nat)
  deriving DecidableEq

inductive WalPayload (B : Type) where
  | checkpointBegin (checkpointId startedAtUnixNanos : UInt64)
  | checkpointEnd (checkpointId durableLsn arenaCapacity : UInt64)
  | txnBegin (txnId : TxnId) (expectedRecordCount : UInt32)
  | txnCommit (txnId : TxnId)
  | txnAbort (txnId : TxnId) (reasonCode : UInt32)
  | body (kind : WalRecordKind) (b : B)

variable (bytes : Bytes)

namespace PayloadReader

def take (n : Nat) (bytes : Bytes) : Except WalPayloadError (Bytes × Bytes) :=
  if bytes.length < n then .error (.underrun n bytes.length)
  else .ok (bytes.take n, bytes.drop n)

def u32Le : Except WalPayloadError (UInt32 × Bytes) := do
  let (b, rest) ← take 4 bytes
  return (UInt32.ofNat (leNat b), rest)

def u64Le : Except WalPayloadError (UInt64 × Bytes) := do
  let (b, rest) ← take 8 bytes
  return (UInt64.ofNat (leNat b), rest)

def array16 : Except WalPayloadError (TxnId × Bytes) :=
  if h : bytes.length < 16 then .error (.underrun 16 bytes.length)
  else .ok (⟨bytes.take 16, by simp; omega⟩, bytes.drop 16)

def finish : Except WalPayloadError Unit :=
  if bytes.length = 0 then .ok () else .error (.trailingBytes bytes.length)

end PayloadReader

variable {B : Type} (parseBody : WalRecordKind → Bytes → Except WalPayloadError B)

namespace WalPayload
open PayloadReader

def kind : WalPayload B → WalRecordKind
  | checkpointBegin .. => .checkpointBegin
  | checkpointEnd .. => .checkpointEnd
  | txnBegin .. => .txnBegin
  | txnCommit .. => .txnCommit
  | txnAbort .. => .txnAbort
  | body kind _ => kind

def encode (encodeBody : WalRecordKind → B → Bytes) : WalPayload B → Bytes
  | checkpointBegin id startedAt => leBytes 8 id.toNat ++ leBytes 8 startedAt.toNat
  | checkpointEnd id durable capacity =>
    leBytes 8 id.toNat ++ leBytes 8 durable.toNat ++ leBytes 8 capacity.toNat
  | txnBegin txnId expected => txnId.1 ++ leBytes 4 expected.toNat
  | txnCommit txnId => txnId.1
  | txnAbort txnId reason => txnId.1 ++ leBytes 4 reason.toNat
  | body kind b => encodeBody kind b

def decodeCheckpointBegin : Except WalPayloadError (WalPayload B) := do
  let (id, r) ← u64Le bytes
  let (startedAt, r) ← u64Le r
  finish r
  return checkpointBegin id startedAt

def decodeCheckpointEnd : Except WalPayloadError (WalPayload B) := do
  let (id, r) ← u64Le bytes
  let (durable, r) ← u64Le r
  let (capacity, r) ← u64Le r
  finish r
  return checkpointEnd id durable capacity

def decodeTxnBegin : Except WalPayloadError (WalPayload B) := do
  let (txnId, r) ← array16 bytes
  let (expected, r) ← u32Le r
  finish r
  return txnBegin txnId expected

def decodeTxnCommit : Except WalPayloadError (WalPayload B) := do
  let (txnId, r) ← array16 bytes
  finish r
  return txnCommit txnId

def decodeTxnAbort : Except WalPayloadError (WalPayload B) := do
  let (txnId, r) ← array16 bytes
  let (reason, r) ← u32Le r
  finish r
  return txnAbort txnId reason

def decode (kind : WalRecordKind) (bytes : Bytes) : Except WalPayloadError (WalPayload B) :=
  match kind with
  | .checkpointBegin => decodeCheckpointBegin bytes
  | .checkpointEnd => decodeCheckpointEnd bytes
  | .txnBegin => decodeTxnBegin bytes
  | .txnCommit => decodeTxnCommit bytes
  | .txnAbort => decodeTxnAbort bytes
  | kind => (parseBody kind bytes).map (body kind)

end WalPayload

def WalRecord.typedPayload (r : WalRecord) : Except WalPayloadError (WalPayload B) :=
  WalPayload.decode parseBody r.kind r.payload

end BrainDb
