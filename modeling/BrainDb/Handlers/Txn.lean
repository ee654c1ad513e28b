import BrainDb.Store.Edge
import BrainDb.Store.MemoryReplay

namespace BrainDb

abbrev RequestId := Nat
abbrev TxnKey := Nat

def minTimeoutSeconds : Nat := 1
def maxTimeoutSeconds : Nat := 300
def defaultTimeoutSeconds : Nat := 30

def maxTxnOps : Nat := 1000

inductive TxnState where
  | active
  | committed
  | aborted
  | expired
  deriving DecidableEq

inductive TxnFinalResponse where
  | commit (committedAt : Nanos) (operationsApplied : Nat)
  | abort (operationsDiscarded : Nat)

inductive ForgetOutcome where
  | tombstoned
  | alreadyTombstoned
  | memoryNotFound
  deriving DecidableEq

structure BufferedEdgeSpec where
  target : MemoryId
  kind : EdgeKind
  weight : UInt32

structure BufferedEncode where
  memoryId : MemoryId
  metadata : MemoryRow
  text : String
  vector : Embedding
  edges : List BufferedEdgeSpec
  kind : MemoryKind
  sessionId : SessionId
  salienceInitial : UInt32
  fingerprint : Nat
  requestId : RequestId
  requestHash : Digest
  createdAt : Nanos
  occurredAt : Option Nanos
  spaceId : SpaceId

structure BufferedLink where
  (source target : MemoryId)
  kind : EdgeKind
  weight : UInt32
  requestId : RequestId
  requestHash : Digest
  createdAt : Nanos
  spaceId : SpaceId

structure BufferedUnlink where
  (source target : MemoryId)
  kind : EdgeKind
  requestId : RequestId
  requestHash : Digest
  createdAt : Nanos
  spaceId : SpaceId

structure BufferedForget where
  memoryId : MemoryId
  mode : TombstoneMode
  requestId : RequestId
  requestHash : Digest
  createdAt : Nanos
  spaceId : SpaceId

inductive BufferedReplay where
  | encode (memoryId : MemoryId)
  | forget (memoryId : MemoryId) (outcome : ForgetOutcome)
  | link (source target : MemoryId) (kind : EdgeKind) (weight : UInt32) (createdAt : Nanos)
      (alreadyExisted : Bool)
  | unlink (source target : MemoryId) (kind : EdgeKind) (removed : Bool)

structure TxnBuffer where
  encodes : List BufferedEncode
  forgets : List BufferedForget
  links : List BufferedLink
  unlinks : List BufferedUnlink
  tombstoned : Finset MemoryId
  unlinkedEdges : Finset (MemoryId × EdgeKind × MemoryId)
  requestIdCache : Table RequestId BufferedReplay
  requestHashes : Table RequestId Digest

def TxnBuffer.empty : TxnBuffer :=
  { encodes := [], forgets := [], links := [], unlinks := [], tombstoned := ∅, unlinkedEdges := ∅
    requestIdCache := Table.empty, requestHashes := Table.empty }

structure TxnEntry where
  state : TxnState
  (startedAt expiresAt : Nanos)
  timeoutSeconds : Nat
  finalResponse : Option TxnFinalResponse
  buffer : Option TxnBuffer
  delegated : Option Caller
  connectionId : Nat

abbrev TxnStore := Table TxnKey TxnEntry

inductive OpError where
  | invalidParameters (field reason : String)
  | queryTooExpensive
  | conflict (message : String)
  | notFound (what detail : String)
  | embedFailed (message : String)
  | txnNotFound
  | txnExpired
  | transactionTooLarge (ops cap : Nat)
  | writerConflict (writeId : WriteId)
  | writerRefused (e : ApplyError)
  | invalidRequest (message : String)
  | internal (message : String)
  deriving DecidableEq

abbrev TxnM := ExceptT OpError (StateM TxnStore)

variable (b : TxnBuffer)

def TxnBuffer.opsCount : Nat :=
  min (b.encodes.length + b.forgets.length + b.links.length + b.unlinks.length) u32Max

def TxnBuffer.checkCapacityForPush : Except OpError Unit :=
  if maxTxnOps ≤ b.opsCount then .error (.transactionTooLarge b.opsCount maxTxnOps) else .ok ()

def txnOwnedBy (entryId callerId : Nat) : Bool :=
  entryId = 0 || entryId = callerId

variable (now : Nanos) (txnId : TxnKey)

namespace TxnStore

def sweepExpired (store : TxnStore) : TxnStore :=
  store.mapValues fun e =>
    if e.state = .active ∧ e.expiresAt ≤ now then { e with state := .expired, buffer := none } else e

def renewed (e : TxnEntry) : Nanos :=
  saturatingAdd u64Max now (e.timeoutSeconds * 1000000000)

def validateActive (txnId callerId : Nat) : TxnM Nanos := do
  let store := sweepExpired now (← get)
  set store
  match store.get txnId with
  | none => throw .txnNotFound
  | some e =>
    if !txnOwnedBy e.connectionId callerId then throw .txnNotFound
    match e.state with
    | .active =>
      set (store.insert txnId { e with expiresAt := renewed now e })
      return renewed now e
    | _ => throw .txnExpired

def withBuffer {R : Type} (txnId callerId : Nat)
    (f : TxnBuffer → Except OpError (R × TxnBuffer)) : TxnM R := do
  let store := sweepExpired now (← get)
  set store
  match store.get txnId with
  | none => throw .txnNotFound
  | some e =>
    if !txnOwnedBy e.connectionId callerId then throw .txnNotFound
    match e.state, e.buffer with
    | .active, some buffer =>
      match f buffer with
      | .error err => throw err
      | .ok (r, buffer) =>
        set (store.insert txnId { e with buffer := some buffer, expiresAt := renewed now e })
        return r
    | _, _ => throw .txnExpired

def takeBuffer (txnId callerId : Nat) :
    TxnM ((Nanos × Nat) ⊕ (TxnBuffer × Option Caller)) := do
  let store := sweepExpired now (← get)
  set store
  match store.get txnId with
  | none => throw .txnNotFound
  | some e =>
    if !txnOwnedBy e.connectionId callerId then throw .txnNotFound
    match e.finalResponse with
    | some (.commit committedAt ops) => return .inl (committedAt, ops)
    | _ =>
      match e.state, e.buffer with
      | .active, some buffer =>
        set (store.insert txnId { e with buffer := none })
        return .inr (buffer, e.delegated)
      | _, _ => throw .txnExpired

def finish (state : TxnState) (response : TxnFinalResponse) : TxnM Unit := do
  let store ← get
  match store.get txnId with
  | none => return ()
  | some e => set (store.insert txnId { e with state, finalResponse := some response })

end TxnStore

structure TxnBeginResponse where
  txnId : TxnKey
  timeoutSeconds : Nat
  startedAt : Nanos

structure TxnAbortResponse where
  txnId : TxnKey
  operationsDiscarded : Nat

def clampTimeout (requested : Nat) : Nat :=
  max minTimeoutSeconds
    (min (if requested = 0 then defaultTimeoutSeconds else requested) maxTimeoutSeconds)

def TxnEntry.opened (timeoutSeconds : Nat) (delegated : Option Caller) (connectionId : Nat) :
    TxnEntry :=
  { state := .active, startedAt := now
    expiresAt := saturatingAdd u64Max now (timeoutSeconds * 1000000000), timeoutSeconds
    finalResponse := none, buffer := some TxnBuffer.empty, delegated, connectionId }

def handleTxnBegin (requestedTimeout : Nat) (actAs : Bool) (caller : Caller) (connectionId : Nat) :
    TxnM TxnBeginResponse := do
  let store := TxnStore.sweepExpired now (← get)
  set store
  match store.get txnId with
  | some e => return ⟨txnId, e.timeoutSeconds, e.startedAt⟩
  | none =>
    let timeoutSeconds := clampTimeout requestedTimeout
    set (store.insert txnId
      (.opened now timeoutSeconds (if actAs then some caller else none) connectionId))
    return ⟨txnId, timeoutSeconds, now⟩

def handleTxnAbort (callerId : Nat) :
    TxnM TxnAbortResponse := do
  let store := TxnStore.sweepExpired now (← get)
  set store
  match store.get txnId with
  | none => throw .txnNotFound
  | some e =>
    if !txnOwnedBy e.connectionId callerId then throw .txnNotFound
    match e.finalResponse with
    | some (.abort ops) => return ⟨txnId, ops⟩
    | _ =>
      if e.state ≠ .active then throw .txnExpired
      let ops := e.buffer.elim 0 TxnBuffer.opsCount
      set (store.insert txnId
        { e with state := .aborted, buffer := none, finalResponse := some (.abort ops) })
      return ⟨txnId, ops⟩

end BrainDb
