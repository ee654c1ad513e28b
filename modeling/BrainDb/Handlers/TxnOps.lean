import BrainDb.Handlers.Forget
import BrainDb.Server.Lifecycle

namespace BrainDb
open TxnStore

structure TxnServer where
  server : Server
  txns : TxnStore

abbrev OpsM := ExceptT OpError (StateM TxnServer)

structure TxnEnv where
  embed : String → Except String Embedding
  fingerprint : Nat
  encodeWithinBudget : Bool
  weightInRange : UInt32 → EdgeKind → Bool
  showWeight : UInt32 → String

structure EncodeRequest where
  text : String
  sessionId : SessionId
  requestId : RequestId
  occurredAt : Option Nanos
  allowDuplicates : Bool

structure EncodeOp where
  requestId : RequestId
  sessionId : SessionId
  kind : MemoryKind
  text : String
  salienceInitial : UInt32
  fingerprint : Nat
  deduplicate : Bool
  spaceId : SpaceId

structure EncodeResponse where
  memoryId : MemoryId
  wasDeduplicated : Bool
  salience : UInt32
  (autoEdgesAdded lsn : Nat)
  spaceId : SpaceId
  sessionId : SessionId
  kind : MemoryKind
  createdAt : Nanos
  (edgesOutCount embeddingModelFp : Nat)

structure LinkRequest where
  (source target : MemoryId)
  kind : EdgeKind
  weight : UInt32
  requestId : RequestId

structure LinkResponse where
  (source target : MemoryId)
  kind : EdgeKind
  weight : UInt32
  createdAt : Nanos
  alreadyExisted : Bool

structure UnlinkRequest where
  (source target : MemoryId)
  kind : EdgeKind
  requestId : RequestId

structure UnlinkResponse where
  (source target : MemoryId)
  kind : EdgeKind
  removed : Bool

structure TxnCommitResponse where
  txnId : TxnKey
  committedAt : Nanos
  operationsApplied : Nat
  deriving DecidableEq

structure TxnHashes extends RequestHashes where
  encode : EncodeOp → Digest
  link : LinkRequest → SpaceId → Digest
  unlink : UnlinkRequest → SpaceId → Digest
  txnCommit : TxnKey → List SubstratePhase → Digest

def maxTextBytes : Nat := 1024 * 1024

def defaultKind : MemoryKind := .episodic

def defaultSalience : UInt32 := 0x3F000000

def liftTxn {R : Type} (p : TxnM R) : OpsM R := fun x =>
  let (r, txns) := p.run x.txns
  (r, { x with txns })

def reserveMemoryId : OpsM MemoryId := fun x =>
  (.ok (MemoryId.pack x.server.shardId x.server.nextSlot 1), { x with server := x.server.reserve })

def readTables : OpsM Substrate := fun x => (.ok x.server.shard.db.tables, x)

def submitWrite (now : Nanos) (w : Write SubstratePhase) :
    OpsM (Except WriterError (WriteAck SubstrateAck)) := fun x =>
  (.ok (submit substrateEngine now w x.server.shard).1, { x with server := x.server.submit now w })

def orFalse (p : OpsM Bool) : OpsM Bool := fun x =>
  match p.run x with
  | (.ok b, x') => (.ok b, x')
  | (.error _, x') => (.ok false, x')

def validateText (text : String) : Except OpError Unit :=
  let size := text.utf8ByteSize
  if text.isEmpty then .error (.invalidParameters "text" "must be non-empty")
  else if maxTextBytes < size then
    .error (.invalidParameters "text" s!"{size} bytes exceeds MAX_TEXT_BYTES = {maxTextBytes}")
  else .ok ()

def planEncodeInner (env : TxnEnv) (req : EncodeRequest) : Except OpError Unit :=
  match validateText req.text with
  | .error e => .error e
  | .ok () => if env.encodeWithinBudget then .ok () else .error .queryTooExpensive

def encodeRequestHash (hashes : TxnHashes) (env : TxnEnv) (ctx : OpsContext)
    (req : EncodeRequest) : Digest :=
  hashes.encode
    { requestId := req.requestId, sessionId := req.sessionId, kind := defaultKind, text := req.text
      salienceInitial := defaultSalience, fingerprint := env.fingerprint
      deduplicate := !req.allowDuplicates, spaceId := ctx.caller.scope.spaceId }

def validateWeight (env : TxnEnv) (weight : UInt32) (kind : EdgeKind) : Except OpError Unit :=
  let lowest := if kind = .contradicts then "-1" else "0"
  if env.weightInRange weight kind then .ok ()
  else .error (.invalidRequest
    s!"LINK weight {env.showWeight weight} out of range [{lowest}, 1] for kind {kind.debugName}")

def hexDigits (width n : Nat) : String :=
  let digits := Nat.toDigits 16 n
  String.ofList (List.replicate (width - digits.length) '0' ++ digits)

def hexShort (txnId : TxnKey) : String := hexDigits 8 (txnId / 2 ^ 96)

variable (requestId : RequestId)

def checkReplay {R : Type} (requestHash : Digest) (message : String)
    (cached : BufferedReplay → Option R) (buffer : TxnBuffer) :
    Except OpError (Option R × TxnBuffer) :=
  match buffer.requestHashes.get requestId with
  | some prior =>
    if prior ≠ requestHash then .error (.conflict message)
    else .ok ((buffer.requestIdCache.get requestId).bind cached, buffer)
  | none => .ok (none, buffer)

def TxnBuffer.remember (requestHash : Digest) (replay : BufferedReplay) (buffer : TxnBuffer) :
    TxnBuffer :=
  { buffer with
    requestHashes := buffer.requestHashes.insert requestId requestHash
    requestIdCache := buffer.requestIdCache.insert requestId replay }

def TxnBuffer.hasPendingLink (source : MemoryId) (kind : EdgeKind) (target : MemoryId)
    (buffer : TxnBuffer) : Bool :=
  buffer.links.any (fun l => l.source = source && l.kind = kind && l.target = target) ||
    buffer.encodes.any fun e => e.memoryId = source &&
      e.edges.any fun edge => edge.target = target && edge.kind = kind

def checkEndpoints (req : LinkRequest) (sourceExists targetExists : Bool) : Except OpError Unit :=
  if !sourceExists then
    .error (.notFound "memory" s!"LINK source memory {req.source} not found")
  else if !targetExists then
    .error (.notFound "memory" s!"LINK target memory {req.target} not found")
  else .ok ()

section
variable (hashes : TxnHashes) (env : TxnEnv) (ctx : OpsContext) (now : Nanos)
  (req : EncodeRequest) (memoryId : MemoryId)

def encodeResponse (createdAt : Nanos) : EncodeResponse :=
  { memoryId, wasDeduplicated := false, salience := defaultSalience, autoEdgesAdded := 0, lsn := 0
    spaceId := ctx.caller.scope.spaceId, sessionId := req.sessionId, kind := defaultKind, createdAt
    edgesOutCount := 0, embeddingModelFp := env.fingerprint }

def bufferedEncode (vector : Embedding) : BufferedEncode :=
  { memoryId
    metadata := {
      MemoryRow.newActive memoryId ⟨ctx.caller.scope.namespaceId, 0⟩ req.sessionId memoryId.slot
        memoryId.version defaultKind env.fingerprint defaultSalience req.text.utf8ByteSize now with
      occurredAt := req.occurredAt }
    text := req.text, vector, edges := [], kind := defaultKind, sessionId := req.sessionId
    salienceInitial := defaultSalience, fingerprint := env.fingerprint, requestId := req.requestId
    requestHash := encodeRequestHash hashes env ctx req, createdAt := now
    occurredAt := req.occurredAt, spaceId := ctx.caller.scope.spaceId }

def handleEncodeInTxn (txnId : TxnKey) : OpsM EncodeResponse := do
  let _ ← liftM (planEncodeInner env req)
  let _ ← liftTxn (validateActive now txnId ctx.connectionId)
  let requestHash := encodeRequestHash hashes env ctx req
  let replay ← liftTxn (withBuffer now txnId ctx.connectionId
    (checkReplay req.requestId requestHash
      s!"encode in-txn request_id replay with different params: txn={hexShort txnId}"
      fun | .encode memoryId => some memoryId | _ => none))
  match replay with
  | some memoryId => return encodeResponse env ctx req memoryId 0
  | none =>
    liftTxn (withBuffer now txnId ctx.connectionId fun buffer =>
      buffer.checkCapacityForPush.map fun _ => ((), buffer))
    let vector ← liftM ((env.embed req.text).mapError OpError.embedFailed)
    let memoryId ← reserveMemoryId
    liftTxn (withBuffer now txnId ctx.connectionId fun buffer =>
      .ok ((), { buffer.remember req.requestId requestHash (.encode memoryId) with
        encodes := buffer.encodes ++ [bufferedEncode hashes env ctx now req memoryId vector] }))
    return encodeResponse env ctx req memoryId now

def forgetInTxn (req : ForgetRequest) (txnId : TxnKey) : OpsM ForgetResponse := do
  let tables ← readTables
  liftTxn (handleForgetInTxn hashes.toRequestHashes ctx now req txnId tables.memory)

def handleLinkInTxn (req : LinkRequest) (txnId : TxnKey) : OpsM LinkResponse := do
  let _ ← liftM (validateWeight env req.weight req.kind)
  let _ ← liftTxn (validateActive now txnId ctx.connectionId)
  let requestHash := hashes.link req ctx.caller.scope.spaceId
  let cached ← liftTxn (withBuffer now txnId ctx.connectionId
    (checkReplay req.requestId requestHash "link in-txn request_id replay with different params"
      fun
      | .link source target kind weight createdAt alreadyExisted =>
        some (⟨source, target, kind, weight, createdAt, alreadyExisted⟩ : LinkResponse)
      | _ => none))
  match cached with
  | some response => return response
  | none =>
    liftTxn (withBuffer now txnId ctx.connectionId fun buffer =>
      buffer.checkCapacityForPush.map fun _ => ((), buffer))
    let tables ← readTables
    let inScope (id : MemoryId) : Bool :=
      (tables.memory.memories.get id).any fun row => row.scope = ctx.caller.scope
    let (sourcePending, targetPending) ← liftTxn (withBuffer now txnId ctx.connectionId
      fun buffer =>
        let pending (id : MemoryId) : Bool := buffer.encodes.any fun e => e.memoryId = id
        .ok ((pending req.source, pending req.target), buffer))
    let _ ← liftM (checkEndpoints req (inScope req.source || sourcePending)
      (inScope req.target || targetPending))
    let committed := (tables.edges.forward.get
      ⟨.memory req.source, .builtin req.kind, .memory req.target, zeroDisambiguator⟩).isSome
    let pending ← orFalse (liftTxn (withBuffer now txnId ctx.connectionId fun buffer =>
      .ok (buffer.hasPendingLink req.source req.kind req.target, buffer)))
    let unlinked ← orFalse (liftTxn (withBuffer now txnId ctx.connectionId fun buffer =>
      .ok (decide ((req.source, req.kind, req.target) ∈ buffer.unlinkedEdges), buffer)))
    let alreadyExisted := (committed || pending) && !unlinked
    liftTxn (withBuffer now txnId ctx.connectionId fun buffer =>
      .ok ((), { buffer.remember req.requestId requestHash
          (.link req.source req.target req.kind req.weight now alreadyExisted) with
        links := buffer.links ++ [⟨req.source, req.target, req.kind, req.weight, req.requestId,
          requestHash, now, ctx.caller.scope.spaceId⟩]
        unlinkedEdges := buffer.unlinkedEdges.erase (req.source, req.kind, req.target) }))
    return ⟨req.source, req.target, req.kind, req.weight, now, alreadyExisted⟩

def handleUnlinkInTxn (req : UnlinkRequest) (txnId : TxnKey) : OpsM UnlinkResponse := do
  let _ ← liftTxn (validateActive now txnId ctx.connectionId)
  let requestHash := hashes.unlink req ctx.caller.scope.spaceId
  let cached ← liftTxn (withBuffer now txnId ctx.connectionId
    (checkReplay req.requestId requestHash "unlink in-txn request_id replay with different params"
      fun
      | .unlink source target kind removed =>
        some (⟨source, target, kind, removed⟩ : UnlinkResponse)
      | _ => none))
  match cached with
  | some response => return response
  | none =>
    liftTxn (withBuffer now txnId ctx.connectionId fun buffer =>
      buffer.checkCapacityForPush.map fun _ => ((), buffer))
    let tables ← readTables
    let committed := (tables.edges.forward.get
      ⟨.memory req.source, .builtin req.kind, .memory req.target, zeroDisambiguator⟩).isSome
    let pending ← liftTxn (withBuffer now txnId ctx.connectionId fun buffer =>
      .ok (buffer.hasPendingLink req.source req.kind req.target, buffer))
    let unlinked ← liftTxn (withBuffer now txnId ctx.connectionId fun buffer =>
      .ok (decide ((req.source, req.kind, req.target) ∈ buffer.unlinkedEdges), buffer))
    let removed := (committed || pending) && !unlinked
    liftTxn (withBuffer now txnId ctx.connectionId fun buffer =>
      .ok ((), { buffer.remember req.requestId requestHash
          (.unlink req.source req.target req.kind removed) with
        unlinks := buffer.unlinks ++ [⟨req.source, req.target, req.kind, req.requestId,
          requestHash, now, ctx.caller.scope.spaceId⟩]
        unlinkedEdges := if removed then
            insert (req.source, req.kind, req.target) buffer.unlinkedEdges
          else buffer.unlinkedEdges }))
    return ⟨req.source, req.target, req.kind, removed⟩
end

def clientLink (source target : MemoryId) (kind : EdgeKind) (weight : UInt32)
    (createdAt : Nanos) : SubstratePhase :=
  .link ⟨.memory source, .memory target, .builtin kind, weight, 0, 0, zeroDisambiguator, createdAt⟩

def BufferedEncode.upsert (e : BufferedEncode) : UpsertMemory :=
  { id := e.memoryId, text := e.text, vector := e.vector, kind := e.kind
    salience := e.salienceInitial, sessionId := e.sessionId, createdAt := e.createdAt
    occurredAt := e.occurredAt, arenaSlot := e.memoryId.slot, embeddingModelFp := e.fingerprint
    contentHash := none, deduplicate := false }

def buildPhases (buffer : TxnBuffer) : List SubstratePhase :=
  buffer.encodes.flatMap (fun e => .memory (.upsertMemory e.upsert) ::
    e.edges.map fun edge => clientLink e.memoryId edge.target edge.kind edge.weight e.createdAt) ++
  buffer.links.map (fun l => clientLink l.source l.target l.kind l.weight l.createdAt) ++
  buffer.unlinks.map (fun u =>
    .unlink ⟨.memory u.source, .builtin u.kind, .memory u.target, zeroDisambiguator⟩) ++
  buffer.forgets.map fun f => .memory (.tombstoneMemory f.memoryId f.mode f.createdAt)

def commitWrite (hashes : TxnHashes) (txnId : TxnKey) (buffer : TxnBuffer) (identity : Caller) :
    Write SubstratePhase :=
  { identity with
    writeId := txnId, startedAt := 0, phases := buildPhases buffer
    requestHash := some (hashes.txnCommit txnId (buildPhases buffer)) }

def handleTxnCommit (hashes : TxnHashes) (ctx : OpsContext) (now : Nanos) (txnId : TxnKey) :
    OpsM TxnCommitResponse := do
  match ← liftTxn (TxnStore.takeBuffer now txnId ctx.connectionId) with
  | .inl (committedAt, ops) => return ⟨txnId, committedAt, ops⟩
  | .inr (buffer, delegated) =>
    let ops := buffer.opsCount
    if maxTxnOps < ops then
      liftTxn (TxnStore.finish txnId .aborted (.abort ops))
      throw (.transactionTooLarge ops maxTxnOps)
    match ← submitWrite now (commitWrite hashes txnId buffer (delegated.getD ctx.caller)) with
    | .error e =>
      liftTxn (TxnStore.finish txnId .aborted (.abort ops))
      throw e.toOpError
    | .ok _ =>
      liftTxn (TxnStore.finish txnId .committed (.commit now ops))
      return ⟨txnId, now, ops⟩

inductive TxnRequest where
  | txnBegin (timeoutSeconds : Nat) (actAs : Bool)
  | encode (req : EncodeRequest)
  | forget (req : ForgetRequest)
  | link (req : LinkRequest)
  | unlink (req : UnlinkRequest)
  | txnCommit
  | txnAbort

structure TxnCall where
  now : Nanos
  caller : Caller
  forgetWithinBudget : TombstoneMode → Bool
  txnId : TxnKey
  request : TxnRequest

inductive TxnResponse where
  | txnBegin (r : TxnBeginResponse)
  | encode (r : EncodeResponse)
  | forget (r : ForgetResponse)
  | link (r : LinkResponse)
  | unlink (r : UnlinkResponse)
  | txnCommit (r : TxnCommitResponse)
  | txnAbort (r : TxnAbortResponse)

def TxnCall.handle (hashes : TxnHashes) (env : TxnEnv) (c : Nat) (call : TxnCall) :
    OpsM TxnResponse :=
  let ctx : OpsContext := ⟨call.caller, c, call.forgetWithinBudget⟩
  match call.request with
  | .txnBegin timeoutSeconds actAs => do
    return .txnBegin (← liftTxn
      (handleTxnBegin call.now call.txnId timeoutSeconds actAs call.caller c))
  | .encode req => do return .encode (← handleEncodeInTxn hashes env ctx call.now req call.txnId)
  | .forget req => do return .forget (← forgetInTxn hashes ctx call.now req call.txnId)
  | .link req => do return .link (← handleLinkInTxn hashes env ctx call.now req call.txnId)
  | .unlink req => do return .unlink (← handleUnlinkInTxn hashes ctx call.now req call.txnId)
  | .txnCommit => do return .txnCommit (← handleTxnCommit hashes ctx call.now call.txnId)
  | .txnAbort => do return .txnAbort (← liftTxn (handleTxnAbort call.now call.txnId c))

def noHashes : TxnHashes :=
  { forget := fun _ => 1, registry := fun _ _ _ => 1, writeId := fun _ _ => 1, encode := fun _ => 1
    link := fun _ _ => 1, unlink := fun _ _ => 1, txnCommit := fun _ _ => 1 }

def zeroEnv : TxnEnv :=
  { embed := fun _ => .ok [], fingerprint := 0, encodeWithinBudget := true
    weightInRange := fun _ _ => true, showWeight := fun _ => "" }

end BrainDb
