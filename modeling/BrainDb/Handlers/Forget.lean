import BrainDb.Handlers.Txn
import BrainDb.Writer.MemoryShard

namespace BrainDb
open TxnStore

structure ForgetRequest where
  memoryId : MemoryId
  mode : TombstoneMode
  requestId : RequestId
  txnId : Option Nat

structure ForgetResponse where
  memoryId : MemoryId
  wasAlreadyForgotten : Bool
  edgesRemoved : Nat

structure ForgetOp where
  requestId : RequestId
  memoryId : MemoryId
  mode : TombstoneMode
  spaceId : SpaceId

structure RequestHashes where
  forget : ForgetOp → Digest
  registry : String → RequestId → SpaceId → Digest
  writeId : RequestId → SpaceId → WriteId

structure OpsContext where
  caller : Caller
  connectionId : Nat
  forgetWithinBudget : TombstoneMode → Bool

structure OpsState where
  shard : MemoryShard
  txns : TxnStore

def systemNamespace : NamespaceId := 0

def Write.single (writeId : WriteId) (spaceId : SpaceId) (phase : MemoryPhase) :
    Write MemoryPhase :=
  { scope := ⟨systemNamespace, spaceId⟩, spaceString := "", writeId, startedAt := 0
    phases := [phase], requestHash := none }

variable (ctx : OpsContext) (req : ForgetRequest)

def planForgetInner : Except OpError Unit :=
  if req.requestId = 0 then .error (.invalidParameters "request_id" "must be set")
  else if ctx.forgetWithinBudget req.mode then .ok () else .error .queryTooExpensive

variable (t : Memories)

def peekForgetOutcome (id : MemoryId) : ForgetOutcome :=
  match t.memories.get id with
  | none => .memoryNotFound
  | some row =>
    if row.scope ≠ ctx.caller.scope then .memoryNotFound
    else if row.flags.active then .tombstoned else .alreadyTombstoned

def ForgetOutcome.wasAlreadyForgotten : ForgetOutcome → Bool
  | .tombstoned => false
  | _ => true

def forgetOp : ForgetOp :=
  ⟨req.requestId, req.memoryId, req.mode, ctx.caller.scope.spaceId⟩

def previewForgetOutcome (id : MemoryId) (buffer : TxnBuffer) : ForgetOutcome :=
  let committed := (t.memories.get id).any fun row => row.scope = ctx.caller.scope
  if id ∈ buffer.tombstoned then .alreadyTombstoned
  else if committed || buffer.encodes.any (fun e => e.memoryId = id) then .tombstoned
  else .memoryNotFound

def handleForgetInTxn (hashes : RequestHashes) (ctx : OpsContext) (now : Nanos)
    (req : ForgetRequest) (txnId : Nat) (t : Memories) : TxnM ForgetResponse := do
  let _ ← liftM (planForgetInner ctx req)
  let _ ← validateActive now txnId ctx.connectionId
  let requestHash := hashes.forget (forgetOp ctx req)
  let cached ← withBuffer now txnId ctx.connectionId fun buffer =>
    match buffer.requestHashes.get req.requestId with
    | some prior =>
      if prior ≠ requestHash then
        .error (.conflict "forget in-txn request_id replay with different params")
      else match buffer.requestIdCache.get req.requestId with
        | some (.forget id outcome) => .ok (some (id, outcome), buffer)
        | _ => .ok (none, buffer)
    | none => .ok (none, buffer)
  match cached with
  | some (id, outcome) => return ⟨id, outcome.wasAlreadyForgotten, 0⟩
  | none =>
    withBuffer now txnId ctx.connectionId fun buffer =>
      buffer.checkCapacityForPush.map fun _ => ((), buffer)
    let outcome ← withBuffer now txnId ctx.connectionId fun buffer =>
      .ok (previewForgetOutcome ctx t req.memoryId buffer, buffer)
    withBuffer now txnId ctx.connectionId fun buffer =>
      .ok ((), { buffer with
        forgets := buffer.forgets ++
          [⟨req.memoryId, req.mode, req.requestId, requestHash, now, ctx.caller.scope.spaceId⟩]
        tombstoned := if outcome = .tombstoned then insert req.memoryId buffer.tombstoned
          else buffer.tombstoned
        requestHashes := buffer.requestHashes.insert req.requestId requestHash
        requestIdCache := buffer.requestIdCache.insert req.requestId (.forget req.memoryId outcome) })
    return ⟨req.memoryId, outcome.wasAlreadyForgotten, 0⟩

def forgetWrite (hashes : RequestHashes) (ctx : OpsContext) (now : Nanos)
    (req : ForgetRequest) : Write MemoryPhase :=
  { Write.single (hashes.writeId req.requestId ctx.caller.scope.spaceId) ctx.caller.scope.spaceId
      (.tombstoneMemory req.memoryId req.mode now) with
    requestHash := some (hashes.forget (forgetOp ctx req)) }

def WriterError.toOpError : WriterError → OpError
  | .conflict writeId => .writerConflict writeId
  | .refused e => .writerRefused e

def handleForgetDirect (hashes : RequestHashes) (ctx : OpsContext) (now : Nanos)
    (req : ForgetRequest) (s : MemoryShard) : Except OpError ForgetResponse × MemoryShard :=
  match planForgetInner ctx req with
  | .error e => (.error e, s)
  | .ok () =>
    let w := forgetWrite hashes ctx now req
    match s.lookupWithHash now w.writeId w.requestHash with
    | (.hit _, s) => (.ok ⟨req.memoryId, false, 0⟩, s)
    | (.conflict, s) =>
      (.error (.conflict "forget request_id replay with different params"), s)
    | (.miss, s) =>
      let outcome := peekForgetOutcome ctx s.db.tables req.memoryId
      match outcome with
      | .tombstoned =>
        match submit memoryEngine now w s with
        | (.error e, s) => (.error e.toOpError, s)
        | (.ok _, s) => (.ok ⟨req.memoryId, false, 0⟩, s)
      | _ => (.ok ⟨req.memoryId, outcome.wasAlreadyForgotten, 0⟩, s)

def handleForget (hashes : RequestHashes) (ctx : OpsContext) (now : Nanos)
    (req : ForgetRequest) (s : OpsState) : Except OpError ForgetResponse × OpsState :=
  match req.txnId with
  | some txnId =>
    let (r, txns) := (handleForgetInTxn hashes ctx now req txnId s.shard.db.tables).run s.txns
    (r, { s with txns })
  | none =>
    let (r, shard) := handleForgetDirect hashes ctx now req s.shard
    (r, { s with shard })

end BrainDb
