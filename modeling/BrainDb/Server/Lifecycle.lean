import BrainDb.Server.Arena

namespace BrainDb
open SubstratePhase RowStatus

/-- A shard with what it keeps on disk beside its log and tables: the arena, the durable LSN of the
metadata and the vector index of the latest snapshot. `reserved` are the ids from
`reserve_memory_id` that no write has used yet. -/
structure Server where
  shardId : Nat
  shard : SubstrateShard
  arena : Arena
  durableLsn : Nat
  snapshot : Option HnswIndex
  (nextCheckpointId nextSlot : Nat)
  reserved : List MemoryId

inductive ServerStep where
  | reserve
  | submit (now : Nanos) (w : Write SubstratePhase)
  | rebuild
  | checkpoint (now : Nanos)
  | restart (loads : Bool)

variable (t : Memories)

namespace Memories
variable (id : MemoryId)

def isActive : Bool :=
  (t.memories.get id).any fun row => row.flags.active

def artifactVector : Option Embedding :=
  match (t.vectors.get id).filter fun v => v.length = vectorDim with
  | some v => some v
  | none => ((t.artifacts.get id).map ArtifactBundle.vector).filter fun v => v.length = vectorDim

def snapshotVectors : List (MemoryId × Embedding) :=
  t.memories.entries.filterMap fun e =>
    if e.2.flags.active && !e.2.flags.hardForgotten then
      (t.artifactVector e.1).map fun v => (e.1, v)
    else none

def maxAssignedSlot : Nat :=
  (t.memories.entries.getLast?).elim 0 fun e => e.1.slot

end Memories

def replaceVector (id : MemoryId) (vector : Embedding) :
    List (MemoryId × Embedding) → List (MemoryId × Embedding)
  | [] => []
  | n :: ns => if n.1 = id then (id, vector) :: ns else n :: replaceVector id vector ns

def foldPendingInto (snapshot : List (MemoryId × Embedding)) (pending : List PendingEntry) :
    List (MemoryId × Embedding) :=
  pending.foldl (fun combined entry =>
    if entry.tombstoned then combined
    else if snapshot.any fun n => n.1 = entry.memoryId then
      replaceVector entry.memoryId entry.vector combined
    else combined ++ [(entry.memoryId, entry.vector)]) snapshot

variable (vectors : List (MemoryId × Embedding))

def arenaWithPending (pending : List PendingEntry) : List (MemoryId × Embedding) :=
  vectors ++ (pending.filter fun e => !e.tombstoned && !vectors.any fun n => n.1 = e.memoryId).map
    fun e => (e.memoryId, e.vector)

namespace SharedHnsw

def flushOrKeep (s : SharedHnsw) (build : List PendingEntry → Except HnswError HnswIndex) :
    SharedHnsw :=
  match s.flushWithRebuild build with
  | .ok s' => s'
  | .error _ => s

def tailReplay (s : SharedHnsw) (vectors : List (MemoryId × Embedding)) : SharedHnsw :=
  vectors.foldl (fun s n => if s.contains n.1 then s else s.insert n.1 n.2) s

def reconcileForgotten (snapshotIds : List MemoryId) (s : SharedHnsw) : SharedHnsw :=
  snapshotIds.foldl (fun s id =>
    if !t.isActive id && !s.isTombstoned id then s.markTombstoned id else s) s

end SharedHnsw

def bootIndex (loaded : Option HnswIndex) : SharedHnsw :=
  let fresh := SharedHnsw.fromIndex HnswIndex.empty
  match loaded with
  | some idx =>
    ((fresh.swap idx).tailReplay vectors).reconcileForgotten t (idx.nodes.map Prod.fst)
  | none =>
    if vectors.isEmpty then fresh
    else fresh.flushOrKeep fun pending => HnswIndex.rebuild (arenaWithPending vectors pending)

def SubstratePayload.memory? : SubstratePayload → Option MemoryPayload
  | .memory p => some p
  | _ => none

def LogPayload.memory? : LogPayload SubstratePayload → Option MemoryPayload
  | .record p => p.memory?
  | _ => none

def SubstratePhase.upserted? : SubstratePhase → Option MemoryId
  | .memory (.upsertMemory m) => some m.id
  | _ => none

def Write.upserted (w : Write SubstratePhase) : List MemoryId :=
  w.phases.filterMap upserted?

variable (caller : Caller)

lemma SubstratePhase.onStatus_owner (phase : SubstratePhase) (id : MemoryId)
    (st : Option RowStatus) : (phase.onStatus caller id st).map scope =
      if phase.upserted? = some id then some caller.scope else st.map scope := by
  cases phase with
  | memory phase =>
    cases phase with
    | upsertMemory m =>
      simp only [onStatus, MemoryPhase.onStatus, upserted?, Option.some.injEq]
      by_cases h : id = m.id
      · simp [h]
      · simp [h, Ne.symm h]
    | tombstoneMemory i mode now =>
      simp only [onStatus, MemoryPhase.onStatus, upserted?, reduceCtorEq, if_false]
      split
      · rw [Option.map_map]
        rfl
      · rfl
    | restoreMemory i now =>
      simp only [onStatus, MemoryPhase.onStatus, upserted?, reduceCtorEq, if_false]
      split
      · rw [Option.map_map]
        refine congrArg (fun f => Option.map f st) (funext fun st => ?_)
        unfold Function.comp restored
        split
        · rfl
        · rfl
      · rfl
    | _ => rfl
  | link l => rfl
  | unlink key => rfl

lemma foldl_onStatus_owner (phases : List SubstratePhase) (id : MemoryId) (st : Option RowStatus) :
    (phases.foldl (onStatus caller id) st).map scope =
      if id ∈ phases.filterMap upserted? then some caller.scope else st.map scope := by
  induction phases generalizing st with
  | nil => rfl
  | cons phase phases ih =>
    rw [List.foldl_cons, ih, onStatus_owner, List.filterMap_cons]
    cases hup : phase.upserted? with
    | none => simp
    | some i =>
      by_cases hi : i = id
      · simp [hi]
      · simp [hi, Ne.symm hi]

namespace Server

def fresh (shardId : Nat) : Server :=
  { shardId
    shard := {
      db := ⟨Substrate.empty, Table.empty⟩
      hot := Table.empty
      log := ⟨1, [], Nat.one_pos, trivial⟩
      index := SharedHnsw.fromIndex HnswIndex.empty
      committedWatermark := 0 }
    arena := Table.empty
    durableLsn := 0
    snapshot := none
    nextCheckpointId := 1
    nextSlot := 1
    reserved := [] }

def memory (s : Server) : Memories := s.shard.db.tables.memory

def reserve (s : Server) : Server :=
  { s with
    nextSlot := s.nextSlot + 1
    reserved := s.reserved ++ [MemoryId.pack s.shardId s.nextSlot 1] }

def submit (now : Nanos) (w : Write SubstratePhase) (s : Server) : Server :=
  { s with
    shard := (BrainDb.submit substrateEngine now w s.shard).2
    reserved := s.reserved.filter fun id => id ∉ w.upserted }

def rebuild (s : Server) : Server :=
  { s with shard := { s.shard with
      index := s.shard.index.flushOrKeep fun pending =>
        HnswIndex.rebuild (foldPendingInto s.memory.snapshotVectors pending) } }

/-- `take_snapshot`. The durable LSN of the metadata does not move until the end record is
replayed. -/
def checkpoint (now : Nanos) (s : Server) : Server :=
  let log := s.shard.log.append now [.checkpointBegin s.nextCheckpointId]
  let durable := min s.shard.committedWatermark (log.nextLsn - 1)
  { s with
    shard := { s.shard with log := log.append now [.checkpointEnd s.nextCheckpointId durable] }
    snapshot := s.shard.index.saveSnapshot
    nextCheckpointId := s.nextCheckpointId + 1 }

variable (hashOf : String → Digest)

def recoverEntry (s : Server) (e : SubstrateEntry) : Server :=
  { s with
    arena := match e.payload.memory? with
      | some p => s.arena.apply p
      | none => s.arena
    shard := { s.shard with db := SubstrateDb.replayEntry hashOf s.shard.db e }
    durableLsn := match e.payload with
      | .checkpointEnd _ durable => max s.durableLsn durable
      | _ => s.durableLsn }

def recover (s : Server) : Server :=
  (s.shard.log.above s.durableLsn).foldl (recoverEntry hashOf) s

def loaded (s : Server) (loads : Bool) : Option HnswIndex := if loads then s.snapshot else none

def restart (loads : Bool) (s : Server) : Server :=
  let r := s.recover hashOf
  { r with
    shard := { r.shard with
      hot := Table.empty
      index := bootIndex r.memory (r.arena.snapshotVectors r.shardId) (s.loaded loads)
      committedWatermark := r.shard.log.nextLsn - 1 }
    nextSlot := max 1 (r.memory.maxAssignedSlot + 1)
    reserved := [] }

def step (s : Server) : ServerStep → Server
  | .reserve => s.reserve
  | .submit now w => s.submit now w
  | .rebuild => s.rebuild
  | .checkpoint now => s.checkpoint now
  | .restart loads => s.restart hashOf loads

inductive Reachable (hashOf : String → Digest) (ok : Server → ServerStep → Prop) :
    Server → Prop
  | fresh (shardId : Nat) : Reachable hashOf ok (Server.fresh shardId)
  | step {s : Server} {st : ServerStep} :
      Reachable hashOf ok s → ok s st → Reachable hashOf ok (s.step hashOf st)

lemma Reachable.invariant {hashOf : String → Digest} {ok : Server → ServerStep → Prop}
    {I : Server → Prop} (hnew : ∀ shardId, I (Server.fresh shardId))
    (hstep : ∀ s st, ok s st → I s → I (s.step hashOf st)) {s : Server}
    (h : Reachable hashOf ok s) : I s := by
  induction h with
  | fresh shardId => exact hnew shardId
  | step _ hok ih => exact hstep _ _ hok ih

end Server
end BrainDb
