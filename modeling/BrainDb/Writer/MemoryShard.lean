import BrainDb.Store.Cell
import BrainDb.Writer.Submit

namespace BrainDb
open MemoryPayload

def MemoryPhase.hnswEffect (index : SharedHnsw) : MemoryPhase → SharedHnsw
  | .upsertMemory m => index.insert m.id m.vector
  | .updateEmbedding id newVector => index.insert id newVector
  | .tombstoneMemory id _ _ => index.markTombstoned id
  | _ => index

def memoryEngine : Engine Memories MemoryPhase MemoryPayload MemoryAck :=
  { dispatch := fun caller t phase => t.dispatch caller phase
    walPayload := fun writeId caller phase => phase.walPayload writeId caller
    hnswEffect := MemoryPhase.hnswEffect }

abbrev MemoryDb := Db Memories MemoryAck

abbrev MemoryEntry := Entry (LogPayload MemoryPayload)

abbrev MemoryShard := Shard Memories MemoryPayload MemoryAck

def MemoryDb.replayEntry (hashOf : String → Digest) : MemoryDb → MemoryEntry → MemoryDb :=
  Db.replayEntry (fun lsn timestamp t p => t.replay hashOf lsn timestamp p) request

variable (hashOf : String → Digest)

def MemoryShard.restart (durableLsn : Nat) (index : SharedHnsw) (s : MemoryShard) : MemoryShard :=
  { db := s.log.replay (MemoryDb.replayEntry hashOf) durableLsn s.db
    hot := Table.empty
    log := s.log
    index
    committedWatermark := s.log.nextLsn - 1 }

inductive MemoryStep where
  | submit (now : Nanos) (w : Write MemoryPhase)
  | restart (durableLsn : Nat) (index : SharedHnsw)

def MemoryShard.step (s : MemoryShard) : MemoryStep → MemoryShard
  | .submit now w => (submit memoryEngine now w s).2
  | .restart durableLsn index => s.restart hashOf durableLsn index

def MemoryShard.run (steps : List MemoryStep) (s : MemoryShard) : MemoryShard :=
  steps.foldl (MemoryShard.step hashOf) s

def entryOnCell (id : MemoryId) (c : Cell) (e : MemoryEntry) : Cell :=
  match e.payload with
  | .record p => p.onCell hashOf e.lsn e.timestamp id c
  | _ => c

def LogPayload.encodes (id : MemoryId) : LogPayload MemoryPayload → Bool
  | .record p => p.encodes id
  | _ => false

def LogPayload.hardForgets (id : MemoryId) : LogPayload MemoryPayload → Bool
  | .record p => p.hardForgets id
  | _ => false

variable {hashOf : String → Digest} {id : MemoryId}

lemma CellInvariant.onCell_entry {I : Cell → Prop} {hard : Prop} (hI : CellInvariant I hard)
    {e : MemoryEntry} (henc : e.payload.encodes id = false)
    (hhard : e.payload.hardForgets id = true → hard) {c : Cell} (h : I c) :
    I (entryOnCell hashOf id c e) := by
  unfold entryOnCell
  split
  next p hp =>
    rw [hp] at henc hhard
    exact hI.onCell_payload henc hhard hashOf e.lsn e.timestamp h
  · exact h

lemma entryOnCell_encodes {e : MemoryEntry} (h : e.payload.encodes id = true) (c : Cell) :
    (entryOnCell hashOf id c e).row.isSome = true ∧
      (entryOnCell hashOf id c e).text.isSome = true := by
  cases hp : e.payload with
  | txnBegin | txnCommit | checkpointBegin | checkpointEnd => simp [hp, LogPayload.encodes] at h
  | record p =>
    rw [hp] at h
    cases p with
    | encode p =>
      have hid : id = p.memoryId := by
        simpa [LogPayload.encodes, encodes, eq_comm] using h
      simp [entryOnCell, hp, onCell, hid]
    | _ => simp [LogPayload.encodes, encodes] at h

variable (hashOf id)

lemma replayEntry_cell (db : MemoryDb) (e : MemoryEntry) :
    (db.replayEntry hashOf e).tables.cell id = entryOnCell hashOf id (db.tables.cell id) e := by
  unfold MemoryDb.replayEntry Db.replayEntry entryOnCell
  cases e.payload with
  | record p => exact Memories.replay_cell hashOf e.lsn e.timestamp db.tables p id
  | _ => rfl

lemma restart_cell (durableLsn : Nat) (index : SharedHnsw) (s : MemoryShard) :
    (s.restart hashOf durableLsn index).db.tables.cell id =
      (s.log.above durableLsn).foldl (entryOnCell hashOf id) (s.db.tables.cell id) := by
  simp only [MemoryShard.restart, Journal.replay]
  generalize s.db = db
  induction s.log.above durableLsn generalizing db with
  | nil => rfl
  | cons e l ih => rw [List.foldl_cons, ih, List.foldl_cons, replayEntry_cell]

lemma memoryEngine_observes :
    memoryEngine.Observes (fun t => t.cell id) fun caller c phase => phase.onCell caller id c where
  dispatch h := Memories.dispatch_cell h id

variable {w : Write MemoryPhase}

lemma Write.walBatch_encodes (h : ∀ phase ∈ w.phases, phase.upserts id = false) :
    ∀ p ∈ w.walBatch memoryEngine, p.encodes id = false := by
  intro p hp
  cases p with
  | txnBegin | txnCommit | checkpointBegin | checkpointEnd => rfl
  | record p =>
    obtain ⟨phase, hmem, hpay⟩ := Write.mem_walBatch.mp hp
    have hph := h phase hmem
    cases phase with
    | upsertMemory m =>
      cases hpay
      exact hph
    | _ => cases hpay <;> rfl

lemma Write.stamp_walBatch_encodes (h : ∀ phase ∈ w.phases, phase.upserts id = false)
    (timestamp : Nanos) (n : Nat) :
    ∀ e ∈ Journal.stamp timestamp n (w.walBatch memoryEngine), e.payload.encodes id = false := by
  intro e he
  apply Write.walBatch_encodes id h
  rw [← Journal.map_payload_stamp timestamp n (w.walBatch memoryEngine)]
  exact List.mem_map_of_mem he

end BrainDb
