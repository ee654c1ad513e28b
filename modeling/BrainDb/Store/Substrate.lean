import BrainDb.Store.Edge
import BrainDb.Writer.MemoryShard

namespace BrainDb
open MemoryRow MemoryPayload MemoryPhase Cell

structure Substrate where
  memory : Memories
  edges : Edges

def Substrate.empty : Substrate := ⟨Memories.empty, Edges.empty⟩

structure LinkPhase where
  (source target : NodeRef)
  kind : EdgeKindRef
  weight : UInt32
  (origin derivedBy disambiguator : Nat)
  createdAt : Nanos

inductive SubstratePhase where
  | memory (phase : MemoryPhase)
  | link (l : LinkPhase)
  | unlink (key : EdgeKey)

inductive SubstrateAck where
  | memory (ack : MemoryAck)
  | linked
  | unlinked
  deriving DecidableEq

inductive SubstratePayload where
  | memory (p : MemoryPayload)
  | link (source target : NodeRef) (kind : EdgeKindRef) (weight : UInt32) (origin : Nat)
  | unlink (source target : NodeRef) (kind : EdgeKindRef)

def LinkPhase.key (l : LinkPhase) : EdgeKey := ⟨l.source, l.kind, l.target, l.disambiguator⟩

def LinkPhase.data (l : LinkPhase) : EdgeData := ⟨l.weight, l.origin, l.derivedBy, l.createdAt⟩

def edgeOriginFromByte (byte : Nat) : Nat := if byte = 1 then 1 else 0

namespace Memories
variable (t : Memories)

def memoryInSpace (id : MemoryId) (space : SpaceId) : Bool :=
  (t.memories.get id).any fun row => row.scope.spaceId = space

def endpointInSpace (space : SpaceId) : NodeRef → Bool
  | .memory id => t.memoryInSpace id space
  | .entity _ => true

def bumpEdgeCount (id : MemoryId) (f : MemoryRow → MemoryRow) (t : Memories) : Memories :=
  match t.memories.get id with
  | none => t
  | some row => { t with memories := t.memories.insert id (f row) }

def bumpEdgeCounts (source target : NodeRef) (up : Bool) (t : Memories) : Memories :=
  let adjust (n : Nat) := if up then saturatingAdd u32Max n 1 else n - 1
  match source, target with
  | .memory src, .memory tgt =>
    (t.bumpEdgeCount src fun row => { row with edgesOutCount := adjust row.edgesOutCount }).bumpEdgeCount
      tgt fun row => { row with edgesInCount := adjust row.edgesInCount }
  | _, _ => t

end Memories

variable (caller : Caller) (key : EdgeKey)

namespace Substrate

def applyLink (l : LinkPhase) (t : Substrate) : Substrate :=
  let inSpace := t.memory.endpointInSpace caller.scope.spaceId
  if inSpace l.source && inSpace l.target then
    { edges := t.edges.link l.key l.data
      memory := if (t.edges.forward.get l.key).isSome then t.memory
        else t.memory.bumpEdgeCounts l.source l.target true }
  else t

def applyUnlink (t : Substrate) : Substrate :=
  let (edges, removed) := t.edges.unlink key
  { edges
    memory := if removed then t.memory.bumpEdgeCounts key.source key.target false else t.memory }

def dispatch (caller : Caller) (t : Substrate) :
    SubstratePhase → Except ApplyError (Substrate × SubstrateAck)
  | .memory phase => (t.memory.dispatch caller phase).map fun r =>
      ({ t with memory := r.1 }, .memory r.2)
  | .link l => .ok (t.applyLink caller l, .linked)
  | .unlink key => .ok (t.applyUnlink key, .unlinked)

def replay (hashOf : String → Digest) (lsn : Nat) (timestamp : Nanos)
    (t : Substrate) : SubstratePayload → Substrate
  | .memory p => { t with memory := t.memory.replay hashOf lsn timestamp p }
  | .link source target kind weight origin =>
    let key : EdgeKey := ⟨source, kind, target, zeroDisambiguator⟩
    { t with edges := t.edges.link key ⟨weight, origin, 0, timestamp⟩ }
  | .unlink source target kind =>
    let key : EdgeKey := ⟨source, kind, target, zeroDisambiguator⟩
    { t with edges := (t.edges.unlink key).1 }

end Substrate

def SubstratePhase.walPayload (writeId : WriteId) (caller : Caller) :
    SubstratePhase → Option SubstratePayload
  | .memory phase => (phase.walPayload writeId caller).map .memory
  | .link l => some (.link l.source l.target l.kind l.weight (edgeOriginFromByte l.origin))
  | .unlink key => some (.unlink key.source key.target key.kind)

def SubstratePhase.hnswEffect (index : SharedHnsw) : SubstratePhase → SharedHnsw
  | .memory phase => phase.hnswEffect index
  | _ => index

def SubstratePayload.request : SubstratePayload → Option (WriteId × ResponseKind × MemoryId)
  | .memory p => p.request
  | _ => none

def substrateEngine : Engine Substrate SubstratePhase SubstratePayload SubstrateAck :=
  { dispatch := fun caller t phase => t.dispatch caller phase
    walPayload := fun writeId caller phase => phase.walPayload writeId caller
    hnswEffect := SubstratePhase.hnswEffect }

abbrev SubstrateDb := Db Substrate SubstrateAck

abbrev SubstrateEntry := Entry (LogPayload SubstratePayload)

abbrev SubstrateShard := Shard Substrate SubstratePayload SubstrateAck

def SubstrateDb.replayEntry (hashOf : String → Digest) :
    SubstrateDb → SubstrateEntry → SubstrateDb :=
  Db.replayEntry (fun lsn timestamp t p => t.replay hashOf lsn timestamp p)
    SubstratePayload.request

@[ext] structure RowStatus where
  scope : RowScope
  active : Bool
  hardForgotten : Bool

def MemoryRow.status (row : MemoryRow) : RowStatus :=
  ⟨row.scope, row.flags.active, row.flags.hardForgotten⟩

variable (mode : TombstoneMode)

def RowStatus.tombstoned (st : RowStatus) : RowStatus :=
  { st with active := false, hardForgotten := st.hardForgotten || mode = .hard }

def RowStatus.restored (st : RowStatus) : RowStatus :=
  if st.hardForgotten then st else { st with active := true }

def Memories.status (t : Memories) (id : MemoryId) : Option RowStatus :=
  (t.memories.get id).map MemoryRow.status

def MemoryPhase.onStatus (id : MemoryId) (st : Option RowStatus) :
    MemoryPhase → Option RowStatus
  | .upsertMemory m => if id = m.id then some ⟨caller.scope, true, false⟩ else st
  | .tombstoneMemory i mode _ => if id = i then st.map (RowStatus.tombstoned mode) else st
  | .restoreMemory i _ => if id = i then st.map RowStatus.restored else st
  | _ => st

def MemoryPayload.onStatus (id : MemoryId) (st : Option RowStatus) : MemoryPayload → Option RowStatus
  | .encode p => if id = p.memoryId then some ⟨p.scope, true, false⟩ else st
  | .forget i _ _ mode => if id = i then st.map (RowStatus.tombstoned mode) else st
  | .restoreMemory i _ _ => if id = i then st.map RowStatus.restored else st
  | _ => st

def SubstratePhase.onStatus (caller : Caller) (id : MemoryId) (st : Option RowStatus) :
    SubstratePhase → Option RowStatus
  | .memory phase => phase.onStatus caller id st
  | _ => st

def SubstratePayload.onStatus (id : MemoryId) (st : Option RowStatus) :
    SubstratePayload → Option RowStatus
  | .memory p => p.onStatus id st
  | _ => st

section
variable {id : MemoryId}

lemma Cell.tombstone_status (now : Nanos) (c : Cell) : (c.tombstone mode now).row.map status =
      (c.row.map status).map (RowStatus.tombstoned mode) := by
  cases hrow : c.row with
  | none => simp [tombstone, hrow]
  | some row => cases mode <;> simp [tombstone, hrow, tombstoned, status,
      RowStatus.tombstoned]

lemma Cell.restore_status (c : Cell) :
    c.restore.row.map status = (c.row.map status).map RowStatus.restored := by
  cases hrow : c.row with
  | none => simp [restore, hrow]
  | some row =>
    by_cases hhard : row.flags.hardForgotten = true
    · simp [restore, hrow, RowStatus.restored, status, hhard]
    · by_cases hact : row.flags.active = true
      · simp [restore, hrow, RowStatus.restored, status, hhard, hact]
      · simp [restore, hrow, RowStatus.restored, status, hhard, hact,
          reactivated]

lemma Cell.replayRestore_status (c : Cell) : c.replayRestore.row.map status =
      (c.row.map status).map RowStatus.restored := by
  cases hrow : c.row with
  | none => simp [replayRestore, hrow]
  | some row =>
    by_cases hhard : row.flags.hardForgotten = true
    · simp [replayRestore, hrow, RowStatus.restored, status, hhard]
    · simp [replayRestore, hrow, RowStatus.restored, status, hhard,
        reactivated]

variable {f : MemoryRow → MemoryRow}

lemma Cell.modify_status (hf : ∀ row, (f row).status = row.status) (c : Cell) :
    (c.modify f).row.map status = c.row.map status := by
  rw [modify, Option.map_map]
  exact congrFun (congrArg Option.map (funext hf)) c.row

lemma MemoryPhase.onCell_status (phase : MemoryPhase) (c : Cell) :
    (phase.onCell caller id c).row.map status = phase.onStatus caller id (c.row.map status) := by
  cases phase with
  | upsertMemory m =>
    simp only [onCell, onStatus]
    split
    · rfl
    · rfl
  | tombstoneMemory i mode now =>
    simp only [onCell, onStatus]
    split
    · exact tombstone_status mode now c
    · rfl
  | restoreMemory i now =>
    simp only [onCell, onStatus]
    split
    · exact restore_status c
    · rfl
  | updateSalience i s | updateKind i k | updateSession i s | updateEmbedding i v =>
    simp only [onCell, onStatus]
    split
    · apply modify_status
      intro row
      rfl
    · rfl
  | _ => rfl

variable (hashOf : String → Digest)

lemma MemoryPayload.onCell_status (lsn : Nat) (timestamp : Nanos) (p : MemoryPayload) (c : Cell) :
    (p.onCell hashOf lsn timestamp id c).row.map status = p.onStatus id (c.row.map status) := by
  cases p with
  | encode p =>
    simp only [onCell, onStatus]
    split
    · rfl
    · rfl
  | forget i requestId spaceId mode =>
    simp only [onCell, onStatus]
    split
    · exact tombstone_status mode timestamp c
    · rfl
  | restoreMemory i requestId spaceId =>
    simp only [onCell, onStatus]
    split
    · exact replayRestore_status c
    · rfl
  | updateSalience updates =>
    refine List.foldlRecOn updates _
      (motive := fun c' : Cell => c'.row.map status = c.row.map status) rfl ?_
    intro c' hc' u _
    split
    · rw [← hc']
      apply modify_status
      intro row
      rfl
    · exact hc'
  | updateKind i k | updateSession i s =>
    simp only [onCell, onStatus]
    split
    · apply modify_status
      intro row
      rfl
    · rfl
  | _ => rfl

lemma Memories.bumpEdgeCount_status (i : MemoryId) (hf : ∀ row, (f row).status = row.status)
    (t : Memories) (id : MemoryId) : (t.bumpEdgeCount i f).status id = t.status id := by
  unfold bumpEdgeCount
  split
  · rfl
  next row hrow =>
    by_cases h : id = i
    · subst h
      simp [status, hrow, hf]
    · simp [status, Table.get_insert_ne _ _ h]

lemma Memories.bumpEdgeCounts_status (source target : NodeRef) (up : Bool) (t : Memories)
    (id : MemoryId) : (t.bumpEdgeCounts source target up).status id = t.status id := by
  unfold bumpEdgeCounts
  simp only
  split
  next src tgt =>
    refine (bumpEdgeCount_status tgt ?_ _ id).trans (bumpEdgeCount_status src ?_ t id)
    · intro row
      rfl
    · intro row
      rfl
  · rfl

namespace Substrate

lemma applyLink_status (l : LinkPhase) (t : Substrate) :
    (t.applyLink caller l).memory.status id = t.memory.status id := by
  unfold applyLink
  simp only
  split
  · split
    · rfl
    · exact Memories.bumpEdgeCounts_status l.source l.target true t.memory id
  · rfl

lemma applyUnlink_status (t : Substrate) :
    (t.applyUnlink key).memory.status id = t.memory.status id := by
  unfold applyUnlink
  simp only
  split
  · exact Memories.bumpEdgeCounts_status key.source key.target false t.memory id
  · rfl

lemma dispatch_status {caller : Caller} {t t' : Substrate} {phase : SubstratePhase}
    {ack : SubstrateAck} (h : t.dispatch caller phase = .ok (t', ack)) (id : MemoryId) :
    t'.memory.status id = phase.onStatus caller id (t.memory.status id) := by
  cases phase with
  | memory phase =>
    obtain ⟨⟨u, a⟩, hu, heq⟩ := ExceptLemmas.map_ok h
    cases heq
    have hcell := congrArg (fun c : Cell => c.row.map MemoryRow.status)
      (Memories.dispatch_cell hu id)
    exact hcell.trans (phase.onCell_status caller (t.memory.cell id))
  | link l =>
    cases h
    exact applyLink_status caller l t
  | unlink key =>
    cases h
    exact applyUnlink_status key t

lemma replay_status (lsn : Nat) (timestamp : Nanos) (t : Substrate)
    (p : SubstratePayload) (id : MemoryId) :
    (t.replay hashOf lsn timestamp p).memory.status id = p.onStatus id (t.memory.status id) := by
  cases p with
  | memory p =>
    have hcell := congrArg (fun c : Cell => c.row.map MemoryRow.status)
      (Memories.replay_cell hashOf lsn timestamp t.memory p id)
    exact hcell.trans (p.onCell_status hashOf lsn timestamp (t.memory.cell id))
  | link source target kind weight origin => rfl
  | unlink source target kind => rfl

end Substrate

lemma substrateEngine_observes_status (id : MemoryId) :
    substrateEngine.Observes (fun t => t.memory.status id)
      fun caller st phase => phase.onStatus caller id st where
  dispatch h := Substrate.dispatch_status h id
end
end BrainDb
