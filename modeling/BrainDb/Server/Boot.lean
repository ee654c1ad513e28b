import BrainDb.Server.BootIndex

namespace BrainDb
open List Option Journal Memories

lemma Write.payload_ne_checkpointEnd {T Ph P A : Type} {eng : Engine T Ph P A} {w : Write Ph}
    {p : LogPayload P} (h : p ∈ w.walBatch eng) (checkpointId durable : Nat) :
    p ≠ .checkpointEnd checkpointId durable := by
  rintro rfl
  unfold Write.walBatch at h
  split at h
  · simp at h
  · simp at h
  · simp at h

lemma foldl_hnswEffect_main (phases : List SubstratePhase) (index : SharedHnsw) :
    (phases.foldl SubstratePhase.hnswEffect index).main = index.main := by
  refine List.foldlRecOn phases _ (motive := fun i : SharedHnsw => i.main = index.main) rfl ?_
  intro i hi phase _
  rw [← hi]
  cases phase with
  | memory phase => cases phase <;> rfl
  | link l => rfl
  | unlink key => rfl

lemma submit_watermark {T Ph P A : Type} (eng : Engine T Ph P A) (now : Nanos) (w : Write Ph)
    {s : Shard T P A} (h : s.committedWatermark < s.log.nextLsn) :
    (submit eng now w s).2.committedWatermark < (submit eng now w s).2.log.nextLsn := by
  have hgrow : (s.appended eng now w).log.nextLsn = s.log.nextLsn + (w.walBatch eng).length :=
    nextLsn_append _ _ _
  unfold submit
  rcases s.lookupWithHash_state now w.writeId w.requestHash with ⟨ack, hot, heq⟩ | heq | heq
  · rw [heq]
    exact h
  · rw [heq]
    exact h
  · rw [heq]
    simp only
    split
    · change s.committedWatermark < (s.appended eng now w).log.nextLsn
      omega
    next acks _ =>
      have hlast : (submitAck eng now w s acks).lsnLast < (s.appended eng now w).log.nextLsn := by
        rw [hgrow, submitAck]
        simp only
        split
        · omega
        next hne =>
          omega
      have hold : s.committedWatermark < (s.appended eng now w).log.nextLsn := by omega
      exact max_lt hold hlast

namespace Server
variable {hashOf : String → Digest}

lemma foldl_recoverEntry_frame (hashOf : String → Digest) (l : List SubstrateEntry) (s : Server) :
    let r := l.foldl (recoverEntry hashOf) s
    r.shardId = s.shardId ∧ r.shard.log = s.shard.log ∧ r.snapshot = s.snapshot := by
  refine List.foldlRecOn l _ (motive := fun r : Server =>
    r.shardId = s.shardId ∧ r.shard.log = s.shard.log ∧ r.snapshot = s.snapshot) ⟨rfl, rfl, rfl⟩ ?_
  intro r hr e _
  exact hr

variable (l : List SubstrateEntry)

lemma foldl_recoverEntry_arena (s : Server) :
    (l.foldl (recoverEntry hashOf) s).arena = (history l).foldl Arena.apply s.arena := by
  induction l generalizing s with
  | nil => rfl
  | cons e l ih =>
    rw [foldl_cons, ih, history, history, filterMap_cons]
    simp only [recoverEntry]
    cases e.payload.memory? <;> rfl

lemma recoverEntry_status (s : Server) (e : SubstrateEntry) (id : MemoryId) :
    (s.recoverEntry hashOf e).memory.status id =
      e.payload.memory?.toList.foldl (MemoryPayload.onStatus id) (s.memory.status id) := by
  simp only [recoverEntry, memory, SubstrateDb.replayEntry, Db.replayEntry]
  cases e.payload with
  | record p =>
    refine (Substrate.replay_status hashOf e.lsn e.timestamp _ p id).trans ?_
    cases p <;> rfl
  | _ => rfl

lemma foldl_recoverEntry_status (s : Server) (id : MemoryId) :
    (l.foldl (recoverEntry hashOf) s).memory.status id =
      (history l).foldl (MemoryPayload.onStatus id) (s.memory.status id) := by
  induction l generalizing s with
  | nil => rfl
  | cons e l ih =>
    rw [foldl_cons, ih, recoverEntry_status, history, history, filterMap_cons]
    cases e.payload.memory? <;> rfl

lemma foldl_recoverEntry_durableLsn {l : List SubstrateEntry} {bound : Nat}
    (hl : ∀ e ∈ l, ∀ checkpointId durable, e.payload = .checkpointEnd checkpointId durable →
      durable < bound) {s : Server} (hs : s.durableLsn < bound) :
    (l.foldl (recoverEntry hashOf) s).durableLsn < bound := by
  refine List.foldlRecOn l _ (motive := fun r : Server => r.durableLsn < bound) hs ?_
  intro r hr e he
  unfold recoverEntry
  simp only
  split
  next checkpointId durable hpay => exact max_lt hr (hl e he checkpointId durable hpay)
  · exact hr

def AcceptedStep (s : Server) : ServerStep → Prop
  | .reserve => s.nextSlot < 2 ^ 48
  | .submit now w => (∃ ack, (BrainDb.submit substrateEngine now w s.shard).1 = .ok ack) ∧
      w.upserted.Nodup ∧ ∀ id ∈ w.upserted, id ∈ s.reserved
  | .rebuild | .checkpoint _ | .restart _ => True

structure Sound (s : Server) : Prop where
  ledger : Ledger s.shardId s.nextSlot s.reserved s.memory (history s.shard.log.entries)
  arena : ∃ done, done <+: s.shard.log.entries ∧
    s.durableLsn < s.shard.log.first + done.length ∧
    ∀ idx, ArenaSlot.Reflects idx (history done) (s.arena.slot idx)
  watermark : s.shard.committedWatermark < s.shard.log.nextLsn
  checkpoints : ∀ e ∈ s.shard.log.entries, ∀ checkpointId durable,
    e.payload = .checkpointEnd checkpointId durable → durable < s.shard.log.nextLsn
  main : s.shard.index.main.tombstones = ∅
  snapshot : ∀ idx, s.snapshot = some idx → idx.tombstones = ∅

namespace Sound
variable {s : Server}

lemma fresh (shardId : Nat) : (Server.fresh shardId).Sound where
  ledger := Ledger.empty shardId
  arena := ⟨[], nil_prefix, Nat.one_pos, fun idx => ArenaSlot.Reflects.zero idx⟩
  watermark := Nat.one_pos
  checkpoints e he := by cases he
  main := rfl
  snapshot idx h := by cases h

lemma reserve (h : s.Sound) (hroom : s.nextSlot < 2 ^ 48) : s.reserve.Sound where
  ledger := h.ledger.reserve hroom
  arena := h.arena
  watermark := h.watermark
  checkpoints := h.checkpoints
  main := h.main
  snapshot := h.snapshot

lemma submit (h : s.Sound) {now : Nanos} {w : Write SubstratePhase}
    (hok : s.AcceptedStep (.submit now w)) : (s.submit now w).Sound := by
  obtain ⟨⟨ack, hack⟩, hnd, hup⟩ := hok
  have hwatermark := submit_watermark substrateEngine now w h.watermark
  have hcase := submit_cases substrateEngine now w s.shard
  unfold Server.submit
  generalize BrainDb.submit substrateEngine now w s.shard = out at hack hwatermark hcase ⊢
  obtain ⟨result, s'⟩ := out
  subst hack
  cases hcase with
  | hit _ hs =>
    subst hs
    exact ⟨h.ledger.mono (fun id hid => (mem_filter.mp hid).1) fun _ => rfl, h.arena,
      h.watermark, h.checkpoints, h.main, h.snapshot⟩
  | committed _ happ ht hlog hindex =>
    obtain ⟨done, hdone, hdur, hreflects⟩ := h.arena
    have hentries : s'.log.entries = s.shard.log.entries ++
        stamp (if w.startedAt ≠ 0 then w.startedAt else now) s.shard.log.nextLsn
          (w.walBatch substrateEngine) := by
      rw [hlog]
      rfl
    have hnext : s.shard.log.nextLsn ≤ s'.log.nextLsn := by
      rw [hlog]
      exact (Nat.le_add_right _ _).trans (nextLsn_append _ _ _).ge
    refine ⟨?_, ⟨done, hdone.trans ⟨_, hentries.symm⟩, ?_, hreflects⟩, hwatermark, ?_, ?_, h.snapshot⟩
    · change Ledger s.shardId s.nextSlot _ s'.db.tables.memory (history s'.log.entries)
      rw [hentries, history_append, history_stamp_walBatch, ht]
      exact h.ledger.applyPhases w.writeId happ hnd hup
    · rw [hlog]
      exact hdur
    · intro e he checkpointId durable hpay
      rw [hentries] at he
      rcases mem_append.mp he with he | he
      · exact lt_of_lt_of_le (h.checkpoints e he checkpointId durable hpay) hnext
      · have hmem := List.mem_map_of_mem (f := Entry.payload) he
        rw [map_payload_stamp] at hmem
        exact absurd hpay (Write.payload_ne_checkpointEnd hmem checkpointId durable)
    · rw [hindex]
      exact (congrArg HnswIndex.tombstones (foldl_hnswEffect_main w.phases s.shard.index)).trans h.main

lemma rebuild (h : s.Sound) : s.rebuild.Sound where
  ledger := h.ledger
  arena := h.arena
  watermark := h.watermark
  checkpoints := h.checkpoints
  main := SharedHnsw.flushOrKeep_main (I := fun idx => idx.tombstones = ∅) h.main
    fun _ hidx => HnswIndex.rebuild_tombstones hidx
  snapshot := h.snapshot

lemma checkpoint (h : s.Sound) (now : Nanos) : (s.checkpoint now).Sound := by
  obtain ⟨done, hdone, hdur, hreflects⟩ := h.arena
  have hnext : (s.checkpoint now).shard.log.nextLsn = s.shard.log.nextLsn + 2 := by
    simp only [Server.checkpoint, nextLsn_append, length_singleton]
  have hentries : (s.checkpoint now).shard.log.entries = s.shard.log.entries ++
      [⟨s.shard.log.nextLsn, now, .checkpointBegin s.nextCheckpointId⟩,
        ⟨s.shard.log.nextLsn + 1, now, .checkpointEnd s.nextCheckpointId
          (min s.shard.committedWatermark s.shard.log.nextLsn)⟩] := by
    simp [Server.checkpoint, append, stamp, nextLsn, Nat.add_assoc]
  refine ⟨?_, ⟨done, hdone.trans ⟨_, hentries.symm⟩, hdur, hreflects⟩, ?_, ?_, h.main, ?_⟩
  · rw [hentries, history_append]
    change Ledger _ _ _ _ (history s.shard.log.entries ++ [])
    rw [append_nil]
    exact h.ledger
  · exact h.watermark.trans (by omega)
  · intro e he checkpointId durable hpay
    rw [hentries] at he
    rcases mem_append.mp he with he | he
    · exact (h.checkpoints e he checkpointId durable hpay).trans (by omega)
    · simp only [mem_cons, not_mem_nil, or_false] at he
      rcases he with rfl | rfl
      · cases hpay
      · cases hpay
        omega
  · intro idx hidx
    change SharedHnsw.saveSnapshot s.shard.index = some idx at hidx
    unfold SharedHnsw.saveSnapshot at hidx
    split at hidx
    · cases hidx
    · cases hidx
      exact h.main

lemma history_above (s : Server) : ∃ pre : List SubstrateEntry,
    pre = s.shard.log.entries.take (s.durableLsn + 1 - s.shard.log.first) ∧
      history s.shard.log.entries = history pre ++ history (s.shard.log.above s.durableLsn) := by
  refine ⟨_, rfl, ?_⟩
  rw [above_eq_drop, ← history_append, take_append_drop]

lemma recover_status (h : s.Sound) (hashOf : String → Digest) (id : MemoryId) :
    (s.recover hashOf).memory.status id = s.memory.status id := by
  obtain ⟨pre, -, hcut⟩ := history_above s
  rw [recover, foldl_recoverEntry_status, h.ledger.status, hcut, foldl_append]
  exact foldl_onStatus_idem id _ _

lemma recover_arena (h : s.Sound) (hashOf : String → Digest) (idx : Nat) :
    ArenaSlot.Reflects idx (history s.shard.log.entries) ((s.recover hashOf).arena.slot idx) := by
  obtain ⟨pre, hpre, hcut⟩ := history_above s
  obtain ⟨done, hdone, hdur, hreflects⟩ := h.arena
  have hslots := h.ledger.slots
  rw [hcut] at hslots
  rw [recover, foldl_recoverEntry_arena, Arena.slot_foldl, hcut]
  refine (hreflects idx).replay hslots (fun p hp => ?_) fun p hp => ?_
  · obtain ⟨e, he, hep⟩ := mem_filterMap.mp hp
    obtain ⟨rest, hrest⟩ := hdone
    rw [hpre, ← hrest, take_append_of_le_length (by omega)] at he
    exact mem_filterMap.mpr ⟨e, mem_of_mem_take he, hep⟩
  · obtain ⟨e, he, hep⟩ := mem_filterMap.mp hp
    rw [← hcut]
    exact mem_filterMap.mpr ⟨e, hdone.subset he, hep⟩

lemma restart (h : s.Sound) (hashOf : String → Digest) (loads : Bool) :
    (s.restart hashOf loads).Sound := by
  obtain ⟨hshard, hlog, hsnap⟩ := foldl_recoverEntry_frame hashOf (s.shard.log.above s.durableLsn) s
  change (s.recover hashOf).shardId = _ at hshard
  change (s.recover hashOf).shard.log = _ at hlog
  obtain ⟨done, hdone, hdur, -⟩ := h.arena
  have hlen : done.length ≤ s.shard.log.entries.length := hdone.length_le
  have hdur' : (s.recover hashOf).durableLsn < s.shard.log.nextLsn := by
    refine foldl_recoverEntry_durableLsn (fun e he => ?_) ?_
    · exact h.checkpoints e (mem_of_mem_above he).1
    · rw [nextLsn]
      omega
  have hledger := (h.ledger.mono (fun id hid => hid) (h.recover_status hashOf)).reseed
  refine ⟨?_, ⟨s.shard.log.entries, ?_, ?_, h.recover_arena hashOf⟩, ?_, ?_, ?_, ?_⟩
  · change Ledger (s.recover hashOf).shardId _ _ _ (history (s.recover hashOf).shard.log.entries)
    rw [hshard, hlog]
    exact hledger
  · exact ⟨[], by rw [append_nil]; exact congrArg Journal.entries hlog.symm⟩
  · change (s.recover hashOf).durableLsn < (s.recover hashOf).shard.log.first + _
    rw [hlog]
    exact hdur'
  · change (s.recover hashOf).shard.log.nextLsn - 1 < (s.recover hashOf).shard.log.nextLsn
    rw [hlog, nextLsn]
    omega
  · change ∀ e ∈ (s.recover hashOf).shard.log.entries, ∀ checkpointId durable, _ →
      durable < (s.recover hashOf).shard.log.nextLsn
    rw [hlog]
    exact h.checkpoints
  · refine bootIndex_main_tombstones fun idx hidx => ?_
    unfold loaded at hidx
    split at hidx
    · exact h.snapshot idx hidx
    · cases hidx
  · intro idx hidx
    exact h.snapshot idx (hsnap ▸ hidx)

lemma step (h : s.Sound) {st : ServerStep} (hok : s.AcceptedStep st) :
    (s.step hashOf st).Sound := by
  cases st with
  | reserve => exact h.reserve hok
  | submit now w => exact h.submit hok
  | rebuild => exact h.rebuild
  | checkpoint now => exact h.checkpoint now
  | restart loads => exact h.restart hashOf loads

lemma of_reachable (h : Reachable hashOf AcceptedStep s) : s.Sound :=
  h.invariant Sound.fresh fun _ _ hok hs => hs.step hok

end Sound

/-- Boot restores the index for a memory, serving it iff its row is active, exactly when its row is
inactive, or the snapshot holds it, or the log never forgot it and the rebuild without a snapshot
has room: a restore leaves the tombstone in the arena. -/
theorem boot_serves_active_iff {s : Server} (h : Reachable hashOf AcceptedStep s)
    (loads : Bool) (id : MemoryId) : (((s.restart hashOf loads).shard.index.contains id = true ∧
        (s.restart hashOf loads).shard.index.isTombstoned id = false) ↔
      (s.restart hashOf loads).memory.isActive id = true) ↔ (s.memory.isActive id = true →
      ((s.loaded loads).any fun idx => idx.contains id) = true ∨
        ¬Forgotten (history s.shard.log.entries) id ∧
          (s.loaded loads = none → (unforgotten (history s.shard.log.entries)).length ≤ u32Max)) := by
  have hs := Sound.of_reachable h
  have hl := hs.ledger
  have ha := hs.recover_arena hashOf
  have hshard := (foldl_recoverEntry_frame hashOf (s.shard.log.above s.durableLsn) s).1
  change (s.recover hashOf).shardId = s.shardId at hshard
  -- recovery leaves every row as active as it was
  have hactive : (s.restart hashOf loads).memory.isActive id = s.memory.isActive id := by
    change (s.recover hashOf).memory.isActive id = _
    rw [isActive_eq, isActive_eq, hs.recover_status]
  have hrecovered : (s.recover hashOf).memory.isActive id = s.memory.isActive id := hactive
  -- a memory that was encoded and never forgotten is active
  have hlive : id ∈ unforgotten (history s.shard.log.entries) → s.memory.isActive id = true := by
    intro hmem
    obtain ⟨henc, hnot⟩ := mem_unforgotten.mp hmem
    obtain ⟨st, hst⟩ := isSome_iff_exists.mp ((foldl_onStatus_isSome _).mpr henc)
    rw [isActive_eq, hl.status, hst]
    by_contra hinact
    exact hnot (foldl_onStatus_inactive hst (by simpa using hinact))
  have hencoded : s.memory.isActive id = true → Encoded (history s.shard.log.entries) id := by
    intro hact
    rw [← foldl_onStatus_isSome, ← hl.status]
    rw [isActive_eq] at hact
    cases hst : s.memory.status id with
    | none => rw [hst] at hact; cases hact
    | some st => rfl
  have hindex : (s.restart hashOf loads).shard.index =
      bootIndex (s.recover hashOf).memory
        ((s.recover hashOf).arena.snapshotVectors (s.recover hashOf).shardId)
        (s.loaded loads) := rfl
  rw [hindex, hactive, hshard]
  cases hloaded : s.loaded loads with
  | none =>
    rw [bootIndex_none_serves (hl.snapshotVectors_nodup ha), hl.mem_snapshotVectors ha,
      hl.length_snapshotVectors ha]
    rw [mem_unforgotten] at hlive ⊢
    tauto
  | some idx =>
    have htomb : idx.tombstones = ∅ := by
      unfold loaded at hloaded
      split at hloaded
      · exact hs.snapshot idx hloaded
      · cases hloaded
    rw [bootIndex_some_serves htomb, hl.mem_snapshotVectors ha, hrecovered]
    rw [mem_unforgotten] at hlive ⊢
    simp only [any_some, reduceCtorEq, false_implies, and_true]
    by_cases hin : idx.contains id = true
    · simp [hin]
    · simp only [hin, if_false, Bool.false_eq_true, false_or]
      tauto

def plainWrite (writeId : WriteId) (phase : SubstratePhase) : Write SubstratePhase :=
  { scope := ⟨1, 1⟩, spaceString := "", writeId, startedAt := 1, phases := [phase]
    requestHash := none }

def firstId : MemoryId := MemoryId.pack 0 1 1

def firstMemory : UpsertMemory :=
  { id := firstId, text := "note", vector := List.replicate vectorDim 0, kind := .episodic
    salience := 0, sessionId := 1, createdAt := 1, occurredAt := none, arenaSlot := 1
    embeddingModelFp := 0, contentHash := none, deduplicate := false }

def encodeFirst : ServerStep := .submit 1 (plainWrite 1 (.memory (.upsertMemory firstMemory)))

def forgetFirst : ServerStep :=
  .submit 2 (plainWrite 2 (.memory (.tombstoneMemory firstId .soft 2)))

def restoreFirst : ServerStep := .submit 3 (plainWrite 3 (.memory (.restoreMemory firstId 3)))

def run (hashOf : String → Digest) (s : Server) (steps : List ServerStep) : Server :=
  steps.foldl (step hashOf) s

def encodedShard : Server := run (fun _ => 0) (fresh 0) [.reserve, encodeFirst]

def restoredShard : Server := run (fun _ => 0) encodedShard [forgetFirst, restoreFirst]

lemma encodedShard_reachable : Reachable (fun _ => 0) AcceptedStep encodedShard := by
  have hreserve : Reachable (fun _ => 0) AcceptedStep (step (fun _ => 0) (fresh 0) .reserve) :=
    .step (.fresh 0) (show 1 < 2 ^ 48 by decide)
  exact .step hreserve (show AcceptedStep _ encodeFirst from ⟨⟨_, rfl⟩, by decide, by decide⟩)

lemma forgotten_reachable :
    Reachable (fun _ => 0) AcceptedStep (step (fun _ => 0) encodedShard forgetFirst) :=
  .step encodedShard_reachable ⟨⟨_, rfl⟩, by decide, by decide⟩

lemma restoredShard_reachable : Reachable (fun _ => 0) AcceptedStep restoredShard :=
  .step forgotten_reachable (show AcceptedStep _ restoreFirst from ⟨⟨_, rfl⟩, by decide, by decide⟩)

/-- The row of the restored memory is active and its vector is stored, but the arena still shows
the tombstone, so boot without a snapshot leaves it out of the index. -/
theorem restored_memory_leaves_index : Reachable (fun _ => 0) AcceptedStep restoredShard ∧
      (restoredShard.restart (fun _ => 0) false).memory.isActive firstId = true ∧
      ((restoredShard.restart (fun _ => 0) false).memory.artifactVector firstId).isSome = true ∧
      (restoredShard.restart (fun _ => 0) false).shard.index.contains firstId = false := by
  have hvector : (restoredShard.restart (fun _ => 0) false).memory.vectors.get firstId =
      some (List.replicate vectorDim 0) := rfl
  refine ⟨restoredShard_reachable, rfl, ?_, rfl⟩
  rw [artifactVector, hvector, filter_some, if_pos (by simp)]
  rfl

theorem encoded_memory_stays_in_index : Reachable (fun _ => 0) AcceptedStep encodedShard ∧
      (((encodedShard.restart (fun _ => 0) false).shard.index.contains firstId = true ∧
          (encodedShard.restart (fun _ => 0) false).shard.index.isTombstoned firstId = false) ↔
        (encodedShard.restart (fun _ => 0) false).memory.isActive firstId = true) := by
  refine ⟨encodedShard_reachable, ?_⟩
  refine (boot_serves_active_iff encodedShard_reachable false firstId).mpr fun _ => .inr ⟨?_, ?_⟩
  · decide
  · intro _
    decide

/-- The log determines the status of every memory, a restart gives it back, and an id that is handed
out has none. -/
theorem log_determines_status {s : Server} (h : Reachable hashOf AcceptedStep s) (loads : Bool)
    (id : MemoryId) :
    s.memory.status id = (history s.shard.log.entries).foldl (MemoryPayload.onStatus id) none ∧
      (s.restart hashOf loads).memory.status id = s.memory.status id ∧
      (id ∈ s.reserved → s.memory.status id = none) := by
  have hs := Sound.of_reachable h
  refine ⟨hs.ledger.status id, hs.recover_status hashOf id, fun hid => ?_⟩
  rw [hs.ledger.status, ← not_isSome_iff_eq_none, foldl_onStatus_isSome]
  rintro ⟨p, hp, hencodes⟩
  exact (hs.ledger.reserved_mem id hid).2 p hp (MemoryPayload.slot?_of_encodes hencodes)

theorem restored_status_kept : (restoredShard.restart (fun _ => 0) false).memory.status firstId =
    restoredShard.memory.status firstId :=
  (log_determines_status restoredShard_reachable false firstId).2.1

end Server
end BrainDb
