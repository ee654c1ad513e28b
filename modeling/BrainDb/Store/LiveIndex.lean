import BrainDb.Base.Run
import BrainDb.Store.Cell

namespace BrainDb
open Table ExceptLemmas
namespace Memories

structure LiveIndexes (t : Memories) : Prop where
  named : ∀ id row, t.memories.get id = some row → row.memoryId = id
  timeline : ∀ k, t.timeline.get k = some () ↔
    ∃ id row, t.memories.get id = some row ∧ row.flags.active = true ∧ row.timelineKey = k
  fingerprints : ∀ k e, t.fingerprints.get k = some e → ∃ row,
    t.memories.get e.memoryId = some row ∧ row.flags.active = true ∧
      row.contentHash.map row.fingerprintKey = some k

variable (t : Memories)

def step (op : Caller × MemoryPhase) : Memories :=
  match t.dispatch op.1 op.2 with
  | .ok (t', _) => t'
  | .error _ => t

def KeepsLive (op : Caller × MemoryPhase) : Prop :=
  match op.2 with
  | .upsertMemory m =>
    (∀ old, t.memories.get m.id = some old → old.flags.active = true →
      old.timelineKey = (m.row op.1).timelineKey) ∧
    ∀ k e, t.fingerprints.get k = some e → e.memoryId = m.id →
      m.dedupHash.map (m.row op.1).fingerprintKey = some k
  | .updateSession id s => ∀ row, t.memories.get id = some row → row.flags.active = true ∧
    (row.sessionId = s ∨ ∀ k e, t.fingerprints.get k = some e → e.memoryId ≠ id)
  | _ => True

structure Follows (t : Memories) (id : MemoryId) (row : MemoryRow) : Prop where
  timeline : ∀ k, k.memoryId = id →
    (t.timeline.get k = some () ↔ row.flags.active = true ∧ row.timelineKey = k)
  fingerprints : ∀ k e, t.fingerprints.get k = some e → e.memoryId = id →
    row.flags.active = true ∧ row.contentHash.map row.fingerprintKey = some k

variable {t t' : Memories} {id : MemoryId} {row row' : MemoryRow}

lemma LiveIndexes.follows (h : t.LiveIndexes) (hrow : t.memories.get id = some row) :
    t.Follows id row := by
  have hnamed : ∀ id row, t.memories.get id = some row → row.timelineKey.memoryId = id := h.named
  refine ⟨fun k hk => ?_, fun k e hget he => ?_⟩
  · have hkey := h.timeline k
    grind
  · have hentry := h.fingerprints k e hget
    grind

lemma LiveIndexes.write_iff (h : t.LiveIndexes) (row : MemoryRow) (hid : row.memoryId = id)
    (hrows : t'.memories = t.memories.insert id row)
    (htimeline : ∀ k, k.memoryId ≠ id → t'.timeline.get k = t.timeline.get k)
    (hprints : ∀ k e, t'.fingerprints.get k = some e → e.memoryId ≠ id →
      t.fingerprints.get k = some e) : t'.LiveIndexes ↔ t'.Follows id row := by
  have hrow : t'.memories.get id = some row := by rw [hrows, get_insert_self]
  have hoth : ∀ i, i ≠ id → t'.memories.get i = t.memories.get i := by
    intro i hi
    rw [hrows, get_insert_ne _ _ hi]
  have hnamed : ∀ id row, t.memories.get id = some row → row.timelineKey.memoryId = id := h.named
  have hids : row.timelineKey.memoryId = id := hid
  refine ⟨fun h' => h'.follows hrow, fun hown => ⟨fun i r hr => ?_, fun k => ?_, fun k e hget => ?_⟩⟩
  · have hold := h.named
    grind
  · have hold := h.timeline k
    have hnew := hown.timeline k
    by_cases hk : k.memoryId = id <;> grind
  · have hold := h.fingerprints k e
    have hnew := hown.fingerprints k e
    by_cases he : e.memoryId = id <;> grind

lemma live_upsert (h : t.LiveIndexes) (caller : Caller) (m : UpsertMemory) :
    (t.applyUpsertMemory caller m).LiveIndexes ↔ t.KeepsLive (caller, .upsertMemory m) := by
  have htimeline : ∀ k, (t.applyUpsertMemory caller m).timeline.get k =
      if k = (m.row caller).timelineKey then some () else t.timeline.get k :=
    fun k => t.timeline.get_insert _ _ _
  have hprints : ∀ k, (t.applyUpsertMemory caller m).fingerprints.get k =
      if m.dedupHash.map (m.row caller).fingerprintKey = some k then some ⟨m.id, m.createdAt⟩
      else t.fingerprints.get k := by
    intro k
    cases hhash : m.dedupHash <;> simp [applyUpsertMemory, hhash, get_insert, eq_comm]
  have hid : (m.row caller).timelineKey.memoryId = m.id := rfl
  have hact : (m.row caller).flags.active = true := rfl
  have hhash : (m.row caller).contentHash = m.dedupHash := rfl
  refine Iff.trans (h.write_iff (m.row caller) hid rfl (by grind) (by grind)) ?_
  constructor
  · intro hown
    refine ⟨fun old hold hold' => ?_, fun k e hget he => ?_⟩
    · have hkey : old.timelineKey.memoryId = m.id := h.named _ _ hold
      have hbef := (h.follows hold).timeline _ hkey
      have haft := hown.timeline _ hkey
      grind
    · have haft := hown.fingerprints k e
      grind
  · rintro ⟨hkeys, hhashes⟩
    refine ⟨fun k hk => ?_, fun k e hget he => ?_⟩
    · have hbef := h.timeline k
      have hnamed := h.named
      grind [MemoryRow.timelineKey]
    · grind

lemma live_tombstone (h : t.LiveIndexes) (hrow : t.memories.get id = some row)
    (mode : TombstoneMode) (now : Nanos) : (t.tombstoneRow id mode now row).LiveIndexes := by
  have htimeline : ∀ k, (t.tombstoneRow id mode now row).timeline.get k =
      if k = row.timelineKey then none else t.timeline.get k := fun k => t.timeline.get_remove _ _
  have hprints : ∀ k, (t.tombstoneRow id mode now row).fingerprints.get k =
      if row.contentHash.map row.fingerprintKey = some k then none else t.fingerprints.get k := by
    intro k
    cases hhash : row.contentHash <;> simp [tombstoneRow, hhash, get_remove, eq_comm]
  have hid : row.timelineKey.memoryId = id := h.named _ _ hrow
  have hact : (row.tombstoned mode now).flags.active = false := rfl
  have hold := h.follows hrow
  refine Iff.mpr (h.write_iff (row.tombstoned mode now) hid rfl (by grind) (by grind)) ?_
  refine ⟨fun k hk => ?_, fun k e hget he => ?_⟩
  · have hbef := hold.timeline k hk
    grind
  · have hbef := hold.fingerprints k e
    grind

lemma live_reactivate (h : t.LiveIndexes) (hrow : t.memories.get id = some row)
    (hact : row.flags.active = false) (insertedAt : Nanos) :
    (t.reactivateRow id insertedAt row).LiveIndexes := by
  have htimeline : ∀ k, (t.reactivateRow id insertedAt row).timeline.get k =
      if k = row.timelineKey then some () else t.timeline.get k :=
    fun k => t.timeline.get_insert _ _ _
  have hprints : ∀ k, (t.reactivateRow id insertedAt row).fingerprints.get k =
      if row.contentHash.map row.fingerprintKey = some k then some ⟨id, insertedAt⟩
      else t.fingerprints.get k := by
    intro k
    cases hhash : row.contentHash <;> simp [reactivateRow, hhash, get_insert, eq_comm]
  have hid : row.timelineKey.memoryId = id := h.named _ _ hrow
  have hact' : row.reactivated.flags.active = true := rfl
  have hkey : row.reactivated.timelineKey = row.timelineKey := rfl
  have hprint : row.reactivated.contentHash.map row.reactivated.fingerprintKey =
      row.contentHash.map row.fingerprintKey := rfl
  have hold := h.follows hrow
  refine Iff.mpr (h.write_iff row.reactivated hid rfl (by grind) (by grind)) ?_
  refine ⟨fun k hk => ?_, fun k e hget he => ?_⟩
  · have hbef := hold.timeline k hk
    grind
  · have hbef := hold.fingerprints k e
    grind

lemma live_modifyRow (h : t.LiveIndexes) {f : MemoryRow → MemoryRow}
    (hok : modifyRow id f t = .ok t') (hkey : ∀ row, (f row).timelineKey = row.timelineKey)
    (hhash : ∀ row, (f row).contentHash.map (f row).fingerprintKey =
      row.contentHash.map row.fingerprintKey)
    (hact : ∀ row, (f row).flags.active = row.flags.active) : t'.LiveIndexes := by
  unfold modifyRow at hok
  split at hok
  · cases hok
  next row hrow =>
    cases hok
    have hid : (f row).timelineKey.memoryId = id := by
      rw [hkey]
      exact h.named _ _ hrow
    refine Iff.mpr (h.write_iff (f row) hid rfl (fun _ _ => rfl) fun _ _ hget _ => hget) ?_
    have hold := h.follows hrow
    refine ⟨fun k hk => ?_, fun k e hget he => ?_⟩
    · rw [hact, hkey]
      exact hold.timeline k hk
    · rw [hact, hhash]
      exact hold.fingerprints k e hget he

lemma live_updateSession (h : t.LiveIndexes) (caller : Caller) {s : SessionId}
    (hok : t.applyUpdateSession id s = .ok t') :
    t'.LiveIndexes ↔ t.KeepsLive (caller, .updateSession id s) := by
  unfold applyUpdateSession at hok
  split at hok
  · cases hok
  next row hrow =>
    cases hok
    have hid := h.named _ _ hrow
    have hold := h.follows hrow
    generalize hnew : { row with sessionId := s } = new
    have hoffKey : row.timelineKey = ⟨row.scope, row.createdAt, row.sessionId, id⟩ := by
      rw [← hid]
      rfl
    have honKey : new.timelineKey = ⟨row.scope, row.createdAt, s, id⟩ := by
      rw [← hid, ← hnew]
      rfl
    have hact : new.flags.active = row.flags.active := by rw [← hnew]
    have hprint : new.contentHash.map new.fingerprintKey = row.contentHash.map row.fingerprintKey ↔
        row.contentHash = none ∨ row.sessionId = s := by
      cases hhash : row.contentHash <;> simp [← hnew, hhash, MemoryRow.fingerprintKey, eq_comm]
    have hoth : ∀ k : TimelineKey, k.memoryId ≠ id →
        ((t.timeline.remove row.timelineKey).insert new.timelineKey ()).get k = t.timeline.get k := by
      grind [get_insert, get_remove]
    have hid' : new.timelineKey.memoryId = id := by rw [honKey]
    rw [← hoffKey, ← honKey]
    refine Iff.trans (h.write_iff new hid' rfl hoth fun _ _ hget _ => hget) ?_
    constructor
    · intro hown row' hrow'
      have haft := hown.timeline new.timelineKey hid'
      refine ⟨by grind [get_insert_self], ?_⟩
      by_contra! hne
      obtain ⟨hsess, k, e, hget, he⟩ := hne
      have hbef := hold.fingerprints k e hget he
      have haft := hown.fingerprints k e hget he
      grind
    · intro hkeeps
      obtain ⟨hact', hsess⟩ := hkeeps row hrow
      refine ⟨fun k hk => ?_, fun k e hget he => ?_⟩
      · have hbef := hold.timeline k hk
        grind [get_insert, get_remove]
      · have hbef := hold.fingerprints k e hget he
        grind

lemma live_dispatch (h : t.LiveIndexes) {caller : Caller} {phase : MemoryPhase} {ack : MemoryAck}
    (hok : t.dispatch caller phase = .ok (t', ack)) :
    t'.LiveIndexes ↔ t.KeepsLive (caller, phase) := by
  cases phase with
  | upsertMemory m =>
    cases hok
    exact live_upsert h caller m
  | tombstoneMemory i mode now =>
    obtain ⟨u, hu, heq⟩ := map_ok hok
    cases heq
    obtain ⟨row, hrow, -, rfl⟩ := applyTombstoneMemory_ok hu
    exact iff_of_true (live_tombstone h hrow mode now) trivial
  | restoreMemory i now =>
    obtain ⟨⟨u, b⟩, hu, heq⟩ := map_ok hok
    cases heq
    obtain ⟨row, hrow, -, -, -, rfl⟩ := applyRestoreMemory_ok hu
    refine iff_of_true ?_ trivial
    split
    · exact h
    next hact => exact live_reactivate h hrow (Bool.eq_false_iff.mpr hact) _
  | updateSalience i s | updateKind i k | updateEmbedding i v =>
    obtain ⟨u, hu, heq⟩ := map_ok hok
    cases heq
    exact iff_of_true (live_modifyRow h hu (fun _ => rfl) (fun _ => rfl) fun _ => rfl) trivial
  | updateSession i s =>
    obtain ⟨u, hu, heq⟩ := map_ok hok
    cases heq
    exact live_updateSession h caller hu
  | _ =>
    cases hok
    exact iff_of_true ⟨h.named, h.timeline, h.fingerprints⟩ trivial

lemma live_step (h : t.LiveIndexes) (op : Caller × MemoryPhase) :
    (t.step op).LiveIndexes ↔ t.KeepsLive op := by
  obtain ⟨caller, phase⟩ := op
  unfold step
  split
  next t' ack hok => exact live_dispatch h hok
  next e herror =>
    -- a phase that fails would have needed nothing
    refine iff_of_true h ?_
    cases phase with
    | upsertMemory m => cases herror
    | updateSession i s =>
      intro row hrow
      simp only [dispatch, applyUpdateSession, hrow] at herror
      cases herror
    | _ => trivial

/-- In a run of phases on empty tables the indexes name the active memories throughout exactly if
every phase is as it needs to be. -/
theorem liveIndexes_always_iff (ops : List (Caller × MemoryPhase)) :
    Run.Always step LiveIndexes Memories.empty ops ↔
      Run.EachStep step KeepsLive Memories.empty ops := by
  have hempty : Memories.empty.LiveIndexes := by
    constructor <;> simp [Memories.empty]
  exact Run.always_iff_eachStep (I := fun _ => True) (P := LiveIndexes) (fun _ _ _ => trivial)
    (fun t op _ h => live_step h op) trivial hempty ops

/-- A memory is forgotten and then moved to another session: the timeline has it again. -/
theorem forgotten_memory_moved : ¬ Run.Always step LiveIndexes Memories.empty
      [(⟨⟨1, 1⟩, "home"⟩, .upsertMemory ⟨7, "note", [], .episodic, 0, 1, 10, none, 0, 0, none, false⟩),
        (⟨⟨1, 1⟩, "home"⟩, .tombstoneMemory 7 .soft 20),
        (⟨⟨1, 1⟩, "home"⟩, .updateSession 7 2)] := by
  intro h
  have hlive := h.last
  generalize hend : List.foldl step Memories.empty _ = t at hlive
  have hkey : t.timeline.get ⟨⟨1, 1⟩, 10, 2, 7⟩ = some () := by
    subst hend
    decide +kernel
  have hrows : ∀ e ∈ t.memories.entries, e.2.flags.active = false := by
    subst hend
    decide +kernel
  obtain ⟨id, row, hrow, hact, -⟩ := (hlive.timeline _).mp hkey
  rw [hrows _ ((mem_entries_iff _).mpr hrow)] at hact
  cases hact

end Memories
end BrainDb
