import BrainDb.Store.Repeat

namespace BrainDb
open Memories
open LoggedPhase (onCell)
open Option Table ExceptLemmas
open Override MemoryRow Cell

@[ext] structure Slot (V : Type) where
  hard : MemoryId → Option Bool
  entry : Option V

variable {V : Type} {keyed : MemoryId → Bool}

namespace Slot
variable (keyed : MemoryId → Bool) (id : MemoryId)

def forget (hard : Bool) (s : Slot V) : Slot V :=
  { hard := Function.update s.hard id ((s.hard id).map (· || hard))
    entry := if keyed id then none else s.entry }

def restore (value : V) (s : Slot V) : Slot V :=
  if s.hard id = some false ∧ keyed id then { s with entry := some value } else s

lemma forget_hard (hard : Bool) (s : Slot V) (k : MemoryId) :
    (s.forget keyed id hard).hard k = if k = id then (s.hard k).map (· || hard) else s.hard k := by
  by_cases hk : k = id
  · subst hk
    simp [forget]
  · simp [forget, hk]

lemma forget_entry (hard : Bool) (s : Slot V) :
    (s.forget keyed id hard).entry = if keyed id then none else s.entry := rfl

lemma restore_hard (value : V) (s : Slot V) : (s.restore keyed id value).hard = s.hard := by
  unfold restore
  split <;> rfl

lemma restore_entry (value : V) (s : Slot V) : (s.restore keyed id value).entry =
      if s.hard id = some false ∧ keyed id then some value else s.entry := by
  unfold restore
  split <;> rfl

end Slot

open Slot

inductive SlotOp {V : Type} (keyed : MemoryId → Bool) : (Slot V → Slot V) → Prop
  | skip : SlotOp keyed fun s => s
  | forget (id : MemoryId) (hard : Bool) : SlotOp keyed (forget keyed id hard)
  | restore (id : MemoryId) (value : V) : SlotOp keyed (restore keyed id value)

variable {f : Slot V → Slot V} {id : MemoryId}

lemma SlotOp.idem (hf : SlotOp keyed f) (s : Slot V) : f (f s) = f s := by
  cases hf with
  | skip => rfl
  | forget id hard =>
    ext1
    · funext k
      simp only [forget_hard]
      cases hs : s.hard k <;> grind
    · simp only [forget_entry]
      grind
  | restore id value =>
    ext1
    · simp only [restore_hard]
    · simp only [restore_entry, restore_hard]
      grind

lemma SlotOp.absorbs {g : Slot V → Slot V} (hf : SlotOp keyed f) (hg : SlotOp keyed g) :
    Absorbs f g := by
  intro s
  cases hf with
  | skip => rfl
  | forget id hard =>
    cases hg with
    | skip => exact (SlotOp.forget id hard).idem s
    | forget id' hard' =>
      ext1
      · funext k
        simp only [forget_hard]
        cases hs : s.hard k <;> grind
      · simp only [forget_entry]
        grind
    | restore id' value =>
      ext1
      · funext k
        simp only [forget_hard, restore_hard]
        cases hs : s.hard k <;> grind
      · simp only [forget_entry, restore_entry, forget_hard]
        grind
  | restore id value =>
    cases hg with
    | skip => exact (SlotOp.restore id value).idem s
    | forget id' hard' =>
      ext1
      · funext k
        simp only [forget_hard, restore_hard]
      · simp only [forget_entry, restore_entry, forget_hard, restore_hard]
        grind
    | restore id' value' =>
      ext1
      · simp only [restore_hard]
      · simp only [restore_entry, restore_hard]
        grind

def MemoryRow.indexed (row : MemoryRow) : RowScope × Nanos × SessionId × MemoryId × Option Digest :=
  (row.scope, row.createdAt, row.sessionId, row.memoryId, row.contentHash)

structure IndexEntry (V : Type) where
  entry : Memories → Option V
  keyed : MemoryRow → Bool
  value : MemoryId → Nanos → V
  /-- The memory whose moves to another session concern the entry. -/
  mover : Option MemoryId
  keyed_congr {row row' : MemoryRow} : row.indexed = row'.indexed → keyed row = keyed row'
  hashed {row : MemoryRow} : keyed row = true → row.contentHash = none →
    ∀ id stamp stamp', value id stamp = value id stamp'
  tombstone (t : Memories) (id : MemoryId) (mode : TombstoneMode) (now : Nanos)
    (row : MemoryRow) : entry (t.tombstoneRow id mode now row) = if keyed row then none else entry t
  reactivate (t : Memories) (id : MemoryId) (stamp : Nanos) (row : MemoryRow) :
    entry (t.reactivateRow id stamp row) = if keyed row then some (value id stamp) else entry t
  memories (t : Memories) (ms : Table MemoryId MemoryRow) :
    entry { t with memories := ms } = entry t
  moved {t t' : Memories} {id : MemoryId} {s : SessionId} : mover ≠ some id →
    t.applyUpdateSession id s = .ok t' → entry t' = entry t

def timelineEntry (k : TimelineKey) : IndexEntry Unit where
  entry t := t.timeline.get k
  keyed row := row.timelineKey = k
  value _ _ := ()
  mover := some k.memoryId
  keyed_congr {row row'} h := by
    simp only [indexed, Prod.mk.injEq] at h
    have hkey : row.timelineKey = row'.timelineKey := by simp only [timelineKey, h]
    rw [hkey]
  hashed _ _ _ _ _ := rfl
  tombstone t id mode now row := by
    simp [tombstoneRow, get_remove, eq_comm]
  reactivate t id stamp row := by
    simp [reactivateRow, get_insert, eq_comm]
  memories t ms := rfl
  moved {t t' id s} hne h := by
    unfold applyUpdateSession at h
    split at h
    · cases h
    next row _ =>
      cases h
      have hold : k ≠ ⟨row.scope, row.createdAt, row.sessionId, id⟩ := by
        rintro rfl
        exact hne rfl
      have hnew : k ≠ ⟨row.scope, row.createdAt, s, id⟩ := by
        rintro rfl
        exact hne rfl
      show ((t.timeline.remove _).insert _ ()).get k = t.timeline.get k
      rw [get_insert_ne _ _ hnew, get_remove_ne _ hold]

def fingerprintEntry (k : FingerprintKey) : IndexEntry FingerprintEntry where
  entry t := t.fingerprints.get k
  keyed row := row.contentHash.any fun hash => row.fingerprintKey hash = k
  value id stamp := ⟨id, stamp⟩
  mover := none
  keyed_congr {row row'} h := by
    simp only [indexed, Prod.mk.injEq] at h
    have hkey : row.fingerprintKey = row'.fingerprintKey :=
      funext fun hash => by simp only [fingerprintKey, h]
    rw [hkey, h.2.2.2.2]
  hashed {row} h hnone := by
    rw [hnone] at h
    cases h
  tombstone t id mode now row := by
    cases hhash : row.contentHash with
    | none => simp [tombstoneRow, hhash]
    | some hash => simp [tombstoneRow, hhash, get_remove, eq_comm]
  reactivate t id stamp row := by
    cases hhash : row.contentHash with
    | none => simp [reactivateRow, hhash]
    | some hash => simp [reactivateRow, hhash, get_insert, eq_comm]
  memories t ms := rfl
  moved {t t' id s} _ h := by
    unfold applyUpdateSession at h
    split at h
    · cases h
    · cases h
      rfl

namespace IndexEntry
variable (x : IndexEntry V)

def slot (t : Substrate) : Slot V where
  hard id := (t.memory.memories.get id).map fun row => row.flags.hardForgotten
  entry := x.entry t.memory

def Keyed (keyed : MemoryId → Bool) (qs : List LoggedPhase) (t : Substrate) : Prop :=
  ∀ q ∈ qs, ∀ id, q.phase.flipped? = some id → (t.memory.memories.get id).any x.keyed = keyed id

def onSlot (keyed : MemoryId → Bool) (q : LoggedPhase) : Slot V → Slot V :=
  match q.phase with
  | .memory (.tombstoneMemory i mode _) => forget keyed i (mode = .hard)
  | .memory (.restoreMemory i _) => restore keyed i (x.value i q.timestamp)
  | _ => fun s => s

lemma slotOp (keyed : MemoryId → Bool) (q : LoggedPhase) : SlotOp keyed (x.onSlot keyed q) := by
  unfold onSlot
  split
  · exact .forget _ _
  · exact .restore _ _
  · exact .skip

end IndexEntry

variable (c : Cell)

def Cell.hard : Option Bool := c.row.map fun row => row.flags.hardForgotten

lemma Cell.uncounted_hard : c.uncounted.hard = c.hard := by
  simp [hard, uncounted, modify, MemoryRow.uncounted, Option.map_map, Function.comp_def]

lemma IndexEntry.onSlot_hard (x : IndexEntry V) (keyed : MemoryId → Bool) (q : LoggedPhase)
    {s : Slot V} {c : Cell} (h : s.hard id = c.hard) :
    (x.onSlot keyed q s).hard id = (q.onCell id c).hard := by
  obtain ⟨caller, writeId, phase, lsn, timestamp⟩ := q
  obtain ⟨row, text, artifact, vector⟩ := c
  cases phase with
  | memory phase =>
    cases phase with
    | tombstoneMemory i mode now =>
      simp only [IndexEntry.onSlot, onCell, forget_hard, h]
      split
      · cases row <;> cases mode <;> simp [Cell.hard, Cell.tombstone, tombstoned]
      · rfl
    | restoreMemory i now =>
      simp only [IndexEntry.onSlot, onCell, restore_hard, h]
      split
      · cases row with
        | none => rfl
        | some row =>
          simp only [Cell.hard, Cell.replayRestore, map_some]
          split <;> rfl
      · rfl
    | updateSalience i s | updateKind i k | updateSession i s =>
      simp only [IndexEntry.onSlot, onCell, h]
      split
      · cases row <;> rfl
      · rfl
    | _ => exact h
  | link l => exact h
  | unlink key => exact h

lemma LoggedPhase.onCell_indexed {q : LoggedPhase} (h : q.phase.moved? ≠ some id) (c : Cell) :
    (q.onCell id c).row.map indexed = c.row.map indexed := by
  obtain ⟨caller, writeId, phase, lsn, timestamp⟩ := q
  obtain ⟨row, text, artifact, vector⟩ := c
  cases phase with
  | memory phase =>
    cases phase with
    | tombstoneMemory i mode now =>
      simp only [onCell]
      split
      · cases row <;> cases mode <;> rfl
      · rfl
    | restoreMemory i now =>
      simp only [onCell]
      split
      · cases row with
        | none => rfl
        | some row =>
          simp only [replayRestore, map_some]
          split <;> rfl
      · rfl
    | updateSalience i s | updateKind i k =>
      simp only [onCell]
      split
      · cases row <;> rfl
      · rfl
    | updateSession i s =>
      have hne : id ≠ i := fun heq => h (by rw [heq]; rfl)
      simp only [onCell, if_neg hne]
    | _ => rfl
  | link l => rfl
  | unlink key => rfl

lemma Cell.uncounted_indexed : c.uncounted.row.map indexed = c.row.map indexed := by
  rw [uncounted, modify, Option.map_map]
  rfl

namespace IndexEntry
variable (x : IndexEntry V)

lemma any_keyed_congr {o o' : Option MemoryRow}
    (h : o.map indexed = o'.map indexed) : o.any x.keyed = o'.any x.keyed := by
  cases o with
  | none =>
    cases o' with
    | none => rfl
    | some row' => cases h
  | some row =>
    cases o' with
    | none => cases h
    | some row' => exact x.keyed_congr (Option.some.inj h)

variable (t : Memories)

lemma entry_bumpEdgeCount (id : MemoryId) (f : MemoryRow → MemoryRow) :
    x.entry (t.bumpEdgeCount id f) = x.entry t := by
  unfold Memories.bumpEdgeCount
  split
  · rfl
  · exact x.memories t _

lemma entry_bumpEdgeCounts (source target : NodeRef) (up : Bool) :
    x.entry (t.bumpEdgeCounts source target up) = x.entry t := by
  unfold Memories.bumpEdgeCounts
  simp only
  split
  · rw [entry_bumpEdgeCount, entry_bumpEdgeCount]
  · rfl

lemma entry_modifyRow {t t' : Memories} {f : MemoryRow → MemoryRow}
    (h : modifyRow id f t = .ok t') : x.entry t' = x.entry t := by
  unfold modifyRow at h
  split at h
  · cases h
  · cases h
    exact x.memories t _

lemma entry_replayRow (id : MemoryId) (f : MemoryRow → MemoryRow) :
    x.entry (t.replayRow id f) = x.entry t := by
  unfold replayRow
  split
  · exact x.memories t _
  · rfl

variable {x} {t t' : Substrate} {q : LoggedPhase}

lemma slot_dispatch {ack : SubstrateAck} (h : q.Repeats t)
    (hids : ∀ id, q.phase.flipped? = some id → (t.memory.memories.get id).any x.keyed = keyed id)
    (hmover : ∀ id, q.phase.moved? = some id → x.mover ≠ some id)
    (hdisp : t.dispatch q.caller q.phase = .ok (t', ack)) :
    x.slot t' = x.onSlot keyed q (x.slot t) := by
  ext1
  · funext id
    have hcell := congrArg Cell.hard (h.dispatch_cell hdisp id)
    rw [Cell.uncounted_hard, Cell.uncounted_hard] at hcell
    exact hcell.trans (x.onSlot_hard keyed q rfl).symm
  · obtain ⟨caller, writeId, phase, lsn, timestamp⟩ := q
    cases phase with
    | memory phase =>
      obtain ⟨⟨u, a⟩, hu, heq⟩ := map_ok hdisp
      cases heq
      show x.entry u = _
      cases phase with
      | tombstoneMemory i mode now =>
        obtain ⟨u', hu', heq⟩ := map_ok hu
        cases heq
        obtain ⟨row, hrow, -, rfl⟩ := Memories.applyTombstoneMemory_ok hu'
        have hkey := hids i rfl
        rw [hrow] at hkey
        simp only [onSlot, forget_entry, ← hkey, any_some]
        exact x.tombstone t.memory i mode now row
      | restoreMemory i now =>
        obtain ⟨⟨u', b⟩, hu', heq⟩ := map_ok hu
        cases heq
        obtain ⟨row, hrow, -, hhard, -, rfl⟩ := Memories.applyRestoreMemory_ok hu'
        obtain ⟨hact, hmade⟩ := h row hrow
        have hkey := hids i rfl
        rw [hrow] at hkey
        have hflag : (x.slot t).hard i = some false := by simp [slot, hrow, hhard]
        simp only [onSlot, restore_entry, ← hkey, any_some, hflag, true_and]
        rw [if_neg (by simp [hact]), x.reactivate]
        split
        next hin =>
          cases hhash : row.contentHash with
          | none => rw [x.hashed hin hhash]
          | some hash => rw [hmade (by rw [hhash]; rfl)]
        · rfl
      | updateSalience i s | updateKind i k =>
        obtain ⟨u', hu', heq⟩ := map_ok hu
        cases heq
        exact x.entry_modifyRow hu'
      | updateSession i s =>
        obtain ⟨u', hu', heq⟩ := map_ok hu
        cases heq
        exact x.moved (hmover i rfl) hu'
      | _ => exact h.elim
    | link l =>
      cases hdisp
      unfold Substrate.applyLink
      simp only
      split
      · split
        · rfl
        · exact x.entry_bumpEdgeCounts ..
      · rfl
    | unlink key =>
      cases hdisp
      unfold Substrate.applyUnlink
      simp only
      split
      · exact x.entry_bumpEdgeCounts ..
      · rfl

lemma slot_replay (h : q.phase.repeatable = true)
    (hids : ∀ id, q.phase.flipped? = some id → (t.memory.memories.get id).any x.keyed = keyed id)
    (hashOf : String → Digest) : x.slot (q.replay hashOf t) = x.onSlot keyed q (x.slot t) := by
  ext1
  · funext id
    have hcell := congrArg Cell.hard (LoggedPhase.replay_cell h hashOf t id)
    exact hcell.trans (x.onSlot_hard keyed q rfl).symm
  · obtain ⟨caller, writeId, phase, lsn, timestamp⟩ := q
    cases phase with
    | memory phase =>
      cases phase with
      | tombstoneMemory i mode now =>
        have hkey := hids i rfl
        show x.entry (t.memory.replayForget timestamp i mode) = _
        simp only [onSlot, forget_entry, ← hkey, Memories.replayForget]
        split
        next row hrow =>
          rw [hrow]
          exact x.tombstone t.memory i mode timestamp row
        next hrow =>
          rw [hrow]
          rfl
      | restoreMemory i now =>
        have hkey := hids i rfl
        show x.entry (t.memory.replayRestoreMemory timestamp i) = _
        simp only [onSlot, restore_entry, ← hkey, Memories.replayRestoreMemory, slot]
        split
        next row hrow =>
          rw [hrow]
          cases hhard : row.flags.hardForgotten with
          | true => simp [hhard]
          | false => simp [hhard, x.reactivate]
        next hrow =>
          rw [hrow]
          rfl
      | updateSalience i s | updateKind i k | updateSession i s =>
        exact x.entry_replayRow t.memory i _
      | _ => cases h
    | link l => rfl
    | unlink key => rfl

end IndexEntry
end BrainDb
