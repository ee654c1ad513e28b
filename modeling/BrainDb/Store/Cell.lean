import BrainDb.Base.Except
import BrainDb.Store.MemoryReplay

namespace BrainDb
open Table ExceptLemmas MemoryPayload

@[ext] structure Cell where
  row : Option MemoryRow
  text : Option String
  artifact : Option ArtifactBundle
  vector : Option Embedding

def Memories.cell (t : Memories) (id : MemoryId) : Cell :=
  ⟨t.memories.get id, t.texts.get id, t.artifacts.get id, t.vectors.get id⟩

namespace Cell

def tombstone (mode : TombstoneMode) (now : Nanos) (c : Cell) : Cell :=
  match c.row, mode with
  | none, _ => c
  | some row, .soft => { c with row := some (row.tombstoned .soft now) }
  | some row, .hard => ⟨some (row.tombstoned .hard now), none, none, none⟩

def restore (c : Cell) : Cell :=
  { c with row := c.row.map fun row =>
      if row.flags.hardForgotten || row.flags.active then row else row.reactivated }

def replayRestore (c : Cell) : Cell :=
  { c with row := c.row.map fun row => if row.flags.hardForgotten then row else row.reactivated }

def modify (f : MemoryRow → MemoryRow) (c : Cell) : Cell := { c with row := c.row.map f }

end Cell

open Cell
variable (caller : Caller)

def MemoryPhase.onCell (id : MemoryId) (c : Cell) : MemoryPhase → Cell
  | .upsertMemory m =>
    if id = m.id then ⟨some (m.row caller), some m.text, some m.bundle, some m.vector⟩ else c
  | .tombstoneMemory i mode now => if id = i then c.tombstone mode now else c
  | .restoreMemory i _ => if id = i then c.restore else c
  | .updateSalience i s => if id = i then c.modify fun row => { row with salience := s } else c
  | .updateKind i k => if id = i then c.modify fun row => { row with kind := k } else c
  | .updateSession i s => if id = i then c.modify fun row => { row with sessionId := s } else c
  | .updateEmbedding i _ =>
    if id = i then c.modify fun row => { row with flags := { row.flags with stale := false } } else c
  | .spaceCreate .. | .spaceDelete .. | .sessionCreate .. | .sessionDelete .. => c

variable (hashOf : String → Digest)

def MemoryPayload.onCell (lsn : Nat) (timestamp : Nanos) (id : MemoryId) (c : Cell) :
    MemoryPayload → Cell
  | .encode p =>
    if id = p.memoryId then
      { c with row := some (p.row hashOf lsn timestamp), text := some p.text } else c
  | .forget i _ _ mode => if id = i then c.tombstone mode timestamp else c
  | .restoreMemory i _ _ => if id = i then c.replayRestore else c
  | .updateSalience updates =>
    updates.foldl (fun c u => if id = u.1 then c.modify fun row =>
      { row with salience := u.2 } else c) c
  | .updateKind i k => if id = i then c.modify fun row => { row with kind := k } else c
  | .updateSession i s => if id = i then c.modify fun row => { row with sessionId := s } else c
  | .spaceCreate .. | .spaceDelete .. | .sessionCreate .. | .sessionDelete .. => c

variable (id : MemoryId)

def MemoryPhase.upserts : MemoryPhase → Bool
  | .upsertMemory m => m.id = id
  | _ => false

def MemoryPayload.encodes : MemoryPayload → Bool
  | .encode p => p.memoryId = id
  | _ => false

def MemoryPayload.hardForgets : MemoryPayload → Bool
  | .forget i _ _ .hard => i = id
  | _ => false

structure CellInvariant (I : Cell → Prop) (hard : Prop) : Prop where
  tombstone {c : Cell} {mode : TombstoneMode} (now : Nanos) (hmode : mode = .hard → hard) :
    I c → I (c.tombstone mode now)
  restore {c : Cell} : I c → I c.restore
  replayRestore {c : Cell} : I c → I c.replayRestore
  modify {c : Cell} {f : MemoryRow → MemoryRow} (hf : ∀ row, (f row).flags.active =
    row.flags.active ∧ (f row).flags.hardForgotten = row.flags.hardForgotten) : I c → I (c.modify f)

variable {phase : MemoryPhase}

namespace CellInvariant
variable {I : Cell → Prop} {hard : Prop} {id : MemoryId} {c : Cell}

lemma onCell_phase (hI : CellInvariant I True) (hph : phase.upserts id = false)
    (caller : Caller) (h : I c) : I (phase.onCell caller id c) := by
  cases phase with
  | upsertMemory m =>
    have hne : id ≠ m.id := by
      rintro rfl
      simp [MemoryPhase.upserts] at hph
    rwa [MemoryPhase.onCell, if_neg hne]
  | tombstoneMemory i mode now =>
    simp only [MemoryPhase.onCell]
    split
    · exact hI.tombstone now (fun _ => trivial) h
    · exact h
  | restoreMemory i now =>
    simp only [MemoryPhase.onCell]
    split
    · exact hI.restore h
    · exact h
  | updateSalience i s | updateKind i k | updateSession i s | updateEmbedding i v =>
    simp only [MemoryPhase.onCell]
    split
    · apply hI.modify _ h
      intro row
      exact ⟨rfl, rfl⟩
    · exact h
  | _ => exact h

lemma onCell_phases (hI : CellInvariant I True) {phases : List MemoryPhase}
    (hphases : ∀ phase ∈ phases, phase.upserts id = false) (caller : Caller) (h : I c) :
    I (phases.foldl (MemoryPhase.onCell caller id) c) :=
  List.foldlRecOn phases _ h fun _ hc phase hmem => hI.onCell_phase (hphases phase hmem) caller hc

lemma onCell_payload (hI : CellInvariant I hard) {p : MemoryPayload}
    (henc : p.encodes id = false) (hhard : p.hardForgets id = true → hard)
    (hashOf : String → Digest) (lsn : Nat) (timestamp : Nanos) (h : I c) :
    I (p.onCell hashOf lsn timestamp id c) := by
  cases p with
  | encode p =>
    have hne : id ≠ p.memoryId := by
      rintro rfl
      simp [encodes] at henc
    rwa [onCell, if_neg hne]
  | forget i requestId spaceId mode =>
    simp only [onCell]
    split
    next heq =>
      refine hI.tombstone timestamp (fun hmode => hhard ?_) h
      simp [hardForgets, hmode, heq]
    · exact h
  | restoreMemory i requestId spaceId =>
    simp only [onCell]
    split
    · exact hI.replayRestore h
    · exact h
  | updateSalience updates =>
    refine List.foldlRecOn updates _ h fun c hc u _ => ?_
    split
    · apply hI.modify _ hc
      intro row
      exact ⟨rfl, rfl⟩
    · exact hc
  | updateKind i k | updateSession i s =>
    simp only [onCell]
    split
    · apply hI.modify _ h
      intro row
      exact ⟨rfl, rfl⟩
    · exact h
  | _ => exact h

end CellInvariant

namespace Memories
variable {t t' : Memories} {i : MemoryId}

lemma cell_tombstoneRow {row : MemoryRow} (hrow : t.memories.get i = some row)
    (mode : TombstoneMode) (now : Nanos) (id : MemoryId) : (t.tombstoneRow i mode now row).cell id =
      if id = i then (t.cell id).tombstone mode now else t.cell id := by
  by_cases h : id = i
  · subst h
    cases mode <;> simp [cell, tombstoneRow, tombstone, hrow]
  · cases mode <;> simp [cell, tombstoneRow, h, get_insert_ne, get_remove_ne]

lemma cell_reactivateRow (t : Memories) (i : MemoryId) (insertedAt : Nanos)
    (row : MemoryRow) (id : MemoryId) : (t.reactivateRow i insertedAt row).cell id =
      if id = i then { t.cell id with row := some row.reactivated } else t.cell id := by
  by_cases h : id = i
  · subst h
    simp [cell, reactivateRow]
  · simp [cell, reactivateRow, h, get_insert_ne]

lemma cell_insertRow {row : MemoryRow} (hrow : t.memories.get i = some row)
    (f : MemoryRow → MemoryRow) (tl : Table TimelineKey Unit) (id : MemoryId) :
    ({ t with memories := t.memories.insert i (f row), timeline := tl } : Memories).cell id =
      if id = i then (t.cell id).modify f else t.cell id := by
  by_cases h : id = i
  · subst h
    simp [cell, Cell.modify, hrow]
  · simp [cell, h, get_insert_ne]

lemma modifyRow_cell {f : MemoryRow → MemoryRow} (h : modifyRow i f t = .ok t') (id : MemoryId) :
    t'.cell id = if id = i then (t.cell id).modify f else t.cell id := by
  unfold modifyRow at h
  split at h
  · cases h
  next row hrow =>
    cases h
    exact cell_insertRow hrow f t.timeline id

lemma applyUpsertMemory_cell (m : UpsertMemory) (t : Memories) (id : MemoryId) :
    (t.applyUpsertMemory caller m).cell id =
      if id = m.id then ⟨some (m.row caller), some m.text, some m.bundle, some m.vector⟩
      else t.cell id := by
  by_cases h : id = m.id
  · simp [cell, applyUpsertMemory, h]
  · simp [cell, applyUpsertMemory, h, get_insert_ne]

variable {caller : Caller}

lemma applyTombstoneMemory_ok {mode : TombstoneMode} {now : Nanos}
    (h : t.applyTombstoneMemory caller i mode now = .ok t') :
    ∃ row, t.memories.get i = some row ∧ row.scope.spaceId = caller.scope.spaceId ∧
      t' = t.tombstoneRow i mode now row := by
  unfold applyTombstoneMemory at h
  split at h
  · cases h
  next row hrow =>
    split at h
    · cases h
    next hsp =>
      cases h
      exact ⟨row, hrow, not_not.mp hsp, rfl⟩

lemma applyRestoreMemory_ok {b : Bool} (h : t.applyRestoreMemory caller i = .ok (t', b)) :
    ∃ row, t.memories.get i = some row ∧ row.scope.spaceId = caller.scope.spaceId ∧
      row.flags.hardForgotten = false ∧ b = row.flags.active ∧
      t' = if row.flags.active then t else t.reactivateRow i row.createdAt row := by
  unfold applyRestoreMemory at h
  split at h
  · cases h
  next row hrow =>
    split at h
    · cases h
    next hsp =>
      split at h
      · cases h
      next hhard =>
        refine ⟨row, hrow, not_not.mp hsp, by simpa using hhard, ?_⟩
        split at h
        next hact =>
          cases h
          simp [hact]
        next hact =>
          cases h
          simp [hact]

lemma applyUpdateSession_cell {s : SessionId} (h : t.applyUpdateSession i s = .ok t')
    (id : MemoryId) :
    t'.cell id = if id = i then (t.cell id).modify fun row => { row with sessionId := s }
      else t.cell id := by
  unfold applyUpdateSession at h
  split at h
  · cases h
  next row hrow =>
    cases h
    exact cell_insertRow hrow (fun row => { row with sessionId := s }) _ id

lemma dispatch_cell {ack : MemoryAck} (h : t.dispatch caller phase = .ok (t', ack))
    (id : MemoryId) : t'.cell id = phase.onCell caller id (t.cell id) := by
  cases phase with
  | upsertMemory m =>
    cases h
    exact applyUpsertMemory_cell caller m t id
  | tombstoneMemory i mode now =>
    obtain ⟨u, hu, heq⟩ := map_ok h
    cases heq
    obtain ⟨row, hrow, -, rfl⟩ := applyTombstoneMemory_ok hu
    exact cell_tombstoneRow hrow mode now id
  | restoreMemory i now =>
    obtain ⟨⟨u, b⟩, hu, heq⟩ := map_ok h
    cases heq
    obtain ⟨row, hrow, -, hhard, -, rfl⟩ := applyRestoreMemory_ok hu
    by_cases hact : row.flags.active = true
    · by_cases hid : id = i
      · subst hid
        simp [MemoryPhase.onCell, restore, cell, hrow, hact]
      · simp [MemoryPhase.onCell, hact, hid]
    · rw [if_neg hact, cell_reactivateRow]
      by_cases hid : id = i
      · subst hid
        simp [MemoryPhase.onCell, restore, cell, hrow, hhard, hact]
      · simp [MemoryPhase.onCell, hid]
  | updateSalience i s | updateKind i k =>
    obtain ⟨u, hu, heq⟩ := map_ok h
    cases heq
    exact modifyRow_cell hu id
  | updateSession i s =>
    obtain ⟨u, hu, heq⟩ := map_ok h
    cases heq
    exact applyUpdateSession_cell hu id
  | updateEmbedding i v =>
    obtain ⟨u, hu, heq⟩ := map_ok h
    cases heq
    exact modifyRow_cell hu id
  | spaceCreate createdAt spaceString metadata => cases h; rfl
  | spaceDelete now => cases h; rfl
  | sessionCreate sessionId title createdAt => cases h; rfl
  | sessionDelete sessionId hard now => cases h; rfl

lemma replayRow_cell (t : Memories) (i : MemoryId) (f : MemoryRow → MemoryRow) (id : MemoryId) :
    (t.replayRow i f).cell id = if id = i then (t.cell id).modify f else t.cell id := by
  unfold replayRow
  split
  next row hrow => exact cell_insertRow hrow f t.timeline id
  next hrow =>
    split
    next h => subst h; simp [cell, Cell.modify, hrow]
    · rfl

lemma replay_cell (lsn : Nat) (timestamp : Nanos) (t : Memories) (p : MemoryPayload)
    (id : MemoryId) : (t.replay hashOf lsn timestamp p).cell id =
      p.onCell hashOf lsn timestamp id (t.cell id) := by
  cases p with
  | encode p =>
    by_cases h : id = p.memoryId
    · simp [replay, replayEncode, onCell, cell, h]
    · simp [replay, replayEncode, onCell, cell, h, get_insert_ne]
  | forget i requestId spaceId mode =>
    simp only [replay, replayForget, onCell]
    split
    next row hrow => exact cell_tombstoneRow hrow mode timestamp id
    next hrow =>
      split
      next h => subst h; simp [cell, tombstone, hrow]
      · rfl
  | restoreMemory i requestId spaceId =>
    simp only [replay, replayRestoreMemory, onCell]
    split
    next row hrow =>
      by_cases hhard : row.flags.hardForgotten = true
      · by_cases hid : id = i
        · subst hid
          simp [replayRestore, cell, hrow, hhard]
        · simp [hhard, hid]
      · rw [if_neg hhard, cell_reactivateRow]
        by_cases hid : id = i
        · subst hid
          simp [replayRestore, cell, hrow, hhard]
        · simp [hid]
    next hrow =>
      split
      next h => subst h; simp [cell, replayRestore, hrow]
      · rfl
  | updateSalience updates =>
    simp only [replay, onCell]
    induction updates generalizing t with
    | nil => rfl
    | cons u us ih =>
      rw [List.foldl_cons, ih, List.foldl_cons, replayOneSalience, replayRow_cell]
  | updateKind i k => exact replayRow_cell t i _ id
  | updateSession i s => exact replayRow_cell t i _ id
  | spaceCreate scope spaceString createdAt metadata => rfl
  | spaceDelete scope => rfl
  | sessionCreate scope sessionId createdAt title => rfl
  | sessionDelete scope sessionId hard => rfl

end Memories
end BrainDb
