import BrainDb.Store.Substrate

namespace BrainDb

def vectorDim : Nat := 384

structure ArenaSlot where
  vector : Embedding
  slotVersion : Nat
  (occupied tombstoned hardForgotten : Bool)

namespace ArenaSlot

def zero : ArenaSlot :=
  { vector := [], slotVersion := 0, occupied := false, tombstoned := false, hardForgotten := false }

variable (s : ArenaSlot)

def encoded (id : MemoryId) (vector : Embedding) : ArenaSlot :=
  { vector := if vector.isEmpty then s.vector else vector
    slotVersion := id.version, occupied := true, tombstoned := false, hardForgotten := false }

def forgotten (mode : TombstoneMode) : ArenaSlot :=
  { s with
    tombstoned := true
    vector := if mode = .hard then List.replicate vectorDim 0 else s.vector
    hardForgotten := s.hardForgotten || mode = .hard }

def live : Bool := s.occupied && !s.tombstoned && !s.hardForgotten

def after (idx : Nat) (s : ArenaSlot) : MemoryPayload → ArenaSlot
  | .encode p => if p.memoryId.slot = idx then s.encoded p.memoryId p.vector else s
  | .forget id _ _ mode => if id.slot = idx then s.forgotten mode else s
  | _ => s

end ArenaSlot

open ArenaSlot

abbrev Arena := Table Nat ArenaSlot

namespace Arena
variable (a : Arena)

def slot (idx : Nat) : ArenaSlot := (a.get idx).getD zero

def apply : MemoryPayload → Arena
  | .encode p => a.insert p.memoryId.slot ((a.slot p.memoryId.slot).encoded p.memoryId p.vector)
  | .forget id _ _ mode => a.insert id.slot ((a.slot id.slot).forgotten mode)
  | _ => a

variable (shardId : Nat)

def snapshotVectors (a : Arena) : List (MemoryId × Embedding) :=
  (a.entries.filter fun e => e.2.live).map fun e =>
    (MemoryId.pack shardId e.1 e.2.slotVersion, e.2.vector)

lemma slot_insert (i idx : Nat) (s : ArenaSlot) :
    Arena.slot (a.insert i s) idx = if i = idx then s else a.slot idx := by
  unfold slot
  rw [Table.get_insert]
  by_cases h : i = idx
  · simp [h]
  · rw [if_neg (Ne.symm h), if_neg h]

lemma slot_apply (p : MemoryPayload) (idx : Nat) :
    (a.apply p).slot idx = (a.slot idx).after idx p := by
  cases p with
  | encode p | forget id requestId spaceId mode =>
    rw [apply, slot_insert, after]
    split
    next h => rw [h]
    · rfl
  | _ => rfl

lemma slot_foldl (ps : List MemoryPayload) (idx : Nat) :
    (ps.foldl apply a).slot idx = ps.foldl (after idx) (a.slot idx) := by
  induction ps generalizing a with
  | nil => rfl
  | cons p ps ih => rw [List.foldl_cons, ih, slot_apply, List.foldl_cons]

lemma map_fst_snapshotVectors (a : Arena) :
    (a.snapshotVectors shardId).map Prod.fst = (a.entries.filter fun e => e.2.live).map fun e =>
        MemoryId.pack shardId e.1 e.2.slotVersion := by
  rw [snapshotVectors, List.map_map]
  rfl

lemma mem_snapshotVectors {shardId : Nat} {a : Arena} {id : MemoryId} {v : Embedding} :
    (id, v) ∈ a.snapshotVectors shardId ↔
      ∃ idx, (a.slot idx).live = true ∧ id = MemoryId.pack shardId idx (a.slot idx).slotVersion ∧
        v = (a.slot idx).vector := by
  simp only [snapshotVectors, List.mem_map, List.mem_filter]
  constructor
  · rintro ⟨⟨idx, s⟩, ⟨hmem, hlive⟩, heq⟩
    cases heq
    have hslot : a.slot idx = s := by
      unfold slot
      rw [a.mem_entries_iff.mp hmem]
      rfl
    exact ⟨idx, hslot ▸ hlive, by rw [hslot], by rw [hslot]⟩
  · rintro ⟨idx, hlive, rfl, rfl⟩
    cases hget : a.get idx with
    | none => simp [slot, hget, zero, live] at hlive
    | some s =>
      have hslot : a.slot idx = s := by
        unfold slot
        rw [hget]
        rfl
      exact ⟨(idx, s), ⟨a.mem_entries_iff.mpr hget, hslot ▸ hlive⟩, by rw [hslot]⟩

end Arena
end BrainDb
