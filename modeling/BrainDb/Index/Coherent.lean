import BrainDb.Index.Search

namespace BrainDb
open PendingEntry (memoryId)
open List
namespace SharedHnsw

structure Coherent (s : SharedHnsw) : Prop where
  main : s.main.tombstones = ∅
  unique : (s.pending.map memoryId).Nodup
  live : ∀ e ∈ s.pending, e.tombstoned = false → e.memoryId ∉ s.overlay

lemma map_memoryId_upsertPending (id : MemoryId) (vector : Embedding) (l : List PendingEntry) :
    (upsertPending id vector l).map memoryId = if id ∈ l.map memoryId then l.map memoryId
      else l.map memoryId ++ [id] := by
  induction l with
  | nil => rfl
  | cons e es ih =>
    unfold upsertPending
    split
    next heq => simp [heq]
    next hne =>
      rw [map_cons, ih]
      simp only [map_cons, mem_cons, Ne.symm hne, false_or]
      split
      · rfl
      · rfl

variable {id : MemoryId} {l : List PendingEntry}

/-- The entry of `id` becomes another, and the entries behind it stay. -/
lemma mem_replaced {P : Prop} {d d' e : PendingEntry} {es es' : List PendingEntry}
    (hnot : d.memoryId ∉ es.map memoryId) (hnew : e = d' → P)
    (hrest : e ∈ es' → P ∨ e ∈ es ∧ e.memoryId ≠ id)
    (h : e ∈ if d.memoryId = id then d' :: es else d :: es') :
    P ∨ e ∈ d :: es ∧ e.memoryId ≠ id := by
  split at h
  next heq =>
    rcases mem_cons.mp h with hd | hmem
    · exact .inl (hnew hd)
    · refine .inr ⟨mem_cons_of_mem d hmem, ?_⟩
      rintro rfl
      exact hnot (heq ▸ List.mem_map_of_mem hmem)
  next hne =>
    rcases mem_cons.mp h with rfl | hmem
    · exact .inr ⟨mem_cons_self, hne⟩
    · exact (hrest hmem).imp_right fun hold => ⟨mem_cons_of_mem d hold.1, hold.2⟩

lemma mem_upsertPending {vector : Embedding} {e : PendingEntry} (huniq : (l.map memoryId).Nodup)
    (h : e ∈ upsertPending id vector l) : e = ⟨id, vector, false⟩ ∨ e ∈ l ∧ e.memoryId ≠ id := by
  induction l with
  | nil => exact .inl (mem_singleton.mp h)
  | cons d es ih =>
    obtain ⟨hnot, hes⟩ := nodup_cons.mp huniq
    exact mem_replaced hnot (fun hd => hd) (ih hes) h

lemma map_memoryId_markPending (id : MemoryId) (l : List PendingEntry) :
    (markPending id l).map memoryId = l.map memoryId := by
  induction l with
  | nil => rfl
  | cons e es ih =>
    unfold markPending
    split
    · rfl
    · rw [map_cons, ih, map_cons]

lemma mem_markPending {e : PendingEntry} (huniq : (l.map memoryId).Nodup)
    (h : e ∈ markPending id l) : e.tombstoned = true ∨ e ∈ l ∧ e.memoryId ≠ id := by
  induction l with
  | nil => cases h
  | cons d es ih =>
    obtain ⟨hnot, hes⟩ := nodup_cons.mp huniq
    exact mem_replaced hnot (fun hd => by rw [hd]) (ih hes) h

lemma isTombstoned_iff {s : SharedHnsw} (h : s.main.tombstones = ∅) :
    s.isTombstoned id = true ↔ id ∈ s.overlay := by
  unfold isTombstoned
  split
  next hmem => simp [hmem]
  next hmem => simp [hmem, HnswIndex.isTombstoned_of_tombstones_eq_empty h]

namespace Coherent
variable {s : SharedHnsw}

lemma fromIndex {idx : HnswIndex} (h : idx.tombstones = ∅) : (SharedHnsw.fromIndex idx).Coherent :=
  ⟨h, nodup_nil, fun _ he => nomatch he⟩

lemma swap {idx : HnswIndex} (h : idx.tombstones = ∅) : (s.swap idx).Coherent :=
  ⟨h, nodup_nil, fun _ he => nomatch he⟩

lemma insert (h : s.Coherent) (id : MemoryId) (vector : Embedding) :
    (s.insert id vector).Coherent := by
  refine ⟨h.main, ?_, ?_⟩
  · change ((upsertPending id vector s.pending).map memoryId).Nodup
    rw [map_memoryId_upsertPending]
    split
    · exact h.unique
    next hnew => exact List.Nodup.append h.unique (nodup_singleton id) (by simpa using hnew)
  · intro e he hlive hmem
    obtain ⟨hne, hmem⟩ := Finset.mem_erase.mp hmem
    rcases mem_upsertPending h.unique he with rfl | ⟨hold, _⟩
    · exact hne rfl
    · exact h.live e hold hlive hmem

lemma markTombstoned (h : s.Coherent) (id : MemoryId) : (s.markTombstoned id).Coherent := by
  refine ⟨h.main, ?_, ?_⟩
  · change ((markPending id s.pending).map memoryId).Nodup
    rw [map_memoryId_markPending]
    exact h.unique
  · intro e he hlive hmem
    rcases mem_markPending h.unique he with hmarked | ⟨hold, hoth⟩
    · rw [hmarked] at hlive
      cases hlive
    · rcases Finset.mem_insert.mp hmem with heq | hmem
      · exact hoth heq
      · exact h.live e hold hlive hmem

lemma flushWithRebuild {s' : SharedHnsw}
    {build : List PendingEntry → Except HnswError HnswIndex} (h : s.Coherent)
    (hbuild : ∀ idx, build s.pending = .ok idx → idx.tombstones = ∅)
    (hflush : s.flushWithRebuild build = .ok s') : s'.Coherent := by
  obtain ⟨idx, hidx, rfl⟩ := ExceptLemmas.map_ok hflush
  refine ⟨hbuild idx hidx, ?_, ?_⟩
  · exact (filter_sublist.map memoryId).nodup h.unique
  · intro e he hlive hmem
    exact h.live e (mem_of_mem_filter he) hlive (Finset.mem_of_mem_filter _ hmem)

lemma isTombstoned_of_mem_searchActive (h : s.Coherent) {lib : VectorLib} {efFactor : Nat}
    {query : Embedding} {k : Nat} {ef : Option Nat} {hit : MemoryId × Score}
    (hhit : hit ∈ s.searchActive lib efFactor query k ef) : s.isTombstoned hit.1 = false := by
  rw [← Bool.not_eq_true, isTombstoned_iff h.main]
  rcases mem_searchActive hhit with hnot | ⟨e, he, heq, hlive⟩
  · exact hnot
  · exact heq ▸ h.live e he hlive

end Coherent
end SharedHnsw
end BrainDb
