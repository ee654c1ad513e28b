import BrainDb.Base.Run
import BrainDb.Base.TopK
import BrainDb.Index.Coherent

namespace BrainDb
open Function
open List
variable {σ : Type}

abbrev LiveVectors := MemoryId → Option Embedding

def Candidate (dot : Embedding → Embedding → σ) (vectors : MemoryId → Embedding → Prop)
    (query : Embedding) (filter : MemoryId → Bool) (h : MemoryId × σ) : Prop :=
  filter h.1 = true ∧ ∃ v, vectors h.1 v ∧ h.2 = dot query v

def HnswIndex.Holds (idx : HnswIndex) (id : MemoryId) (v : Embedding) : Prop :=
  (id, v) ∈ idx.nodes ∧ idx.isTombstoned id = false

/-- A descending sort (also for the order in which the merge's hash map is read) and a main index
that answers its filtered best `k`, with scores in any linear order. -/
structure ExactLib [LinearOrder σ] (dot : Embedding → Embedding → σ) where
  sortDesc : List (MemoryId × σ) → List (MemoryId × σ)
  perm : ∀ l, (sortDesc l).Perm l
  sorted : ∀ l, (sortDesc l).Pairwise fun a b => b.2 ≤ a.2
  mainSearch : HnswIndex → Embedding → Nat → (MemoryId → Bool) → List (MemoryId × σ)
  exact : ∀ idx query k filter, (idx.nodes.map Prod.fst).Nodup →
    TopK k (Candidate dot idx.Holds query filter) (mainSearch idx query k filter)

namespace SharedHnsw
section
variable (dot : Embedding → Embedding → σ) (s : SharedHnsw) (query : Embedding)
  (filter : MemoryId → Bool)

def published : List (MemoryId × σ) :=
  (s.main.nodes.filter fun n => n.1 ∉ s.overlay && filter n.1).map fun n => (n.1, dot query n.2)

def Untied : Prop :=
  ∀ x ∈ s.published dot query filter ++ s.scored dot query filter,
    ∀ y ∈ s.published dot query filter ++ s.scored dot query filter, x.1 ≠ y.1 → x.2 ≠ y.2
end

structure Publishes (idx : HnswIndex) (live : LiveVectors) : Prop where
  clean : idx.tombstones = ∅
  nodup : (idx.nodes.map Prod.fst).Nodup
  mem_iff : ∀ id v, (id, v) ∈ idx.nodes ↔ live id = some v

inductive TierOp where
  | insert (id : MemoryId) (vector : Embedding)
  | markTombstoned (id : MemoryId)
  | flush (build : List PendingEntry → Except HnswError HnswIndex)

def tierStep (t : SharedHnsw × LiveVectors) : TierOp → SharedHnsw × LiveVectors
  | .insert id vector => (t.1.insert id vector, Function.update t.2 id (some vector))
  | .markTombstoned id => (t.1.markTombstoned id, Function.update t.2 id none)
  | .flush build => ((t.1.flushWithRebuild build).toOption.getD t.1, t.2)

def FlushPublishes (t : SharedHnsw × LiveVectors) : TierOp → Prop
  | .flush build => ∀ idx, build t.1.pending = .ok idx → Publishes idx t.2
  | _ => True

structure Tracks (t : SharedHnsw × LiveVectors) : Prop where
  coherent : t.1.Coherent
  nodup : (t.1.main.nodes.map Prod.fst).Nodup
  pending : ∀ e ∈ t.1.pending, e.tombstoned = false → t.2 e.memoryId = some e.vector
  buried : ∀ id ∈ t.1.overlay, t.2 id = none
  main : ∀ id, id ∉ t.1.overlay →
    (t.1.pending.any fun e => e.memoryId = id && !e.tombstoned) = false →
    ∀ v, (id, v) ∈ t.1.main.nodes ↔ t.2 id = some v

lemma tracks_step (t : SharedHnsw × LiveVectors) (op : TierOp) (h : Tracks t)
    (hop : FlushPublishes t op) : Tracks (tierStep t op) := by
  obtain ⟨s, live⟩ := t
  cases op with
  | insert id vector =>
    refine ⟨h.coherent.insert id vector, h.nodup, fun e he hlive => ?_, fun id' hid => ?_,
      fun id' hid hnone => ?_⟩
    · rcases mem_upsertPending h.coherent.unique he with rfl | ⟨hold, hne⟩
      · exact update_self ..
      · exact (update_of_ne hne ..).trans (h.pending e hold hlive)
    · obtain ⟨hne, hold⟩ := Finset.mem_erase.mp hid
      exact (update_of_ne hne ..).trans (h.buried id' hold)
    · have hne : id' ≠ id := by
        rintro rfl
        exact Bool.false_ne_true (hnone.symm.trans (any_upsertPending_self _ _ _))
      have hid : id' ∉ s.overlay := fun hmem => hid (Finset.mem_erase.mpr ⟨hne, hmem⟩)
      simp only [tierStep, update_of_ne hne]
      exact h.main id' hid ((any_upsertPending_ne hne vector s.pending).symm.trans hnone)
  | markTombstoned id =>
    refine ⟨h.coherent.markTombstoned id, h.nodup, fun e he hlive => ?_, fun id' hid => ?_,
      fun id' hid hnone => ?_⟩
    · rcases mem_markPending h.coherent.unique he with hmarked | ⟨hold, hne⟩
      · exact absurd (hlive.symm.trans hmarked) Bool.false_ne_true
      · exact (update_of_ne hne ..).trans (h.pending e hold hlive)
    · by_cases hne : id' = id
      · exact hne ▸ update_self ..
      · exact (update_of_ne hne ..).trans
          (h.buried id' ((Finset.mem_insert.mp hid).resolve_left hne))
    · obtain ⟨hne, hid⟩ := not_or.mp (mt Finset.mem_insert.mpr hid)
      simp only [tierStep, update_of_ne hne]
      exact h.main id' hid ((any_markPending_ne hne s.pending).symm.trans hnone)
  | flush build =>
    cases hflush : s.flushWithRebuild build with
    | error e =>
      simp only [tierStep, hflush]
      exact h
    | ok s' =>
      simp only [tierStep, hflush]
      have hcoh := h.coherent.flushWithRebuild (fun idx hidx => (hop idx hidx).clean) hflush
      obtain ⟨idx, hidx, rfl⟩ := ExceptLemmas.map_ok hflush
      exact ⟨hcoh, (hop idx hidx).nodup, fun e he => h.pending e (mem_of_mem_filter he),
        fun id hid => h.buried id (Finset.mem_of_mem_filter id hid),
        fun id _ _ => (hop idx hidx).mem_iff id⟩

lemma any_live_iff {id : MemoryId} {pending : List PendingEntry} :
    (pending.any fun e => e.memoryId = id && !e.tombstoned) = true ↔
      ∃ e ∈ pending, e.memoryId = id ∧ e.tombstoned = false := by
  simp

section
variable {dot : Embedding → Embedding → σ} {s : SharedHnsw} {query : Embedding}
  {filter : MemoryId → Bool} {live : LiveVectors} (h : Tracks (s, live))

lemma mem_scored {x : MemoryId × σ} : x ∈ s.scored dot query filter ↔
    ∃ e ∈ s.pending, e.tombstoned = false ∧ filter e.memoryId = true ∧
      (e.memoryId, dot query e.vector) = x := by
  simp [scored, and_assoc]

lemma mem_published {id : MemoryId} {score : σ} : (id, score) ∈ s.published dot query filter ↔
    id ∉ s.overlay ∧ filter id = true ∧ ∃ v, (id, v) ∈ s.main.nodes ∧ score = dot query v := by
  simp only [published, List.mem_map, mem_filter, Bool.and_eq_true, decide_eq_true_eq, Prod.exists,
    Prod.mk.injEq]
  grind

include h

lemma Tracks.holds_iff (x : MemoryId × σ) :
    Candidate dot s.main.Holds query (fun id => id ∉ s.overlay && filter id) x ↔
      x ∈ s.published dot query filter := by
  rw [mem_published]
  simp only [Candidate, HnswIndex.Holds, Bool.and_eq_true, decide_eq_true_eq, and_assoc,
    HnswIndex.isTombstoned_of_tombstones_eq_empty h.coherent.main, and_true]

/-- The live vectors are the pending ones and those of the main index that none replaces. -/
lemma Tracks.current_iff (x : MemoryId × σ) :
    Current (s.published dot query filter) (s.scored dot query filter) x ↔
      Candidate dot (fun id v => live id = some v) query filter x := by
  obtain ⟨id, score⟩ := x
  rw [Current, mem_unreplaced, mem_published, mem_scored]
  constructor
  · rintro (⟨⟨hid, hpass, v, hv, hscore⟩, hkey⟩ | ⟨e, he, hlive, hpass, heq⟩)
    · cases hany : s.pending.any fun e => e.memoryId = id && !e.tombstoned with
      | false => exact ⟨hpass, v, (h.main id hid hany v).mp hv, hscore⟩
      | true =>
        obtain ⟨e, he, rfl, hlive⟩ := any_live_iff.mp hany
        exact absurd (List.mem_map.mpr ⟨_, mem_scored.mpr ⟨e, he, hlive, hpass, rfl⟩, rfl⟩) hkey
    · cases heq
      exact ⟨hpass, _, h.pending e he hlive, rfl⟩
  · rintro ⟨hpass, v, hv, hscore⟩
    have hid : id ∉ s.overlay := fun hmem => nomatch (h.buried id hmem).symm.trans hv
    cases hany : s.pending.any fun e => e.memoryId = id && !e.tombstoned with
    | false =>
      refine .inl ⟨⟨hid, hpass, v, (h.main id hid hany v).mpr hv, hscore⟩, fun hkey => ?_⟩
      obtain ⟨y, hy, rfl⟩ := List.mem_map.mp hkey
      obtain ⟨e, he, hlive, -, rfl⟩ := mem_scored.mp hy
      exact Bool.false_ne_true (hany.symm.trans (any_live_iff.mpr ⟨e, he, rfl, hlive⟩))
    | true =>
      obtain ⟨e, he, rfl, hlive⟩ := any_live_iff.mp hany
      cases (h.pending e he hlive).symm.trans hv
      exact .inr ⟨e, he, hlive, hpass, Prod.ext rfl hscore.symm⟩

lemma Tracks.tiers [LinearOrder σ] (lib : ExactLib dot) (k : Nat) :
    Tiers k (s.published dot query filter) (s.scored dot query filter)
      (lib.mainSearch s.main query k fun id => id ∉ s.overlay && filter id)
      (s.pendingSearch dot lib.sortDesc query k filter) := by
  have hpend : ((s.scored dot query filter).map Prod.fst).Nodup := by
    rw [scored, List.map_map]
    exact (filter_sublist.map PendingEntry.memoryId).nodup h.coherent.unique
  refine ⟨(lib.exact _ _ _ _ h.nodup).congr h.holds_iff,
    .of_sorted (lib.perm _) (lib.sorted _) hpend k, ?_, hpend⟩
  rw [published, List.map_map]
  exact (filter_sublist.map Prod.fst).nodup h.nodup
end

def firstEntry (_ v : Embedding) : Nat := (v.headD 0).toNat

def firstLib : ExactLib firstEntry where
  sortDesc := List.insertionSort fun a b => b.2 ≤ a.2
  perm := perm_insertionSort _
  sorted := pairwise_insertionSort _
  mainSearch idx _ k filter := (List.insertionSort (fun a b => b.2 ≤ a.2) ((idx.nodes.filter fun n =>
    filter n.1 && !idx.isTombstoned n.1).map fun n => (n.1, (n.2.headD 0).toNat))).take k
  exact idx query k filter hnd := by
    refine (TopK.of_sorted (perm_insertionSort _ _) (pairwise_insertionSort _ _) ?_
      k).congr fun x => ?_
    · rw [List.map_map]
      exact (filter_sublist.map Prod.fst).nodup hnd
    · simp only [Candidate, HnswIndex.Holds, firstEntry, List.mem_map, mem_filter, Bool.and_eq_true]
      grind

def twoVectors : HnswIndex := ⟨[(1, [9]), (2, [5])], ∅⟩

def twoLive : LiveVectors := fun id => if id = 1 then some [9] else if id = 2 then some [5] else none

lemma twoVectors_publishes : Publishes twoVectors twoLive := by
  refine ⟨rfl, by decide, fun id v => ?_⟩
  simp only [twoVectors, twoLive, mem_cons, Prod.mk.injEq, not_mem_nil]
  grind

end SharedHnsw
end BrainDb
