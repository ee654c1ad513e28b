import BrainDb.Index.Shared

namespace BrainDb
open List

abbrev Score := UInt32

/-- What the search takes from elsewhere: the vector library's graph walk, which answers internal
ids, the arithmetic on vectors, and a sort by descending score. -/
structure VectorLib where
  walk : HnswIndex → Embedding → Nat → Nat → List (Nat × Score)
  dot : Embedding → Embedding → Score
  sortDesc : List (MemoryId × Score) → List (MemoryId × Score)
  mem_sortDesc {l : List (MemoryId × Score)} {e : MemoryId × Score} : e ∈ sortDesc l ↔ e ∈ l

variable {query : Embedding} {k : Nat}

namespace HnswIndex

def overFactor : Nat := 2

def efSearch : Nat := 64

def efSearchMax : Nat := 500

def resolveEf (efFactor k : Nat) (ef : Option Nat) : Nat :=
  min (max (ef.getD (max efSearch (k * efFactor))) k) efSearchMax

variable (lib : VectorLib)

def searchRound (idx : HnswIndex) (query : Embedding) (k fetchK ef : Nat)
    (filter : MemoryId → Bool) : List (MemoryId × Score) :=
  ((lib.walk idx query fetchK (min (max ef fetchK) efSearchMax)).filterMap fun n =>
    if n.1 ∈ idx.tombstones then none
    else (idx.nodes[n.1]?).bind fun node =>
      if filter node.1 then some (node.1, n.2) else none).take k

def searchLoop (idx : HnswIndex) (query : Embedding) (k : Nat) (filter : MemoryId → Bool) :
    Nat → Nat → Nat → List (MemoryId × Score)
  | 0, multiplier, ef =>
    idx.searchRound lib query k (min (k * multiplier) idx.nodes.length) ef filter
  | rounds + 1, multiplier, ef =>
    let fetchK := min (k * multiplier) idx.nodes.length
    let results := idx.searchRound lib query k fetchK ef filter
    let fetchSaturated := idx.nodes.length ≤ fetchK
    let efSaturated := efSearchMax ≤ min (max ef fetchK) efSearchMax
    if k ≤ results.length ∨ fetchSaturated ∧ efSaturated then results
    else searchLoop idx query k filter rounds (if fetchSaturated then multiplier else multiplier * 2)
      (if efSaturated then ef else min (ef * 2) efSearchMax)

def search (efFactor : Nat) (idx : HnswIndex) (query : Embedding) (k : Nat) (ef : Option Nat)
    (filter : MemoryId → Bool) : List (MemoryId × Score) :=
  if k = 0 ∨ idx.nodes.isEmpty then []
  else idx.searchLoop lib query k filter (idx.nodes.length + efSearchMax) overFactor
    (resolveEf efFactor k ef)

variable {lib} {filter : MemoryId → Bool} {idx : HnswIndex} {id : MemoryId} {score : Score}

lemma mem_searchRound {fetchK ef : Nat}
    (h : (id, score) ∈ idx.searchRound lib query k fetchK ef filter) : filter id = true := by
  obtain ⟨n, _, hn⟩ := mem_filterMap.mp (mem_of_mem_take h)
  split at hn
  · cases hn
  · obtain ⟨node, _, hnode⟩ := Option.bind_eq_some_iff.mp hn
    split at hnode
    next hfilter =>
      cases hnode
      exact hfilter
    · cases hnode

lemma mem_searchLoop {rounds multiplier ef : Nat}
    (h : (id, score) ∈ idx.searchLoop lib query k filter rounds multiplier ef) :
    filter id = true := by
  induction rounds generalizing multiplier ef with
  | zero => exact mem_searchRound h
  | succ rounds ih =>
    unfold searchLoop at h
    simp only at h
    split at h
    · exact mem_searchRound h
    · exact ih h

lemma mem_search {efFactor : Nat} {ef : Option Nat}
    (h : (id, score) ∈ idx.search lib efFactor query k ef filter) : filter id = true := by
  unfold search at h
  split at h
  · cases h
  · exact mem_searchLoop h

end HnswIndex

namespace SharedHnsw
section
variable {σ : Type} (dot : Embedding → Embedding → σ)
  (sortDesc : List (MemoryId × σ) → List (MemoryId × σ)) (s : SharedHnsw)

def scored (query : Embedding) (filter : MemoryId → Bool) : List (MemoryId × σ) :=
  (s.pending.filter fun e => !e.tombstoned && filter e.memoryId).map fun e =>
    (e.memoryId, dot query e.vector)

def pendingSearch (query : Embedding) (k : Nat) (filter : MemoryId → Bool) :
    List (MemoryId × σ) :=
  (sortDesc (s.scored dot query filter)).take k

def mergeDedupeDescending (main pending : List (MemoryId × σ)) (k : Nat) : List (MemoryId × σ) :=
  (sortDesc (main.filter (fun m => !pending.any fun p => p.1 = m.1) ++ pending)).take k

def search (mainSearch : (MemoryId → Bool) → List (MemoryId × σ)) (query : Embedding) (k : Nat)
    (filter : MemoryId → Bool) : List (MemoryId × σ) :=
  if k = 0 then []
  else mergeDedupeDescending sortDesc (mainSearch fun id => id ∉ s.overlay && filter id)
    (s.pendingSearch dot sortDesc query k filter) k

lemma search_eq (mainSearch : (MemoryId → Bool) → List (MemoryId × σ)) (filter : MemoryId → Bool) :
    s.search dot sortDesc mainSearch query k filter =
      mergeDedupeDescending sortDesc (mainSearch fun id => id ∉ s.overlay && filter id)
        (s.pendingSearch dot sortDesc query k filter) k := by
  unfold search
  split
  next hk =>
    subst hk
    rfl
  · rfl
end
variable (lib : VectorLib)

def searchActive (efFactor : Nat) (s : SharedHnsw) (query : Embedding) (k : Nat)
    (ef : Option Nat) : List (MemoryId × Score) :=
  s.search lib.dot lib.sortDesc (s.main.search lib efFactor query k ef) query k fun _ => true

variable {lib}

lemma mem_searchActive {efFactor : Nat} {s : SharedHnsw} {ef : Option Nat}
    {hit : MemoryId × Score} (h : hit ∈ s.searchActive lib efFactor query k ef) :
    hit.1 ∉ s.overlay ∨ ∃ e ∈ s.pending, e.memoryId = hit.1 ∧ e.tombstoned = false := by
  rw [searchActive, search_eq] at h
  have hmem := lib.mem_sortDesc.mp (mem_of_mem_take h)
  rcases mem_append.mp hmem with hmain | hpend
  · have hfilter := HnswIndex.mem_search (mem_of_mem_filter hmain)
    exact .inl (by simpa using hfilter)
  · have hsort := lib.mem_sortDesc.mp (mem_of_mem_take hpend)
    obtain ⟨e, he, rfl⟩ := List.mem_map.mp hsort
    obtain ⟨hmem, hlive⟩ := mem_filter.mp he
    exact .inr ⟨e, hmem, rfl, by simpa using hlive⟩

end SharedHnsw
end BrainDb
