import BrainDb.Planner.Visibility
import BrainDb.Store.Repeat

namespace BrainDb
open SharedHnsw Edges

def Edges.Mirrored (t : Edges) : Prop := ∀ k, t.forward.get k = t.reverse.get k.flip

lemma EdgeOp.mirrored {f : Edges → Edges} (hf : EdgeOp f) (t : Edges)
    (h : t.Mirrored) : (f t).Mirrored := by
  obtain ⟨touched, _, data, hf⟩ := hf
  intro k
  rw [(hf t k).1, (hf t k.flip).2, EdgeKey.flip_flip, h k]

namespace Server

structure Steady (s : Server) : Prop where
  edges : s.shard.db.tables.edges.Mirrored
  index : s.shard.index.Coherent
  snapshot : ∀ idx, s.snapshot = some idx → idx.tombstones = ∅

namespace Steady
variable {s : Server}

lemma submit (h : s.Steady) (now : Nanos) (w : Write SubstratePhase) : (s.submit now w).Steady := by
  have hindex : (w.phases.foldl SubstratePhase.hnswEffect s.shard.index).Coherent :=
    List.foldlRecOn (motive := Coherent) _ _ h.index fun _ hs phase _ => hs.phase phase
  have hcase := submit_cases substrateEngine now w s.shard
  unfold Server.submit
  generalize BrainDb.submit substrateEngine now w s.shard = out at hcase ⊢
  obtain ⟨result, s'⟩ := out
  cases hcase with
  | hit _ hs | conflict _ hs =>
    subst hs
    exact ⟨h.edges, h.index, h.snapshot⟩
  | refused _ _ hs =>
    subst hs
    exact ⟨h.edges, hindex, h.snapshot⟩
  | committed _ happ ht _ hi =>
    have hedges := edges_applyPhases (fun l _ => (link_edgeOp l.key l.data).mirrored)
      (fun t k => (unlink_edgeOp k).mirrored t) h.edges happ
    exact ⟨ht ▸ hedges, hi ▸ hindex, h.snapshot⟩

variable {hashOf : String → Digest}

lemma restart (h : s.Steady) (loads : Bool) : (s.restart hashOf loads).Steady := by
  have hsnap := (foldl_recoverEntry_frame hashOf (s.shard.log.above s.durableLsn) s).2.2
  refine ⟨?_, bootIndex_coherent ?_, fun idx hidx => h.snapshot idx (hsnap ▸ hidx)⟩
  · refine List.foldlRecOn (motive := fun r : Server => r.shard.db.tables.edges.Mirrored) _ _
      h.edges ?_
    intro r hr e _
    exact Quiet.recoverEntry_edges (fun _ _ _ _ _ _ t data => (link_edgeOp _ data).mirrored t)
      (fun t k => (unlink_edgeOp k).mirrored t) hr
  · intro idx hidx
    unfold loaded at hidx
    split at hidx
    · exact h.snapshot idx hidx
    · cases hidx

lemma step (h : s.Steady) (st : ServerStep) : (s.step hashOf st).Steady := by
  cases st with
  | reserve => exact ⟨h.edges, h.index, h.snapshot⟩
  | submit now w => exact h.submit now w
  | rebuild =>
    exact ⟨h.edges, h.index.flushOrKeep fun _ hidx => HnswIndex.rebuild_tombstones hidx, h.snapshot⟩
  | checkpoint now =>
    refine ⟨h.edges, h.index, fun idx hidx => ?_⟩
    change s.shard.index.saveSnapshot = some idx at hidx
    unfold saveSnapshot at hidx
    split at hidx
    · cases hidx
    · cases hidx
      exact h.index.main
  | restart loads => exact h.restart loads

lemma run (shardId : Nat) (steps : List ServerStep) :
    (Server.run hashOf (fresh shardId) steps).Steady :=
  List.foldlRecOn (motive := Steady) steps _ ⟨fun _ => rfl, .fromIndex rfl, fun _ h => nomatch h⟩
    fun _ hs st _ => hs.step st

end Steady

variable (hashOf : String → Digest) (shardId : Nat) (steps : List ServerStep)

/-- The edges that leave memories and those that enter them are the same, with the same data. -/
theorem edges_listed_from_both_ends (a b : MemoryId) (kind : EdgeKind) (data : EdgeData) :
    let edges := (run hashOf (fresh shardId) steps).shard.db.tables.edges
    (kind, b, data) ∈ listMemoryEdges edges.forward a ↔
      (kind, a, data) ∈ listMemoryEdges edges.reverse b := by
  intro edges
  rw [mem_listMemoryEdges, mem_listMemoryEdges]
  refine exists_congr fun d => ?_
  rw [(Steady.run shardId steps).edges]
  rfl

/-- The search for active memories finds nothing that is tombstoned. -/
theorem search_hides_tombstoned (lib : VectorLib) (efFactor k : Nat) (query : Embedding)
    (ef : Option Nat) :
    let index := (run hashOf (fresh shardId) steps).shard.index
    ∀ hit ∈ index.searchActive lib efFactor query k ef, index.isTombstoned hit.1 = false :=
  fun _ hhit => (Steady.run shardId steps).index.isTombstoned_of_mem_searchActive hhit

end Server
end BrainDb
