import BrainDb.Base.Override
import BrainDb.Store.Substrate

namespace BrainDb
open Table ExceptLemmas Override MemoryRow Edges Memories Option Substrate

structure LoggedPhase where
  caller : Caller
  writeId : WriteId
  phase : SubstratePhase
  lsn : Nat
  timestamp : Nanos

open LoggedPhase

inductive AcceptedRun (ok : Substrate → LoggedPhase → Prop) :
    List LoggedPhase → Substrate → Substrate → Prop
  | nil (t : Substrate) : AcceptedRun ok [] t t
  | cons {q : LoggedPhase} {qs : List LoggedPhase} {t t₁ t₂ : Substrate} {ack : SubstrateAck} :
      ok t q → t.dispatch q.caller q.phase = .ok (t₁, ack) → AcceptedRun ok qs t₁ t₂ →
      AcceptedRun ok (q :: qs) t t₂

def LoggedPhase.replay (hashOf : String → Digest) (t : Substrate) (q : LoggedPhase) :
    Substrate :=
  match q.phase.walPayload q.writeId q.caller with
  | some p => t.replay hashOf q.lsn q.timestamp p
  | none => t

def replayLogged (hashOf : String → Digest) (qs : List LoggedPhase) (t : Substrate) :
    Substrate :=
  qs.foldl (replay hashOf) t

def SubstratePhase.memoryFamily : SubstratePhase → Bool
  | .memory (.upsertMemory _) | .memory (.tombstoneMemory ..) | .memory (.restoreMemory ..) => true
  | .memory (.updateSalience ..) | .memory (.updateKind ..) | .memory (.updateSession ..) => true
  | .link _ | .unlink _ => true
  | _ => false

def LoggedPhase.Repeats (t : Substrate) (q : LoggedPhase) : Prop :=
  match q.phase with
  | .memory (.tombstoneMemory _ _ now) => now = q.timestamp
  | .memory (.restoreMemory id _) => ∀ row, t.memory.memories.get id = some row →
      row.flags.active = false ∧ (row.contentHash.isSome = true → row.createdAt = q.timestamp)
  | .memory (.updateSalience ..) | .memory (.updateKind ..) | .memory (.updateSession ..) => True
  | .link l => t.memory.endpointInSpace q.caller.scope.spaceId l.source = true ∧
      t.memory.endpointInSpace q.caller.scope.spaceId l.target = true ∧
      l.disambiguator = zeroDisambiguator ∧ l.derivedBy = 0 ∧ l.createdAt = q.timestamp ∧
      edgeOriginFromByte l.origin = l.origin
  | .unlink key => key.disambiguator = zeroDisambiguator
  | _ => False

def SubstratePhase.repeatable : SubstratePhase → Bool
  | .memory (.tombstoneMemory ..) | .memory (.restoreMemory ..) => true
  | .memory (.updateSalience ..) | .memory (.updateKind ..) | .memory (.updateSession ..) => true
  | .link _ | .unlink _ => true
  | _ => false

def SubstratePhase.flipped? : SubstratePhase → Option MemoryId
  | .memory (.tombstoneMemory id _ _) | .memory (.restoreMemory id _) => some id
  | _ => none

def SubstratePhase.moved? : SubstratePhase → Option MemoryId
  | .memory (.updateSession id _) => some id
  | _ => none

inductive CellOp : (Cell → Cell) → Prop
  | skip : CellOp fun c => c
  | soft (now : Nanos) : CellOp (Cell.tombstone .soft now)
  | hard (now : Nanos) : CellOp (Cell.tombstone .hard now)
  | restore : CellOp Cell.replayRestore
  | salience (s : UInt32) : CellOp (Cell.modify fun row => { row with salience := s })
  | kind (k : MemoryKind) : CellOp (Cell.modify fun row => { row with kind := k })
  | session (s : SessionId) : CellOp (Cell.modify fun row => { row with sessionId := s })

variable {f : Cell → Cell} {t : Substrate} {q : LoggedPhase}

lemma CellOp.none (h : CellOp f) (text : Option String) (artifact : Option ArtifactBundle)
    (vector : Option Embedding) :
    f ⟨none, text, artifact, vector⟩ = ⟨none, text, artifact, vector⟩ := by
  cases h <;> rfl

lemma CellOp.idem (hf : CellOp f) (c : Cell) : f (f c) = f c := by
  obtain ⟨row, text, artifact, vector⟩ := c
  cases row with
  | none => simp only [hf.none]
  | some row =>
    cases hf <;> cases hhard : row.flags.hardForgotten <;>
      simp [Cell.tombstone, Cell.replayRestore, Cell.modify, tombstoned, reactivated, hhard]

lemma CellOp.absorbs {g : Cell → Cell} (hf : CellOp f) (hg : CellOp g) : Absorbs f g := by
  rintro ⟨row, text, artifact, vector⟩
  cases row with
  | none => simp only [hf.none, hg.none]
  | some row =>
    cases hf <;> cases hg <;> cases hhard : row.flags.hardForgotten <;>
      simp [Cell.tombstone, Cell.replayRestore, Cell.modify, tombstoned, reactivated, hhard]

def LoggedPhase.onCell (id : MemoryId) (q : LoggedPhase) : Cell → Cell :=
  match q.phase with
  | .memory (.tombstoneMemory i mode _) =>
    if id = i then Cell.tombstone mode q.timestamp else fun c => c
  | .memory (.restoreMemory i _) => if id = i then Cell.replayRestore else fun c => c
  | .memory (.updateSalience i s) =>
    if id = i then Cell.modify fun row => { row with salience := s } else fun c => c
  | .memory (.updateKind i k) =>
    if id = i then Cell.modify fun row => { row with kind := k } else fun c => c
  | .memory (.updateSession i s) =>
    if id = i then Cell.modify fun row => { row with sessionId := s } else fun c => c
  | _ => fun c => c

lemma LoggedPhase.cellOp (q : LoggedPhase) (id : MemoryId) : CellOp (q.onCell id) := by
  unfold onCell
  split
  next mode _ _ =>
    split
    · cases mode with
      | soft => exact .soft _
      | hard => exact .hard _
    · exact .skip
  · split
    · exact .restore
    · exact .skip
  next s _ =>
    split
    · exact .salience s
    · exact .skip
  next k _ =>
    split
    · exact .kind k
    · exact .skip
  next s _ =>
    split
    · exact .session s
    · exact .skip
  · exact .skip

def MemoryRow.uncounted (row : MemoryRow) : MemoryRow :=
  { row with edgesOutCount := 0, edgesInCount := 0 }

namespace Cell

def uncounted (c : Cell) : Cell := c.modify MemoryRow.uncounted

lemma modify_uncounted {f : MemoryRow → MemoryRow} (hf : ∀ row, (f row).uncounted = row.uncounted)
    (c : Cell) : (c.modify f).uncounted = c.uncounted := by
  simp only [uncounted, modify, map_map, Function.comp_def, hf]

def counts (c : Cell) : Option (Nat × Nat) :=
  c.row.map fun row => (row.edgesOutCount, row.edgesInCount)

lemma eq_of_uncounted {c d : Cell} (h : c.uncounted = d.uncounted) (hcnts : c.counts = d.counts) :
    c = d := by
  obtain ⟨row, text, artifact, vector⟩ := c
  obtain ⟨row', text', artifact', vector'⟩ := d
  simp only [uncounted, modify, Cell.mk.injEq] at h
  obtain ⟨hrow, rfl, rfl, rfl⟩ := h
  cases row with
  | none =>
    cases row' with
    | none => rfl
    | some row' => cases hrow
  | some row =>
    cases row' with
    | none => cases hrow
    | some row' =>
      simp only [map_some, MemoryRow.uncounted, some.injEq, MemoryRow.mk.injEq, true_and] at hrow
      simp only [counts, map_some, some.injEq, Prod.mk.injEq] at hcnts
      obtain ⟨row⟩ := row
      simp_all

end Cell

lemma CellOp.uncounted (hf : CellOp f) (c : Cell) : (f c).uncounted = f c.uncounted := by
  obtain ⟨row, text, artifact, vector⟩ := c
  cases row with
  | none =>
    have hnone : (⟨Option.none, text, artifact, vector⟩ : Cell).uncounted =
      ⟨Option.none, text, artifact, vector⟩ := rfl
    rw [hf.none, hnone, hf.none]
  | some row =>
    cases hf <;> cases hhard : row.flags.hardForgotten <;>
      simp [Cell.uncounted, MemoryRow.uncounted, Cell.tombstone, Cell.replayRestore, Cell.modify,
        MemoryRow.tombstoned, MemoryRow.reactivated, hhard]

lemma CellOp.counts (hf : CellOp f) (c : Cell) : (f c).counts = c.counts := by
  obtain ⟨row, text, artifact, vector⟩ := c
  cases row with
  | none => rw [hf.none]
  | some row =>
    cases hf <;> cases hhard : row.flags.hardForgotten <;>
      simp [Cell.counts, Cell.tombstone, Cell.replayRestore, Cell.modify, tombstoned,
        reactivated, hhard]

lemma LoggedPhase.Repeats.repeatable (h : q.Repeats t) : q.phase.repeatable = true := by
  unfold Repeats at h
  unfold SubstratePhase.repeatable
  split at h <;> first | rfl | exact h.elim

lemma LoggedPhase.replay_cell (h : q.phase.repeatable = true) (hashOf : String → Digest)
    (t : Substrate) (id : MemoryId) :
    (q.replay hashOf t).memory.cell id = q.onCell id (t.memory.cell id) := by
  obtain ⟨caller, writeId, phase, lsn, timestamp⟩ := q
  have hmemory : ∀ p : MemoryPayload, (t.replay hashOf lsn timestamp (.memory p)).memory.cell id =
      p.onCell hashOf lsn timestamp id (t.memory.cell id) :=
    fun p => replay_cell hashOf lsn timestamp t.memory p id
  cases phase with
  | memory phase =>
    cases phase with
    | tombstoneMemory i mode now | restoreMemory i now | updateKind i k | updateSession i s =>
      refine (hmemory _).trans ?_
      simp only [MemoryPayload.onCell, onCell]
      split <;> rfl
    | updateSalience i s =>
      refine (hmemory (.updateSalience [(i, s)])).trans ?_
      simp only [MemoryPayload.onCell, onCell, List.foldl_cons, List.foldl_nil]
      split <;> rfl
    | _ => cases h
  | link l => rfl
  | unlink key => rfl

lemma Memories.bumpEdgeCount_cell (t : Memories) (i : MemoryId) (f : MemoryRow → MemoryRow)
    (id : MemoryId) :
    (t.bumpEdgeCount i f).cell id = if id = i then (t.cell id).modify f else t.cell id := by
  have hsame : t.bumpEdgeCount i f = t.replayRow i f := by
    unfold bumpEdgeCount replayRow
    cases t.memories.get i <;> rfl
  rw [hsame, replayRow_cell]

lemma Memories.bumpEdgeCounts_uncounted (source target : NodeRef) (up : Bool) (t : Memories)
    (id : MemoryId) : ((t.bumpEdgeCounts source target up).cell id).uncounted =
      (t.cell id).uncounted := by
  unfold bumpEdgeCounts
  simp only
  split
  next src tgt =>
    have hbump : ∀ (t : Memories) (i : MemoryId) (f : MemoryRow → MemoryRow),
        (∀ row, (f row).uncounted = row.uncounted) →
        ((t.bumpEdgeCount i f).cell id).uncounted = (t.cell id).uncounted := by
      intro t i f hf
      rw [bumpEdgeCount_cell]
      split
      · exact Cell.modify_uncounted hf _
      · rfl
    refine (hbump _ tgt _ ?_).trans (hbump t src _ ?_)
    · intro row
      rfl
    · intro row
      rfl
  · rfl

variable {t' : Substrate} {ack : SubstrateAck} {f : Edges → Edges}

lemma LoggedPhase.Repeats.dispatch_cell (h : q.Repeats t)
    (hdisp : t.dispatch q.caller q.phase = .ok (t', ack)) (id : MemoryId) :
    (t'.memory.cell id).uncounted = (q.onCell id (t.memory.cell id)).uncounted := by
  obtain ⟨caller, writeId, phase, lsn, timestamp⟩ := q
  cases phase with
  | memory phase =>
    obtain ⟨⟨u, a⟩, hu, heq⟩ := map_ok hdisp
    cases heq
    have hcell := dispatch_cell hu id
    rw [hcell]
    cases phase with
    | tombstoneMemory i mode now =>
      have hnow : now = timestamp := h
      subst hnow
      simp only [MemoryPhase.onCell, onCell]
      split <;> rfl
    | restoreMemory i now =>
      simp only [MemoryPhase.onCell, onCell]
      split
      next hid =>
        subst hid
        obtain ⟨⟨u', b⟩, hu', -⟩ := map_ok hu
        obtain ⟨row, hrow, -, hhard, -⟩ := applyRestoreMemory_ok hu'
        have hact := (h row hrow).1
        simp [cell, Cell.restore, Cell.replayRestore, hrow, hhard, hact]
      · rfl
    | updateSalience i s | updateKind i k | updateSession i s =>
      simp only [MemoryPhase.onCell, onCell]
      split <;> rfl
    | _ => exact h.elim
  | link l =>
    cases hdisp
    unfold applyLink
    simp only
    split
    · split
      · rfl
      · exact bumpEdgeCounts_uncounted l.source l.target true t.memory id
    · rfl
  | unlink key =>
    cases hdisp
    unfold applyUnlink
    simp only
    split
    · exact bumpEdgeCounts_uncounted key.source key.target false t.memory id
    · rfl

def EdgeKey.covers (k k' : EdgeKey) : Prop :=
  k' = k ∨ ((symmetricAutoMirror k.kind = true ∧ k.source ≠ k.target) ∧ k' = k.flip)

instance (k k' : EdgeKey) : Decidable (k.covers k') := by
  unfold EdgeKey.covers
  infer_instance

variable (k : EdgeKey)

lemma EdgeKey.flip_flip : k.flip.flip = k := rfl

lemma EdgeKey.eq_flip_iff {k k' : EdgeKey} : k' = k.flip ↔ k'.flip = k :=
  ⟨fun h => by rw [h, flip_flip], fun h => by rw [← h, flip_flip]⟩

def EdgeOp (f : Edges → Edges) : Prop :=
  ∃ (touched : EdgeKey → Prop) (_ : DecidablePred touched) (data : Option EdgeData), ∀ t k,
    (f t).forward.get k = (if touched k then data else t.forward.get k) ∧
      (f t).reverse.get k = if touched k.flip then data else t.reverse.get k

lemma EdgeOp.ext {s t : Edges} (h : ∀ k, s.forward.get k = t.forward.get k ∧
    s.reverse.get k = t.reverse.get k) : s = t := by
  obtain ⟨forward, reverse⟩ := s
  obtain ⟨forward', reverse'⟩ := t
  have hforward : forward = forward' := Table.ext fun k => (h k).1
  have hreverse : reverse = reverse' := Table.ext fun k => (h k).2
  rw [hforward, hreverse]

lemma EdgeOp.idem (hf : EdgeOp f) (t : Edges) : f (f t) = f t := by
  obtain ⟨touched, _, data, hf⟩ := hf
  refine EdgeOp.ext fun k => ?_
  simp only [hf]
  constructor
  · split <;> rfl
  · split <;> rfl

lemma EdgeOp.absorbs {g : Edges → Edges} (hf : EdgeOp f) (hg : EdgeOp g) : Absorbs f g := by
  intro t
  obtain ⟨touched, _, data, hf⟩ := hf
  obtain ⟨touched', _, data', hg⟩ := hg
  refine EdgeOp.ext fun k => ?_
  simp only [hf, hg]
  constructor
  · split <;> rfl
  · split <;> rfl

lemma Edges.link_edgeOp (data : EdgeData) : EdgeOp fun t => t.link k data := by
  refine ⟨k.covers, inferInstance, some data, fun t k' => ?_⟩
  unfold link EdgeKey.covers
  simp only
  by_cases hmirror : symmetricAutoMirror k.kind = true ∧ k.source ≠ k.target
  · rw [if_pos hmirror]
    simp only [insertPair, get_insert, EdgeKey.flip_flip, hmirror, true_and, EdgeKey.eq_flip_iff]
    constructor
    · grind
    · grind
  · rw [if_neg hmirror]
    simp only [insertPair, get_insert, hmirror, false_and, or_false, EdgeKey.eq_flip_iff]
    exact ⟨trivial, trivial⟩

lemma Edges.unlink_edgeOp : EdgeOp fun t => (t.unlink k).1 := by
  refine ⟨k.covers, inferInstance, none, fun t k' => ?_⟩
  unfold unlink EdgeKey.covers
  simp only
  by_cases hmirror : symmetricAutoMirror k.kind = true ∧ k.source ≠ k.target
  · rw [if_pos hmirror]
    simp only [removePair, get_remove, EdgeKey.flip_flip, hmirror, true_and, EdgeKey.eq_flip_iff]
    constructor
    · grind
    · grind
  · rw [if_neg hmirror]
    simp only [removePair, get_remove, hmirror, false_and, or_false, EdgeKey.eq_flip_iff]
    exact ⟨trivial, trivial⟩

def LoggedPhase.onEdges (q : LoggedPhase) : Edges → Edges :=
  match q.phase with
  | .link l => fun t => t.link ⟨l.source, l.kind, l.target, zeroDisambiguator⟩
      ⟨l.weight, edgeOriginFromByte l.origin, 0, q.timestamp⟩
  | .unlink key => fun t => (t.unlink ⟨key.source, key.kind, key.target, zeroDisambiguator⟩).1
  | .memory _ => fun t => t

lemma LoggedPhase.edgeOp (q : LoggedPhase) : EdgeOp q.onEdges := by
  unfold onEdges
  split
  · exact link_edgeOp _ _
  · exact unlink_edgeOp _
  · exact ⟨fun _ => False, fun _ => inferInstance, none, fun t k => by simp⟩

lemma LoggedPhase.replay_edges (q : LoggedPhase) (hashOf : String → Digest)
    (t : Substrate) : (q.replay hashOf t).edges = q.onEdges t.edges := by
  obtain ⟨caller, writeId, phase, lsn, timestamp⟩ := q
  cases phase with
  | memory phase => cases phase <;> rfl
  | link l => rfl
  | unlink key => rfl

lemma LoggedPhase.Repeats.dispatch_edges (h : q.Repeats t)
    (hdisp : t.dispatch q.caller q.phase = .ok (t', ack)) : t'.edges = q.onEdges t.edges := by
  obtain ⟨caller, writeId, phase, lsn, timestamp⟩ := q
  cases phase with
  | memory phase =>
    obtain ⟨_, _, heq⟩ := map_ok hdisp
    cases heq
    rfl
  | link l =>
    cases hdisp
    obtain ⟨source, target, kind, weight, origin, derivedBy, disambiguator, createdAt⟩ := l
    obtain ⟨hsrc, htgt, hzero, hclient, hmade, horg⟩ := h
    subst hzero hclient hmade
    unfold applyLink
    rw [if_pos (by rw [hsrc, htgt]; rfl)]
    show t.edges.link _ _ = t.edges.link _ _
    rw [horg]
    rfl
  | unlink key =>
    cases hdisp
    obtain ⟨source, kind, target, disambiguator⟩ := key
    subst h
    rfl

end BrainDb
