import BrainDb.Store.RepeatIndex

namespace BrainDb
open List Override LoggedPhase Memories Substrate
variable {hashOf : String → Digest} {qs : List LoggedPhase} {t t' : Substrate}

section

lemma AcceptedRun.repeatable (h : AcceptedRun Repeats qs t t') :
    ∀ q ∈ qs, q.phase.repeatable = true := by
  induction h with
  | nil => exact fun q hq => absurd hq not_mem_nil
  | cons hok _ _ ih => exact forall_mem_cons.mpr ⟨hok.repeatable, ih⟩

lemma AcceptedRun.part_replay {Y : Type} {part : Substrate → Y} {act : LoggedPhase → Y → Y}
    {I : Substrate → Prop} (h : AcceptedRun Repeats qs t t') (hI : I t)
    (hlive : ∀ {t t' q ack}, q ∈ qs → q.Repeats t → t.dispatch q.caller q.phase = .ok (t', ack) →
      I t → I t' ∧ part t' = act q (part t))
    (hreplay : ∀ {t q}, q ∈ qs → q.phase.repeatable = true → I t →
      I (q.replay hashOf t) ∧ part (q.replay hashOf t) = act q (part t))
    (hidem : ∀ q ∈ qs, ∀ y, act q (act q y) = act q y)
    (habsorbs : ∀ q ∈ qs, ∀ q' ∈ qs, Absorbs (act q) (act q')) :
    part (replayLogged hashOf qs t') = part t' := by
  have hrep := h.repeatable
  have hend : ∀ {ps t t'}, AcceptedRun Repeats ps t t' → (∀ q ∈ ps, q ∈ qs) → I t →
      I t' ∧ part t' = run (ps.map act) (part t) := by
    intro ps t t' hrun
    induction hrun with
    | nil t => exact fun _ hI => ⟨hI, rfl⟩
    | cons hok hdisp _ ih =>
      intro hsub hI
      obtain ⟨hI₁, hpart⟩ := hlive (hsub _ mem_cons_self) hok hdisp hI
      obtain ⟨hI₂, hrest⟩ := ih (fun q hq => hsub q (mem_cons_of_mem _ hq)) hI₁
      rw [hpart] at hrest
      exact ⟨hI₂, hrest⟩
  have hagain : ∀ {ps t}, (∀ q ∈ ps, q ∈ qs) → I t →
      part (replayLogged hashOf ps t) = run (ps.map act) (part t) := by
    intro ps
    induction ps with
    | nil => exact fun _ _ => rfl
    | cons q ps ih =>
      intro t hsub hI
      have hq := hsub q mem_cons_self
      obtain ⟨hI₁, hpart⟩ := hreplay hq (hrep q hq) hI
      have hrest := ih (fun q hq => hsub q (mem_cons_of_mem _ hq)) hI₁
      rw [hpart] at hrest
      exact hrest
  obtain ⟨hI', hpart⟩ := hend h (fun _ hq => hq) hI
  rw [hagain (fun _ hq => hq) hI', hpart]
  refine run_after (fun _ hg => hg) ?_ ?_ _
  · intro f hf
    obtain ⟨q, hq, rfl⟩ := List.mem_map.mp hf
    exact hidem q hq
  · intro f hf g hg
    obtain ⟨q, hq, rfl⟩ := List.mem_map.mp hf
    obtain ⟨q', hq', rfl⟩ := List.mem_map.mp hg
    exact habsorbs q hq q' hq'

lemma replayLogged_counts (hrep : ∀ q ∈ qs, q.phase.repeatable = true)
    (t : Substrate) (id : MemoryId) :
    ((replayLogged hashOf qs t).memory.cell id).counts = (t.memory.cell id).counts := by
  refine List.foldlRecOn qs _
    (motive := fun u : Substrate => (u.memory.cell id).counts = (t.memory.cell id).counts) rfl ?_
  intro u hu q hq
  rw [replay_cell (hrep q hq), (q.cellOp id).counts, hu]

lemma AcceptedRun.replay_cell (h : AcceptedRun LoggedPhase.Repeats qs t t') (id : MemoryId) :
    (replayLogged hashOf qs t').memory.cell id = t'.memory.cell id := by
  refine Cell.eq_of_uncounted ?_ (replayLogged_counts h.repeatable t' id)
  refine @AcceptedRun.part_replay hashOf qs t t' Cell
    (fun t => (t.memory.cell id).uncounted) (fun q => q.onCell id) (fun _ => True) h trivial ?_ ?_
    (fun q _ => (q.cellOp id).idem) fun q _ q' _ => (q.cellOp id).absorbs (q'.cellOp id)
  · intro t t' q ack _ hrepeats hdisp _
    refine ⟨trivial, ?_⟩
    rw [hrepeats.dispatch_cell hdisp, (q.cellOp id).uncounted]
  · intro t q _ hrep _
    refine ⟨trivial, ?_⟩
    rw [LoggedPhase.replay_cell hrep, (q.cellOp id).uncounted]

lemma AcceptedRun.replay_edges (h : AcceptedRun Repeats qs t t') :
    (replayLogged hashOf qs t').edges = t'.edges :=
  @AcceptedRun.part_replay hashOf qs t t' Edges (fun t => t.edges) (fun q => q.onEdges)
    (fun _ => True) h trivial
    (fun _ hrepeats hdisp _ => ⟨trivial, hrepeats.dispatch_edges hdisp⟩)
    (fun {t q} _ _ _ => ⟨trivial, q.replay_edges hashOf t⟩)
    (fun q _ => q.edgeOp.idem) fun q _ q' _ => q.edgeOp.absorbs q'.edgeOp

def SessionsKept (qs : List LoggedPhase) : Prop :=
  ∀ q ∈ qs, ∀ q' ∈ qs, ∀ id, q.phase.moved? = some id → q'.phase.flipped? ≠ some id

lemma IndexEntry.replay_entry {V : Type} (x : IndexEntry V)
    (h : AcceptedRun Repeats qs t t') (hsess : SessionsKept qs)
    (hmover : ∀ q ∈ qs, ∀ id, q.phase.moved? = some id → x.mover ≠ some id) :
    x.entry (replayLogged hashOf qs t').memory = x.entry t'.memory := by
  let keyed : MemoryId → Bool := fun id => (t.memory.memories.get id).any x.keyed
  have hslot := @AcceptedRun.part_replay hashOf qs t t' (Slot V) x.slot (x.onSlot keyed)
    (x.Keyed keyed qs) h (fun _ _ _ _ => rfl) ?_ ?_
    (fun q _ => (x.slotOp keyed q).idem)
    fun q _ q' _ => (x.slotOp keyed q).absorbs (x.slotOp keyed q')
  · exact congrArg Slot.entry hslot
  · intro t t' q ack hq hrepeats hdisp hids
    refine ⟨fun q' hq' id hid => ?_, slot_dispatch hrepeats (hids q hq) (hmover q hq) hdisp⟩
    rw [← hids q' hq' id hid]
    refine x.any_keyed_congr ?_
    have hcell := congrArg (fun c : Cell => c.row.map MemoryRow.indexed)
      (hrepeats.dispatch_cell hdisp id)
    simp only [Cell.uncounted_indexed] at hcell
    exact hcell.trans (onCell_indexed (fun hm => hsess q hq q' hq' id hm hid) _)
  · intro t q hq hrep hids
    refine ⟨fun q' hq' id hid => ?_, slot_replay hrep (hids q hq) hashOf⟩
    rw [← hids q' hq' id hid]
    refine x.any_keyed_congr ?_
    have hcell := congrArg (fun c : Cell => c.row.map MemoryRow.indexed)
      (replay_cell hrep hashOf t id)
    exact hcell.trans (onCell_indexed (fun hm => hsess q hq q' hq' id hm hid) _)
end

def Cell.Named (id : MemoryId) (c : Cell) : Prop := ∀ row, c.row = some row → row.memoryId = id

namespace Cell.Named
variable {id : MemoryId} {c : Cell}

lemma modify {f : MemoryRow → MemoryRow} (hf : ∀ row, (f row).memoryId = row.memoryId)
    (h : c.Named id) : (c.modify f).Named id := by
  intro row hrow
  obtain ⟨row', hrow', rfl⟩ := Option.map_eq_some_iff.mp hrow
  rw [hf, h row' hrow']

lemma tombstone (h : c.Named id) (mode : TombstoneMode) (now : Nanos) :
    (c.tombstone mode now).Named id := by
  obtain ⟨row, text, artifact, vector⟩ := c
  cases row with
  | none => exact h
  | some row =>
    intro row' hrow'
    have hname := h row rfl
    cases mode with
    | soft | hard =>
      cases hrow'
      exact hname

lemma onPhase (h : c.Named id) (caller : Caller) (phase : MemoryPhase) :
    (phase.onCell caller id c).Named id := by
  cases phase with
  | upsertMemory m =>
    simp only [MemoryPhase.onCell]
    split
    next hid =>
      rintro _ ⟨⟩
      exact hid.symm
    · exact h
  | tombstoneMemory i mode now =>
    simp only [MemoryPhase.onCell]
    split
    · exact h.tombstone mode now
    · exact h
  | restoreMemory i now =>
    simp only [MemoryPhase.onCell]
    split
    · refine h.modify fun row => ?_
      split <;> rfl
    · exact h
  | updateSalience i s | updateKind i k | updateSession i s | updateEmbedding i v =>
    simp only [MemoryPhase.onCell]
    split
    · exact h.modify fun _ => rfl
    · exact h
  | _ => exact h

lemma onPayload (h : c.Named id) (hashOf : String → Digest) (lsn : Nat)
    (timestamp : Nanos) (p : MemoryPayload) : (p.onCell hashOf lsn timestamp id c).Named id := by
  cases p with
  | encode p =>
    simp only [MemoryPayload.onCell]
    split
    next hid =>
      rintro _ ⟨⟩
      exact hid.symm
    · exact h
  | forget i requestId spaceId mode =>
    simp only [MemoryPayload.onCell]
    split
    · exact h.tombstone mode timestamp
    · exact h
  | restoreMemory i requestId spaceId =>
    simp only [MemoryPayload.onCell]
    split
    · refine h.modify fun row => ?_
      split <;> rfl
    · exact h
  | updateSalience updates =>
    refine List.foldlRecOn updates _ (motive := fun c : Cell => c.Named id) h fun c hc u _ => ?_
    split
    · exact hc.modify fun _ => rfl
    · exact hc
  | updateKind i k | updateSession i s =>
    simp only [MemoryPayload.onCell]
    split
    · exact h.modify fun _ => rfl
    · exact h
  | _ => exact h

end Cell.Named

lemma Memories.bumpEdgeCounts_named {t : Memories} {id : MemoryId}
    (h : (t.cell id).Named id) (source target : NodeRef) (up : Bool) :
    ((t.bumpEdgeCounts source target up).cell id).Named id := by
  have hbump : ∀ {t : Memories} {i : MemoryId} {f : MemoryRow → MemoryRow},
      (∀ row, (f row).memoryId = row.memoryId) → (t.cell id).Named id →
      ((t.bumpEdgeCount i f).cell id).Named id := by
    intro t i f hf h
    rw [bumpEdgeCount_cell]
    split
    · exact h.modify hf
    · exact h
  unfold bumpEdgeCounts
  simp only
  split
  next src tgt =>
    refine hbump ?_ (hbump ?_ h)
    · intro row
      rfl
    · intro row
      rfl
  · exact h

inductive TablesReached (hashOf : String → Digest) : Substrate → Prop
  | empty : TablesReached hashOf empty
  | dispatch {caller : Caller} {phase : SubstratePhase} {t t' : Substrate} {ack : SubstrateAck} :
      TablesReached hashOf t → t.dispatch caller phase = .ok (t', ack) →
      TablesReached hashOf t'
  | replay {t : Substrate} (lsn : Nat) (timestamp : Nanos) (p : SubstratePayload) :
      TablesReached hashOf t → TablesReached hashOf (t.replay hashOf lsn timestamp p)

lemma TablesReached.named (h : TablesReached hashOf t) (id : MemoryId) :
    (t.memory.cell id).Named id := by
  induction h with
  | empty =>
    intro row hrow
    cases hrow
  | @dispatch caller phase t t' ack _ hdisp ih =>
    cases phase with
    | memory phase =>
      obtain ⟨⟨u, a⟩, hu, heq⟩ := ExceptLemmas.map_ok hdisp
      cases heq
      rw [Memories.dispatch_cell hu id]
      exact ih.onPhase caller phase
    | link l =>
      cases hdisp
      unfold applyLink
      simp only
      split
      · split
        · exact ih
        · exact Memories.bumpEdgeCounts_named ih _ _ _
      · exact ih
    | unlink key =>
      cases hdisp
      unfold applyUnlink
      simp only
      split
      · exact Memories.bumpEdgeCounts_named ih _ _ _
      · exact ih
  | @replay t lsn timestamp p _ ih =>
    cases p with
    | memory p =>
      show ((t.memory.replay hashOf lsn timestamp p).cell id).Named id
      rw [Memories.replay_cell]
      exact ih.onPayload hashOf lsn timestamp p
    | link source target kind weight origin => exact ih
    | unlink source target kind => exact ih

lemma TablesReached.run {ok : Substrate → LoggedPhase → Prop}
    (h : TablesReached hashOf t) (hrun : AcceptedRun ok qs t t') : TablesReached hashOf t' := by
  induction hrun with
  | nil => exact h
  | cons _ hdisp _ ih => exact ih (h.dispatch hdisp)

lemma LoggedPhase.replay_reached (h : TablesReached hashOf t) (q : LoggedPhase) :
    TablesReached hashOf (q.replay hashOf t) := by
  unfold replay
  split
  · exact h.replay _ _ _
  · exact h

section
variable {q : LoggedPhase}

lemma IndexEntry.onSlot_entry {V : Type} {x : IndexEntry V} {keyed : MemoryId → Bool} {s : Slot V}
    (h : ∀ id, q.phase.flipped? = some id → keyed id = false) :
    (x.onSlot keyed q s).entry = s.entry := by
  obtain ⟨caller, writeId, phase, lsn, timestamp⟩ := q
  cases phase with
  | memory phase =>
    cases phase with
    | tombstoneMemory i mode now => simp [onSlot, Slot.forget_entry, h i rfl]
    | restoreMemory i now => simp [onSlot, Slot.restore_entry, h i rfl]
    | _ => rfl
  | link l => rfl
  | unlink key => rfl

lemma LoggedPhase.replay_timeline (hrep : q.phase.repeatable = true)
    (h : TablesReached hashOf t) {k : TimelineKey} (hk : q.phase.flipped? ≠ some k.memoryId) :
    (q.replay hashOf t).memory.timeline.get k = t.memory.timeline.get k := by
  let keyed : MemoryId → Bool := fun id => (t.memory.memories.get id).any (timelineEntry k).keyed
  have hoth : ∀ id, id ≠ k.memoryId → keyed id = false := by
    intro id hid
    show (t.memory.memories.get id).any (timelineEntry k).keyed = false
    cases hrow : t.memory.memories.get id with
    | none => rfl
    | some row =>
      have hname := h.named id row hrow
      refine decide_eq_false fun hkey => hid ?_
      rw [← hname, ← hkey]
      rfl
  have hslot := congrArg Slot.entry (@IndexEntry.slot_replay Unit keyed (timelineEntry k) t q
    hrep (fun _ _ => rfl) hashOf)
  refine hslot.trans (IndexEntry.onSlot_entry fun id hid => hoth id fun heq => hk ?_)
  rw [hid, heq]

lemma LoggedPhase.replay_registry (h : q.phase.repeatable = true) (hashOf : String → Digest)
    (t : Substrate) : (q.replay hashOf t).memory.registry = t.memory.registry := by
  have hrow : ∀ (m : Memories) (i : MemoryId) (f : MemoryRow → MemoryRow),
      (m.replayRow i f).registry = m.registry := by
    intro m i f
    unfold replayRow
    split <;> rfl
  obtain ⟨caller, writeId, phase, lsn, timestamp⟩ := q
  cases phase with
  | memory phase =>
    cases phase with
    | tombstoneMemory i mode now =>
      show (t.memory.replayForget timestamp i mode).registry = _
      unfold replayForget
      split <;> rfl
    | restoreMemory i now =>
      show (t.memory.replayRestoreMemory timestamp i).registry = _
      unfold replayRestoreMemory
      split
      · split <;> rfl
      · rfl
    | updateSalience i s | updateKind i k | updateSession i s => exact hrow t.memory i _
    | _ => cases h
  | link l => rfl
  | unlink key => rfl

lemma AcceptedRun.replay_timeline (hreach : TablesReached hashOf t)
    (h : AcceptedRun LoggedPhase.Repeats qs t t') (hsess : SessionsKept qs) (k : TimelineKey) :
    (replayLogged hashOf qs t').memory.timeline.get k = t'.memory.timeline.get k := by
  by_cases hmoved : ∃ q ∈ qs, q.phase.moved? = some k.memoryId
  · -- a memory that is moved is never flipped, and nothing else has the key
    obtain ⟨q, hq, hmove⟩ := hmoved
    have hall : ∀ u : Substrate, TablesReached hashOf u →
        (replayLogged hashOf qs u).memory.timeline.get k = u.memory.timeline.get k := by
      intro u hu
      have hend := List.foldlRecOn qs (LoggedPhase.replay hashOf)
        (motive := fun v : Substrate => TablesReached hashOf v ∧
          v.memory.timeline.get k = u.memory.timeline.get k) (b := u) ⟨hu, rfl⟩ ?_
      · exact hend.2
      · rintro v ⟨hv, hkey⟩ p hp
        refine ⟨LoggedPhase.replay_reached hv p, ?_⟩
        rw [LoggedPhase.replay_timeline (h.repeatable p hp) hv (hsess q hq p hp _ hmove), hkey]
    exact hall t' (hreach.run h)
  · refine (timelineEntry k).replay_entry h hsess fun q hq id hid hmover => ?_
    cases hmover
    exact hmoved ⟨q, hq, hid⟩

/-- In every run of accepted phases that their records repeat, where no memory is both moved to
another session and forgotten or restored, replay onto the tables it ends with changes nothing. -/
theorem replay_again_unchanged (hreach : TablesReached hashOf t)
    (hsess : SessionsKept qs) (h : AcceptedRun Repeats qs t t') :
    replayLogged hashOf qs t' = t' := by
  have hcell := fun id => @AcceptedRun.replay_cell hashOf qs t t' h id
  have hedges := @AcceptedRun.replay_edges hashOf qs t t' h
  have htimeline := fun k => AcceptedRun.replay_timeline hreach h hsess k
  have hfingerprints := fun k => @IndexEntry.replay_entry hashOf qs t t' FingerprintEntry
    (fingerprintEntry k) h hsess fun _ _ _ _ hmover => by cases hmover
  have hreg : (replayLogged hashOf qs t').memory.registry = t'.memory.registry := by
    refine List.foldlRecOn qs _
      (motive := fun u : Substrate => u.memory.registry = t'.memory.registry) rfl ?_
    intro u hu q hq
    rw [replay_registry (h.repeatable q hq), hu]
  generalize replayLogged hashOf qs t' = u at *
  obtain ⟨⟨memories, texts, artifacts, vectors, timeline, fingerprints, registry⟩, edges⟩ := u
  obtain ⟨⟨memories', texts', artifacts', vectors', timeline', fingerprints', registry'⟩, edges'⟩ := t'
  have hmemories : memories = memories' := Table.ext fun id => congrArg Cell.row (hcell id)
  have htexts : texts = texts' := Table.ext fun id => congrArg Cell.text (hcell id)
  have hartifacts : artifacts = artifacts' := Table.ext fun id => congrArg Cell.artifact (hcell id)
  have hvectors : vectors = vectors' := Table.ext fun id => congrArg Cell.vector (hcell id)
  have htl : timeline = timeline' := Table.ext htimeline
  have hfp : fingerprints = fingerprints' := Table.ext hfingerprints
  change registry = registry' at hreg
  change edges = edges' at hedges
  rw [hmemories, htexts, hartifacts, hvectors, htl, hfp, hreg, hedges]
end

def loggedEncode : LoggedPhase :=
  { caller := ⟨⟨1, 1⟩, ""⟩, writeId := 1, lsn := 1, timestamp := 10
    phase := .memory (.upsertMemory
      { id := 7, text := "a", vector := [], kind := .episodic, salience := 0, sessionId := 0
        createdAt := 10, occurredAt := none, arenaSlot := 0, embeddingModelFp := 0
        contentHash := none, deduplicate := false }) }

def encodedTables : Substrate :=
  ((empty.dispatch loggedEncode.caller loggedEncode.phase).toOption.getD
    (.empty, .linked)).1

def logged (writeId : WriteId) (timestamp : Nanos) (phase : SubstratePhase) : LoggedPhase :=
  ⟨⟨⟨1, 1⟩, ""⟩, writeId, phase, writeId, timestamp⟩

def laterPhases : List LoggedPhase :=
  [logged 2 20 (.link ⟨.memory 7, .memory 7, .builtin .supports, 0, 0, 0, 0, 20⟩),
    logged 3 30 (.memory (.tombstoneMemory 7 .soft 30)), logged 4 40 (.memory (.restoreMemory 7 40)),
    logged 5 50 (.memory (.updateSalience 7 9)),
    logged 6 60 (.unlink ⟨.memory 7, .builtin .supports, .memory 7, 0⟩)]

theorem phases_replayed_unchanged : ∃ t, AcceptedRun Repeats laterPhases encodedTables t ∧
    replayLogged (fun _ => 0) laterPhases t = t := by
  have henc : TablesReached (fun _ => 0) encodedTables :=
    @TablesReached.dispatch _ loggedEncode.caller loggedEncode.phase _ _ _ .empty rfl
  have hsess : SessionsKept laterPhases := by
    have hstay : ∀ q ∈ laterPhases, q.phase.moved? = none :=
      by simp [laterPhases, logged, SubstratePhase.moved?]
    intro q hq _ _ _ hmoved
    rw [hstay q hq] at hmoved
    cases hmoved
  obtain ⟨t, hrun⟩ : ∃ t, AcceptedRun Repeats laterPhases encodedTables t := by
    refine ⟨_, .cons ?_ rfl (.cons rfl rfl (.cons ?_ rfl (.cons trivial rfl (.cons rfl rfl (.nil _)))))⟩
    · exact ⟨rfl, rfl, rfl, rfl, rfl, rfl⟩
    · intro row hrow
      cases hrow
      exact ⟨rfl, fun h => by cases h⟩
  exact ⟨t, hrun, replay_again_unchanged henc hsess hrun⟩

/-- The encode is replayed with the very time it was created at: the space then counts two
memories where it has one. -/
theorem encode_replayed_counted_twice :
    AcceptedRun (fun _ q => q.phase.memoryFamily = true) [loggedEncode] .empty encodedTables ∧
      (encodedTables.memory.registry.spaces.get ⟨1, 1⟩).map SpaceMetadata.memoryCount = some 1 ∧
      ((replayLogged (fun _ => 0) [loggedEncode] encodedTables).memory.registry.spaces.get
        ⟨1, 1⟩).map SpaceMetadata.memoryCount = some 2 := by
  refine ⟨.cons rfl rfl (.nil _), ?_, ?_⟩
  · decide +kernel
  · decide +kernel

end BrainDb
