import BrainDb.Index.Coherent
import BrainDb.Planner.Path
import BrainDb.Server.Boot

namespace BrainDb
open List Option ExceptLemmas Memories SharedHnsw SubstratePhase HnswIndex Journal
variable {t : Memories} {R : NodeRef → NodeRef → Prop} {index : SharedHnsw}

namespace Memories

def isForgotten (t : Memories) (id : MemoryId) : Bool :=
  (t.memories.get id).any fun row => !row.flags.active

def owner (t : Memories) (id : MemoryId) : Option RowScope := (t.status id).map RowStatus.scope

lemma isForgotten_eq (t : Memories) (id : MemoryId) :
    t.isForgotten id = (t.status id).any fun st => !st.active := by
  unfold isForgotten status
  cases t.memories.get id <;> rfl

lemma isActive_eq_false_of_isForgotten {id : MemoryId} (h : t.isForgotten id = true) :
    t.isActive id = false := by
  rw [isForgotten_eq] at h
  rw [isActive_eq]
  cases hst : t.status id with
  | none => rfl
  | some st =>
    rw [hst] at h
    simpa using h

end Memories

def OneOwner (owner : MemoryId → Option RowScope) (a b : NodeRef) : Prop :=
  ∀ id id', a = .memory id → b = .memory id' → owner id = owner id' ∧ (owner id).isSome = true

variable {owner : MemoryId → Option RowScope} {w : Write SubstratePhase}
  {vectors : List (MemoryId × Embedding)} {loaded : Option HnswIndex}

lemma OneOwner.symm {a b : NodeRef} (h : OneOwner owner a b) : OneOwner owner b a := by
  intro id id' hb ha
  obtain ⟨heq, hsome⟩ := h id' id ha hb
  exact ⟨heq.symm, heq ▸ hsome⟩

lemma OneOwner.mono {owner' : MemoryId → Option RowScope} {a b : NodeRef}
    (hkeep : ∀ id, (owner id).isSome = true → owner' id = owner id) (h : OneOwner owner a b) :
    OneOwner owner' a b := by
  intro id id' ha hb
  obtain ⟨heq, hsome⟩ := h id id' ha hb
  rw [hkeep id hsome, hkeep id' (heq ▸ hsome)]
  exact ⟨heq, hsome⟩

lemma Edges.AllPairs.mono {R' : NodeRef → NodeRef → Prop} {t : Edges} (h : t.AllPairs R)
    (himp : ∀ a b, R a b → R' a b) : t.AllPairs R' :=
  ⟨fun k data hget => himp _ _ (h.1 k data hget), fun k data hget => himp _ _ (h.2 k data hget)⟩

def Hidden (t : Memories) (index : SharedHnsw) : Prop :=
  ∀ id, t.isForgotten id = true → index.isTombstoned id = true

def SubstratePhase.KeepsVectors : SubstratePhase → Prop
  | .memory (.updateEmbedding _ _) => False
  | _ => True

lemma Hidden.phase {t t' : Substrate} {caller : Caller} {phase : SubstratePhase}
    {ack : SubstrateAck} (h : Hidden t.memory index) (hphase : phase.KeepsVectors)
    (hdisp : t.dispatch caller phase = .ok (t', ack)) :
    Hidden t'.memory (phase.hnswEffect index) := by
  intro id hid
  rw [isForgotten_eq, Substrate.dispatch_status hdisp] at hid
  have hsame : (t.memory.status id).any (fun st => !st.active) = true →
      index.isTombstoned id = true := by
    rw [← isForgotten_eq]
    exact h id
  cases phase with
  | memory phase =>
    cases phase with
    | upsertMemory m =>
      simp only [onStatus, MemoryPhase.onStatus] at hid
      split at hid
      · cases hid
      next hne =>
        change (index.insert m.id m.vector).isTombstoned id = true
        rw [isTombstoned_insert, if_neg hne]
        exact hsame hid
    | tombstoneMemory i mode now =>
      change (index.markTombstoned i).isTombstoned id = true
      rw [isTombstoned_markTombstoned, Bool.or_eq_true, decide_eq_true_eq]
      simp only [onStatus, MemoryPhase.onStatus] at hid
      split at hid
      next heq => exact .inl heq
      · exact .inr (hsame hid)
    | restoreMemory i now =>
      simp only [onStatus, MemoryPhase.onStatus] at hid
      split at hid
      · refine hsame ?_
        cases hst : t.memory.status id with
        | none =>
          rw [hst] at hid
          cases hid
        | some st =>
          rw [hst] at hid
          unfold RowStatus.restored at hid
          simp only [map_some, any_some] at hid ⊢
          split at hid
          · exact hid
          · cases hid
      · exact hsame hid
    | updateEmbedding i v => exact hphase.elim
    | _ => exact hsame hid
  | link l => exact hsame hid
  | unlink key => exact hsame hid

lemma SharedHnsw.Coherent.phase (h : index.Coherent) (phase : SubstratePhase) :
    (phase.hnswEffect index).Coherent := by
  cases phase with
  | memory phase =>
    cases phase with
    | upsertMemory m => exact h.insert m.id m.vector
    | updateEmbedding i v => exact h.insert i v
    | tombstoneMemory i mode now => exact h.markTombstoned i
    | _ => exact h
  | link l => exact h
  | unlink key => exact h

def Write.ownerAfter (w : Write SubstratePhase) (t : Memories) (id : MemoryId) :
    Option RowScope :=
  if id ∈ w.upserted then some w.scope else t.owner id

section
variable {caller : Caller} {phases : List SubstratePhase} {t t' : Substrate}
  {acks : List SubstrateAck}

lemma hidden_applyPhases (hcoh : index.Coherent) (h : Hidden t.memory index)
    (hphases : ∀ phase ∈ phases, phase.KeepsVectors)
    (happ : applyPhases substrateEngine caller phases t = .ok (t', acks)) :
    (phases.foldl hnswEffect index).Coherent ∧
      Hidden t'.memory (phases.foldl hnswEffect index) := by
  induction phases generalizing t index acks with
  | nil =>
    cases happ
    exact ⟨hcoh, h⟩
  | cons phase phases ih =>
    obtain ⟨mid, ack, rest, hdisp, hrest⟩ := applyPhases_cons happ
    have hone := h.phase (hphases phase mem_cons_self) hdisp
    exact ih (hcoh.phase phase) hone (fun ph hph => hphases ph (mem_cons_of_mem phase hph)) hrest

lemma owner_applyPhases (id : MemoryId)
    (happ : applyPhases substrateEngine caller phases t = .ok (t', acks)) :
    t'.memory.owner id = if id ∈ phases.filterMap upserted? then some caller.scope
      else t.memory.owner id := by
  have hstatus := (substrateEngine_observes_status id).applyPhases happ
  unfold owner
  rw [hstatus]
  exact foldl_onStatus_owner caller phases id _

lemma edges_applyPhases {I : Edges → Prop}
    (hlink : ∀ l, .link l ∈ phases → ∀ t, I t → I (t.link l.key l.data))
    (hunlink : ∀ t k, I t → I (t.unlink k).1) (h : I t.edges)
    (happ : applyPhases substrateEngine caller phases t = .ok (t', acks)) : I t'.edges := by
  induction phases generalizing t acks with
  | nil =>
    cases happ
    exact h
  | cons phase phases ih =>
    obtain ⟨mid, ack, rest, hdisp, hrest⟩ := applyPhases_cons happ
    refine ih (fun l hl => hlink l (mem_cons_of_mem phase hl)) ?_ hrest
    cases phase with
    | memory phase =>
      obtain ⟨⟨u, a⟩, _, heq⟩ := map_ok hdisp
      cases heq
      exact h
    | link l =>
      cases hdisp
      unfold Substrate.applyLink
      simp only
      split
      · exact hlink l mem_cons_self _ h
      · exact h
    | unlink key =>
      cases hdisp
      exact hunlink _ key h
end

lemma Write.link_of_mem_walBatch {source target : NodeRef} {kind : EdgeKindRef} {weight : UInt32}
    {origin : Nat}
    (h : .record (.link source target kind weight origin) ∈ w.walBatch substrateEngine) :
    ∃ l, .link l ∈ w.phases ∧ l.source = source ∧ l.target = target := by
  obtain ⟨phase, hphase, hpay⟩ := Write.mem_walBatch.mp h
  cases phase with
  | memory phase =>
    obtain ⟨q, _, hq⟩ := map_eq_some_iff.mp hpay
    cases hq
  | link l =>
    cases hpay
    exact ⟨l, hphase, rfl, rfl⟩
  | unlink key => cases hpay

lemma SharedHnsw.Coherent.flushOrKeep {s : SharedHnsw}
    {build : List PendingEntry → Except HnswError HnswIndex} (h : s.Coherent)
    (hbuild : ∀ idx, build s.pending = .ok idx → idx.tombstones = ∅) :
    (s.flushOrKeep build).Coherent := by
  unfold SharedHnsw.flushOrKeep
  split
  next hok => exact h.flushWithRebuild hbuild hok
  · exact h

lemma bootIndex_coherent (h : ∀ idx, loaded = some idx → idx.tombstones = ∅) :
    (bootIndex t vectors loaded).Coherent := by
  have hfresh : (fromIndex empty).Coherent := .fromIndex rfl
  unfold bootIndex
  split
  next idx =>
    refine List.foldlRecOn (motive := Coherent) _ _ ?_ ?_
    · refine List.foldlRecOn (motive := Coherent) _ _ (.swap (h idx rfl)) ?_
      intro s hs n _
      split
      · exact hs
      · exact hs.insert n.1 n.2
    · intro s hs id _
      split
      · exact hs.markTombstoned id
      · exact hs
  · split
    · exact hfresh
    · exact hfresh.flushOrKeep fun _ hidx => rebuild_tombstones hidx

lemma bootIndex_hidden (h : ∀ idx, loaded = some idx → idx.tombstones = ∅)
    (hids : ∀ id, t.isForgotten id = true → (loaded.any fun idx => idx.contains id) = true) :
    Hidden t (bootIndex t vectors loaded) := by
  intro id hid
  have hloaded := hids id hid
  cases loaded with
  | none => cases hloaded
  | some idx =>
    have hmem := contains_iff.mp hloaded
    obtain ⟨hmain, _⟩ := tailReplay_frame ((fromIndex empty).swap idx) vectors rfl
    refine (reconcileForgotten_spec t _ ?_ id).2.mpr
      (.inr ⟨hmem, isActive_eq_false_of_isForgotten hid⟩)
    rw [hmain]
    exact h idx rfl

namespace Server
variable {hashOf : String → Digest}

def planContext (s : Server) (caller : RowScope) : PlanContext :=
  ⟨s.memory, s.shard.db.tables.edges, s.shard.index, caller⟩

/-- The steps of an accepted history in which every link joins two memories of one owner, no rebuild
meets a forgotten memory in the pending tier, and a restart loads a snapshot with every forgotten
memory in it. -/
def QuietStep (s : Server) : ServerStep → Prop
  | .reserve => s.AcceptedStep .reserve
  | .submit now w => s.AcceptedStep (.submit now w) ∧ (∀ phase ∈ w.phases, phase.KeepsVectors) ∧
      ∀ l, .link l ∈ w.phases → OneOwner (w.ownerAfter s.memory) l.source l.target
  | .rebuild => ∀ e ∈ s.shard.index.pending, s.memory.isForgotten e.memoryId = false
  | .checkpoint _ => True
  | .restart loads => ∀ id, s.memory.isForgotten id = true →
      ((s.loaded loads).any fun idx => idx.contains id) = true

structure Quiet (s : Server) : Prop where
  sound : s.Sound
  coherent : s.shard.index.Coherent
  hidden : Hidden s.memory s.shard.index
  edges : s.shard.db.tables.edges.AllPairs (OneOwner s.memory.owner)
  links : ∀ e ∈ s.shard.log.entries, ∀ source target kind weight origin,
    e.payload = .record (.link source target kind weight origin) →
      OneOwner s.memory.owner source target

namespace Quiet
variable {s : Server}

lemma fresh (shardId : Nat) : (Server.fresh shardId).Quiet where
  sound := Sound.fresh shardId
  coherent := .fromIndex rfl
  hidden id h := by cases h
  edges := Edges.AllPairs.empty
  links e he := by cases he

lemma owner_reserved (h : s.Sound) {id : MemoryId} (hid : id ∈ s.reserved) :
    s.memory.owner id = none := by
  have hnot : ¬Encoded (history s.shard.log.entries) id := by
    rintro ⟨p, hp, henc⟩
    exact (h.ledger.reserved_mem id hid).2 p hp (MemoryPayload.slot?_of_encodes henc)
  rw [← foldl_onStatus_isSome, ← h.ledger.status, Bool.not_eq_true, isSome_eq_false_iff,
    isNone_iff_eq_none] at hnot
  rw [owner, hnot]
  rfl

lemma submit (h : s.Quiet) {now : Nanos} (hstep : s.QuietStep (.submit now w)) :
    (s.submit now w).Quiet := by
  obtain ⟨haccepted, hvectors, hlinks⟩ := hstep
  have hsnd := h.sound.submit haccepted
  obtain ⟨⟨ack, hack⟩, _, hup⟩ := haccepted
  have hcase := submit_cases substrateEngine now w s.shard
  unfold Server.submit at hsnd ⊢
  generalize BrainDb.submit substrateEngine now w s.shard = out at hack hcase hsnd ⊢
  obtain ⟨result, s'⟩ := out
  subst hack
  cases hcase with
  | hit _ hs =>
    subst hs
    exact { h with sound := hsnd }
  | committed _ happ ht hlog hindex =>
    obtain ⟨hcoh, hhidden⟩ := hidden_applyPhases h.coherent h.hidden hvectors happ
    have howner : ∀ id, s'.db.tables.memory.owner id = w.ownerAfter s.memory id := by
      intro id
      rw [ht]
      exact owner_applyPhases id happ
    have hkeep : ∀ id, (s.memory.owner id).isSome = true →
        s'.db.tables.memory.owner id = s.memory.owner id := by
      intro id hsome
      rw [howner, Write.ownerAfter, if_neg]
      intro hmem
      rw [owner_reserved h.sound (hup id hmem)] at hsome
      cases hsome
    have hjoin : ∀ l, .link l ∈ w.phases →
        OneOwner s'.db.tables.memory.owner l.source l.target := by
      rw [show s'.db.tables.memory.owner = w.ownerAfter s.memory from funext howner]
      exact hlinks
    refine ⟨hsnd, ?_, ?_, ?_, ?_⟩
    · rw [hindex]
      exact hcoh
    · change Hidden s'.db.tables.memory s'.index
      rw [hindex, ht]
      exact hhidden
    · have hold := h.edges.mono fun a b hab => hab.mono hkeep
      have hnew := edges_applyPhases (fun l hl _ ht => ht.link (hjoin l hl) (hjoin l hl).symm l.data)
        (fun _ k ht => ht.unlink k) hold happ
      rw [← ht] at hnew
      exact hnew
    · intro e he source target kind weight origin hpay
      rw [hlog] at he
      rcases mem_append.mp he with hold | hnew
      · exact (h.links e hold source target kind weight origin hpay).mono hkeep
      · have hmem := List.mem_map_of_mem (f := Entry.payload) hnew
        rw [map_payload_stamp, hpay] at hmem
        obtain ⟨l, hl, rfl, rfl⟩ := Write.link_of_mem_walBatch hmem
        exact hjoin l hl

lemma rebuild (h : s.Quiet) (hstep : s.QuietStep .rebuild) : s.rebuild.Quiet := by
  refine ⟨h.sound.rebuild, ?_, ?_, h.edges, h.links⟩
  · exact h.coherent.flushOrKeep fun _ hidx => rebuild_tombstones hidx
  · intro id hid
    have hoverlay := (isTombstoned_iff h.coherent.main).mp (h.hidden id hid)
    change (s.shard.index.flushOrKeep _).isTombstoned id = true
    unfold flushOrKeep
    split
    next hok =>
      obtain ⟨idx, hidx, rfl⟩ := map_ok hok
      refine (isTombstoned_iff (rebuild_tombstones hidx)).mpr ?_
      refine Finset.mem_filter.mpr ⟨hoverlay, fun e he _ heq => ?_⟩
      have hlive := hstep e he
      rw [heq] at hlive
      exact absurd (hid.symm.trans hlive) (by simp)
    · exact h.hidden id hid

lemma checkpoint (h : s.Quiet) (now : Nanos) : (s.checkpoint now).Quiet := by
  refine ⟨h.sound.checkpoint now, h.coherent, h.hidden, h.edges, ?_⟩
  intro e he source target kind weight origin hpay
  simp only [Server.checkpoint, append, stamp, append_assoc] at he
  rcases mem_append.mp he with hold | hnew
  · exact h.links e hold source target kind weight origin hpay
  · rcases mem_append.mp hnew with hbegin | hend
    · rw [mem_singleton.mp hbegin] at hpay
      cases hpay
    · rw [mem_singleton.mp hend] at hpay
      cases hpay

lemma recoverEntry_edges {I : Edges → Prop} {r : Server} {e : SubstrateEntry}
    (hlink : ∀ source target kind weight origin,
      e.payload = .record (.link source target kind weight origin) → ∀ t data, I t →
        I (t.link ⟨source, kind, target, zeroDisambiguator⟩ data))
    (hunlink : ∀ t k, I t → I (t.unlink k).1) (h : I r.shard.db.tables.edges) :
    I (r.recoverEntry hashOf e).shard.db.tables.edges := by
  simp only [recoverEntry, SubstrateDb.replayEntry, Db.replayEntry]
  cases hpay : e.payload with
  | record p =>
    cases p with
    | memory p => exact h
    | link source target kind weight origin => exact hlink _ _ _ _ _ hpay _ _ h
    | unlink source target kind => exact hunlink _ _ h
  | _ => exact h

lemma restart (h : s.Quiet) {loads : Bool} (hstep : s.QuietStep (.restart loads)) :
    (s.restart hashOf loads).Quiet := by
  have hstatus := h.sound.recover_status hashOf
  have howner : (s.recover hashOf).memory.owner = s.memory.owner := by
    funext id
    rw [owner, hstatus, owner]
  have hloaded : ∀ idx, s.loaded loads = some idx → idx.tombstones = ∅ := by
    intro idx hidx
    unfold loaded at hidx
    split at hidx
    · exact h.sound.snapshot idx hidx
    · cases hidx
  have hlog := (foldl_recoverEntry_frame hashOf (s.shard.log.above s.durableLsn) s).2.1
  refine ⟨h.sound.restart hashOf loads, bootIndex_coherent hloaded, ?_, ?_, ?_⟩
  · refine bootIndex_hidden hloaded fun id hid => hstep id ?_
    change (s.recover hashOf).memory.isForgotten id = true at hid
    rw [isForgotten_eq, hstatus, ← isForgotten_eq] at hid
    exact hid
  · change (s.recover hashOf).shard.db.tables.edges.AllPairs
      (OneOwner (s.recover hashOf).memory.owner)
    rw [howner]
    refine List.foldlRecOn (motive := fun r : Server => r.shard.db.tables.edges.AllPairs
      (OneOwner s.memory.owner)) _ _ h.edges ?_
    intro r hr e he
    refine recoverEntry_edges (fun source target kind weight origin hpay t data ht => ?_)
      (fun _ k ht => ht.unlink k) hr
    have hpair := h.links e (mem_of_mem_above he).1 _ _ _ _ _ hpay
    exact ht.link hpair hpair.symm data
  · change ∀ e ∈ (s.recover hashOf).shard.log.entries, ∀ source target kind weight origin, _ →
      OneOwner (s.recover hashOf).memory.owner source target
    rw [howner, show (s.recover hashOf).shard.log = s.shard.log from hlog]
    exact h.links

lemma step (h : s.Quiet) {st : ServerStep} (hstep : s.QuietStep st) : (s.step hashOf st).Quiet := by
  cases st with
  | reserve => exact { h with sound := h.sound.reserve hstep }
  | submit now w => exact h.submit hstep
  | rebuild => exact h.rebuild hstep
  | checkpoint now => exact h.checkpoint now
  | restart loads => exact h.restart hstep

lemma of_reachable (h : Reachable hashOf QuietStep s) : s.Quiet :=
  h.invariant Quiet.fresh fun _ _ hstep hs => hs.step hstep

def Visible (t : Memories) (caller : RowScope) (id : MemoryId) : Prop :=
  ∃ row, t.memories.get id = some row ∧ row.flags.active = true ∧ row.scope = caller

variable {caller : RowScope}

lemma visible_of_live (h : s.Quiet) {id : MemoryId} (howner : s.memory.owner id = some caller)
    (hlive : s.shard.index.isTombstoned id = false) : Visible s.memory caller id := by
  unfold owner status at howner
  rw [Option.map_map] at howner
  obtain ⟨row, hrow, hsc⟩ := map_eq_some_iff.mp howner
  refine ⟨row, hrow, ?_, hsc⟩
  by_contra hinact
  have hforg : s.memory.isForgotten id = true := by
    rw [isForgotten, hrow]
    simpa using hinact
  rw [h.hidden id hforg] at hlive
  cases hlive

lemma owner_of_visible {id : MemoryId} (h : Visible t caller id) : t.owner id = some caller := by
  obtain ⟨row, hrow, _, hsc⟩ := h
  rw [owner, status, hrow]
  exact congrArg some hsc

lemma resolveEndpoint_visible (h : s.Quiet) {lib : PlanLib} {state : PlanState}
    {hits : List (MemoryId × Score)}
    (hres : (s.planContext caller).resolveEndpoint lib state = .ok hits) :
    ∀ hit ∈ hits, Visible s.memory caller hit.1 := by
  have hsc : ∀ id, (s.planContext caller).memoryInCallerScope id = true →
      s.memory.owner id = some caller := by
    intro id hid
    obtain ⟨row, hrow, heq⟩ := Option.any_eq_true _ _ |>.mp hid
    change s.memory.memories.get id = some row at hrow
    rw [owner, status, hrow]
    exact congrArg some (of_decide_eq_true heq)
  intro hit hhit
  cases state with
  | byMemoryId id =>
    unfold PlanContext.resolveEndpoint at hres
    simp only at hres
    split at hres
    · cases hres
      cases hhit
    next hlive =>
      split at hres
      · cases hres
        cases hhit
      next hin =>
        cases hres
        rw [mem_singleton.mp hhit]
        exact h.visible_of_live (hsc id (by simpa using hin)) (Bool.not_eq_true _ |>.mp hlive)
  | byText text =>
    unfold PlanContext.resolveEndpoint at hres
    simp only at hres
    split at hres
    · cases hres
    next vector _ =>
      cases hres
      obtain ⟨hmem, hin⟩ := mem_filter.mp hhit
      exact h.visible_of_live (hsc hit.1 hin) (h.coherent.isTombstoned_of_mem_searchActive hmem)
  | byVector => cases hres

end Quiet

/-- In every state of a history whose steps are all quiet, every node of every path that PLAN
returns is an active memory of the caller. -/
theorem plan_shows_active_memories {s : Server} (h : Reachable hashOf QuietStep s)
    (lib : PlanLib) (caller : RowScope) (plan : PathPlan) (trace : Bool) (expired : Nat → Bool)
    (turns : Nat) (paths : List Path) (status : TwoSided.Status)
    (hplan : (s.planContext caller).executePath lib plan trace expired turns =
      some (.ok (paths, status))) :
    ∀ p ∈ paths, ∀ id ∈ p.nodes, Quiet.Visible s.memory caller id := by
  have hs := Quiet.of_reachable h
  refine PlanContext.executePath_nodes (fun _ _ => hs.resolveEndpoint_visible) ?_ hplan
  refine hs.edges.mono fun a b hab id id' ha hb hid hlive => ?_
  obtain ⟨heq, _⟩ := hab id id' ha hb
  exact hs.visible_of_live (heq ▸ Quiet.owner_of_visible hid) hlive

def plainLib : PlanLib where
  vectors :=
    { walk := fun _ _ _ _ => [], dot := fun _ _ => 0, sortDesc := id, mem_sortDesc := Iff.rfl }
  efFactor := 1
  embedQuery := fun _ => none
  ge := fun a b => b ≤ a
  one := 0x3F800000
  hashOrder := id
  byAlignment := id
  byScore := id
  mem_hashOrder := Iff.rfl
  mem_byAlignment := Iff.rfl
  mem_byScore := Iff.rfl

def planBetween (start goal : MemoryId) : PathPlan :=
  { start := .byMemoryId start, goal := .byMemoryId goal, edgeKinds := [.caused, .followedBy]
    maxDepth := 3, maxPaths := 8, maxBranchesExplored := 8, topN := 10 }

def secondId : MemoryId := MemoryId.pack 0 2 1

def encodeSecond : ServerStep :=
  .submit 4 (plainWrite 4 (.memory (.upsertMemory { firstMemory with id := secondId, arenaSlot := 2 })))

def linkBoth : ServerStep :=
  .submit 5 (plainWrite 5 (.link ⟨.memory firstId, .memory secondId, .builtin .caused, 0, 0, 0, 0, 5⟩))

def linkedShard : Server := run (fun _ => 0) encodedShard [.reserve, encodeSecond, linkBoth]

def rebuiltShard : Server := run (fun _ => 0) encodedShard [forgetFirst, .rebuild]

lemma quietStep_encode {s : Server} {now : Nanos} {writeId : WriteId} {m : UpsertMemory}
    (h : s.AcceptedStep (.submit now (plainWrite writeId (.memory (.upsertMemory m))))) :
    s.QuietStep (.submit now (plainWrite writeId (.memory (.upsertMemory m)))) := by
  refine ⟨h, ?_, ?_⟩
  · intro phase hphase
    rw [mem_singleton.mp hphase]
    exact trivial
  · intro l hl
    cases mem_singleton.mp hl

lemma linkedShard_reachable : Reachable (fun _ => 0) QuietStep linkedShard := by
  have hreserve : Reachable (fun _ => 0) QuietStep (step (fun _ => 0) (fresh 0) .reserve) :=
    .step (.fresh 0) (show 1 < 2 ^ 48 by decide)
  have hencoded : Reachable (fun _ => 0) QuietStep encodedShard :=
    .step hreserve (quietStep_encode ⟨⟨_, rfl⟩, by decide, by decide⟩)
  have hreserve' : Reachable (fun _ => 0) QuietStep (step (fun _ => 0) encodedShard .reserve) :=
    .step hencoded (show 2 < 2 ^ 48 by decide)
  have hboth : Reachable (fun _ => 0) QuietStep
      (run (fun _ => 0) encodedShard [.reserve, encodeSecond]) :=
    .step hreserve' (quietStep_encode ⟨⟨_, rfl⟩, by decide, by decide⟩)
  have hlink : QuietStep (run (fun _ => 0) encodedShard [.reserve, encodeSecond]) linkBoth := by
    refine ⟨⟨⟨_, rfl⟩, by decide, by decide⟩, ?_, ?_⟩
    · intro phase hphase
      rw [mem_singleton.mp hphase]
      exact trivial
    · intro l hl
      cases mem_singleton.mp hl
      intro id id' ha hb
      cases ha
      cases hb
      exact ⟨rfl, rfl⟩
  exact .step hboth hlink

theorem linked_memories_shown :
    ∃ paths status, (linkedShard.planContext ⟨1, 1⟩).executePath plainLib
        (planBetween firstId secondId) false (fun _ => false) 10 = some (.ok (paths, status)) ∧
      paths.map Path.nodes = [[firstId, secondId]] ∧
      ∀ p ∈ paths, ∀ id ∈ p.nodes, Quiet.Visible linkedShard.memory ⟨1, 1⟩ id := by
  refine ⟨_, _, rfl, rfl, ?_⟩
  exact plan_shows_active_memories linkedShard_reachable plainLib ⟨1, 1⟩
    (planBetween firstId secondId) false (fun _ => false) 10 _ _ rfl

/-- The row says that the memory is forgotten, the index does not. -/
theorem forgotten_memory_shown : Reachable (fun _ => 0) AcceptedStep rebuiltShard ∧
      rebuiltShard.memory.isForgotten firstId = true ∧
      ∃ paths, (rebuiltShard.planContext ⟨1, 1⟩).executePath plainLib (planBetween firstId firstId)
          false (fun _ => false) 10 = some (.ok (paths, .goalReached)) ∧
        paths.map Path.nodes = [[firstId]] := by
  refine ⟨?_, rfl, _, (by rfl), (by rfl)⟩
  exact .step forgotten_reachable (show AcceptedStep _ .rebuild from trivial)

end Server
end BrainDb
