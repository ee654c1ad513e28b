import BrainDb.Handlers.HardForget

namespace BrainDb
open List Table Memories Write MemoryPhase OpsState

structure AdminConfig where
  namespaceLookup : String → Option NamespaceId
  graceNanos : Nat

inductive AdminRestoreOutcome where
  | notFound
  | restored
  | alreadyActive
  | hardForgotten
  | pastGrace

def isPastGrace (tombstonedAt : Option Nanos) (graceNanos : Nat) (now : Nanos) : Bool :=
  match tombstonedAt with
  | none => true
  | some forgotAt => saturatingAdd u64Max forgotAt graceNanos < now

def Write.singleIn (writeId : WriteId) (scope : RowScope) (phase : MemoryPhase) :
    Write MemoryPhase :=
  { single writeId scope.spaceId phase with scope }

def handleAdminRestore (cfg : AdminConfig) (writeId : WriteId) (now : Nanos)
    (memoryId : MemoryId) (namespaceName : String) (s : MemoryShard) :
    Except OpError AdminRestoreOutcome × MemoryShard :=
  match cfg.namespaceLookup namespaceName, s.db.tables.memories.get memoryId with
  | some namespaceId, some row =>
    if row.scope.namespaceId ≠ namespaceId then (.ok .notFound, s)
    else if row.flags.hardForgotten then (.ok .hardForgotten, s)
    else if row.flags.active then (.ok .alreadyActive, s)
    else if isPastGrace row.tombstonedAt cfg.graceNanos now then (.ok .pastGrace, s)
    else
      match submit memoryEngine now
          (singleIn writeId ⟨namespaceId, row.scope.spaceId⟩ (.restoreMemory memoryId now)) s with
      | (.error e, s) => (.error e.toOpError, s)
      | (.ok ack, s) =>
        match ack.phaseAcks with
        | [.memoryRestored _ true] => (.ok .alreadyActive, s)
        | [.memoryRestored _ false] => (.ok .restored, s)
        | _ => (.error (.internal "restore returned unexpected phase ack"), s)
  | _, _ => (.ok .notFound, s)

variable (scope : RowScope)

def Memories.timelineIds (sessionFilter : Option SessionId) (t : Memories) :
    List MemoryId :=
  (t.timeline.scan fun k => k.scope = scope ∧ ∀ want ∈ sessionFilter, k.sessionId = want).map
    fun e => e.1.memoryId

def submitEach (now : Nanos) : List (Write MemoryPhase) → MemoryShard →
    Except OpError Unit × MemoryShard
  | [], s => (.ok (), s)
  | w :: ws, s =>
    match submit memoryEngine now w s with
    | (.error e, s) => (.error e.toOpError, s)
    | (.ok _, s) => submitEach now ws s

def cascadeWrites (ctx : OpsContext) (newId : Nat → WriteId) (now : Nanos)
    (mode : TombstoneMode) (ids : List MemoryId) : List (Write MemoryPhase) :=
  ids.zipIdx.map fun e =>
    singleIn (newId e.2) ctx.caller.scope (.tombstoneMemory e.1 mode now)

def tombstoneSpaceMemories (ctx : OpsContext) (newId : Nat → WriteId) (now : Nanos)
    (hard : Bool) (sessionFilter : Option SessionId) (s : MemoryShard) :
    Except OpError Nat × MemoryShard :=
  let ids := s.db.tables.timelineIds ctx.caller.scope sessionFilter
  match submitEach now (cascadeWrites ctx newId now (if hard then .hard else .soft) ids) s with
  | (.error e, s) => (.error e, s)
  | (.ok (), s) => (.ok ids.length, s)

def registryWrite (hashes : RequestHashes) (ctx : OpsContext) (requestId : RequestId)
    (phase : MemoryPhase) (domain : String) : Write MemoryPhase :=
  { singleIn (hashes.writeId requestId ctx.caller.scope.spaceId) ctx.caller.scope phase with
    requestHash := some (hashes.registry domain requestId ctx.caller.scope.spaceId) }

def submitRegistry (now : Nanos) (w : Write MemoryPhase) (s : MemoryShard) :
    Except OpError MemoryAck × MemoryShard :=
  match submit memoryEngine now w s with
  | (.error e, s) => (.error e.toOpError, s)
  | (.ok ack, s) =>
    match ack.phaseAcks with
    | [a] => (.ok a, s)
    | _ => (.error (.internal "invariant: caller expected exactly one phase ack"), s)

structure SpaceDeleteResponse where
  space : String
  existed : Bool
  memoriesForgotten : Nat

section
variable (hashes : RequestHashes) (newId : Nat → WriteId) (ctx : OpsContext) (now : Nanos)

def handleSpaceDelete (requestId : RequestId) (s : MemoryShard) :
    Except OpError SpaceDeleteResponse × MemoryShard :=
  match tombstoneSpaceMemories ctx newId now true none s with
  | (.error e, s) => (.error e, s)
  | (.ok memoriesForgotten, s) =>
    match submitRegistry now (registryWrite hashes ctx requestId (.spaceDelete now)
        "space_delete") s with
    | (.error e, s) => (.error e, s)
    | (.ok ack, s) => (.ok ⟨ctx.caller.spaceString, ack = .spaceDeleted true, memoriesForgotten⟩, s)
end

structure FreshIds (newId : Nat → WriteId) (s : MemoryShard) : Prop where
  injective : newId.Injective
  unused : ∀ n, s.UnusedId (newId n)

variable {s : MemoryShard} {now : Nanos} {cfg : AdminConfig}

section
variable {s' : MemoryShard}

lemma submitEach_cell {ws : List (Write MemoryPhase)}
    (hids : ws.Pairwise fun v w => w.writeId ≠ v.writeId) (hunused : ∀ w ∈ ws, s.UnusedId w.writeId)
    (h : submitEach now ws s = (.ok (), s')) (id : MemoryId) : s'.db.tables.cell id =
      ws.foldl (fun c w => w.phases.foldl (onCell w.toCaller id) c) (s.db.tables.cell id) := by
  induction ws generalizing s with
  | nil =>
    cases h
    rfl
  | cons w ws ih =>
    obtain ⟨hw, hws⟩ := pairwise_cons.mp hids
    unfold submitEach at h
    split at h
    · cases h
    next ack mid hsub =>
      have hmid : ∀ v ∈ ws, mid.UnusedId v.writeId := by
        intro v hv
        have hkeep := submit_unusedId memoryEngine now (hw v hv) (hunused v (mem_cons_of_mem w hv))
        rwa [hsub] at hkeep
      have hmiss := (hunused w mem_cons_self).lookup_miss now w.requestHash
      rw [ih hws hmid h, foldl_cons, (memoryEngine_observes id).submit_ok hmiss hsub]

lemma cascadeWrites_foldl (ctx : OpsContext) (newId : Nat → WriteId) (mode : TombstoneMode)
    (ids : List MemoryId) (id : MemoryId) (c : Cell) : (cascadeWrites ctx newId now mode ids).foldl
        (fun c w => w.phases.foldl (onCell w.toCaller id) c) c =
      ids.foldl (fun c i => if id = i then c.tombstone mode now else c) c := by
  have hfst : ids = ids.zipIdx.map Prod.fst := by rw [zipIdx_map_fst]
  conv_rhs => rw [hfst]
  rw [cascadeWrites, foldl_map, foldl_map]
  rfl

variable {newId : Nat → WriteId}

lemma tombstoneSpaceMemories_cell {ctx : OpsContext} {hard : Bool}
    {sessionFilter : Option SessionId} {n : Nat} (hnew : FreshIds newId s)
    (h : tombstoneSpaceMemories ctx newId now hard sessionFilter s = (.ok n, s')) (id : MemoryId) :
    s'.db.tables.cell id = (s.db.tables.timelineIds ctx.caller.scope sessionFilter).foldl
        (fun c i => if id = i then c.tombstone (if hard then .hard else .soft) now else c)
        (s.db.tables.cell id) := by
  unfold tombstoneSpaceMemories at h
  simp only at h
  split at h
  · cases h
  next hall =>
    cases h
    rw [submitEach_cell _ _ hall, cascadeWrites_foldl]
    · refine pairwise_map.mpr ?_
      have hnd : (List.map Prod.snd
          (s.db.tables.timelineIds ctx.caller.scope sessionFilter).zipIdx).Nodup := by
        rw [zipIdx_map_snd]
        exact nodup_range'
      exact (pairwise_map.mp hnd).imp fun hne heq => hne (hnew.injective heq.symm)
    · intro w hw
      obtain ⟨e, -, rfl⟩ := List.mem_map.mp hw
      exact hnew.unused e.2

lemma submitRegistry_cell (id : MemoryId) {w : Write MemoryPhase}
    (hphases : ∀ phase ∈ w.phases, ∀ c, phase.onCell w.toCaller id c = c) (now : Nanos)
    (s : MemoryShard) : (submitRegistry now w s).2.db.tables.cell id = s.db.tables.cell id := by
  have hsub := (memoryEngine_observes id).submit_of_phases hphases now s
  unfold submitRegistry
  split
  next heq => rwa [heq] at hsub
  next heq =>
    rw [heq] at hsub
    split
    · exact hsub
    · exact hsub

lemma handleSpaceDelete_cell {hashes : RequestHashes} {ctx : OpsContext} {requestId : RequestId}
    {resp : SpaceDeleteResponse} (hnew : FreshIds newId s)
    (h : handleSpaceDelete hashes newId ctx now requestId s = (.ok resp, s')) (id : MemoryId) :
    s'.db.tables.cell id = (s.db.tables.timelineIds ctx.caller.scope none).foldl
        (fun c i => if id = i then c.tombstone .hard now else c) (s.db.tables.cell id) := by
  unfold handleSpaceDelete at h
  split at h
  · cases h
  next n mid hcascade =>
    split at h
    · cases h
    next ack last heq =>
      cases h
      have hreg := submitRegistry_cell id
        (w := registryWrite hashes ctx requestId (.spaceDelete now) "space_delete") (by
          intro phase hph c
          rw [mem_singleton.mp hph]
          rfl) now mid
      rw [heq] at hreg
      exact hreg.trans (tombstoneSpaceMemories_cell hnew hcascade id)
end

section

def MemoryRow.Restorable (cfg : AdminConfig) (now : Nanos) (row : MemoryRow) : Prop :=
  row.flags.hardForgotten = false ∧ isPastGrace row.tombstonedAt cfg.graceNanos now = false ∧
    ∃ name, cfg.namespaceLookup name = some row.scope.namespaceId

lemma MemoryRow.Restorable.earlier {now' : Nanos} {row : MemoryRow} (hle : now ≤ now')
    (h : row.Restorable cfg now') : row.Restorable cfg now := by
  obtain ⟨hhard, hgrace, hname⟩ := h
  refine ⟨hhard, ?_, hname⟩
  cases htime : row.tombstonedAt with
  | none => simp [isPastGrace, htime] at hgrace
  | some forgotAt =>
    simp only [isPastGrace, htime, decide_eq_false_iff_not, not_lt] at hgrace ⊢
    exact hle.trans hgrace

lemma handleAdminRestore_cell (cfg : AdminConfig) (now : Nanos) (writeId : WriteId)
    (memoryId : MemoryId) (name : String)
    (s : MemoryShard) (id : MemoryId) :
    (handleAdminRestore cfg writeId now memoryId name s).2.db.tables.cell id = s.db.tables.cell id ∨
      id = memoryId ∧ ∃ row, s.db.tables.memories.get id = some row ∧ row.Restorable cfg now := by
  unfold handleAdminRestore
  split
  next namespaceId row hname hrow =>
    split
    · exact .inl rfl
    next hns =>
      split
      · exact .inl rfl
      next hhard =>
        split
        · exact .inl rfl
        · split
          · exact .inl rfl
          next hgrace =>
            by_cases hid : id = memoryId
            · refine .inr ⟨hid, row, hid ▸ hrow, by simpa using hhard, by simpa using hgrace, name, ?_⟩
              rw [hname, not_not.mp hns]
            · left
              have hcell := (memoryEngine_observes id).submit_of_phases (w := singleIn writeId
                ⟨namespaceId, row.scope.spaceId⟩ (.restoreMemory memoryId now)) (by
                  intro phase hph c
                  rw [mem_singleton.mp hph]
                  simp [onCell, hid]) now s
              generalize submit memoryEngine now (singleIn writeId
                ⟨namespaceId, row.scope.spaceId⟩ (.restoreMemory memoryId now)) s = out at hcell ⊢
              obtain ⟨result, s'⟩ := out
              cases result with
              | error e => exact hcell
              | ok ack =>
                simp only
                split
                · exact hcell
                · exact hcell
                · exact hcell
  · exact .inl rfl

lemma handleAdminRestore_activates {id : MemoryId} {row : MemoryRow} {writeId : WriteId}
    {name : String} (hrow : s.db.tables.memories.get id = some row)
    (hact : row.flags.active = false) (hhard : row.flags.hardForgotten = false)
    (hgrace : isPastGrace row.tombstonedAt cfg.graceNanos now = false)
    (hname : cfg.namespaceLookup name = some row.scope.namespaceId) (hunused : s.UnusedId writeId) :
    (handleAdminRestore cfg writeId now id name s).2.db.tables.memories.get id =
      some row.reactivated := by
  have happ : applyPhases memoryEngine ⟨row.scope, ""⟩ [.restoreMemory id now] s.db.tables =
      .ok (s.db.tables.reactivateRow id row.createdAt row, [.memoryRestored id false]) := by
    simp [applyPhases, memoryEngine, dispatch, applyRestoreMemory, hrow, hhard, hact, Except.map]
  obtain ⟨s', hsub, htables⟩ := submit_commits
    (w := singleIn writeId row.scope (.restoreMemory id now)) (hunused.lookup_miss now none) happ
  simp only [handleAdminRestore, hname, hrow, hhard, hact, hgrace, hsub, submitAck]
  simp [htables, reactivateRow]

lemma handleForgetDirect_cell (hashes : RequestHashes) (ctx : OpsContext) (now : Nanos)
    (req : ForgetRequest) (s : MemoryShard) (id : MemoryId) :
    (handleForgetDirect hashes ctx now req s).2.db.tables.cell id = s.db.tables.cell id ∨
      ∃ row, s.db.tables.memories.get id = some row ∧ row.flags.active = true := by
  unfold handleForgetDirect
  split
  · exact .inl rfl
  · simp only
    rcases s.lookupWithHash_state now (forgetWrite hashes ctx now req).writeId
      (forgetWrite hashes ctx now req).requestHash with ⟨ack, hot, h⟩ | h | h
    · rw [h]
      exact .inl rfl
    · rw [h]
      exact .inl rfl
    · simp only [h]
      split
      next hpeek =>
        by_cases hid : id = req.memoryId
        · right
          unfold peekForgetOutcome at hpeek
          split at hpeek
          · cases hpeek
          next row hrow =>
            split at hpeek
            · cases hpeek
            · split at hpeek
              next hact => exact ⟨row, hid ▸ hrow, hact⟩
              · cases hpeek
        · left
          have hcell := (memoryEngine_observes id).submit_of_phases
            (w := forgetWrite hashes ctx now req) (by
            intro phase hph c
            rw [mem_singleton.mp hph]
            simp [onCell, hid]) now s
          generalize submit memoryEngine now (forgetWrite hashes ctx now req) s = out at hcell ⊢
          obtain ⟨result, s'⟩ := out
          cases result with
          | error e => exact hcell
          | ok ack => exact hcell
      · exact .inl rfl

lemma handleForget_cell (hashes : RequestHashes) (ctx : OpsContext) (now : Nanos)
    (req : ForgetRequest) (s : OpsState) (id : MemoryId) :
    (handleForget hashes ctx now req s).2.shard.db.tables.cell id = s.shard.db.tables.cell id ∨
      ∃ row, s.shard.db.tables.memories.get id = some row ∧ row.flags.active = true := by
  unfold handleForget
  split
  · exact .inl rfl
  · exact handleForgetDirect_cell hashes ctx now req s.shard id
end

section

inductive AdminOp where
  | restore (now : Nanos) (writeId : WriteId) (memoryId : MemoryId) (namespaceName : String)
  | forget (now : Nanos) (ctx : OpsContext) (req : ForgetRequest)

def AdminOp.time : AdminOp → Nanos
  | .restore now .. => now
  | .forget now .. => now

def OpsState.perform (cfg : AdminConfig) (hashes : RequestHashes) (s : OpsState) : AdminOp → OpsState
  | .restore now writeId memoryId namespaceName =>
    { s with shard := (handleAdminRestore cfg writeId now memoryId namespaceName s.shard).2 }
  | .forget now ctx req => (handleForget hashes ctx now req s).2

def OpsState.performAll (cfg : AdminConfig) (hashes : RequestHashes) (ops : List AdminOp)
    (s : OpsState) : OpsState :=
  ops.foldl (perform cfg hashes) s

variable {hashes : RequestHashes} {id : MemoryId}

def Cell.Spent (cfg : AdminConfig) (now : Nanos) (c : Cell) : Prop :=
  c.text = none ∧ c.artifact = none ∧
    ∀ row, c.row = some row → row.flags.active = false ∧ ¬ row.Restorable cfg now

lemma Cell.Purged.spent {c : Cell} (h : c.Purged) : c.Spent cfg now := by
  obtain ⟨row, hrow, hact, hhard, htext, hart⟩ := h
  refine ⟨htext, hart, fun row' hrow' => ?_⟩
  cases hrow.symm.trans hrow'
  exact ⟨hact, fun hr => by simp [hr.1] at hhard⟩

lemma perform_spent {s : OpsState} (h : (s.shard.db.tables.cell id).Spent cfg now) {op : AdminOp}
    (htime : now ≤ op.time) :
    (s.perform cfg hashes op).shard.db.tables.cell id = s.shard.db.tables.cell id := by
  cases op with
  | restore now' writeId memoryId name =>
    rcases handleAdminRestore_cell cfg now' writeId memoryId name s.shard id with
      heq | ⟨-, row, hrow, hr⟩
    · exact heq
    · exact absurd (hr.earlier htime) (h.2.2 row hrow).2
  | forget now' ctx req =>
    rcases handleForget_cell hashes ctx now' req s id with heq | ⟨row, hrow, hact⟩
    · exact heq
    · simp [(h.2.2 row hrow).1] at hact

lemma performAll_spent {s : OpsState} (h : (s.shard.db.tables.cell id).Spent cfg now)
    {ops : List AdminOp} (htime : ∀ op ∈ ops, now ≤ op.time) :
    (s.performAll cfg hashes ops).shard.db.tables.cell id = s.shard.db.tables.cell id := by
  refine List.foldlRecOn ops (perform cfg hashes)
    (motive := fun s' => s'.shard.db.tables.cell id = s.shard.db.tables.cell id) rfl ?_
  intro s' hs' op hop
  have hspent : (s'.shard.db.tables.cell id).Spent cfg now := hs' ▸ h
  rw [perform_spent hspent (htime op hop), hs']

section
variable {ids : List MemoryId} {c : Cell}

lemma foldl_tombstone_of_notMem (h : id ∉ ids) :
    ids.foldl (fun c i => if id = i then c.tombstone .hard now else c) c = c := by
  refine List.foldlRecOn ids _ (motive := fun c' => c' = c) rfl fun c' hc' i hi => ?_
  rw [if_neg (fun heq : id = i => h (heq ▸ hi)), hc']

lemma foldl_tombstone_purged (h : id ∈ ids) (hrow : c.row.isSome = true) :
    (ids.foldl (fun c i => if id = i then c.tombstone .hard now else c) c).Purged := by
  obtain ⟨before, after, rfl⟩ := append_of_mem h
  rw [foldl_append, foldl_cons, if_pos rfl]
  have hbef : (before.foldl (fun c i => if id = i then c.tombstone .hard now else c)
      c).row.isSome = true := by
    refine List.foldlRecOn before _ (motive := fun c : Cell => c.row.isSome = true) hrow ?_
    intro c' hc' i _
    split
    · exact cellInvariant_row.tombstone now (fun _ => trivial) hc'
    · exact hc'
  refine List.foldlRecOn after _ (Cell.purged_tombstone_hard hbef now) fun c' hc' i _ => ?_
  split
  · exact cellInvariant_purged.tombstone now (fun _ => trivial) hc'
  · exact hc'

lemma foldl_tombstone_scope :
    (ids.foldl (fun c i => if id = i then c.tombstone .hard now else c) c).row.map MemoryRow.scope =
      c.row.map MemoryRow.scope := by
  refine List.foldlRecOn ids _
    (motive := fun c' : Cell => c'.row.map MemoryRow.scope = c.row.map MemoryRow.scope) rfl ?_
  intro c' hc' i _
  split
  · rw [← hc']
    cases hrow : c'.row with
    | none => simp [Cell.tombstone, hrow]
    | some row => simp [Cell.tombstone, hrow, MemoryRow.tombstoned]
  · exact hc'
end

def Memories.Listed (id : MemoryId) (t : Memories) : Prop :=
  ∃ key, t.timeline.get key = some () ∧ key.scope = scope ∧ key.memoryId = id

lemma Memories.mem_timelineIds {scope : RowScope} {t : Memories} :
    id ∈ t.timelineIds scope none ↔ t.Listed scope id := by
  simp only [timelineIds, List.mem_map, Listed]
  constructor
  · rintro ⟨⟨key, ⟨⟩⟩, hkey, rfl⟩
    obtain ⟨hget, hsc⟩ := t.timeline.mem_scan.mp hkey
    exact ⟨key, hget, by simpa using hsc, rfl⟩
  · rintro ⟨key, hget, hsc, rfl⟩
    exact ⟨(key, ()), t.timeline.mem_scan.mpr ⟨hget, by simpa using hsc⟩, rfl⟩

def MemoryShard.Erased (cfg : AdminConfig) (hashes : RequestHashes) (now : Nanos)
    (id : MemoryId) (s : MemoryShard) : Prop :=
  s.db.tables.texts.get id = none ∧ s.db.tables.artifacts.get id = none ∧
    ∀ (txns : TxnStore) (ops : List AdminOp), (∀ op ∈ ops, now ≤ op.time) →
      ∀ row, (performAll cfg hashes ops ⟨s, txns⟩).shard.db.tables.memories.get id =
        some row → row.flags.active = false

lemma erased_iff_spent : s.Erased cfg hashes now id ↔ (s.db.tables.cell id).Spent cfg now := by
  constructor
  · rintro ⟨htext, hart, hops⟩
    refine ⟨htext, hart, fun row hrow => ?_⟩
    have hact : row.flags.active = false := hops Table.empty [] (by simp) row hrow
    refine ⟨hact, ?_⟩
    rintro ⟨hhard, hgrace, name, hname⟩
    obtain ⟨writeId, hunused⟩ := exists_get_none s.hot s.db.idempotency
    have hback := handleAdminRestore_activates hrow hact hhard hgrace hname hunused
    have hrun := hops Table.empty [.restore now writeId id name] (by simp [AdminOp.time])
      row.reactivated hback
    simp [MemoryRow.reactivated] at hrun
  · intro h
    refine ⟨h.1, h.2.1, fun txns ops htime row hrow => ?_⟩
    have hsame : (performAll cfg hashes ops ⟨s, txns⟩).shard.db.tables.cell id =
      s.db.tables.cell id := performAll_spent (s := ⟨s, txns⟩) h htime
    have hold : s.db.tables.memories.get id = some row := by
      rw [← hrow]
      exact (congrArg Cell.row hsame).symm
    exact (h.2.2 row hold).1

/-- An acknowledged space delete erases every memory of the space for good exactly when each of
them is listed in the timeline index, or was spent before. -/
theorem spaceDelete_erases_iff {newId : Nat → WriteId} {ctx : OpsContext} {requestId : RequestId}
    {resp : SpaceDeleteResponse} {s s' : MemoryShard} (hnew : FreshIds newId s)
    (hok : handleSpaceDelete hashes newId ctx now requestId s = (.ok resp, s')) :
    (∀ id row, s'.db.tables.memories.get id = some row → row.scope = ctx.caller.scope →
        s'.Erased cfg hashes now id) ↔
      ∀ id row, s.db.tables.memories.get id = some row → row.scope = ctx.caller.scope →
        s.db.tables.Listed ctx.caller.scope id ∨ (s.db.tables.cell id).Spent cfg now := by
  have hcell := handleSpaceDelete_cell hnew hok
  have hsc : ∀ id, (∃ row, s'.db.tables.memories.get id = some row ∧ row.scope = ctx.caller.scope) ↔
      ∃ row, s.db.tables.memories.get id = some row ∧ row.scope = ctx.caller.scope := by
    intro id
    have hmap : (s'.db.tables.memories.get id).map MemoryRow.scope =
        (s.db.tables.memories.get id).map MemoryRow.scope :=
      (congrArg (fun c : Cell => c.row.map MemoryRow.scope) (hcell id)).trans foldl_tombstone_scope
    simp only [← Option.map_eq_some_iff, hmap]
  have hspent : ∀ id, (∃ row, s.db.tables.memories.get id = some row) →
      (s'.Erased cfg hashes now id ↔
        s.db.tables.Listed ctx.caller.scope id ∨ (s.db.tables.cell id).Spent cfg now) := by
    rintro id ⟨row, hrow⟩
    rw [erased_iff_spent, hcell id, ← mem_timelineIds]
    by_cases hlist : id ∈ s.db.tables.timelineIds ctx.caller.scope none
    · have hsome : (s.db.tables.cell id).row.isSome = true := by simp [cell, hrow]
      exact ⟨fun _ => .inl hlist, fun _ => (foldl_tombstone_purged hlist hsome).spent⟩
    · rw [foldl_tombstone_of_notMem hlist]
      exact ⟨.inr, fun h => h.resolve_left hlist⟩
  constructor
  · intro h id row hrow hown
    obtain ⟨row', hrow', hown'⟩ := (hsc id).mpr ⟨row, hrow, hown⟩
    exact (hspent id ⟨row, hrow⟩).mp (h id row' hrow' hown')
  · intro h id row' hrow' hown'
    obtain ⟨row, hrow, hown⟩ := (hsc id).mp ⟨row', hrow', hown'⟩
    exact (hspent id ⟨row, hrow⟩).mpr (h id row hrow hown)
end

section

def deployment : AdminConfig :=
  { namespaceLookup := fun name => if name = "prod" then some 1 else none, graceNanos := 1000 }

def drawnId (n : Nat) : WriteId := 100 + n

lemma freshIds_drawnId (hhot : ∀ k ∈ s.hot.entries.map Prod.fst, k < 100)
    (hdur : ∀ k ∈ s.db.idempotency.entries.map Prod.fst, k < 100) : FreshIds drawnId s where
  injective a b h := Nat.add_left_cancel h
  unused n := by
    have hlarge : ¬ drawnId n < 100 := by simp [drawnId]
    exact ⟨get_eq_none_of_notMem fun hk => hlarge (hhot _ hk),
      get_eq_none_of_notMem fun hk => hlarge (hdur _ hk)⟩

/-- A soft-forgotten memory has no timeline key: the delete of its space passes over it, its text
stays, and a restore inside the grace window makes it active again. -/
theorem spaceDelete_leaves_softForgotten : ∃ resp s', FreshIds drawnId softState.shard ∧
      handleSpaceDelete plainHashes drawnId tenant 30 3 softState.shard = (.ok resp, s') ∧
      (s'.db.tables.memories.get noteMemory.id).map MemoryRow.scope = some tenant.caller.scope ∧
      s'.db.tables.texts.get noteMemory.id = some "note" ∧
      ((OpsState.performAll deployment plainHashes [.restore 40 200 noteMemory.id "prod"]
        ⟨s', Table.empty⟩).shard.db.tables.memories.get noteMemory.id).map
          (fun row => row.flags.active) = some true := by
  refine ⟨_, _, freshIds_drawnId ?_ ?_, rfl, rfl, rfl, rfl⟩
  · decide
  · decide

theorem spaceDelete_erases_note :
    let s' := (handleSpaceDelete plainHashes drawnId tenant 30 3 noteState.shard).2
    ∀ id row, s'.db.tables.memories.get id = some row → row.scope = tenant.caller.scope →
      s'.Erased deployment plainHashes 30 id := by
  have hok : handleSpaceDelete plainHashes drawnId tenant 30 3 noteState.shard =
    (.ok ⟨"u:1", true, 1⟩,
      (handleSpaceDelete plainHashes drawnId tenant 30 3 noteState.shard).2) := rfl
  have hnew : FreshIds drawnId noteState.shard := freshIds_drawnId (by decide) (by decide)
  refine (spaceDelete_erases_iff hnew hok).mpr fun id row hrow hown => .inl ?_
  have hmem := (mem_entries_iff _).mpr hrow
  cases mem_singleton.mp hmem
  exact ⟨(noteMemory.row tenant.caller).timelineKey, rfl, rfl, rfl⟩
end
end BrainDb
