import BrainDb.Handlers.Forget

namespace BrainDb
open List Option MemoryShard MemoryPayload Journal

def Cell.Purged (c : Cell) : Prop :=
  ∃ row, c.row = some row ∧ row.flags.active = false ∧ row.flags.hardForgotten = true ∧
    c.text = none ∧ c.artifact = none

variable (id : MemoryId)

def purgeMonitor (purged : Bool) (e : MemoryEntry) : Bool :=
  if e.payload.encodes id then false else if e.payload.hardForgets id then true else purged

def MemoryShard.logPurged (s : MemoryShard) : Bool :=
  s.log.entries.foldl (purgeMonitor id) true

def MemoryShard.AlreadyPurged (s : MemoryShard) : Prop :=
  (s.db.tables.cell id).Purged ∧ s.logPurged id = true

def MemoryStep.Spares : MemoryStep → Prop
  | .submit _ w => ∀ phase ∈ w.phases, phase.upserts id = false
  | .restart .. => True

section
variable {c : Cell}

lemma Cell.purged_tombstone_hard (h : c.row.isSome) (now : Nanos) :
    (c.tombstone .hard now).Purged := by
  obtain ⟨row, hrow⟩ := isSome_iff_exists.mp h
  exact ⟨row.tombstoned .hard now, by simp [Cell.tombstone, MemoryRow.tombstoned, hrow]⟩

lemma cellInvariant_purged : CellInvariant Cell.Purged True where
  tombstone {c mode} now _ := by
    rintro ⟨row, hrow, -, hhard, htext, hart⟩
    refine ⟨row.tombstoned mode now, ?_⟩
    cases mode <;> simp [Cell.tombstone, MemoryRow.tombstoned, hrow, hhard, htext, hart]
  restore := by
    rintro c ⟨row, hrow, hact, hhard, htext, hart⟩
    exact ⟨row, by simp [Cell.restore, hrow, hhard], hact, hhard, htext, hart⟩
  replayRestore := by
    rintro c ⟨row, hrow, hact, hhard, htext, hart⟩
    exact ⟨row, by simp [Cell.replayRestore, hrow, hhard], hact, hhard, htext, hart⟩
  modify {c f} hf := by
    rintro ⟨row, hrow, hact, hhard, htext, hart⟩
    refine ⟨f row, by simp [Cell.modify, hrow], ?_, ?_, htext, hart⟩
    · rw [(hf row).1, hact]
    · rw [(hf row).2, hhard]

lemma cellInvariant_row : CellInvariant (fun c => c.row.isSome = true) True where
  tombstone {c mode} now _ h := by
    obtain ⟨row, hrow⟩ := isSome_iff_exists.mp h
    cases mode <;> simp [Cell.tombstone, hrow]
  restore h := by simpa [Cell.restore] using h
  replayRestore h := by simpa [Cell.replayRestore] using h
  modify _ h := by simpa [Cell.modify] using h

lemma cellInvariant_text : CellInvariant (fun c => c.text.isSome = true) False where
  tombstone {c mode} now hmode h := by
    cases mode with
    | hard => exact (hmode rfl).elim
    | soft => cases hrow : c.row <;> simpa [Cell.tombstone, hrow] using h
  restore h := h
  replayRestore h := h
  modify _ h := h
end

variable {hashOf : String → Digest} {id : MemoryId}

section

lemma purged_of_hardForgets {e : MemoryEntry} (h : e.payload.hardForgets id = true) {c : Cell}
    (hrow : c.row.isSome = true) : (entryOnCell hashOf id c e).Purged := by
  cases hp : e.payload with
  | txnBegin | txnCommit | checkpointBegin | checkpointEnd => simp [hp, LogPayload.hardForgets] at h
  | record p =>
    rw [hp] at h
    cases p with
    | forget i requestId spaceId mode =>
      cases mode with
      | soft => simp [LogPayload.hardForgets, hardForgets] at h
      | hard =>
        have hid : id = i := by
          simpa [LogPayload.hardForgets, hardForgets, eq_comm] using h
        simp only [entryOnCell, hp, onCell, hid, if_true]
        exact Cell.purged_tombstone_hard hrow e.timestamp
    | _ => simp [LogPayload.hardForgets, hardForgets] at h

def Tracks (purged : Bool) (c : Cell) : Prop := c.row.isSome = true ∧ (purged = true → c.Purged)

lemma tracks_step (e : MemoryEntry) {purged : Bool} {c : Cell} (h : Tracks purged c) :
    Tracks (purgeMonitor id purged e) (entryOnCell hashOf id c e) := by
  unfold purgeMonitor
  by_cases henc : e.payload.encodes id = true
  · rw [if_pos henc]
    exact ⟨(entryOnCell_encodes henc c).1, fun hfalse => absurd hfalse Bool.false_ne_true⟩
  · rw [if_neg henc]
    have hspared : e.payload.encodes id = false := by simpa using henc
    refine ⟨cellInvariant_row.onCell_entry hspared (fun _ => trivial) h.1, ?_⟩
    by_cases hhard : e.payload.hardForgets id = true
    · exact fun _ => purged_of_hardForgets hhard h.1
    · rw [if_neg hhard]
      intro hpurged
      exact cellInvariant_purged.onCell_entry hspared (fun _ => trivial) (h.2 hpurged)

lemma purgeMonitor_mono (l : List MemoryEntry) (h : l.foldl (purgeMonitor id) false = true) :
    l.foldl (purgeMonitor id) true = true := by
  induction l with
  | nil => rfl
  | cons e l ih =>
    rw [foldl_cons] at h ⊢
    have hcases : purgeMonitor id true e = purgeMonitor id false e ∨
        (purgeMonitor id false e = false ∧ purgeMonitor id true e = true) := by
      unfold purgeMonitor
      by_cases henc : e.payload.encodes id = true
      · exact .inl (by simp [henc])
      · by_cases hhard : e.payload.hardForgets id = true
        · exact .inl (by simp [hhard])
        · exact .inr (by simp [henc, hhard])
    rcases hcases with heq | ⟨hfalse, htrue⟩
    · rwa [heq]
    · rw [hfalse] at h
      rw [htrue]
      exact ih h

variable {l : List MemoryEntry}

lemma purgeMonitor_drop (n : Nat) (h : l.foldl (purgeMonitor id) true = true) :
    (l.drop n).foldl (purgeMonitor id) true = true := by
  rw [← take_append_drop n l, foldl_append] at h
  cases hb : (l.take n).foldl (purgeMonitor id) true with
  | true => rwa [hb] at h
  | false =>
    rw [hb] at h
    exact purgeMonitor_mono _ h

lemma purgeMonitor_spared (h : ∀ e ∈ l, e.payload.encodes id = false) :
    l.foldl (purgeMonitor id) true = true := by
  refine List.foldlRecOn l (purgeMonitor id) (motive := fun b => b = true) rfl fun b hb e he => ?_
  simp [purgeMonitor, h e he, hb]

lemma exists_encode_of_monitor {b : Bool} (h : l.foldl (purgeMonitor id) b = false) :
    (b = false ∧ ∀ e ∈ l, e.payload.hardForgets id = false) ∨
      ∃ pre e post, l = pre ++ e :: post ∧ e.payload.encodes id = true ∧
        ∀ r ∈ post, r.payload.hardForgets id = false := by
  induction l generalizing b with
  | nil => exact .inl ⟨h, by simp⟩
  | cons e l ih =>
    rcases ih h with ⟨hb, hl⟩ | ⟨pre, r, post, hl, hr⟩
    · unfold purgeMonitor at hb
      split at hb
      next henc => exact .inr ⟨[], e, l, rfl, henc, hl⟩
      · split at hb
        · cases hb
        next hhard =>
          refine .inl ⟨hb, fun r hr => ?_⟩
          rcases mem_cons.mp hr with rfl | hr
          · simpa using hhard
          · exact hl r hr
    · exact .inr ⟨e :: pre, r, post, by rw [hl, cons_append], hr⟩
end

variable {s : MemoryShard}

section

lemma alreadyPurged_step (h : s.AlreadyPurged id) {step : MemoryStep} (hstep : step.Spares id) :
    (s.step hashOf step).AlreadyPurged id := by
  obtain ⟨hcell, hlog⟩ := h
  cases step with
  | submit now w =>
    constructor
    · rcases (memoryEngine_observes id).submit now w s with heq | heq
      · exact heq ▸ hcell
      · exact heq ▸ cellInvariant_purged.onCell_phases hstep w.toCaller hcell
    · rcases submit_log memoryEngine now w s with heq | ⟨timestamp, heq⟩
      · simpa [logPurged, step, heq] using hlog
      · have hnew := Write.stamp_walBatch_encodes id hstep timestamp s.log.nextLsn
        simp only [logPurged, step, heq, append, foldl_append]
        rw [show s.log.entries.foldl (purgeMonitor id) true = true from hlog]
        exact purgeMonitor_spared hnew
  | restart durable index =>
    refine ⟨?_, hlog⟩
    have hmonitor := purgeMonitor_drop (durable + 1 - s.log.first) hlog
    rw [← above_eq_drop] at hmonitor
    have hrow : (s.db.tables.cell id).row.isSome = true := by
      obtain ⟨row, hrow, -⟩ := hcell
      rw [hrow]
      rfl
    have htracks : Tracks ((s.log.above durable).foldl (purgeMonitor id) true)
        ((s.log.above durable).foldl (entryOnCell hashOf id) (s.db.tables.cell id)) :=
      foldl_simulation (fun e _ _ _ h => tracks_step e h) ⟨hrow, fun _ => hcell⟩
    change ((s.restart hashOf durable index).db.tables.cell id).Purged
    rw [restart_cell]
    exact htracks.2 hmonitor

lemma alreadyPurged_run (h : s.AlreadyPurged id) {steps : List MemoryStep}
    (hrun : ∀ step ∈ steps, step.Spares id) : (s.run hashOf steps).AlreadyPurged id :=
  List.foldlRecOn steps _ h fun _ hs step hmem => alreadyPurged_step hs (hrun step hmem)

lemma text_after_restart (h : s.logPurged id = false) : ∃ durable, ∀ index,
      (s.restart hashOf durable index).db.tables.texts.get id ≠ none := by
  rcases exists_encode_of_monitor h with ⟨hfalse, -⟩ | ⟨pre, e, post, hcut, henc, hpost⟩
  · cases hfalse
  · refine ⟨e.lsn - 1, fun index => ?_⟩
    have htext : ((s.restart hashOf (e.lsn - 1) index).db.tables.cell id).text.isSome = true := by
      rw [restart_cell, above_pred hcut, foldl_cons]
      refine List.foldlRecOn post _ (motive := fun c : Cell => c.text.isSome = true)
        (entryOnCell_encodes henc _).2 fun c hc r hr => ?_
      by_cases hagain : r.payload.encodes id = true
      · exact (entryOnCell_encodes hagain c).2
      · exact cellInvariant_text.onCell_entry (by simpa using hagain)
          (fun hhard => by simp [hpost r hr] at hhard) hc
    exact isSome_iff_ne_none.mp htext
end

section
variable {hashes : RequestHashes} {ctx : OpsContext} {now : Nanos} {req : ForgetRequest}

def ForgetRequest.Submits (hashes : RequestHashes) (ctx : OpsContext) (now : Nanos)
    (req : ForgetRequest) (s : MemoryShard) (row : MemoryRow) : Prop :=
  (s.lookupWithHash now (hashes.writeId req.requestId ctx.caller.scope.spaceId)
    (some (hashes.forget (forgetOp ctx req)))).1 = .miss ∧ row.flags.active = true

variable {resp : ForgetResponse} {row : MemoryRow}

lemma handleForgetDirect_ok {s' : MemoryShard}
    (hrow : s.db.tables.memories.get req.memoryId = some row) (hown : row.scope = ctx.caller.scope)
    (h : handleForgetDirect hashes ctx now req s = (.ok resp, s')) :
    (req.Submits hashes ctx now s row ∧
        ∃ ack, submit memoryEngine now (forgetWrite hashes ctx now req) s = (.ok ack, s')) ∨
      (¬ req.Submits hashes ctx now s row ∧ s'.db = s.db ∧ s'.log = s.log) := by
  have hpeek : peekForgetOutcome ctx s.db.tables req.memoryId =
      if row.flags.active then .tombstoned else .alreadyTombstoned := by
    simp [peekForgetOutcome, hrow, hown]
  have hlookup := s.lookupWithHash_state now (forgetWrite hashes ctx now req).writeId
    (forgetWrite hashes ctx now req).requestHash
  unfold handleForgetDirect at h
  split at h
  · cases h
  · rcases hlookup with ⟨ack, hot, hl⟩ | hl | hl
    · simp only [hl] at h
      cases h
      refine .inr ⟨fun hsub => ?_, rfl, rfl⟩
      cases (congrArg Prod.fst hl).symm.trans hsub.1
    · simp only [hl] at h
      cases h
    · simp only [hl, hpeek] at h
      by_cases hact : row.flags.active = true
      · simp only [hact, if_true] at h
        split at h
        · cases h
        next ack t hsubmit =>
          cases h
          exact .inl ⟨⟨congrArg Prod.fst hl, hact⟩, ack, hsubmit⟩
      · simp only [hact] at h
        cases h
        exact .inr ⟨fun hsub => hact hsub.2, rfl, rfl⟩

def ForgetRequest.Effective (hashes : RequestHashes) (ctx : OpsContext) (now : Nanos)
    (req : ForgetRequest) (s : MemoryShard) (row : MemoryRow) : Prop :=
  req.txnId = none ∧ req.Submits hashes ctx now s row

lemma handleForget_ok {s s' : OpsState}
    (hrow : s.shard.db.tables.memories.get req.memoryId = some row)
    (hown : row.scope = ctx.caller.scope) (h : handleForget hashes ctx now req s = (.ok resp, s')) :
    (req.Effective hashes ctx now s.shard row ∧
        ∃ ack, submit memoryEngine now (forgetWrite hashes ctx now req) s.shard =
          (.ok ack, s'.shard)) ∨
      (¬ req.Effective hashes ctx now s.shard row ∧ s'.shard.db = s.shard.db ∧
        s'.shard.log = s.shard.log) := by
  unfold handleForget at h
  split at h
  next txnId htxn =>
    generalize (handleForgetInTxn hashes ctx now req txnId s.shard.db.tables).run s.txns = out at h
    obtain ⟨result, txns⟩ := out
    cases h
    exact .inr ⟨fun heff => by simp [heff.1] at htxn, rfl, rfl⟩
  next htxn =>
    generalize hdirect : handleForgetDirect hashes ctx now req s.shard = out at h
    obtain ⟨result, shard⟩ := out
    cases h
    rcases handleForgetDirect_ok hrow hown hdirect with ⟨hsub, hack⟩ | ⟨hsub, hsame⟩
    · exact .inl ⟨⟨htxn, hsub⟩, hack⟩
    · exact .inr ⟨fun heff => hsub heff.2, hsame⟩

lemma alreadyPurged_of_submit {s' : MemoryShard} {ack : WriteAck MemoryAck}
    (hmode : req.mode = .hard) (hrow : s.db.tables.memories.get req.memoryId = some row)
    (heff : req.Submits hashes ctx now s row)
    (h : submit memoryEngine now (forgetWrite hashes ctx now req) s = (.ok ack, s')) :
    s'.AlreadyPurged req.memoryId := by
  have hcase := submit_cases memoryEngine now (forgetWrite hashes ctx now req) s
  rw [h] at hcase
  cases hcase with
  | hit hhit =>
    cases hhit.symm.trans heff.1
  | committed _ happ htables hlog =>
    constructor
    · have hcell : s'.db.tables.cell req.memoryId =
          (s.db.tables.cell req.memoryId).tombstone .hard now := by
        rw [htables, (memoryEngine_observes req.memoryId).applyPhases happ]
        simp [forgetWrite, Write.single, MemoryPhase.onCell, hmode]
      have hsome : (s.db.tables.cell req.memoryId).row.isSome = true := by
        simp [Memories.cell, hrow]
      rw [hcell]
      exact Cell.purged_tombstone_hard hsome now
    · rw [logPurged, hlog]
      simp [Shard.appended, append, Write.walBatch, forgetWrite, Write.single,
        memoryEngine, MemoryPhase.walPayload, stamp, purgeMonitor, LogPayload.encodes,
        encodes, LogPayload.hardForgets, hardForgets, hmode]

def MemoryShard.Silent (id : MemoryId) (s : MemoryShard) : Prop :=
  s.db.tables.texts.get id = none ∧
    ∀ row, s.db.tables.memories.get id = some row → row.flags.active = false

lemma MemoryShard.AlreadyPurged.silent (h : s.AlreadyPurged id) : s.Silent id := by
  obtain ⟨⟨row, hrow, hact, -, htext, -⟩, -⟩ := h
  refine ⟨htext, fun row' hrow' => ?_⟩
  cases hrow.symm.trans hrow'
  exact hact

/-- An acknowledged hard forget of a memory of the caller purges it, now and through every later run
of writes and restarts, iff it finds the row active, outside a transaction and past the idempotency
cache, or the memory was purged before. -/
theorem hardForget_purges_iff {hashOf : String → Digest} {s s' : OpsState}
    {resp : ForgetResponse} {row : MemoryRow} (hmode : req.mode = .hard)
    (hrow : s.shard.db.tables.memories.get req.memoryId = some row)
    (hown : row.scope = ctx.caller.scope)
    (hok : handleForget hashes ctx now req s = (.ok resp, s')) :
    ((s'.shard.db.tables.cell req.memoryId).Purged ∧
        ∀ steps : List MemoryStep, (∀ step ∈ steps, step.Spares req.memoryId) →
          (s'.shard.run hashOf steps).Silent req.memoryId) ↔
      req.Effective hashes ctx now s.shard row ∨ s.shard.AlreadyPurged req.memoryId := by
  have hgood : s'.shard.AlreadyPurged req.memoryId →
      (s'.shard.db.tables.cell req.memoryId).Purged ∧
        ∀ steps : List MemoryStep, (∀ step ∈ steps, step.Spares req.memoryId) →
          (s'.shard.run hashOf steps).Silent req.memoryId :=
    fun h => ⟨h.1, fun steps hrun => (alreadyPurged_run h hrun).silent⟩
  rcases handleForget_ok hrow hown hok with ⟨heff, ack, hsubmit⟩ | ⟨hne, hdb, hlog⟩
  · exact ⟨fun _ => .inl heff, fun _ => hgood (alreadyPurged_of_submit hmode hrow heff.2 hsubmit)⟩
  · have hsame : s'.shard.AlreadyPurged req.memoryId ↔ s.shard.AlreadyPurged req.memoryId := by
      simp only [AlreadyPurged, logPurged, hdb, hlog]
    constructor
    · rintro ⟨hcell, hrun⟩
      refine .inr (hsame.mp ⟨hcell, ?_⟩)
      by_contra hlast
      have hback : ∃ durable, ∀ index, (s'.shard.restart hashOf durable index).db.tables.texts.get
          req.memoryId ≠ none := text_after_restart (by simpa using hlast)
      obtain ⟨durable, htext⟩ := hback
      have hsilent := hrun [.restart durable s'.shard.index]
        (by intro step hstep; rw [mem_singleton.mp hstep]; trivial)
      exact htext _ hsilent.1
    · rintro (heff | hpurged)
      · exact absurd heff hne
      · exact hgood (hsame.mpr hpurged)
end

section

def plainHashes : RequestHashes :=
  ⟨fun op => op.requestId, fun _ requestId _ => requestId, fun requestId _ => requestId⟩

def tenant : OpsContext :=
  { caller := ⟨⟨1, 1⟩, "u:1"⟩, connectionId := 1, forgetWithinBudget := fun _ => true }

def emptyShard : MemoryShard :=
  { db := ⟨Memories.empty, Table.empty⟩, hot := Table.empty
    log := ⟨1, [], Nat.one_pos, trivial⟩, index := .fromIndex .empty, committedWatermark := 0 }

def noteMemory : UpsertMemory :=
  { id := MemoryId.pack 0 1 1, text := "note", vector := [], kind := .episodic, salience := 0
    sessionId := 0, createdAt := 10, occurredAt := none, arenaSlot := 1, embeddingModelFp := 0
    contentHash := none, deduplicate := false }

def noteState : OpsState :=
  { shard := (submit memoryEngine 10
      { toCaller := tenant.caller, writeId := 1, startedAt := 10
        phases := [.upsertMemory noteMemory], requestHash := none } emptyShard).2
    txns := Table.empty }

def forgetNote (mode : TombstoneMode) (requestId : RequestId) : ForgetRequest :=
  { memoryId := noteMemory.id, mode, requestId, txnId := none }

def softState : OpsState :=
  (handleForget plainHashes tenant 20 (forgetNote .soft 2) noteState).2

def restoreNote : Write MemoryPhase :=
  { toCaller := tenant.caller, writeId := 4, startedAt := 40
    phases := [.restoreMemory noteMemory.id 40], requestHash := none }

/-- A hard forget of a soft-forgotten memory is acknowledged and does nothing: the text stays and
a restore makes the memory active again. -/
theorem hardForget_after_soft_keeps_text :
    ∃ row resp s', softState.shard.db.tables.memories.get noteMemory.id = some row ∧
      row.scope = tenant.caller.scope ∧ row.tombstonedAt = some 20 ∧
      handleForget plainHashes tenant 30 (forgetNote .hard 3) softState = (.ok resp, s') ∧
      s'.shard.db.tables.texts.get noteMemory.id = some "note" ∧
      ¬ (s'.shard.db.tables.cell noteMemory.id).Purged ∧
      ((s'.shard.run (fun _ => 0) [.submit 40 restoreNote]).db.tables.memories.get
        noteMemory.id).map (fun row => row.flags.active) = some true := by
  refine ⟨_, _, _, rfl, rfl, rfl, rfl, rfl, ?_, rfl⟩
  rintro ⟨row, -, -, -, htext, -⟩
  cases htext

theorem hardForget_purges_note :
    let s' := (handleForget plainHashes tenant 20 (forgetNote .hard 2) noteState).2
    (s'.shard.db.tables.cell noteMemory.id).Purged ∧
      ∀ steps : List MemoryStep, (∀ step ∈ steps, step.Spares noteMemory.id) →
        (s'.shard.run (fun _ => 0) steps).Silent noteMemory.id := by
  have hok : handleForget plainHashes tenant 20 (forgetNote .hard 2) noteState =
    (.ok ⟨noteMemory.id, false, 0⟩,
      (handleForget plainHashes tenant 20 (forgetNote .hard 2) noteState).2) := rfl
  have heff : (forgetNote .hard 2).Effective plainHashes tenant 20 noteState.shard
    (noteMemory.row tenant.caller) := ⟨rfl, rfl, rfl⟩
  exact (hardForget_purges_iff rfl rfl rfl hok).mpr (.inl heff)
end
end BrainDb
