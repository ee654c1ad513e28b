import BrainDb.Handlers.HardForget

namespace BrainDb
open List Table

def Memories.reclaimCandidates (batchSize : Nat) (cutoff : Nanos) (t : Memories) :
    List MemoryId :=
  ((t.memories.entries.filter fun e => e.2.tombstonedAt.any (· < cutoff)).map Prod.fst).take batchSize

def Memories.reclaimOne (cutoff : Nanos) (t : Memories) (id : MemoryId) :
    Memories :=
  match t.memories.get id with
  | some row =>
    if row.tombstonedAt.any (· < cutoff) then
      { t with
        memories := t.memories.remove id
        texts := t.texts.remove id
        artifacts := t.artifacts.remove id
        vectors := t.vectors.remove id }
    else t
  | none => t

open Memories

structure ReclaimCycle where
  (batchSize graceNanos : Nat)
  now : Nanos
  reached : Nat

def ReclaimCycle.cutoff (cycle : ReclaimCycle) : Nanos := cycle.now - cycle.graceNanos

def ReclaimCycle.onTables (cycle : ReclaimCycle) (t : Memories) : Memories :=
  ((t.reclaimCandidates cycle.batchSize cycle.cutoff).take cycle.reached).foldl
    (reclaimOne cycle.cutoff) t

inductive ReclaimStep where
  | memory (step : MemoryStep)
  | reclaim (cycle : ReclaimCycle)

namespace MemoryShard

def reclaim (cycle : ReclaimCycle) (s : MemoryShard) : MemoryShard :=
  { s with db := { s.db with tables := cycle.onTables s.db.tables } }

variable (hashOf : String → Digest)

def reclaimStep (s : MemoryShard) : ReclaimStep → MemoryShard
  | .memory step => s.step hashOf step
  | .reclaim cycle => s.reclaim cycle

def reclaimRun (steps : List ReclaimStep) (s : MemoryShard) : MemoryShard :=
  steps.foldl (reclaimStep hashOf) s

end MemoryShard

def ReclaimStep.Spares (id : MemoryId) : ReclaimStep → Prop
  | .memory step => step.Spares id
  | .reclaim _ => True

def Cell.Gone (c : Cell) : Prop := c.row = none ∧ c.text = none

lemma cellInvariant_gone : CellInvariant Cell.Gone True where
  tombstone {c mode} now _ h := by
    cases mode <;> simpa [Cell.tombstone, Cell.Gone, h.1] using h.2
  restore h := by simpa [Cell.restore, Cell.Gone, h.1] using h.2
  replayRestore h := by simpa [Cell.replayRestore, Cell.Gone, h.1] using h.2
  modify _ h := by simpa [Cell.modify, Cell.Gone, h.1] using h.2

section
variable (id : MemoryId)

lemma reclaimOne_cell (cutoff : Nanos) (t : Memories) (i : MemoryId) :
    (t.reclaimOne cutoff i).cell id = t.cell id ∨ ((t.reclaimOne cutoff i).cell id).Gone := by
  unfold reclaimOne
  split
  next row hrow =>
    split
    · by_cases h : id = i
      · subst h
        exact .inr ⟨get_remove_self .., get_remove_self ..⟩
      · left
        simp [cell, get_remove_ne _ h]
    · exact .inl rfl
  · exact .inl rfl

lemma onTables_cell (cycle : ReclaimCycle) (t : Memories) :
    (cycle.onTables t).cell id = t.cell id ∨ ((cycle.onTables t).cell id).Gone := by
  refine List.foldlRecOn _ (reclaimOne cycle.cutoff)
    (motive := fun t' => t'.cell id = t.cell id ∨ (t'.cell id).Gone) (.inl rfl) ?_
  intro t' ht' i _
  rcases reclaimOne_cell id cycle.cutoff t' i with h | h
  · rwa [h]
  · exact .inr h
end

section
variable {hashOf : String → Digest} {id : MemoryId}

def EncodesCovered (id : MemoryId) (lsn : Nat) (log : Journal (LogPayload MemoryPayload)) : Prop :=
  ∀ e ∈ log.entries, e.payload.encodes id = true → e.lsn ≤ lsn

variable {s : MemoryShard}

lemma encodesCovered_submit {w : Write MemoryPhase}
    (hw : ∀ phase ∈ w.phases, phase.upserts id = false) (now : Nanos) (lsn : Nat) :
    EncodesCovered id lsn (submit memoryEngine now w s).2.log ↔ EncodesCovered id lsn s.log := by
  rcases submit_log memoryEngine now w s with heq | ⟨timestamp, heq⟩
  · rw [heq]
  · rw [heq]
    constructor
    · intro h e he
      exact h e (mem_append_left _ he)
    · intro h e he henc
      rcases mem_append.mp he with he | he
      · exact h e he henc
      · simp [Write.stamp_walBatch_encodes id hw timestamp s.log.nextLsn e he] at henc

variable {step : ReclaimStep} {steps : List ReclaimStep}

lemma encodesCovered_step (hstep : step.Spares id) (lsn : Nat) :
    EncodesCovered id lsn (s.reclaimStep hashOf step).log ↔ EncodesCovered id lsn s.log := by
  cases step with
  | memory step =>
    cases step with
    | submit now w => exact encodesCovered_submit hstep now lsn
    | restart durableLsn index => exact Iff.rfl
  | reclaim cycle => exact Iff.rfl

lemma encodesCovered_run (hrun : ∀ step ∈ steps, step.Spares id) (lsn : Nat) :
    EncodesCovered id lsn (s.reclaimRun hashOf steps).log ↔ EncodesCovered id lsn s.log := by
  refine List.foldlRecOn steps (MemoryShard.reclaimStep hashOf)
    (motive := fun s' => EncodesCovered id lsn s'.log ↔ EncodesCovered id lsn s.log) Iff.rfl ?_
  intro s' hs' step hmem
  exact (encodesCovered_step (hrun step hmem) lsn).trans hs'

lemma row_after_restart {durableLsn : Nat} (h : ¬ EncodesCovered id durableLsn s.log)
    (index : SharedHnsw) :
    ((s.restart hashOf durableLsn index).db.tables.cell id).row.isSome = true := by
  unfold EncodesCovered at h
  push Not at h
  obtain ⟨e, he, henc, hlsn⟩ := h
  have habv : e ∈ s.log.above durableLsn := by simpa [Journal.above] using ⟨he, hlsn⟩
  obtain ⟨before, after, hcut⟩ := append_of_mem habv
  rw [restart_cell, hcut, foldl_append, foldl_cons]
  refine List.foldlRecOn after _ (motive := fun c : Cell => c.row.isSome = true)
    (entryOnCell_encodes henc _).1 fun c hc r _ => ?_
  by_cases hagain : r.payload.encodes id = true
  · exact (entryOnCell_encodes hagain c).1
  · exact cellInvariant_row.onCell_entry (by simpa using hagain) (fun _ => trivial) hc

lemma gone_step (h : (s.db.tables.cell id).Gone) (hstep : step.Spares id)
    (hcovered : ∀ durableLsn index, step = .memory (.restart durableLsn index) →
      EncodesCovered id durableLsn s.log) :
    ((s.reclaimStep hashOf step).db.tables.cell id).Gone := by
  cases step with
  | memory step =>
    cases step with
    | submit now w =>
      rcases (memoryEngine_observes id).submit now w s with heq | heq
      · exact heq ▸ h
      · exact heq ▸ cellInvariant_gone.onCell_phases hstep w.toCaller h
    | restart durableLsn index =>
      change ((s.restart hashOf durableLsn index).db.tables.cell id).Gone
      rw [restart_cell]
      refine List.foldlRecOn _ _ h fun c hc e he => ?_
      obtain ⟨hmem, hlsn⟩ := Journal.mem_of_mem_above he
      have hspared : e.payload.encodes id = false := by
        by_contra henc
        have hle := hcovered durableLsn index rfl e hmem (by simpa using henc)
        omega
      exact cellInvariant_gone.onCell_entry hspared (fun _ => trivial) hc
  | reclaim cycle =>
    rcases onTables_cell id cycle s.db.tables with heq | hgone
    · exact heq ▸ h
    · exact hgone

lemma gone_run (h : (s.db.tables.cell id).Gone) (hrun : ∀ step ∈ steps, step.Spares id)
    (hcovered : ∀ durableLsn index, .memory (.restart durableLsn index) ∈ steps →
      EncodesCovered id durableLsn s.log) :
    ((s.reclaimRun hashOf steps).db.tables.cell id).Gone := by
  induction steps generalizing s with
  | nil => exact h
  | cons step steps ih =>
    have hspares := hrun step mem_cons_self
    refine ih (s := s.reclaimStep hashOf step) (gone_step h hspares ?_) ?_ ?_
    · intro durableLsn index heq
      exact hcovered durableLsn index (heq ▸ mem_cons_self)
    · intro later hlater
      exact hrun later (mem_cons_of_mem step hlater)
    · intro durableLsn index hmem
      rw [encodesCovered_step hspares]
      exact hcovered durableLsn index (mem_cons_of_mem step hmem)

/-- Once reclamation has removed a memory, its row and its text are absent from every later state
exactly when each restart starts above every Encode record of the memory. -/
theorem reclaimed_stays_gone_iff {s : MemoryShard} {cycle : ReclaimCycle}
    (hrow : (s.db.tables.memories.get id).isSome = true)
    (hremoved : (s.reclaim cycle).db.tables.memories.get id = none) {steps : List ReclaimStep}
    (hrun : ∀ step ∈ steps, step.Spares id) : (∀ later, later <+: steps →
        (((s.reclaim cycle).reclaimRun hashOf later).db.tables.cell id).Gone) ↔
      ∀ durableLsn index, .memory (.restart durableLsn index) ∈ steps →
        EncodesCovered id durableLsn s.log := by
  constructor
  · intro hgone durableLsn index hmem
    by_contra hopen
    obtain ⟨before, after, rfl⟩ := append_of_mem hmem
    have hbef : ∀ step ∈ before, step.Spares id := fun step hstep =>
      hrun step (mem_append_left _ hstep)
    have hlog : ¬ EncodesCovered id durableLsn
        ((s.reclaim cycle).reclaimRun hashOf before).log := by
      rwa [encodesCovered_run hbef]
    have hback : (((s.reclaim cycle).reclaimRun hashOf
        (before ++ [.memory (.restart durableLsn index)])).db.tables.cell id).row.isSome = true := by
      rw [MemoryShard.reclaimRun, foldl_append]
      exact row_after_restart hlog index
    have hinitial : before ++ [.memory (.restart durableLsn index)] <+:
        before ++ .memory (.restart durableLsn index) :: after := ⟨after, by simp⟩
    rw [(hgone _ hinitial).1] at hback
    cases hback
  · intro hcovered later hlater
    have hbeg : ((s.reclaim cycle).db.tables.cell id).Gone := by
      rcases onTables_cell id cycle s.db.tables with heq | hgone
      · have hsame : (s.reclaim cycle).db.tables.memories.get id = s.db.tables.memories.get id :=
          congrArg Cell.row heq
        rw [← hsame, hremoved] at hrow
        cases hrow
      · exact hgone
    exact gone_run hbeg (fun step hstep => hrun step (hlater.mem hstep))
      fun durableLsn index hmem => hcovered durableLsn index (hlater.mem hmem)
end

section

def lateCycle : ReclaimCycle := { batchSize := 8, graceNanos := 1000, now := 5000, reached := 8 }

/-- The reclaimed note comes back over a restart that replays its Encode and Forget records. -/
theorem reclaimed_note_returns :
    (softState.shard.db.tables.memories.get noteMemory.id).isSome = true ∧
      (softState.shard.reclaim lateCycle).db.tables.memories.get noteMemory.id = none ∧
      (((softState.shard.reclaim lateCycle).reclaimRun (fun _ => 0)
        [.memory (.restart 0 (.fromIndex .empty))]).db.tables.memories.get noteMemory.id).isSome =
          true ∧ ((softState.shard.reclaim lateCycle).reclaimRun (fun _ => 0)
        [.memory (.restart 0 (.fromIndex .empty))]).db.tables.texts.get noteMemory.id =
          some "note" :=
  ⟨rfl, rfl, rfl, rfl⟩

theorem reclaimed_note_stays_gone : (((softState.shard.reclaim lateCycle).reclaimRun (fun _ => 0)
      [.memory (.restart 2 (.fromIndex .empty))]).db.tables.cell noteMemory.id).Gone := by
  have hrun : ∀ step ∈ [ReclaimStep.memory (.restart 2 (.fromIndex .empty))],
      step.Spares noteMemory.id := by
    intro step hstep
    rw [mem_singleton.mp hstep]
    trivial
  have hrow : (softState.shard.db.tables.memories.get noteMemory.id).isSome = true := rfl
  have hremoved : (softState.shard.reclaim lateCycle).db.tables.memories.get noteMemory.id = none :=
    rfl
  refine (reclaimed_stays_gone_iff hrow hremoved hrun).mpr ?_ _ (prefix_refl _)
  intro durableLsn index hmem
  cases mem_singleton.mp hmem
  unfold EncodesCovered
  decide
end
end BrainDb
