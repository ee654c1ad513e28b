import BrainDb.Base.Run
import BrainDb.Server.Arena
import BrainDb.Wal.Layout
import BrainDb.Wal.Reopen

namespace BrainDb.ArenaReplay

@[ext] structure Slot where
  vector : List UInt32
  slotVersion : UInt32
  flags : UInt32
  embeddingModelFpShort : Disk.Uuid
  createdAtUnixNanos : UInt64
  lastModifiedAtUnixNanos : UInt64
  metadataCrc32c : UInt32
  deriving DecidableEq

def occupied : UInt32 := 1

def tombstoned : UInt32 := 2

def hardForgotten : UInt32 := 8

def zeroVector : List UInt32 := List.replicate vectorDim 0

structure LogEntry where
  lsn : Nat
  timestampNs : UInt64
  payload : Disk.WalPayload

inductive RecoveryError where
  | vectorDimMismatch (lsn expected found : Nat)

abbrev SlotTable := Table Nat Slot

variable (blank : Slot) (crcOf : Slot → UInt32) (a : SlotTable)

def slot (idx : Nat) : Slot := (a.get idx).getD blank

def refreshCrc (s : Slot) : Slot := { s with metadataCrc32c := crcOf s }

def checkVectorDim (vector : List UInt32) (lsn : Nat) : Except RecoveryError Unit :=
  if vector ≠ [] ∧ vector.length ≠ vectorDim then
    .error (.vectorDimMismatch lsn vectorDim vector.length)
  else .ok ()

variable (ts : UInt64)

def writtenSlot (s : Slot) (id : Disk.MemoryId) (vector : List UInt32) (fp : Disk.Uuid) : Slot :=
  { s with
    vector := if vector = [] then s.vector else vector
    slotVersion := UInt32.ofNat (MemoryId.version id.val)
    flags := occupied
    embeddingModelFpShort := fp
    createdAtUnixNanos := ts
    lastModifiedAtUnixNanos := ts }

def markSlotTombstoned (s : Slot) (p : Disk.ForgetPayload) : Slot :=
  { s with
    vector := if p.mode = .hard then zeroVector else s.vector
    flags := s.flags ||| if p.mode = .hard then tombstoned ||| hardForgotten else tombstoned
    lastModifiedAtUnixNanos := ts }

def reclaimSlot (s : Slot) (p : Disk.ReclaimPayload) : Slot :=
  { s with slotVersion := p.newVersion, flags := 0, lastModifiedAtUnixNanos := ts }

def migrateSlotVector (s : Slot) (p : Disk.MigrateEmbeddingPayload) : Slot :=
  { s with
    vector := if p.newVector = [] then s.vector else p.newVector
    embeddingModelFpShort := p.newFingerprint
    lastModifiedAtUnixNanos := ts }

variable (e : LogEntry)

def applyToArena : Except RecoveryError SlotTable :=
  let write (idx : Nat) (f : Slot → Slot) : SlotTable :=
    a.insert idx (refreshCrc crcOf (f (slot blank a idx)))
  match e.payload with
  | .encode p => (checkVectorDim p.vector e.lsn).map fun _ => write (MemoryId.slot p.memoryId.val)
      fun s => writtenSlot e.timestampNs s p.memoryId p.vector p.embeddingModelFp
  | .forget p => .ok (write (MemoryId.slot p.memoryId.val)
      fun s => markSlotTombstoned e.timestampNs s p)
  | .reclaim p => .ok (write p.slotId.toNat fun s => reclaimSlot e.timestampNs s p)
  | .consolidate p => (checkVectorDim p.vector e.lsn).map fun _ =>
      write (MemoryId.slot p.newMemoryId.val)
        fun s => writtenSlot e.timestampNs s p.newMemoryId p.vector p.embeddingModelFp
  | .migrateEmbedding p => (checkVectorDim p.newVector e.lsn).map fun _ =>
      write (MemoryId.slot p.memoryId.val) fun s => migrateSlotVector e.timestampNs s p
  | _ => .ok a

def step : SlotTable :=
  (applyToArena blank crcOf a e).toOption.getD a

def named : Disk.WalPayload → Option (Nat × UInt32)
  | .forget p => some (MemoryId.slot p.memoryId.val, UInt32.ofNat (MemoryId.version p.memoryId.val))
  | .reclaim p => some (p.slotId.toNat, p.oldVersion)
  | .migrateEmbedding p =>
    some (MemoryId.slot p.memoryId.val, UInt32.ofNat (MemoryId.version p.memoryId.val))
  | _ => none

def GenerationSafe : Prop :=
  ∀ idx version, named e.payload = some (idx, version) →
    slot blank (step blank crcOf a e) idx ≠ slot blank a idx →
    (slot blank a idx).slotVersion = version

def Applied (s : Slot) : Prop :=
  let dated := s.lastModifiedAtUnixNanos = e.timestampNs ∧ crcOf s = s.metadataCrc32c
  match e.payload with
  | .forget p => dated ∧ s.flags ||| tombstoned = s.flags ∧
      (p.mode = .hard → s.flags ||| hardForgotten = s.flags ∧ s.vector = zeroVector)
  | .reclaim p => dated ∧ s.slotVersion = p.newVersion ∧ s.flags = 0
  | .migrateEmbedding p => p.newVector ≠ [] ∧ p.newVector.length ≠ vectorDim ∨
      dated ∧ s.embeddingModelFpShort = p.newFingerprint ∧
        (p.newVector = [] ∨ p.newVector = s.vector)
  | _ => True

variable {blank crcOf}

lemma slot_insert_self (idx : Nat) (s : Slot) : slot blank (a.insert idx s) idx = s := by
  rw [slot, Table.get_insert_self]
  rfl

lemma refreshCrc_eq_iff {s t : Slot} (h : t.metadataCrc32c = s.metadataCrc32c) :
    refreshCrc crcOf t = s ↔ t = s ∧ crcOf s = s.metadataCrc32c := by
  constructor
  · intro heq
    have hts : t = s := by
      rw [← heq] at h ⊢
      ext1
      all_goals first | rfl | exact h
    subst hts
    exact ⟨rfl, congrArg Slot.metadataCrc32c heq⟩
  · rintro ⟨rfl, hcrc⟩
    rw [refreshCrc, hcrc]

lemma or_or_eq_iff {x b c : UInt32} : x ||| (b ||| c) = x ↔ x ||| b = x ∧ x ||| c = x := by
  constructor
  · intro h
    constructor <;> rw [← h] <;> ac_nf
  · rintro ⟨hb, hc⟩
    rw [← UInt32.or_assoc, hb, hc]

lemma slot_step_eq_iff {a : SlotTable} {e : LogEntry} {idx : Nat} {version : UInt32}
    (h : named e.payload = some (idx, version)) :
    slot blank (step blank crcOf a e) idx = slot blank a idx ↔ Applied crcOf e (slot blank a idx) := by
  obtain ⟨lsn, ts, payload⟩ := e
  cases payload with
  | forget p =>
    cases h
    simp only [step, applyToArena, Except.toOption, Option.getD_some, slot_insert_self, Applied]
    refine (refreshCrc_eq_iff (by rfl)).trans ?_
    rw [Slot.ext_iff]
    cases hmode : p.mode <;>
      simp only [markSlotTombstoned, hmode, or_or_eq_iff, reduceCtorEq, if_true, if_false] <;> grind
  | reclaim p =>
    cases h
    simp only [step, applyToArena, Except.toOption, Option.getD_some, slot_insert_self, Applied]
    refine (refreshCrc_eq_iff (by rfl)).trans ?_
    rw [Slot.ext_iff]
    simp only [reclaimSlot]
    grind
  | migrateEmbedding p =>
    cases h
    simp only [step, applyToArena, checkVectorDim, Applied]
    split
    next hdim => exact iff_of_true rfl (.inl hdim)
    next hdim =>
      simp only [Except.map, Except.toOption, Option.getD_some, slot_insert_self, hdim, false_or]
      refine (refreshCrc_eq_iff (by rfl)).trans ?_
      rw [Slot.ext_iff]
      simp only [migrateSlotVector]
      grind
  | _ => cases h

variable (blank crcOf) in
def Respects : Prop :=
  ∀ idx version, named e.payload = some (idx, version) →
    (slot blank a idx).slotVersion = version ∨ Applied crcOf e (slot blank a idx)

/-- Whatever log is replayed into whatever arena, all its records respect the generations exactly if
each of them names the generation it meets, or meets a slot that is already as it leaves it. -/
theorem replay_respects_generations_iff (a : SlotTable) (log : List LogEntry) :
    Run.EachStep (step blank crcOf) (GenerationSafe blank crcOf) a log ↔
      Run.EachStep (step blank crcOf) (Respects blank crcOf) a log := by
  refine Run.eachStep_congr (fun a e => forall₃_congr fun idx version h => ?_) a log
  rw [← slot_step_eq_iff h]
  constructor
  · intro hsafe
    by_cases heq : slot blank (step blank crcOf a e) idx = slot blank a idx
    · exact .inr heq
    · exact .inl (hsafe heq)
  · rintro (hver | heq) hne
    · exact hver
    · exact absurd heq hne

def freshSlot : Slot := ⟨zeroVector, 0, 0, txnZero, 0, 0, 0⟩

def thirdGeneration : SlotTable :=
  Table.empty.insert 0 { freshSlot with
    vector := List.replicate 384 7, slotVersion := 3, flags := occupied }

def lateForget : LogEntry :=
  ⟨9, 20, .forget ⟨⟨1 * 2 ^ 32, by decide⟩, txnZero, txnZero, .hard, .clientRequest⟩⟩

/-- A hard forget of the first memory of a slot wipes the third one. -/
theorem late_forget_wipes_newer : named lateForget.payload = some (0, 1) ∧
    (slot freshSlot thirdGeneration 0).slotVersion = 3 ∧
    (slot freshSlot thirdGeneration 0).vector = List.replicate 384 7 ∧
    (slot freshSlot (step freshSlot (fun _ => 0) thirdGeneration lateForget) 0).vector =
      zeroVector := by
  decide +kernel

end BrainDb.ArenaReplay
