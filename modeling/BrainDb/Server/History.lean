import BrainDb.Server.Lifecycle

namespace BrainDb
open List Option ExceptLemmas MemoryPayload MemoryId Memories

lemma Memories.isActive_eq (t : Memories) (id : MemoryId) :
    t.isActive id = (t.status id).any fun st => st.active := by
  unfold isActive status
  cases t.memories.get id <;> rfl

variable {id : MemoryId} {shardId nextSlot : Nat} {p : MemoryPayload} {reserved : List MemoryId}
  {h : List MemoryPayload} {caller : Caller} {ack : SubstrateAck}

lemma Memories.status_isSome_iff {t : Memories} :
    (t.status id).isSome = true ↔ ∃ row, (id, row) ∈ t.memories.entries := by
  simp only [status, isSome_map, isSome_iff_exists, Table.mem_entries_iff]

variable {t t' : Substrate}

namespace MemoryPayload

def forgets (id : MemoryId) : MemoryPayload → Bool
  | .forget i _ _ _ => i = id
  | _ => false

def slot? : MemoryPayload → Option Nat
  | .encode p => some p.memoryId.slot
  | .forget id _ _ _ => some id.slot
  | _ => none

lemma slot?_of_encodes (h : p.encodes id = true) : p.slot? = some id.slot := by
  cases p with
  | encode p =>
    have hid : p.memoryId = id := by simpa [encodes] using h
    rw [slot?, hid]
  | _ => simp [encodes] at h

lemma slot?_of_forgets (h : p.forgets id = true) : p.slot? = some id.slot := by
  cases p with
  | forget i requestId spaceId mode =>
    have hid : i = id := by simpa [MemoryPayload.forgets] using h
    rw [slot?, hid]
  | _ => simp [MemoryPayload.forgets] at h

lemma of_slot? {idx : Nat} (h : p.slot? = some idx) :
    ∃ id, id.slot = idx ∧ (p.encodes id = true ∨ p.forgets id = true) := by
  cases p with
  | encode p => exact ⟨p.memoryId, Option.some.inj h, .inl (by simp [encodes])⟩
  | forget i requestId spaceId mode =>
    exact ⟨i, Option.some.inj h, .inr (by simp [MemoryPayload.forgets])⟩
  | _ => cases h

lemma encodes_unique {a b : MemoryId} (ha : p.encodes a = true) (hb : p.encodes b = true) :
    a = b := by
  cases p with
  | encode p =>
    have h₁ : p.memoryId = a := by simpa [encodes] using ha
    have h₂ : p.memoryId = b := by simpa [encodes] using hb
    exact h₁.symm.trans h₂
  | _ => simp [encodes] at ha

end MemoryPayload

def Encoded (h : List MemoryPayload) (id : MemoryId) : Prop := ∃ p ∈ h, p.encodes id = true

def Forgotten (h : List MemoryPayload) (id : MemoryId) : Prop := ∃ p ∈ h, p.forgets id = true

instance (h : List MemoryPayload) (id : MemoryId) : Decidable (Encoded h id) :=
  inferInstanceAs (Decidable (∃ p ∈ h, _))

instance (h : List MemoryPayload) (id : MemoryId) : Decidable (Forgotten h id) :=
  inferInstanceAs (Decidable (∃ p ∈ h, _))

inductive StatusChange where
  | keep
  | show
  | hide
  | reset
  | erase

namespace StatusChange

def apply (st : RowStatus) : StatusChange → RowStatus
  | .keep => st
  | .show => st.restored
  | .hide => st.tombstoned .soft
  | .reset => (st.tombstoned .soft).restored
  | .erase => st.tombstoned .hard

variable (mode : TombstoneMode)

def thenForget : StatusChange → StatusChange
  | .erase => .erase
  | _ => match mode with
    | .soft => .hide
    | .hard => .erase

def thenRestore : StatusChange → StatusChange
  | .keep => .show
  | .show => .show
  | .hide => .reset
  | .reset => .reset
  | .erase => .erase

lemma apply_thenForget (c : StatusChange) (st : RowStatus) :
    (c.thenForget mode).apply st = (c.apply st).tombstoned mode := by
  obtain ⟨scope, active, hard⟩ := st
  cases c <;> cases mode <;> cases active <;> cases hard <;> rfl

variable (c : StatusChange)

lemma apply_thenRestore (st : RowStatus) : c.thenRestore.apply st = (c.apply st).restored := by
  obtain ⟨scope, active, hard⟩ := st
  cases c <;> cases active <;> cases hard <;> rfl

lemma apply_apply (st : RowStatus) : c.apply (c.apply st) = c.apply st := by
  obtain ⟨scope, active, hard⟩ := st
  cases c <;> cases active <;> cases hard <;> rfl

end StatusChange

section

lemma foldl_onStatus_shape (id : MemoryId) (h : List MemoryPayload) :
    (∃ st, ∀ start, h.foldl (onStatus id) start = some st) ∨
      ∃ c : StatusChange, ∀ start, h.foldl (onStatus id) start =
        start.map fun st => c.apply st := by
  induction h using List.reverseRecOn with
  | nil => exact .inr ⟨.keep, fun start => Option.map_id'.symm⟩
  | append_singleton h p ih =>
    simp only [foldl_append, foldl_cons, foldl_nil]
    cases p with
    | encode p =>
      simp only [onStatus]
      split
      · exact .inl ⟨_, fun start => rfl⟩
      · exact ih
    | forget i requestId spaceId mode =>
      simp only [onStatus]
      split
      · rcases ih with ⟨st, hst⟩ | ⟨c, hc⟩
        · exact .inl ⟨st.tombstoned mode, fun start => by rw [hst]; rfl⟩
        · refine .inr ⟨c.thenForget mode, fun start => ?_⟩
          simp only [hc, Option.map_map, Function.comp_def, c.apply_thenForget]
      · exact ih
    | restoreMemory i requestId spaceId =>
      simp only [onStatus]
      split
      · rcases ih with ⟨st, hst⟩ | ⟨c, hc⟩
        · exact .inl ⟨st.restored, fun start => by rw [hst]; rfl⟩
        · refine .inr ⟨c.thenRestore, fun start => ?_⟩
          simp only [hc, Option.map_map, Function.comp_def, c.apply_thenRestore]
      · exact ih
    | _ => exact ih

lemma foldl_onStatus_idem (id : MemoryId) (h : List MemoryPayload) (start : Option RowStatus) :
    h.foldl (onStatus id) (h.foldl (onStatus id) start) = h.foldl (onStatus id) start := by
  rcases foldl_onStatus_shape id h with ⟨st, hst⟩ | ⟨c, hc⟩
  · rw [hst, hst]
  · rw [hc, hc, Option.map_map]
    exact congrArg (fun f => Option.map f start) (funext c.apply_apply)

lemma onStatus_isSome (p : MemoryPayload) (st : Option RowStatus) :
    (p.onStatus id st).isSome = (p.encodes id || st.isSome) := by
  cases p with
  | encode p =>
    simp only [onStatus, encodes]
    split
    next h => simp [h]
    next h => simp [Ne.symm h]
  | forget | restoreMemory =>
    simp only [onStatus, encodes]
    split
    · simp
    · simp
  | _ => simp [onStatus, encodes]

lemma foldl_onStatus_isSome (h : List MemoryPayload) :
    (h.foldl (onStatus id) none).isSome = true ↔ Encoded h id := by
  induction h using List.reverseRecOn with
  | nil => simp [Encoded]
  | append_singleton h p ih =>
    rw [foldl_append, foldl_cons, foldl_nil, onStatus_isSome, Bool.or_eq_true, ih]
    simp [Encoded, or_comm, or_and_right, exists_or]

lemma foldl_onStatus_inactive {st : RowStatus}
    (hst : h.foldl (onStatus id) none = some st) (hinact : st.active = false) : Forgotten h id := by
  induction h using List.reverseRecOn generalizing st with
  | nil => cases hst
  | append_singleton h p ih =>
    rw [foldl_append, foldl_cons, foldl_nil] at hst
    have hpast : ∀ st, h.foldl (onStatus id) none = some st → st.active = false →
        Forgotten (h ++ [p]) id := by
      intro st hst hinact
      obtain ⟨q, hq, hforgets⟩ := ih hst hinact
      exact ⟨q, mem_append_left _ hq, hforgets⟩
    cases p with
    | encode p =>
      simp only [onStatus] at hst
      split at hst
      · cases hst
        cases hinact
      · exact hpast st hst hinact
    | forget i requestId spaceId mode =>
      simp only [onStatus] at hst
      split at hst
      next heq => exact ⟨_, mem_append_right _ mem_cons_self, by
        simp [MemoryPayload.forgets, heq]⟩
      · exact hpast st hst hinact
    | restoreMemory i requestId spaceId =>
      simp only [onStatus] at hst
      split at hst
      · obtain ⟨past, hpaststatus, rfl⟩ := map_eq_some_iff.mp hst
        refine hpast past hpaststatus ?_
        unfold RowStatus.restored at hinact
        split at hinact
        · exact hinact
        · cases hinact
      · exact hpast st hst hinact
    | _ => exact hpast st hst hinact
end

lemma MemoryId.slot_pack {n version : Nat} (hn : n < 2 ^ 48) :
    (pack shardId n version).slot = n := by
  unfold slot pack
  omega

lemma MemoryId.version_pack (shardId n version : Nat) :
    (MemoryId.pack shardId n version).version = version % 2 ^ 32 := by
  unfold MemoryId.version pack
  omega

lemma MemoryId.le_of_pack_le {n m version : Nat} (hn : n < 2 ^ 48) (hm : m < 2 ^ 48)
    (h : pack shardId n version ≤ pack shardId m version) : n ≤ m := by
  by_contra hlt
  refine absurd h (Nat.not_le.mpr ?_)
  unfold pack
  omega

def Reservable (shardId nextSlot : Nat) (id : MemoryId) : Prop :=
  ∃ n < nextSlot, id = pack shardId n 1

lemma Reservable.eq_of_slot (hbound : nextSlot ≤ 2 ^ 48) {a b : MemoryId}
    (ha : Reservable shardId nextSlot a) (hb : Reservable shardId nextSlot b) (h : a.slot = b.slot) :
    a = b := by
  obtain ⟨n, hn, rfl⟩ := ha
  obtain ⟨m, hm, rfl⟩ := hb
  rw [slot_pack (by omega), slot_pack (by omega)] at h
  rw [h]

structure Ledger (shardId nextSlot : Nat) (reserved : List MemoryId) (t : Memories)
    (h : List MemoryPayload) : Prop where
  status (id : MemoryId) : t.status id = h.foldl (onStatus id) none
  slots : h.Pairwise fun p q => ∀ id, q.encodes id = true → p.slot? ≠ some id.slot
  forgotten (id : MemoryId) : Forgotten h id → Encoded h id
  encoded (id : MemoryId) : Encoded h id → Reservable shardId nextSlot id
  reserved_mem (id : MemoryId) : id ∈ reserved →
    Reservable shardId nextSlot id ∧ ∀ p ∈ h, p.slot? ≠ some id.slot
  bound : nextSlot ≤ 2 ^ 48

namespace Ledger
variable {t t' : Memories}

lemma empty (shardId : Nat) : Ledger shardId 1 [] empty [] where
  status _ := rfl
  slots := List.Pairwise.nil
  forgotten _ hf := by simp [Forgotten] at hf
  encoded _ he := by simp [Encoded] at he
  reserved_mem _ hid := by simp at hid
  bound := by decide

lemma reserve (hl : Ledger shardId nextSlot reserved t h) (hroom : nextSlot < 2 ^ 48) :
    Ledger shardId (nextSlot + 1) (reserved ++ [pack shardId nextSlot 1]) t h where
  status := hl.status
  slots := hl.slots
  forgotten := hl.forgotten
  encoded id he := by
    obtain ⟨n, hn, hid⟩ := hl.encoded id he
    exact ⟨n, by omega, hid⟩
  reserved_mem id hid := by
    rcases mem_append.mp hid with hid | hid
    · obtain ⟨⟨n, hn, heq⟩, hslots⟩ := hl.reserved_mem id hid
      exact ⟨⟨n, by omega, heq⟩, hslots⟩
    · obtain rfl := mem_singleton.mp hid
      refine ⟨⟨nextSlot, by omega, rfl⟩, fun p hp hslot => ?_⟩
      rw [slot_pack hroom] at hslot
      obtain ⟨id, hidslot, htouch⟩ := of_slot? hslot
      have henc : Encoded h id := by
        rcases htouch with htouch | htouch
        · exact ⟨p, hp, htouch⟩
        · exact hl.forgotten id ⟨p, hp, htouch⟩
      obtain ⟨n, hn, rfl⟩ := hl.encoded id henc
      rw [slot_pack (by omega)] at hidslot
      omega
  bound := hroom

lemma reseed (hl : Ledger shardId nextSlot reserved t h) :
    Ledger shardId (max 1 (t.maxAssignedSlot + 1)) [] t h := by
  have hrow : ∀ id, Encoded h id ↔ ∃ row, (id, row) ∈ t.memories.entries := by
    intro id
    rw [← foldl_onStatus_isSome, ← hl.status, status_isSome_iff]
  have hbound := hl.bound
  cases hlast : t.memories.entries.getLast? with
  | none =>
    have hnone := List.getLast?_eq_none_iff.mp hlast
    refine ⟨hl.status, hl.slots, hl.forgotten, fun id he => ?_, fun id hid => ?_, ?_⟩
    · simp [hrow, hnone] at he
    · simp at hid
    · simp [maxAssignedSlot, hlast]
  | some last =>
    obtain ⟨m, hm, hid⟩ := hl.encoded last.1 ((hrow last.1).mpr ⟨last.2, mem_of_getLast? hlast⟩)
    have hmax : t.maxAssignedSlot = m := by
      rw [maxAssignedSlot, hlast]
      change last.1.slot = m
      rw [hid, slot_pack (by omega)]
    refine ⟨hl.status, hl.slots, hl.forgotten, fun id he => ?_, fun id hid => ?_, ?_⟩
    · obtain ⟨n, hn, rfl⟩ := hl.encoded id he
      obtain ⟨row, hmem⟩ := (hrow _).mp he
      have hle := t.memories.le_of_getLast? hmem hlast
      rw [hid] at hle
      have hnm := le_of_pack_le (by omega) (by omega) hle
      exact ⟨n, by omega, rfl⟩
    · simp at hid
    · omega

lemma mono (hl : Ledger shardId nextSlot reserved t h) {reserved' : List MemoryId}
    (hsub : ∀ id ∈ reserved', id ∈ reserved) (hstatus : ∀ id, t'.status id = t.status id) :
    Ledger shardId nextSlot reserved' t' h where
  status id := (hstatus id).trans (hl.status id)
  slots := hl.slots
  forgotten := hl.forgotten
  encoded := hl.encoded
  reserved_mem id hid := hl.reserved_mem id (hsub id hid)
  bound := hl.bound

lemma append (hl : Ledger shardId nextSlot reserved t h)
    (hstatus : ∀ id, t'.status id = p.onStatus id (t.status id))
    (hencodes : ∀ id, p.encodes id = true → id ∈ reserved)
    (hforgets : ∀ id, p.forgets id = true → Encoded h id) :
    Ledger shardId nextSlot (reserved.filter fun id => !p.encodes id) t' (h ++ [p]) where
  status id := by
    rw [hstatus, hl.status, foldl_append, foldl_cons, foldl_nil]
  slots := by
    refine pairwise_append.mpr ⟨hl.slots, pairwise_singleton _ p, ?_⟩
    intro a ha b hb id hid
    obtain rfl := mem_singleton.mp hb
    exact (hl.reserved_mem id (hencodes id hid)).2 a ha
  forgotten id := by
    rintro ⟨q, hq, hqf⟩
    have henc : Encoded h id := by
      rcases mem_append.mp hq with hq | hq
      · exact hl.forgotten id ⟨q, hq, hqf⟩
      · obtain rfl := mem_singleton.mp hq
        exact hforgets id hqf
    obtain ⟨r, hr, hre⟩ := henc
    exact ⟨r, mem_append_left _ hr, hre⟩
  encoded id := by
    rintro ⟨q, hq, hqe⟩
    rcases mem_append.mp hq with hq | hq
    · exact hl.encoded id ⟨q, hq, hqe⟩
    · obtain rfl := mem_singleton.mp hq
      exact (hl.reserved_mem id (hencodes id hqe)).1
  reserved_mem id hid := by
    obtain ⟨hmem, hne⟩ := mem_filter.mp hid
    obtain ⟨hres, hslots⟩ := hl.reserved_mem id hmem
    refine ⟨hres, fun q hq hslot => ?_⟩
    rcases mem_append.mp hq with hq | hq
    · exact hslots q hq hslot
    · obtain rfl := mem_singleton.mp hq
      obtain ⟨other, hoth, htouch⟩ := of_slot? hslot
      rcases htouch with htouch | htouch
      · -- two ids of one slot that were both reserved are the same
        have hres' := (hl.reserved_mem other (hencodes other htouch)).1
        have heq := Reservable.eq_of_slot hl.bound hres' hres hoth
        simp [heq ▸ htouch] at hne
      · obtain ⟨r, hr, hre⟩ := hforgets other htouch
        exact hslots r hr (by rw [slot?_of_encodes hre, hoth])
  bound := hl.bound

end Ledger

def history (entries : List SubstrateEntry) : List MemoryPayload :=
  entries.filterMap fun e => e.payload.memory?

lemma history_append (l m : List SubstrateEntry) : history (l ++ m) = history l ++ history m :=
  filterMap_append

namespace SubstratePhase

def record? (writeId : WriteId) (caller : Caller) (phase : SubstratePhase) : Option MemoryPayload :=
  (phase.walPayload writeId caller).bind SubstratePayload.memory?

variable {writeId : WriteId} {phase : SubstratePhase}

lemma onStatus_record (writeId : WriteId) (caller : Caller) (phase : SubstratePhase)
    (st : Option RowStatus) : phase.onStatus caller id st =
      (phase.record? writeId caller).toList.foldl (MemoryPayload.onStatus id) st := by
  cases phase with
  | memory phase => cases phase <;> rfl
  | link l => rfl
  | unlink key => rfl

lemma record?_encodes (h : phase.record? writeId caller = some p) :
    p.encodes id = true ↔ phase.upserted? = some id := by
  cases phase with
  | memory phase => cases phase <;> cases h <;> simp [encodes, upserted?]
  | link l => cases h
  | unlink key => cases h

lemma record?_forgets (h : phase.record? writeId caller = some p)
    (hdisp : t.dispatch caller phase = .ok (t', ack)) (hforgets : p.forgets id = true) :
    (t.memory.status id).isSome = true := by
  cases phase with
  | memory phase =>
    cases phase with
    | tombstoneMemory i mode now =>
      cases h
      have hid : i = id := by simpa [MemoryPayload.forgets] using hforgets
      subst hid
      obtain ⟨_, hmemory, -⟩ := map_ok hdisp
      obtain ⟨_, htomb, -⟩ := map_ok hmemory
      unfold applyTombstoneMemory at htomb
      split at htomb
      · cases htomb
      next row hrow => simp [status, hrow]
    | _ => cases h <;> simp [MemoryPayload.forgets] at hforgets
  | link l => cases h
  | unlink key => cases h

end SubstratePhase

lemma history_stamp_walBatch (timestamp n : Nat) (w : Write SubstratePhase) :
    history (Journal.stamp timestamp n (w.walBatch substrateEngine)) =
      w.phases.filterMap fun phase => phase.record? w.writeId w.toCaller := by
  have hpay := Journal.map_payload_stamp timestamp n (w.walBatch substrateEngine)
  have hbatch : (w.walBatch substrateEngine).filterMap LogPayload.memory? = _ :=
    Write.filterMap_walBatch (fun _ _ => rfl) fun _ => rfl
  rw [← hpay, filterMap_map] at hbatch
  exact hbatch

namespace Ledger
variable (writeId : WriteId)

lemma dispatch {phase : SubstratePhase} (hl : Ledger shardId nextSlot reserved t.memory h)
    (hdisp : t.dispatch caller phase = .ok (t', ack))
    (hup : ∀ id, phase.upserted? = some id → id ∈ reserved) :
    Ledger shardId nextSlot (reserved.filter fun id => phase.upserted? ≠ some id) t'.memory
      (h ++ (phase.record? writeId caller).toList) := by
  have hstatus := fun id => Substrate.dispatch_status hdisp id
  simp only [SubstratePhase.onStatus_record writeId caller phase] at hstatus
  cases hrec : phase.record? writeId caller with
  | none =>
    rw [hrec] at hstatus
    rw [toList_none, append_nil]
    exact hl.mono (fun id hid => (mem_filter.mp hid).1) hstatus
  | some p =>
    rw [hrec] at hstatus
    have hnext := hl.append hstatus
      (fun id hid => hup id ((SubstratePhase.record?_encodes hrec).mp hid))
      (fun id hid => by
        have hsome := SubstratePhase.record?_forgets hrec hdisp hid
        rw [hl.status] at hsome
        exact (foldl_onStatus_isSome h).mp hsome)
    refine hnext.mono (fun id hid => ?_) fun _ => rfl
    obtain ⟨hmem, hne⟩ := mem_filter.mp hid
    refine mem_filter.mpr ⟨hmem, ?_⟩
    rw [Bool.not_eq_true', Bool.eq_false_iff]
    exact fun henc => (of_decide_eq_true hne) ((SubstratePhase.record?_encodes hrec).mp henc)

lemma applyPhases {phases : List SubstratePhase} {acks : List SubstrateAck}
    (hl : Ledger shardId nextSlot reserved t.memory h)
    (happ : applyPhases substrateEngine caller phases t = .ok (t', acks))
    (hnd : (phases.filterMap SubstratePhase.upserted?).Nodup)
    (hup : ∀ id ∈ phases.filterMap SubstratePhase.upserted?, id ∈ reserved) :
    Ledger shardId nextSlot
      (reserved.filter fun id => id ∉ phases.filterMap SubstratePhase.upserted?) t'.memory
      (h ++ phases.filterMap fun phase => phase.record? writeId caller) := by
  induction phases generalizing t h reserved acks with
  | nil =>
    cases happ
    simpa using hl
  | cons phase phases ih =>
    obtain ⟨mid, ack, rest, hdisp, hrest⟩ := applyPhases_cons happ
    have hmem : ∀ id, phase.upserted? = some id →
        id ∈ (phase :: phases).filterMap SubstratePhase.upserted? :=
      fun id hid => mem_filterMap.mpr ⟨phase, mem_cons_self, hid⟩
    have htail : ∀ id ∈ phases.filterMap SubstratePhase.upserted?,
        id ∈ (phase :: phases).filterMap SubstratePhase.upserted? := by
      intro id hid
      obtain ⟨ph, hph, hidph⟩ := mem_filterMap.mp hid
      exact mem_filterMap.mpr ⟨ph, mem_cons_of_mem _ hph, hidph⟩
    have hone := hl.dispatch writeId hdisp fun id hid => hup id (hmem id hid)
    have hnew : (phases.filterMap SubstratePhase.upserted?).Nodup ∧
        ∀ id ∈ phases.filterMap SubstratePhase.upserted?, phase.upserted? ≠ some id := by
      cases hphase : phase.upserted? with
      | none =>
        rw [filterMap_cons_none hphase] at hnd
        exact ⟨hnd, fun _ _ hne => by cases hne⟩
      | some id =>
        rw [filterMap_cons_some hphase] at hnd
        obtain ⟨hnot, hnd⟩ := nodup_cons.mp hnd
        refine ⟨hnd, fun other hoth heq => hnot ?_⟩
        rw [Option.some.inj heq]
        exact hoth
    have hall := ih hone hrest hnew.1 fun id hid =>
      mem_filter.mpr ⟨hup id (htail id hid), decide_eq_true (hnew.2 id hid)⟩
    have hrecs : h ++ (phase :: phases).filterMap (fun ph => ph.record? writeId caller) =
        h ++ (phase.record? writeId caller).toList ++
          phases.filterMap fun ph => ph.record? writeId caller := by
      rw [append_assoc, filterMap_cons]
      cases phase.record? writeId caller <;> rfl
    rw [hrecs]
    refine hall.mono (fun id hid => ?_) fun _ => rfl
    obtain ⟨hres, hnot⟩ := mem_filter.mp hid
    have hnot := of_decide_eq_true hnot
    refine mem_filter.mpr ⟨mem_filter.mpr ⟨hres, ?_⟩, ?_⟩
    · exact decide_eq_true fun hid => hnot (hmem id hid)
    · exact decide_eq_true fun hid => hnot (htail id hid)

end Ledger
end BrainDb
