import BrainDb.Server.History

namespace BrainDb
open List SharedHnsw MemoryPayload HnswIndex ArenaSlot MemoryId
variable (h : List MemoryPayload)

def EncodedAt (idx : Nat) : Prop := ∃ id, id.slot = idx ∧ Encoded h id

def ForgottenAt (idx : Nat) : Prop :=
  ∃ id, id.slot = idx ∧ Forgotten h id

structure ArenaSlot.Reflects (idx : Nat) (h : List MemoryPayload) (s : ArenaSlot) : Prop where
  occupied : s.occupied = true ↔ EncodedAt h idx
  slotVersion (id : MemoryId) : id.slot = idx → Encoded h id → s.slotVersion = id.version
  tombstoned : s.tombstoned = true ↔ ForgottenAt h idx
  hardForgotten : s.hardForgotten = true → s.tombstoned = true

variable {id : MemoryId} {h : List MemoryPayload} {t : Memories}

section
variable {idx : Nat} {l m : List MemoryPayload}

lemma encoded_append : Encoded (l ++ m) id ↔ Encoded l id ∨ Encoded m id := by
  simp only [Encoded, mem_append, or_and_right, exists_or]

lemma forgotten_append : Forgotten (l ++ m) id ↔ Forgotten l id ∨ Forgotten m id := by
  simp only [Forgotten, mem_append, or_and_right, exists_or]

lemma encodedAt_append : EncodedAt (l ++ m) idx ↔ EncodedAt l idx ∨ EncodedAt m idx := by
  simp only [EncodedAt, encoded_append, and_or_left, exists_or]

lemma forgottenAt_append : ForgottenAt (l ++ m) idx ↔ ForgottenAt l idx ∨ ForgottenAt m idx := by
  simp only [ForgottenAt, forgotten_append, and_or_left, exists_or]

lemma slot?_of_encodedAt (he : EncodedAt h idx) : ∃ p ∈ h, p.slot? = some idx := by
  obtain ⟨id, rfl, p, hp, hpe⟩ := he
  exact ⟨p, hp, slot?_of_encodes hpe⟩

lemma slot?_of_forgottenAt (hf : ForgottenAt h idx) : ∃ p ∈ h, p.slot? = some idx := by
  obtain ⟨id, rfl, p, hp, hpf⟩ := hf
  exact ⟨p, hp, slot?_of_forgets hpf⟩

namespace ArenaSlot.Reflects
variable {s : ArenaSlot} {p : MemoryPayload}

lemma zero (idx : Nat) : Reflects idx [] ArenaSlot.zero where
  occupied := by simp [ArenaSlot.zero, EncodedAt, Encoded]
  slotVersion id _ he := by simp [Encoded] at he
  tombstoned := by simp [ArenaSlot.zero, ForgottenAt, Forgotten]
  hardForgotten hhard := by cases hhard

lemma congr (hr : Reflects idx l s) (hmem : ∀ p, p ∈ l ↔ p ∈ m) : Reflects idx m s := by
  have henc : ∀ id, Encoded m id ↔ Encoded l id := fun id => by simp only [Encoded, hmem]
  have hfor : ∀ id, Forgotten m id ↔ Forgotten l id := fun id => by simp only [Forgotten, hmem]
  refine ⟨?_, fun id hid he => hr.slotVersion id hid ((henc id).mp he), ?_, hr.hardForgotten⟩
  · simp only [EncodedAt, henc]
    exact hr.occupied
  · simp only [ForgottenAt, hfor]
    exact hr.tombstoned

lemma step (hr : Reflects idx h s) (hp : ¬EncodedAt [p] idx) :
    Reflects idx (h ++ [p]) (s.after idx p) := by
  have hver : ∀ id, id.slot = idx → Encoded (h ++ [p]) id → s.slotVersion = id.version := by
    intro id hid he
    rcases encoded_append.mp he with he | he
    · exact hr.slotVersion id hid he
    · exact absurd ⟨id, hid, he⟩ hp
  have hoccupied : s.occupied = true ↔ EncodedAt (h ++ [p]) idx := by
    rw [encodedAt_append, or_iff_left hp]
    exact hr.occupied
  by_cases hf : ForgottenAt [p] idx
  · obtain ⟨id, hid, q, hq, hqf⟩ := hf
    obtain rfl := mem_singleton.mp hq
    cases q with
    | forget i requestId spaceId mode =>
      have hi : i = id := by simpa [MemoryPayload.forgets] using hqf
      subst hi
      rw [after, if_pos hid]
      refine ⟨hoccupied, hver, ?_, fun _ => rfl⟩
      have hlast : ForgottenAt [forget i requestId spaceId mode] idx :=
        ⟨i, hid, _, mem_cons_self, hqf⟩
      exact ⟨fun _ => forgottenAt_append.mpr (.inr hlast), fun _ => rfl⟩
    | _ => simp [MemoryPayload.forgets] at hqf
  · have haft : s.after idx p = s := by
      cases p with
      | encode p =>
        refine if_neg fun heq => hp ?_
        exact ⟨p.memoryId, heq, _, mem_cons_self, by simp [encodes]⟩
      | forget i requestId spaceId mode =>
        refine if_neg fun heq => hf ?_
        exact ⟨i, heq, _, mem_cons_self, by simp [MemoryPayload.forgets]⟩
      | _ => rfl
    rw [haft]
    refine ⟨hoccupied, hver, ?_, hr.hardForgotten⟩
    rw [forgottenAt_append, or_iff_left hf]
    exact hr.tombstoned

lemma foldl (hr : Reflects idx h s) {ps : List MemoryPayload} (hps : ¬EncodedAt ps idx) :
    Reflects idx (h ++ ps) (ps.foldl (after idx) s) := by
  induction ps generalizing h s with
  | nil => rwa [append_nil]
  | cons p ps ih =>
    rw [show p :: ps = [p] ++ ps from rfl, encodedAt_append, not_or] at hps
    have hrest := ih (hr.step hps.1) hps.2
    rwa [append_assoc] at hrest

lemma encode (hencodes : p.encodes id = true) (hid : id.slot = idx)
    (hnew : ∀ q ∈ h, q.slot? ≠ some idx) (s : ArenaSlot) :
    Reflects idx (h ++ [p]) (s.after idx p) := by
  have hnotEnc : ¬EncodedAt h idx := fun he => by
    obtain ⟨q, hq, hslot⟩ := slot?_of_encodedAt he
    exact hnew q hq hslot
  have hnotFor : ¬ForgottenAt h idx := fun hf => by
    obtain ⟨q, hq, hslot⟩ := slot?_of_forgottenAt hf
    exact hnew q hq hslot
  cases p with
  | encode p =>
    have hp : p.memoryId = id := by simpa [encodes] using hencodes
    subst hp
    rw [after, if_pos hid]
    refine ⟨⟨fun _ => ?_, fun _ => rfl⟩, fun other hoth he => ?_, ?_, fun hhard => by cases hhard⟩
    · exact encodedAt_append.mpr (.inr ⟨_, hid, _, mem_cons_self, hencodes⟩)
    · rcases encoded_append.mp he with he | ⟨q, hq, hqe⟩
      · exact absurd ⟨other, hoth, he⟩ hnotEnc
      · obtain rfl := mem_singleton.mp hq
        rw [encodes_unique hqe hencodes]
        rfl
    · rw [forgottenAt_append, or_iff_right hnotFor]
      refine ⟨fun ht => Bool.noConfusion ht, ?_⟩
      rintro ⟨other, _, q, hq, hqf⟩
      obtain rfl := mem_singleton.mp hq
      cases hqf
  | _ => simp [encodes] at hencodes

lemma replay {done pre suf : List MemoryPayload} (hr : Reflects idx done s)
    (hslots : (pre ++ suf).Pairwise fun p q => ∀ id, q.encodes id = true → p.slot? ≠ some id.slot)
    (hpre : ∀ p ∈ pre, p ∈ done) (hdone : ∀ p ∈ done, p ∈ pre ++ suf) :
    Reflects idx (pre ++ suf) (suf.foldl (after idx) s) := by
  by_cases henc : EncodedAt suf idx
  · obtain ⟨id, hid, p, hp, hpe⟩ := henc
    obtain ⟨a, b, rfl⟩ := append_of_mem hp
    rw [← append_assoc, pairwise_append] at hslots
    obtain ⟨-, hb, hbef⟩ := hslots
    have hfst := encode hpe hid
      (fun q hq => hid ▸ hbef q hq p mem_cons_self id hpe) (a.foldl (after idx) s)
    have hrest : ¬EncodedAt b idx := by
      rintro ⟨other, hoth, q, hq, hqe⟩
      refine (pairwise_cons.mp hb).1 q hq other hqe ?_
      rw [slot?_of_encodes hpe, hid, hoth]
    have hall := hfst.foldl hrest
    rw [append_assoc, append_assoc] at hall
    rw [foldl_append, foldl_cons]
    exact hall
  · refine (hr.foldl henc).congr fun p => ?_
    rw [mem_append, mem_append]
    constructor
    · rintro (hp | hp)
      · exact mem_append.mp (hdone p hp)
      · exact .inr hp
    · rintro (hp | hp)
      · exact .inl (hpre p hp)
      · exact .inr hp

lemma live_iff (hr : Reflects idx h s) : s.live = true ↔ EncodedAt h idx ∧ ¬ForgottenAt h idx := by
  rw [← hr.occupied, ← hr.tombstoned, live]
  have hhard := hr.hardForgotten
  cases hard : s.hardForgotten with
  | false => simp
  | true => simp [hhard hard]

end ArenaSlot.Reflects
end

namespace SharedHnsw
variable (s : SharedHnsw)

lemma contains_tailReplay (vectors : List (MemoryId × Embedding)) (id : MemoryId) :
    (s.tailReplay vectors).contains id = true ↔
      s.contains id = true ∨ id ∈ vectors.map Prod.fst := by
  unfold tailReplay
  induction vectors generalizing s with
  | nil => simp
  | cons n vectors ih =>
    rw [foldl_cons, ih, map_cons, mem_cons]
    split
    next hn =>
      constructor
      · rintro (h | h)
        · exact .inl h
        · exact .inr (.inr h)
      · rintro (h | rfl | h)
        · exact .inl h
        · exact .inl hn
        · exact .inr h
    · rw [contains_insert, Bool.or_eq_true, decide_eq_true_iff]
      exact ⟨fun h => h.elim (·.elim (.inr ∘ .inl) .inl) (.inr ∘ .inr),
        fun h => h.elim (.inl ∘ .inr) (·.elim (.inl ∘ .inl) .inr)⟩

lemma tailReplay_frame (vectors : List (MemoryId × Embedding)) (hoverlay : s.overlay = ∅) :
    (s.tailReplay vectors).main = s.main ∧ (s.tailReplay vectors).overlay = ∅ := by
  refine List.foldlRecOn vectors _
    (motive := fun s' : SharedHnsw => s'.main = s.main ∧ s'.overlay = ∅) ⟨rfl, hoverlay⟩ ?_
  intro s' hs' n _
  split
  · exact hs'
  · exact ⟨hs'.1, by rw [insert, hs'.2]; rfl⟩

variable {s : SharedHnsw}

lemma flushOrKeep_main {build : List PendingEntry → Except HnswError HnswIndex}
    {I : HnswIndex → Prop} (hs : I s.main) (hbuild : ∀ idx, build s.pending = .ok idx → I idx) :
    I (s.flushOrKeep build).main := by
  unfold flushOrKeep
  split
  next hok =>
    obtain ⟨idx, hidx, rfl⟩ := ExceptLemmas.map_ok hok
    exact hbuild idx hidx
  · exact hs

lemma reconcileForgotten_main (t : Memories) (ids : List MemoryId) (s : SharedHnsw) :
    (s.reconcileForgotten t ids).main = s.main := by
  refine List.foldlRecOn ids _ (motive := fun s' : SharedHnsw => s'.main = s.main) rfl ?_
  intro s' hs' id _
  split
  · exact hs'
  · exact hs'

lemma contains_eq_false_of_isTombstoned (hmain : s.main.tombstones = ∅)
    (h : s.isTombstoned id = true) : s.contains id = false := by
  unfold isTombstoned at h
  split at h
  next hmem => rw [contains, if_pos hmem]
  · rw [isTombstoned_of_tombstones_eq_empty hmain] at h
    cases h

lemma reconcileOne_spec (t : Memories) (hmain : s.main.tombstones = ∅) (i id : MemoryId) :
    let s' := if !t.isActive i && !s.isTombstoned i then s.markTombstoned i else s
    s'.main = s.main ∧
      (s'.contains id = true ↔ s.contains id = true ∧ ¬(id = i ∧ t.isActive i = false)) ∧
      (s'.isTombstoned id = true ↔ s.isTombstoned id = true ∨ (id = i ∧ t.isActive i = false)) := by
  intro s'
  by_cases hact : t.isActive i = true
  · have hs' : s' = s := by simp [s', hact]
    simp [hs', hact]
  · rw [Bool.not_eq_true] at hact
    by_cases htomb : s.isTombstoned i = true
    · have hs' : s' = s := by simp [s', htomb]
      have hnot := contains_eq_false_of_isTombstoned hmain htomb
      rw [hs', hact]
      refine ⟨rfl, ⟨fun h => ⟨h, ?_⟩, fun h => h.1⟩, ⟨.inl, ?_⟩⟩
      · rintro ⟨rfl, -⟩
        rw [hnot] at h
        cases h
      · rintro (h | ⟨rfl, -⟩)
        · exact h
        · exact htomb
    · have hs' : s' = s.markTombstoned i := by simp [s', hact, htomb]
      rw [hs', contains_markTombstoned, isTombstoned_markTombstoned, hact]
      refine ⟨rfl, ?_, ?_⟩
      · simp [and_comm]
      · simp [or_comm]

lemma reconcileForgotten_spec (t : Memories) (ids : List MemoryId)
    (hmain : s.main.tombstones = ∅) (id : MemoryId) :
    ((s.reconcileForgotten t ids).contains id = true ↔
      s.contains id = true ∧ ¬(id ∈ ids ∧ t.isActive id = false)) ∧
    ((s.reconcileForgotten t ids).isTombstoned id = true ↔
      s.isTombstoned id = true ∨ (id ∈ ids ∧ t.isActive id = false)) := by
  unfold reconcileForgotten
  induction ids generalizing s with
  | nil => simp
  | cons i ids ih =>
    obtain ⟨hsame, hcontains, htomb⟩ := reconcileOne_spec t hmain i id
    obtain ⟨ihc, iht⟩ := ih (hsame ▸ hmain)
    rw [foldl_cons, ihc, iht, hcontains, htomb, mem_cons]
    constructor
    · constructor
      · rintro ⟨⟨h, hi⟩, hids⟩
        refine ⟨h, ?_⟩
        rintro ⟨rfl | hmem, hinact⟩
        · exact hi ⟨rfl, hinact⟩
        · exact hids ⟨hmem, hinact⟩
      · rintro ⟨h, hnot⟩
        refine ⟨⟨h, ?_⟩, fun hids => hnot ⟨.inr hids.1, hids.2⟩⟩
        rintro ⟨rfl, hinact⟩
        exact hnot ⟨.inl rfl, hinact⟩
    · constructor
      · rintro ((h | ⟨rfl, hinact⟩) | ⟨hmem, hinact⟩)
        · exact .inl h
        · exact .inr ⟨.inl rfl, hinact⟩
        · exact .inr ⟨.inr hmem, hinact⟩
      · rintro (h | ⟨rfl | hmem, hinact⟩)
        · exact .inl (.inl h)
        · exact .inl (.inr ⟨rfl, hinact⟩)
        · exact .inr ⟨hmem, hinact⟩

end SharedHnsw

section
variable {vectors : List (MemoryId × Embedding)}

lemma bootIndex_some_serves {idx : HnswIndex} (hidx : idx.tombstones = ∅) :
    (bootIndex t vectors (some idx)).contains id = true ∧
        (bootIndex t vectors (some idx)).isTombstoned id = false ↔
      if idx.contains id then t.isActive id = true else id ∈ vectors.map Prod.fst := by
  let swapped := (SharedHnsw.fromIndex empty).swap idx
  obtain ⟨hmain, hoverlay⟩ := swapped.tailReplay_frame vectors rfl
  have hmain' : (swapped.tailReplay vectors).main.tombstones = ∅ := by
    rw [hmain]
    exact hidx
  have hclear := isTombstoned_of_tombstones_eq_empty hmain' id
  have htomb : (swapped.tailReplay vectors).isTombstoned id = false := by
    rw [SharedHnsw.isTombstoned, hoverlay, if_neg (Finset.notMem_empty id), hclear]
  have hbase : swapped.contains id = idx.contains id := by
    have hclear := isTombstoned_of_tombstones_eq_empty hidx id
    simp [swapped, SharedHnsw.contains, SharedHnsw.swap, hclear]
  obtain ⟨hc, ht⟩ := SharedHnsw.reconcileForgotten_spec t (idx.nodes.map Prod.fst) hmain' id
  have hboot : bootIndex t vectors (some idx) =
      (swapped.tailReplay vectors).reconcileForgotten t (idx.nodes.map Prod.fst) := rfl
  rw [← Bool.not_eq_true, hboot, hc, not_iff_not.mpr ht, htomb, SharedHnsw.contains_tailReplay, hbase,
    ← contains_iff]
  split
  next hin => simp [hin]
  next hout => simp [hout]

lemma bootIndex_none_serves (hnd : (vectors.map Prod.fst).Nodup) :
    (bootIndex t vectors none).contains id = true ∧
        (bootIndex t vectors none).isTombstoned id = false ↔
      id ∈ vectors.map Prod.fst ∧ vectors.length ≤ u32Max := by
  have hempty : (SharedHnsw.fromIndex empty).contains id = false := rfl
  unfold bootIndex
  simp only
  split
  next hnone =>
    rw [List.isEmpty_iff.mp hnone, hempty]
    simp
  · have hpend : arenaWithPending vectors [] = vectors := append_nil vectors
    have hbuild := rebuild_eq hnd
    by_cases hroom : vectors.length ≤ u32Max
    · rw [if_pos hroom] at hbuild
      have hflush : (SharedHnsw.fromIndex empty).flushOrKeep
          (fun pending => rebuild (arenaWithPending vectors pending)) =
          ⟨⟨vectors, ∅⟩, 1, [], ∅⟩ := by
        simp [SharedHnsw.flushOrKeep, SharedHnsw.flushWithRebuild, SharedHnsw.fromIndex, hpend,
          hbuild, Except.map]
      rw [hflush]
      have hclear := @HnswIndex.isTombstoned_of_tombstones_eq_empty ⟨vectors, ∅⟩ rfl id
      simp [SharedHnsw.contains, SharedHnsw.isTombstoned, hclear, contains_iff, hroom]
    · rw [if_neg hroom] at hbuild
      have hflush : (SharedHnsw.fromIndex empty).flushOrKeep
          (fun pending => rebuild (arenaWithPending vectors pending)) =
          SharedHnsw.fromIndex empty := by
        simp [SharedHnsw.flushOrKeep, SharedHnsw.flushWithRebuild, SharedHnsw.fromIndex, hpend,
          hbuild, Except.map]
      rw [hflush, hempty]
      simp [hroom]

lemma bootIndex_main_tombstones {loaded : Option HnswIndex}
    (h : ∀ idx, loaded = some idx → idx.tombstones = ∅) :
    (bootIndex t vectors loaded).main.tombstones = ∅ := by
  unfold bootIndex
  split
  next idx =>
    rw [reconcileForgotten_main, (tailReplay_frame _ vectors rfl).1]
    exact h idx rfl
  · split
    · rfl
    · exact flushOrKeep_main (I := fun idx => idx.tombstones = ∅) rfl
        fun idx hidx => rebuild_tombstones hidx
end

def encodedIds (h : List MemoryPayload) : List MemoryId :=
  h.filterMap fun p => match p with
    | .encode p => some p.memoryId
    | _ => none

def unforgotten (h : List MemoryPayload) : List MemoryId :=
  (encodedIds h).filter fun id => ¬Forgotten h id

lemma mem_encodedIds : id ∈ encodedIds h ↔ Encoded h id := by
  rw [encodedIds, mem_filterMap, Encoded]
  refine exists_congr fun p => and_congr_right fun _ => ?_
  cases p with
  | _ => simp [encodes]

lemma mem_unforgotten : id ∈ unforgotten h ↔ Encoded h id ∧ ¬Forgotten h id := by
  rw [unforgotten, mem_filter, mem_encodedIds, decide_eq_true_iff]

namespace Ledger
variable {shardId nextSlot : Nat} {reserved : List MemoryId} {a : Arena}

lemma unforgotten_nodup (hl : Ledger shardId nextSlot reserved t h) : (unforgotten h).Nodup := by
  refine List.Nodup.filter _ ?_
  refine pairwise_filterMap.mpr (hl.slots.imp ?_)
  intro p q hpq a ha b hb
  cases p with
  | encode p =>
    cases q with
    | encode q =>
      cases ha
      cases hb
      have hne := hpq q.memoryId (by simp [encodes])
      exact fun heq => hne (by rw [slot?, heq])
    | _ => cases hb
  | _ => cases ha

variable (hl : Ledger shardId nextSlot reserved t h)
  (ha : ∀ idx, Reflects idx h (a.slot idx))

include hl ha

lemma pack_of_live {idx : Nat} (hlive : (a.slot idx).live = true) :
    ∃ id, id.slot = idx ∧ Encoded h id ∧ ¬Forgotten h id ∧
      pack shardId idx (a.slot idx).slotVersion = id := by
  obtain ⟨⟨id, hid, henc⟩, hnot⟩ := (ha idx).live_iff.mp hlive
  refine ⟨id, hid, henc, fun hf => hnot ⟨id, hid, hf⟩, ?_⟩
  have hver := (ha idx).slotVersion id hid henc
  obtain ⟨n, hn, rfl⟩ := hl.encoded id henc
  have hbound := hl.bound
  rw [slot_pack (by omega)] at hid
  rw [hver, version_pack, hid, Nat.one_mod_eq_one.mpr (by decide)]

lemma mem_snapshotVectors : id ∈ (a.snapshotVectors shardId).map Prod.fst ↔ id ∈ unforgotten h := by
  rw [mem_unforgotten]
  constructor
  · intro hmem
    obtain ⟨⟨i, v⟩, hentry, rfl⟩ := mem_map.mp hmem
    obtain ⟨idx, hlive, hi, -⟩ := Arena.mem_snapshotVectors.mp hentry
    obtain ⟨id, -, henc, hnot, hpack⟩ := hl.pack_of_live ha hlive
    rw [hi, hpack]
    exact ⟨henc, hnot⟩
  · rintro ⟨henc, hnot⟩
    have hlive : (a.slot id.slot).live = true := by
      refine (ha id.slot).live_iff.mpr ⟨⟨id, rfl, henc⟩, ?_⟩
      rintro ⟨other, hslot, hf⟩
      have heq := Reservable.eq_of_slot hl.bound (hl.encoded other (hl.forgotten other hf))
        (hl.encoded id henc) hslot
      exact hnot (heq ▸ hf)
    obtain ⟨other, hslot, henc', -, hpack⟩ := hl.pack_of_live ha hlive
    have heq := Reservable.eq_of_slot hl.bound (hl.encoded other henc') (hl.encoded id henc) hslot
    exact mem_map.mpr ⟨(id, (a.slot id.slot).vector),
      Arena.mem_snapshotVectors.mpr ⟨id.slot, hlive, by rw [hpack, heq], rfl⟩, rfl⟩

lemma snapshotVectors_nodup : ((a.snapshotVectors shardId).map Prod.fst).Nodup := by
  have hslot : ∀ e ∈ a.entries.filter fun e => e.2.live,
      (pack shardId e.1 e.2.slotVersion).slot = e.1 := by
    intro e he
    obtain ⟨hmem, hlive⟩ := mem_filter.mp he
    have heq : a.slot e.1 = e.2 := by
      rw [Arena.slot, a.mem_entries_iff.mp hmem]
      rfl
    obtain ⟨id, hid, -, -, hpack⟩ := hl.pack_of_live ha (heq.symm ▸ hlive)
    rw [heq] at hpack
    rw [hpack, hid]
  rw [Arena.map_fst_snapshotVectors]
  refine pairwise_map.mpr (List.Pairwise.imp_of_mem ?_ (a.sorted.filter _))
  intro e e' he he' hlt hpack
  have hkeys := hslot e he
  rw [hpack, hslot e' he'] at hkeys
  exact hlt.ne' hkeys

lemma length_snapshotVectors : (a.snapshotVectors shardId).length = (unforgotten h).length := by
  have hperm := (perm_ext_iff_of_nodup (hl.snapshotVectors_nodup ha) hl.unforgotten_nodup).mpr
    fun id => hl.mem_snapshotVectors ha
  rw [← hperm.length_eq, length_map]

end Ledger
end BrainDb
