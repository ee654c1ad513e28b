import BrainDb.Wal.TornTail

namespace BrainDb
open List WalReader
variable {crc : Checksum} {uuid : ShardUuid} {dir : WalDir} {ys : List Yielded}

lemma readDir_ok (h : readDir crc dir uuid = ⟨ys, none⟩) :
    ∃ infos, openDir crc dir uuid = .ok infos ∧ drain crc infos = ⟨ys, none⟩ := by
  unfold readDir at h
  split at h
  · cases congrArg ReadOutcome.error h
  next infos hopen => exact ⟨infos, hopen, h⟩

/-- A read that ends without an error has yielded consecutive LSNs and, of every segment but the
last, all bytes; what it leaves in the last one is no record that could follow. -/
theorem clean_end_loses_nothing (h : readDir crc dir uuid = ⟨ys, none⟩) :
    ∃ infos, openDir crc dir uuid = .ok infos ∧
      Numbered.From (fun y : Yielded => y.record.lsn.toNat) (firstLsn infos) ys ∧
      ∀ earlier active, infos = earlier ++ [active] → ∃ chunks rs tail,
        ys = yieldsLog earlier chunks ++ yieldsAt active.segmentSeq walSegmentHeaderLen rs ∧
        List.Forall₂ (fun info rs => info.bytes.drop walSegmentHeaderLen = encodeAll crc rs)
          earlier chunks ∧ active.bytes.drop walSegmentHeaderLen = encodeAll crc rs ++ tail ∧
        ∀ offset r consumed, decodeOne crc (tail.drop offset) = .ok (.record r consumed) →
          r.lsn.toNat < firstLsn infos + ys.length := by
  obtain ⟨infos, hopen, hdr⟩ := readDir_ok h
  refine ⟨infos, hopen, ?_⟩
  rcases eq_nil_or_concat' infos with rfl | ⟨earlier, active, rfl⟩
  · cases hdr
    exact ⟨trivial, fun earlier active heq => by simp at heq⟩
  · obtain ⟨chunks, rs, tail, hold, hbeg, hlog, hbody, rfl, hnone⟩ := readSegments_ok hdr
    have hrecs : (yieldsLog earlier chunks ++
        yieldsAt active.segmentSeq walSegmentHeaderLen rs).map Yielded.record =
        chunks.flatten ++ rs := by
      rw [map_append, map_record_yieldsLog hold.length_eq, map_record_yieldsAt]
    have hlen := congrArg List.length hrecs
    have hnumbered := (isLog_append.mpr ⟨hold.isLog, hbeg ▸ hlog⟩).numbered
    rw [← hrecs, Numbered.from_map] at hnumbered
    refine ⟨hnumbered, fun earlier' active' heq => ?_⟩
    obtain ⟨rfl, hact⟩ := append_inj' heq rfl
    obtain rfl := singleton_injective hact
    refine ⟨chunks, rs, tail, rfl, hold.forall₂, hbody, fun offset r consumed hdec => ?_⟩
    obtain ⟨hfits, _, hshape⟩ := WalRecord.decodeOne_record hdec
    -- a record at an offset of the rest is one the reader would have found there
    by_contra hle
    refine Bool.eq_false_iff.mp hnone ((validRecordSurvivesAfter_iff _ _).mpr
      ⟨tail.take offset, r, (tail.drop offset).drop consumed, ?_, hfits, ?_⟩)
    · rw [← hshape, take_append_drop]
    · simp only [length_map, length_append] at hlen hle
      omega

def threeSegments : WalDir := (List.range 3).map fun i =>
  segmentOf i (i + 1) [recordAt (UInt64.ofNat (i + 1)) (.checkpointBegin 7 0)]

def tornDir : WalDir := threeSegments.modify 2 (· ++ [1, 2, 3])

lemma tornDir_read : (readDir zeroCrc tornDir zeroUuid).error = none := by decide +kernel

theorem tornDir_loses_nothing : ∃ earlier active chunks rs tail,
    openDir zeroCrc tornDir zeroUuid = .ok (earlier ++ [active]) ∧
      Numbered.From (fun y : Yielded => y.record.lsn.toNat) (firstLsn (earlier ++ [active]))
        (readDir zeroCrc tornDir zeroUuid).yielded ∧ (readDir zeroCrc tornDir zeroUuid).yielded =
        yieldsLog earlier chunks ++ yieldsAt active.segmentSeq walSegmentHeaderLen rs ∧
      List.Forall₂ (fun info rs => info.bytes.drop walSegmentHeaderLen = encodeAll zeroCrc rs)
        earlier chunks ∧ active.bytes.drop walSegmentHeaderLen = encodeAll zeroCrc rs ++ tail ∧
      ∀ offset r consumed, decodeOne zeroCrc (tail.drop offset) = .ok (.record r consumed) →
        r.lsn.toNat < firstLsn (earlier ++ [active]) +
          (readDir zeroCrc tornDir zeroUuid).yielded.length := by
  have hread := ReadOutcome.eq_of_error_none tornDir_read
  generalize (readDir zeroCrc tornDir zeroUuid).yielded = ys at hread ⊢
  obtain ⟨infos, hopen, hnumbered, hcut⟩ := clean_end_loses_nothing hread
  have hthree : (openDir zeroCrc tornDir zeroUuid).toOption.map List.length = some 3 := by
    decide +kernel
  rcases eq_nil_or_concat' infos with rfl | ⟨earlier, active, rfl⟩
  · rw [hopen] at hthree
    cases hthree
  · obtain ⟨chunks, rs, tail, hall⟩ := hcut earlier active rfl
    exact ⟨earlier, active, chunks, rs, tail, hopen, hnumbered, hall⟩

namespace WalReader

def dropCovered (startLsn : Nat) : List SegmentInfo → List SegmentInfo
  | info :: next :: rest =>
    if next.startingLsn ≤ startLsn then dropCovered startLsn (next :: rest) else info :: next :: rest
  | infos => infos

def iterFrom (crc : Checksum) (dir : WalDir) (uuid : ShardUuid) (startLsn : Nat) :
    ReadOutcome :=
  match openDir crc dir uuid with
  | .error e => ⟨[], some e⟩
  | .ok infos =>
    let kept := dropCovered startLsn infos
    let out := readSegments crc kept (kept.head?.elim startLsn SegmentInfo.startingLsn)
    ⟨out.yielded.filter fun y => startLsn ≤ y.record.lsn.toNat, out.error⟩

lemma readSegments_dropCovered {infos : List SegmentInfo} {n : Nat} (startLsn : Nat)
    (h : readSegments crc infos n = ⟨ys, none⟩) : ∃ before ys', ys = before ++ ys' ∧
      (∀ y ∈ before, y.record.lsn.toNat < startLsn) ∧ readSegments crc (dropCovered startLsn infos)
        ((dropCovered startLsn infos).head?.elim startLsn SegmentInfo.startingLsn) =
          ⟨ys', none⟩ := by
  induction infos generalizing n ys with
  | nil => exact ⟨[], ys, rfl, by simp, h⟩
  | cons info rest ih =>
    have hbeg : info.startingLsn = n := by
      by_contra hne
      simp [readSegments, hne] at h
    have hkeep : ∃ before ys', ys = before ++ ys' ∧ (∀ y ∈ before, y.record.lsn.toNat < startLsn) ∧
        readSegments crc (info :: rest) info.startingLsn = ⟨ys', none⟩ :=
      ⟨[], ys, rfl, by simp, hbeg ▸ h⟩
    cases rest with
    | nil => exact hkeep
    | cons next rest =>
      unfold dropCovered
      split
      next hle =>
        obtain ⟨rs, ys', _, hlog, _, hread, rfl⟩ := readSegments_cons_ok (by simp) h
        have hnext : next.startingLsn = n + rs.length := by
          by_contra hne
          simp [readSegments, hne] at hread
        obtain ⟨before, ys'', rfl, hbef, hkept⟩ := ih hread
        refine ⟨_, ys'', (append_assoc _ _ _).symm, fun y hy => ?_, hkept⟩
        rcases mem_append.mp hy with hy | hy
        · have hmem : y.record ∈ rs := by
            rw [← map_record_yieldsAt info.segmentSeq walSegmentHeaderLen rs]
            exact List.mem_map_of_mem hy
          have hbound := (hlog.numbered.bounds _ hmem).2
          omega
        · exact hbef y hy
      · exact hkeep

/-- Reading from an LSN is reading everything and leaving out what is below. -/
theorem iterFrom_eq_filter (h : readDir crc dir uuid = ⟨ys, none⟩) (startLsn : Nat) :
    iterFrom crc dir uuid startLsn = ⟨ys.filter fun y => startLsn ≤ y.record.lsn.toNat, none⟩ := by
  obtain ⟨infos, hopen, hdr⟩ := readDir_ok h
  obtain ⟨before, ys', rfl, hbef, hkept⟩ := readSegments_dropCovered startLsn hdr
  have hnone : before.filter (fun y => decide (startLsn ≤ y.record.lsn.toNat)) = [] := by
    refine filter_eq_nil_iff.mpr fun y hy => ?_
    have hlt := hbef y hy
    simp only [decide_eq_true_eq]
    omega
  simp only [iterFrom, hopen, hkept, filter_append, hnone, nil_append]

theorem iterFrom_inside_tornDir :
    (iterFrom zeroCrc tornDir zeroUuid 2).yielded.map (·.record.lsn) = [2, 3] ∧
      (iterFrom zeroCrc tornDir zeroUuid 2).error = none := by
  rw [iterFrom_eq_filter (ReadOutcome.eq_of_error_none tornDir_read) 2]
  decide +kernel

end WalReader
end BrainDb
