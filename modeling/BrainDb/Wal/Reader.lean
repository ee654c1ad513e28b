import BrainDb.Base.Except
import BrainDb.Base.Numbered
import BrainDb.Wal.Segment

namespace BrainDb
open List ExceptLemmas Bytes WalReader Numbered Nat

structure Yielded where
  record : WalRecord
  (endOffset segmentSeq : Nat)
  deriving DecidableEq

def validRecordSurvivesAfter (crc : Checksum) (expectedLsn : Nat) :
    Bytes → Bool
  | [] => false
  | b :: bytes =>
    match decodeOne crc (b :: bytes) with
    | .ok (.record r _) => expectedLsn ≤ r.lsn.toNat || validRecordSurvivesAfter crc expectedLsn bytes
    | _ => validRecordSurvivesAfter crc expectedLsn bytes

inductive SegmentEnd where
  | exhausted (expectedLsn : Nat)
  | tornTail
  | failed (error : WalReadError)
  deriving DecidableEq

def strictError (segmentSeq expectedLsn : Nat) :
    Except WalRecordError DecodeOutcome → WalReadError
  | .error (.crcMismatch _ _) => .midSegmentCorruption segmentSeq
  | .error source => .recordError segmentSeq expectedLsn source
  | .ok _ => .midSegmentCorruption segmentSeq

/-- The record loop inside one loaded segment. `offset` is the cursor and `bytes`
what follows it; every record takes bytes, so the length is fuel enough. The expected LSN is a
number without a bound: see `scanSegment_exhausted_lt`. -/
def scanSegment (crc : Checksum) (segmentSeq : Nat) (isLast : Bool) :
    Nat → Nat → Nat → Bytes → List Yielded × SegmentEnd
  | _, _, expectedLsn, [] => ([], .exhausted expectedLsn)
  | 0, _, expectedLsn, _ => ([], .exhausted expectedLsn)
  | fuel + 1, offset, expectedLsn, b :: bytes =>
    match decodeOne crc (b :: bytes) with
    | .ok (.record r consumed) =>
      if r.lsn.toNat ≠ expectedLsn then
        ([], .failed (.lsnGap segmentSeq expectedLsn r.lsn.toNat))
      else
        let rest := scanSegment crc segmentSeq isLast fuel (offset + consumed) (r.lsn.toNat + 1)
          ((b :: bytes).drop consumed)
        (⟨r, offset + consumed, segmentSeq⟩ :: rest.1, rest.2)
    | outcome =>
      if isLast then
        if validRecordSurvivesAfter crc expectedLsn (b :: bytes) then
          ([], .failed (.midSegmentCorruption segmentSeq))
        else ([], .tornTail)
      else ([], .failed (strictError segmentSeq expectedLsn outcome))

/-- The expected number stays within 64 bits, as the source's `lsn + 1` does, up to a record that
carries the greatest one. -/
lemma scanSegment_exhausted_lt {crc : Checksum} {segmentSeq fuel offset expectedLsn next : Nat}
    {isLast : Bool} {bytes : Bytes} (hbeg : expectedLsn < 2 ^ 64)
    (h : (scanSegment crc segmentSeq isLast fuel offset expectedLsn bytes).2 = .exhausted next)
    (hmax : ∀ y ∈ (scanSegment crc segmentSeq isLast fuel offset expectedLsn bytes).1,
      y.record.lsn.toNat + 1 < 2 ^ 64) : next < 2 ^ 64 := by
  induction fuel generalizing offset expectedLsn bytes with
  | zero =>
    cases bytes <;> cases h <;> exact hbeg
  | succ fuel ih =>
    cases bytes with
    | nil =>
      cases h
      exact hbeg
    | cons b bytes =>
      unfold scanSegment at h hmax
      split at h
      next r consumed hdec =>
        simp only [hdec] at hmax
        split at h
        · cases h
        next hlsn =>
          rw [if_neg hlsn] at hmax
          exact ih (hmax _ mem_cons_self) h fun y hy => hmax y (mem_cons_of_mem _ hy)
      · split at h
        · split at h <;> cases h
        · cases h

structure ReadOutcome where
  yielded : List Yielded
  error : Option WalReadError
  deriving DecidableEq

open ReadOutcome

def readSegments (crc : Checksum) : List SegmentInfo → Nat → ReadOutcome
  | [], _ => ⟨[], none⟩
  | info :: rest, expectedLsn =>
    if info.startingLsn ≠ expectedLsn then
      ⟨[], some (.lsnGapAtSegmentBoundary info.segmentSeq expectedLsn info.startingLsn)⟩
    else
      let body := info.bytes.drop walSegmentHeaderLen
      let scan := scanSegment crc info.segmentSeq rest.isEmpty body.length walSegmentHeaderLen
        expectedLsn body
      match scan.2 with
      | .exhausted next =>
        let tail := readSegments crc rest next
        ⟨scan.1 ++ tail.yielded, tail.error⟩
      | .tornTail => ⟨scan.1, none⟩
      | .failed e => ⟨scan.1, some e⟩

def firstLsn (infos : List SegmentInfo) : Nat :=
  match infos with
  | [] => 1
  | info :: _ => info.startingLsn

def WalReader.drain (crc : Checksum) (infos : List SegmentInfo) : ReadOutcome :=
  readSegments crc infos (firstLsn infos)

def WalReader.readDir (crc : Checksum) (dir : WalDir) (uuid : ShardUuid) :
    ReadOutcome :=
  match openDir crc dir uuid with
  | .error e => ⟨[], some e⟩
  | .ok infos => drain crc infos

def encodeAll (crc : Checksum) (rs : Records) : Bytes :=
  rs.flatMap (WalRecord.encode crc)

@[simp] lemma encodeAll_nil (crc : Checksum) : encodeAll crc [] = [] := rfl

@[simp] lemma encodeAll_cons (crc : Checksum) (r : WalRecord) (rs : Records) :
    encodeAll crc (r :: rs) = r.encode crc ++ encodeAll crc rs := rfl

@[simp] lemma encodeAll_append (crc : Checksum) (rs ss : Records) :
    encodeAll crc (rs ++ ss) = encodeAll crc rs ++ encodeAll crc ss := by
  simp [encodeAll]

def yieldsAt (segmentSeq : Nat) : Nat → Records → List Yielded
  | _, [] => []
  | offset, r :: rs =>
    ⟨r, offset + r.encodedLen, segmentSeq⟩ :: yieldsAt segmentSeq (offset + r.encodedLen) rs

@[simp] lemma map_record_yieldsAt (segmentSeq offset : Nat) (rs : Records) :
    (yieldsAt segmentSeq offset rs).map Yielded.record = rs := by
  induction rs generalizing offset with
  | nil => rfl
  | cons r rs ih => simp [yieldsAt, ih]

structure IsLog (n : Nat) (rs : Records) : Prop where
  numbered : From (fun r : WalRecord => r.lsn.toNat) n rs
  fits : ∀ r ∈ rs, r.Fits

lemma IsLog.nil (n : Nat) : IsLog n [] := ⟨trivial, by simp⟩

variable {n : Nat} {rs : Records} {infos : List SegmentInfo} {chunks : List Records}

lemma isLog_append {ss : Records} : IsLog n (rs ++ ss) ↔ IsLog n rs ∧ IsLog (n + rs.length) ss := by
  constructor
  · rintro ⟨hn, hf⟩
    obtain ⟨hr, hs⟩ := from_append.mp hn
    exact ⟨⟨hr, fun r hr => hf r (by simp [hr])⟩, ⟨hs, fun r hr => hf r (by simp [hr])⟩⟩
  · rintro ⟨⟨hr, hfr⟩, ⟨hs, hfs⟩⟩
    refine ⟨from_append.mpr ⟨hr, hs⟩, ?_⟩
    intro r hm
    rcases mem_append.mp hm with hm | hm
    · exact hfr r hm
    · exact hfs r hm

section
variable (crc : Checksum) (segmentSeq : Nat) (isLast : Bool)

lemma scanSegment_append (fuel offset : Nat) (h : IsLog n rs) (tail : Bytes) :
    scanSegment crc segmentSeq isLast (fuel + rs.length) offset n (encodeAll crc rs ++ tail) =
      (yieldsAt segmentSeq offset rs ++
        (scanSegment crc segmentSeq isLast fuel (offset + (encodeAll crc rs).length)
          (n + rs.length) tail).1,
        (scanSegment crc segmentSeq isLast fuel (offset + (encodeAll crc rs).length)
          (n + rs.length) tail).2) := by
  induction rs generalizing offset n with
  | nil => simp [yieldsAt]
  | cons r rs ih =>
    obtain ⟨hlsn, hnum⟩ := h.numbered
    have hpos := r.encodedLen_pos
    have hlen := r.length_encode crc
    have htail : IsLog (n + 1) rs := ⟨hnum, fun s hs => h.fits s (by simp [hs])⟩
    have hdec := WalRecord.decodeOne_encode_append crc (h.fits r (by simp))
      (encodeAll crc rs ++ tail)
    have hdrop : (r.encode crc ++ (encodeAll crc rs ++ tail)).drop r.encodedLen =
        encodeAll crc rs ++ tail := by
      rw [← hlen, drop_left]
    have hrec := ih (offset + r.encodedLen) htail
    rw [encodeAll_cons, append_assoc, length_cons, ← add_assoc]
    cases hb : r.encode crc ++ (encodeAll crc rs ++ tail) with
    | nil =>
      have hl := congrArg List.length hb
      simp only [length_append, hlen, length_nil] at hl
      omega
    | cons b bytes =>
      rw [hb] at hdec hdrop
      have hnext : n + (rs.length + 1) = n + 1 + rs.length := by omega
      have hoffset : offset + (r.encode crc ++ encodeAll crc rs).length =
          offset + r.encodedLen + (encodeAll crc rs).length := by
        rw [length_append, hlen, add_assoc]
      simp only [scanSegment, hdec, hlsn, ne_eq, not_true_eq_false, if_false, hdrop, hrec,
        yieldsAt, cons_append, hnext, hoffset]

lemma length_le_length_encodeAll (rs : Records) : rs.length ≤ (encodeAll crc rs).length := by
  induction rs with
  | nil => simp
  | cons r rs ih =>
    have hpos := r.encodedLen_pos
    simp only [encodeAll_cons, length_cons, length_append, WalRecord.length_encode]
    omega

lemma scanSegment_encodeAll (offset : Nat) {fuel : Nat} (h : IsLog n rs)
    (hfuel : (encodeAll crc rs).length ≤ fuel) :
    scanSegment crc segmentSeq isLast fuel offset n (encodeAll crc rs) =
      (yieldsAt segmentSeq offset rs, .exhausted (n + rs.length)) := by
  obtain ⟨extra, rfl⟩ := Nat.exists_eq_add_of_le ((length_le_length_encodeAll crc rs).trans hfuel)
  have happend := scanSegment_append crc segmentSeq isLast extra offset h []
  rw [append_nil, Nat.add_comm extra] at happend
  simpa [scanSegment] using happend

def SegmentEnd.Leaves (crc : Checksum) (next : Nat) (tail : Bytes) :
    SegmentEnd → Prop
  | .exhausted m => tail = [] ∧ m = next
  | .tornTail => validRecordSurvivesAfter crc next tail = false
  | .failed _ => True

lemma scanSegment_sound (offset n : Nat) {fuel : Nat} {bytes : Bytes}
    (hfuel : bytes.length ≤ fuel) : ∃ rs tail, bytes = encodeAll crc rs ++ tail ∧ IsLog n rs ∧
      (scanSegment crc segmentSeq isLast fuel offset n bytes).1 = yieldsAt segmentSeq offset rs ∧
      (scanSegment crc segmentSeq isLast fuel offset n bytes).2.Leaves crc (n + rs.length) tail := by
  induction fuel generalizing offset n bytes with
  | zero =>
    have hb : bytes = [] := length_eq_zero_iff.mp (by omega)
    subst hb
    exact ⟨[], [], rfl, IsLog.nil n, rfl, rfl, rfl⟩
  | succ fuel ih =>
    cases bytes with
    | nil => exact ⟨[], [], rfl, IsLog.nil n, rfl, rfl, rfl⟩
    | cons b bytes =>
      rw [scanSegment]
      split
      next r consumed hdec =>
        obtain ⟨hfits, rfl, hshape⟩ := WalRecord.decodeOne_record hdec
        split
        · exact ⟨[], b :: bytes, rfl, IsLog.nil n, rfl, trivial⟩
        next hlsn =>
          simp only [ne_eq, Decidable.not_not] at hlsn
          have hpos := r.encodedLen_pos
          have hlength : ((b :: bytes).drop r.encodedLen).length ≤ fuel := by
            simp only [length_drop]
            omega
          obtain ⟨rs, tail, hbs, hlog, hyield, hend⟩ :=
            ih (offset + r.encodedLen) (r.lsn.toNat + 1) hlength
          refine ⟨r :: rs, tail, ?_, ?_, ?_, ?_⟩
          · rw [encodeAll_cons, append_assoc, ← hbs]
            exact hshape
          · refine ⟨⟨hlsn, ?_⟩, ?_⟩
            · simpa only [hlsn] using hlog.numbered
            · intro s hs
              rcases mem_cons.mp hs with rfl | hs
              · exact hfits
              · exact hlog.fits s hs
          · simp only [hyield, yieldsAt]
          · have hnext : n + (r :: rs).length = r.lsn.toNat + 1 + rs.length := by
              simp only [hlsn, length_cons]
              omega
            rw [hnext]
            exact hend
      · refine ⟨[], b :: bytes, rfl, IsLog.nil n, ?_⟩
        split
        · split
          · exact ⟨rfl, trivial⟩
          next hnone => exact ⟨rfl, Bool.eq_false_iff.mpr hnone⟩
        · exact ⟨rfl, trivial⟩

lemma scanSegment_ne_tornTail (fuel offset n : Nat) (bytes : Bytes) :
    (scanSegment crc segmentSeq false fuel offset n bytes).2 ≠ .tornTail := by
  induction fuel generalizing offset n bytes with
  | zero => cases bytes <;> simp [scanSegment]
  | succ fuel ih =>
    cases bytes with
    | nil => simp [scanSegment]
    | cons b bytes =>
      rw [scanSegment]
      split
      next r consumed _ =>
        split
        · simp
        · exact ih _ _ _
      · simp
end

inductive HoldsLog (crc : Checksum) :
    Nat → List SegmentInfo → List Records → Prop
  | nil {n : Nat} : HoldsLog crc n [] []
  | cons {n : Nat} {info : SegmentInfo} {rs : Records} {infos : List SegmentInfo}
      {chunks : List Records} : info.startingLsn = n → IsLog n rs →
      info.bytes.drop walSegmentHeaderLen = encodeAll crc rs →
      HoldsLog crc (n + rs.length) infos chunks → HoldsLog crc n (info :: infos) (rs :: chunks)

def yieldsLog (infos : List SegmentInfo) (chunks : List Records) : List Yielded :=
  (List.zipWith (fun info rs => yieldsAt info.segmentSeq walSegmentHeaderLen rs) infos chunks).flatten

lemma ReadOutcome.eq_of_error_none {out : ReadOutcome} (h : out.error = none) :
    out = ⟨out.yielded, none⟩ := by
  cases out
  simpa using h

variable {info : SegmentInfo} {crc : Checksum}

section

lemma HoldsLog.length_eq (h : HoldsLog crc n infos chunks) : infos.length = chunks.length := by
  induction h with
  | nil => rfl
  | cons _ _ _ _ ih => simp [ih]

lemma HoldsLog.forall₂ (h : HoldsLog crc n infos chunks) :
    List.Forall₂ (fun info rs => info.bytes.drop walSegmentHeaderLen = encodeAll crc rs)
      infos chunks := by
  induction h with
  | nil => exact .nil
  | cons _ _ hbody _ ih => exact .cons hbody ih

lemma HoldsLog.isLog (h : HoldsLog crc n infos chunks) : IsLog n chunks.flatten := by
  induction h with
  | nil => exact IsLog.nil _
  | cons _ hlog _ _ ih => exact isLog_append.mpr ⟨hlog, ih⟩

lemma map_record_yieldsLog (h : infos.length = chunks.length) :
    (yieldsLog infos chunks).map Yielded.record = chunks.flatten := by
  induction infos generalizing chunks with
  | nil =>
    have hc : chunks = [] := length_eq_zero_iff.mp h.symm
    simp [yieldsLog, hc]
  | cons info infos ih =>
    cases chunks with
    | nil => simp at h
    | cons rs chunks =>
      have ht := @ih chunks (by simpa using h)
      simp only [yieldsLog] at ht
      simp [yieldsLog, ht]

lemma readSegments_append (h : HoldsLog crc n infos chunks) (rest : List SegmentInfo) :
    readSegments crc (infos ++ rest) n =
      ⟨yieldsLog infos chunks ++ (readSegments crc rest (n + chunks.flatten.length)).yielded,
        (readSegments crc rest (n + chunks.flatten.length)).error⟩ := by
  induction h with
  | nil => simp [yieldsLog]
  | @cons n info rs infos chunks hbeg hlog hbody hrest ih =>
    have hscan := scanSegment_encodeAll crc info.segmentSeq (infos ++ rest).isEmpty
      walSegmentHeaderLen hlog (le_refl _)
    simp only [cons_append, readSegments, hbeg, ne_eq, not_true_eq_false, if_false, hbody,
      hscan, ih, flatten_cons, length_append, add_assoc]
    simp [yieldsLog]

lemma readSegments_holdsLog (h : HoldsLog crc n infos chunks) :
    readSegments crc infos n = ⟨yieldsLog infos chunks, none⟩ := by
  simpa [readSegments] using readSegments_append h []

lemma HoldsLog.firstLsn_append (h : HoldsLog crc n infos chunks) (info : SegmentInfo)
    (hinfo : info.startingLsn = n + chunks.flatten.length) : firstLsn (infos ++ [info]) = n := by
  cases h with
  | nil => simpa [firstLsn] using hinfo
  | cons hbeg _ _ _ => exact hbeg

lemma readSegments_cons_ok {rest : List SegmentInfo} {ys : List Yielded} (hrest : rest ≠ [])
    (h : readSegments crc (info :: rest) n = ⟨ys, none⟩) :
    ∃ rs ys', info.startingLsn = n ∧ IsLog n rs ∧
      info.bytes.drop walSegmentHeaderLen = encodeAll crc rs ∧
      readSegments crc rest (n + rs.length) = ⟨ys', none⟩ ∧
      ys = yieldsAt info.segmentSeq walSegmentHeaderLen rs ++ ys' := by
  obtain ⟨rs, tail, hbs, hlog, hyield, hend⟩ := scanSegment_sound crc info.segmentSeq false
    walSegmentHeaderLen n (le_refl (info.bytes.drop walSegmentHeaderLen).length)
  simp only [readSegments, isEmpty_eq_false_iff.mpr hrest] at h
  split at h
  · simp at h
  next hbeg =>
    simp only [ne_eq, Decidable.not_not] at hbeg
    split at h
    next next hexhausted =>
      rw [hexhausted] at hend
      obtain ⟨rfl, rfl⟩ := hend
      simp only [mk.injEq] at h
      refine ⟨rs, _, hbeg, hlog, by simpa using hbs, eq_of_error_none h.2, ?_⟩
      rw [← hyield]
      exact h.1.symm
    next htorn => exact absurd htorn (scanSegment_ne_tornTail crc _ _ _ _ _)
    · cases congrArg error h

lemma readSegments_ok {earlier : List SegmentInfo} {active : SegmentInfo} {ys : List Yielded}
    (h : readSegments crc (earlier ++ [active]) n = ⟨ys, none⟩) :
    ∃ chunks rs tail, HoldsLog crc n earlier chunks ∧
      active.startingLsn = n + chunks.flatten.length ∧ IsLog active.startingLsn rs ∧
      active.bytes.drop walSegmentHeaderLen = encodeAll crc rs ++ tail ∧
      ys = yieldsLog earlier chunks ++ yieldsAt active.segmentSeq walSegmentHeaderLen rs ∧
      validRecordSurvivesAfter crc (active.startingLsn + rs.length) tail = false := by
  induction earlier generalizing n ys with
  | nil =>
    obtain ⟨rs, tail, hbs, hlog, hyield, hend⟩ := scanSegment_sound crc active.segmentSeq true
      walSegmentHeaderLen n (le_refl (active.bytes.drop walSegmentHeaderLen).length)
    simp only [nil_append, readSegments, isEmpty_nil] at h
    split at h
    · simp at h
    next hbeg =>
      simp only [ne_eq, Decidable.not_not] at hbeg
      subst hbeg
      refine ⟨[], rs, tail, HoldsLog.nil, by simp, hlog, hbs, ?_⟩
      rw [← hyield]
      split at h
      next hscan =>
        rw [hscan] at hend
        rw [hend.1]
        simp only [append_nil, mk.injEq] at h
        exact ⟨h.1.symm, rfl⟩
      next hscan =>
        rw [hscan] at hend
        exact ⟨(mk.inj h).1.symm, hend⟩
      · cases (mk.inj h).2
  | cons info earlier ih =>
    obtain ⟨rs, ys', hbeg, hlog, hbs, hread, rfl⟩ := readSegments_cons_ok (by simp) h
    obtain ⟨chunks, ss, torn, hold, hact, hlast, hbody, rfl, hnone⟩ := ih hread
    refine ⟨rs :: chunks, ss, torn, HoldsLog.cons hbeg hlog hbs hold, ?_, hlast, hbody, ?_, hnone⟩
    · simp only [flatten_cons, length_append]
      omega
    · simp [yieldsLog]
end

/-- The files of a directory that holds exactly the given records: consecutive segments from
number `seq`, each a valid header and the encoding of its records, numbered from `n`. -/
inductive DirHolds (crc : Checksum) (uuid : ShardUuid) :
    Nat → Nat → WalDir → List Records → Prop
  | nil {seq n : Nat} : DirHolds crc uuid seq n [] []
  | cons {seq n : Nat} {header : Bytes} {rs : Records} {dir : WalDir}
      {chunks : List Records} : ValidHeader crc uuid seq n header → IsLog n rs →
      DirHolds crc uuid (seq + 1) (n + rs.length) dir chunks →
      DirHolds crc uuid seq n (⟨seq, header ++ encodeAll crc rs⟩ :: dir) (rs :: chunks)

section
variable {uuid : ShardUuid} {seq : Nat} {dir : WalDir}

lemma DirHolds.append {dir' : WalDir} {chunks' : List Records}
    (h : DirHolds crc uuid seq n dir chunks)
    (h' : DirHolds crc uuid (seq + dir.length) (n + chunks.flatten.length) dir' chunks') :
    DirHolds crc uuid seq n (dir ++ dir') (chunks ++ chunks') := by
  induction h with
  | nil => simpa using h'
  | @cons seq n header rs dir chunks hhdr hlog hrest ih =>
    refine DirHolds.cons hhdr hlog (ih ?_)
    simpa only [flatten_cons, length_append, length_cons, add_assoc, add_comm 1] using h'

lemma DirHolds.split_last {f : SegmentFile} (h : DirHolds crc uuid seq n (dir ++ [f]) chunks) :
    ∃ init header rs, chunks = init ++ [rs] ∧ DirHolds crc uuid seq n dir init ∧
      f = ⟨seq + dir.length, header ++ encodeAll crc rs⟩ ∧
      ValidHeader crc uuid (seq + dir.length) (n + init.flatten.length) header ∧
      IsLog (n + init.flatten.length) rs := by
  induction dir generalizing seq n chunks with
  | nil =>
    cases h with
    | cons hhdr hlog hrest =>
      cases hrest
      exact ⟨[], _, _, rfl, DirHolds.nil, rfl, hhdr, hlog⟩
  | cons g dir ih =>
    cases h with
    | @cons _ _ header rs _ chunks hhdr hlog hrest =>
      obtain ⟨init, last, ss, rfl, hinit, hf, hval, hss⟩ := ih hrest
      have hseq : seq + 1 + dir.length = seq + (dir.length + 1) := by omega
      have hlsn : n + rs.length + init.flatten.length = n + (rs.length + init.flatten.length) := by
        omega
      refine ⟨rs :: init, last, ss, rfl, DirHolds.cons hhdr hlog hinit, ?_, ?_, ?_⟩
      · simpa only [length_cons, hseq] using hf
      · simpa only [length_cons, hseq, flatten_cons, length_append, hlsn] using hval
      · simpa only [flatten_cons, length_append, hlsn] using hss

lemma DirHolds.filenameSeq_lt (h : DirHolds crc uuid seq n dir chunks) :
    ∀ f ∈ dir, f.filenameSeq < seq + dir.length := by
  induction h with
  | nil => simp
  | @cons seq n header rs dir chunks hhdr hlog hrest ih =>
    intro f hf
    rcases mem_cons.mp hf with rfl | hf
    · simp only [length_cons]
      omega
    · have hb := ih f hf
      simp only [length_cons]
      omega

lemma checkSegmentSequence_iff : checkSegmentSequence (info :: infos) = .ok () ↔
      From SegmentInfo.segmentSeq (info.segmentSeq + 1) infos := by
  induction infos generalizing info with
  | nil => simp [checkSegmentSequence]
  | cons next infos ih =>
    simp only [checkSegmentSequence, from_cons]
    by_cases hnext : next.segmentSeq = info.segmentSeq + 1
    · simp only [hnext, ne_eq, not_true_eq_false, if_false, true_and]
      rw [ih, hnext]
    · simp [hnext]

lemma checkSegmentSequence_of_from (h : From SegmentInfo.segmentSeq seq infos) :
    checkSegmentSequence infos = .ok () := by
  cases infos with
  | nil => rfl
  | cons info infos =>
    obtain ⟨hfst, hrest⟩ := h
    rw [checkSegmentSequence_iff, hfst]
    exact hrest

lemma openDir_of_validated
    (hval : List.Forall₂ (fun f info => readAndValidateSegmentHeader crc uuid f = .ok info)
      dir infos) (hseq : From SegmentInfo.segmentSeq seq infos) :
    openDir crc dir uuid = .ok infos := by
  simp [openDir, mapM_ok_iff.mpr hval, checkSegmentSequence_of_from hseq,
    bind, Except.bind, pure, Except.pure]

lemma openDir_ok (h : openDir crc dir uuid = .ok infos) :
    List.Forall₂ (fun f info => readAndValidateSegmentHeader crc uuid f = .ok info) dir infos ∧
      checkSegmentSequence infos = .ok () := by
  unfold openDir at h
  cases hm : dir.mapM (readAndValidateSegmentHeader crc uuid) with
  | error e => simp [hm, bind, Except.bind] at h
  | ok opened =>
    cases hc : checkSegmentSequence opened with
    | error e => simp [hm, hc, bind, Except.bind] at h
    | ok u =>
      simp only [hm, hc, bind, Except.bind, pure, Except.pure, Except.ok.injEq] at h
      subst h
      exact ⟨mapM_ok_iff.mp hm, hc⟩

lemma DirHolds.validated (h : DirHolds crc uuid seq n dir chunks) :
    ∃ infos, List.Forall₂ (fun f info => readAndValidateSegmentHeader crc uuid f = .ok info)
        dir infos ∧ From SegmentInfo.segmentSeq seq infos ∧ HoldsLog crc n infos chunks := by
  induction h with
  | nil => exact ⟨[], List.Forall₂.nil, trivial, HoldsLog.nil⟩
  | @cons seq n header rs dir chunks hhdr hlog hrest ih =>
    obtain ⟨infos, hval, hseq, hold⟩ := ih
    refine ⟨⟨seq, n, header ++ encodeAll crc rs⟩ :: infos,
      List.Forall₂.cons (readAndValidateSegmentHeader_append hhdr _) hval, ⟨rfl, hseq⟩,
      HoldsLog.cons rfl hlog ?_ hold⟩
    rw [← hhdr.length_eq, drop_left]

lemma DirHolds.readDir (h : DirHolds crc uuid seq n dir chunks) :
    ∃ infos, openDir crc dir uuid = .ok infos ∧ infos.length = chunks.length ∧
      From SegmentInfo.segmentSeq seq infos ∧ drain crc infos = ⟨yieldsLog infos chunks, none⟩ := by
  obtain ⟨infos, hval, hseq, hold⟩ := h.validated
  refine ⟨infos, openDir_of_validated hval hseq, hold.length_eq, hseq, ?_⟩
  · have hfst : firstLsn infos = n ∨ infos = [] := by
      cases hold with
      | nil => exact .inr rfl
      | cons hbeg _ _ _ => exact .inl hbeg
    rcases hfst with hfst | rfl
    · rw [drain, hfst, readSegments_holdsLog hold]
    · cases hold
      rfl

lemma DirHolds.records (h : DirHolds crc uuid seq n dir chunks) :
    (WalReader.readDir crc dir uuid).yielded.map Yielded.record = chunks.flatten ∧
      (WalReader.readDir crc dir uuid).error = none := by
  obtain ⟨infos, hopen, hlength, _, hdr⟩ := h.readDir
  simp only [WalReader.readDir, hopen, hdr, map_record_yieldsLog hlength, and_self]

lemma dirHolds_of_holdsLog
    (hval : List.Forall₂ (fun f info => readAndValidateSegmentHeader crc uuid f = .ok info)
      dir infos) (hseq : From SegmentInfo.segmentSeq seq infos)
    (h : HoldsLog crc n infos chunks) : DirHolds crc uuid seq n dir chunks := by
  induction h generalizing seq dir with
  | nil =>
    cases hval
    exact DirHolds.nil
  | @cons n info rs infos chunks hbeg hlog hbody hrest ih =>
    cases hval with
    | @cons f _ files _ hf hfiles =>
      obtain ⟨header, body, rfl, hbs, hhdr⟩ := readAndValidateSegmentHeader_ok hf
      obtain ⟨hfst, htail⟩ := hseq
      have hbody' : body = encodeAll crc rs := by
        rw [hbs, ← hhdr.length_eq, drop_left] at hbody
        exact hbody
      rw [hfst, hbeg] at hhdr
      rw [hbody', hfst]
      exact DirHolds.cons hhdr hlog (ih hfiles htail)
end
end BrainDb
