import BrainDb.Wal.Reopen

namespace BrainDb
open List WalRecord
open WalReader (drain openDir readDir)
variable (crc : Checksum)

def HidesRecord (lsn : Nat) (bytes : Bytes) : Prop :=
  ∃ (front : Bytes) (r : WalRecord) (rest : Bytes),
    bytes = front ++ (r.encode crc ++ rest) ∧ r.Fits ∧ lsn ≤ r.lsn.toNat

def fitting : Nat → Records → Records
  | _, [] => []
  | k, r :: rs => if r.encodedLen ≤ k then r :: fitting (k - r.encodedLen) rs else []

variable (k : Nat)

def tornPart (rs : Records) : Bytes :=
  ((encodeAll crc rs).take k).drop (encodeAll crc (fitting k rs)).length

variable {crc}

lemma validRecordSurvivesAfter_iff (lsn : Nat) (bytes : Bytes) :
    validRecordSurvivesAfter crc lsn bytes = true ↔ HidesRecord crc lsn bytes := by
  induction bytes with
  | nil =>
    refine iff_of_false (by simp [validRecordSurvivesAfter]) ?_
    rintro ⟨front, r, rest, hbs, _, _⟩
    have hlen := congrArg List.length hbs
    have hpos := r.encodedLen_pos
    simp only [length_nil, length_append, length_encode] at hlen
    omega
  | cons b bytes ih =>
    have hshift : HidesRecord crc lsn bytes → HidesRecord crc lsn (b :: bytes) := by
      rintro ⟨front, r, rest, rfl, hfits, hle⟩
      exact ⟨b :: front, r, rest, rfl, hfits, hle⟩
    -- a record at a later offset, or the one that starts here
    have hsplit : HidesRecord crc lsn (b :: bytes) → HidesRecord crc lsn bytes ∨
        ∃ r n, decodeOne crc (b :: bytes) = .ok (.record r n) ∧ lsn ≤ r.lsn.toNat := by
      rintro ⟨front, r, rest, hbs, hfits, hle⟩
      cases front with
      | nil =>
        rw [hbs, nil_append]
        exact .inr ⟨r, _, decodeOne_encode_append crc hfits rest, hle⟩
      | cons c front =>
        obtain ⟨_, rfl⟩ := List.cons.inj hbs
        exact .inl ⟨front, r, rest, rfl, hfits, hle⟩
    rw [validRecordSurvivesAfter]
    split
    next r n hdec =>
      obtain ⟨hfits, rfl, hshape⟩ := decodeOne_record hdec
      rw [Bool.or_eq_true, decide_eq_true_iff, ih]
      constructor
      · rintro (hle | hlater)
        · exact ⟨[], r, (b :: bytes).drop r.encodedLen, hshape, hfits, hle⟩
        · exact hshift hlater
      · intro hhides
        rcases hsplit hhides with hlater | ⟨s, m, hs, hle⟩
        · exact .inr hlater
        · rw [hdec] at hs
          cases hs
          exact .inl hle
    next hnone =>
      rw [ih]
      refine ⟨hshift, ?_⟩
      intro hhides
      rcases hsplit hhides with hlater | ⟨r, n, hdec, _⟩
      · exact hlater
      · exact absurd hdec (hnone r n)

variable (crc) in
lemma take_encodeAll (rs : Records) :
    (encodeAll crc rs).take k = encodeAll crc (fitting k rs) ++ tornPart crc k rs ∧
      (tornPart crc k rs = [] ∨ ∃ r ∈ rs, tornPart crc k rs <+: r.encode crc ∧
        tornPart crc k rs ≠ r.encode crc) := by
  induction rs generalizing k with
  | nil => simp [tornPart, fitting]
  | cons r rs ih =>
    have hlen := r.length_encode crc
    by_cases hroom : r.encodedLen ≤ k
    · have htake : (encodeAll crc (r :: rs)).take k =
          r.encode crc ++ (encodeAll crc rs).take (k - r.encodedLen) := by
        rw [encodeAll_cons, take_append, hlen, take_of_length_le (by omega)]
      have htorn : tornPart crc k (r :: rs) = tornPart crc (k - r.encodedLen) rs := by
        rw [tornPart, htake, fitting, if_pos hroom, encodeAll_cons, length_append,
          ← drop_drop, drop_left]
        rfl
      obtain ⟨hsplit, hcut⟩ := ih (k - r.encodedLen)
      rw [htake, htorn, fitting, if_pos hroom, encodeAll_cons, append_assoc, ← hsplit]
      refine ⟨rfl, hcut.imp id ?_⟩
      rintro ⟨s, hs, hbeg⟩
      exact ⟨s, mem_cons_of_mem r hs, hbeg⟩
    · have htake : (encodeAll crc (r :: rs)).take k = (r.encode crc).take k := by
        rw [encodeAll_cons, take_append_of_le_length (by omega)]
      have htorn : tornPart crc k (r :: rs) = (r.encode crc).take k := by
        rw [tornPart, htake, fitting, if_neg hroom]
        rfl
      rw [htake, htorn, fitting, if_neg hroom]
      refine ⟨rfl, .inr ⟨r, mem_cons_self, take_prefix k _, ?_⟩⟩
      intro heq
      have hshort := congrArg List.length heq
      rw [length_take, hlen] at hshort
      omega

lemma fitting_prefix (rs : Records) : fitting k rs <+: rs := by
  induction rs generalizing k with
  | nil => exact nil_prefix
  | cons r rs ih =>
    rw [fitting]
    split
    · exact (prefix_cons_inj r).mpr (ih _)
    · exact nil_prefix

variable (crc) in
lemma scanSegment_take (segmentSeq offset k : Nat) {n : Nat} {rs : Records}
    (h : IsLog n rs) : scanSegment crc segmentSeq true ((encodeAll crc rs).take k).length offset n
        ((encodeAll crc rs).take k) = (yieldsAt segmentSeq offset (fitting k rs),
        if tornPart crc k rs = [] then .exhausted (n + (fitting k rs).length)
        else if validRecordSurvivesAfter crc (n + (fitting k rs).length) (tornPart crc k rs) then
          .failed (.midSegmentCorruption segmentSeq) else .tornTail) := by
  obtain ⟨hsplit, hcut⟩ := take_encodeAll crc k rs
  have hfit : IsLog n (fitting k rs) := by
    obtain ⟨more, hmore⟩ := fitting_prefix k rs
    rw [← hmore] at h
    exact (isLog_append.mp h).1
  have hlong := length_le_length_encodeAll crc (fitting k rs)
  obtain ⟨extra, hextra⟩ := Nat.exists_eq_add_of_le hlong
  have hfuel : ((encodeAll crc rs).take k).length =
      (extra + (tornPart crc k rs).length) + (fitting k rs).length := by
    rw [hsplit, length_append, hextra]
    omega
  rw [hfuel, hsplit, scanSegment_append crc segmentSeq true _ offset hfit]
  cases htorn : tornPart crc k rs with
  | nil => simp [scanSegment]
  | cons b bytes =>
    have hdec : decodeOne crc (b :: bytes) = .ok .truncated := by
      obtain ⟨r, hr, hbeg, hne⟩ := hcut.resolve_left (by rw [htorn]; exact cons_ne_nil b bytes)
      rw [htorn] at hbeg hne
      exact decodeOne_prefix crc (h.fits r hr) hbeg hne
    rw [length_cons, ← Nat.add_assoc]
    simp only [scanSegment, hdec, if_true, reduceCtorEq, if_false]
    split
    · simp
    · simp

lemma readDir_take {uuid : ShardUuid} {seq n : Nat} {header : Bytes}
    (hhdr : ValidHeader crc uuid seq n header) {rs : Records} (h : IsLog n rs) (k : Nat) :
    readDir crc [⟨seq, header ++ (encodeAll crc rs).take k⟩] uuid =
      ⟨yieldsAt seq walSegmentHeaderLen (fitting k rs),
        if validRecordSurvivesAfter crc (n + (fitting k rs).length) (tornPart crc k rs) then
          some (.midSegmentCorruption seq) else none⟩ := by
  have hopen : openDir crc [⟨seq, header ++ (encodeAll crc rs).take k⟩] uuid =
      .ok [⟨seq, n, header ++ (encodeAll crc rs).take k⟩] :=
    openDir_of_validated (List.Forall₂.cons (readAndValidateSegmentHeader_append hhdr _)
      List.Forall₂.nil) ⟨rfl, trivial⟩
  have hbody : (header ++ (encodeAll crc rs).take k).drop walSegmentHeaderLen =
      (encodeAll crc rs).take k := by
    rw [← hhdr.length_eq, drop_left]
  have hscan := scanSegment_take crc seq walSegmentHeaderLen k h
  simp only [readDir, hopen, drain, firstLsn, readSegments, ne_eq,
    not_true_eq_false, if_false, hbody, isEmpty_nil, hscan]
  cases htorn : tornPart crc k rs with
  | nil => simp [validRecordSurvivesAfter]
  | cons b bytes =>
    cases validRecordSurvivesAfter crc (n + (fitting k rs).length) (b :: bytes) with
    | false => rfl
    | true => rfl

/-- A cut log reads as its whole records without error exactly when no record with a number
still to come stands complete inside the torn one. -/
theorem torn_segment_reads_iff (crc : Bytes → UInt32) (uuid : ShardUuid) (seq n : Nat)
    (header : Bytes) (rs : Records) (k : Nat)
    (hhdr : ValidHeader crc uuid seq n header) (h : IsLog n rs) :
    ((readDir crc [⟨seq, header ++ (encodeAll crc rs).take k⟩] uuid).yielded.map
          Yielded.record = fitting k rs ∧
        (readDir crc [⟨seq, header ++ (encodeAll crc rs).take k⟩] uuid).error = none) ↔
      ¬ HidesRecord crc (n + (fitting k rs).length) (tornPart crc k rs) := by
  rw [readDir_take hhdr h k, ← validRecordSurvivesAfter_iff]
  cases validRecordSurvivesAfter crc (n + (fitting k rs).length) (tornPart crc k rs) with
  | false => simp
  | true => simp

section

def nestedRecord : WalRecord :=
  { lsn := 1, kind := .encode, flags := 0, timestampNs := 0, spaceIdLo64 := 0,
    payload := (recordAt 1 (.body .encode [])).encode zeroCrc }

lemma nestedRecord_isLog : IsLog 1 [nestedRecord] := by
  refine ⟨⟨rfl, trivial⟩, ?_⟩
  intro r hr
  rw [mem_singleton.mp hr]
  decide

theorem nestedRecord_cut_in_header : ((readDir zeroCrc [⟨0, segmentHeader zeroCrc zeroUuid 0 1 0 ++
          (encodeAll zeroCrc [nestedRecord]).take 20⟩] zeroUuid).yielded.map Yielded.record =
        fitting 20 [nestedRecord] ∧ (readDir zeroCrc [⟨0, segmentHeader zeroCrc zeroUuid 0 1 0 ++
          (encodeAll zeroCrc [nestedRecord]).take 20⟩] zeroUuid).error = none) := by
  refine (torn_segment_reads_iff zeroCrc zeroUuid 0 1 _ [nestedRecord] 20
    (segmentHeader_valid _ _ 0 (by omega) (by omega)) nestedRecord_isLog).mpr ?_
  rw [← validRecordSurvivesAfter_iff]
  decide

/-- Cut behind the payload, where only the footer is missing, the reader stops with an error
although nothing follows the torn record. -/
theorem nestedRecord_cut_bricks : (readDir zeroCrc [⟨0, segmentHeader zeroCrc zeroUuid 0 1 0 ++
      (encodeAll zeroCrc [nestedRecord]).take 72⟩] zeroUuid).error =
        some (.midSegmentCorruption 0) := by
  decide +kernel
end
end BrainDb
