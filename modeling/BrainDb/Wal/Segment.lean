import BrainDb.Wal.Record

namespace BrainDb
open List Bytes

def walSegmentHeaderLen : Nat := 4096
def walSegmentMagic : Bytes := [0x42, 0x57, 0x41, 0x4c]
def walSegmentFormatVersionV1 : Nat := 1
def walSegmentHeaderCrcCoverageEnd : Nat := 48

abbrev ShardUuid := { bytes : Bytes // bytes.length = 16 }

structure SegmentFile where
  filenameSeq : Nat
  bytes : Bytes

abbrev WalDir := List SegmentFile

structure SegmentInfo where
  (segmentSeq startingLsn : Nat)
  bytes : Bytes

inductive WalReadError where
  | segmentTooSmall (size : Nat)
  | invalidSegmentMagic (found : Bytes)
  | unsupportedSegmentFormatVersion (version : Nat)
  | segmentHeaderCrcMismatch (stored computed : UInt32)
  | segmentShardUuidMismatch (expected found : Bytes)
  | filenameSegmentSeqMismatch (filenameSeq headerSeq : Nat)
  | invalidSegmentFilename (filenameSeq : Nat)
  | segmentSequenceGap (after found : Nat)
  | lsnGapAtSegmentBoundary (segmentSeq expectedLsn foundStartingLsn : Nat)
  | lsnGap (inSegment expectedLsn foundLsn : Nat)
  | midSegmentCorruption (segmentSeq : Nat)
  | recordError (inSegment expectedLsn : Nat) (source : WalRecordError)
  deriving DecidableEq

def segmentHeaderCovered (shardUuid : ShardUuid) (segmentSeq startingLsn createdAt : Nat) :
    Bytes :=
  walSegmentMagic ++ leBytes 4 walSegmentFormatVersionV1 ++ shardUuid.1 ++ leBytes 8 segmentSeq ++
    leBytes 8 startingLsn ++ leBytes 8 createdAt

variable (crc : Checksum)

def segmentHeader (shardUuid : ShardUuid) (segmentSeq startingLsn createdAt : Nat) : Bytes :=
  segmentHeaderCovered shardUuid segmentSeq startingLsn createdAt ++
    leBytes 4 (crc (segmentHeaderCovered shardUuid segmentSeq startingLsn createdAt)).toNat ++
    List.replicate 4044 0

def readAndValidateSegmentHeader (expectedShardUuid : ShardUuid) (f : SegmentFile) :
    Except WalReadError SegmentInfo :=
  -- a stem of more than ten digits is not a segment name
  if 10 ^ 10 ≤ f.filenameSeq then .error (.invalidSegmentFilename f.filenameSeq)
  else if f.bytes.length < walSegmentHeaderLen then .error (.segmentTooSmall f.bytes.length)
  else
    let magic := slice f.bytes 0 4
    let formatVersion := leNat (slice f.bytes 4 8)
    let storedCrc := UInt32.ofNat (leNat (slice f.bytes 48 52))
    let computed := crc (slice f.bytes 0 walSegmentHeaderCrcCoverageEnd)
    let headerShardUuid := slice f.bytes 8 24
    let headerSegSeq := leNat (slice f.bytes 24 32)
    let startingLsn := leNat (slice f.bytes 32 40)
    if magic ≠ walSegmentMagic then .error (.invalidSegmentMagic magic)
    else if formatVersion ≠ walSegmentFormatVersionV1 then
      .error (.unsupportedSegmentFormatVersion formatVersion)
    else if storedCrc ≠ computed then .error (.segmentHeaderCrcMismatch storedCrc computed)
    else if headerShardUuid ≠ expectedShardUuid.1 then
      .error (.segmentShardUuidMismatch expectedShardUuid.1 headerShardUuid)
    else if headerSegSeq ≠ f.filenameSeq then
      .error (.filenameSegmentSeqMismatch f.filenameSeq headerSegSeq)
    else .ok { segmentSeq := headerSegSeq, startingLsn := startingLsn, bytes := f.bytes }

def checkSegmentSequence : List SegmentInfo → Except WalReadError Unit
  | a :: b :: rest =>
    if b.segmentSeq ≠ a.segmentSeq + 1 then
      .error (.segmentSequenceGap a.segmentSeq b.segmentSeq)
    else checkSegmentSequence (b :: rest)
  | _ => .ok ()

def WalReader.openDir (dir : WalDir) (shardUuid : ShardUuid) :
    Except WalReadError (List SegmentInfo) := do
  let infos ← dir.mapM (readAndValidateSegmentHeader crc shardUuid)
  checkSegmentSequence infos
  return infos

structure ValidHeader (crc : Checksum) (shardUuid : ShardUuid) (filenameSeq startingLsn : Nat)
    (header : Bytes) : Prop where
  filenameSeq_lt : filenameSeq < 10 ^ 10
  length_eq : header.length = walSegmentHeaderLen
  magic_eq : slice header 0 4 = walSegmentMagic
  version_eq : leNat (slice header 4 8) = walSegmentFormatVersionV1
  crc_eq : UInt32.ofNat (leNat (slice header 48 52)) =
    crc (slice header 0 walSegmentHeaderCrcCoverageEnd)
  shardUuid_eq : slice header 8 24 = shardUuid.1
  segmentSeq_eq : leNat (slice header 24 32) = filenameSeq
  startingLsn_eq : leNat (slice header 32 40) = startingLsn

variable {crc : Checksum} {shardUuid : ShardUuid}

lemma readAndValidateSegmentHeader_append {n lsn : Nat} {header : Bytes}
    (h : ValidHeader crc shardUuid n lsn header) (body : Bytes) :
    readAndValidateSegmentHeader crc shardUuid ⟨n, header ++ body⟩ =
      .ok ⟨n, lsn, header ++ body⟩ := by
  have hlen : header.length = 4096 := h.length_eq
  have hread : ∀ i j, j ≤ 4096 → slice (header ++ body) i j = slice header i j :=
    fun i j hj => slice_append_left (by omega)
  have hsize : ¬ (header ++ body).length < walSegmentHeaderLen := by
    simp only [length_append, hlen, walSegmentHeaderLen]
    omega
  have hname : ¬ 10 ^ 10 ≤ n := Nat.not_le.mpr h.filenameSeq_lt
  have hcrc := h.crc_eq
  unfold readAndValidateSegmentHeader
  simp only [walSegmentHeaderCrcCoverageEnd, hread 0 4 (by omega), hread 4 8 (by omega),
    hread 48 52 (by omega), hread 0 48 (by omega), hread 8 24 (by omega), hread 24 32 (by omega),
    hread 32 40 (by omega), h.magic_eq, h.version_eq, hcrc, h.shardUuid_eq, h.segmentSeq_eq,
    h.startingLsn_eq, if_neg hname, if_neg hsize, ne_eq, not_true_eq_false, if_false]

lemma readAndValidateSegmentHeader_ok {f : SegmentFile} {info : SegmentInfo}
    (h : readAndValidateSegmentHeader crc shardUuid f = .ok info) :
    ∃ header body, f = ⟨info.segmentSeq, header ++ body⟩ ∧ info.bytes = header ++ body ∧
      ValidHeader crc shardUuid info.segmentSeq info.startingLsn header := by
  unfold readAndValidateSegmentHeader at h
  simp only at h
  split at h
  · cases h
  next hname =>
  split at h
  · cases h
  next hsize =>
  split at h
  · cases h
  next hmagic =>
  split at h
  · cases h
  next hver =>
  split at h
  · cases h
  next hcrc =>
  split at h
  · cases h
  next huuid =>
  split at h
  · cases h
  next hseq =>
  simp only [ne_eq, Decidable.not_not] at hmagic hver hcrc huuid hseq
  injection h with h
  have hlen : (f.bytes.take walSegmentHeaderLen).length = 4096 := by
    simp only [walSegmentHeaderLen] at hsize
    simp only [length_take, walSegmentHeaderLen]
    omega
  have hcut : f.bytes = f.bytes.take walSegmentHeaderLen ++ f.bytes.drop walSegmentHeaderLen :=
    (take_append_drop _ _).symm
  have hread : ∀ i j, j ≤ 4096 → slice f.bytes i j = slice (f.bytes.take walSegmentHeaderLen) i j := by
    intro i j hj
    conv_lhs => rw [hcut]
    exact slice_append_left (by omega)
  have hcover : walSegmentHeaderCrcCoverageEnd ≤ 4096 := by decide
  rw [hread _ _ (by omega)] at hmagic hver hseq huuid
  rw [hread 48 52 (by omega), hread _ _ hcover] at hcrc
  subst h
  refine ⟨f.bytes.take walSegmentHeaderLen, f.bytes.drop walSegmentHeaderLen, ?_, hcut, ?_⟩
  · rw [take_append_drop]
    cases f
    simp only [SegmentFile.mk.injEq, and_true]
    rw [hread _ _ (by omega)]
    exact hseq.symm
  · rw [← hread 24 32 (by omega)] at hseq
    exact ⟨by simp only; omega, hlen, hmagic, hver, hcrc, huuid, by rw [← hread _ _ (by omega)],
      by rw [← hread _ _ (by omega)]⟩

lemma segmentHeader_valid (crc : Checksum) (shardUuid : ShardUuid) {seq lsn : Nat}
    (createdAt : Nat) (hseq : seq < 10 ^ 10) (hlsn : lsn < 2 ^ 64) :
    ValidHeader crc shardUuid seq lsn (segmentHeader crc shardUuid seq lsn createdAt) := by
  obtain ⟨uuid, huuid⟩ := shardUuid
  have hcovered : (segmentHeaderCovered ⟨uuid, huuid⟩ seq lsn createdAt).length = 48 := by
    simp [segmentHeaderCovered, walSegmentMagic, huuid]
  generalize hsum : crc (segmentHeaderCovered ⟨uuid, huuid⟩ seq lsn createdAt) = sum
  -- each field as the middle part of the header
  have hfield : ∀ (a b c : Bytes) (i j : Nat), a.length = i → i + b.length = j →
      segmentHeader crc ⟨uuid, huuid⟩ seq lsn createdAt = a ++ b ++ c →
      slice (segmentHeader crc ⟨uuid, huuid⟩ seq lsn createdAt) i j = b := by
    intro a b c i j hi hj he
    rw [he]
    exact slice_middle hi hj
  have hshape : segmentHeader crc ⟨uuid, huuid⟩ seq lsn createdAt =
      walSegmentMagic ++ (leBytes 4 walSegmentFormatVersionV1 ++ (uuid ++ (leBytes 8 seq ++
        (leBytes 8 lsn ++ (leBytes 8 createdAt ++ (leBytes 4 sum.toNat ++
          List.replicate 4044 0)))))) := by
    rw [segmentHeader, hsum]
    simp only [segmentHeaderCovered, append_assoc]
  refine ⟨hseq, ?_, ?_, ?_, ?_, ?_, ?_, ?_⟩
  · simp only [segmentHeader, length_append, hcovered, length_leBytes, length_replicate,
      walSegmentHeaderLen]
  · exact hfield [] _ _ 0 4 rfl rfl hshape
  · rfl
  · have hpart := hfield [] (segmentHeaderCovered ⟨uuid, huuid⟩ seq lsn createdAt) _ 0 48 rfl
      (by simpa using hcovered) (by
        simpa only [segmentHeaderCovered, append_assoc, nil_append] using hshape)
    have hstor := hfield (segmentHeaderCovered ⟨uuid, huuid⟩ seq lsn createdAt) (leBytes 4 sum.toNat) _
      48 52 hcovered (by simp) (by
        simpa only [segmentHeaderCovered, append_assoc] using hshape)
    rw [walSegmentHeaderCrcCoverageEnd, hpart, hstor, hsum, leNat_leBytes_uint32,
      UInt32.ofNat_toNat]
  · exact hfield (walSegmentMagic ++ leBytes 4 walSegmentFormatVersionV1) uuid _ 8 24 rfl
      (by simp [huuid]) (by simpa only [append_assoc] using hshape)
  · rw [hfield (walSegmentMagic ++ leBytes 4 walSegmentFormatVersionV1 ++ uuid) (leBytes 8 seq) _ 24 32
      (by simp [walSegmentMagic, huuid]) (by simp) (by simpa only [append_assoc] using hshape)]
    exact leNat_leBytes (by omega)
  · rw [hfield (walSegmentMagic ++ leBytes 4 walSegmentFormatVersionV1 ++ uuid ++ leBytes 8 seq)
      (leBytes 8 lsn) _ 32 40 (by simp [walSegmentMagic, huuid]) (by simp)
      (by simpa only [append_assoc] using hshape)]
    exact leNat_leBytes (by omega)

end BrainDb
