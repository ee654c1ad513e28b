import BrainDb.Base.Bytes

namespace BrainDb
open List Bytes Nat

inductive WalRecordKind where
  | encode
  | forget
  | link
  | unlink
  | updateSalience
  | reclaim
  | consolidate
  | updateKind
  | updateSession
  | checkpointBegin
  | checkpointEnd
  | txnBegin
  | txnCommit
  | txnAbort
  | migrateEmbedding
  | entityCreate
  | entityUpdate
  | entityMerge
  | entityTombstone
  | entityRename
  | entityUnmerge
  | statementCreate
  | statementSupersede
  | statementTombstone
  | relationCreate
  | relationSupersede
  | relationTombstone
  | schemaUpdate
  | audit
  | stageCompleted
  | spaceCreate
  | spaceDelete
  | sessionCreate
  | sessionDelete
  | restoreMemory
  deriving DecidableEq

namespace WalRecordKind

def asU8 : WalRecordKind → UInt8
  | encode => 1
  | forget => 2
  | link => 3
  | unlink => 4
  | updateSalience => 5
  | reclaim => 6
  | consolidate => 7
  | updateKind => 8
  | updateSession => 9
  | checkpointBegin => 10
  | checkpointEnd => 11
  | txnBegin => 12
  | txnCommit => 13
  | txnAbort => 14
  | migrateEmbedding => 15
  | entityCreate => 0x10
  | entityUpdate => 0x11
  | entityMerge => 0x12
  | entityTombstone => 0x13
  | entityRename => 0x14
  | entityUnmerge => 0x15
  | statementCreate => 0x20
  | statementSupersede => 0x21
  | statementTombstone => 0x22
  | relationCreate => 0x30
  | relationSupersede => 0x31
  | relationTombstone => 0x32
  | schemaUpdate => 0x40
  | audit => 0x50
  | stageCompleted => 0x51
  | spaceCreate => 0x60
  | spaceDelete => 0x61
  | sessionCreate => 0x62
  | sessionDelete => 0x63
  | restoreMemory => 0x64

def fromU8 (b : UInt8) : Option WalRecordKind :=
  match b.toNat with
  | 1 => some encode
  | 2 => some forget
  | 3 => some link
  | 4 => some unlink
  | 5 => some updateSalience
  | 6 => some reclaim
  | 7 => some consolidate
  | 8 => some updateKind
  | 9 => some updateSession
  | 10 => some checkpointBegin
  | 11 => some checkpointEnd
  | 12 => some txnBegin
  | 13 => some txnCommit
  | 14 => some txnAbort
  | 15 => some migrateEmbedding
  | 0x10 => some entityCreate
  | 0x11 => some entityUpdate
  | 0x12 => some entityMerge
  | 0x13 => some entityTombstone
  | 0x14 => some entityRename
  | 0x15 => some entityUnmerge
  | 0x20 => some statementCreate
  | 0x21 => some statementSupersede
  | 0x22 => some statementTombstone
  | 0x30 => some relationCreate
  | 0x31 => some relationSupersede
  | 0x32 => some relationTombstone
  | 0x40 => some schemaUpdate
  | 0x50 => some audit
  | 0x51 => some stageCompleted
  | 0x60 => some spaceCreate
  | 0x61 => some spaceDelete
  | 0x62 => some sessionCreate
  | 0x63 => some sessionDelete
  | 0x64 => some restoreMemory
  | _ => none

def hasOpaqueBody (k : WalRecordKind) : Bool :=
  (0x10 ≤ k.asU8 && k.asU8 ≤ 0x51) || (0x60 ≤ k.asU8 && k.asU8 ≤ 0x63)

@[simp] lemma fromU8_asU8 (k : WalRecordKind) : fromU8 k.asU8 = some k := by
  cases k <;> rfl

lemma asU8_of_fromU8 {b : UInt8} {k : WalRecordKind} (h : fromU8 b = some k) : k.asU8 = b := by
  apply UInt8.toNat_inj.mp
  unfold fromU8 at h
  split at h
  all_goals first
    | cases Option.some.inj h
      simp only [*]
      rfl
    | cases h

end WalRecordKind

open WalRecordKind

def recordHeaderLen : Nat := 32
def recordFooterLen : Nat := 8
def maxPayload : Nat := 16 * 1024 * 1024

def flagSubscribeEvent : UInt8 := 0x01

structure WalRecord where
  lsn : UInt64
  kind : WalRecordKind
  flags : UInt8
  (timestampNs spaceIdLo64 : UInt64)
  payload : Bytes
  deriving DecidableEq

abbrev Records := List WalRecord

variable (crc : Checksum) (r : WalRecord)

namespace WalRecord

def Fits : Prop := r.payload.length ≤ maxPayload

instance (r : WalRecord) : Decidable r.Fits := inferInstanceAs (Decidable (_ ≤ _))

def encodedLen : Nat := recordHeaderLen + r.payload.length + recordFooterLen

def isSubscribeEvent : Bool := r.flags &&& flagSubscribeEvent != 0

def header : Bytes :=
  leBytes 8 r.lsn.toNat ++ [r.kind.asU8, r.flags, 0, 0] ++ leBytes 4 r.payload.length ++
    leBytes 8 r.timestampNs.toNat ++ leBytes 8 r.spaceIdLo64.toNat

/-- The bytes of a record. The source panics when `Fits` fails; every use below has it. -/
def encode : Bytes :=
  r.header ++ r.payload ++ leBytes 4 (crc (r.header ++ r.payload)).toNat ++ [0, 0, 0, 0]

end WalRecord

inductive WalRecordError where
  | crcMismatch (expected actual : UInt32)
  | unknownRecordType (byte : UInt8)
  | nonZeroReserved
  | payloadTooLarge (length : Nat)
  deriving DecidableEq

inductive DecodeOutcome where
  | record (record : WalRecord) (consumed : Nat)
  | truncated

def decodeOne (buf : Bytes) : Except WalRecordError DecodeOutcome :=
  if buf.length < recordHeaderLen then .ok .truncated
  else
    let lsn := leNat (slice buf 0 8)
    let recordType := leNat (slice buf 8 9)
    let flags := leNat (slice buf 9 10)
    let reservedHi := slice buf 10 12
    let payloadLen := leNat (slice buf 12 16)
    let timestampNs := leNat (slice buf 16 24)
    let spaceIdLo64 := leNat (slice buf 24 32)
    if reservedHi ≠ [0, 0] then .error .nonZeroReserved
    else if payloadLen > maxPayload then .error (.payloadTooLarge payloadLen)
    else
      let bodyEnd := recordHeaderLen + payloadLen
      let total := bodyEnd + recordFooterLen
      if buf.length < total then .ok .truncated
      else
        -- the kind is only looked at once the whole record is present
        match fromU8 (UInt8.ofNat recordType) with
        | none => .error (.unknownRecordType (UInt8.ofNat recordType))
        | some kind =>
          let expected := UInt32.ofNat (leNat (slice buf bodyEnd (bodyEnd + 4)))
          if slice buf (bodyEnd + 4) total ≠ [0, 0, 0, 0] then .error .nonZeroReserved
          else
            let actual := crc (slice buf 0 bodyEnd)
            if expected ≠ actual then .error (.crcMismatch expected actual)
            else
              .ok (.record
                { lsn := UInt64.ofNat lsn
                  kind := kind
                  flags := UInt8.ofNat flags
                  timestampNs := UInt64.ofNat timestampNs
                  spaceIdLo64 := UInt64.ofNat spaceIdLo64
                  payload := slice buf recordHeaderLen bodyEnd } total)

namespace WalRecord

@[simp] lemma length_header : r.header.length = recordHeaderLen := by
  simp [header, recordHeaderLen]

@[simp] lemma length_encode : (r.encode crc).length = r.encodedLen := by
  simp only [encode, encodedLen, recordFooterLen, length_append, length_header,
    length_leBytes, length_cons, length_nil]

lemma encodedLen_pos : 0 < r.encodedLen := by
  simp only [encodedLen, recordHeaderLen]
  omega

lemma header_fields (rest : Bytes) : slice (r.header ++ rest) 0 8 = leBytes 8 r.lsn.toNat ∧
    slice (r.header ++ rest) 8 9 = [r.kind.asU8] ∧ slice (r.header ++ rest) 9 10 = [r.flags] ∧
    slice (r.header ++ rest) 10 12 = [0, 0] ∧
    slice (r.header ++ rest) 12 16 = leBytes 4 r.payload.length ∧
    slice (r.header ++ rest) 16 24 = leBytes 8 r.timestampNs.toNat ∧
    slice (r.header ++ rest) 24 32 = leBytes 8 r.spaceIdLo64.toNat :=
  ⟨rfl, rfl, rfl, rfl, rfl, rfl, rfl⟩

lemma encode_body (rest : Bytes) :
    slice (r.encode crc ++ rest) 0 (recordHeaderLen + r.payload.length) = r.header ++ r.payload ∧
    slice (r.encode crc ++ rest) recordHeaderLen (recordHeaderLen + r.payload.length) = r.payload ∧
    slice (r.encode crc ++ rest) (recordHeaderLen + r.payload.length)
      (recordHeaderLen + r.payload.length + 4) = leBytes 4 (crc (r.header ++ r.payload)).toNat ∧
    slice (r.encode crc ++ rest) (recordHeaderLen + r.payload.length + 4) r.encodedLen =
      [0, 0, 0, 0] := by
  have hbody : (r.header ++ r.payload).length = recordHeaderLen + r.payload.length := by simp
  have hfooter : ((r.header ++ r.payload) ++
      leBytes 4 (crc (r.header ++ r.payload)).toNat).length =
        recordHeaderLen + r.payload.length + 4 := by simp [add_assoc]
  refine ⟨?_, ?_, ?_, ?_⟩
  · rw [slice_zero, encode, append_assoc, append_assoc, ← hbody, take_left]
  · have hread := slice_append_right (b := r.payload ++
      (leBytes 4 (crc (r.header ++ r.payload)).toNat ++ [0, 0, 0, 0] ++ rest))
      (i := 0) (j := r.payload.length) (length_header r)
    simpa only [encode, append_assoc, add_zero, slice_zero, take_left] using hread
  · have hread := slice_append_right (b := leBytes 4 (crc (r.header ++ r.payload)).toNat ++
      ([0, 0, 0, 0] ++ rest)) (i := 0) (j := 4) hbody
    have hfour : (leBytes 4 (crc (r.header ++ r.payload)).toNat ++ ([0, 0, 0, 0] ++ rest)).take 4 =
        leBytes 4 (crc (r.header ++ r.payload)).toNat := take_left' (length_leBytes 4 _)
    rw [add_zero, slice_zero, hfour] at hread
    simpa only [encode, append_assoc] using hread
  · have hread := slice_append_right (b := [0, 0, 0, 0] ++ rest) (i := 0) (j := 4) hfooter
    simpa [encode, encodedLen, recordFooterLen, append_assoc] using hread

variable {r : WalRecord}

lemma leNat_payloadLen (h : r.Fits) : leNat (leBytes 4 r.payload.length) = r.payload.length :=
  leNat_leBytes (by have hb : r.payload.length ≤ 16777216 := h; omega)

lemma decodeOne_encode_append (h : r.Fits) (rest : Bytes) :
    decodeOne crc (r.encode crc ++ rest) = .ok (.record r r.encodedLen) := by
  have hshape : r.encode crc ++ rest = r.header ++ (r.payload ++
      (leBytes 4 (crc (r.header ++ r.payload)).toNat ++ ([0, 0, 0, 0] ++ rest))) := by
    simp only [encode, append_assoc]
  obtain ⟨hlsn, hkind, hflags, hres, hlen, hts, hsp⟩ :=
    header_fields r (r.payload ++
      (leBytes 4 (crc (r.header ++ r.payload)).toNat ++ ([0, 0, 0, 0] ++ rest)))
  rw [← hshape] at hlsn hkind hflags hres hlen hts hsp
  obtain ⟨hbody, hpay, hcrc, hfoot⟩ := encode_body crc r rest
  have hpl := leNat_payloadLen h
  have htotal : recordHeaderLen + r.payload.length + recordFooterLen = r.encodedLen := rfl
  have hroom : ¬ (r.encode crc ++ rest).length < recordHeaderLen := by
    simp only [length_append, length_encode, encodedLen]
    omega
  have hwhole : ¬ (r.encode crc ++ rest).length < r.encodedLen := by
    simp only [length_append, length_encode]
    omega
  have hmax : ¬ r.payload.length > maxPayload := not_lt.mpr h
  unfold decodeOne
  simp only [hlsn, hkind, hflags, hres, hlen, hts, hsp, hpl, htotal, hbody, hpay,
    hcrc, hfoot, leNat_leBytes_uint64, leNat_leBytes_uint32, hroom, hwhole, hmax, if_false, ne_eq,
    not_true_eq_false, leNat, mul_zero, add_zero, UInt8.ofNat_toNat, UInt64.ofNat_toNat,
    UInt32.ofNat_toNat, fromU8_asU8]

lemma decodeOne_record {crc : Checksum} {buf : Bytes} {n : Nat}
    (h : decodeOne crc buf = .ok (.record r n)) :
    r.Fits ∧ n = r.encodedLen ∧ buf = r.encode crc ++ buf.drop n := by
  unfold decodeOne at h
  simp only at h
  generalize hpl : leNat (slice buf 12 16) = pl at h
  split at h
  · cases h
  next hroom =>
  split at h
  · cases h
  next hres =>
  split at h
  · cases h
  next hmax =>
  split at h
  · cases h
  next hwhole =>
  split at h
  · cases h
  next kind hkind =>
  split at h
  · cases h
  next hfoot =>
  split at h
  · cases h
  next hcrc =>
  simp only [ne_eq, Decidable.not_not] at hres hfoot hcrc
  injection h with h
  injection h with hr hn
  simp only [recordHeaderLen, recordFooterLen] at hroom hwhole hn hfoot hcrc hr
  have hlen : ∀ i j : Nat, j ≤ 32 + pl + 8 → (slice buf i j).length = j - i :=
    fun i j hj => length_slice (by omega)
  have hpay : (slice buf 32 (32 + pl)).length = pl := by
    rw [hlen _ _ (by omega)]
    omega
  have hhdr : r.header = slice buf 0 32 := by
    subst hr
    simp only [header, hpay, leBytes_uint64 (hlen 0 8 (by omega)),
      leBytes_uint64 (hlen 16 24 (by omega)), leBytes_uint64 (hlen 24 32 (by omega)),
      asU8_of_fromU8 hkind]
    have hpl4 : leBytes 4 pl = slice buf 12 16 := by
      rw [← hpl]
      exact leBytes_leNat_of_length (hlen 12 16 (by omega))
    have hmeta : [UInt8.ofNat (leNat (slice buf 8 9)), UInt8.ofNat (leNat (slice buf 9 10)), 0, 0] =
        slice buf 8 12 := by
      rw [← slice_append_slice (by omega : 8 ≤ 9) (by omega : 9 ≤ 12),
        ← slice_append_slice (by omega : 9 ≤ 10) (by omega : 10 ≤ 12), hres]
      have hkindByte := leBytes_uint8 (hlen 8 9 (by omega))
      have hflagByte := leBytes_uint8 (hlen 9 10 (by omega))
      exact congrArg₂ (fun k f => k ++ (f ++ [0, 0])) hkindByte hflagByte
    rw [hpl4, hmeta, slice_append_slice (by omega) (by omega), slice_append_slice (by omega) (by omega),
      slice_append_slice (by omega) (by omega), slice_append_slice (by omega) (by omega)]
  have hbody : r.header ++ r.payload = slice buf 0 (32 + pl) := by
    rw [hhdr, ← hr]
    exact slice_append_slice (by omega) (by omega)
  have hsum : leBytes 4 (crc (slice buf 0 (32 + pl))).toNat = slice buf (32 + pl) (32 + pl + 4) := by
    rw [← hcrc]
    exact leBytes_uint32 (by rw [hlen _ _ (by omega)]; omega)
  have hrl : r.payload.length = pl := by rw [← hr]; exact hpay
  refine ⟨by rw [Fits, hrl]; omega, by rw [encodedLen, hrl, ← hn]; rfl, ?_⟩
  have henc : r.encode crc = slice buf 0 n := by
    rw [encode, hbody, hsum, ← hfoot, slice_append_slice (by omega) (by omega),
      slice_append_slice (by omega) (by omega), hn]
  rw [henc, slice_zero, take_append_drop]

lemma decodeOne_prefix (h : r.Fits) {buf : Bytes} (hbeg : buf <+: r.encode crc)
    (hcut : buf ≠ r.encode crc) : decodeOne crc buf = .ok .truncated := by
  have hshort : buf.length < r.encodedLen := by
    rw [← r.length_encode crc]
    refine lt_of_le_of_ne hbeg.length_le ?_
    intro hlen
    exact hcut (hbeg.eq_of_length hlen)
  unfold decodeOne
  by_cases hroom : buf.length < recordHeaderLen
  · rw [if_pos hroom]
  rw [if_neg hroom]
  -- the whole header is there, so its fields are those of the record
  have hhdr : buf = r.header ++ buf.drop recordHeaderLen := by
    obtain ⟨rest, hrest⟩ := hbeg
    have htake : buf.take recordHeaderLen = r.header := by
      have hall := congrArg (List.take recordHeaderLen) hrest
      rw [take_append_of_le_length (by omega), encode, append_assoc, append_assoc,
        ← r.length_header, take_left] at hall
      exact hall
    rw [← htake, take_append_drop]
  obtain ⟨_, _, _, hres, hlen, _, _⟩ := header_fields r (buf.drop recordHeaderLen)
  rw [← hhdr] at hres hlen
  have hpl := leNat_payloadLen h
  have hmax : ¬ r.payload.length > maxPayload := not_lt.mpr h
  have hwhole : buf.length < recordHeaderLen + r.payload.length + recordFooterLen := hshort
  simp only [hres, hlen, hpl, ne_eq, not_true_eq_false, if_false, if_neg hmax, if_pos hwhole]

/-- The framing law: a record followed by anything decodes to itself, a strict prefix of a record
to `Truncated`, and what decodes is the encoding of what it decodes to. -/
theorem framing (crc : Bytes → UInt32) : (∀ r : WalRecord, r.Fits → ∀ rest,
      decodeOne crc (r.encode crc ++ rest) = .ok (.record r (r.encode crc).length)) ∧
    (∀ r : WalRecord, r.Fits → ∀ buf, buf <+: r.encode crc → buf ≠ r.encode crc →
      decodeOne crc buf = .ok .truncated) ∧
    (∀ buf r n, decodeOne crc buf = .ok (.record r n) → buf.take n = r.encode crc) := by
  refine ⟨?_, ?_, ?_⟩
  · intro r hfits rest
    rw [length_encode]
    exact decodeOne_encode_append crc hfits rest
  · intro r hfits buf hbeg hcut
    exact decodeOne_prefix crc hfits hbeg hcut
  · intro buf r n hdec
    obtain ⟨_, hn, hbuf⟩ := decodeOne_record hdec
    rw [hbuf, hn, ← r.length_encode crc, take_left]

def smallRecord : WalRecord := ⟨5, .txnCommit, 0, 9, 1, List.range 16 |>.map UInt8.ofNat⟩

/-- The cut goes through the payload. -/
theorem framing_of_small_record : decodeOne (fun _ => 0) (smallRecord.encode (fun _ => 0) ++ [7]) =
      .ok (.record smallRecord (smallRecord.encode fun _ => 0).length) ∧
    decodeOne (fun _ => 0) ((smallRecord.encode fun _ => 0).take 40) = .ok .truncated := by
  have h := framing fun _ => 0
  have hfits : smallRecord.Fits := by decide
  exact ⟨h.1 smallRecord hfits [7], h.2.1 smallRecord hfits _ ( take_prefix 40 _) (by decide)⟩

end WalRecord
end BrainDb
