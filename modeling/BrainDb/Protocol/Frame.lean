import BrainDb.Base.Framing

namespace BrainDb.Wire
open List Bytes

def headerSize : Nat := 32
def maxPayloadBytes : Nat := 2 ^ 24 - 1

def magicBytes : Bytes := [0x42, 0x52, 0x4E, 0x30]

def frameVersion : UInt8 := 1
def flagsReservedMask : UInt8 := 0x1F

def beNat (bs : Bytes) : Nat := leNat bs.reverse

lemma length_beBytes (w v : Nat) : (beBytes w v).length = w := by simp [beBytes]

@[ext] structure Header where
  bytes : Bytes
  size : bytes.length = headerSize
  deriving DecidableEq

inductive ProtocolError where
  | badMagic
  | badVersion (got expected : UInt8)
  | badHeaderCrc
  | badPayloadCrc
  | oversizePayload (len max : Nat)
  | reservedFieldNonZero
  | truncated (have_ need : Nat)
  deriving DecidableEq

variable (x : UInt32)

namespace Header

def magic (h : Header) : Bytes := slice h.bytes 0 4
def version (h : Header) : UInt8 := (slice h.bytes 4 5).headD 0
def flags (h : Header) : UInt8 := (slice h.bytes 7 8).headD 0
def headerCrc32c (h : Header) : Bytes := slice h.bytes 8 12
def payloadLen (h : Header) : Bytes := slice h.bytes 16 19
def reservedA (h : Header) : UInt8 := (slice h.bytes 19 20).headD 0
def payloadCrc32c (h : Header) : Bytes := slice h.bytes 20 24
def reservedB (h : Header) : Bytes := slice h.bytes 24 32

def put (h : Header) (i : Nat) (field : Bytes) (hi : i + field.length ≤ headerSize) : Header :=
  ⟨h.bytes.take i ++ field ++ h.bytes.drop (i + field.length), by
    have hsize := h.size
    simp only [length_append, length_take, length_drop]
    omega⟩

variable (crc : Checksum)

def computeHeaderCrc (h : Header) : UInt32 := crc (slice h.bytes 0 8 ++ slice h.bytes 12 32)

def be32 : Bytes := beBytes 4 x.toNat

lemma length_be32 : (be32 x).length = 4 := length_beBytes 4 x.toNat

def resealed (h : Header) : Header :=
  let zeroed := h.put 8 [0, 0, 0, 0] (by decide)
  zeroed.put 8 (be32 (zeroed.computeHeaderCrc crc)) (by rw [length_be32]; decide)

def payloadLenU32 (h : Header) : Nat := beNat h.payloadLen

def validate (h : Header) : Except ProtocolError Unit :=
  if h.magic ≠ magicBytes then .error .badMagic
  else if h.version ≠ frameVersion then .error (.badVersion h.version frameVersion)
  else if h.reservedA ≠ 0 ∨ h.reservedB ≠ List.replicate 8 0 then .error .reservedFieldNonZero
  else if h.flags &&& flagsReservedMask ≠ 0 then .error .reservedFieldNonZero
  else if maxPayloadBytes < h.payloadLenU32 then
    .error (.oversizePayload h.payloadLenU32 maxPayloadBytes)
  else if beNat h.headerCrc32c ≠ (h.computeHeaderCrc crc).toNat then .error .badHeaderCrc
  else .ok ()

def new (opcode : UInt16) (flags : UInt8) (streamId : UInt32) (payloadLen : Nat) : Header :=
  resealed crc ⟨magicBytes ++ [frameVersion] ++ beBytes 2 opcode.toNat ++ [flags] ++ [0, 0, 0, 0] ++
    be32 streamId ++ beBytes 3 payloadLen ++ [0] ++ [0, 0, 0, 0] ++ List.replicate 8 0, by
      simp [magicBytes, length_be32, beBytes, headerSize]⟩

end Header

open Header

structure Frame where
  header : Header
  payload : Bytes
  deriving DecidableEq

namespace Frame
variable (crc : Checksum)

/-- Beyond `maxPayloadBytes` the source panics. -/
def new (opcode : UInt16) (flags : UInt8) (streamId : UInt32) (payload : Bytes) : Frame :=
  { header := ((Header.new crc opcode flags streamId payload.length).put 20
      (Header.be32 (crc payload)) (by rw [Header.length_be32]; decide)).resealed crc
    payload }

def sealed (f : Frame) : Header :=
  ((f.header.put 16 (beBytes 3 f.payload.length) (by rw [length_beBytes]; decide)).put 20
    (be32 (crc f.payload)) (by rw [length_be32]; decide)).resealed crc

def encode (f : Frame) : Bytes := (f.sealed crc).bytes ++ f.payload

variable (bytes : Bytes)

def decodeWithMax (max : Nat) : Except ProtocolError (Frame × Bytes) :=
  if h : bytes.length < headerSize then .error (.truncated bytes.length headerSize)
  else
    let header : Header := ⟨bytes.take headerSize, by rw [length_take]; omega⟩
    match header.validate crc with
    | .error e => .error e
    | .ok () =>
      let need := headerSize + header.payloadLenU32
      if max < header.payloadLenU32 then .error (.oversizePayload header.payloadLenU32 max)
      else if bytes.length < need then .error (.truncated bytes.length need)
      else
        let payload := slice bytes headerSize need
        if beNat header.payloadCrc32c ≠ (crc payload).toNat then .error .badPayloadCrc
        else .ok (⟨header, payload⟩, bytes.drop need)

def decode : Except ProtocolError (Frame × Bytes) :=
  decodeWithMax crc bytes maxPayloadBytes

end Frame

open Frame

lemma beNat_beBytes {w v : Nat} (h : v < 256 ^ w) : beNat (beBytes w v) = v := by
  simp [beNat, beBytes, leNat_leBytes h]

variable {bs : Bytes}

lemma beBytes_beNat {w : Nat} (h : bs.length = w) : beBytes w (beNat bs) = bs := by
  rw [beBytes, beNat, leBytes_leNat_of_length (by simpa using h), reverse_reverse]

variable {crc : Checksum}

namespace Header
variable {h : Header} {i a b : Nat} {field : Bytes} {hi : i + field.length ≤ headerSize}

lemma beNat_be32 : beNat (be32 x) = x.toNat :=
  beNat_beBytes (by simpa using x.toNat_lt)

lemma length_field (h : Header) (hb : b ≤ headerSize) : (slice h.bytes a b).length = b - a :=
  length_slice (h.size ▸ hb)

lemma bytes_put (h : Header) (i : Nat) (field : Bytes) (hi : i + field.length ≤ headerSize) :
    (h.put i field hi).bytes = h.bytes.take i ++ field ++ h.bytes.drop (i + field.length) := rfl

lemma slice_put {j : Nat} (hj : i + field.length = j) :
    slice (h.put i field hi).bytes i j = field := by
  subst hj
  exact slice_middle (by rw [length_take, h.size]; omega) rfl

lemma slice_put_other (hab : b ≤ i ∨ i + field.length ≤ a) (hb : b ≤ headerSize) :
    slice (h.put i field hi).bytes a b = slice h.bytes a b := by
  have hsize := h.size
  have htake : (h.bytes.take i).length = i := by
    rw [length_take]
    omega
  have hwhole : h.bytes = h.bytes.take i ++ slice h.bytes i (i + field.length) ++
      h.bytes.drop (i + field.length) := by
    rw [← slice_zero, slice_append_slice (Nat.zero_le i) (by omega), slice_zero, take_append_drop]
  conv_rhs => rw [hwhole]
  rw [bytes_put]
  rcases hab with hab | hab
  · rw [append_assoc, append_assoc, slice_append_left (by omega), slice_append_left (by omega)]
  · have hmiddle : (slice h.bytes i (i + field.length)).length = field.length := by
      rw [length_field h hi]
      omega
    obtain ⟨a', rfl⟩ := Nat.exists_eq_add_of_le hab
    rcases Nat.le_total b (i + field.length) with hba | hba
    · simp [slice, Nat.sub_eq_zero_of_le (hba.trans (Nat.le_add_right _ a'))]
    · obtain ⟨b', rfl⟩ := Nat.exists_eq_add_of_le hba
      rw [slice_append_right (by rw [length_append, htake]),
        slice_append_right (by rw [length_append, htake, hmiddle])]

lemma put_self (hfield : slice h.bytes i (i + field.length) = field) : h.put i field hi = h := by
  ext1
  conv_rhs => rw [← take_append_drop i h.bytes, ← take_append_drop field.length (h.bytes.drop i)]
  unfold slice at hfield
  rw [Nat.add_sub_cancel_left] at hfield
  rw [bytes_put, hfield, drop_drop, append_assoc]

lemma computeHeaderCrc_put {hi : 8 + field.length ≤ headerSize} (hfield : field.length = 4) :
    (h.put 8 field hi).computeHeaderCrc crc = h.computeHeaderCrc crc := by
  unfold computeHeaderCrc
  rw [slice_put_other (.inl (Nat.le_refl 8)) (by decide), slice_put_other (by omega) (by decide)]

lemma slice_resealed (hab : b ≤ 8 ∨ 12 ≤ a) (hb : b ≤ headerSize) :
    slice (h.resealed crc).bytes a b = slice h.bytes a b := by
  unfold resealed
  rw [slice_put_other (by rw [length_be32]; exact hab) hb, slice_put_other (by exact hab) hb]

lemma computeHeaderCrc_resealed :
    (h.resealed crc).computeHeaderCrc crc = h.computeHeaderCrc crc := by
  unfold computeHeaderCrc
  rw [slice_resealed (.inl (by decide)) (by decide), slice_resealed (.inr (by decide)) (by decide)]

lemma headerCrc32c_resealed : (h.resealed crc).headerCrc32c = be32 (h.computeHeaderCrc crc) := by
  have hzeroed : (h.put 8 [0, 0, 0, 0] (by decide)).computeHeaderCrc crc = h.computeHeaderCrc crc :=
    computeHeaderCrc_put rfl
  have hread : ∀ x : UInt32, ∀ h : Header,
      slice (h.put 8 (be32 x) (by rw [length_be32]; decide)).bytes 8 12 = be32 x := by
    intro x h
    apply slice_put
    rw [length_be32]
  rw [← hzeroed]
  exact hread _ _

lemma resealed_of_crc (hcrc : h.headerCrc32c = be32 (h.computeHeaderCrc crc)) :
    h.resealed crc = h := by
  have hwhole : ∀ h : Header, h.bytes = slice h.bytes 0 8 ++ h.headerCrc32c ++
      slice h.bytes 12 32 := by
    intro h
    unfold headerCrc32c
    rw [slice_append_slice (by decide) (by decide), slice_append_slice (by decide) (by decide),
      slice_zero]
    exact (take_of_length_le (Nat.le_of_eq h.size)).symm
  ext1
  rw [hwhole (h.resealed crc), hwhole h, headerCrc32c_resealed, ← hcrc,
    slice_resealed (.inl (by decide)) (by decide), slice_resealed (.inr (by decide)) (by decide)]

structure Plain (h : Header) : Prop where
  magic : h.magic = magicBytes
  version : h.version = frameVersion
  reserved : h.reservedA = 0 ∧ h.reservedB = List.replicate 8 0
  flags : h.flags &&& flagsReservedMask = 0

lemma validate_eq_ok_iff : h.validate crc = .ok () ↔ h.Plain ∧ h.payloadLenU32 ≤ maxPayloadBytes ∧
    beNat h.headerCrc32c = (h.computeHeaderCrc crc).toNat := by
  unfold validate
  constructor
  · intro hok
    split_ifs at hok with h₁ h₂ h₃ h₄ h₅ h₆
    rw [not_or] at h₃
    exact ⟨⟨not_not.mp h₁, not_not.mp h₂, ⟨not_not.mp h₃.1, not_not.mp h₃.2⟩, not_not.mp h₄⟩,
      Nat.le_of_not_lt h₅, not_not.mp h₆⟩
  · rintro ⟨hpl, hlen, hcrc⟩
    rw [if_neg (not_not.mpr hpl.magic), if_neg (not_not.mpr hpl.version),
      if_neg (not_or.mpr ⟨not_not.mpr hpl.reserved.1, not_not.mpr hpl.reserved.2⟩),
      if_neg (not_not.mpr hpl.flags), if_neg (Nat.not_lt.mpr hlen), if_neg (not_not.mpr hcrc)]

end Header

namespace Frame
variable {rest : Bytes}

lemma decode_eq_ok_iff {f : Frame} :
    decode crc bs = .ok (f, rest) ↔ bs = f.header.bytes ++ f.payload ++ rest ∧
      f.header.validate crc = .ok () ∧ f.header.payloadLenU32 = f.payload.length ∧
      beNat f.header.payloadCrc32c = (crc f.payload).toNat := by
  unfold decode decodeWithMax
  constructor
  · intro hok
    simp only at hok
    split at hok
    · cases hok
    next hsize =>
      split at hok
      · cases hok
      next hval =>
        split_ifs at hok with hmax hneed hcrc
        cases hok
        refine ⟨?_, hval, ?_, not_not.mp hcrc⟩
        · simp only
          generalize hneed' : headerSize + Header.payloadLenU32 _ = need
          have hle : headerSize ≤ need := by omega
          rw [← slice_zero, slice_append_slice (Nat.zero_le _) hle, slice_zero, take_append_drop]
        · have hlen := length_slice (i := headerSize) (Nat.le_of_not_lt hneed)
          simp only at hlen ⊢
          omega
  · rintro ⟨rfl, hval, hlen, hcrc⟩
    have hsize := f.header.size
    have htake : (f.header.bytes ++ f.payload ++ rest).take headerSize = f.header.bytes := by
      rw [append_assoc, ← hsize, take_left]
    have hhdr : ∀ hl, (⟨(f.header.bytes ++ f.payload ++ rest).take headerSize, hl⟩ : Header) =
        f.header := fun _ => Header.ext htake
    have hlong : ¬ (f.header.bytes ++ f.payload ++ rest).length < headerSize := by
      simp only [length_append]
      omega
    have hpay : slice (f.header.bytes ++ f.payload ++ rest) headerSize
        (headerSize + f.payload.length) = f.payload := slice_middle hsize rfl
    have hrest : (f.header.bytes ++ f.payload ++ rest).drop (headerSize + f.payload.length) =
        rest := by
      rw [← hsize, ← length_append, drop_left]
    rw [dif_neg hlong]
    simp only [hhdr, hval]
    rw [if_neg (Nat.not_lt.mpr (Header.validate_eq_ok_iff.mp hval).2.1), hlen,
      if_neg (by simp only [length_append]; omega), hpay, if_neg (not_not.mpr hcrc), hrest]

def WireReady (crc : Checksum) (f : Frame) : Prop :=
  f.sealed crc = f.header ∧ f.header.Plain

variable {f : Frame}

lemma slice_sealed {a b : Nat} (hab : b ≤ 8 ∨ 19 ≤ a ∧ b ≤ 20 ∨ 24 ≤ a) (hb : b ≤ headerSize) :
    slice (f.sealed crc).bytes a b = slice f.header.bytes a b := by
  unfold sealed
  rw [slice_resealed (by omega) hb,
    slice_put_other (by rw [length_be32]; omega) hb,
    slice_put_other (by rw [length_beBytes]; omega) hb]

lemma payloadLen_sealed : (f.sealed crc).payloadLen = beBytes 3 f.payload.length := by
  unfold sealed payloadLen
  rw [slice_resealed (by decide) (by decide),
    slice_put_other (.inl (by decide)) (by decide), slice_put (by rw [length_beBytes])]

lemma payloadCrc32c_sealed : (f.sealed crc).payloadCrc32c = be32 (crc f.payload) := by
  unfold sealed payloadCrc32c
  rw [slice_resealed (by decide) (by decide), slice_put (by rw [length_be32])]

lemma plain_sealed : (f.sealed crc).Plain ↔ f.header.Plain := by
  have hmagic : (f.sealed crc).magic = f.header.magic := slice_sealed (by decide) (by decide)
  have hver : (f.sealed crc).version = f.header.version :=
    congrArg (List.headD · 0) (slice_sealed (by decide) (by decide))
  have hflags : (f.sealed crc).flags = f.header.flags :=
    congrArg (List.headD · 0) (slice_sealed (by decide) (by decide))
  have hreservedA : (f.sealed crc).reservedA = f.header.reservedA :=
    congrArg (List.headD · 0) (slice_sealed (by decide) (by decide))
  have hreservedB : (f.sealed crc).reservedB = f.header.reservedB :=
    slice_sealed (by decide) (by decide)
  constructor
  · intro h
    exact ⟨hmagic ▸ h.magic, hver ▸ h.version, hreservedA ▸ hreservedB ▸ h.reserved,
      hflags ▸ h.flags⟩
  · intro h
    exact ⟨hmagic.trans h.magic, hver.trans h.version,
      ⟨hreservedA.trans h.reserved.1, hreservedB.trans h.reserved.2⟩, hflags ▸ h.flags⟩

lemma payloadLenU32_sealed (hlen : f.payload.length ≤ maxPayloadBytes) :
    (f.sealed crc).payloadLenU32 = f.payload.length := by
  have hlt : f.payload.length < 256 ^ 3 := Nat.lt_of_le_of_lt hlen (by decide)
  rw [payloadLenU32, payloadLen_sealed, beNat_beBytes hlt]

lemma validate_sealed (hlen : f.payload.length ≤ maxPayloadBytes) (hpl : f.header.Plain) :
    (f.sealed crc).validate crc = .ok () := by
  refine validate_eq_ok_iff.mpr ⟨plain_sealed.mpr hpl, ?_, ?_⟩
  · rw [payloadLenU32_sealed hlen]
    exact hlen
  · unfold sealed
    rw [headerCrc32c_resealed, computeHeaderCrc_resealed, beNat_be32]

lemma decode_encode (hlen : f.payload.length ≤ maxPayloadBytes) (hpl : f.header.Plain)
    (rest : Bytes) : decode crc (f.encode crc ++ rest) = .ok (⟨f.sealed crc, f.payload⟩, rest) := by
  refine decode_eq_ok_iff.mpr ⟨rfl, validate_sealed hlen hpl, payloadLenU32_sealed hlen, ?_⟩
  rw [payloadCrc32c_sealed, beNat_be32]

lemma decode_encode_iff (hlen : f.payload.length ≤ maxPayloadBytes) :
    (∀ rest, decode crc (f.encode crc ++ rest) = .ok (f, rest)) ↔ f.WireReady crc := by
  constructor
  · intro hall
    obtain ⟨hbytes, hval, -, -⟩ := decode_eq_ok_iff.mp (hall [])
    have hhdr : (f.sealed crc).bytes = f.header.bytes :=
      append_cancel_right (append_cancel_right hbytes)
    exact ⟨Header.ext hhdr, (Header.validate_eq_ok_iff.mp hval).1⟩
  · rintro ⟨hsealed, hpl⟩ rest
    rw [decode_encode hlen hpl, hsealed]

lemma decode_prefix (hlen : f.payload.length ≤ maxPayloadBytes) (hpl : f.header.Plain)
    {tail : Bytes} (hbs : bs ++ tail = f.encode crc) (htail : tail ≠ []) :
    ∃ need, decode crc bs = .error (.truncated bs.length need) := by
  unfold decode decodeWithMax
  by_cases hshort : bs.length < headerSize
  · exact ⟨headerSize, dif_pos hshort⟩
  · have hsize := (f.sealed crc).size
    have hpos : 0 < tail.length := length_pos_iff.mpr htail
    have htotal : bs.length + tail.length = headerSize + f.payload.length := by
      rw [← length_append, hbs, encode, length_append, hsize]
    have htake : bs.take headerSize = (f.sealed crc).bytes := by
      have happend : (bs ++ tail).take headerSize = bs.take headerSize :=
        take_append_of_le_length (Nat.le_of_not_lt hshort)
      rw [← happend, hbs, encode, ← hsize, take_left]
    have hhdr : ∀ hl, (⟨bs.take headerSize, hl⟩ : Header) = f.sealed crc :=
      fun _ => Header.ext htake
    refine ⟨headerSize + f.payload.length, ?_⟩
    rw [dif_neg hshort]
    simp only [hhdr, validate_sealed hlen hpl, payloadLenU32_sealed hlen]
    rw [if_neg (Nat.not_lt.mpr hlen), if_pos (by omega)]

lemma sealed_eq_header (hlen : f.header.payloadLen = beBytes 3 f.payload.length)
    (hpay : f.header.payloadCrc32c = be32 (crc f.payload))
    (hhdr : f.header.headerCrc32c = be32 (f.header.computeHeaderCrc crc)) :
    f.sealed crc = f.header := by
  have hlenSelf : f.header.put 16 (beBytes 3 f.payload.length) (by rw [length_beBytes]; decide) =
      f.header := put_self (by rw [length_beBytes]; exact hlen)
  have hcrcSelf : f.header.put 20 (be32 (crc f.payload))
      (by rw [length_be32]; decide) = f.header :=
    put_self (by rw [length_be32]; exact hpay)
  rw [sealed, hlenSelf, hcrcSelf]
  exact resealed_of_crc hhdr

lemma sealed_of_decode (hok : decode crc bs = .ok (f, rest)) : f.sealed crc = f.header := by
  obtain ⟨-, hval, hlen, hcrc⟩ := decode_eq_ok_iff.mp hok
  obtain ⟨-, -, hhdr⟩ := validate_eq_ok_iff.mp hval
  have hfield : ∀ {a b : Nat}, b ≤ headerSize →
      beBytes (b - a) (beNat (slice f.header.bytes a b)) = slice f.header.bytes a b :=
    fun hb => beBytes_beNat (length_field f.header hb)
  apply sealed_eq_header
  · rw [← hlen]
    exact (hfield (by decide)).symm
  · rw [be32, ← hcrc]
    exact (hfield (by decide)).symm
  · rw [be32, ← hhdr]
    exact (hfield (by decide)).symm

lemma encode_of_decode (hok : decode crc bs = .ok (f, rest)) : f.encode crc ++ rest = bs := by
  rw [encode, sealed_of_decode hok]
  exact (decode_eq_ok_iff.mp hok).1.symm

lemma wireReady_new_iff {opcode : UInt16} {flags : UInt8} {streamId : UInt32}
    {payload : Bytes} : (new crc opcode flags streamId payload).WireReady crc ↔
      flags &&& flagsReservedMask = 0 := by
  -- Beside the two checksums the header is the literal that `Header::new` starts from.
  have hliteral : ∀ a b, b ≤ 8 ∨ 12 ≤ a ∧ b ≤ 20 ∨ 24 ≤ a → b ≤ headerSize →
      slice (new crc opcode flags streamId payload).header.bytes a b =
        slice (magicBytes ++ [frameVersion] ++ beBytes 2 opcode.toNat ++ [flags] ++ [0, 0, 0, 0] ++
          Header.be32 streamId ++ beBytes 3 payload.length ++ [0] ++ [0, 0, 0, 0] ++
          List.replicate 8 0) a b := by
    intro a b hab hb
    rw [new, Header.slice_resealed (by omega) hb,
      Header.slice_put_other (by rw [Header.length_be32]; omega) hb, Header.new,
      Header.slice_resealed (by omega) hb]
  have hflags : (new crc opcode flags streamId payload).header.flags = flags :=
    congrArg (List.headD · 0) (hliteral 7 8 (by decide) (by decide))
  constructor
  · rintro ⟨-, hpl⟩
    rw [← hflags]
    exact hpl.flags
  · intro hzero
    refine ⟨sealed_eq_header (hliteral 16 19 (by decide) (by decide)) ?_ ?_, ?_⟩
    · rw [new, Header.payloadCrc32c, Header.slice_resealed (by decide) (by decide),
        Header.slice_put (by rw [Header.length_be32])]
    · rw [new, Header.headerCrc32c_resealed, Header.computeHeaderCrc_resealed]
    · exact ⟨hliteral 0 4 (by decide) (by decide),
        congrArg (List.headD · 0) (hliteral 4 5 (by decide) (by decide)),
        ⟨congrArg (List.headD · 0) (hliteral 19 20 (by decide) (by decide)),
          hliteral 24 32 (by decide) (by decide)⟩, by rw [hflags]; exact hzero⟩

/-- Exactly the frames whose length, checksums, magic, version and reserved bits are in place are
read back as written, no strict prefix of one is accepted, and what is accepted is written back byte
for byte. -/
theorem frame_codec (crc : Bytes → UInt32) : (∀ f : Frame, f.payload.length ≤ maxPayloadBytes →
      ((∀ rest, decode crc (f.encode crc ++ rest) = .ok (f, rest)) ↔ f.WireReady crc)) ∧
    (∀ f : Frame, f.payload.length ≤ maxPayloadBytes → f.header.Plain →
      (∀ rest, decode crc (f.encode crc ++ rest) = .ok (⟨f.sealed crc, f.payload⟩, rest)) ∧
      ∀ bs tail, bs ++ tail = f.encode crc → tail ≠ [] →
        ∃ need, decode crc bs = .error (.truncated bs.length need)) ∧
    (∀ bs f rest, decode crc bs = .ok (f, rest) → f.encode crc ++ rest = bs) ∧
    ∀ opcode flags streamId payload, payload.length ≤ maxPayloadBytes →
      ((new crc opcode flags streamId payload).WireReady crc ↔
        flags &&& flagsReservedMask = 0) := by
  refine ⟨?_, ?_, ?_, ?_⟩
  · intro f hlen
    exact decode_encode_iff hlen
  · intro f hlen hpl
    constructor
    · intro rest
      exact decode_encode hlen hpl rest
    · intro bs tail hbs htail
      exact decode_prefix hlen hpl hbs htail
  · intro bs f rest hok
    exact encode_of_decode hok
  · intro opcode flags streamId payload _
    exact wireReady_new_iff

theorem endOfStream_roundTrips :
    decode (fun _ => 7) ((new (fun _ => 7) 0x21 0x80 3 [1, 2]).encode (fun _ => 7) ++ [9]) =
      .ok (new (fun _ => 7) 0x21 0x80 3 [1, 2], [9]) :=
  ((frame_codec (fun _ => 7)).1 _ (by decide)).mpr
    (((frame_codec (fun _ => 7)).2.2.2 0x21 0x80 3 [1, 2] (by decide)).mpr (by decide)) [9]

/-- A frame built with a reserved flag is refused when it is read back. -/
theorem reserved_flag_refused :
    decode (fun _ => 7) ((new (fun _ => 7) 0x10 1 0 []).encode (fun _ => 7)) =
      .error .reservedFieldNonZero := by
  decide

end Frame
end BrainDb.Wire
