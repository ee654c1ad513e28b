import BrainDb.Wal.RoundTrip

namespace BrainDb.Disk
open List Bytes Codec Inverts PayloadReader

variable {α β : Type} {bytes rest bs : Bytes} {get : Reader α} {put : α → Option Bytes}

lemma uuid_takes : Takes array16 putUuidBytes fun _ => True := .take 16 _

lemma u8_takes : Takes u8 putU8 fun _ => True := by
  refine (Takes.take 1 _).map fun b _ => ?_
  obtain ⟨x, hx⟩ := length_eq_one_iff.mp b.2
  refine ⟨trivial, ?_⟩
  rw [putU8, hx]
  rfl

lemma u32_takes : Takes u32Le putU32Le fun _ => True := by
  refine (Takes.nat 4 _).map fun v hv => ?_
  refine ⟨trivial, ?_⟩
  rw [putU32Le, UInt32.toNat_ofNat_of_lt' hv, putNat, if_pos hv]

lemma u64_takes : Takes u64Le putU64Le fun _ => True := by
  refine (Takes.nat 8 _).map fun v hv => ?_
  refine ⟨trivial, ?_⟩
  rw [putU64Le, UInt64.toNat_ofNat_of_lt' hv, putNat, if_pos hv]

lemma MemoryId.toBeBytes_fromBeBytes (b : Uuid) : beBytes 16 (MemoryId.fromBeBytes b).val = b.1 := by
  have hlen : b.1.reverse.length = 16 := length_reverse.trans b.2
  change (leBytes 16 (leNat b.1.reverse)).reverse = b.1
  rw [leBytes_leNat_of_length hlen, reverse_reverse]

lemma memoryId_takes : Takes memoryId putMemoryId fun _ => True := by
  refine uuid_takes.map fun b _ => ?_
  exact ⟨trivial, congrArg some (MemoryId.toBeBytes_fromBeBytes b)⟩

lemma nodeRef_takes : Takes nodeRef putNodeRef fun _ => True := by
  refine (Takes.take 17 _).parse fun b n _ hn => ⟨trivial, ?_⟩
  obtain ⟨_ | ⟨tag, id⟩, hb⟩ := b
  · cases hb
  unfold NodeRef.fromBytes at hn
  by_cases h0 : tag = 0
  · subst h0
    cases hn
    exact congrArg (fun id => some (0 :: id)) (MemoryId.toBeBytes_fromBeBytes _)
  · by_cases h1 : tag = 1
    · subst h1
      cases hn
      rfl
    · simp [h0, h1] at hn
      cases hn

lemma utf8_of_textOf {text : String} (h : textOf bytes = .ok text) : utf8 text = bytes := by
  unfold textOf String.fromUTF8? at h
  split at h
  next s hs =>
    cases h
    split at hs
    · cases hs
      rfl
    · cases hs
  · cases h

lemma putBlob_of_counted {len : Nat} (h : putNat 4 len = some bs)
    (blob : { blob : Bytes // blob.length = len }) : putBlob blob.1 = some (bs ++ blob.1) := by
  simp [putBlob, join, blob.2, h, putBytes]

lemma blob_takes : Takes readBlob putBlob fun bytes => bytes.length ≤ responseBlobMax := by
  intro bytes blob rest h
  obtain ⟨len, x, _, -, hx, rfl, haft⟩ := (Takes.nat 4 _).bind h
  obtain ⟨hlimit, hroom⟩ := run_check haft
  obtain ⟨b, _, _, -, hb, rfl, hblob⟩ := (Takes.take len _).bind (run_require hroom)
  cases hb
  cases hblob
  exact ⟨b.2.trans_le hlimit, x ++ b.1, putBlob_of_counted hx b, (append_assoc ..).symm⟩

lemma text_takes : Takes readText putText fun _ => True := by
  intro bytes text rest h
  obtain ⟨len, x, _, -, hx, rfl, hroom⟩ := (Takes.nat 4 _).bind h
  obtain ⟨b, _, _, -, hb, rfl, htext⟩ := (Takes.take len _).bind (run_require hroom)
  cases hb
  cases hs : textOf b.1 with
  | error e =>
    rw [hs] at htext
    cases htext
  | ok s =>
    rw [hs] at htext
    cases htext
    refine ⟨trivial, x ++ b.1, ?_, (append_assoc ..).symm⟩
    rw [putText, utf8_of_textOf hs]
    exact putBlob_of_counted hx b

lemma hintString_takes :
    Takes readHintString putText fun text => (utf8 text).length ≤ responseBlobMax := by
  refine blob_takes.parse fun blob text hlimit htext => ?_
  have hblob := utf8_of_textOf htext
  rw [putText, hblob]
  exact ⟨hlimit, rfl⟩

lemma option_takes {P : α → Prop} (h : Takes get put P) :
    Takes (readOption get) (putOption put) fun o => ∀ a ∈ o, P a := by
  intro bytes o rest hread
  obtain ⟨tag, x, _, -, hx, rfl, h1⟩ := u8_takes.bind hread
  cases hx
  by_cases h0 : tag = 0
  · subst h0
    cases h1
    exact ⟨by simp, [0], rfl, rfl⟩
  · by_cases htag : tag = 1
    · subst htag
      obtain ⟨a, y, _, hP, hy, rfl, h2⟩ := h.bind h1
      cases h2
      refine ⟨by simpa using hP, 1 :: y, ?_, rfl⟩
      simp [putOption, join, hy, putU8]
    · rw [if_neg h0, if_neg htag] at h1
      cases h1

lemma internHint_takes : Takes readInternHint putInternHint HintFits := by
  refine option_takes (P := fun h : String × String =>
    (utf8 h.1).length ≤ responseBlobMax ∧ (utf8 h.2).length ≤ responseBlobMax) ?_
  intro bytes hint rest h
  obtain ⟨nspace, x, _, hfst, hx, rfl, h1⟩ := hintString_takes.bind h
  obtain ⟨name, y, _, hsnd, hy, rfl, h2⟩ := hintString_takes.bind h1
  cases h2
  refine ⟨⟨hfst, hsnd⟩, x ++ y, ?_, (append_assoc ..).symm⟩
  simp [join, hx, hy]

/-- A relation read from the front of a stream was laid out field by field; only the byte of its
flag is not determined. -/
lemma relationLink_taken {p : RelationLinkPayload}
    (h : decodeRelationLink.run bytes = .ok (p, rest)) :
    (p.propertiesBlob.length ≤ responseBlobMax ∧ HintFits p.internHint) ∧
      ∃ flag bs, relationLinkBytes flag p = some bs ∧ bytes = bs ++ rest := by
  obtain ⟨relationId, x1, _, -, hx1, rfl, h1⟩ := uuid_takes.bind h
  obtain ⟨source, x2, _, -, hx2, rfl, h2⟩ := nodeRef_takes.bind h1
  obtain ⟨target, x3, _, -, hx3, rfl, h3⟩ := nodeRef_takes.bind h2
  obtain ⟨relationTypeId, x4, _, -, hx4, rfl, h4⟩ := u32_takes.bind h3
  obtain ⟨chainRoot, x5, _, -, hx5, rfl, h5⟩ := uuid_takes.bind h4
  obtain ⟨confidence, x6, _, -, hx6, rfl, h6⟩ := u32_takes.bind h5
  obtain ⟨validFrom, x7, _, -, hx7, rfl, h7⟩ := (option_takes u64_takes).bind h6
  obtain ⟨validTo, x8, _, -, hx8, rfl, h8⟩ := (option_takes u64_takes).bind h7
  obtain ⟨supersedes, x9, _, -, hx9, rfl, h9⟩ := (option_takes uuid_takes).bind h8
  obtain ⟨count, x10, _, -, hx10, rfl, h10⟩ := (Takes.nat 4 _).bind h9
  obtain ⟨evidence, x11, _, hcnt, hx11, rfl, h11⟩ :=
    (memoryId_takes.many count).bind (run_require h10)
  obtain ⟨extractorId, x12, _, -, hx12, rfl, h12⟩ := u32_takes.bind h11
  obtain ⟨isSymmetric, _, hflag, h13⟩ := run_bind_ok h12
  obtain ⟨flag, x13, _, -, hx13, rfl, hbit⟩ := u8_takes.bind hflag
  cases hbit
  obtain ⟨propertiesBlob, x14, _, hblob, hx14, rfl, h14⟩ := blob_takes.bind h13
  obtain ⟨spaceId, x15, _, -, hx15, rfl, h15⟩ := uuid_takes.bind h14
  obtain ⟨namespaceId, x16, _, -, hx16, rfl, h16⟩ := u32_takes.bind h15
  obtain ⟨sessionId, x17, _, -, hx17, rfl, h17⟩ := u64_takes.bind h16
  obtain ⟨internHint, x18, _, hhint, hx18, rfl, h18⟩ := internHint_takes.bind h17
  cases h18
  refine ⟨⟨hblob, hhint⟩, flag, ?_⟩
  refine exists_join hx1 (exists_join hx2 (exists_join hx3 (exists_join hx4 ?_)))
  refine exists_join hx5 (exists_join hx6 (exists_join hx7 (exists_join hx8 ?_)))
  refine exists_join hx9 (exists_join (hcnt ▸ hx10) (exists_join hx11 (exists_join hx12 ?_)))
  refine exists_join hx13 (exists_join hx14 (exists_join hx15 (exists_join hx16 ?_)))
  exact exists_join hx17 (exists_join hx18 ⟨[], rfl, rfl⟩)

lemma relationTombstone_takes :
    Takes decodeRelationTombstone encodeRelationTombstone fun _ => True := by
  intro bytes p rest h
  obtain ⟨relationId, x1, _, -, hx1, rfl, h1⟩ := uuid_takes.bind h
  obtain ⟨reason, x2, _, -, hx2, rfl, h2⟩ := text_takes.bind h1
  obtain ⟨atUnixNanos, x3, _, -, hx3, rfl, h3⟩ := u64_takes.bind h2
  obtain ⟨spaceId, x4, _, -, hx4, rfl, h4⟩ := uuid_takes.bind h3
  cases h4
  refine ⟨trivial, ?_⟩
  exact exists_join hx1 (exists_join hx2 (exists_join hx3 (exists_join hx4 ⟨[], rfl, rfl⟩)))

lemma whole_taken {a : α} (h : whole get bytes = .ok a) : get.run bytes = .ok (a, []) := by
  unfold whole at h
  cases hread : get.run bytes with
  | error e =>
    rw [hread] at h
    cases h
  | ok read =>
    obtain ⟨b, rest⟩ := read
    rw [hread] at h
    change (if rest.length = 0 then _ else _) = _ at h
    split at h
    next hrest =>
      cases h
      rw [length_eq_zero_iff.mp hrest]
    · cases h

/-- The bytes that read as a typed relation payload of the kind: the fields in the order of the
layout, whose counts and lengths fit their widths, with the blob and the hint within the reader's
limit and any byte at all for the flag. -/
def RelationBytes (bytes : Bytes) : WalRecordKind → Prop
  | .relationCreate => ∃ (flag : UInt8) (p : RelationLinkPayload),
      relationLinkBytes flag p = some bytes ∧
        p.propertiesBlob.length ≤ responseBlobMax ∧ HintFits p.internHint
  | .relationSupersede => ∃ (old : Uuid) (flag : UInt8) (p : RelationLinkPayload),
      join [putUuidBytes old, relationLinkBytes flag p] = some bytes ∧
        p.propertiesBlob.length ≤ responseBlobMax ∧ HintFits p.internHint
  | .relationTombstone => ∃ p, encodeRelationTombstone p = some bytes
  | _ => False

lemma relationLink_ok_iff :
    (∃ p, whole decodeRelationLink bytes = .ok p) ↔ RelationBytes bytes .relationCreate := by
  constructor
  · rintro ⟨p, hp⟩
    obtain ⟨hlim, flag, bs, hbs, rfl⟩ := relationLink_taken (whole_taken hp)
    rw [append_nil]
    exact ⟨flag, p, hbs, hlim⟩
  · rintro ⟨flag, p, hbytes, hlim⟩
    exact ⟨_, whole_reads ((relationLinkBytes_inverts flag p bytes hbytes).1 hlim)⟩

lemma relationSupersede_ok_iff : (∃ p, whole decodeRelationSupersede bytes = .ok p) ↔
      RelationBytes bytes .relationSupersede := by
  constructor
  · rintro ⟨p, hp⟩
    obtain ⟨old, x, _, -, hx, rfl, hnew⟩ := uuid_takes.bind (whole_taken hp)
    obtain ⟨new, _, hlink, hdone⟩ := run_bind_ok hnew
    cases hdone
    obtain ⟨hlim, flag, bs, hbs, rfl⟩ := relationLink_taken hlink
    refine ⟨old, flag, new, ?_, hlim⟩
    simp [join, hx, hbs]
  · rintro ⟨old, flag, p, hbytes, hlim⟩
    have hinverts : Inverts decodeRelationSupersede
        (join [putUuidBytes old, relationLinkBytes flag p])
        ⟨old, { p with isSymmetric := flag ≠ 0 }⟩ _ :=
      (uuid_field old).seq ((relationLinkBytes_inverts flag p).seq (.pure _))
    exact ⟨_, whole_reads ((hinverts bytes hbytes).1 ⟨hlim, trivial⟩)⟩

lemma relationTombstone_ok_iff : (∃ p, whole decodeRelationTombstone bytes = .ok p) ↔
      RelationBytes bytes .relationTombstone := by
  constructor
  · rintro ⟨p, hp⟩
    obtain ⟨-, bs, hbs, rfl⟩ := relationTombstone_takes _ _ _ (whole_taken hp)
    rw [append_nil]
    exact ⟨p, hbs⟩
  · rintro ⟨p, hbytes⟩
    exact ⟨p, whole_reads (relationTombstone_field p bytes hbytes)⟩

lemma whole_bind (get : Reader α) (k : α → Reader β) (bytes : Bytes) :
    whole (get >>= k) bytes = (get.run bytes >>= fun read => whole (k read.1) read.2) := by
  unfold whole
  rw [StateT.run_bind, bind_assoc]

variable (f : α → β)

lemma whole_pure (a : α) (rest : Bytes) :
    (whole (pure a) rest).map f = (do finish rest; return f a) := by
  change Except.map f (if rest.length = 0 then _ else _) = _
  unfold finish
  split <;> rfl

lemma map_bind_except {ε γ : Type} (f : β → γ) (x : Except ε α) (g : α → Except ε β) :
    Except.map f (x >>= g) = (x >>= fun a => Except.map f (g a)) := by
  cases x <;> rfl

lemma whole_map (get : Reader α) (bytes : Bytes) :
    whole (f <$> get) bytes = (whole get bytes).map f := by
  unfold whole
  rw [StateT.run_map, map_bind_except]
  cases get.run bytes with
  | error e => rfl
  | ok read =>
    change (if read.2.length = 0 then _ else _) = Except.map f (if read.2.length = 0 then _ else _)
    split <;> rfl

lemma exists_map_ok {ε : Type} {f : α → β} {x : Except ε α} :
    (∃ b, x.map f = .ok b) ↔ ∃ a, x = .ok a := by
  cases x with
  | error e => simp [Except.map]
  | ok a => simp [Except.map]

lemma whole_map_ok_iff {f : α → β} :
    (∃ q, whole (f <$> get) bytes = .ok q) ↔ ∃ p, whole get bytes = .ok p := by
  rw [whole_map, exists_map_ok]

namespace WalPayload

def Readable : WalPayload → Prop
  | phaseBody r => isPhaseBody r.kind = true ∨ RelationBytes (r.spaceId.1 ++ r.body) r.kind
  | p => p.WithinLimits

/-- A typed relation kind ends in its own reader, all other opaque kinds in that of the bodies. -/
lemma decode_relation_ok_iff {kind : WalRecordKind} (hkinds : kind.hasOpaqueBody = true)
    (hbody : isPhaseBody kind = false) :
    (∃ q, decode kind bytes = .ok q) ↔ RelationBytes bytes kind := by
  cases kind with
  | relationCreate =>
    rw [← relationLink_ok_iff]
    exact whole_map_ok_iff
  | relationSupersede =>
    rw [← relationSupersede_ok_iff]
    exact whole_map_ok_iff
  | relationTombstone =>
    rw [← relationTombstone_ok_iff]
    exact whole_map_ok_iff
  | _ => first | exact absurd hbody (by decide) | exact absurd hkinds (by decide)

lemma decode_ok_iff {p : WalPayload} (hbytes : p.encodeToBytes = some bytes)
    (hkinds : ∀ r, p = phaseBody r → r.kind.hasOpaqueBody = true) :
    (∃ q, decode p.kind bytes = .ok q) ↔ p.Readable := by
  by_cases hbody : ∃ r, p = phaseBody r
  · obtain ⟨r, rfl⟩ := hbody
    rw [phaseBody_bytes hbytes]
    cases hkind : isPhaseBody r.kind with
    | true =>
      refine iff_of_true ?_ (.inl hkind)
      exact ⟨_, (decode_phaseBody hkind _).trans (decodePhaseBody_ok r)⟩
    | false =>
      have hrel : _ ↔ RelationBytes (r.spaceId.1 ++ r.body) r.kind :=
        decode_relation_ok_iff (hkinds r rfl) hkind
      refine hrel.trans (or_iff_right ?_).symm
      rw [hkind]
      exact Bool.false_ne_true
  · have htyped : ∀ r, p ≠ phaseBody r := fun r hr => hbody ⟨r, hr⟩
    have hreadable : p.Readable ↔ p.WithinLimits := by
      cases p with
      | phaseBody r => exact absurd rfl (htyped r)
      | _ => exact Iff.rfl
    rw [hreadable]
    obtain ⟨get, hdec, hinverts⟩ := inverts_of_typed p htyped
    obtain ⟨hreads, hrefuses⟩ := hinverts bytes hbytes
    constructor
    · rintro ⟨q, hq⟩
      by_contra hlim
      obtain ⟨e, he⟩ := whole_refuses (hrefuses hlim)
      rw [hdec, he] at hq
      cases hq
    · intro hlim
      exact ⟨p, (hdec bytes).trans (whole_reads (hreads hlim))⟩

end WalPayload

lemma run_u32Le (bytes : Bytes) : u32Le.run bytes = PayloadReader.u32Le bytes := by
  unfold u32Le lengthLe PayloadReader.u32Le PayloadReader.take
  rw [StateT.run_bind, run_nat]
  split <;> rfl

lemma run_u64Le (bytes : Bytes) : u64Le.run bytes = PayloadReader.u64Le bytes := by
  unfold u64Le lengthLe PayloadReader.u64Le PayloadReader.take
  rw [StateT.run_bind, run_nat]
  split <;> rfl

lemma run_array16 (bytes : Bytes) : array16.run bytes = array16 bytes := rfl

lemma whole_checkpointBegin (bytes : Bytes) : (BrainDb.WalPayload.decodeCheckpointBegin bytes :
      Except WalPayloadError (BrainDb.WalPayload WalPayload)) =
        (whole decodeCheckpointBegin bytes).map fun p =>
          .checkpointBegin p.checkpointId p.startedAtUnixNanos := by
  unfold decodeCheckpointBegin
  simp only [whole_bind, map_bind_except, whole_pure, run_u64Le]
  rfl

lemma whole_checkpointEnd (bytes : Bytes) : (BrainDb.WalPayload.decodeCheckpointEnd bytes :
      Except WalPayloadError (BrainDb.WalPayload WalPayload)) =
        (whole decodeCheckpointEnd bytes).map fun p =>
          .checkpointEnd p.checkpointId p.durableLsn p.arenaCapacity := by
  unfold decodeCheckpointEnd
  simp only [whole_bind, map_bind_except, whole_pure, run_u64Le]
  rfl

lemma whole_txnBegin (bytes : Bytes) : (BrainDb.WalPayload.decodeTxnBegin bytes :
      Except WalPayloadError (BrainDb.WalPayload WalPayload)) =
        (whole decodeTxnBegin bytes).map fun p => .txnBegin p.txnId p.expectedRecordCount := by
  unfold decodeTxnBegin
  simp only [whole_bind, map_bind_except, whole_pure, run_array16, run_u32Le]
  rfl

lemma whole_txnCommit (bytes : Bytes) : (BrainDb.WalPayload.decodeTxnCommit bytes :
      Except WalPayloadError (BrainDb.WalPayload WalPayload)) =
        (whole array16 bytes).map .txnCommit := by
  have hread : array16 = (array16 >>= fun txnId => pure txnId) := (bind_pure array16).symm
  rw [hread]
  simp only [whole_bind, map_bind_except, whole_pure, run_array16]
  rfl

lemma whole_txnAbort (bytes : Bytes) : (BrainDb.WalPayload.decodeTxnAbort bytes :
      Except WalPayloadError (BrainDb.WalPayload WalPayload)) =
        (whole decodeTxnAbort bytes).map fun p => .txnAbort p.txnId p.reasonCode := by
  unfold decodeTxnAbort
  simp only [whole_bind, map_bind_except, whole_pure, run_array16, run_u32Le]
  rfl

lemma whole_ok_iff {γ : Type} {f : α → β} {g : α → γ} :
    (∃ q, (whole get bytes).map f = .ok q) ↔ ∃ q, whole (g <$> get) bytes = .ok q := by
  rw [whole_map_ok_iff, exists_map_ok]

lemma typedPayload_ok_iff (r : WalRecord) : (∃ q, r.typedPayload WalPayload.decode = .ok q) ↔
      ∃ q, WalPayload.decode r.kind r.payload = .ok q := by
  unfold WalRecord.typedPayload BrainDb.WalPayload.decode
  cases r.kind with
  | checkpointBegin =>
    rw [whole_checkpointBegin]
    exact whole_ok_iff
  | checkpointEnd =>
    rw [whole_checkpointEnd]
    exact whole_ok_iff
  | txnBegin =>
    rw [whole_txnBegin]
    exact whole_ok_iff
  | txnCommit =>
    rw [whole_txnCommit]
    exact whole_ok_iff
  | txnAbort =>
    rw [whole_txnAbort]
    exact whole_ok_iff
  | _ => exact exists_map_ok

namespace WalPayload

def relationWith (propertiesBlob : Bytes) : RelationLinkPayload :=
  let zero := nilUuid
  { relationId := zero, source := .entity zero, target := .entity zero, relationTypeId := 1
    chainRoot := zero, confidence := 0, validFrom := none, validTo := none, supersedes := none
    evidence := [], extractorId := 0, isSymmetric := false, propertiesBlob, spaceId := zero
    namespaceId := 1, sessionId := 0, internHint := none }

lemma length_relationWith {blob : Bytes} (h : encodeRelationLink (relationWith blob) = some bytes) :
    bytes.length = 119 + blob.length := by
  have hlen := length_join h
  have hblob : blob.length < 4294967296 := (isSome_encodeRelationLink.mp (by rw [h]; rfl)).2.1
  simp [putUuidBytes, putBytes, putNodeRef, putU32Le, putU64Le, putU8, putOptionU64,
    putOptionRelationId, putInternHint, putOption, join, NodeRef.idBytes, putNat, putBlob,
    relationWith, nilUuid, hblob] at hlen
  omega

end WalPayload
end BrainDb.Disk
