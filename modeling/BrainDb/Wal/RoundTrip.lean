import BrainDb.Wal.Layout

namespace BrainDb.Disk
open List Bytes Codec Inverts PayloadReader Field
open Codec.Field (seq)

lemma take_field {n : Nat} (bs : { bs : Bytes // bs.length = n }) :
    Field (take n) (putBytes bs.1) bs := Field.take _ bs

lemma uuid_field (id : Uuid) : Field array16 (putUuidBytes id) id := take_field id

lemma u8_field (b : UInt8) : Field u8 (putU8 b) b := by
  refine (single ?_).field
  exact seq (take_field ⟨[b], rfl⟩) (.pure b)

lemma length_field (w n : Nat) : Field (lengthLe w) (putNat w n) n := nat w _ n

lemma u32_field (v : UInt32) : Field u32Le (putU32Le v) v := by
  have hput : putU32Le v = putNat 4 v.toNat := (if_pos v.toNat_lt).symm
  have hvalue : UInt32.ofNat v.toNat = v := UInt32.ofNat_toNat
  refine (single ?_).field
  rw [hput]
  refine seq (length_field 4 v.toNat) ?_
  rw [hvalue]
  exact .pure v

lemma u64_field (v : UInt64) : Field u64Le (putU64Le v) v := by
  have hput : putU64Le v = putNat 8 v.toNat := (if_pos v.toNat_lt).symm
  have hvalue : UInt64.ofNat v.toNat = v := UInt64.ofNat_toNat
  refine (single ?_).field
  rw [hput]
  refine seq (length_field 8 v.toNat) ?_
  rw [hvalue]
  exact .pure v

variable (id : MemoryId)

def MemoryId.toBeBytes : Uuid := ⟨beBytes 16 id.val, be128_fixed.length id⟩

lemma MemoryId.fromBeBytes_toBeBytes : MemoryId.fromBeBytes id.toBeBytes = id := by
  refine Fin.ext ?_
  change leNat (leBytes 16 id.val).reverse.reverse = id.val
  rw [reverse_reverse]
  exact leNat_leBytes id.isLt

lemma memoryId_field : Field memoryId (putMemoryId id) id := by
  refine (single ?_).field
  refine seq (uuid_field id.toBeBytes) ?_
  rw [MemoryId.fromBeBytes_toBeBytes]
  exact .pure id

variable {α β : Type} {bs bytes : Bytes} {get : Reader α} {put : α → Option Bytes}

lemma byteAs_field {fromU8 : UInt8 → Except WalPayloadError α} {b : UInt8} {a : α}
    (h : fromU8 b = .ok a) : Field (byteAs fromU8) (putU8 b) a := (u8_field b).parse h

lemma memoryKind_field (k : MemoryKind) :
    Field (byteAs memoryKindFromU8) (putU8 (memoryKindToU8 k)) k :=
  byteAs_field (by cases k <;> rfl)

lemma edgeOrigin_field (o : EdgeOrigin) : Field (byteAs edgeOriginFromU8) (putU8 o.asU8) o :=
  byteAs_field (by cases o <;> rfl)

lemma forgetMode_field (m : ForgetMode) : Field (byteAs forgetModeFromU8) (putU8 m.asU8) m :=
  byteAs_field (by cases m <;> rfl)

lemma forgetReason_field (r : ForgetReason) : Field (byteAs forgetReasonFromU8) (putU8 r.asU8) r :=
  byteAs_field (by cases r <;> rfl)

lemma salienceReason_field (r : SalienceReason) :
    Field (byteAs salienceReasonFromU8) (putU8 r.asU8) r :=
  byteAs_field (by cases r <;> rfl)

lemma bool_field (b : Bool) : Field readBool (putBool b) b :=
  byteAs_field (by cases b <;> rfl)

lemma nodeRef_field (n : NodeRef) : Field nodeRef (putNodeRef n) n := by
  have hlen : (n.tag :: n.idBytes).length = 17 := by
    cases n with
    | memory id => exact congrArg (· + 1) (be128_fixed.length id)
    | entity id => exact congrArg (· + 1) id.2
  have hfrom : NodeRef.fromBytes ⟨n.tag :: n.idBytes, hlen⟩ = .ok n := by
    cases n with
    | memory id => exact congrArg (Except.ok ∘ NodeRef.memory) id.fromBeBytes_toBeBytes
    | entity id => rfl
  exact (take_field ⟨n.tag :: n.idBytes, hlen⟩).parse (by rw [hfrom]; rfl)

lemma edgeKindRef_field (k : EdgeKindRef) : Field edgeKindRef (putEdgeKindRef k) k := by
  intro bs hbs rest
  cases hbs
  cases k with
  | builtin kind => cases kind <;> rfl
  | mentions => rfl
  | typed id =>
    have hlen : (beBytes 4 id.toNat).length = 4 := by
      rw [beBytes, length_reverse, length_leBytes]
    have hroom : ¬ (beBytes 4 id.toNat ++ rest).length < 4 := by
      rw [length_append]
      omega
    have hid : UInt32.ofNat (leNat (beBytes 4 id.toNat).reverse) = id := by
      rw [beBytes, reverse_reverse, leNat_leBytes_uint32]
      exact UInt32.ofNat_toNat
    have hdec : EdgeKindRef.decodeFrom (2 :: (beBytes 4 id.toNat ++ rest)) =
        .ok (.typed id, 5) := by
      simp only [EdgeKindRef.decodeFrom, if_neg hroom, take_left' hlen, hid]
      rfl
    have hdrop : (2 :: (beBytes 4 id.toNat ++ rest)).drop 5 = rest := drop_left' hlen
    change edgeKindRef (2 :: (beBytes 4 id.toNat ++ rest)) = _
    simp only [edgeKindRef, hdec, hdrop]

lemma length_putU32Le {v : UInt32} (h : putU32Le v = some bs) : 4 ≤ bs.length := by
  cases h
  exact (length_leBytes 4 _).ge

lemma length_putMemoryId {id : MemoryId} (h : putMemoryId id = some bs) : 16 ≤ bs.length := by
  cases h
  exact (be128_fixed.length id).ge

lemma vector_inverts (v : List UInt32) :
    Inverts readVector (putVector v) v (v.length ≤ vectorDimsMax) := by
  refine seq (length_field 2 v.length) (.congr (.check (.require ?_ ?_)) (and_iff_left trivial))
  · intro bs hbs
    obtain ⟨x, y, hx, hy, rfl⟩ := join_cons hbs
    cases hy
    rw [append_nil]
    exact le_length_join (fun _ _ => length_putU32Le) hx
  · exact (many u32_field v).inverts.last

variable (text : String)

lemma textOf_utf8 : textOf (utf8 text) = .ok text := by
  have harray : (⟨(utf8 text).toArray⟩ : ByteArray) = text.toByteArray := by
    refine ByteArray.ext ?_
    exact Array.toArray_toList
  have hread : String.fromUTF8? text.toByteArray = some text := by
    unfold String.fromUTF8?
    rw [dif_pos text.isValidUTF8]
    rfl
  unfold textOf
  rw [harray, hread]

lemma blob_room (bytes : Bytes) (bs : Bytes) (h : join [putBytes bytes] = some bs) :
    bytes.length ≤ bs.length := by
  rw [join_singleton] at h
  cases h
  exact le_rfl

lemma text_field : Field readText (putText text) text := by
  refine field (seq (length_field 4 _) (.require (blob_room _) ?_))
  exact ((take_field ⟨utf8 text, rfl⟩).parse (textOf_utf8 text)).inverts.last

lemma blob_inverts (bytes : Bytes) :
    Inverts readBlob (putBlob bytes) bytes (bytes.length ≤ responseBlobMax) := by
  refine seq (length_field 4 _) (.congr (.check (.require (blob_room _) ?_)) (and_iff_left trivial))
  exact seq (take_field ⟨bytes, rfl⟩) (.pure bytes)

lemma hintString_inverts :
    Inverts readHintString (putText text) text ((utf8 text).length ≤ responseBlobMax) := by
  exact (blob_inverts (utf8 text)).parse (textOf_utf8 text)

lemma option_inverts {P : α → Prop} (h : ∀ a, Inverts get (put a) a (P a)) (o : Option α) :
    Inverts (readOption get) (putOption put o) o (∀ a ∈ o, P a) := by
  cases o with
  | none =>
    refine congr (seq (u8_field 0) (.pure none)).single ?_
    simp
  | some a =>
    refine seq (u8_field 1) ?_
    refine congr ((h a).seq (.pure (some a))) ?_
    simp

lemma option_field (h : ∀ a, Field get (put a) a) (o : Option α) :
    Field (readOption get) (putOption put o) o :=
  ((option_inverts (fun a => (h a).inverts) o).congr (by simp)).field

lemma optionU64_field (o : Option UInt64) : Field readOptionU64 (putOptionU64 o) o :=
  option_field u64_field o

lemma optionRelationId_field (o : Option Uuid) :
    Field readOptionRelationId (putOptionRelationId o) o :=
  option_field uuid_field o

def HintFits (hint : Option (String × String)) : Prop :=
  ∀ h ∈ hint, (utf8 h.1).length ≤ responseBlobMax ∧ (utf8 h.2).length ≤ responseBlobMax

lemma internHint_inverts (hint : Option (String × String)) :
    Inverts readInternHint (putInternHint hint) hint (HintFits hint) := by
  refine option_inverts ?_ hint
  intro h
  refine (hintString_inverts h.1).seq ?_
  exact congr ((hintString_inverts h.2).seq (.pure h)) (and_iff_left trivial)

lemma edge_field (e : EdgePayload) : Field decodeEdge (encodeEdge e) e := by
  refine field (seq (nodeRef_field e.source) (seq (nodeRef_field e.target) ?_))
  refine seq (edgeKindRef_field e.kind) (seq (u32_field e.weight) ?_)
  exact seq (edgeOrigin_field e.origin) (.pure e)

lemma length_putNodeRef {n : NodeRef} (h : putNodeRef n = some bs) : bs.length = 17 := by
  cases h
  cases n with
  | memory id => exact congrArg (· + 1) (be128_fixed.length id)
  | entity id => exact congrArg (· + 1) id.2

lemma length_encodeEdge {e : EdgePayload} (h : encodeEdge e = some bs) : 40 ≤ bs.length := by
  obtain ⟨source, rest1, hsrc, hrest1, rfl⟩ := join_cons h
  obtain ⟨target, rest2, htgt, hrest2, rfl⟩ := join_cons hrest1
  obtain ⟨kind, rest3, hkind, hrest3, rfl⟩ := join_cons hrest2
  obtain ⟨weight, rest4, hweight, hrest4, rfl⟩ := join_cons hrest3
  obtain ⟨origin, rest5, horg, hrest5, rfl⟩ := join_cons hrest4
  have hkindLen : 1 ≤ kind.length := by
    cases hkind
    cases e.kind <;> simp [EdgeKindRef.encode]
  have hsrcLen := length_putNodeRef hsrc
  have htgtLen := length_putNodeRef htgt
  have hweightLen := length_putU32Le hweight
  cases horg
  simp only [length_append, length_singleton]
  omega

lemma length_encodeTail {p : EncodePayload}
    (h : join [putBytes p.requestHash.1, putBlob p.responsePayload, putBool p.deduplicate,
      putOptionU64 p.occurredAtUnixNanos] = some bs) : 37 ≤ bs.length := by
  obtain ⟨hash, rest1, hhash, hrest1, rfl⟩ := join_cons h
  obtain ⟨blob, rest2, hblob, hrest2, rfl⟩ := join_cons hrest1
  obtain ⟨dedup, rest3, hdedup, hrest3, rfl⟩ := join_cons hrest2
  obtain ⟨count, bytes, hcnt, _, rfl⟩ := join_cons hblob
  have hcntLen := length_putNat hcnt
  have hhashLen := p.requestHash.2
  cases hhash
  cases hdedup
  simp only [length_append, length_singleton]
  omega

lemma encode_inverts (p : EncodePayload) : Inverts decodeEncode (encodeEncode p) p
      (p.vector.length ≤ vectorDimsMax ∧ p.responsePayload.length ≤ responseBlobMax) := by
  refine seq (memoryId_field _) (seq (uuid_field _) (seq (uuid_field _) ?_))
  refine seq (u32_field _) (seq (u64_field _) (seq (memoryKind_field _) ?_))
  refine seq (u32_field _) (seq (uuid_field _) (seq (text_field _) ?_))
  refine (vector_inverts p.vector).seq (seq (length_field 2 _) (.require ?_ ?_))
  · intro bs hbs
    obtain ⟨edges, tail, hedges, htail, rfl⟩ := join_cons hbs
    have hedgesLen := le_length_join (fun _ _ => length_encodeEdge) hedges
    have htailLen := length_encodeTail htail
    rw [length_append]
    omega
  · refine seq (many edge_field p.edges) (seq (take_field p.requestHash) ?_)
    refine congr ((blob_inverts p.responsePayload).seq ?_) (and_iff_left trivial)
    exact seq (bool_field _) (seq (optionU64_field _) (.pure p))

lemma forget_field (p : ForgetPayload) : Field decodeForget (encodeForget p) p := by
  refine field (seq (memoryId_field _) (seq (uuid_field _) ?_))
  refine seq (uuid_field _) (seq (forgetMode_field _) ?_)
  exact seq (forgetReason_field _) (.pure p)

lemma restore_field (p : RestorePayload) : Field decodeRestore (encodeRestore p) p := by
  refine field (seq (memoryId_field _) (seq (uuid_field _) ?_))
  exact seq (uuid_field _) (.pure p)

lemma link_field (p : LinkPayload) : Field decodeLink (encodeLink p) p := by
  refine field (seq (nodeRef_field _) (seq (nodeRef_field _) ?_))
  refine seq (edgeKindRef_field _) (seq (u32_field _) ?_)
  exact seq (edgeOrigin_field _) (.pure p)

lemma unlink_field (p : UnlinkPayload) : Field decodeUnlink (encodeUnlink p) p := by
  refine field (seq (nodeRef_field _) (seq (nodeRef_field _) ?_))
  exact seq (edgeKindRef_field _) (seq (u32_field _) (.pure p))

lemma salienceUpdate_field (u : SalienceUpdate) :
    Field decodeSalienceUpdate (encodeSalienceUpdate u) u := by
  refine field (seq (memoryId_field _) (seq (u32_field _) ?_))
  exact seq (salienceReason_field _) (.pure u)

lemma length_encodeSalienceUpdate {u : SalienceUpdate} (h : encodeSalienceUpdate u = some bs) :
    21 ≤ bs.length := by
  obtain ⟨id, rest1, hid, hrest1, rfl⟩ := join_cons h
  obtain ⟨salience, rest2, hsalience, hrest2, rfl⟩ := join_cons hrest1
  obtain ⟨reason, rest3, hreason, hrest3, rfl⟩ := join_cons hrest2
  have hidLen := length_putMemoryId hid
  have hsalienceLen := length_putU32Le hsalience
  cases hreason
  simp only [length_append, length_singleton]
  omega

lemma updateSalience_field (updates : List SalienceUpdate) :
    Field decodeUpdateSalience (encodeUpdateSalience updates) updates := by
  refine field (seq (length_field 4 _) (.require ?_ ?_))
  · intro bs hbs
    rw [join_singleton] at hbs
    exact le_length_join (fun _ _ => length_encodeSalienceUpdate) hbs
  · exact (many salienceUpdate_field updates).inverts.last

lemma reclaim_field (p : ReclaimPayload) : Field decodeReclaim (encodeReclaim p) p := by
  refine field (seq (u64_field _) (seq (u32_field _) ?_))
  exact seq (u32_field _) (seq (memoryId_field _) (.pure p))

lemma memoryIds_room {ids : List MemoryId} {puts : List (Option Bytes)} (bs : Bytes)
    (h : join (join (ids.map putMemoryId) :: puts) = some bs) : ids.length * 16 ≤ bs.length := by
  obtain ⟨x, y, hx, _, rfl⟩ := join_cons h
  have hlength := le_length_join (fun _ _ => length_putMemoryId) hx
  rw [length_append]
  omega

lemma consolidate_inverts (p : ConsolidatePayload) :
    Inverts decodeConsolidate (encodeConsolidate p) p (p.vector.length ≤ vectorDimsMax) := by
  refine seq (memoryId_field _) (seq (length_field 4 _) (.require memoryIds_room ?_))
  refine seq (many memoryId_field _) (seq (text_field _) ?_)
  refine congr ((vector_inverts p.vector).seq ?_) (and_iff_left trivial)
  exact seq (uuid_field _) (.pure p)

lemma updateKind_field (p : UpdateKindPayload) : Field decodeUpdateKind (encodeUpdateKind p) p :=
  field (seq (memoryId_field _) (seq (memoryKind_field _) (.pure p)))

lemma updateSession_field (p : UpdateSessionPayload) :
    Field decodeUpdateSession (encodeUpdateSession p) p :=
  field (seq (memoryId_field _) (seq (u64_field _) (.pure p)))

lemma checkpointBegin_field (p : CheckpointBeginPayload) :
    Field decodeCheckpointBegin (encodeCheckpointBegin p) p :=
  field (seq (u64_field _) (seq (u64_field _) (.pure p)))

lemma checkpointEnd_field (p : CheckpointEndPayload) :
    Field decodeCheckpointEnd (encodeCheckpointEnd p) p := by
  refine field (seq (u64_field _) (seq (u64_field _) ?_))
  exact seq (u64_field _) (.pure p)

lemma txnBegin_field (p : TxnBeginPayload) : Field decodeTxnBegin (encodeTxnBegin p) p :=
  field (seq (uuid_field _) (seq (u32_field _) (.pure p)))

lemma txnAbort_field (p : TxnAbortPayload) : Field decodeTxnAbort (encodeTxnAbort p) p :=
  field (seq (uuid_field _) (seq (u32_field _) (.pure p)))

lemma migrateEmbedding_inverts (p : MigrateEmbeddingPayload) :
    Inverts decodeMigrateEmbedding (encodeMigrateEmbedding p) p
      (p.newVector.length ≤ vectorDimsMax) := by
  refine seq (memoryId_field _) (seq (uuid_field _) (seq (uuid_field _) ?_))
  exact congr ((vector_inverts p.newVector).seq (.pure p)) (and_iff_left trivial)

/-- Any byte but zero is read as a set flag. -/
lemma relationLinkBytes_inverts (flag : UInt8) (p : RelationLinkPayload) :
    Inverts decodeRelationLink (relationLinkBytes flag p) { p with isSymmetric := flag ≠ 0 }
      (p.propertiesBlob.length ≤ responseBlobMax ∧ HintFits p.internHint) := by
  refine seq (uuid_field _) (seq (nodeRef_field _) (seq (nodeRef_field _) ?_))
  refine seq (u32_field _) (seq (uuid_field _) (seq (u32_field _) ?_))
  refine seq (optionU64_field _) (seq (optionU64_field _) ?_)
  refine seq (optionRelationId_field _) (seq (length_field 4 _) ?_)
  refine .require memoryIds_room (seq (many memoryId_field _) ?_)
  refine seq (u32_field _) (seq (byteAs_field rfl) ?_)
  refine (blob_inverts p.propertiesBlob).seq (seq (uuid_field _) ?_)
  refine seq (u32_field _) (seq (u64_field _) ?_)
  exact congr ((internHint_inverts p.internHint).seq (.pure _)) (and_iff_left trivial)

lemma relationLink_inverts (p : RelationLinkPayload) :
    Inverts decodeRelationLink (encodeRelationLink p) p
      (p.propertiesBlob.length ≤ responseBlobMax ∧ HintFits p.internHint) := by
  have hflag : decide ((if p.isSymmetric then 1 else 0 : UInt8) ≠ 0) = p.isSymmetric := by
    cases p.isSymmetric <;> rfl
  have hinverts := relationLinkBytes_inverts (if p.isSymmetric then 1 else 0) p
  rwa [hflag] at hinverts

lemma relationSupersede_inverts (p : RelationSupersedePayload) :
    Inverts decodeRelationSupersede (encodeRelationSupersede p) p
      (p.new.propertiesBlob.length ≤ responseBlobMax ∧ HintFits p.new.internHint) := by
  refine seq (uuid_field _) ?_
  exact congr ((relationLink_inverts p.new).seq (.pure p)) (and_iff_left trivial)

lemma relationTombstone_field (p : RelationTombstonePayload) :
    Field decodeRelationTombstone (encodeRelationTombstone p) p := by
  refine field (seq (uuid_field _) (seq (text_field _) ?_))
  exact seq (u64_field _) (seq (uuid_field _) (.pure p))

def isPhaseBody : WalRecordKind → Bool
  | .entityCreate | .entityUpdate | .entityMerge | .entityTombstone | .entityRename
  | .entityUnmerge | .statementCreate | .statementSupersede | .statementTombstone
  | .schemaUpdate | .audit | .stageCompleted | .spaceCreate | .spaceDelete | .sessionCreate
  | .sessionDelete => true
  | _ => false

lemma decode_phaseBody {kind : WalRecordKind} (h : isPhaseBody kind = true)
    (bytes : Bytes) : WalPayload.decode kind bytes = decodePhaseBody kind bytes := by
  cases kind <;> first | rfl | cases h

lemma whole_reads {a : α} (h : Reads get bs a) : whole get bs = .ok a := by
  unfold whole
  rw [h.run]
  rfl

lemma whole_refuses (h : Refuses get bs) : ∃ e, whole get bs = .error e := by
  obtain ⟨e, he⟩ := h.run
  refine ⟨e, ?_⟩
  unfold whole
  rw [he]
  rfl

namespace WalPayload

def WithinLimits : WalPayload → Prop
  | encode p => p.vector.length ≤ vectorDimsMax ∧ p.responsePayload.length ≤ responseBlobMax
  | consolidate p => p.vector.length ≤ vectorDimsMax
  | migrateEmbedding p => p.newVector.length ≤ vectorDimsMax
  | relationLink p => p.propertiesBlob.length ≤ responseBlobMax ∧ HintFits p.internHint
  | relationSupersede p =>
    p.new.propertiesBlob.length ≤ responseBlobMax ∧ HintFits p.new.internHint
  | phaseBody r => isPhaseBody r.kind = true
  | _ => True

def CountsFit : WalPayload → Prop
  | encode p => (utf8 p.text).length < 2 ^ 32 ∧ p.vector.length < 2 ^ 16 ∧
    p.edges.length < 2 ^ 16 ∧ p.responsePayload.length < 2 ^ 32
  | updateSalience updates => updates.length < 2 ^ 32
  | consolidate p => p.sourceMemoryIds.length < 2 ^ 32 ∧ (utf8 p.text).length < 2 ^ 32 ∧
    p.vector.length < 2 ^ 16
  | migrateEmbedding p => p.newVector.length < 2 ^ 16
  | relationLink p => RelationLinkFits p
  | relationSupersede p => RelationLinkFits p.new
  | relationTombstone p => (utf8 p.reason).length < 2 ^ 32
  | _ => True
where
  RelationLinkFits (p : RelationLinkPayload) : Prop :=
    p.evidence.length < 2 ^ 32 ∧ p.propertiesBlob.length < 2 ^ 32 ∧
      ∀ h ∈ p.internHint, (utf8 h.1).length < 2 ^ 32 ∧ (utf8 h.2).length < 2 ^ 32

lemma inverts_of_typed (p : WalPayload) (h : ∀ r, p ≠ phaseBody r) :
    ∃ get : Reader WalPayload, (∀ bytes, decode p.kind bytes = whole get bytes) ∧
      Inverts get p.encodeToBytes p p.WithinLimits := by
  cases p with
  | encode p => exact ⟨_, fun _ => rfl, (encode_inverts p).map _⟩
  | forget p => exact ⟨_, fun _ => rfl, (forget_field p).inverts.map _⟩
  | link p => exact ⟨_, fun _ => rfl, (link_field p).inverts.map _⟩
  | unlink p => exact ⟨_, fun _ => rfl, (unlink_field p).inverts.map _⟩
  | updateSalience updates =>
    exact ⟨_, fun _ => rfl, (updateSalience_field updates).inverts.map _⟩
  | reclaim p => exact ⟨_, fun _ => rfl, (reclaim_field p).inverts.map _⟩
  | consolidate p => exact ⟨_, fun _ => rfl, (consolidate_inverts p).map _⟩
  | updateKind p => exact ⟨_, fun _ => rfl, (updateKind_field p).inverts.map _⟩
  | updateSession p => exact ⟨_, fun _ => rfl, (updateSession_field p).inverts.map _⟩
  | checkpointBegin p => exact ⟨_, fun _ => rfl, (checkpointBegin_field p).inverts.map _⟩
  | checkpointEnd p => exact ⟨_, fun _ => rfl, (checkpointEnd_field p).inverts.map _⟩
  | txnBegin p => exact ⟨_, fun _ => rfl, (txnBegin_field p).inverts.map _⟩
  | txnCommit txnId => exact ⟨_, fun _ => rfl, (uuid_field txnId).inverts.map _⟩
  | txnAbort p => exact ⟨_, fun _ => rfl, (txnAbort_field p).inverts.map _⟩
  | migrateEmbedding p => exact ⟨_, fun _ => rfl, (migrateEmbedding_inverts p).map _⟩
  | relationLink p => exact ⟨_, fun _ => rfl, (relationLink_inverts p).map _⟩
  | relationSupersede p => exact ⟨_, fun _ => rfl, (relationSupersede_inverts p).map _⟩
  | relationTombstone p => exact ⟨_, fun _ => rfl, (relationTombstone_field p).inverts.map _⟩
  | restoreMemory p => exact ⟨_, fun _ => rfl, (restore_field p).inverts.map _⟩
  | phaseBody r => exact absurd rfl (h r)

lemma phaseBody_bytes {r : PhaseBodyRecord} (h : (phaseBody r).encodeToBytes = some bytes) :
    bytes = r.spaceId.1 ++ r.body := by
  obtain ⟨x, y, hx, hy, rfl⟩ := join_cons h
  rw [join_singleton] at hy
  cases hx
  cases hy
  rfl

lemma decodePhaseBody_ok (r : PhaseBodyRecord) :
    decodePhaseBody r.kind (r.spaceId.1 ++ r.body) = .ok (phaseBody r) := by
  have hread := uuid_field r.spaceId _ rfl r.body
  unfold decodePhaseBody
  rw [hread]
  rfl

variable {p : WalPayload}

lemma decode_of_withinLimits (h : p.WithinLimits) (hbytes : p.encodeToBytes = some bytes) :
    decode p.kind bytes = .ok p := by
  by_cases hbody : ∃ r, p = phaseBody r
  · obtain ⟨r, rfl⟩ := hbody
    rw [phaseBody_bytes hbytes]
    exact (decode_phaseBody h _).trans (decodePhaseBody_ok r)
  · obtain ⟨get, hdec, hinverts⟩ := inverts_of_typed p fun r hr => hbody ⟨r, hr⟩
    rw [hdec]
    exact whole_reads ((hinverts bytes hbytes).1 h)

lemma isSome_putBlob : (putBlob bytes).isSome ↔ bytes.length < 2 ^ 32 := by
  unfold putBlob
  rw [isSome_join]
  simp [isSome_putNat, putBytes]

lemma isSome_putText {text : String} : (putText text).isSome ↔ (utf8 text).length < 2 ^ 32 :=
  isSome_putBlob

lemma isSome_putVector {v : List UInt32} : (putVector v).isSome ↔ v.length < 2 ^ 16 := by
  unfold putVector
  simp [isSome_putNat, isSome_join, putU32Le]

lemma isSome_putOption {o : Option α} : (putOption put o).isSome ↔ ∀ a ∈ o, (put a).isSome := by
  cases o with
  | none => simp [putOption, putU8]
  | some a => simp [putOption, putU8, isSome_join]

lemma isSome_putInternHint {hint : Option (String × String)} : (putInternHint hint).isSome ↔
    ∀ h ∈ hint, (utf8 h.1).length < 2 ^ 32 ∧ (utf8 h.2).length < 2 ^ 32 := by
  unfold putInternHint
  rw [isSome_putOption]
  simp [isSome_join, isSome_putText]

lemma isSome_putMemoryIds (ids : List MemoryId) : (join (ids.map putMemoryId)).isSome := by
  rw [isSome_join]
  simp [putMemoryId]

lemma isSome_edges (edges : List EdgePayload) : (join (edges.map encodeEdge)).isSome := by
  simp [encodeEdge, isSome_join, putNodeRef, putEdgeKindRef, putU32Le, putU8]

lemma isSome_encodeRelationLink {p : RelationLinkPayload} :
    (encodeRelationLink p).isSome ↔ CountsFit.RelationLinkFits p := by
  unfold encodeRelationLink relationLinkBytes CountsFit.RelationLinkFits
  rw [isSome_join]
  simp [putUuidBytes, putBytes, putNodeRef, putU32Le, putU64Le, putU8, putOptionU64,
    putOptionRelationId, isSome_putOption, isSome_putNat, isSome_putMemoryIds, isSome_putBlob,
    isSome_putInternHint]

lemma isSome_encodeToBytes : p.encodeToBytes.isSome ↔ p.CountsFit := by
  cases p with
  | encode p =>
    unfold encodeToBytes encodeEncode CountsFit
    rw [isSome_join]
    simp [putMemoryId, putUuidBytes, putBytes, putU32Le, putU64Le, putBool, putU8, putOptionU64,
      isSome_putOption, isSome_putNat, isSome_edges, isSome_putText, isSome_putVector,
      isSome_putBlob]
  | updateSalience updates =>
    unfold encodeToBytes encodeUpdateSalience CountsFit
    simp [isSome_putNat, isSome_join, encodeSalienceUpdate, putMemoryId, putU32Le, putU8]
  | consolidate p =>
    unfold encodeToBytes encodeConsolidate CountsFit
    simp [putMemoryId, putUuidBytes, putBytes, isSome_putNat, isSome_join, isSome_putText,
      isSome_putVector]
  | migrateEmbedding p =>
    unfold encodeToBytes encodeMigrateEmbedding CountsFit
    rw [isSome_join]
    simp [putMemoryId, putUuidBytes, putBytes, isSome_putVector]
  | relationLink p => exact isSome_encodeRelationLink
  | relationSupersede p =>
    unfold encodeToBytes encodeRelationSupersede CountsFit
    rw [isSome_join]
    simp [putUuidBytes, putBytes, isSome_encodeRelationLink]
  | relationTombstone p =>
    unfold encodeToBytes encodeRelationTombstone CountsFit
    rw [isSome_join]
    simp [putUuidBytes, putBytes, putU64Le, isSome_putText]
  | _ =>
    refine iff_of_true ?_ trivial
    rfl

/-- Every payload within the limits, whose counts fit, survives the log. -/
theorem decode_encodeToBytes (p : WalPayload) (hlim : p.WithinLimits) (hcnts : p.CountsFit) :
    ∃ bytes, p.encodeToBytes = some bytes ∧ decode p.kind bytes = .ok p := by
  obtain ⟨bytes, hbytes⟩ := Option.isSome_iff_exists.mp (isSome_encodeToBytes.mpr hcnts)
  exact ⟨bytes, hbytes, decode_of_withinLimits hlim hbytes⟩

def nilUuid : Uuid := ⟨List.replicate 16 0, rfl⟩

def visitNote : WalPayload :=
  let zero := nilUuid
  encode
    { memoryId := 7, requestId := zero, spaceId := zero, namespaceId := 1, sessionId := 2
      kind := .episodic, salienceInitial := 0x3F000000, embeddingModelFp := zero, text := "héllo"
      vector := [0x3F800000, 0]
      edges := [⟨.memory 7, .entity zero, .mentions, 0x3F800000, .autoDerived⟩,
        ⟨.memory 7, .memory 3, .builtin .partOf, 0, .explicit⟩]
      requestHash := ⟨List.replicate 32 9, rfl⟩, responsePayload := [1, 2, 3], deduplicate := true
      occurredAtUnixNanos := some 5 }

theorem visitNote_survives : visitNote.CountsFit ∧ visitNote.WithinLimits ∧
    ∃ bytes, visitNote.encodeToBytes = some bytes ∧ bytes.length = 233 ∧
      decode .encode bytes = .ok visitNote := by
  have hcnts : visitNote.CountsFit := by
    unfold visitNote CountsFit
    decide
  have hlim : visitNote.WithinLimits := by
    unfold visitNote WithinLimits
    decide
  obtain ⟨bytes, hbytes, hdec⟩ := decode_encodeToBytes visitNote hlim hcnts
  refine ⟨hcnts, hlim, bytes, hbytes, ?_, hdec⟩
  cases hbytes
  decide +kernel

end WalPayload
end BrainDb.Disk
