import BrainDb.Wal.Payload
import BrainDb.Wal.Reader

namespace BrainDb
open List Option

inductive TxnRole where
  | txnBegin (txnId : TxnId) (expectedRecordCount : Nat)
  | txnCommit (txnId : TxnId)
  | txnAbort (txnId : TxnId)
  | member

/-- What recovery runs against: the typed-payload decoder and, as one state `S`, the arena
with the metadata sink. `apply` is the arena update followed by the sink's `apply`. -/
structure ReplayEnv (S P D E : Type) where
  typedPayload : WalRecord → Except D P
  role : P → TxnRole
  durableLsn : S → Nat
  apply : S → WalRecord → P → Except E S

def WalPayload.role {B : Type} : WalPayload B → TxnRole
  | txnBegin txnId expected => .txnBegin txnId expected.toNat
  | txnCommit txnId => .txnCommit txnId
  | txnAbort txnId _ => .txnAbort txnId
  | _ => .member

def driverEnv {S B E : Type} (parseBody : WalRecordKind → Bytes → Except WalPayloadError B)
    (durableLsn : S → Nat) (apply : S → WalRecord → WalPayload B → Except E S) :
    ReplayEnv S (WalPayload B) WalPayloadError E :=
  { typedPayload := WalRecord.typedPayload parseBody
    role := WalPayload.role
    durableLsn := durableLsn
    apply := apply }

inductive RecoveryError (D E : Type) where
  | walRead (source : WalReadError)
  | payloadDecodeError (lsn : Nat) (source : D)
  | applyError (lsn : Nat) (source : E)
  | txnBufferOverflow (txnId : TxnId) (buffered expected : Nat)
  deriving DecidableEq

structure RecoveryReport where
  (recordsReplayed recordsSkipped recordsDiscarded nextLsn activeTailOffset : Nat)
  activeSegmentSeq : Option Nat
  deriving DecidableEq

/-- The local variables of the replay loop. `goodTail` is the end offset and the segment of
the last durably-good record; `activeTxn` pairs the open bracket's id with its declared count. -/
structure Replaying (S P : Type) where
  target : S
  (recordsReplayed recordsSkipped recordsDiscarded lastGoodLsn : Nat)
  goodTail : Option (Nat × Nat)
  activeTxn : Option (TxnId × Nat)
  txnBuffer : List (WalRecord × P)

variable {S P D E : Type} (st : Replaying S P)

namespace Replaying

def advanceTail (y : Yielded) : Replaying S P :=
  { st with lastGoodLsn := y.record.lsn.toNat, goodTail := some (y.endOffset, y.segmentSeq) }

def skip : Replaying S P := { st with recordsSkipped := st.recordsSkipped + 1 }

def discardTxn : Replaying S P :=
  { st with
    recordsDiscarded := st.recordsDiscarded + st.txnBuffer.length
    activeTxn := none
    txnBuffer := [] }

def openTxn (txnId : TxnId) (expected : Nat) (r : WalRecord) (p : P) : Replaying S P :=
  { st with activeTxn := some (txnId, expected), txnBuffer := [(r, p)] }

end Replaying

open Replaying

def applyRecord (env : ReplayEnv S P D E) (s : S) (entry : WalRecord × P) :
    Except (RecoveryError D E) S :=
  match env.apply s entry.1 entry.2 with
  | .error e => .error (.applyError entry.1.lsn.toNat e)
  | .ok s' => .ok s'

def bufferMember (txnId : TxnId) (expected : Nat) (r : WalRecord) (p : P) :
    Except (RecoveryError D E) (Replaying S P) :=
  if st.txnBuffer.length > expected then
    .error (.txnBufferOverflow txnId st.txnBuffer.length expected)
  else .ok { st with txnBuffer := st.txnBuffer ++ [(r, p)] }

def commitTxn (env : ReplayEnv S P D E) (st : Replaying S P) (y : Yielded) (p : P) :
    Except (RecoveryError D E) (Replaying S P) :=
  let buffered := st.txnBuffer ++ [(y.record, p)]
  match buffered.foldlM (applyRecord env) st.target with
  | .error e => .error e
  | .ok target =>
    .ok ({ st with
      target := target
      recordsReplayed := st.recordsReplayed + buffered.length
      activeTxn := none
      txnBuffer := [] }.advanceTail y)

def replayRecord (env : ReplayEnv S P D E) (durableLsn : Nat) (st : Replaying S P) (y : Yielded) :
    Except (RecoveryError D E) (Replaying S P) :=
  if y.record.lsn.toNat ≤ durableLsn then .ok (st.skip.advanceTail y)
  else if y.record.isSubscribeEvent then
    -- an event is a clean boundary only outside a bracket
    .ok (if st.activeTxn.isNone then st.skip.advanceTail y else st.skip)
  else
    match env.typedPayload y.record with
    | .error e => .error (.payloadDecodeError y.record.lsn.toNat e)
    | .ok p =>
      match st.activeTxn, env.role p with
      | some (current, expected), .txnCommit txnId =>
        if txnId = current then commitTxn env st y p
        else bufferMember st current expected y.record p
      | some (current, expected), .txnAbort txnId =>
        if txnId = current then .ok (st.discardTxn.advanceTail y)
        else bufferMember st current expected y.record p
      -- a second begin leaves the first bracket dangling
      | some _, .txnBegin txnId expected => .ok (st.discardTxn.openTxn txnId expected y.record p)
      | some (current, expected), .member => bufferMember st current expected y.record p
      | none, .txnBegin txnId expected => .ok (st.openTxn txnId expected y.record p)
      | none, _ =>
        match applyRecord env st.target (y.record, p) with
        | .error e => .error e
        | .ok target =>
          .ok ({ st with
            target := target
            recordsReplayed := st.recordsReplayed + 1 }.advanceTail y)

def replayAll (env : ReplayEnv S P D E) (durableLsn : Nat) :
    Replaying S P → List Yielded → Except (RecoveryError D E) (Replaying S P)
  | st, [] => .ok st
  | st, y :: ys =>
    match replayRecord env durableLsn st y with
    | .error e => .error e
    | .ok st' => replayAll env durableLsn st' ys

def replayStart (s : S) (durableLsn : Nat) : Replaying S P :=
  { target := s, recordsReplayed := 0, recordsSkipped := 0, recordsDiscarded := 0,
    lastGoodLsn := durableLsn, goodTail := none, activeTxn := none, txnBuffer := [] }

def activeTailOffset (goodTail : Option (Nat × Nat)) (activeSegmentSeq : Option Nat) : Nat :=
  match goodTail, activeSegmentSeq with
  | some (offset, goodSeq), some activeSeq =>
    if goodSeq = activeSeq then offset else walSegmentHeaderLen
  | _, _ => walSegmentHeaderLen

def replayReport (infos : List SegmentInfo) (st : Replaying S P) : RecoveryReport :=
  let activeSegmentSeq := infos.getLast?.map SegmentInfo.segmentSeq
  { recordsReplayed := st.recordsReplayed
    recordsSkipped := st.recordsSkipped
    -- a partial transaction at the end of the log
    recordsDiscarded := st.recordsDiscarded + st.txnBuffer.length
    nextLsn := st.lastGoodLsn + 1
    activeTailOffset := activeTailOffset st.goodTail activeSegmentSeq
    activeSegmentSeq := activeSegmentSeq }

def recover (env : ReplayEnv S P D E) (crc : Checksum) (dir : WalDir)
    (uuid : ShardUuid) (s : S) : Except (RecoveryError D E) (RecoveryReport × S) :=
  match WalReader.openDir crc dir uuid with
  | .error e => .error (.walRead e)
  | .ok infos =>
    let durableLsn := env.durableLsn s
    let out := WalReader.drain crc infos
    match replayAll env durableLsn (replayStart s durableLsn) out.yielded with
    | .error e => .error e
    | .ok st =>
      -- a read error reaches the driver after the records before it
      match out.error with
      | some e => .error (.walRead e)
      | none => .ok (replayReport infos st, st.target)

variable {txnId : TxnId} {expected durableLsn : Nat} {y : Yielded}

section

structure LiveRecord (env : ReplayEnv S P D E) (durableLsn : Nat) (r : WalRecord) (p : P) :
    Prop where
  above : durableLsn < r.lsn.toNat
  notEvent : r.isSubscribeEvent = false
  decodes : env.typedPayload r = .ok p

inductive ReplayCase (env : ReplayEnv S P D E) (durableLsn : Nat) (st : Replaying S P)
    (y : Yielded) : Replaying S P → Prop
  | durable : y.record.lsn.toNat ≤ durableLsn → ReplayCase env durableLsn st y (st.skip.advanceTail y)
  | idleEvent : durableLsn < y.record.lsn.toNat → y.record.isSubscribeEvent = true →
      st.activeTxn = none → ReplayCase env durableLsn st y (st.skip.advanceTail y)
  | busyEvent {txn : TxnId × Nat} : durableLsn < y.record.lsn.toNat →
      y.record.isSubscribeEvent = true → st.activeTxn = some txn →
      ReplayCase env durableLsn st y st.skip
  | plain {p : P} {target : S} : LiveRecord env durableLsn y.record p → st.activeTxn = none →
      (∀ txnId n, env.role p ≠ .txnBegin txnId n) →
      applyRecord env st.target (y.record, p) = .ok target →
      ReplayCase env durableLsn st y ({ st with
        target := target
        recordsReplayed := st.recordsReplayed + 1 }.advanceTail y)
  | opens {p : P} {txnId : TxnId} {expected : Nat} : LiveRecord env durableLsn y.record p →
      st.activeTxn = none → env.role p = .txnBegin txnId expected →
      ReplayCase env durableLsn st y (st.openTxn txnId expected y.record p)
  | overwrites {p : P} {txn : TxnId × Nat} {txnId : TxnId} {expected : Nat} :
      LiveRecord env durableLsn y.record p → st.activeTxn = some txn →
      env.role p = .txnBegin txnId expected →
      ReplayCase env durableLsn st y (st.discardTxn.openTxn txnId expected y.record p)
  | member {p : P} {current : TxnId} {expected : Nat} : LiveRecord env durableLsn y.record p →
      st.activeTxn = some (current, expected) → (∀ txnId n, env.role p ≠ .txnBegin txnId n) →
      env.role p ≠ .txnCommit current → env.role p ≠ .txnAbort current →
      st.txnBuffer.length ≤ expected →
      ReplayCase env durableLsn st y { st with txnBuffer := st.txnBuffer ++ [(y.record, p)] }
  | commits {p : P} {current : TxnId} {expected : Nat} {target : S} :
      LiveRecord env durableLsn y.record p → st.activeTxn = some (current, expected) →
      env.role p = .txnCommit current →
      (st.txnBuffer ++ [(y.record, p)]).foldlM (applyRecord env) st.target = .ok target →
      ReplayCase env durableLsn st y ({ st with
        target := target
        recordsReplayed := st.recordsReplayed + (st.txnBuffer ++ [(y.record, p)]).length
        activeTxn := none
        txnBuffer := [] }.advanceTail y)
  | aborts {p : P} {current : TxnId} {expected : Nat} : LiveRecord env durableLsn y.record p →
      st.activeTxn = some (current, expected) → env.role p = .txnAbort current →
      ReplayCase env durableLsn st y (st.discardTxn.advanceTail y)

variable {env : ReplayEnv S P D E} {st st' : Replaying S P}

lemma bufferMember_ok {r : WalRecord} {p : P}
    (h : bufferMember (D := D) (E := E) st txnId expected r p = .ok st') :
    st.txnBuffer.length ≤ expected ∧ st' = { st with txnBuffer := st.txnBuffer ++ [(r, p)] } := by
  unfold bufferMember at h
  split at h
  · cases h
  · cases h
    exact ⟨by omega, rfl⟩

lemma replayRecord_cases (h : replayRecord env durableLsn st y = .ok st') :
    ReplayCase env durableLsn st y st' := by
  unfold replayRecord at h
  split at h
  next hd =>
    cases h
    exact .durable hd
  next hd =>
  have habv : durableLsn < y.record.lsn.toNat := Nat.lt_of_not_le hd
  split at h
  next hev =>
    cases h
    cases hact : st.activeTxn with
    | none => exact .idleEvent habv hev hact
    | some txn => exact .busyEvent habv hev hact
  next hev =>
  split at h
  · cases h
  next p hp =>
    have hlive : LiveRecord env durableLsn y.record p := ⟨habv, by simpa using hev, hp⟩
    split at h
    next current expected txnId hact hcomm =>
      split at h
      next heq =>
        simp only [commitTxn] at h
        split at h
        · cases h
        next target htgt =>
          cases h
          subst heq
          exact .commits hlive hact hcomm htgt
      next hne =>
        obtain ⟨hroom, rfl⟩ := bufferMember_ok h
        refine .member hlive hact ?_ ?_ ?_ hroom
        all_goals simp [hcomm, hne]
    next current expected txnId hact habort =>
      split at h
      next heq =>
        cases h
        subst heq
        exact .aborts hlive hact habort
      next hne =>
        obtain ⟨hroom, rfl⟩ := bufferMember_ok h
        refine .member hlive hact ?_ ?_ ?_ hroom
        all_goals simp [habort, hne]
    next hact hbegin =>
      cases h
      exact .overwrites hlive hact hbegin
    next current expected hact hmember =>
      obtain ⟨hroom, rfl⟩ := bufferMember_ok h
      refine .member hlive hact ?_ ?_ ?_ hroom
      all_goals simp [hmember]
    next hact hbegin =>
      cases h
      exact .opens hlive hact hbegin
    next hact hoth =>
      split at h
      · cases h
      next target htgt =>
        cases h
        exact .plain hlive hact hoth htgt
end

section
variable (env : ReplayEnv S P D E) (durableLsn : Nat)

def roleOf (r : WalRecord) : TxnRole :=
  match env.typedPayload r with
  | .ok p => env.role p
  | .error _ => .member

def bracketAfter (open? : Option TxnId) (r : WalRecord) : Option TxnId :=
  if r.lsn.toNat ≤ durableLsn ∨ r.isSubscribeEvent then open?
  else
    match open?, roleOf env r with
    | _, .txnBegin txnId _ => some txnId
    | some current, .txnCommit txnId => if txnId = current then none else some current
    | some current, .txnAbort txnId => if txnId = current then none else some current
    | open?, _ => open?

def cleanLength : Option TxnId → Records → Nat
  | _, [] => 0
  | open?, r :: rs =>
    match cleanLength (bracketAfter env durableLsn open? r) rs with
    | 0 => if bracketAfter env durableLsn open? r = none then 1 else 0
    | k + 1 => k + 2

lemma cleanLength_le (open? : Option TxnId) (rs : Records) :
    cleanLength env durableLsn open? rs ≤ rs.length := by
  induction rs generalizing open? with
  | nil => simp [cleanLength]
  | cons r rs ih =>
    have ht := ih (bracketAfter env durableLsn open? r)
    simp only [cleanLength, length_cons]
    split
    · split <;> omega
    · omega

lemma le_cleanLength_of_durable {n : Nat} {rs : Records} (h : IsLog n rs) :
    min rs.length (durableLsn + 1 - n) ≤ cleanLength env durableLsn none rs := by
  induction rs generalizing n with
  | nil => simp
  | cons r rs ih =>
    obtain ⟨hlsn, hnum⟩ := h.numbered
    have hrest : IsLog (n + 1) rs := ⟨hnum, fun s hs => h.fits s (by simp [hs])⟩
    by_cases hd : r.lsn.toNat ≤ durableLsn
    · have hb : bracketAfter env durableLsn none r = none := by simp [bracketAfter, hd]
      have ht := ih hrest
      simp only [cleanLength, hb, length_cons, if_true]
      split <;> omega
    · simp only at hlsn
      omega

structure TailAt (st st' : Replaying S P) (ys : List Yielded) (k : Nat) : Prop where
  unmoved : k = 0 → st'.lastGoodLsn = st.lastGoodLsn ∧ st'.goodTail = st.goodTail
  moved : ∀ y, 0 < k → ys[k - 1]? = some y →
    st'.lastGoodLsn = y.record.lsn.toNat ∧ st'.goodTail = some (y.endOffset, y.segmentSeq)

variable {env durableLsn}

lemma bracketAfter_live {r : WalRecord} {p : P}
    (h : LiveRecord env durableLsn r p) (open? : Option TxnId) :
    bracketAfter env durableLsn open? r =
      match open?, env.role p with
      | _, .txnBegin txnId _ => some txnId
      | some current, .txnCommit txnId => if txnId = current then none else some current
      | some current, .txnAbort txnId => if txnId = current then none else some current
      | open?, _ => open? := by
  have hlive : ¬ (r.lsn.toNat ≤ durableLsn ∨ r.isSubscribeEvent = true) := by
    simp [Nat.not_le.mpr h.above, h.notEvent]
  simp only [bracketAfter, if_neg hlive, roleOf, h.decodes]

variable {st st' : Replaying S P}

lemma replayRecord_tail (h : replayRecord env durableLsn st y = .ok st')
    (hopen : st.activeTxn = none ∨ durableLsn < y.record.lsn.toNat) :
    st'.activeTxn.map Prod.fst = bracketAfter env durableLsn (st.activeTxn.map Prod.fst) y.record ∧
      (st'.activeTxn = none → st'.lastGoodLsn = y.record.lsn.toNat ∧
        st'.goodTail = some (y.endOffset, y.segmentSeq)) ∧
      (st'.activeTxn ≠ none → st'.lastGoodLsn = st.lastGoodLsn ∧ st'.goodTail = st.goodTail) := by
  cases replayRecord_cases h with
  | durable hd =>
    have hnone : st.activeTxn = none := hopen.resolve_right (by omega)
    simp [advanceTail, skip, bracketAfter, hd, hnone]
  | idleEvent _ hev hact =>
    simp [advanceTail, skip, bracketAfter, hev, hact]
  | busyEvent _ hev hact => simp [skip, bracketAfter, hev, hact]
  | @plain p target hlive hact hoth _ =>
    have haft := bracketAfter_live hlive none
    cases hr : env.role p with
    | txnBegin txnId expected => exact absurd hr (hoth txnId expected)
    | _ => simp [advanceTail, haft, hr, hact]
  | opens hlive hact hbegin => simp [openTxn, bracketAfter_live hlive, hbegin]
  | overwrites hlive hact hbegin =>
    simp [discardTxn, openTxn, bracketAfter_live hlive, hbegin]
  | @member p current expected hlive hact hbegin hcomm habort _ =>
    have haft := bracketAfter_live hlive (some current)
    cases hr : env.role p with
    | txnBegin txnId n => exact absurd hr (hbegin txnId n)
    | txnCommit txnId =>
      have hne : txnId ≠ current := by
        rintro rfl
        exact hcomm hr
      simp [haft, hr, hact, hne]
    | txnAbort txnId =>
      have hne : txnId ≠ current := by
        rintro rfl
        exact habort hr
      simp [haft, hr, hact, hne]
    | member => simp [haft, hr, hact]
  | commits hlive hact hcomm _ =>
    simp [advanceTail, bracketAfter_live hlive, hcomm, hact]
  | aborts hlive hact habort =>
    simp [advanceTail, discardTxn, bracketAfter_live hlive, habort, hact]

lemma replayAll_tail {n : Nat} {ys : List Yielded} (h : replayAll env durableLsn st ys = .ok st')
    (hlog : IsLog n (ys.map Yielded.record)) (hopen : st.activeTxn = none ∨ durableLsn < n) :
    TailAt st st' ys
      (cleanLength env durableLsn (st.activeTxn.map Prod.fst) (ys.map Yielded.record)) := by
  induction ys generalizing n st with
  | nil =>
    cases h
    exact ⟨fun _ => ⟨rfl, rfl⟩, fun y hk => by simp [cleanLength] at hk⟩
  | cons y ys ih =>
    simp only [replayAll] at h
    split at h
    · cases h
    next mid hmid =>
      obtain ⟨hlsn, hnum⟩ := hlog.numbered
      simp only at hlsn
      have hrest : IsLog (n + 1) (ys.map Yielded.record) :=
        ⟨hnum, fun s hs => hlog.fits s (by simp only [map_cons, mem_cons, hs, or_true])⟩
      obtain ⟨hbracket, hcl, hkept⟩ := replayRecord_tail hmid (by rw [hlsn]; exact hopen)
      have hopen' : mid.activeTxn = none ∨ durableLsn < n + 1 := by
        by_cases hd : durableLsn < n + 1
        · exact .inr hd
        · have hnone : st.activeTxn = none := hopen.resolve_right (by omega)
          have hle : y.record.lsn.toNat ≤ durableLsn := by omega
          simp only [hnone, map_none, bracketAfter, hle, true_or, if_true,
            map_eq_none_iff] at hbracket
          exact .inl hbracket
      have ht := ih h hrest hopen'
      rw [hbracket] at ht
      simp only [map_cons, cleanLength]
      generalize hk : cleanLength env durableLsn
        (bracketAfter env durableLsn (st.activeTxn.map Prod.fst) y.record)
        (ys.map Yielded.record) = k at ht
      cases k with
      | zero =>
        obtain ⟨hlast, hgood⟩ := ht.unmoved rfl
        by_cases hnone : mid.activeTxn = none
        · have hb : bracketAfter env durableLsn (st.activeTxn.map Prod.fst) y.record = none := by
            rw [← hbracket, hnone, map_none]
          refine ⟨fun hz => by simp [hb] at hz, ?_⟩
          intro z _ hz
          have hzy : y = z := by simpa [hb] using hz
          rw [hlast, hgood, ← hzy]
          exact hcl hnone
        · have hb : bracketAfter env durableLsn (st.activeTxn.map Prod.fst) y.record ≠ none := by
            rw [← hbracket]
            simpa using hnone
          refine ⟨fun _ => ?_, fun z hz => by simp [hb] at hz⟩
          rw [hlast, hgood]
          exact hkept hnone
      | succ k =>
        refine ⟨fun hz => by simp at hz, ?_⟩
        intro z _ hz
        exact ht.moved z (by omega) (by simpa using hz)
end

section
variable {env : ReplayEnv S P D E} {st : Replaying S P} {p : P}

lemma replayRecord_event (habv : durableLsn < y.record.lsn.toNat)
    (hev : y.record.isSubscribeEvent = true) : replayRecord env durableLsn st y =
      .ok (if st.activeTxn.isNone then st.skip.advanceTail y else st.skip) := by
  simp only [replayRecord, if_neg (Nat.not_le.mpr habv), hev, if_true]

lemma replayRecord_begin (h : LiveRecord env durableLsn y.record p) (hopen : st.activeTxn = none)
    (hrole : env.role p = .txnBegin txnId expected) :
    replayRecord env durableLsn st y = .ok (st.openTxn txnId expected y.record p) := by
  simp [replayRecord, Nat.not_le.mpr h.above, h.notEvent, h.decodes, hopen, hrole]

lemma replayRecord_member (h : LiveRecord env durableLsn y.record p)
    (hopen : st.activeTxn = some (txnId, expected)) (hrole : env.role p = .member) :
    replayRecord env durableLsn st y = bufferMember st txnId expected y.record p := by
  simp [replayRecord, Nat.not_le.mpr h.above, h.notEvent, h.decodes, hopen, hrole]

lemma replayRecord_commit (h : LiveRecord env durableLsn y.record p)
    (hopen : st.activeTxn = some (txnId, expected)) (hrole : env.role p = .txnCommit txnId) :
    replayRecord env durableLsn st y = commitTxn env st y p := by
  simp [replayRecord, Nat.not_le.mpr h.above, h.notEvent, h.decodes, hopen, hrole]

lemma replayRecord_plain (h : LiveRecord env durableLsn y.record p) (hopen : st.activeTxn = none)
    (hrole : env.role p = .member) {target : S}
    (happ : applyRecord env st.target (y.record, p) = .ok target) :
    replayRecord env durableLsn st y = .ok ({ st with
        target := target
        recordsReplayed := st.recordsReplayed + 1 }.advanceTail y) := by
  simp [replayRecord, Nat.not_le.mpr h.above, h.notEvent, h.decodes, hopen, hrole, happ]
end
end BrainDb
