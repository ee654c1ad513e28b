import BrainDb.Wal.Append
import BrainDb.Wal.Recovery

namespace BrainDb
open List Option Yielded Wal Numbered WalRecord
open WalReader (drain openDir readDir)
variable {S P D E : Type} {env : ReplayEnv S P D E} {crc : Checksum} {dir : WalDir}
  {uuid : ShardUuid} {report : RecoveryReport} {s s' : S} {seq nextLsn : Nat}
  {rs : Records} {infos : List SegmentInfo}

lemma recover_ok (h : recover env crc dir uuid s = .ok (report, s')) :
    ∃ infos st, openDir crc dir uuid = .ok infos ∧
      replayAll env (env.durableLsn s) (replayStart s (env.durableLsn s))
        (drain crc infos).yielded = .ok st ∧
      (drain crc infos).error = none ∧ report = replayReport infos st ∧ s' = st.target := by
  unfold recover at h
  split at h
  · cases h
  next infos hopen =>
    simp only at h
    split at h
    · cases h
    next st hst =>
      split at h
      · cases h
      next herror =>
        cases h
        exact ⟨infos, st, hopen, hst, herror, rfl, rfl⟩

def TailJoinsActive (env : ReplayEnv S P D E) (crc : Checksum) (dir : WalDir)
    (uuid : ShardUuid) (durableLsn : Nat) : Prop :=
  match openDir crc dir uuid with
  | .error _ => True
  | .ok infos =>
    match infos.getLast? with
    | none => True
    | some active =>
      let ys := (drain crc infos).yielded
      let clean := cleanLength env durableLsn none (ys.map record)
      (∀ y ∈ ys.drop clean, y.segmentSeq = active.segmentSeq) ∧
        (clean = 0 → durableLsn + 1 = active.startingLsn)

structure ReadableDir (crc : Checksum) (uuid : ShardUuid) (dir : WalDir) where
  (seq firstLsn : Nat)
  files : WalDir
  chunks : List Records
  header : Bytes
  rs : Records
  tail : Bytes
  earlier : List SegmentInfo
  active : SegmentInfo
  dir_eq : dir = files ++ [⟨seq + files.length, header ++ (encodeAll crc rs ++ tail)⟩]
  opened : openDir crc dir uuid = .ok (earlier ++ [active])
  length_eq : earlier.length = files.length
  holds : DirHolds crc uuid seq firstLsn files chunks
  holdsInfos : HoldsLog crc firstLsn earlier chunks
  header_valid : ValidHeader crc uuid (seq + files.length) (firstLsn + chunks.flatten.length)
    header
  active_eq : active = ⟨seq + files.length, firstLsn + chunks.flatten.length,
    header ++ (encodeAll crc rs ++ tail)⟩
  isLog : IsLog (firstLsn + chunks.flatten.length) rs
  yielded_eq : (drain crc (earlier ++ [active])).yielded =
    yieldsLog earlier chunks ++ yieldsAt (seq + files.length) walSegmentHeaderLen rs
  validated : List.Forall₂
    (fun f info => readAndValidateSegmentHeader crc uuid f = .ok info) files earlier
  seq_numbered : From SegmentInfo.segmentSeq seq earlier

lemma yieldsAt_segmentSeq {offset : Nat} : ∀ y ∈ yieldsAt seq offset rs, y.segmentSeq = seq := by
  induction rs generalizing offset with
  | nil => simp [yieldsAt]
  | cons r rs ih =>
    intro y hy
    rcases mem_cons.mp hy with rfl | hy
    · rfl
    · exact ih y hy

lemma yieldsLog_segmentSeq_lt {chunks : List Records} (h : From SegmentInfo.segmentSeq seq infos) :
    ∀ y ∈ yieldsLog infos chunks, y.segmentSeq < seq + infos.length := by
  induction infos generalizing seq chunks with
  | nil => simp [yieldsLog]
  | cons info infos ih =>
    cases chunks with
    | nil => simp [yieldsLog]
    | cons rs chunks =>
      intro y hy
      simp only [yieldsLog, zipWith_cons_cons, flatten_cons, mem_append] at hy
      simp only [length_cons]
      rcases hy with hy | hy
      · have hseq := yieldsAt_segmentSeq y hy
        have hfst := h.1
        omega
      · have hlt := ih h.2 y hy
        omega

lemma readableDir_of_drain (hopen : openDir crc dir uuid = .ok infos) (hne : infos ≠ [])
    (herror : (drain crc infos).error = none) : Nonempty (ReadableDir crc uuid dir) := by
  obtain ⟨hval, hcheck⟩ := openDir_ok hopen
  obtain ⟨earlier, active, rfl⟩ : ∃ earlier active, infos = earlier ++ [active] :=
    ⟨_, _, (dropLast_append_getLast hne).symm⟩
  have hseq : ∃ seq, From SegmentInfo.segmentSeq seq (earlier ++ [active]) := by
    cases hinfos : earlier ++ [active] with
    | nil => simp at hinfos
    | cons info rest =>
      rw [hinfos] at hcheck
      exact ⟨info.segmentSeq, rfl, checkSegmentSequence_iff.mp hcheck⟩
  obtain ⟨seq, hseq⟩ := hseq
  obtain ⟨hseqEarlier, hseqAct, _⟩ := from_append.mp hseq
  obtain ⟨chunks, rs, tail, hold, hbeg, hlog, hbody, hyield, _⟩ :=
    readSegments_ok (ReadOutcome.eq_of_error_none herror)
  obtain ⟨files, f, rfl, hfiles, hf⟩ : ∃ files f, dir = files ++ [f] ∧
      List.Forall₂ (fun f info => readAndValidateSegmentHeader crc uuid f = .ok info) files
        earlier ∧ readAndValidateSegmentHeader crc uuid f = .ok active := by
    obtain ⟨f, rest, hf, hnil, hdrop⟩ :=
      forall₂_cons_right_iff.mp (forall₂_drop_append dir earlier [active] hval)
    cases hnil
    refine ⟨dir.take earlier.length, f, ?_, forall₂_take_append dir earlier [active] hval, hf⟩
    rw [← hdrop, take_append_drop]
  obtain ⟨header, body, rfl, hbs, hhdr⟩ := readAndValidateSegmentHeader_ok hf
  have hlen : earlier.length = files.length := hfiles.length_eq.symm
  have hbody' : body = encodeAll crc rs ++ tail := by
    rw [hbs, ← hhdr.length_eq, drop_left] at hbody
    exact hbody
  subst hbody'
  have hactSeq : active.segmentSeq = seq + files.length := by rw [hseqAct, hlen]
  exact ⟨{
    seq := seq
    firstLsn := firstLsn (earlier ++ [active])
    files := files
    chunks := chunks
    header := header
    rs := rs
    tail := tail
    earlier := earlier
    active := active
    dir_eq := by rw [hactSeq]
    opened := hopen
    length_eq := hlen
    holds := dirHolds_of_holdsLog hfiles hseqEarlier hold
    holdsInfos := hold
    header_valid := by rw [← hactSeq, ← hbeg]; exact hhdr
    active_eq := by rw [← hactSeq, ← hbeg, ← hbs]
    isLog := by rw [← hbeg]; exact hlog
    yielded_eq := by rw [← hactSeq]; exact hyield
    validated := hfiles
    seq_numbered := hseqEarlier }⟩

lemma yieldsAt_getElem? (crc : Checksum) {offset i : Nat} {y : Yielded}
    (h : (yieldsAt seq offset rs)[i]? = some y) :
    y.endOffset = offset + (encodeAll crc (rs.take (i + 1))).length := by
  induction rs generalizing offset i with
  | nil => simp [yieldsAt] at h
  | cons r rs ih =>
    cases i with
    | zero =>
      simp only [yieldsAt, List.getElem?_cons_zero, Option.some.injEq] at h
      simp [← h]
    | succ i =>
      have ht := ih (by simpa [yieldsAt] using h)
      simp only [ht, take_succ_cons, encodeAll_cons, length_append, length_encode]
      omega

namespace ReadableDir
variable (v : ReadableDir crc uuid dir)

def records : Records := v.chunks.flatten ++ v.rs

lemma records_isLog : IsLog v.firstLsn v.records :=
  isLog_append.mpr ⟨v.holdsInfos.isLog, v.isLog⟩

lemma map_record_yielded :
    (drain crc (v.earlier ++ [v.active])).yielded.map record = v.records := by
  rw [v.yielded_eq, map_append, map_record_yieldsLog v.holdsInfos.length_eq,
    map_record_yieldsAt, records]

lemma readDir_records : (readDir crc dir uuid).yielded.map record = v.records := by
  simp only [readDir, v.opened, v.map_record_yielded]

lemma earlier_seq : ∀ y ∈ yieldsLog v.earlier v.chunks, y.segmentSeq < v.seq + v.files.length := by
  rw [← v.length_eq]
  exact yieldsLog_segmentSeq_lt v.seq_numbered

lemma length_yieldsLog : (yieldsLog v.earlier v.chunks).length = v.chunks.flatten.length := by
  rw [← map_record_yieldsLog v.holdsInfos.length_eq, length_map]

def cut (j nextLsn maxSegmentBytes : Nat) : Wal :=
  { dir := v.files ++ [⟨v.seq + v.files.length, v.header ++ encodeAll crc (v.rs.take j)⟩]
    shardUuid := uuid
    nextLsn := nextLsn
    activeSegmentSeq := v.seq + v.files.length
    segment := .opened (encodeAll crc (v.rs.take j)).length
    maxSegmentBytes := maxSegmentBytes
    queue := []
    acked := []
    broken := false }

lemma openExisting_eq (j nextLsn maxSegmentBytes : Nat) : openExisting crc dir uuid nextLsn
        (walSegmentHeaderLen + (encodeAll crc (v.rs.take j)).length) maxSegmentBytes =
      .ok (v.cut j nextLsn maxSegmentBytes) := by
  have hhdr : v.header.length = walSegmentHeaderLen := v.header_valid.length_eq
  have hsplit : encodeAll crc v.rs =
      encodeAll crc (v.rs.take j) ++ encodeAll crc (v.rs.drop j) := by
    rw [← encodeAll_append, take_append_drop]
  have hbs : v.header ++ (encodeAll crc v.rs ++ v.tail) =
      (v.header ++ encodeAll crc (v.rs.take j)) ++ (encodeAll crc (v.rs.drop j) ++ v.tail) := by
    rw [hsplit]
    simp only [append_assoc]
  have hcutLen : (v.header ++ encodeAll crc (v.rs.take j)).length =
      walSegmentHeaderLen + (encodeAll crc (v.rs.take j)).length := by
    rw [length_append, hhdr]
  have hrange : ¬ (walSegmentHeaderLen + (encodeAll crc (v.rs.take j)).length < walSegmentHeaderLen ∨
      walSegmentHeaderLen + (encodeAll crc (v.rs.take j)).length > v.active.bytes.length) := by
    rw [v.active_eq]
    simp only [hbs, length_append, hhdr]
    omega
  have hdir : WalDir.modify dir v.active.segmentSeq
      (·.take (walSegmentHeaderLen + (encodeAll crc (v.rs.take j)).length)) =
      v.files ++ [⟨v.seq + v.files.length, v.header ++ encodeAll crc (v.rs.take j)⟩] := by
    have hact : v.active.segmentSeq = v.seq + v.files.length := by rw [v.active_eq]
    have hfile := WalDir.modify_last v.holds (v.header ++ (encodeAll crc v.rs ++ v.tail))
      (·.take (walSegmentHeaderLen + (encodeAll crc (v.rs.take j)).length))
    simp only [hbs, ← hcutLen, take_left] at hfile
    rw [hact, ← hcutLen, ← hfile]
    exact congrArg (WalDir.modify · _ _) (v.dir_eq.trans (by rw [hbs]))
  have hlast : (v.earlier ++ [v.active]).getLast? = some v.active := by simp
  unfold openExisting
  simp only [v.opened, hlast, if_neg hrange, hdir, cut, Nat.add_sub_cancel_left]
  rw [v.active_eq]

lemma cut_dirHolds (j nextLsn maxSegmentBytes : Nat) :
    DirHolds crc uuid v.seq v.firstLsn (v.cut j nextLsn maxSegmentBytes).dir
      (v.chunks ++ [v.rs.take j]) := by
  have hcut : IsLog (v.firstLsn + v.chunks.flatten.length) (v.rs.take j) := by
    have hall := v.isLog
    rw [← take_append_drop j v.rs] at hall
    exact (isLog_append.mp hall).1
  exact v.holds.append (DirHolds.cons v.header_valid hcut DirHolds.nil)

lemma readDir_cut (j nextLsn maxSegmentBytes : Nat) :
    (readDir crc (v.cut j nextLsn maxSegmentBytes).dir uuid).yielded.map
      record = v.chunks.flatten ++ v.rs.take j := by
  rw [(v.cut_dirHolds j nextLsn maxSegmentBytes).records.1, flatten_append, flatten_singleton]

lemma cut_holdsLog {j : Nat} (maxSegmentBytes : Nat)
    (h : nextLsn = v.firstLsn + (v.chunks.flatten ++ v.rs.take j).length) :
    (v.cut j nextLsn maxSegmentBytes).HoldsLog crc v.seq v.firstLsn
      (v.chunks.flatten ++ v.rs.take j) := by
  have hold := v.cut_dirHolds j nextLsn maxSegmentBytes
  refine ⟨⟨v.chunks ++ [v.rs.take j], hold, by simp [cut]⟩, ?_, by simp [cut], ?_, h⟩
  · simp only [cut, length_append, length_singleton]
    omega
  · have hlog := v.records_isLog
    rw [records, ← take_append_drop j v.rs, ← append_assoc] at hlog
    exact (isLog_append.mp hlog).1

def clean (env : ReplayEnv S P D E) (durableLsn : Nat) : Nat :=
  cleanLength env durableLsn none v.records

lemma clean_le (env : ReplayEnv S P D E) (durableLsn : Nat) :
    v.clean env durableLsn ≤ v.records.length :=
  cleanLength_le env durableLsn none v.records

lemma durable_le_clean (env : ReplayEnv S P D E) (durableLsn : Nat) :
    min v.records.length (durableLsn + 1 - v.firstLsn) ≤ v.clean env durableLsn :=
  le_cleanLength_of_durable env durableLsn v.records_isLog

lemma report_eq (h : recover env crc dir uuid s = .ok (report, s')) :
    report.nextLsn = (if v.clean env (env.durableLsn s) = 0 then env.durableLsn s + 1
        else v.firstLsn + v.clean env (env.durableLsn s)) ∧
      report.activeTailOffset = walSegmentHeaderLen +
        (encodeAll crc (v.rs.take (v.clean env (env.durableLsn s)
          - v.chunks.flatten.length))).length := by
  obtain ⟨infos, st, hopen, hrep, _, rfl, _⟩ := recover_ok h
  rw [v.opened] at hopen
  cases hopen
  have hlog : IsLog v.firstLsn
      ((drain crc (v.earlier ++ [v.active])).yielded.map record) := by
    rw [v.map_record_yielded]
    exact v.records_isLog
  have htail := replayAll_tail hrep hlog (.inl rfl)
  rw [v.map_record_yielded] at htail
  simp only [replayStart, map_none] at htail
  change TailAt _ _ _ (v.clean env (env.durableLsn s)) at htail
  have hle := v.clean_le env (env.durableLsn s)
  have hact : (v.earlier ++ [v.active]).getLast?.map SegmentInfo.segmentSeq =
      some (v.seq + v.files.length) := by
    simp [v.active_eq]
  generalize v.clean env (env.durableLsn s) = k at htail hle ⊢
  simp only [replayReport, hact]
  cases k with
  | zero =>
    obtain ⟨hlast, hgood⟩ := htail.unmoved rfl
    simp [hlast, hgood, activeTailOffset]
  | succ k =>
    have hlength : k < (drain crc (v.earlier ++ [v.active])).yielded.length := by
      have hl := congrArg List.length v.map_record_yielded
      rw [length_map] at hl
      omega
    obtain ⟨y, hy⟩ : ∃ y, (drain crc (v.earlier ++ [v.active])).yielded[k]? = some y :=
      ⟨_, List.getElem?_eq_getElem hlength⟩
    obtain ⟨hlast, hgood⟩ := htail.moved y (by omega) (by simpa using hy)
    have hlsn : y.record.lsn.toNat = v.firstLsn + k := by
      have hrec : v.records[k]? = some y.record := by
        rw [← v.map_record_yielded, List.getElem?_map, hy, map_some]
      exact v.records_isLog.numbered.getElem? hrec
    refine ⟨by simp [hlast, hlsn, Nat.add_assoc], ?_⟩
    rw [hgood]
    simp only [activeTailOffset]
    have hE := v.length_yieldsLog
    rw [v.yielded_eq] at hy
    by_cases hk : k < v.chunks.flatten.length
    · rw [List.getElem?_append_left (by omega)] at hy
      have hlt := v.earlier_seq y (mem_of_getElem? hy)
      have hzero : k + 1 - v.chunks.flatten.length = 0 := by omega
      rw [if_neg (by omega), hzero]
      simp
    · rw [List.getElem?_append_right (by omega), hE] at hy
      have hseq := yieldsAt_segmentSeq y (mem_of_getElem? hy)
      rw [if_pos hseq, yieldsAt_getElem? crc hy]
      congr 4
      omega

variable (body : Bytes)

lemma openDir_body : openDir crc (v.files ++ [⟨v.seq + v.files.length, v.header ++ body⟩]) uuid =
      .ok (v.earlier ++ [⟨v.seq + v.files.length, v.firstLsn + v.chunks.flatten.length,
        v.header ++ body⟩]) := by
  refine openDir_of_validated (rel_append v.validated
    (List.Forall₂.cons (readAndValidateSegmentHeader_append v.header_valid body) List.Forall₂.nil))
    (from_append.mpr ⟨v.seq_numbered, ?_, trivial⟩)
  rw [v.length_eq]

lemma readDir_body : readDir crc (v.files ++ [⟨v.seq + v.files.length, v.header ++ body⟩]) uuid =
      ⟨yieldsLog v.earlier v.chunks ++ (readSegments crc [⟨v.seq + v.files.length,
          v.firstLsn + v.chunks.flatten.length, v.header ++ body⟩]
          (v.firstLsn + v.chunks.flatten.length)).yielded,
        (readSegments crc [⟨v.seq + v.files.length, v.firstLsn + v.chunks.flatten.length,
          v.header ++ body⟩] (v.firstLsn + v.chunks.flatten.length)).error⟩ := by
  have hfst := v.holdsInfos.firstLsn_append ⟨v.seq + v.files.length,
    v.firstLsn + v.chunks.flatten.length, v.header ++ body⟩ rfl
  simp only [readDir, v.openDir_body, drain, hfst, readSegments_append v.holdsInfos]

lemma drop_yielded_active_iff (k : Nat) :
    (∀ y ∈ (drain crc (v.earlier ++ [v.active])).yielded.drop k,
        y.segmentSeq = v.active.segmentSeq) ↔ v.chunks.flatten.length ≤ k := by
  have hE := v.length_yieldsLog
  rw [v.yielded_eq, v.active_eq]
  constructor
  · intro hall
    by_contra hk
    -- the record at position `k` lies in an earlier segment
    obtain ⟨y, hy⟩ : ∃ y, (yieldsLog v.earlier v.chunks)[k]? = some y :=
      ⟨_, List.getElem?_eq_getElem (by omega)⟩
    have hmem : y ∈ (yieldsLog v.earlier v.chunks ++
        yieldsAt (v.seq + v.files.length) walSegmentHeaderLen v.rs).drop k := by
      apply mem_of_getElem? (i := 0)
      rw [List.getElem?_drop, Nat.add_zero, List.getElem?_append_left (by omega), hy]
    have hlt := v.earlier_seq y (mem_of_getElem? hy)
    have heq := hall y hmem
    simp only at heq
    omega
  · intro hk y hy
    rw [drop_append, drop_of_length_le (by omega), nil_append] at hy
    exact yieldsAt_segmentSeq y (mem_of_mem_drop hy)

lemma tailJoinsActive_iff (durableLsn : Nat) : TailJoinsActive env crc dir uuid durableLsn ↔
      v.chunks.flatten.length ≤ v.clean env durableLsn ∧
        (v.clean env durableLsn = 0 → durableLsn + 1 = v.firstLsn + v.chunks.flatten.length) := by
  have hlast : (v.earlier ++ [v.active]).getLast? = some v.active := by simp
  have hbeg : v.active.startingLsn = v.firstLsn + v.chunks.flatten.length := by rw [v.active_eq]
  simp only [TailJoinsActive, v.opened, hlast, v.map_record_yielded]
  rw [show cleanLength env durableLsn none v.records = v.clean env durableLsn from rfl,
    v.drop_yielded_active_iff, hbeg]

lemma filter_lt_nextLsn (h : recover env crc dir uuid s = .ok (report, s')) :
    v.records.filter (fun r => r.lsn.toNat < report.nextLsn) =
      v.records.take (v.clean env (env.durableLsn s)) := by
  have hnext := (v.report_eq h).1
  have hdur := v.durable_le_clean env (env.durableLsn s)
  rw [v.records_isLog.numbered.filter_lt, hnext]
  split
  next hzero =>
    rw [hzero] at hdur ⊢
    rcases Nat.eq_zero_or_pos v.records.length with hnil | hpos
    · simp [length_eq_zero_iff.mp hnil]
    · have hsub : env.durableLsn s + 1 - v.firstLsn = 0 := by omega
      rw [hsub]
  · rw [Nat.add_sub_cancel_left]

lemma read_after_appends (h : recover env crc dir uuid s = .ok (report, s'))
    (hjoin : TailJoinsActive env crc dir uuid (env.durableLsn s)) {maxSegmentBytes : Nat}
    {w w' : Wal} {rs : List (WalRecord × Nat)}
    (hopen : openExisting crc dir uuid report.nextLsn report.activeTailOffset
      maxSegmentBytes = .ok w) (happend : w.appendAll crc rs = .ok w') (hformat : w'.WithinFormat) :
    (readDir crc w'.dir uuid).error = none ∧ (readDir crc w'.dir uuid).yielded.map record =
        v.records.take (v.clean env (env.durableLsn s)) ++
          stampFrom report.nextLsn (rs.map Prod.fst) := by
  obtain ⟨hnext, hoffset⟩ := v.report_eq h
  obtain ⟨hle, hzero⟩ := (v.tailJoinsActive_iff _).mp hjoin
  have hclean := v.clean_le env (env.durableLsn s)
  rw [hoffset, v.openExisting_eq] at hopen
  cases hopen
  generalize v.clean env (env.durableLsn s) = k at *
  have hkept : v.records.take k = v.chunks.flatten ++ v.rs.take (k - v.chunks.flatten.length) := by
    rw [records, take_append, take_of_length_le hle]
  have hlength : (v.records.take k).length = k := by
    rw [length_take]
    omega
  have hbeg : report.nextLsn =
      v.firstLsn + (v.chunks.flatten ++ v.rs.take (k - v.chunks.flatten.length)).length := by
    rw [← hkept, hlength, hnext]
    split
    · omega
    · rfl
  have hold := v.cut_holdsLog maxSegmentBytes hbeg
  obtain ⟨hholds', hq⟩ := hold.appendAll rfl happend hformat
  have huuid : w'.shardUuid = uuid := (appendAll_state happend).2.2
  obtain ⟨hread, herror⟩ := hholds'.readDir hq
  rw [huuid] at hread herror
  exact ⟨herror, by rw [hread, hkept]; rfl⟩

end ReadableDir

open ReadableDir

def ReopenComposes (crc : Checksum) (dir : WalDir) (uuid : ShardUuid)
    (report : RecoveryReport) : Prop :=
  ∀ (maxSegmentBytes : Nat) (w w' : Wal) (rs : List (WalRecord × Nat)),
    openExisting crc dir uuid report.nextLsn report.activeTailOffset maxSegmentBytes =
      .ok w →
    w.appendAll crc rs = .ok w' → w'.WithinFormat →
    (readDir crc w'.dir uuid).error = none ∧
      (readDir crc w'.dir uuid).yielded.map record =
        ((readDir crc dir uuid).yielded.map record).filter
            (fun r => r.lsn.toNat < report.nextLsn) ++
          stampFrom report.nextLsn (rs.map Prod.fst)

def probeRecord : WalRecord :=
  { lsn := 0, kind := .checkpointBegin, flags := 0, timestampNs := 0, spaceIdLo64 := 0,
    payload := [] }

def probeAt (nextLsn : Nat) : WalRecord := { probeRecord with lsn := UInt64.ofNat nextLsn }

variable (v : ReadableDir crc uuid dir)

def ReadableDir.probed (nextLsn : Nat) : Wal :=
  { v.cut 0 nextLsn (walSegmentHeaderLen + probeRecord.encodedLen) with
    dir := v.files ++ [⟨v.seq + v.files.length, v.header ++ (probeAt nextLsn).encode crc⟩]
    segment := .opened (0 + probeRecord.encodedLen)
    nextLsn := nextLsn + 1
    acked := [(probeAt nextLsn).lsn.toNat] }

lemma append_probeRecord (nextLsn : Nat) :
    (v.cut 0 nextLsn (walSegmentHeaderLen + probeRecord.encodedLen)).append crc 0 probeRecord =
      .ok (v.probed nextLsn) := by
  have hadmit : (v.cut 0 nextLsn (walSegmentHeaderLen + probeRecord.encodedLen)).admission
      probeRecord = .fits 0 := by
    simp [admission, cut]
  have hfits : probeRecord.Fits := Nat.zero_le _
  have hdir := WalDir.modify_last v.holds v.header (· ++ (probeAt nextLsn).encode crc)
  have hts : (v.cut 0 nextLsn (walSegmentHeaderLen + probeRecord.encodedLen)).stamped
      probeRecord = probeAt nextLsn := rfl
  simp only [append, hadmit, submit, if_pos hfits, enqueue, hts]
  simp [flush, cut, probed, hdir]

lemma readSegments_lsnGap (info : SegmentInfo) {r : WalRecord} (hfits : r.Fits)
    (hbody : info.bytes.drop walSegmentHeaderLen = r.encode crc)
    (hlsn : r.lsn.toNat ≠ info.startingLsn) : (readSegments crc [info] info.startingLsn).error =
      some (.lsnGap info.segmentSeq info.startingLsn r.lsn.toNat) := by
  have hdec := decodeOne_encode_append crc hfits []
  rw [append_nil] at hdec
  have hlength := r.length_encode crc
  have hpos := r.encodedLen_pos
  cases hb : r.encode crc with
  | nil =>
    rw [hb] at hlength
    simp only [length_nil] at hlength
    omega
  | cons b bytes =>
    rw [hb] at hdec hbody
    simp only [readSegments, ne_eq, not_true_eq_false, if_false, hbody, length_cons,
      scanSegment, hdec, if_pos hlsn]

lemma append_breaks_reader (hlsn : nextLsn < 2 ^ 64)
    (hgap : nextLsn ≠ v.firstLsn + v.chunks.flatten.length) :
    ∃ maxSegmentBytes w', (v.cut 0 nextLsn maxSegmentBytes).appendAll crc [(probeRecord, 0)] =
        .ok w' ∧ w'.WithinFormat ∧ (readDir crc w'.dir uuid).error ≠ none := by
  have hts : (UInt64.ofNat nextLsn).toNat = nextLsn := by
    rw [UInt64.toNat_ofNat', Nat.mod_eq_of_lt hlsn]
  have hdrop : (v.header ++ encode crc
      (probeAt nextLsn)).drop walSegmentHeaderLen =
      encode crc (probeAt nextLsn) := by
    rw [← v.header_valid.length_eq, drop_left]
  have hfits : (probeAt nextLsn).Fits := Nat.zero_le _
  have hne : (probeAt nextLsn).lsn.toNat ≠ v.firstLsn + v.chunks.flatten.length := by
    rw [probeAt, hts]
    exact hgap
  have hstop := readSegments_lsnGap ⟨v.seq + v.files.length, v.firstLsn + v.chunks.flatten.length,
    v.header ++ (probeAt nextLsn).encode crc⟩ hfits hdrop hne
  refine ⟨walSegmentHeaderLen + probeRecord.encodedLen, v.probed nextLsn, ?_, ?_, ?_⟩
  · simp only [appendAll, append_probeRecord]
  · exact ⟨hlsn, v.header_valid.filenameSeq_lt⟩
  · rw [probed, v.readDir_body, hstop]
    exact some_ne_none _

lemma ReopenComposes.tailJoinsActive (hall : ReopenComposes crc dir uuid report)
    (h : recover env crc dir uuid s = .ok (report, s')) (hlsn : report.nextLsn < 2 ^ 64) :
    TailJoinsActive env crc dir uuid (env.durableLsn s) := by
  obtain ⟨infos, st, hopen, _, herror, _, _⟩ := recover_ok h
  by_cases hne : infos = []
  · subst hne
    simp [TailJoinsActive, hopen]
  obtain ⟨v⟩ := readableDir_of_drain hopen hne herror
  by_contra hjoin
  obtain ⟨hnext, hoffset⟩ := v.report_eq h
  simp only [ReopenComposes, hoffset, v.readDir_records, v.filter_lt_nextLsn h] at hall
  rw [v.tailJoinsActive_iff] at hjoin
  generalize v.clean env (env.durableLsn s) = k at *
  by_cases hle : v.chunks.flatten.length ≤ k
  · -- no record is clean and the durable LSN is not the one before the active segment
    obtain ⟨rfl, hgap⟩ : k = 0 ∧ env.durableLsn s + 1 ≠ v.firstLsn + v.chunks.flatten.length := by
      by_contra hnot
      exact hjoin ⟨hle, fun hz => by_contra fun hg => hnot ⟨hz, hg⟩⟩
    rw [if_pos rfl] at hnext
    rw [← hnext] at hgap
    obtain ⟨m, w', happend, hformat, hstop⟩ := append_breaks_reader v hlsn hgap
    rw [Nat.zero_sub] at hall
    exact hstop (hall m _ _ _ (v.openExisting_eq 0 report.nextLsn m) happend hformat).1
  · -- a dangling bracket keeps its records in an earlier segment
    have hcut : k - v.chunks.flatten.length = 0 := by omega
    rw [hcut] at hall
    obtain ⟨_, hread⟩ := hall 0 _ _ [] (v.openExisting_eq 0 report.nextLsn 0) rfl
      ⟨hlsn.le, v.header_valid.filenameSeq_lt⟩
    rw [v.readDir_cut, take_zero, append_nil] at hread
    have hlength := congrArg List.length hread
    simp only [length_append, length_take, map_nil, stampFrom, length_nil] at hlength
    omega

/-- Reopening composes with recovery exactly when the cut joins the active segment. -/
theorem reopen_composes_iff {s s' : S} {report : RecoveryReport}
    (h : recover env crc dir uuid s = .ok (report, s')) (hlsn : report.nextLsn < 2 ^ 64) :
    ReopenComposes crc dir uuid report ↔ TailJoinsActive env crc dir uuid (env.durableLsn s) := by
  refine ⟨fun hall => hall.tailJoinsActive h hlsn, ?_⟩
  intro hjoin m w w' rs hw happend hformat
  obtain ⟨infos, _, hopen, _, herror, _, _⟩ := recover_ok h
  by_cases hne : infos = []
  · subst hne
    simp [openExisting, hopen] at hw
  obtain ⟨v⟩ := readableDir_of_drain hopen hne herror
  rw [v.readDir_records, v.filter_lt_nextLsn h]
  exact v.read_after_appends h hjoin hw happend hformat

section

def zeroCrc : Bytes → UInt32 := fun _ => 0

lemma length_zeros : (List.replicate 16 (0 : UInt8)).length = 16 := rfl

def zeroUuid : ShardUuid := ⟨List.replicate 16 0, length_zeros⟩

def acceptingEnv : ReplayEnv Unit (WalPayload Bytes) WalPayloadError Empty :=
  driverEnv (fun _ bytes => .ok bytes) (fun _ => 0) (fun s _ _ => .ok s)

def recordAt (lsn : UInt64) (p : WalPayload Bytes) : WalRecord :=
  { lsn := lsn, kind := p.kind, flags := 0, timestampNs := 0, spaceIdLo64 := 0,
    payload := p.encode fun _ bytes => bytes }

def segmentOf (seq startingLsn : Nat) (rs : Records) : SegmentFile :=
  ⟨seq, segmentHeader zeroCrc zeroUuid seq startingLsn 0 ++ encodeAll zeroCrc rs⟩

def txnZero : TxnId := ⟨List.replicate 16 0, length_zeros⟩

def danglingAcross : WalDir :=
  [segmentOf 0 1 [recordAt 1 (.txnBegin txnZero 2)],
    segmentOf 1 2 [recordAt 2 (.checkpointBegin 7 0)]]

instance (env : ReplayEnv S P D E) (crc : Checksum) (dir : WalDir)
    (uuid : ShardUuid) (durableLsn : Nat) :
    Decidable (TailJoinsActive env crc dir uuid durableLsn) := by
  unfold TailJoinsActive
  split
  · infer_instance
  · split <;> infer_instance

lemma recover_of_eval {t : S}
    (h : (recover env crc dir uuid s).map (fun p => (p.1.nextLsn, p.2)) = .ok (nextLsn, t)) :
    ∃ report, recover env crc dir uuid s = .ok (report, t) ∧ report.nextLsn = nextLsn := by
  obtain ⟨⟨report, s'⟩, hrecover, heq⟩ := ExceptLemmas.map_ok h
  obtain ⟨rfl, rfl⟩ := Prod.mk.inj heq
  exact ⟨report, hrecover, rfl⟩

theorem reopen_dangling_across_fails :
    ∃ report, recover acceptingEnv zeroCrc danglingAcross zeroUuid () = .ok (report, ()) ∧
      ¬ ReopenComposes zeroCrc danglingAcross zeroUuid report := by
  have hjoin : ¬ TailJoinsActive acceptingEnv zeroCrc danglingAcross zeroUuid
      (acceptingEnv.durableLsn ()) := by decide +kernel
  obtain ⟨report, hrecover, hnext⟩ : ∃ report, recover acceptingEnv zeroCrc danglingAcross zeroUuid () =
      .ok (report, ()) ∧ report.nextLsn = 1 := recover_of_eval (by decide +kernel)
  generalize danglingAcross = dir at hjoin hrecover ⊢
  exact ⟨report, hrecover, fun hall => hjoin (hall.tailJoinsActive hrecover (by omega))⟩

def danglingWithin : WalDir :=
  [segmentOf 0 1 [recordAt 1 (.checkpointBegin 7 0), recordAt 2 (.txnBegin txnZero 2)]]

lemma recover_danglingWithin : ∃ report,
    recover acceptingEnv zeroCrc danglingWithin zeroUuid () = .ok (report, ()) ∧
      report.nextLsn = 2 :=
  recover_of_eval (by decide +kernel)

theorem reopen_dangling_within :
    ∃ report, recover acceptingEnv zeroCrc danglingWithin zeroUuid () = .ok (report, ()) ∧
      report.nextLsn = 2 ∧ ReopenComposes zeroCrc danglingWithin zeroUuid report := by
  have hjoin : decide (TailJoinsActive acceptingEnv zeroCrc danglingWithin zeroUuid
      (acceptingEnv.durableLsn ())) = true := by decide +kernel
  obtain ⟨report, hrecover, hnext⟩ := recover_danglingWithin
  generalize danglingWithin = dir at hjoin hrecover ⊢
  refine ⟨report, hrecover, hnext, (reopen_composes_iff hrecover (by omega)).mpr ?_⟩
  exact of_decide_eq_true hjoin
end
end BrainDb
