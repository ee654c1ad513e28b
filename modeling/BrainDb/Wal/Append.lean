import BrainDb.Wal.Reader

namespace BrainDb
open List DirHolds

inductive SegmentState where
  | opened (bytes : Nat)
  | rollingOver

/-- A WAL handle with its directory. `queue` holds the records submitted to the active committer and
not yet durable, `acked` the LSNs it acknowledged; `broken` is its own flag, set by a failed flush.
-/
structure Wal where
  dir : WalDir
  shardUuid : ShardUuid
  (nextLsn activeSegmentSeq : Nat)
  segment : SegmentState
  maxSegmentBytes : Nat
  queue : Records
  acked : List Nat
  broken : Bool

inductive WalError where
  | noSegmentsFound
  | recoveredOffsetOutOfRange (offset fileSize : Nat)
  | recordExceedsSegmentLimit (recordBytes segmentMax : Nat)
  | walBroken
  | read (source : WalReadError)

def WalDir.modify (dir : WalDir) (seq : Nat) (g : Bytes → Bytes) : WalDir :=
  dir.map fun f => if f.filenameSeq = seq then { f with bytes := g f.bytes } else f

inductive Admission where
  | exceedsLimit
  | needsRollover
  | fits (bytes : Nat)

namespace Wal
variable (w : Wal)

def admission (r : WalRecord) : Admission :=
  if w.maxSegmentBytes < walSegmentHeaderLen + r.encodedLen then .exceedsLimit
  else
    match w.segment with
    | .rollingOver => .needsRollover
    | .opened bytes =>
      if walSegmentHeaderLen + bytes + r.encodedLen > w.maxSegmentBytes then .needsRollover
      else .fits bytes

def stamped (r : WalRecord) : WalRecord := { r with lsn := UInt64.ofNat w.nextLsn }

def enqueue (r : WalRecord) (bytes : Nat) : Wal :=
  { w with
    queue := w.queue ++ [w.stamped r]
    segment := .opened (bytes + r.encodedLen)
    nextLsn := w.nextLsn + 1 }

variable (crc : Checksum)

def flush (w : Wal) (k : Nat) : Wal :=
  { w with
    dir := w.dir.modify w.activeSegmentSeq (· ++ encodeAll crc (w.queue.take k))
    queue := w.queue.drop k
    acked := w.acked ++ (w.queue.take k).map (·.lsn.toNat) }

def failFlush (w : Wal) (k written : Nat) : Wal :=
  { w with
    dir := w.dir.modify w.activeSegmentSeq (· ++ (encodeAll crc (w.queue.take k)).take written)
    queue := w.queue.drop k
    broken := true }

def reject (k : Nat) : Wal := { w with queue := w.queue.drop k }

def startRollover : Wal := { w with segment := .rollingOver }

def installSegment (w : Wal) (newSeq newStartingLsn createdAt : Nat) : Wal :=
  { w with
    dir := w.dir ++ [⟨newSeq, segmentHeader crc w.shardUuid newSeq newStartingLsn createdAt⟩]
    segment := .opened 0
    activeSegmentSeq := newSeq
    -- the new segment gets a committer of its own
    broken := false }

def rollover (createdAt : Nat) (w : Wal) : Except WalError Wal :=
  match w.segment with
  | .rollingOver => .error .walBroken
  | .opened _ =>
    .ok ((w.startRollover.flush crc w.queue.length).installSegment crc (w.activeSegmentSeq + 1)
      w.nextLsn createdAt)

def shutdown (w : Wal) : Wal :=
  match w.segment with
  | .rollingOver => w
  | .opened _ =>
    if w.broken then w.startRollover.reject w.queue.length
    else w.startRollover.flush crc w.queue.length

def submit (w : Wal) (r : WalRecord) (bytes : Nat) : Except WalError Wal :=
  if r.Fits then .ok ((w.enqueue r bytes).flush crc (w.queue.length + 1)) else .error .walBroken

def append (createdAt : Nat) (w : Wal) (r : WalRecord) : Except WalError Wal :=
  match w.admission r with
  | .exceedsLimit => .error (.recordExceedsSegmentLimit r.encodedLen w.maxSegmentBytes)
  | .fits bytes => w.submit crc r bytes
  | .needsRollover =>
    match w.rollover crc createdAt with
    | .error e => .error e
    | .ok w' =>
      -- the second look at an empty segment admits the record or finds it too large
      match w'.admission r with
      | .fits bytes => w'.submit crc r bytes
      | _ => .error (.recordExceedsSegmentLimit r.encodedLen w'.maxSegmentBytes)

def appendAll (crc : Checksum) : Wal → List (WalRecord × Nat) → Except WalError Wal
  | w, [] => .ok w
  | w, (r, createdAt) :: rs =>
    match w.append crc createdAt r with
    | .error e => .error e
    | .ok w' => appendAll crc w' rs

def create (uuid : ShardUuid) (maxSegmentBytes createdAt : Nat) : Wal :=
  { dir := [⟨0, segmentHeader crc uuid 0 1 createdAt⟩]
    shardUuid := uuid
    nextLsn := 1
    activeSegmentSeq := 0
    segment := .opened 0
    maxSegmentBytes := maxSegmentBytes
    queue := []
    acked := []
    broken := false }

def openExisting (dir : WalDir) (uuid : ShardUuid)
    (nextLsn recoveredTailOffset maxSegmentBytes : Nat) : Except WalError Wal :=
  match WalReader.openDir crc dir uuid with
  | .error e => .error (.read e)
  | .ok infos =>
    match infos.getLast? with
    | none => .error .noSegmentsFound
    | some last =>
      if recoveredTailOffset < walSegmentHeaderLen ∨ recoveredTailOffset > last.bytes.length then
        .error (.recoveredOffsetOutOfRange recoveredTailOffset last.bytes.length)
      else
        .ok
          { dir := dir.modify last.segmentSeq (·.take recoveredTailOffset)
            shardUuid := uuid
            nextLsn := nextLsn
            activeSegmentSeq := last.segmentSeq
            segment := .opened (recoveredTailOffset - walSegmentHeaderLen)
            maxSegmentBytes := maxSegmentBytes
            queue := []
            acked := []
            broken := false }

end Wal

lemma WalDir.modify_last {crc : Checksum} {uuid : ShardUuid} {seq n : Nat}
    {dir : WalDir} {chunks : List Records} (h : DirHolds crc uuid seq n dir chunks)
    (bytes : Bytes) (g : Bytes → Bytes) :
    WalDir.modify (dir ++ [⟨seq + dir.length, bytes⟩]) (seq + dir.length) g =
      dir ++ [⟨seq + dir.length, g bytes⟩] := by
  have hsame : dir.map (fun f => if f.filenameSeq = seq + dir.length then
      { f with bytes := g f.bytes } else f) = dir := by
    refine (map_congr_left ?_).trans (List.map_id dir)
    intro f hf
    have hlt := h.filenameSeq_lt f hf
    simp [show f.filenameSeq ≠ seq + dir.length by omega]
  simp only [WalDir.modify, map_append, hsame, map_cons, map_nil, if_true]

structure Wal.HoldsLog (crc : Checksum) (w : Wal) (seq n : Nat) (log : Records) :
    Prop where
  stored : ∃ chunks, DirHolds crc w.shardUuid seq n w.dir chunks ∧ log = chunks.flatten ++ w.queue
  active : w.activeSegmentSeq + 1 = seq + w.dir.length
  nonempty : w.dir ≠ []
  isLog : IsLog n log
  nextLsn_eq : w.nextLsn = n + log.length

structure Wal.HoldsChunks (crc : Checksum) (w : Wal) (seq n : Nat)
    (full : List Records) (last : Records) : Prop where
  dir : DirHolds crc w.shardUuid seq n w.dir (full ++ [last])
  active : w.activeSegmentSeq + 1 = seq + w.dir.length
  isLog : IsLog n (full.flatten ++ last ++ w.queue)
  nextLsn_eq : w.nextLsn = n + (full.flatten ++ last ++ w.queue).length

def stampFrom : Nat → Records → Records
  | _, [] => []
  | n, r :: rs => { r with lsn := UInt64.ofNat n } :: stampFrom (n + 1) rs

namespace Wal
variable {crc : Checksum} {w w' : Wal} {seq n : Nat} {log : Records}

lemma HoldsLog.chunks (h : w.HoldsLog crc seq n log) :
    ∃ full last, w.HoldsChunks crc seq n full last ∧ log = full.flatten ++ last ++ w.queue := by
  obtain ⟨chunks, hdir, hlog⟩ := h.stored
  obtain ⟨init, f, hcut⟩ : ∃ init f, w.dir = init ++ [f] :=
    ⟨_, _, (dropLast_append_getLast h.nonempty).symm⟩
  have hdir' := hdir
  rw [hcut] at hdir'
  obtain ⟨full, header, last, rfl, _⟩ := hdir'.split_last
  have hlog' : log = full.flatten ++ last ++ w.queue := by simpa using hlog
  exact ⟨full, last, ⟨hdir, h.active, hlog' ▸ h.isLog, hlog' ▸ h.nextLsn_eq⟩, hlog'⟩

variable {newStartingLsn bytes : Nat} {rs : List (WalRecord × Nat)}

namespace HoldsChunks
variable {full : List Records} {last : Records}

lemma holdsLog (h : w.HoldsChunks crc seq n full last) :
    w.HoldsLog crc seq n (full.flatten ++ last ++ w.queue) := by
  refine ⟨⟨_, h.dir, by simp⟩, h.active, ?_, h.isLog, h.nextLsn_eq⟩
  intro hnil
  have hdir := h.dir
  rw [hnil] at hdir
  cases full <;> cases hdir

lemma activeFile (h : w.HoldsChunks crc seq n full last) :
    ∃ files header, w.dir = files ++ [⟨w.activeSegmentSeq, header ++ encodeAll crc last⟩] ∧
      w.activeSegmentSeq = seq + files.length ∧ DirHolds crc w.shardUuid seq n files full ∧
      ValidHeader crc w.shardUuid w.activeSegmentSeq (n + full.flatten.length) header ∧
      ∀ g, w.dir.modify w.activeSegmentSeq g =
        files ++ [⟨w.activeSegmentSeq, g (header ++ encodeAll crc last)⟩] := by
  obtain ⟨files, f, hcut⟩ : ∃ files f, w.dir = files ++ [f] :=
    ⟨_, _, (dropLast_append_getLast h.holdsLog.nonempty).symm⟩
  have hdir := h.dir
  rw [hcut] at hdir
  obtain ⟨init, header, rs, heq, hinit, rfl, hval, _⟩ := hdir.split_last
  obtain ⟨rfl, hlast⟩ := append_inj' heq rfl
  cases hlast
  have hactive : w.activeSegmentSeq = seq + files.length := by
    have hcnt := h.active
    rw [hcut] at hcnt
    simp only [length_append, length_singleton] at hcnt
    omega
  rw [hcut, hactive]
  exact ⟨files, header, rfl, rfl, hinit, hval, fun g => WalDir.modify_last hinit _ g⟩

lemma flush (h : w.HoldsChunks crc seq n full last) (k : Nat) :
    (w.flush crc k).HoldsChunks crc seq n full (last ++ w.queue.take k) := by
  obtain ⟨files, header, hdir, hactive, hfull, hval, hmodify⟩ := h.activeFile
  have hdir' : (w.flush crc k).dir = files ++
      [⟨seq + files.length, header ++ encodeAll crc (last ++ w.queue.take k)⟩] := by
    rw [← hactive, encodeAll_append, ← append_assoc]
    exact hmodify (· ++ encodeAll crc (w.queue.take k))
  have hqueue : full.flatten ++ (last ++ w.queue.take k) ++ (w.flush crc k).queue =
      full.flatten ++ last ++ w.queue := by
    simp [Wal.flush]
  have hlast : IsLog (n + full.flatten.length) (last ++ w.queue.take k) := by
    have hall := h.isLog
    rw [← hqueue] at hall
    exact (isLog_append.mp (isLog_append.mp hall).1).2
  refine ⟨?_, ?_, hqueue ▸ h.isLog, hqueue ▸ h.nextLsn_eq⟩
  · rw [hdir']
    rw [hactive] at hval
    exact hfull.append (cons hval hlast nil)
  · rw [hdir']
    simp only [Wal.flush, length_append, length_singleton]
    omega

end HoldsChunks

section
variable {newSeq : Nat} (hqueue : w.queue = []) (hs : newSeq = w.activeSegmentSeq + 1)
  (hl : newStartingLsn = w.nextLsn) (hseq : newSeq < 10 ^ 10) (hlsn : newStartingLsn < 2 ^ 64)

include hqueue hs hl hseq hlsn

lemma HoldsChunks.installSegment (h : w.HoldsChunks crc seq n full last) (createdAt : Nat) :
    (w.installSegment crc newSeq newStartingLsn createdAt).HoldsChunks crc seq n (full ++ [last])
      [] := by
  have hflat : (full ++ [last]).flatten ++ [] ++ w.queue = full.flatten ++ last ++ w.queue := by
    simp
  have hlen : w.nextLsn = n + (full ++ [last]).flatten.length := by
    rw [h.nextLsn_eq, hqueue]
    simp
  have hhdr := segmentHeader_valid crc w.shardUuid createdAt hseq hlsn
  have hnew : DirHolds crc w.shardUuid (seq + w.dir.length) (n + (full ++ [last]).flatten.length)
      [⟨newSeq, segmentHeader crc w.shardUuid newSeq newStartingLsn createdAt⟩] [[]] := by
    rw [← h.active, ← hlen, ← hs, ← hl]
    simpa using cons hhdr (IsLog.nil _) nil
  refine ⟨h.dir.append hnew, ?_, hflat ▸ h.isLog, hflat ▸ h.nextLsn_eq⟩
  have hactive := h.active
  simp only [Wal.installSegment, length_append, length_singleton]
  omega

lemma HoldsLog.installSegment (h : w.HoldsLog crc seq n log) (createdAt : Nat) :
    (w.installSegment crc newSeq newStartingLsn createdAt).HoldsLog crc seq n log := by
  obtain ⟨full, last, hchunks, rfl⟩ := h.chunks
  have hnew := (hchunks.installSegment hqueue hs hl hseq hlsn createdAt).holdsLog
  simpa [Wal.installSegment] using hnew
end

variable {r : WalRecord} {createdAt : Nat}

lemma HoldsLog.enqueue (h : w.HoldsLog crc seq n log) (hfits : r.Fits) (hlsn : w.nextLsn < 2 ^ 64)
    (bytes : Nat) : (w.enqueue r bytes).HoldsLog crc seq n (log ++ [w.stamped r]) := by
  obtain ⟨chunks, hdir, hlog⟩ := h.stored
  have hts : (w.stamped r).lsn.toNat = n + log.length := by
    rw [stamped, UInt64.toNat_ofNat', Nat.mod_eq_of_lt hlsn, h.nextLsn_eq]
  refine ⟨⟨chunks, hdir, ?_⟩, h.active, h.nonempty, ?_, ?_⟩
  · simp only [Wal.enqueue, hlog, append_assoc]
  · refine isLog_append.mpr ⟨h.isLog, ⟨hts, trivial⟩, ?_⟩
    intro s hs
    have hsr : s = w.stamped r := by simpa using hs
    subst hsr
    exact hfits
  · simp only [Wal.enqueue, h.nextLsn_eq, length_append, length_singleton, Nat.add_assoc]

lemma HoldsLog.flush (h : w.HoldsLog crc seq n log) (k : Nat) :
    (w.flush crc k).HoldsLog crc seq n log := by
  obtain ⟨full, last, hchunks, rfl⟩ := h.chunks
  simpa [Wal.flush] using (hchunks.flush k).holdsLog

lemma HoldsLog.startRollover (h : w.HoldsLog crc seq n log) :
    w.startRollover.HoldsLog crc seq n log :=
  { h with }

lemma HoldsLog.readDir (h : w.HoldsLog crc seq n log) (hqueue : w.queue = []) :
    (WalReader.readDir crc w.dir w.shardUuid).yielded.map Yielded.record = log ∧
      (WalReader.readDir crc w.dir w.shardUuid).error = none := by
  obtain ⟨chunks, hdir, hlog⟩ := h.stored
  rw [hqueue, append_nil] at hlog
  rw [hlog]
  exact hdir.records

lemma create_holdsChunks (crc : Checksum) (uuid : ShardUuid) (maxSegmentBytes createdAt : Nat) :
    (create crc uuid maxSegmentBytes createdAt).HoldsChunks crc 0 1 [] [] := by
  have hhdr : ValidHeader crc uuid 0 1 (segmentHeader crc uuid 0 1 createdAt) :=
    segmentHeader_valid crc uuid createdAt (by omega) (by omega)
  refine ⟨?_, rfl, IsLog.nil 1, rfl⟩
  simpa [create] using cons hhdr (IsLog.nil 1) nil

structure WithinFormat (w : Wal) : Prop where
  nextLsn_le : w.nextLsn ≤ 2 ^ 64
  activeSegmentSeq_lt : w.activeSegmentSeq < 10 ^ 10

lemma submit_ok (h : w.submit crc r bytes = .ok w') :
    r.Fits ∧ w' = (w.enqueue r bytes).flush crc (w.queue.length + 1) := by
  unfold submit at h
  split at h
  · cases h
    exact ⟨‹_›, rfl⟩
  · cases h

lemma HoldsLog.submit (h : w.HoldsLog crc seq n log) (hs : w.submit crc r bytes = .ok w')
    (hlsn : w.nextLsn < 2 ^ 64) : w'.HoldsLog crc seq n (log ++ [w.stamped r]) ∧ w'.queue = [] := by
  obtain ⟨hfits, rfl⟩ := submit_ok hs
  refine ⟨(h.enqueue hfits hlsn bytes).flush _, ?_⟩
  simp [Wal.flush, Wal.enqueue]

lemma HoldsLog.rollover (h : w.HoldsLog crc seq n log) (hr : w.rollover crc createdAt = .ok w')
    (hlsn : w.nextLsn < 2 ^ 64) (hseq : w.activeSegmentSeq + 1 < 10 ^ 10) :
    w'.HoldsLog crc seq n log ∧ w'.nextLsn = w.nextLsn := by
  unfold Wal.rollover at hr
  split at hr
  · cases hr
  · cases hr
    have hdrained := h.startRollover.flush w.queue.length
    have hempty : (w.startRollover.flush crc w.queue.length).queue = [] := by
      simp [Wal.flush, Wal.startRollover]
    exact ⟨hdrained.installSegment hempty rfl rfl hseq hlsn createdAt, rfl⟩

lemma append_cases (h : w.append crc createdAt r = .ok w') :
    ∃ mid bytes, (mid = w ∨ w.rollover crc createdAt = .ok mid) ∧
      mid.submit crc r bytes = .ok w' := by
  cases hadmit : w.admission r with
  | exceedsLimit => simp [append, hadmit] at h
  | fits bytes => exact ⟨w, bytes, .inl rfl, by simpa [append, hadmit] using h⟩
  | needsRollover =>
    cases hmid : w.rollover crc createdAt with
    | error e => simp [append, hadmit, hmid] at h
    | ok mid =>
      cases hagain : mid.admission r with
      | exceedsLimit | needsRollover => simp [append, hadmit, hmid, hagain] at h
      | fits bytes =>
        exact ⟨mid, bytes, .inr rfl, by simpa [append, hadmit, hmid, hagain] using h⟩

lemma submit_state (h : w.submit crc r bytes = .ok w') :
    w'.nextLsn = w.nextLsn + 1 ∧ w'.activeSegmentSeq = w.activeSegmentSeq ∧
      w'.shardUuid = w.shardUuid := by
  obtain ⟨_, rfl⟩ := submit_ok h
  exact ⟨rfl, rfl, rfl⟩

lemma rollover_state (h : w.rollover crc createdAt = .ok w') :
    w'.nextLsn = w.nextLsn ∧ w'.activeSegmentSeq = w.activeSegmentSeq + 1 ∧
      w'.shardUuid = w.shardUuid := by
  unfold Wal.rollover at h
  split at h <;> cases h
  exact ⟨rfl, rfl, rfl⟩

lemma append_state (h : w.append crc createdAt r = .ok w') :
    w'.nextLsn = w.nextLsn + 1 ∧ w.activeSegmentSeq ≤ w'.activeSegmentSeq ∧
      w'.shardUuid = w.shardUuid := by
  obtain ⟨mid, bytes, hmid, hs⟩ := append_cases h
  obtain ⟨hl, ha, hu⟩ := submit_state hs
  rcases hmid with rfl | hmid
  · exact ⟨hl, by omega, hu⟩
  · obtain ⟨hl', ha', hu'⟩ := rollover_state hmid
    exact ⟨by omega, by omega, hu.trans hu'⟩

lemma appendAll_state (h : w.appendAll crc rs = .ok w') :
    w'.nextLsn = w.nextLsn + rs.length ∧ w.activeSegmentSeq ≤ w'.activeSegmentSeq ∧
      w'.shardUuid = w.shardUuid := by
  induction rs generalizing w with
  | nil =>
    cases h
    exact ⟨rfl, Nat.le_refl _, rfl⟩
  | cons entry rs ih =>
    obtain ⟨r, createdAt⟩ := entry
    cases hmid : w.append crc createdAt r with
    | error e => simp [appendAll, hmid] at h
    | ok mid =>
      obtain ⟨hl, ha, hu⟩ := append_state hmid
      obtain ⟨hl', ha', hu'⟩ := ih (by simpa [appendAll, hmid] using h)
      refine ⟨?_, by omega, hu'.trans hu⟩
      simp only [length_cons]
      omega

lemma HoldsLog.append (h : w.HoldsLog crc seq n log) (ha : w.append crc createdAt r = .ok w')
    (hb : w'.WithinFormat) : w'.HoldsLog crc seq n (log ++ [w.stamped r]) ∧ w'.queue = [] := by
  obtain ⟨mid, bytes, hmid, hs⟩ := append_cases ha
  obtain ⟨hl, hseq, _⟩ := submit_state hs
  have hlsn := hb.nextLsn_le
  have hact := hb.activeSegmentSeq_lt
  rcases hmid with rfl | hmid
  · exact h.submit hs (by omega)
  · obtain ⟨hl', hseq', _⟩ := rollover_state hmid
    obtain ⟨hold, _⟩ := h.rollover hmid (by omega) (by omega)
    have hts : mid.stamped r = w.stamped r := by simp only [stamped, hl']
    rw [← hts]
    exact hold.submit hs (by omega)

lemma HoldsLog.appendAll (h : w.HoldsLog crc seq n log) (hq : w.queue = [])
    (ha : w.appendAll crc rs = .ok w') (hb : w'.WithinFormat) :
    w'.HoldsLog crc seq n (log ++ stampFrom w.nextLsn (rs.map Prod.fst)) ∧ w'.queue = [] := by
  induction rs generalizing w log with
  | nil =>
    cases ha
    exact ⟨by simpa [stampFrom] using h, hq⟩
  | cons entry rs ih =>
    obtain ⟨r, createdAt⟩ := entry
    cases hmid : w.append crc createdAt r with
    | error e => simp [Wal.appendAll, hmid] at ha
    | ok mid =>
      simp only [Wal.appendAll, hmid] at ha
      obtain ⟨hl, hseq, _⟩ := append_state hmid
      obtain ⟨hl', hseq', _⟩ := appendAll_state ha
      have hlsn := hb.nextLsn_le
      have hact := hb.activeSegmentSeq_lt
      obtain ⟨hold, hqueue⟩ := h.append hmid ⟨by omega, by omega⟩
      have hrest := ih hold hqueue ha
      rw [hl, append_assoc] at hrest
      exact hrest

end Wal
end BrainDb
