import BrainDb.Wal.Interleave
import BrainDb.Wal.Reopen

namespace BrainDb
open List
open WalReader (drain openDir readDir)
variable {S P D E : Type} {env : ReplayEnv S P D E} {crc : Checksum}
  {dir : WalDir} {uuid : ShardUuid}

structure ResumesAbove (crc : Checksum) (dir : WalDir) (uuid : ShardUuid)
    (durableLsn : Nat) (report : RecoveryReport) : Prop where
  durable : durableLsn < report.nextLsn
  kept : ∀ (maxSegmentBytes : Nat) (w : Wal),
    Wal.openExisting crc dir uuid report.nextLsn report.activeTailOffset maxSegmentBytes =
      .ok w →
    ∀ y ∈ (readDir crc w.dir uuid).yielded, y.record.lsn.toNat < report.nextLsn
  appended : ∀ rs : Records, report.nextLsn + rs.length ≤ 2 ^ 64 →
    (∀ r ∈ rs, r.Fits) → ∀ r ∈ stampFrom report.nextLsn rs, durableLsn < r.lsn.toNat

def LogReaches (crc : Checksum) (dir : WalDir) (uuid : ShardUuid)
    (durableLsn : Nat) : Prop :=
  ∀ y, (readDir crc dir uuid).yielded.getLast? = some y → durableLsn ≤ y.record.lsn.toNat

def OpenTailInActive (env : ReplayEnv S P D E) (crc : Checksum) (dir : WalDir)
    (uuid : ShardUuid) (durableLsn : Nat) : Prop :=
  match openDir crc dir uuid with
  | .error _ => True
  | .ok infos =>
    match infos.getLast? with
    | none => True
    | some active =>
      let ys := (drain crc infos).yielded
      ∀ y ∈ ys.drop (cleanLength env durableLsn none (ys.map Yielded.record)),
        y.segmentSeq = active.segmentSeq

namespace ReadableDir
variable (v : ReadableDir crc uuid dir) (durableLsn : Nat)

lemma openTailInActive_iff : OpenTailInActive env crc dir uuid durableLsn ↔
      v.chunks.flatten.length ≤ v.clean env durableLsn := by
  have hlast : (v.earlier ++ [v.active]).getLast? = some v.active := by simp
  simp only [OpenTailInActive, v.opened, hlast, v.map_record_yielded]
  exact v.drop_yielded_active_iff (v.clean env durableLsn)

lemma logReaches_iff : LogReaches crc dir uuid durableLsn ↔
      v.records = [] ∨ durableLsn < v.firstLsn + v.records.length := by
  have hread := v.readDir_records
  rcases eq_nil_or_concat' v.records with hnil | ⟨init, r, hlast⟩
  · have hnone : (readDir crc dir uuid).yielded = [] := by
      rw [hnil] at hread
      exact map_eq_nil_iff.mp hread
    refine iff_of_true ?_ (.inl hnil)
    intro y hy
    rw [hnone] at hy
    cases hy
  · have hr : v.records.getLast? = some r := by
      rw [hlast]
      exact List.getLast?_concat
    have hnumber := v.records_isLog.numbered.getLast? hr
    have hne : v.records ≠ [] := by
      rw [hlast]
      exact concat_ne_nil r init
    rw [← hread, List.getLast?_map, Option.map_eq_some_iff] at hr
    obtain ⟨y, hy, rfl⟩ := hr
    constructor
    · intro hall
      have hle := hall y hy
      exact .inr (by omega)
    · intro hor z hz
      rw [hy] at hz
      cases hz
      have hlt := hor.resolve_left hne
      omega

variable {report : RecoveryReport}

lemma durable_lt_nextLsn_iff (v : ReadableDir crc uuid dir) {s s' : S}
    (h : recover env crc dir uuid s = .ok (report, s')) :
    env.durableLsn s < report.nextLsn ↔ LogReaches crc dir uuid (env.durableLsn s) := by
  have hnext := (v.report_eq h).1
  have hle := v.clean_le env (env.durableLsn s)
  have hdur := v.durable_le_clean env (env.durableLsn s)
  rw [v.logReaches_iff, hnext]
  split
  next hzero =>
    refine iff_of_true (Nat.lt_succ_self _) ?_
    rcases Nat.eq_zero_or_pos v.records.length with hnil | hpos
    · exact .inl (length_eq_zero_iff.mp hnil)
    · exact .inr (by omega)
  next hpos =>
    constructor
    · intro hlt
      exact .inr (by omega)
    · rintro (hnil | hlt)
      · have hlen : v.records.length = 0 := by rw [hnil]; rfl
        omega
      · omega

lemma kept_lt_nextLsn_iff (v : ReadableDir crc uuid dir) {s s' : S}
    (h : recover env crc dir uuid s = .ok (report, s')) : (∀ (maxSegmentBytes : Nat) (w : Wal),
        Wal.openExisting crc dir uuid report.nextLsn report.activeTailOffset maxSegmentBytes =
          .ok w → ∀ y ∈ (readDir crc w.dir uuid).yielded, y.record.lsn.toNat < report.nextLsn) ↔
      OpenTailInActive env crc dir uuid (env.durableLsn s) := by
  obtain ⟨hnext, hoffset⟩ := v.report_eq h
  have hdur := v.durable_le_clean env (env.durableLsn s)
  rw [v.openTailInActive_iff, hoffset]
  generalize v.clean env (env.durableLsn s) = k at *
  have hlen : v.records.length = v.chunks.flatten.length + v.rs.length := length_append
  constructor
  · intro hall
    by_contra hk
    -- the last record of the earlier segments stays on disk
    have hcut : k - v.chunks.flatten.length = 0 := by omega
    have hkept := hall 0 _ (v.openExisting_eq _ report.nextLsn 0)
    have hread := v.readDir_cut (k - v.chunks.flatten.length) report.nextLsn 0
    rw [hcut, take_zero, append_nil] at hread
    rw [hcut] at hkept
    obtain ⟨y, hy⟩ : ∃ y, (readDir crc (v.cut 0 report.nextLsn 0).dir
        uuid).yielded[v.chunks.flatten.length - 1]? = some y := by
      refine ⟨_, List.getElem?_eq_getElem ?_⟩
      have hl := congrArg List.length hread
      rw [length_map] at hl
      omega
    have hrec : v.chunks.flatten[v.chunks.flatten.length - 1]? = some y.record := by
      rw [← hread, length_map, List.getElem?_map]
      rw [← hread, length_map] at hy
      rw [hy, Option.map_some]
    have hnumber := v.holdsInfos.isLog.numbered.getElem? hrec
    have hlt := hkept y (mem_of_getElem? hy)
    rw [hnext] at hlt
    split at hlt
    · omega
    · omega
  · intro hk maxSegmentBytes w hopen y hy
    rw [v.openExisting_eq] at hopen
    cases hopen
    have hread := v.readDir_cut (k - v.chunks.flatten.length) report.nextLsn maxSegmentBytes
    have hmem : y.record ∈ v.chunks.flatten ++ v.rs.take (k - v.chunks.flatten.length) := by
      rw [← hread]
      exact List.mem_map_of_mem hy
    have htake : v.chunks.flatten ++ v.rs.take (k - v.chunks.flatten.length) =
        v.records.take k := by
      rw [records, take_append, take_of_length_le hk]
    rw [htake] at hmem
    have hbds := (v.records_isLog.numbered.take k).bounds y.record hmem
    rw [length_take] at hbds
    rw [hnext]
    split
    · omega
    · omega

end ReadableDir

/-- Recovery resumes above everything durable and everything kept exactly when the log reaches
the durable LSN and the bracket left open at its end, if any, begins in the active segment. -/
theorem resumes_above_iff {s s' : S} {report : RecoveryReport}
    (h : recover env crc dir uuid s = .ok (report, s')) :
    ResumesAbove crc dir uuid (env.durableLsn s) report ↔
      LogReaches crc dir uuid (env.durableLsn s) ∧
        OpenTailInActive env crc dir uuid (env.durableLsn s) := by
  have happended : env.durableLsn s < report.nextLsn → ∀ rs : Records,
      report.nextLsn + rs.length ≤ 2 ^ 64 → (∀ r ∈ rs, r.Fits) →
      ∀ r ∈ stampFrom report.nextLsn rs, env.durableLsn s < r.lsn.toNat := by
    intro hlt rs hroom hfits r hr
    have hbds := (stampFrom_isLog hroom hfits).numbered.bounds r hr
    omega
  obtain ⟨infos, st, hopen, hrep, herror, hreport, _⟩ := recover_ok h
  by_cases hne : infos = []
  · -- no segment: nothing is read, nothing can be reopened
    subst hne
    have hdr : drain crc [] = ⟨[], none⟩ := rfl
    have hread : (readDir crc dir uuid).yielded = [] := by
      simp only [readDir, hopen, hdr]
    have hnext : report.nextLsn = env.durableLsn s + 1 := by
      cases hrep
      rw [hreport]
      rfl
    refine iff_of_true ⟨by omega, ?_, happended (by omega)⟩ ⟨?_, ?_⟩
    · intro m w hw
      simp [Wal.openExisting, hopen] at hw
    · intro y hy
      rw [hread] at hy
      cases hy
    · simp [OpenTailInActive, hopen]
  obtain ⟨v⟩ := readableDir_of_drain hopen hne herror
  rw [← v.durable_lt_nextLsn_iff h, ← v.kept_lt_nextLsn_iff h]
  constructor
  · intro hall
    exact ⟨hall.durable, hall.kept⟩
  · intro hboth
    exact ⟨hboth.1, hboth.2, happended hboth.1⟩

section

def durableEnv : ReplayEnv Nat (WalPayload Bytes) WalPayloadError Empty :=
  driverEnv (fun _ bytes => .ok bytes) id (fun d _ _ => .ok d)

def oneRecordDir : WalDir := [segmentOf 0 1 [recordAt 1 (.checkpointBegin 7 0)]]

/-- A log that ends below the durable LSN makes recovery resume at an LSN that is durable. -/
theorem resumes_below_durable :
    ∃ report, recover durableEnv zeroCrc oneRecordDir zeroUuid 5 = .ok (report, 5) ∧
      ¬ 5 < report.nextLsn := by
  obtain ⟨report, hrecover, hnext⟩ : ∃ report, recover durableEnv zeroCrc oneRecordDir zeroUuid 5 =
      .ok (report, 5) ∧ report.nextLsn = 2 := recover_of_eval (by decide +kernel)
  exact ⟨report, hrecover, by omega⟩

instance (crc : Checksum) (dir : WalDir) (uuid : ShardUuid) (durableLsn : Nat) :
    Decidable (LogReaches crc dir uuid durableLsn) :=
  inferInstanceAs (Decidable (∀ y ∈ (readDir crc dir uuid).yielded.getLast?, _))

theorem resumes_above_last_record :
    ∃ report, recover durableEnv zeroCrc oneRecordDir zeroUuid 1 = .ok (report, 1) ∧
      ResumesAbove zeroCrc oneRecordDir zeroUuid 1 report := by
  obtain ⟨report, hrecover, _⟩ : ∃ report, recover durableEnv zeroCrc oneRecordDir zeroUuid 1 =
      .ok (report, 1) ∧ report.nextLsn = 2 := recover_of_eval (by decide +kernel)
  have hreaches : decide (LogReaches zeroCrc oneRecordDir zeroUuid 1) = true := by decide +kernel
  have hall : ∀ infos ∈ (openDir zeroCrc oneRecordDir zeroUuid).toOption, ∀ a ∈ infos.getLast?,
      ∀ y ∈ (drain zeroCrc infos).yielded.drop (cleanLength durableEnv 1 none
        ((drain zeroCrc infos).yielded.map Yielded.record)), y.segmentSeq = a.segmentSeq := by
    decide +kernel
  refine ⟨report, hrecover, (resumes_above_iff hrecover).mpr ⟨of_decide_eq_true hreaches, ?_⟩⟩
  unfold OpenTailInActive
  split
  · trivial
  next infos hopen =>
    split
    · trivial
    next a ha => exact hall infos (by rw [hopen]; rfl) a ha
end
end BrainDb
