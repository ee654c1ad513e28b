import BrainDb.Wal.IterFrom

namespace BrainDb
open List
open WalReader (drain openDir)
namespace WalRetention
open Numbered (From)
open SegmentInfo (segmentSeq)

structure SegmentDesc where
  (segmentId firstLsn lastLsn : Nat)

open SegmentDesc

def listSegments (activeLsn : Nat) : List SegmentInfo → List SegmentDesc
  | [] => []
  | [s] => [⟨s.segmentSeq, s.startingLsn, max activeLsn s.startingLsn⟩]
  | s :: next :: rest =>
    ⟨s.segmentSeq, s.startingLsn, max (next.startingLsn - 1) s.startingLsn⟩ ::
      listSegments activeLsn (next :: rest)

def decideDeletions (segments : List SegmentDesc) (durable extraLsns : Nat) : List Nat :=
  let activeSegmentId := (segments.map segmentId).max?
  ((segments.filter fun s => some s.segmentId ≠ activeSegmentId).filter fun s =>
    s.lastLsn < durable - extraLsns).map segmentId

inductive DeleteOutcome where
  | ok
  | rejected
  | disabled
  | failed (error : String)
  | stopped
  deriving DecidableEq

def deleteLoop : List Nat → List DeleteOutcome → List Nat × Except String Unit
  | id :: ids, .ok :: outcomes =>
    let rest := deleteLoop ids outcomes
    (id :: rest.1, rest.2)
  | _ :: ids, .rejected :: outcomes => deleteLoop ids outcomes
  | _ :: _, .failed e :: _ => ([], .error ("wal delete: " ++ e))
  | _, _ => ([], .ok ())

variable (infos : List SegmentInfo)

def candidates (activeLsn durable extraLsns batchSize : Nat) : List Nat :=
  (decideDeletions (listSegments activeLsn infos) durable extraLsns).take batchSize

def doRetentionCycle (activeLsn durable extraLsns batchSize : Nat)
    (outcomes : List DeleteOutcome) : List Nat × Except String Nat :=
  let loop := deleteLoop (candidates infos activeLsn durable extraLsns batchSize) outcomes
  (loop.1, loop.2.map fun _ => loop.1.length)

def remaining (deleted : List Nat) : List SegmentInfo :=
  infos.filter fun f => f.segmentSeq ∉ deleted

def DeleteOutcome.goesOn : DeleteOutcome → Bool
  | .ok | .rejected => true
  | _ => false

open DeleteOutcome (goesOn)

def inOrder (ids : List Nat) (outcomes : List DeleteOutcome) : Bool :=
  (((outcomes.take ids.length).takeWhile goesOn).dropWhile (· = .ok)).all (· = .rejected)

lemma all_rejected_iff (ids : List Nat) (outcomes : List DeleteOutcome) :
    ((outcomes.take ids.length).takeWhile goesOn).all (· = .rejected) =
      (deleteLoop ids outcomes).1.isEmpty := by
  fun_induction deleteLoop ids outcomes with
  | case1 id ids outcomes rest => simp [takeWhile_cons, goesOn]
  | case2 _ ids outcomes ih => simpa [takeWhile_cons, goesOn] using ih
  | case3 => simp [goesOn]
  | case4 ids outcomes hok hrejected hfailed =>
    cases ids with
    | nil => simp
    | cons id ids =>
      cases outcomes with
      | nil => simp
      | cons o outcomes =>
        cases o with
        | ok => exact (hok _ _ _ rfl rfl).elim
        | rejected => exact (hrejected _ _ _ rfl rfl).elim
        | _ => simp [goesOn]

lemma inOrder_ok (id : Nat) (ids : List Nat) (outcomes : List DeleteOutcome) :
    inOrder (id :: ids) (.ok :: outcomes) = inOrder ids outcomes := by
  simp [inOrder, takeWhile_cons, goesOn]

lemma inOrder_rejected (id : Nat) (ids : List Nat) (outcomes : List DeleteOutcome) :
    inOrder (id :: ids) (.rejected :: outcomes) = (deleteLoop ids outcomes).1.isEmpty := by
  rw [← all_rejected_iff]
  simp [inOrder, takeWhile_cons, goesOn]

lemma checkSegmentSequence_ok_iff :
    checkSegmentSequence infos = .ok () ↔ ∃ a, From segmentSeq a infos := by
  refine ⟨fun h => ?_, fun ⟨_, h⟩ => checkSegmentSequence_of_from h⟩
  cases infos with
  | nil => exact ⟨0, trivial⟩
  | cons info rest => exact ⟨info.segmentSeq, rfl, checkSegmentSequence_iff.mp h⟩

lemma deleteLoop_subset (ids : List Nat) (outcomes : List DeleteOutcome) :
    (deleteLoop ids outcomes).1 ⊆ ids := by
  induction ids generalizing outcomes with
  | nil => exact nil_subset _
  | cons id ids ih =>
    cases outcomes with
    | nil => exact nil_subset _
    | cons o os =>
      cases o with
      | ok => exact cons_subset_cons id (ih os)
      | rejected => exact fun i hi => mem_cons_of_mem id (ih os hi)
      | _ => exact nil_subset _

variable {infos : List SegmentInfo} {a m : Nat}

lemma mem_take_seqs (h : From segmentSeq a infos) (hm : m ≤ infos.length)
    {i : Nat} (hi : i ∈ (infos.take m).map segmentSeq) : a ≤ i ∧ i < a + m := by
  obtain ⟨f, hf, rfl⟩ := List.mem_map.mp hi
  have hbds := (h.take m).bounds f hf
  rw [length_take, Nat.min_eq_left hm] at hbds
  exact hbds

lemma eq_nil_of_from_remaining (h : From segmentSeq a infos)
    (hm : m < infos.length) {deleted : List Nat} (hsub : deleted ⊆ (infos.take m).map segmentSeq)
    (hkept : From segmentSeq a (remaining infos deleted)) : deleted = [] := by
  obtain ⟨init, last, rfl⟩ := (eq_nil_or_concat' infos).resolve_left
    (ne_nil_of_length_pos (by omega))
  -- the last file stays, so as many files are left as there were
  have hlast := h.getLast? List.getLast?_concat
  have hstays : last.segmentSeq ∉ deleted := by
    intro hmem
    have hbound := (mem_take_seqs h hm.le (hsub hmem)).2
    omega
  have hkeptLast := hkept.getLast? (a := last) (by simp [remaining, hstays])
  have hsame : remaining (init ++ [last]) deleted = init ++ [last] :=
    filter_sublist.eq_of_length (by unfold remaining at hkeptLast; omega)
  refine eq_nil_iff_forall_not_mem.mpr fun i hi => ?_
  obtain ⟨f, hf, rfl⟩ := List.mem_map.mp (hsub hi)
  have hkeeps := filter_eq_self.mp hsame f (mem_of_mem_take hf)
  simp only [decide_not, Bool.not_eq_true', decide_eq_false_iff_not] at hkeeps
  exact hkeeps hi

lemma remaining_from_iff (h : From segmentSeq a infos) (hm : m < infos.length)
    (outcomes : List DeleteOutcome) : (∃ b, From segmentSeq b (remaining infos
      (deleteLoop ((infos.take m).map segmentSeq) outcomes).1)) ↔
        inOrder ((infos.take m).map segmentSeq) outcomes = true := by
  have hall : ∃ b, From segmentSeq b (remaining infos []) := ⟨a, by simpa [remaining] using h⟩
  induction m generalizing a infos outcomes with
  | zero => exact iff_of_true (by simpa [deleteLoop] using hall) (by simp [inOrder])
  | succ m ih =>
    cases infos with
    | nil => cases hm
    | cons f rest =>
      obtain ⟨rfl, hrest⟩ := h
      have hm' : m < rest.length := by simpa using hm
      have hsub := deleteLoop_subset ((rest.take m).map segmentSeq)
      have hgt : ∀ os, f.segmentSeq ∉
          (deleteLoop ((rest.take m).map segmentSeq) os).1 := by
        intro os hmem
        have hbound := (mem_take_seqs hrest hm'.le (hsub os hmem)).1
        omega
      cases outcomes with
      | nil => exact iff_of_true (by simpa [deleteLoop] using hall) (by simp [inOrder])
      | cons o os =>
        cases o with
        | ok =>
          have hsame : remaining (f :: rest) (f.segmentSeq ::
              (deleteLoop ((rest.take m).map segmentSeq) os).1) =
              remaining rest (deleteLoop ((rest.take m).map segmentSeq) os).1 := by
            unfold remaining
            rw [filter_cons_of_neg (by simp)]
            refine filter_congr fun g hg => ?_
            have hbound := (hrest.bounds g hg).1
            have hne : g.segmentSeq ≠ f.segmentSeq := by omega
            simp [hne]
          simp only [take_succ_cons, map_cons, deleteLoop, inOrder_ok, hsame]
          exact ih hrest hm' os ⟨_, by simpa [remaining] using hrest⟩
        | rejected =>
          simp only [take_succ_cons, map_cons, deleteLoop, inOrder_rejected, List.isEmpty_iff]
          constructor
          · rintro ⟨b, hb⟩
            rw [remaining, filter_cons_of_pos (by simpa using hgt os)] at hb
            obtain ⟨rfl, hkept⟩ := hb
            exact eq_nil_of_from_remaining hrest hm' (hsub os) hkept
          · intro hnone
            rwa [hnone]
        | _ =>
          exact iff_of_true (by simpa [deleteLoop] using hall) (by simp [inOrder, goesOn])

variable {crc : Checksum} {uuid : ShardUuid} {dir : WalDir} {ys : List Yielded}

lemma segmentSeq_of_mem_yieldsAt {seq offset : Nat} {rs : Records} {y : Yielded}
    (h : y ∈ yieldsAt seq offset rs) : y.segmentSeq = seq ∧ y.record ∈ rs := by
  induction rs generalizing offset with
  | nil => cases h
  | cons r rs ih =>
    rcases mem_cons.mp h with rfl | h
    · exact ⟨rfl, mem_cons_self⟩
    · exact ⟨(ih h).1, mem_cons_of_mem r (ih h).2⟩

lemma map_segmentId_listSegments (activeLsn : Nat) (infos : List SegmentInfo) :
    (listSegments activeLsn infos).map segmentId = infos.map segmentSeq := by
  fun_induction listSegments activeLsn infos with
  | case1 => rfl
  | case2 => rfl
  | case3 s next rest ih => simp only [map_cons, ih]

lemma chosen_take {n top : Nat} (activeLsn cutoff : Nat)
    (hseq : From segmentSeq a infos) (htop : top + 1 = a + infos.length)
    (hread : readSegments crc infos n = ⟨ys, none⟩) :
    ∃ m ≤ infos.length - 1, (((listSegments activeLsn infos).filter fun s =>
        s.segmentId ≠ top ∧ s.lastLsn < cutoff).map segmentId) = (infos.take m).map segmentSeq ∧
      (∀ y ∈ ys, a ≤ y.segmentSeq ∧ (y.segmentSeq < a + m → y.record.lsn.toNat < cutoff)) ∧
      (cutoff ≤ n → m = 0) := by
  induction infos generalizing a n ys with
  | nil =>
    cases hread
    exact ⟨0, Nat.le_refl 0, rfl, by simp, fun _ => rfl⟩
  | cons s rest ih =>
    obtain ⟨rfl, hseq⟩ := hseq
    cases rest with
    | nil =>
      obtain ⟨chunks, rs, tail, hold, _, _, _, rfl, _⟩ := @readSegments_ok _ _ [] _ _ hread
      cases hold
      have hact : s.segmentSeq = top := by simpa using htop.symm
      refine ⟨0, Nat.le_refl 0, by simp [listSegments, hact], fun y hy => ?_, fun _ => rfl⟩
      have hy := (segmentSeq_of_mem_yieldsAt (by simpa [yieldsLog] using hy)).1
      omega
    | cons next rest =>
      obtain ⟨rs, ys', hbeg, hlog, _, hrest, rfl⟩ := readSegments_cons_ok (by simp) hread
      have hnext : next.startingLsn = n + rs.length := by
        by_contra hne
        simp [readSegments, hne] at hrest
      simp only [length_cons] at htop
      obtain ⟨m, hm, hchosen, hbelow, hzero⟩ := ih hseq (by simp only [length_cons]; omega) hrest
      have hact : s.segmentSeq ≠ top := by omega
      by_cases hlast : max (next.startingLsn - 1) s.startingLsn < cutoff
      · refine ⟨m + 1, by simpa using hm, ?_, fun y hy => ?_, fun hle => by omega⟩
        · rw [listSegments, filter_cons_of_pos (by simp [hact, hlast])]
          simp only [map_cons, take_succ_cons, hchosen]
        · rcases mem_append.mp hy with hy | hy
          · obtain ⟨hy, hmem⟩ := segmentSeq_of_mem_yieldsAt hy
            have hlsn := (hlog.numbered.bounds _ hmem).2
            omega
          · have hy := hbelow y hy
            omega
      · have hm0 : m = 0 := hzero (by omega)
        subst hm0
        refine ⟨0, Nat.zero_le _, ?_, fun y hy => ?_, fun _ => rfl⟩
        · rw [listSegments, filter_cons_of_neg (by simp [hlast]), hchosen]
          rfl
        · rcases mem_append.mp hy with hy | hy
          · have hy := (segmentSeq_of_mem_yieldsAt hy).1
            omega
          · have hy := hbelow y hy
            omega

/-- After a cycle over a readable log the segments left are consecutive, the last one is there and
no deleted one had a record at or past the cutoff, iff nothing was deleted after a rejected
deletion. -/
theorem retention_keeps_log_iff (hopen : openDir crc dir uuid = .ok infos)
    (hread : drain crc infos = ⟨ys, none⟩)
    (activeLsn durable extraLsns batchSize : Nat) (outcomes : List DeleteOutcome) :
    let deleted := (doRetentionCycle infos activeLsn durable extraLsns batchSize outcomes).1
    (checkSegmentSequence (remaining infos deleted) = .ok () ∧
      (∀ last ∈ infos.getLast?, last.segmentSeq ∉ deleted) ∧
      ∀ y ∈ ys, y.segmentSeq ∈ deleted → y.record.lsn.toNat < durable - extraLsns) ↔
        inOrder (candidates infos activeLsn durable extraLsns batchSize) outcomes = true := by
  intro deleted
  obtain ⟨a, hseq⟩ := (checkSegmentSequence_ok_iff infos).mp (openDir_ok hopen).2
  rcases eq_nil_or_concat' infos with rfl | ⟨init, last, hinfos⟩
  · cases hread
    exact iff_of_true ⟨rfl, by simp, by simp⟩
      (by simp [candidates, decideDeletions, listSegments, inOrder])
  have htop := hseq.getLast? (a := last) (by simp [hinfos])
  obtain ⟨m, hm, hchosen, hbelow, _⟩ := chosen_take activeLsn (durable - extraLsns) hseq htop hread
  have hcandidates : candidates infos activeLsn durable extraLsns batchSize =
      (infos.take (min batchSize m)).map segmentSeq := by
    have hmax : ((listSegments activeLsn infos).map segmentId).max? =
        some last.segmentSeq := by
      rw [map_segmentId_listSegments, List.max?_eq_some_iff]
      refine ⟨List.mem_map_of_mem (by simp [hinfos]), fun i hi => ?_⟩
      obtain ⟨info, hinfo, rfl⟩ := List.mem_map.mp hi
      have hbound := (hseq.bounds info hinfo).2
      omega
    rw [← take_take, map_take, ← hchosen, candidates, decideDeletions, hmax, List.filter_filter]
    simp [Bool.and_comm]
  have hlt : min batchSize m < infos.length := by
    have hpos : 0 < infos.length := by simp [hinfos]
    omega
  have hsub : ∀ i ∈ deleted, a ≤ i ∧ i < a + min batchSize m := fun i hi =>
    mem_take_seqs hseq hlt.le (hcandidates ▸ deleteLoop_subset _ _ hi)
  have hrest : (∀ last ∈ infos.getLast?, last.segmentSeq ∉ deleted) ∧
      ∀ y ∈ ys, y.segmentSeq ∈ deleted → y.record.lsn.toNat < durable - extraLsns := by
    refine ⟨fun l hl hmem => ?_, fun y hy hmem => ?_⟩
    · have hbound := hsub _ hmem
      have hend := hseq.getLast? hl
      omega
    · have hbound := hsub _ hmem
      exact (hbelow y hy).2 (by omega)
  rw [checkSegmentSequence_ok_iff, and_iff_left hrest, hcandidates]
  exact hcandidates ▸ remaining_from_iff hseq hlt outcomes

def threeInfos : List SegmentInfo :=
  (openDir zeroCrc threeSegments zeroUuid).toOption.getD []

lemma openDir_threeSegments : openDir zeroCrc threeSegments zeroUuid = .ok threeInfos := by
  have hok : (openDir zeroCrc threeSegments zeroUuid).toOption.isSome = true := by
    decide +kernel
  unfold threeInfos
  cases h : openDir zeroCrc threeSegments zeroUuid with
  | error e => simp [h, Except.toOption] at hok
  | ok infos => rfl

lemma drain_threeInfos : (drain zeroCrc threeInfos).error = none := by decide +kernel

theorem failed_deletion_keeps_log : checkSegmentSequence (remaining threeInfos
    (doRetentionCycle threeInfos 0 10 0 8 [.ok, .failed "busy"]).1) = .ok () :=
  ((retention_keeps_log_iff openDir_threeSegments (ReadOutcome.eq_of_error_none drain_threeInfos)
    0 10 0 8 [.ok, .failed "busy"]).mpr (by decide +kernel)).1

/-- A rejected deletion and one that succeeds after it leave a gap. -/
theorem deletion_after_rejection_leaves_gap : checkSegmentSequence (remaining threeInfos
    (doRetentionCycle threeInfos 0 10 0 8 [.rejected, .ok]).1) =
      .error (.segmentSequenceGap 0 2) := by
  decide +kernel

end WalRetention
end BrainDb
