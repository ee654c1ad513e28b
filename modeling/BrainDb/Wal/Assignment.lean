import BrainDb.Wal.Interleave
import BrainDb.Wal.Reopen

namespace BrainDb
open ListSet
open List WalSystem Call Wal Nat
open WalReader (drain openDir readDir)

def Call.enqueued (c : Call) : Records :=
  List.zipWith (fun r lsn => { r with lsn := UInt64.ofNat lsn }) c.submitted c.assigned

structure Call.Tracked (c : Call) (nextLsn : Nat) : Prop where
  left_eq : c.left = c.submitted.drop c.assigned.length
  length_le : c.assigned.length ≤ c.submitted.length
  rising : c.assigned.Pairwise (· < ·)
  below : ∀ lsn ∈ c.assigned, lsn < nextLsn
  settled : c.state = .awaiting ∨ c.state = .returned → c.left = []

lemma zipWith_stamp_range' (n : Nat) (rs : Records) :
    List.zipWith (fun r lsn => { r with lsn := UInt64.ofNat lsn }) rs (List.range' n rs.length) =
      stampFrom n rs := by
  induction rs generalizing n with
  | nil => rfl
  | cons r rs ih =>
    rw [length_cons, List.range'_succ, zipWith_cons_cons, ih, stampFrom]

variable {w w' : Wal} {c c' : Call} {taken last before : Records} {i first seq n : Nat}
  {crc : Checksum} {old : List Records}

namespace LoopSpec

lemma enqueued (h : LoopSpec w c w' c' taken) (ht : c.Tracked w.nextLsn) :
    c'.enqueued = c.enqueued ++ stampFrom w.nextLsn taken := by
  obtain ⟨done, hdone, hcut⟩ : ∃ done, done.length = c.assigned.length ∧
      c.submitted = done ++ (taken ++ c'.left) := by
    refine ⟨c.submitted.take c.assigned.length, ?_, ?_⟩
    · rw [length_take, min_eq_left ht.length_le]
    · rw [← h.left_eq, ht.left_eq, take_append_drop]
  have hold : c.enqueued =
      List.zipWith (fun r lsn => { r with lsn := UInt64.ofNat lsn }) done c.assigned := by
    rw [Call.enqueued, hcut, ← append_nil c.assigned, zipWith_append (by simpa using hdone),
      zipWith_nil_right, append_nil, append_nil]
  have hnew : List.zipWith (fun r lsn => { r with lsn := UInt64.ofNat lsn }) (taken ++ c'.left)
      (List.range' w.nextLsn taken.length) = stampFrom w.nextLsn taken := by
    rw [← append_nil (List.range' w.nextLsn taken.length), zipWith_append (by simp),
      zipWith_stamp_range', zipWith_nil_right, append_nil]
  rw [hold, Call.enqueued, h.submitted_eq, h.assigned_eq, ← hnew, hcut, zipWith_append hdone]

lemma tracked (h : LoopSpec w c w' c' taken) (ht : c.Tracked w.nextLsn) :
    c'.Tracked w'.nextLsn := by
  have hlength : c'.assigned.length = c.assigned.length + taken.length := by
    rw [h.assigned_eq, length_append, length_range']
  have hleft := ht.left_eq
  rw [h.left_eq] at hleft
  have hcnt : taken.length + c'.left.length = c.submitted.length - c.assigned.length := by
    rw [← length_append, hleft, length_drop]
  refine ⟨?_, ?_, ?_, ?_, ?_⟩
  · rw [h.submitted_eq, hlength, ← drop_drop, ← hleft, drop_left]
  · have hle := ht.length_le
    rw [hlength, h.submitted_eq]
    omega
  · rw [h.assigned_eq]
    refine pairwise_append.mpr ⟨ht.rising, pairwise_lt_range', ?_⟩
    intro a ha b hb
    exact (ht.below a ha).trans_le (mem_range'_1.mp hb).1
  · intro lsn hlsn
    rw [h.assigned_eq] at hlsn
    rw [h.nextLsn]
    rcases mem_append.mp hlsn with hlsn | hlsn
    · have hlt := ht.below lsn hlsn
      omega
    · exact (mem_range'_1.mp hlsn).2
  · intro hs
    rcases h.state with hf | ⟨hnil, _⟩ | ⟨_, hq | hq, _⟩
    · rw [hf] at hs
      simp at hs
    · exact hnil
    · rw [hq] at hs
      simp at hs
    · rw [hq] at hs
      simp at hs

lemma tracked_set (h : LoopSpec w c w' c' taken) {calls : List Call} (hc : calls[i]? = some c)
    (htracked : ∀ {j : Nat} {d : Call}, calls[j]? = some d → d.Tracked w.nextLsn) {j : Nat}
    {d : Call} (hd : (calls.set i c')[j]? = some d) : d.Tracked w'.nextLsn := by
  rcases getElem?_set_some hd with ⟨_, rfl⟩ | ⟨_, hd⟩
  · exact h.tracked (htracked hc)
  · have ht := htracked hd
    refine ⟨ht.left_eq, ht.length_le, ht.rising, ?_, ht.settled⟩
    intro lsn hlsn
    rw [h.nextLsn]
    exact Nat.lt_add_right _ (ht.below lsn hlsn)

end LoopSpec

structure Accounts (before : Records) (first nextLsn : Nat) (calls : List Call)
    (log : Records) : Prop where
  tracked : ∀ {i : Nat} {c : Call}, calls[i]? = some c → c.Tracked nextLsn
  first_le : first ≤ nextLsn
  assigned : (List.range' first (nextLsn - first)).Perm (calls.flatMap assigned)
  enqueued : log.Perm (before ++ calls.flatMap enqueued)

variable {infos : List SegmentInfo}

namespace Accounts
variable {log : Records} {nextLsn : Nat} {calls : List Call}

lemma loop (h : Accounts before first w.nextLsn calls log) (hc : calls[i]? = some c)
    (hspec : LoopSpec w c w' c' taken) :
    Accounts before first w'.nextLsn (calls.set i c') (log ++ stampFrom w.nextLsn taken) := by
  have hfst := h.first_le
  refine ⟨hspec.tracked_set hc h.tracked, ?_, ?_, ?_⟩
  · rw [hspec.nextLsn]
    omega
  · have hrange : List.range' first (w'.nextLsn - first) =
        List.range' first (w.nextLsn - first) ++ List.range' w.nextLsn taken.length := by
      have hsum : w'.nextLsn - first = w.nextLsn - first + taken.length := by
        rw [hspec.nextLsn]
        omega
      have hbeg : first + (w.nextLsn - first) = w.nextLsn := by omega
      rw [hsum, ← List.range'_append_1, hbeg]
    rw [hrange]
    exact (h.assigned.append_right _).trans (flatMap_set_gain hc hspec.assigned_eq)
  · have hgain := flatMap_set_gain (f := Call.enqueued) hc (hspec.enqueued (h.tracked hc))
    refine (h.enqueued.append_right _).trans ?_
    rw [append_assoc]
    exact hgain.append_left before

lemma setState (h : Accounts before first nextLsn calls log) (hc : calls[i]? = some c)
    {handles : List Nat} {state : CallState}
    (hset : state = .awaiting ∨ state = .returned → c.left = []) :
    Accounts before first nextLsn (calls.set i { c with handles := handles, state := state }) log := by
  refine ⟨?_, h.first_le, ?_, ?_⟩
  · intro j d hd
    rcases getElem?_set_some hd with ⟨_, rfl⟩ | ⟨_, hd⟩
    · have ht := h.tracked hc
      exact ⟨ht.left_eq, ht.length_le, ht.rising, ht.below, hset⟩
    · exact h.tracked hd
  · have hgain := flatMap_set_gain (f := Call.assigned) (x := [])
      (a := { c with handles := handles, state := state }) hc (append_nil _).symm
    rw [append_nil] at hgain
    exact h.assigned.trans hgain
  · have hgain := flatMap_set_gain (f := Call.enqueued) (x := [])
      (a := { c with handles := handles, state := state }) hc (append_nil _).symm
    rw [append_nil] at hgain
    exact h.enqueued.trans (hgain.append_left before)

end Accounts

namespace WalSystem

structure Layout (crc : Checksum) (seq n : Nat) (old : List Records)
    (s : WalSystem) (closed : List Records) (last : Records) : Prop where
  chunks : s.wal.HoldsChunks crc seq n (old ++ closed) last
  filled : ∀ rs ∈ closed, rs ≠ []
  stocked : s.wal.segment.Stocked → last ++ s.wal.queue ≠ []
  observed : ∀ {i q : Nat} {c : Call}, s.calls[i]? = some c →
    c.state = .acquiring q ∨ c.state = .draining q →
    q ≤ s.wal.activeSegmentSeq ∧ (q = s.wal.activeSegmentSeq → s.wal.segment.Stocked)

variable {closed : List Records} {s s' : WalSystem} {a : WalStep}

lemma Layout.loop (h : s.Layout crc seq n old closed last) (hspec : LoopSpec s.wal c w' c' taken)
    (hlsn : w'.nextLsn ≤ 2 ^ 64) : Layout crc seq n old ⟨w', s.calls.set i c'⟩ closed last ∧
      (old ++ closed).flatten ++ last ++ w'.queue =
        (old ++ closed).flatten ++ last ++ s.wal.queue ++ stampFrom s.wal.nextLsn taken := by
  have hqueue : (old ++ closed).flatten ++ last ++ w'.queue =
      (old ++ closed).flatten ++ last ++ s.wal.queue ++ stampFrom s.wal.nextLsn taken := by
    rw [hspec.queue, append_assoc _ s.wal.queue]
  have hstocked : s.wal.segment.Stocked → w'.segment.Stocked := by
    intro hs
    by_cases hidle : taken = []
    · rw [hspec.idle hidle]
      exact hs
    · obtain ⟨b, b', _, hopened, hlt⟩ := hspec.grows hidle
      rw [hopened]
      exact zero_lt_of_lt hlt
  have hholds := hspec.holdsLog h.chunks.holdsLog hlsn
  rw [← hqueue] at hholds
  refine ⟨⟨⟨?_, ?_, hholds.isLog, hholds.nextLsn_eq⟩, h.filled, ?_, ?_⟩, hqueue⟩
  · rw [hspec.dir, hspec.shardUuid]
    exact h.chunks.dir
  · exact hholds.active
  · intro hs hnil
    simp only [append_eq_nil_iff] at hnil
    have hidle : taken = [] := by
      have hstamped := hnil.2
      rw [hspec.queue, append_eq_nil_iff] at hstamped
      have hlen := length_stampFrom s.wal.nextLsn taken
      rw [hstamped.2] at hlen
      exact length_eq_zero_iff.mp hlen.symm
    rw [hspec.idle hidle] at hs hnil
    exact h.stocked hs (append_eq_nil_iff.mpr hnil)
  · intro j q d hd hs
    rw [hspec.activeSegmentSeq]
    rcases getElem?_set_some hd with ⟨_, rfl⟩ | ⟨_, hd⟩
    · rcases hspec.state with hf | ⟨_, hf⟩ | ⟨_, hf | hf, hst⟩ <;> rw [hf] at hs
      · simp at hs
      · simp at hs
      · have hq : s.wal.activeSegmentSeq = q := by simpa using hs
        exact ⟨hq.ge, fun _ => hst⟩
      · have hq : s.wal.activeSegmentSeq = q := by simpa using hs
        exact ⟨hq.ge, fun _ => hst⟩
    · obtain ⟨hle, himp⟩ := h.observed hd hs
      exact ⟨hle, fun hq => hstocked (himp hq)⟩

lemma Layout.install (h : s.Layout crc seq n old closed last) (hper : s.Permit) {q l : Nat}
    (hc : s.calls[i]? = some c) (hs : c.state = .rolling q l) (hqueue : s.wal.queue = [])
    (hseq : q < 10 ^ 10) (hlsn : l < 2 ^ 64) (t : Nat) :
    Layout crc seq n old ⟨s.wal.installSegment crc q l t, s.calls⟩ (closed ++ [last]) [] ∧
      (old ++ (closed ++ [last])).flatten ++ [] ++ (s.wal.installSegment crc q l t).queue =
        (old ++ closed).flatten ++ last ++ s.wal.queue := by
  obtain ⟨hslot, hq, hl⟩ := hper.rolling hc hs
  have hlast : last ≠ [] := by
    have hne := h.stocked (hslot ▸ trivial)
    rwa [hqueue, append_nil] at hne
  have hflat : (old ++ (closed ++ [last])).flatten ++ [] ++ (s.wal.installSegment crc q l t).queue =
      (old ++ closed).flatten ++ last ++ s.wal.queue := by
    simp [installSegment]
  refine ⟨⟨?_, ?_, ?_, ?_⟩, hflat⟩
  · rw [← append_assoc]
    exact h.chunks.installSegment hqueue hq hl hseq hlsn t
  · intro rs hrs
    rcases mem_append.mp hrs with hrs | hrs
    · exact h.filled rs hrs
    · rw [mem_singleton.mp hrs]
      exact hlast
  · intro hst
    exact absurd hst (lt_irrefl 0)
  · intro j q' d hd hs'
    have hle := (h.observed hd hs').1
    show q' ≤ q ∧ (q' = q → _)
    exact ⟨by omega, fun heq => absurd heq (by omega)⟩

lemma Layout.flush (h : s.Layout crc seq n old closed last) (k : Nat) :
    Layout crc seq n old { s with wal := s.wal.flush crc k } closed (last ++ s.wal.queue.take k) ∧
      (old ++ closed).flatten ++ (last ++ s.wal.queue.take k) ++ (s.wal.flush crc k).queue =
        (old ++ closed).flatten ++ last ++ s.wal.queue := by
  have hsame : last ++ s.wal.queue.take k ++ (s.wal.flush crc k).queue = last ++ s.wal.queue := by
    rw [append_assoc]
    exact congrArg (last ++ ·) (take_append_drop k s.wal.queue)
  refine ⟨⟨h.chunks.flush k, h.filled, ?_, h.observed⟩, ?_⟩
  · intro hst
    rw [hsame]
    exact h.stocked hst
  · rw [append_assoc, hsame, ← append_assoc]

lemma Layout.setState (h : s.Layout crc seq n old closed last) (hc : s.calls[i]? = some c)
    (hset : ∀ q, c'.state = .acquiring q ∨ c'.state = .draining q →
      c.state = .acquiring q ∨ c.state = .draining q) :
    Layout crc seq n old (s.setCall i c') closed last := by
  refine ⟨h.chunks, h.filled, h.stocked, ?_⟩
  intro j q d hd hs
  rcases getElem?_set_some hd with ⟨_, rfl⟩ | ⟨_, hd⟩
  · exact h.observed hc (hset q hs)
  · exact h.observed hd hs

lemma Layout.rollover (h : s.Layout crc seq n old closed last) {q : Nat}
    (hc : s.calls[i]? = some c) (hs : c.state = .acquiring q) (hq : q = s.wal.activeSegmentSeq)
    (hset : ∀ q, c'.state ≠ .acquiring q ∧ c'.state ≠ .draining q) :
    Layout crc seq n old ⟨s.wal.startRollover, s.calls.set i c'⟩ closed last := by
  refine ⟨⟨h.chunks.dir, h.chunks.active, h.chunks.isLog, h.chunks.nextLsn_eq⟩, h.filled, ?_, ?_⟩
  · intro _
    exact h.stocked ((h.observed hc (.inl hs)).2 hq)
  · intro j q' d hd hs'
    rcases getElem?_set_some hd with ⟨_, rfl⟩ | ⟨_, hd⟩
    · exact absurd hs' (not_or.mpr (hset q'))
    · exact ⟨(h.observed hd hs').1, fun _ => trivial⟩

structure Recorded (crc : Checksum) (seq n : Nat) (old : List Records)
    (before : Records) (first : Nat) (s : WalSystem) : Prop where
  permit : s.Permit
  working : s.wal.broken = false
  kept : ∃ closed last, s.Layout crc seq n old closed last ∧
    Accounts before first s.wal.nextLsn s.calls ((old ++ closed).flatten ++ last ++ s.wal.queue)

lemma Recorded.move (h : s.Recorded crc seq n old before first) (hm : Move crc s a s')
    (hlsn : s'.wal.nextLsn < 2 ^ 64) (hseq : s'.wal.activeSegmentSeq < 10 ^ 10) :
    s'.Recorded crc seq n old before first := by
  obtain ⟨closed, last, hlay, hacct⟩ := h.kept
  have hper := h.permit.move hm
  cases hm with
  | @resume _ i c hc _ =>
    obtain ⟨taken, hspec⟩ := s.wal.runLoop_spec c
    obtain ⟨hnew, hlog⟩ := hlay.loop hspec hlsn.le
    have hcalls := hacct.loop hc hspec
    rw [← hlog] at hcalls
    exact ⟨hper, hspec.broken.trans h.working, closed, last, hnew, hcalls⟩
  | @install i q l t c hc hstate hqueue =>
    obtain ⟨taken, hspec⟩ := (s.wal.installSegment crc q l t).runLoop_spec c
    obtain ⟨_, _, hl⟩ := h.permit.rolling hc hstate
    obtain ⟨hq', hl'⟩ := hspec.installed hlsn hseq
    obtain ⟨hinstalled, hflat⟩ := hlay.install h.permit hc hstate hqueue hq' (hl.trans_lt hl') t
    obtain ⟨hnew, hlog⟩ := hinstalled.loop (i := i) hspec hlsn.le
    have hcalls := Accounts.loop (w := s.wal.installSegment crc q l t) hacct hc hspec
    rw [← hflat, ← hlog] at hcalls
    exact ⟨hper, hspec.broken, closed ++ [last], [], hnew, hcalls⟩
  | @flush k _ =>
    obtain ⟨hnew, hlog⟩ := hlay.flush k
    refine ⟨hper, h.working, closed, last ++ s.wal.queue.take k, hnew, ?_⟩
    rw [hlog]
    exact hacct
  | @settle _ i c handles state hc _ hstate =>
    refine ⟨hper, h.working, closed, last, hlay.setState hc ?_, hacct.setState hc ?_⟩
    · intro q hs
      rcases hstate with ⟨q', hd, rfl⟩ | ⟨_, rfl⟩
      · have hq : q' = q := by simpa using hs
        exact .inr (hq ▸ hd)
      · simp at hs
    · intro hs
      rcases hstate with ⟨q, _, rfl⟩ | ⟨hawait, _⟩
      · simp at hs
      · exact (hacct.tracked hc).settled (.inl hawait)
  | @rollover i q c hc hstate _ hq _ =>
    refine ⟨hper, h.working, closed, last, hlay.rollover hc hstate hq (by simp), ?_⟩
    exact hacct.setState hc (by simp)

lemma Recorded.step (h : s.Recorded crc seq n old before first) (hs : s.step crc a = some s')
    (hflush : ∀ k written, a ≠ .flushFails k written) (hlsn : s'.wal.nextLsn < 2 ^ 64)
    (hseq : s'.wal.activeSegmentSeq < 10 ^ 10) : s'.Recorded crc seq n old before first := by
  rcases step_cases hs with hmove | hfail
  · exact h.move hmove hlsn hseq
  · have hper := h.permit.failure hfail
    obtain ⟨closed, last, hlay, hacct⟩ := h.kept
    cases hfail with
    | flush _ _ => exact absurd rfl (hflush _ _)
    | reject hbrk _ =>
      rw [h.working] at hbrk
      cases hbrk
    | call hc _ =>
      exact ⟨hper, h.working, closed, last, hlay.setState hc (by simp), hacct.setState hc (by simp)⟩

def isFault : WalStep → Bool
  | .flushFails .. | .installFails _ => true
  | _ => false

def Slotted (s : WalSystem) : Prop :=
  s.wal.segment = .rollingOver →
    ∃ (i q l : Nat) (c : Call), s.calls[i]? = some c ∧ c.state = .rolling q l

lemma Slotted.set (h : s.Slotted) (hc : s.calls[i]? = some c) (hs : ∀ q l, c.state ≠ .rolling q l)
    (hw : w'.segment = .rollingOver → s.wal.segment = .rollingOver) :
    Slotted ⟨w', s.calls.set i c'⟩ := by
  intro hslot
  obtain ⟨j, q, l, d, hd, hroll⟩ := h (hw hslot)
  refine ⟨j, q, l, d, ListSet.getElem?_set_other ?_ hd c', hroll⟩
  rintro rfl
  rw [hd] at hc
  cases hc
  exact hs q l hroll

lemma loop_slot (h : LoopSpec w c w' c' taken) (hs : w'.segment = .rollingOver) :
    w.segment = .rollingOver := by
  by_cases hidle : taken = []
  · rw [h.idle hidle] at hs
    exact hs
  · obtain ⟨_, _, _, hopened, _⟩ := h.grows hidle
    rw [hs] at hopened
    cases hopened

lemma Slotted.step (h : s.Slotted) (hwork : s.wal.broken = false)
    (hs : s.step crc a = some s') (hfault : isFault a = false) : s'.Slotted := by
  rcases step_cases hs with hmove | hfail
  · cases hmove with
    | @resume _ i c hc hstate =>
      obtain ⟨taken, hspec⟩ := s.wal.runLoop_spec c
      refine h.set hc ?_ (loop_slot hspec)
      intro q l hroll
      rcases hstate with ⟨_, hst⟩ | ⟨_, _, hst⟩ <;> simp [hst] at hroll
    | @install i q l t c hc hstate _ =>
      obtain ⟨taken, hspec⟩ := (s.wal.installSegment crc q l t).runLoop_spec c
      intro hslot
      cases loop_slot hspec hslot
    | flush _ => exact h
    | @settle _ i c handles state hc _ hstate =>
      refine h.set hc ?_ id
      intro q l hroll
      rcases hstate with ⟨_, hst, _⟩ | ⟨hst, _⟩ <;> simp [hst] at hroll
    | @rollover i q c hc _ _ _ _ =>
      intro _
      exact ⟨i, _, _, _, ListSet.getElem?_set_self hc _, rfl⟩
  · cases hfail with
    | flush _ _ => cases hfault
    | reject hbrk _ =>
      rw [hwork] at hbrk
      cases hbrk
    | call hc hcause =>
      rcases hcause with rfl | ⟨rfl, hper, hslot⟩
      · cases hfault
      · obtain ⟨i, q, l, c, hc, hroll⟩ := h hslot
        have hfree := List.all_eq_true.mp hper c (mem_of_getElem? hc)
        simp [isRolling, hroll] at hfree

lemma Recorded.run {as : List WalStep} (h : s.Recorded crc seq n old before first)
    (hslot : s.Slotted) (hrun : s.run crc as = some s') (hfault : ∀ a ∈ as, isFault a = false)
    (hlsn : s'.wal.nextLsn < 2 ^ 64) (hseq : s'.wal.activeSegmentSeq < 10 ^ 10) :
    s'.Recorded crc seq n old before first ∧ s'.Slotted := by
  induction as generalizing s with
  | nil =>
    cases hrun
    exact ⟨h, hslot⟩
  | cons a as ih =>
    obtain ⟨mid, hstep, hrun⟩ := run_cons hrun
    obtain ⟨hl, ha⟩ := run_mono (h.permit.step hstep) hrun
    have hfst := hfault a mem_cons_self
    have hmid : mid.Recorded crc seq n old before first := by
      refine h.step hstep ?_ (hl.trans_lt hlsn) (ha.trans_lt hseq)
      rintro k written rfl
      cases hfst
    exact ih hmid (hslot.step h.working hstep hfst) hrun fun b hb => hfault b (mem_cons_of_mem a hb)

end WalSystem

structure Wal.Started (crc : Checksum) (w : Wal) (seq n : Nat)
    (old : List Records) (last : Records) : Prop where
  chunks : w.HoldsChunks crc seq n old last
  opened : ∃ b, w.segment = .opened b
  stocked : w.segment.Stocked → last ≠ []
  queue_nil : w.queue = []
  acked_nil : w.acked = []
  working : w.broken = false

section

lemma Wal.create_started (crc : Checksum) (uuid : ShardUuid) (maxSegmentBytes createdAt : Nat) :
    (create crc uuid maxSegmentBytes createdAt).Started crc 0 1 [] [] :=
  ⟨create_holdsChunks crc uuid maxSegmentBytes createdAt, ⟨0, rfl⟩,
    fun hst => absurd hst (lt_irrefl 0), rfl, rfl, rfl⟩

lemma getElem?_calls_launch {calls : List Records}
    (h : (launch w calls).calls[i]? = some c) : ∃ rs, c = start rs := by
  simp only [launch, List.getElem?_map, Option.map_eq_some_iff] at h
  obtain ⟨rs, _, rfl⟩ := h
  exact ⟨rs, rfl⟩

lemma Wal.Started.permit (calls : List Records) : (launch w calls).Permit := by
  have hready : ∀ {i q l : Nat} {c : Call}, (launch w calls).calls[i]? = some c →
      c.state ≠ .rolling q l := by
    intro i q l c hc hs
    obtain ⟨rs, rfl⟩ := getElem?_calls_launch hc
    cases hs
  exact ⟨fun hc hs => absurd hs (hready hc), fun hc _ hs _ => absurd hs (hready hc)⟩

lemma Wal.Started.recorded (h : w.Started crc seq n old last) (calls : List Records) :
    (launch w calls).Recorded crc seq n old (old.flatten ++ last) w.nextLsn := by
  refine ⟨Started.permit calls, h.working, [], last, ⟨?_, by simp, ?_, ?_⟩, ?_, le_refl _, ?_, ?_⟩
  · rw [append_nil]
    exact h.chunks
  · intro hst
    show last ++ w.queue ≠ []
    rw [h.queue_nil, append_nil]
    exact h.stocked hst
  · intro i q c hc hs
    obtain ⟨rs, rfl⟩ := getElem?_calls_launch hc
    simp [start] at hs
  · intro i c hc
    obtain ⟨rs, rfl⟩ := getElem?_calls_launch hc
    exact ⟨rfl, zero_le _, List.Pairwise.nil, by simp [start], by simp [start]⟩
  · simp [launch, flatMap_map, start]
  · have hnone : (launch w calls).calls.flatMap enqueued = [] := by
      refine flatMap_eq_nil_iff.mpr ?_
      intro c hc
      obtain ⟨rs, _, rfl⟩ := List.mem_map.mp hc
      exact zipWith_nil_right
    have hqueue : (launch w calls).wal.queue = [] := h.queue_nil
    rw [hnone, hqueue, append_nil, append_nil, append_nil]
end

def StartsAt (nextLsn : Nat) (info : SegmentInfo) : Records → Prop
  | [] => info.startingLsn = nextLsn
  | r :: _ => info.startingLsn = r.lsn.toNat

lemma HoldsLog.startsAt {closed : List Records}
    (h : HoldsLog crc n infos (closed ++ [last])) (hfilled : ∀ rs ∈ closed, rs ≠ []) :
    List.Forall₂ (StartsAt (n + (closed ++ [last]).flatten.length)) infos (closed ++ [last]) := by
  induction closed generalizing n infos with
  | nil =>
    cases h with
    | cons hbeg hlog _ hrest =>
      cases hrest
      refine List.Forall₂.cons ?_ List.Forall₂.nil
      cases last with
      | nil => exact hbeg
      | cons r rs => exact hbeg.trans hlog.numbered.1.symm
  | cons rs closed ih =>
    cases h with
    | @cons _ info _ infos _ hbeg hlog _ hrest =>
      have htail := ih hrest fun ss hss => hfilled ss (mem_cons_of_mem rs hss)
      have hsum : n + ((rs :: closed) ++ [last]).flatten.length =
          n + rs.length + (closed ++ [last]).flatten.length := by
        simp only [cons_append, flatten_cons, length_append]
        omega
      rw [hsum]
      refine List.Forall₂.cons ?_ htail
      cases rs with
      | nil => exact absurd rfl (hfilled [] mem_cons_self)
      | cons r rs => exact hbeg.trans hlog.numbered.1.symm

lemma Wal.HoldsChunks.shutdown {b : Nat} {full : List Records}
    (h : w.HoldsChunks crc seq n full last) (hopened : w.segment = .opened b)
    (hwork : w.broken = false) :
    DirHolds crc w.shardUuid seq n (w.shutdown crc).dir (full ++ [last ++ w.queue]) := by
  have hbeg : w.startRollover.HoldsChunks crc seq n full last :=
    ⟨h.dir, h.active, h.isLog, h.nextLsn_eq⟩
  have hflush := (hbeg.flush w.queue.length).dir
  have hall : w.startRollover.queue.take w.queue.length = w.queue := take_length
  rw [hall] at hflush
  simp only [Wal.shutdown, hopened, hwork, Bool.false_eq_true, if_false]
  exact hflush

/-- Without I/O faults, in any interleaving of calls, the LSNs are distinct and rise within a call,
and after `shutdown` a reader yields exactly the enqueued records, each with its LSN, in segments
that start where their records do. -/
theorem assigned_lsns_read_back {crc : Bytes → UInt32} {uuid : ShardUuid}
    {maxSegmentBytes createdAt : Nat} {calls : List Records} {as : List WalStep}
    {s : WalSystem} (hrun : (launch (create crc uuid maxSegmentBytes createdAt) calls).run crc as =
      some s) (hfault : ∀ a ∈ as, isFault a = false) (hlsn : s.wal.nextLsn < 2 ^ 64)
    (hseq : s.wal.activeSegmentSeq < 10 ^ 10) :
    (s.calls.flatMap assigned).Nodup ∧ (∀ c ∈ s.calls, c.assigned.Pairwise (· < ·)) ∧
      (∀ c ∈ s.calls, c.state = .returned → c.assigned.length = c.submitted.length) ∧
      ((∀ c ∈ s.calls, c.state = .returned ∨ c.state = .failed) → ∃ infos chunks,
          openDir crc (s.wal.shutdown crc).dir s.wal.shardUuid = .ok infos ∧
          drain crc infos = ⟨yieldsLog infos chunks, none⟩ ∧
          chunks.flatten.Perm (s.calls.flatMap enqueued) ∧
          Numbered.From (fun r : WalRecord => r.lsn.toNat) 1 chunks.flatten ∧
          s.wal.nextLsn = 1 + chunks.flatten.length ∧
          List.Forall₂ (StartsAt s.wal.nextLsn) infos chunks) := by
  have hstrt := create_started crc uuid maxSegmentBytes createdAt
  have hslot : (launch (create crc uuid maxSegmentBytes createdAt)
      calls).Slotted := by
    intro hslot
    cases hslot
  obtain ⟨hrecorded, hslotted⟩ := (hstrt.recorded calls).run hslot hrun hfault hlsn hseq
  obtain ⟨closed, last, hlay, hacct⟩ := hrecorded.kept
  refine ⟨?_, ?_, ?_, ?_⟩
  · exact hacct.assigned.nodup_iff.mp nodup_range'
  · intro c hc
    obtain ⟨i, hi⟩ := List.getElem?_of_mem hc
    exact (hacct.tracked hi).rising
  · intro c hc hret
    obtain ⟨i, hi⟩ := List.getElem?_of_mem hc
    have htracked := hacct.tracked hi
    have hleft := htracked.settled (Or.inr hret)
    rw [htracked.left_eq, drop_eq_nil_iff] at hleft
    exact Nat.le_antisymm htracked.length_le hleft
  · intro hdone
    obtain ⟨b, hopened⟩ : ∃ b, s.wal.segment = .opened b := by
      cases hseg : s.wal.segment with
      | opened b => exact ⟨b, rfl⟩
      | rollingOver =>
        obtain ⟨i, q, l, c, hc, hroll⟩ := hslotted hseg
        rcases hdone c (mem_of_getElem? hc) with hs | hs <;> simp [hs] at hroll
    have hdir := hlay.chunks.shutdown hopened hrecorded.working
    have hflat : (closed ++ [last ++ s.wal.queue]).flatten =
        ([] ++ closed).flatten ++ last ++ s.wal.queue := by simp
    have hnext := hlay.chunks.nextLsn_eq
    rw [← hflat] at hnext
    obtain ⟨infos, hval, hnumbered, hholds⟩ := hdir.validated
    obtain ⟨infos', hopen, _, _, hdr⟩ := hdir.readDir
    rw [openDir_of_validated hval hnumbered] at hopen
    cases hopen
    refine ⟨infos, _, openDir_of_validated hval hnumbered, hdr, ?_, hholds.isLog.numbered, hnext,
      ?_⟩
    · rw [nil_append, hflat]
      exact hacct.enqueued
    · rw [hnext]
      exact hholds.startsAt hlay.filled

def tightRecord : WalRecord := recordAt 0 (.checkpointBegin 7 0)

def tightStart : Wal :=
  create zeroCrc zeroUuid (walSegmentHeaderLen + tightRecord.encodedLen) 0

def tightAt (dir : WalDir) (submitted : Records) (assigned acked : List Nat) (k left : Nat) :
    WalSystem :=
  ⟨{ dir, acked
     shardUuid := zeroUuid
     nextLsn := k + 2
     activeSegmentSeq := k
     segment := .opened tightRecord.encodedLen
     maxSegmentBytes := walSegmentHeaderLen + tightRecord.encodedLen
     queue := stampFrom (k + 1) [tightRecord]
     broken := false },
    [⟨submitted, List.replicate left tightRecord, assigned, [k + 1],
      if left = 0 then .awaiting else .draining k⟩]⟩

lemma runLoop_tight (hseg : w.segment = .opened 0)
    (hlimit : w.maxSegmentBytes = walSegmentHeaderLen + tightRecord.encodedLen)
    (submitted : Records) (assigned : List Nat) (m : Nat) :
    w.runLoop submitted assigned [] (List.replicate (m + 1) tightRecord) =
      (w.enqueue tightRecord 0, ⟨submitted, List.replicate m tightRecord, assigned ++ [w.nextLsn],
        [w.nextLsn], if m = 0 then .awaiting else .draining w.activeSegmentSeq⟩) := by
  have hpos := tightRecord.encodedLen_pos
  have hfits : tightRecord.Fits := by decide
  have hfst : w.admission tightRecord = .fits 0 := by
    rw [admission, hlimit, if_neg (by omega), hseg]
    exact if_neg (by omega)
  rw [replicate_succ, runLoop, hfst]
  simp only [hfits, if_true]
  cases m with
  | zero => rfl
  | succ m =>
    have hnext : (w.enqueue tightRecord 0).admission tightRecord = .needsRollover := by
      rw [admission, if_neg (by simp only [enqueue]; omega)]
      simp only [enqueue]
      exact if_pos (by omega)
    rw [replicate_succ, runLoop, hnext]
    simp [enqueue]

variable {dir : WalDir} {submitted : Records} {assigned acked : List Nat} {k m : Nat}

lemma mem_acked_tight (hk : k + 2 < 2 ^ 64) :
    k + 1 ∈ ((tightAt dir submitted assigned acked k m).wal.flush zeroCrc 1).acked := by
  have hts : (UInt64.ofNat (k + 1)).toNat = k + 1 := by
    rw [UInt64.toNat_ofNat', mod_eq_of_lt (by omega)]
  exact mem_append_right _ (mem_singleton.mpr hts.symm)

lemma tightAt_roll (hk : k + 2 < 2 ^ 64) :
    ∃ dir' acked', (tightAt dir submitted assigned acked k (m + 1)).run zeroCrc
        [.flush 1, .drained 0, .acquire 0, .install 0 0] =
      some (tightAt dir' submitted (assigned ++ [k + 2]) acked' (k + 1) m) ∧
      ∃ f ∈ dir', f.filenameSeq = k + 1 := by
  have hack := @mem_acked_tight dir submitted assigned acked k (m + 1) hk
  let w := (tightAt dir submitted assigned acked k (m + 1)).wal.flush zeroCrc 1
  let c : Call := ⟨submitted, List.replicate (m + 1) tightRecord, assigned, [k + 1], .draining k⟩
  have hdrained : step zeroCrc ⟨w, [c]⟩ (.drained 0) =
      some ⟨w, [{ c with handles := [], state := .acquiring k }]⟩ := if_pos (by simpa [c] using hack)
  have hacquire : step zeroCrc ⟨w, [{ c with handles := [], state := .acquiring k }]⟩
      (.acquire 0) = some ⟨w.startRollover,
        [{ c with handles := [], state := .rolling (k + 1) (k + 2) }]⟩ := by
    simp [step, permitFree, isRolling, w, tightAt, flush]
  have hloop := runLoop_tight (w := w.startRollover.installSegment zeroCrc (k + 1) (k + 2) 0) rfl rfl
    submitted assigned m
  refine ⟨(w.startRollover.installSegment zeroCrc (k + 1) (k + 2) 0).dir, w.acked, ?_, _,
    mem_append_right _ (mem_singleton.mpr rfl), rfl⟩
  have hflush : step zeroCrc (tightAt dir submitted assigned acked k (m + 1)) (.flush 1) =
      some ⟨w, [c]⟩ := rfl
  simp only [run, hflush, hdrained, hacquire]
  change some (resume _ (w.startRollover.installSegment zeroCrc (k + 1) (k + 2) 0) 0
    { c with handles := [], state := .rolling (k + 1) (k + 2) }) = _
  rw [resume, hloop]
  rfl

def tightSteps : Nat → List WalStep
  | 0 => [.flush 1, .finish 0]
  | n + 1 => .flush 1 :: .drained 0 :: .acquire 0 :: .install 0 0 :: tightSteps n

lemma tightSteps_isFault (n : Nat) : ∀ a ∈ .start 0 :: tightSteps n, isFault a = false := by
  induction n with
  | zero => decide
  | succ n ih =>
    intro a ha
    simp only [tightSteps, mem_cons] at ha
    rcases ha with rfl | rfl | rfl | rfl | rfl | ha
    · rfl
    · rfl
    · rfl
    · rfl
    · rfl
    · exact ih a (mem_cons_of_mem _ ha)

lemma tightAt_run (hk : k + m + 2 < 2 ^ 64) (hfile : ∃ f ∈ dir, f.filenameSeq = k)
    (hasg : assigned ≠ []) :
    ∃ dir' assigned' acked' c, (tightAt dir submitted assigned acked k m).run zeroCrc (tightSteps m) =
        some ⟨(tightAt dir' submitted assigned' acked' (k + m) 0).wal.flush zeroCrc 1, [c]⟩ ∧
      c.state = .returned ∧ c.submitted = submitted ∧ c.assigned ≠ [] ∧
      ∃ f ∈ dir', f.filenameSeq = k + m := by
  induction m generalizing dir assigned acked k with
  | zero =>
    have hack := @mem_acked_tight dir submitted assigned acked k 0 hk
    let w := (tightAt dir submitted assigned acked k 0).wal.flush zeroCrc 1
    have hfinish : step zeroCrc ⟨w, [⟨submitted, [], assigned, [k + 1], .awaiting⟩]⟩
        (.finish 0) = some ⟨w, [⟨submitted, [], assigned, [k + 1], .returned⟩]⟩ :=
      if_pos ⟨rfl, by simpa using hack⟩
    refine ⟨dir, assigned, acked, ⟨submitted, [], assigned, [k + 1], .returned⟩, ?_, rfl, rfl,
      hasg, hfile⟩
    change run zeroCrc ⟨w, [⟨submitted, [], assigned, [k + 1], .awaiting⟩]⟩
      [.finish 0] = _
    rw [run, hfinish]
    rfl
  | succ m ih =>
    obtain ⟨dir₁, acked₁, hroll, hfile₁⟩ := @tightAt_roll dir submitted assigned acked k m (by omega)
    obtain ⟨dir', assigned', acked', c, hrest, hc⟩ := @ih dir₁ (assigned ++ [k + 2]) acked₁ (k + 1)
      (by omega) hfile₁ (by simp)
    rw [show k + 1 + m = k + (m + 1) by omega] at hrest hc
    refine ⟨dir', assigned', acked', c, ?_, hc⟩
    have hcut : tightSteps (m + 1) =
        [.flush 1, .drained 0, .acquire 0, .install 0 0] ++ tightSteps m := rfl
    rw [hcut, run_append, hroll]
    exact hrest

lemma tightAt_start (m : Nat) : ∃ dir,
    (launch tightStart [List.replicate (m + 1) tightRecord]).step zeroCrc (.start 0) =
      some (tightAt dir (List.replicate (m + 1) tightRecord) [1] [] 0 m) ∧
      ∃ f ∈ dir, f.filenameSeq = 0 := by
  have hloop := runLoop_tight (w := tightStart) rfl rfl (List.replicate (m + 1) tightRecord) [] m
  refine ⟨tightStart.dir, ?_, _, mem_singleton.mpr rfl, rfl⟩
  change some (resume _ tightStart 0 (start _)) = _
  rw [resume]
  simp only [start, hloop]
  rfl

lemma WalDir.mem_modify {f : SegmentFile} (h : f ∈ dir) (seq : Nat) (g : Bytes → Bytes) :
    ∃ f' ∈ dir.modify seq g, f'.filenameSeq = f.filenameSeq := by
  refine ⟨_, List.mem_map_of_mem h, ?_⟩
  split <;> rfl

lemma Wal.mem_shutdown {f : SegmentFile} (h : f ∈ w.dir) (crc : Checksum) :
    ∃ f' ∈ (w.shutdown crc).dir, f'.filenameSeq = f.filenameSeq := by
  unfold shutdown
  split
  · exact ⟨f, h, rfl⟩
  · split
    · exact ⟨f, h, rfl⟩
    · exact WalDir.mem_modify h w.activeSegmentSeq (· ++ encodeAll crc (w.queue.take w.queue.length))

lemma openDir_filenameSeq_lt {uuid : ShardUuid} (h : openDir crc dir uuid = .ok infos) :
    ∀ f ∈ dir, f.filenameSeq < 10 ^ 10 := by
  have hval := (openDir_ok h).1
  clear h
  induction hval with
  | nil => simp
  | cons hread _ ih =>
    intro f hf
    rcases mem_cons.mp hf with rfl | hf
    · obtain ⟨header, body, rfl, _, hval⟩ := readAndValidateSegmentHeader_ok hread
      exact hval.filenameSeq_lt
    · exact ih f hf

lemma tight_run (m : Nat) (hbound : m + 2 < 2 ^ 64) :
    ∃ s, (launch tightStart [List.replicate (m + 1) tightRecord]).run zeroCrc
        (.start 0 :: tightSteps m) = some s ∧
      (∀ c ∈ s.calls, c.state = .returned) ∧ s.calls.flatMap enqueued ≠ [] ∧
      ∃ f ∈ (s.wal.shutdown zeroCrc).dir, f.filenameSeq = m := by
  obtain ⟨dir, hbeg, hfile⟩ := tightAt_start m
  obtain ⟨dir', assigned, acked, c, hrun, hstate, hsubmitted, hasg, f, hf, hname⟩ :=
    @tightAt_run dir (List.replicate (m + 1) tightRecord) [1] [] 0 m (by omega) hfile (by simp)
  rw [zero_add] at hrun hname
  refine ⟨⟨(tightAt dir' (List.replicate (m + 1) tightRecord) assigned acked m 0).wal.flush zeroCrc 1,
    [c]⟩, ?_, by simpa using hstate, ?_, ?_⟩
  · simp only [run, hbeg]
    exact hrun
  · simp [enqueued, hasg, hsubmitted]
  · obtain ⟨f', hf', hname'⟩ := WalDir.mem_modify hf m
      (· ++ encodeAll zeroCrc ((stampFrom (m + 1) [tightRecord]).take 1))
    obtain ⟨f'', hf'', hname''⟩ := mem_shutdown (w := (tightAt dir' (List.replicate (m + 1)
      tightRecord) assigned acked m 0).wal.flush zeroCrc 1) hf' zeroCrc
    exact ⟨f'', hf'', by omega⟩

/-- The eleventh digit: after `10 ^ 10` rollovers the reader yields nothing of a call that
returned. -/
theorem segment_names_run_out : ∃ (calls : List Records) (as : List WalStep) (s : WalSystem),
      (launch tightStart calls).run zeroCrc as = some s ∧
      (∀ a ∈ as, isFault a = false) ∧ (∀ c ∈ s.calls, c.state = .returned) ∧
      s.calls.flatMap enqueued ≠ [] ∧
      (readDir zeroCrc (s.wal.shutdown zeroCrc).dir s.wal.shardUuid).yielded = [] := by
  obtain ⟨m, hm⟩ : ∃ m : Nat, m = 10 ^ 10 := ⟨_, rfl⟩
  obtain ⟨s, hrun, hdone, hne, f, hf, hname⟩ := tight_run m (by omega)
  refine ⟨_, _, s, hrun, tightSteps_isFault m, hdone, hne, ?_⟩
  · rw [readDir]
    cases hopen : openDir zeroCrc (s.wal.shutdown zeroCrc).dir s.wal.shardUuid with
    | error e => rfl
    | ok infos =>
      have hlt := openDir_filenameSeq_lt hopen f hf
      omega

def crossedSteps : List WalStep :=
  [.start 0, .start 1, .flush 1, .acquire 1, .install 1 0, .drained 0, .flush 1, .acquire 0,
    .acquire 0, .install 0 0, .flush 1, .finish 0, .finish 1]

def crossedEnd : Wal :=
  let second := (((tightStart.enqueue tightRecord 0).flush zeroCrc 1).startRollover.installSegment
    zeroCrc 1 2 0).enqueue tightRecord 0
  (((second.flush zeroCrc 1).startRollover.installSegment zeroCrc 2 3 0).enqueue tightRecord 0).flush
    zeroCrc 1

lemma crossed_run : (launch tightStart [[tightRecord, tightRecord], [tightRecord]]).run zeroCrc
    crossedSteps = some ⟨crossedEnd, [⟨[tightRecord, tightRecord], [], [1, 3], [3], .returned⟩,
      ⟨[tightRecord], [], [2], [2], .returned⟩]⟩ := rfl

theorem crossed_calls_read_back :
    ∃ s infos chunks, (launch tightStart [[tightRecord, tightRecord], [tightRecord]]).run zeroCrc
        crossedSteps = some s ∧
      s.calls.map Call.assigned = [[1, 3], [2]] ∧ (s.calls.flatMap Call.assigned).Nodup ∧
      openDir zeroCrc (s.wal.shutdown zeroCrc).dir s.wal.shardUuid = .ok infos ∧
      drain zeroCrc infos = ⟨yieldsLog infos chunks, none⟩ ∧
      chunks.flatten.Perm (s.calls.flatMap Call.enqueued) := by
  obtain ⟨hnd, _, _, hread⟩ :=
    assigned_lsns_read_back crossed_run (by decide) (by decide) (by decide)
  obtain ⟨infos, chunks, hopen, hdr, hperm, _⟩ := hread (by decide)
  exact ⟨_, infos, chunks, crossed_run, rfl, hnd, hopen, hdr, hperm⟩

end BrainDb
