import BrainDb.Wal.Assignment

namespace BrainDb
open ListSet
open List WalSystem WalReader

def Wal.readable (crc : Checksum) (w : Wal) : Records :=
  (readDir crc w.dir w.shardUuid).yielded.map Yielded.record

variable {crc : Checksum} {seq n : Nat}

section
variable {w : Wal} {full : List Records} {last : Records}

lemma scanSegment_yields (segmentSeq offset : Nat) (isLast : Bool) (h : IsLog n last)
    (tail : Bytes) :
    ∃ more, (scanSegment crc segmentSeq isLast (encodeAll crc last ++ tail).length offset n
      (encodeAll crc last ++ tail)).1 = yieldsAt segmentSeq offset last ++ more := by
  obtain ⟨extra, hextra⟩ := Nat.exists_eq_add_of_le (length_le_length_encodeAll crc last)
  have hfuel : (encodeAll crc last ++ tail).length = extra + tail.length + last.length := by
    rw [length_append, hextra]
    omega
  rw [hfuel, scanSegment_append crc segmentSeq isLast _ offset h]
  exact ⟨_, rfl⟩

lemma readSegments_last_yields {info : SegmentInfo} (tail : Bytes)
    (hbeg : info.startingLsn = n) (h : IsLog n last)
    (hbody : info.bytes.drop walSegmentHeaderLen = encodeAll crc last ++ tail) :
    ∃ more, (readSegments crc [info] n).yielded =
      yieldsAt info.segmentSeq walSegmentHeaderLen last ++ more := by
  obtain ⟨more, hmore⟩ := scanSegment_yields info.segmentSeq walSegmentHeaderLen true h tail
  simp only [readSegments, hbeg, ne_eq, not_true_eq_false, if_false, hbody, isEmpty_nil]
  split
  · exact ⟨_, by rw [hmore, append_assoc]⟩
  · exact ⟨more, hmore⟩
  · exact ⟨more, hmore⟩

lemma Wal.HoldsChunks.readable_tail (h : w.HoldsChunks crc seq n full last) (tail : Bytes) :
    ∀ r ∈ full.flatten ++ last, r ∈ (readDir crc
      (w.dir.modify w.activeSegmentSeq (· ++ tail)) w.shardUuid).yielded.map Yielded.record := by
  obtain ⟨files, header, _, hact, hfull, hval, hmodify⟩ := h.activeFile
  have hlog : IsLog (n + full.flatten.length) last :=
    (isLog_append.mp (isLog_append.mp h.isLog).1).2
  obtain ⟨infos, hfiles, hnumbered, hholds⟩ := hfull.validated
  have hlen : infos.length = files.length := hfiles.length_eq.symm
  have hread := readAndValidateSegmentHeader_append hval (encodeAll crc last ++ tail)
  generalize hinfo : (⟨w.activeSegmentSeq, n + full.flatten.length,
    header ++ (encodeAll crc last ++ tail)⟩ : SegmentInfo) = info at hread
  have hopen : openDir crc (w.dir.modify w.activeSegmentSeq (· ++ tail)) w.shardUuid =
      .ok (infos ++ [info]) := by
    rw [hmodify, append_assoc]
    refine openDir_of_validated (rel_append hfiles (List.Forall₂.cons hread List.Forall₂.nil))
      (Numbered.from_append.mpr ⟨hnumbered, ?_, trivial⟩)
    rw [← hinfo, hlen]
    exact hact
  obtain ⟨more, hmore⟩ : ∃ more, (readSegments crc [info] (n + full.flatten.length)).yielded =
      yieldsAt info.segmentSeq walSegmentHeaderLen last ++ more := by
    refine readSegments_last_yields tail (by rw [← hinfo]) hlog ?_
    rw [← hinfo]
    rw [← hval.length_eq, drop_left]
  have hfst := hholds.firstLsn_append info (by rw [← hinfo])
  have hyields : (readDir crc (w.dir.modify w.activeSegmentSeq (· ++ tail))
      w.shardUuid).yielded.map Yielded.record =
        full.flatten ++ (last ++ more.map Yielded.record) := by
    simp only [readDir, hopen, drain, hfst, readSegments_append hholds, hmore,
      map_append, map_record_yieldsLog hholds.length_eq, map_record_yieldsAt]
  intro r hr
  rw [hyields, ← append_assoc]
  exact mem_append_left _ hr
end

variable {c : Call} {as : List WalStep}

namespace WalSystem
variable {first limit : Nat} {old : List Records} {before : Records}
  {s s' : WalSystem} {a : WalStep}

def Covered (crc : Checksum) (s : WalSystem) : Prop :=
  ∀ {i : Nat} {c : Call}, s.calls[i]? = some c → ∀ r ∈ c.enqueued, r.lsn.toNat ∈ s.wal.acked →
    r ∈ s.wal.readable crc

structure Awaited (s : WalSystem) : Prop where
  waited : ∀ {i : Nat} {c : Call}, s.calls[i]? = some c → ∀ lsn ∈ c.assigned,
    lsn ∈ c.handles ∨ lsn ∈ s.wal.acked
  returned : ∀ {i : Nat} {c : Call}, s.calls[i]? = some c → c.state = .returned →
    ∀ lsn ∈ c.assigned, lsn ∈ s.wal.acked

variable {w' : Wal} {i : Nat} {c' : Call} {taken : Records}

lemma Awaited.loop (h : s.Awaited) {w : Wal} (hc : s.calls[i]? = some c)
    (hspec : LoopSpec w c w' c' taken) (hack : w.acked = s.wal.acked) :
    Awaited ⟨w', s.calls.set i c'⟩ := by
  have hsame : w'.acked = s.wal.acked := hspec.acked.trans hack
  refine ⟨?_, ?_⟩
  · intro j d hd lsn hlsn
    rw [hsame]
    rcases getElem?_set_some hd with ⟨_, rfl⟩ | ⟨_, hd⟩
    · rw [hspec.assigned_eq] at hlsn
      rw [hspec.handles_eq]
      rcases mem_append.mp hlsn with hlsn | hlsn
      · exact (h.waited hc lsn hlsn).imp_left (mem_append_left _)
      · exact .inl (mem_append_right _ hlsn)
    · exact h.waited hd lsn hlsn
  · intro j d hd hs
    rw [hsame]
    rcases getElem?_set_some hd with ⟨_, rfl⟩ | ⟨_, hd⟩
    · rcases hspec.state with hf | ⟨_, hf⟩ | ⟨_, hf | hf, _⟩ <;> simp [hf] at hs
    · exact h.returned hd hs

lemma Awaited.setCall (h : s.Awaited) (hc : s.calls[i]? = some c)
    (hasg : c'.assigned = c.assigned) (hack : w'.acked = s.wal.acked)
    (hhandles : c'.handles = c.handles ∧ c'.state ≠ .returned ∨
      ∀ lsn ∈ c.handles, lsn ∈ s.wal.acked) : Awaited ⟨w', s.calls.set i c'⟩ := by
  have hall : (∀ lsn ∈ c.handles, lsn ∈ s.wal.acked) → ∀ lsn ∈ c.assigned, lsn ∈ s.wal.acked := by
    intro hh lsn hlsn
    exact (h.waited hc lsn hlsn).elim (hh lsn) id
  refine ⟨?_, ?_⟩
  · intro j d hd lsn hlsn
    rw [hack]
    rcases getElem?_set_some hd with ⟨_, rfl⟩ | ⟨_, hd⟩
    · rw [hasg] at hlsn
      rcases hhandles with ⟨hsame, _⟩ | hh
      · rw [hsame]
        exact h.waited hc lsn hlsn
      · exact .inr (hall hh lsn hlsn)
    · exact h.waited hd lsn hlsn
  · intro j d hd hs
    rw [hack]
    rcases getElem?_set_some hd with ⟨_, rfl⟩ | ⟨_, hd⟩
    · rcases hhandles with ⟨_, hne⟩ | hh
      · exact absurd hs hne
      · rw [hasg]
        exact hall hh
    · exact h.returned hd hs

lemma Awaited.failBatch (h : s.Awaited) (hack : w'.acked = s.wal.acked) (k : Nat) :
    Awaited ⟨w', s.failBatch k⟩ := by
  refine ⟨?_, ?_⟩
  · intro j d hd
    rw [hack]
    obtain ⟨c, hc, rfl | rfl⟩ := getElem?_failBatch hd <;> exact fun lsn hlsn => h.waited hc lsn hlsn
  · intro j d hd hs
    rw [hack]
    obtain ⟨c, hc, rfl | rfl⟩ := getElem?_failBatch hd
    · exact h.returned hc hs
    · cases hs

lemma Awaited.step (h : s.Awaited) (hs : s.step crc a = some s') : s'.Awaited := by
  rcases step_cases hs with hmove | hfail
  · cases hmove with
    | @resume _ i c hc _ =>
      obtain ⟨taken, hspec⟩ := s.wal.runLoop_spec c
      exact h.loop hc hspec rfl
    | @install i q l t c hc _ _ =>
      obtain ⟨taken, hspec⟩ := (s.wal.installSegment crc q l t).runLoop_spec c
      exact h.loop hc hspec rfl
    | @flush k _ =>
      have hmore : ∀ lsn ∈ s.wal.acked, lsn ∈ (s.wal.flush crc k).acked :=
        fun lsn hlsn => mem_append_left _ hlsn
      exact ⟨fun hc lsn hlsn => (h.waited hc lsn hlsn).imp_right (hmore lsn),
        fun hc hs lsn hlsn => hmore lsn (h.returned hc hs lsn hlsn)⟩
    | settle hc hack _ => exact h.setCall hc rfl rfl (.inr hack)
    | rollover hc _ _ _ _ => exact h.setCall hc rfl rfl (.inl ⟨rfl, by simp⟩)
  · cases hfail with
    | flush _ _ | reject _ _ => exact h.failBatch (by rfl) _
    | call hc _ => exact h.setCall hc rfl rfl (.inl ⟨rfl, by simp⟩)

structure Working (crc : Checksum) (seq n : Nat) (old : List Records)
    (before : Records) (first : Nat) (s : WalSystem) : Prop where
  recorded : s.Recorded crc seq n old before first
  acked_lt : ∀ lsn ∈ s.wal.acked, lsn + s.wal.queue.length < s.wal.nextLsn

lemma Working.durable (h : s.Working crc seq n old before first) {closed : List Records}
    {last : Records} (hlay : s.Layout crc seq n old closed last)
    (hacct : Accounts before first s.wal.nextLsn s.calls
      ((old ++ closed).flatten ++ last ++ s.wal.queue)) (hc : s.calls[i]? = some c) {r : WalRecord}
    (hr : r ∈ c.enqueued) (hack : r.lsn.toNat ∈ s.wal.acked) :
    r ∈ (old ++ closed).flatten ++ last := by
  have hmem : r ∈ before ++ s.calls.flatMap Call.enqueued :=
    mem_append_right _ (mem_flatMap.mpr ⟨c, mem_of_getElem? hc, hr⟩)
  rcases mem_append.mp (hacct.enqueued.mem_iff.mpr hmem) with hstor | hqd
  · exact hstor
  · have hbds := (queue_bounds hlay.chunks.holdsLog).1.bounds r hqd
    have hlt := h.acked_lt _ hack
    omega

lemma Working.covered (h : s.Working crc seq n old before first) : s.Covered crc := by
  obtain ⟨closed, last, hlay, hacct⟩ := h.recorded.kept
  intro i c hc r hr hack
  rw [Wal.readable, hlay.chunks.dir.records.1, flatten_append, flatten_singleton]
  exact h.durable hlay hacct hc hr hack

lemma Working.step (h : s.Working crc seq n old before first) (hs : s.step crc a = some s')
    (hflush : ∀ k written, a ≠ .flushFails k written) (hlsn : s'.wal.nextLsn < 2 ^ 64)
    (hseq : s'.wal.activeSegmentSeq < 10 ^ 10) : s'.Working crc seq n old before first := by
  refine ⟨h.recorded.step hs hflush hlsn hseq, ?_⟩
  have hloop : ∀ {w w' : Wal} {c c' : Call} {taken : Records}, LoopSpec w c w' c' taken →
      w.acked = s.wal.acked → w.queue = s.wal.queue → w.nextLsn = s.wal.nextLsn →
      ∀ lsn ∈ w'.acked, lsn + w'.queue.length < w'.nextLsn := by
    intro w w' c c' taken hspec hack hq hnext lsn hlsn
    rw [hspec.acked, hack] at hlsn
    have hlt := h.acked_lt lsn hlsn
    rw [hspec.queue, hspec.nextLsn, length_append, length_stampFrom, hq, hnext]
    omega
  rcases step_cases hs with hmove | hfail
  · cases hmove with
    | @resume _ i c hc _ =>
      obtain ⟨taken, hspec⟩ := s.wal.runLoop_spec c
      exact hloop hspec rfl rfl rfl
    | @install i q l t c hc _ _ =>
      obtain ⟨taken, hspec⟩ := (s.wal.installSegment crc q l t).runLoop_spec c
      exact hloop hspec rfl rfl rfl
    | @flush k _ =>
      obtain ⟨closed, last, hlay, _⟩ := h.recorded.kept
      exact acked_flush hlay.chunks.holdsLog h.acked_lt k
    | settle _ _ _ => exact h.acked_lt
    | rollover _ _ _ _ _ => exact h.acked_lt
  · cases hfail with
    | flush _ _ => exact absurd rfl (hflush _ _)
    | reject hbrk _ =>
      rw [h.recorded.working] at hbrk
      cases hbrk
    | call _ _ => exact h.acked_lt

structure Frozen (crc : Checksum) (limit : Nat) (s : WalSystem) : Prop where
  broken : s.wal.broken = true
  acked_lt : ∀ lsn ∈ s.wal.acked, lsn < limit
  limit_le : limit ≤ s.wal.nextLsn
  tracked : ∀ {i : Nat} {c : Call}, s.calls[i]? = some c → c.Tracked s.wal.nextLsn
  covered : s.Covered crc

lemma Working.failFlush (h : s.Working crc seq n old before first) (k written : Nat) :
    Frozen crc s.wal.nextLsn ⟨s.wal.failFlush crc k written, s.failBatch k⟩ := by
  obtain ⟨closed, last, hlay, hacct⟩ := h.recorded.kept
  refine ⟨rfl, ?_, Nat.le_refl _, ?_, ?_⟩
  · intro lsn hlsn
    have hlt := h.acked_lt lsn hlsn
    omega
  · intro j d hd
    obtain ⟨c, hc, rfl | rfl⟩ := getElem?_failBatch hd
    · exact hacct.tracked hc
    · have ht := hacct.tracked hc
      exact ⟨ht.left_eq, ht.length_le, ht.rising, ht.below, by simp⟩
  · intro j d hd r hr hack
    have hold : ∃ c, s.calls[j]? = some c ∧ r ∈ c.enqueued := by
      obtain ⟨c, hc, rfl | rfl⟩ := getElem?_failBatch hd
      · exact ⟨d, hc, hr⟩
      · exact ⟨c, hc, hr⟩
    obtain ⟨c, hc, hr⟩ := hold
    exact hlay.chunks.readable_tail _ r (h.durable hlay hacct hc hr hack)

lemma Frozen.loop (h : s.Frozen crc limit) (hc : s.calls[i]? = some c)
    (hspec : LoopSpec s.wal c w' c' taken) (hlsn : w'.nextLsn ≤ 2 ^ 64) :
    Frozen crc limit ⟨w', s.calls.set i c'⟩ := by
  have hread : w'.readable crc = s.wal.readable crc := by
    rw [Wal.readable, Wal.readable, hspec.dir, hspec.shardUuid]
  refine ⟨hspec.broken.trans h.broken, ?_, ?_, hspec.tracked_set hc h.tracked, ?_⟩
  · rw [hspec.acked]
    exact h.acked_lt
  · rw [hspec.nextLsn]
    exact h.limit_le.trans (Nat.le_add_right _ _)
  · intro j d hd r hr hack
    have hacked' : r.lsn.toNat ∈ s.wal.acked := hspec.acked ▸ hack
    rw [hread]
    rcases getElem?_set_some hd with ⟨_, rfl⟩ | ⟨_, hd⟩
    · rw [hspec.enqueued (h.tracked hc)] at hr
      rcases mem_append.mp hr with hr | hr
      · exact h.covered hc r hr hacked'
      · -- a record enqueued now has an LSN that was never acknowledged
        have hlog := stampFrom_isLog (hspec.nextLsn ▸ hlsn) hspec.fits
        have hbds := hlog.numbered.bounds r hr
        have hlt := h.acked_lt _ hacked'
        have hle := h.limit_le
        omega
    · exact h.covered hd r hr hacked'

section
variable (hwal : w'.broken = s.wal.broken ∧ w'.acked = s.wal.acked ∧
  w'.nextLsn = s.wal.nextLsn ∧ w'.dir = s.wal.dir ∧ w'.shardUuid = s.wal.shardUuid)

include hwal

lemma Frozen.relabel (h : s.Frozen crc limit) {calls : List Call}
    (hcalls : ∀ {j : Nat} {d : Call}, calls[j]? = some d → ∃ c, s.calls[j]? = some c ∧
      d.submitted = c.submitted ∧ d.assigned = c.assigned ∧ d.left = c.left ∧
      (d.state = .awaiting ∨ d.state = .returned → c.left = [])) :
    Frozen crc limit ⟨w', calls⟩ := by
  obtain ⟨hbrk, hack, hnext, hdir, huuid⟩ := hwal
  refine ⟨hbrk.trans h.broken, ?_, ?_, ?_, ?_⟩
  · rw [hack]
    exact h.acked_lt
  · rw [hnext]
    exact h.limit_le
  · intro j d hd
    obtain ⟨c, hc, hsub, hasg, hleft, hset⟩ := hcalls hd
    have ht := h.tracked hc
    refine ⟨?_, ?_, ?_, ?_, ?_⟩
    · rw [hsub, hasg, hleft]
      exact ht.left_eq
    · rw [hsub, hasg]
      exact ht.length_le
    · rw [hasg]
      exact ht.rising
    · rw [hasg, hnext]
      exact ht.below
    · rw [hleft]
      exact hset
  · intro j d hd r hr hr'
    obtain ⟨c, hc, hsub, hasg, _, _⟩ := hcalls hd
    rw [Call.enqueued, hsub, hasg] at hr
    rw [Wal.readable, hdir, huuid]
    exact h.covered hc r hr (hack ▸ hr')

lemma Frozen.setCall (h : s.Frozen crc limit) {handles : List Nat} {state : CallState}
    (hc : s.calls[i]? = some c) (hset : state = .awaiting ∨ state = .returned → c.left = []) :
    Frozen crc limit ⟨w', s.calls.set i { c with handles := handles, state := state }⟩ := by
  refine h.relabel hwal ?_
  intro j d hd
  rcases getElem?_set_some hd with ⟨rfl, rfl⟩ | ⟨_, hd⟩
  · exact ⟨c, hc, rfl, rfl, rfl, hset⟩
  · exact ⟨d, hd, rfl, rfl, rfl, (h.tracked hd).settled⟩

lemma Frozen.failBatch (h : s.Frozen crc limit) (k : Nat) :
    Frozen crc limit ⟨w', s.failBatch k⟩ := by
  refine h.relabel hwal ?_
  intro j d hd
  obtain ⟨c, hc, rfl | rfl⟩ := getElem?_failBatch hd
  · exact ⟨d, hc, rfl, rfl, rfl, (h.tracked hc).settled⟩
  · exact ⟨c, hc, rfl, rfl, rfl, by simp⟩
end

lemma Frozen.step (h : s.Frozen crc limit) (hs : s.step crc a = some s')
    (hinstall : ∀ i createdAt, a ≠ .install i createdAt) (hlsn : s'.wal.nextLsn ≤ 2 ^ 64) :
    s'.Frozen crc limit := by
  rcases step_cases hs with hmove | hfail
  · cases hmove with
    | @resume _ i c hc _ =>
      obtain ⟨taken, hspec⟩ := s.wal.runLoop_spec c
      exact h.loop hc hspec hlsn
    | install _ _ _ => exact absurd rfl (hinstall _ _)
    | flush hwork =>
      rw [h.broken] at hwork
      cases hwork
    | settle hc _ hst =>
      refine h.setCall ⟨rfl, rfl, rfl, rfl, rfl⟩ hc ?_
      intro hset
      rcases hst with ⟨q, _, rfl⟩ | ⟨hawait, _⟩
      · simp at hset
      · exact (h.tracked hc).settled (.inl hawait)
    | rollover hc _ _ _ _ => exact h.setCall (by exact ⟨rfl, rfl, rfl, rfl, rfl⟩) hc (by simp)
  · cases hfail with
    | flush hwork _ =>
      rw [h.broken] at hwork
      cases hwork
    | @reject k _ _ =>
      exact h.failBatch (by exact ⟨rfl, rfl, rfl, rfl, rfl⟩) k
    | call hc _ => exact h.setCall (by exact ⟨rfl, rfl, rfl, rfl, rfl⟩) hc (by simp)

def RollsUnbroken (crc : Checksum) : WalSystem → List WalStep → Prop
  | _, [] => True
  | s, a :: as => (∀ i createdAt, a = .install i createdAt → s.wal.broken = false) ∧
      ∀ s', s.step crc a = some s' → RollsUnbroken crc s' as

lemma RollsUnbroken.append {bs : List WalStep} (h : RollsUnbroken crc s (as ++ bs)) :
    RollsUnbroken crc s as ∧ ∀ mid, s.run crc as = some mid → RollsUnbroken crc mid bs := by
  induction as generalizing s with
  | nil =>
    refine ⟨trivial, ?_⟩
    intro mid hmid
    cases hmid
    exact h
  | cons a as ih =>
    refine ⟨⟨h.1, fun s' hs => (ih (h.2 s' hs)).1⟩, ?_⟩
    intro mid hmid
    obtain ⟨next, hstep, hmid⟩ := run_cons hmid
    exact (ih (h.2 next hstep)).2 mid hmid

lemma Frozen.run (h : s.Frozen crc limit) (hper : s.Permit) (hrun : s.run crc as = some s')
    (hguard : RollsUnbroken crc s as) (hlsn : s'.wal.nextLsn < 2 ^ 64) : s'.Frozen crc limit := by
  induction as generalizing s with
  | nil =>
    cases hrun
    exact h
  | cons a as ih =>
    obtain ⟨mid, hstep, hrun⟩ := run_cons hrun
    have hle := (run_mono (hper.step hstep) hrun).1
    refine ih (h.step hstep ?_ (by omega)) (hper.step hstep) hrun (hguard.2 mid hstep)
    rintro i createdAt rfl
    have hwork := hguard.1 i createdAt rfl
    rw [h.broken] at hwork
    cases hwork

lemma step_flushFails {k written : Nat} (h : s.step crc (.flushFails k written) = some s') :
    s.wal.broken = false ∧ s' = ⟨s.wal.failFlush crc k written, s.failBatch k⟩ := by
  simp only [step, Option.ite_none_left_eq_some, Option.some.injEq, not_or, Bool.not_eq_true] at h
  exact ⟨h.1.1, h.2.symm⟩

lemma Working.run (h : s.Working crc seq n old before first) (hrun : s.run crc as = some s')
    (hguard : RollsUnbroken crc s as) (hlsn : s'.wal.nextLsn < 2 ^ 64)
    (hseq : s'.wal.activeSegmentSeq < 10 ^ 10) :
    s'.Working crc seq n old before first ∨ ∃ limit, s'.Frozen crc limit := by
  induction as generalizing s with
  | nil =>
    cases hrun
    exact .inl h
  | cons a as ih =>
    obtain ⟨mid, hstep, hrun⟩ := run_cons hrun
    have hper := h.recorded.permit.step hstep
    obtain ⟨hl, ha⟩ := run_mono hper hrun
    by_cases hfails : ∃ k written, a = .flushFails k written
    · obtain ⟨k, written, rfl⟩ := hfails
      obtain ⟨_, rfl⟩ := step_flushFails hstep
      exact .inr ⟨_, (h.failFlush k written).run hper hrun (hguard.2 _ hstep) hlsn⟩
    · refine ih (h.step hstep ?_ (by omega) (by omega)) hrun (hguard.2 mid hstep)
      rintro k written rfl
      exact hfails ⟨k, written, rfl⟩

end WalSystem

lemma Call.mem_enqueued {r : WalRecord} (h : r ∈ c.enqueued) :
    ∃ lsn ∈ c.assigned, r.lsn = UInt64.ofNat lsn := by
  obtain ⟨i, hi⟩ := List.getElem?_of_mem h
  obtain ⟨x, lsn, _, hlsn, rfl⟩ := List.getElem?_zipWith_eq_some.mp hi
  exact ⟨lsn, mem_of_getElem? hlsn, rfl⟩

lemma awaited_launch (w : Wal) (calls : List Records) : (launch w calls).Awaited := by
  refine ⟨?_, ?_⟩
  · intro i c hc lsn hlsn
    obtain ⟨rs, rfl⟩ := getElem?_calls_launch hc
    cases hlsn
  · intro i c hc hs
    obtain ⟨rs, rfl⟩ := getElem?_calls_launch hc
    cases hs

/-- In a run that installs no segment behind a broken committer, no record enqueued after a failed
flush is acknowledged, and a reader yields every acknowledged record. -/
theorem broken_wal_stays_broken {crc : Bytes → UInt32} {w : Wal} {seq n : Nat}
    {old : List Records} {last : Records} {calls : List Records}
    {as : List WalStep} {s : WalSystem} (hw : w.Started crc seq n old last)
    (hrun : (launch w calls).run crc as = some s) (hguard : RollsUnbroken crc (launch w calls) as)
    (hlsn : s.wal.nextLsn < 2 ^ 64) (hseq : s.wal.activeSegmentSeq < 10 ^ 10) :
    (∀ (before after : List WalStep) (k written : Nat) (mid : WalSystem),
        as = before ++ .flushFails k written :: after → (launch w calls).run crc before = some mid →
        ∀ c ∈ s.calls, c.state = .returned → ∀ lsn ∈ c.assigned, lsn < mid.wal.nextLsn) ∧
      ∀ c ∈ s.calls, c.state = .returned → ∀ r ∈ c.enqueued, r ∈ s.wal.readable crc := by
  have hwork : (launch w calls).Working crc seq n old (old.flatten ++ last) w.nextLsn := by
    refine ⟨hw.recorded calls, ?_⟩
    intro lsn hlsn
    have hnil : (launch w calls).wal.acked = [] := hw.acked_nil
    rw [hnil] at hlsn
    cases hlsn
  have hper := Wal.Started.permit (w := w) calls
  have hawaited : s.Awaited := run_invariant Awaited.step (awaited_launch w calls) hrun
  refine ⟨?_, ?_⟩
  · rintro before after k written mid rfl hmid c hc hret lsn hasg
    obtain ⟨hbef, haft⟩ := hguard.append
    rw [run_append, hmid, Option.bind_some] at hrun
    have hmidPermit := hper.run hmid
    obtain ⟨hl, ha⟩ := run_mono hmidPermit hrun
    obtain ⟨next, hstep, hrun⟩ := run_cons hrun
    have hnext := hmidPermit.step hstep
    have hrest := (haft mid hmid).2 next hstep
    obtain ⟨hunbroken, rfl⟩ := step_flushFails hstep
    rcases hwork.run hmid hbef (by omega) (by omega) with hph | ⟨limit, hph⟩
    · have hfrozen := (hph.failFlush k written).run hnext hrun hrest hlsn
      obtain ⟨i, hi⟩ := List.getElem?_of_mem hc
      exact hfrozen.acked_lt lsn (hawaited.returned hi hret lsn hasg)
    · rw [hph.broken] at hunbroken
      cases hunbroken
  · intro c hc hret r hr
    obtain ⟨i, hi⟩ := List.getElem?_of_mem hc
    obtain ⟨lsn, hmem, hts⟩ := Call.mem_enqueued hr
    have hack := hawaited.returned hi hret lsn hmem
    obtain ⟨hcovered, htracked⟩ : s.Covered crc ∧ c.Tracked s.wal.nextLsn := by
      rcases hwork.run hrun hguard hlsn hseq with hph | ⟨limit, hph⟩
      · obtain ⟨_, _, _, hacct⟩ := hph.recorded.kept
        exact ⟨hph.covered, hacct.tracked hi⟩
      · exact ⟨hph.covered, hph.tracked hi⟩
    refine hcovered hi r hr ?_
    have hlt := htracked.below lsn hmem
    rw [hts, UInt64.toNat_ofNat', Nat.mod_eq_of_lt (by omega)]
    exact hack

section

instance RollsUnbroken.decidable (crc : Checksum) :
    ∀ (s : WalSystem) (as : List WalStep), Decidable (RollsUnbroken crc s as)
  | _, [] => isTrue trivial
  | s, a :: as =>
    have := fun s' => RollsUnbroken.decidable crc s' as
    have : Decidable (∀ i createdAt, a = .install i createdAt → s.wal.broken = false) :=
      if hbrk : s.wal.broken = false then isTrue fun _ _ _ => hbrk
      else match a with
        | .install i t => isFalse fun h => hbrk (h i t rfl)
        | .start _ | .drained _ | .acquire _ | .flush _ | .finish _ | .flushFails .. | .reject _
        | .installFails _ => isTrue nofun
    inferInstanceAs (Decidable (_ ∧ ∀ s' ∈ s.step crc a, RollsUnbroken crc s' as))

def rolledSteps : List WalStep :=
  [.start 0, .start 1, .flush 1, .finish 0, .acquire 1, .install 1 0, .flush 1, .finish 1,
    .start 2, .acquire 2, .install 2 0, .flushFails 1 0]

def rolledEnd : Wal :=
  let second := (((tightStart.enqueue tightRecord 0).flush zeroCrc 1).startRollover.installSegment
    zeroCrc 1 2 0).enqueue tightRecord 0
  (((second.flush zeroCrc 1).startRollover.installSegment zeroCrc 2 3 0).enqueue tightRecord
    0).failFlush zeroCrc 1 0

lemma rolled_run : (launch tightStart (List.replicate 3 [tightRecord])).run zeroCrc rolledSteps =
    some ⟨rolledEnd, [⟨[tightRecord], [], [1], [1], .returned⟩,
      ⟨[tightRecord], [], [2], [2], .returned⟩, ⟨[tightRecord], [], [3], [3], .failed⟩]⟩ := rfl

theorem acknowledged_before_failure :
    ∃ s, (launch tightStart (List.replicate 3 [tightRecord])).run zeroCrc rolledSteps = some s ∧
      s.wal.broken = true ∧
      ∀ c ∈ s.calls, c.state = .returned → ∀ r ∈ c.enqueued, r ∈ s.wal.readable zeroCrc :=
  ⟨_, rolled_run, rfl, (broken_wal_stays_broken (Wal.create_started _ _ _ _) rolled_run
    (by decide +kernel) (by decide) (by decide)).2⟩

def mendedSteps : List WalStep :=
  [.start 0] ++ .flushFails 1 0 :: [.start 1, .acquire 1, .install 1 0, .flush 1, .finish 1]

def mendedEnd : Wal :=
  ((((tightStart.enqueue tightRecord 0).failFlush zeroCrc 1 0).startRollover.installSegment zeroCrc 1
    2 0).enqueue tightRecord 0).flush zeroCrc 1

lemma mended_run : (launch tightStart [[tightRecord], [tightRecord]]).run zeroCrc
    mendedSteps = some ⟨mendedEnd,
      [⟨[tightRecord], [], [1], [1], .failed⟩, ⟨[tightRecord], [], [2], [2], .returned⟩]⟩ := rfl

lemma mendedEnd_readable : mendedEnd.readable zeroCrc = [] := by decide +kernel

/-- A flush fails, the next call rolls over and its record is acknowledged, and no reader yields
it. -/
theorem rollover_mends_broken_wal :
    ∃ s mid, (launch tightStart [[tightRecord], [tightRecord]]).run zeroCrc [.start 0] = some mid ∧
      (launch tightStart [[tightRecord], [tightRecord]]).run zeroCrc
        ([.start 0] ++ .flushFails 1 0 :: [.start 1, .acquire 1, .install 1 0, .flush 1,
          .finish 1]) = some s ∧
      ∃ c ∈ s.calls, c.state = .returned ∧ (∃ lsn ∈ c.assigned, mid.wal.nextLsn ≤ lsn) ∧
        ∃ r ∈ c.enqueued, r ∉ s.wal.readable zeroCrc := by
  refine ⟨_, _, rfl, mended_run, ⟨[tightRecord], [], [2], [2], .returned⟩, ?_, rfl, ?_, ?_⟩
  · exact mem_cons_of_mem _ (mem_singleton.mpr rfl)
  · exact ⟨2, mem_singleton.mpr rfl, Nat.le_refl 2⟩
  · refine ⟨_, mem_singleton.mpr rfl, ?_⟩
    rw [mendedEnd_readable]
    exact not_mem_nil
end
end BrainDb
