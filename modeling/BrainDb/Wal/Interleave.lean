import BrainDb.Base.ListSet
import BrainDb.Wal.Append

namespace BrainDb
open ListSet
open List Option Wal

inductive CallState where
  | ready
  | draining (observedSeq : Nat)
  | acquiring (observedSeq : Nat)
  | rolling (newSeq newStartingLsn : Nat)
  | awaiting
  | returned
  | failed
  deriving DecidableEq

structure Call where
  (submitted left : Records)
  (assigned handles : List Nat)
  state : CallState

def Call.start (records : Records) : Call := ⟨records, records, [], [], .ready⟩

def Wal.runLoop (submitted : Records) :
    Wal → List Nat → List Nat → Records → Wal × Call
  | w, assigned, handles, [] => (w, ⟨submitted, [], assigned, handles, .awaiting⟩)
  | w, assigned, handles, r :: rs =>
    match w.admission r with
    | .exceedsLimit => (w, ⟨submitted, r :: rs, assigned, handles, .failed⟩)
    | .needsRollover =>
      -- with no handle to drain the call goes on to the rollover permit
      (w, ⟨submitted, r :: rs, assigned, handles,
        if handles = [] then .acquiring w.activeSegmentSeq else .draining w.activeSegmentSeq⟩)
    | .fits bytes =>
      if r.Fits then
        runLoop submitted (w.enqueue r bytes) (assigned ++ [w.nextLsn]) (handles ++ [w.nextLsn]) rs
      -- encoding such a payload panics and ends the executor: no later step runs
      else (w, ⟨submitted, r :: rs, assigned, handles, .failed⟩)

structure WalSystem where
  wal : Wal
  calls : List Call

inductive WalStep where
  | start (i : Nat)
  | flush (k : Nat)
  | flushFails (k written : Nat)
  | reject (k : Nat)
  | drained (i : Nat)
  | acquire (i : Nat)
  | install (i createdAt : Nat)
  | installFails (i : Nat)
  | finish (i : Nat)

variable {as : List WalStep} {w : Wal} {c : Call} {taken : Records} {crc : Checksum}
  {handles : List Nat} {w' : Wal} {c' : Call}

namespace WalSystem
variable (s : WalSystem)

def resume (w : Wal) (i : Nat) (c : Call) : WalSystem :=
  ⟨(w.runLoop c.submitted c.assigned c.handles c.left).1,
    s.calls.set i (w.runLoop c.submitted c.assigned c.handles c.left).2⟩

def setCall (i : Nat) (c : Call) : WalSystem := { s with calls := s.calls.set i c }

def isRolling : CallState → Bool
  | .rolling .. => true
  | _ => false

def permitFree : Bool := s.calls.all fun c => !isRolling c.state

def failBatch (k : Nat) : List Call :=
  s.calls.map fun c =>
    if ∃ r ∈ s.wal.queue.take k, r.lsn.toNat ∈ c.handles then { c with state := .failed } else c

def step (crc : Checksum) (s : WalSystem) : WalStep → Option WalSystem
  | .start i =>
    match s.calls[i]? with
    | none => none
    | some c => if c.state = .ready then some (s.resume s.wal i c) else none
  | .flush k => if s.wal.broken then none else some { s with wal := s.wal.flush crc k }
  | .flushFails k written =>
    if s.wal.broken ∨ s.wal.queue.take k = [] then none
    else some ⟨s.wal.failFlush crc k written, s.failBatch k⟩
  | .reject k =>
    if s.wal.broken = false ∨ s.wal.queue.take k = [] then none
    else some ⟨s.wal.reject k, s.failBatch k⟩
  | .drained i =>
    match s.calls[i]? with
    | none => none
    | some c =>
      match c.state with
      | .draining observedSeq =>
        if ∀ lsn ∈ c.handles, lsn ∈ s.wal.acked then
          some (s.setCall i { c with handles := [], state := .acquiring observedSeq })
        else none
      | _ => none
  | .acquire i =>
    match s.calls[i]? with
    | none => none
    | some c =>
      match c.state with
      | .acquiring observedSeq =>
        if s.permitFree = false then none
        -- another call has rolled past the segment seen full
        else if s.wal.activeSegmentSeq ≠ observedSeq then some (s.resume s.wal i c)
        else
          match s.wal.segment with
          | .rollingOver => some (s.setCall i { c with state := .failed })
          | .opened _ =>
            some ⟨s.wal.startRollover, s.calls.set i { c with
              state := .rolling (s.wal.activeSegmentSeq + 1) s.wal.nextLsn }⟩
      | _ => none
  | .install i createdAt =>
    match s.calls[i]? with
    | none => none
    | some c =>
      match c.state with
      | .rolling newSeq newStartingLsn =>
        -- the old committer has drained its queue
        if s.wal.queue = [] then
          some (s.resume (s.wal.installSegment crc newSeq newStartingLsn createdAt) i c)
        else none
      | _ => none
  | .installFails i =>
    match s.calls[i]? with
    | none => none
    | some c =>
      if isRolling c.state then some (s.setCall i { c with state := .failed }) else none
  | .finish i =>
    match s.calls[i]? with
    | none => none
    | some c =>
      if c.state = .awaiting ∧ ∀ lsn ∈ c.handles, lsn ∈ s.wal.acked then
        some (s.setCall i { c with state := .returned })
      else none

def launch (w : Wal) (calls : List Records) : WalSystem := ⟨w, calls.map Call.start⟩

def run (crc : Checksum) : WalSystem → List WalStep → Option WalSystem
  | s, [] => some s
  | s, a :: as =>
    match s.step crc a with
    | none => none
    | some s' => run crc s' as

lemma run_append (crc : Checksum) (s : WalSystem) (as bs : List WalStep) :
    s.run crc (as ++ bs) = (s.run crc as).bind fun mid => mid.run crc bs := by
  induction as generalizing s with
  | nil => rfl
  | cons a as ih =>
    simp only [cons_append, run]
    cases s.step crc a with
    | none => rfl
    | some mid => exact ih mid

lemma run_cons {a : WalStep} {s s' : WalSystem} (h : s.run crc (a :: as) = some s') :
    ∃ mid, s.step crc a = some mid ∧ mid.run crc as = some s' := by
  unfold run at h
  split at h
  · cases h
  next mid hstep => exact ⟨mid, hstep, h⟩

lemma run_invariant {I : WalSystem → Prop}
    (hstep : ∀ {s a s'}, I s → s.step crc a = some s' → I s') {s s' : WalSystem} (h : I s)
    (hrun : s.run crc as = some s') : I s' := by
  induction as generalizing s with
  | nil =>
    cases hrun
    exact h
  | cons a as ih =>
    obtain ⟨mid, hs, hrun⟩ := run_cons hrun
    exact ih (hstep h hs) hrun

end WalSystem

def SegmentState.Stocked : SegmentState → Prop
  | .opened b => 0 < b
  | .rollingOver => True

structure LoopSpec (w : Wal) (c : Call) (w' : Wal) (c' : Call) (taken : Records) : Prop where
  left_eq : c.left = taken ++ c'.left
  submitted_eq : c'.submitted = c.submitted
  fits : ∀ r ∈ taken, r.Fits
  nextLsn : w'.nextLsn = w.nextLsn + taken.length
  queue : w'.queue = w.queue ++ stampFrom w.nextLsn taken
  assigned_eq : c'.assigned = c.assigned ++ List.range' w.nextLsn taken.length
  handles_eq : c'.handles = c.handles ++ List.range' w.nextLsn taken.length
  dir : w'.dir = w.dir
  acked : w'.acked = w.acked
  activeSegmentSeq : w'.activeSegmentSeq = w.activeSegmentSeq
  shardUuid : w'.shardUuid = w.shardUuid
  broken : w'.broken = w.broken
  maxSegmentBytes : w'.maxSegmentBytes = w.maxSegmentBytes
  idle : taken = [] → w' = w
  admitted : ∀ r rest, taken = r :: rest → ∃ bytes, w.admission r = .fits bytes
  grows : taken ≠ [] → ∃ b b', w.segment = .opened b ∧ w'.segment = .opened b' ∧ b < b'
  state : c'.state = .failed ∨ (c'.left = [] ∧ c'.state = .awaiting) ∨
    (c'.left ≠ [] ∧ (c'.state = .acquiring w.activeSegmentSeq ∨
      c'.state = .draining w.activeSegmentSeq) ∧ w'.segment.Stocked)

open LoopSpec

lemma LoopSpec.installed {crc : Checksum} {q l t : Nat}
    (h : LoopSpec (w.installSegment crc q l t) c w' c' taken) (hlsn : w'.nextLsn < 2 ^ 64)
    (hseq : w'.activeSegmentSeq < 10 ^ 10) : q < 10 ^ 10 ∧ w.nextLsn < 2 ^ 64 := by
  have hact : _ = q := h.activeSegmentSeq
  have hnext : _ = w.nextLsn + taken.length := h.nextLsn
  omega

lemma LoopSpec.stop {submitted left : Records} {assigned : List Nat}
    {state state' : CallState} (h : state' = .failed ∨ (left = [] ∧ state' = .awaiting) ∨
      (left ≠ [] ∧ (state' = .acquiring w.activeSegmentSeq ∨
        state' = .draining w.activeSegmentSeq) ∧ w.segment.Stocked)) :
    LoopSpec w ⟨submitted, left, assigned, handles, state⟩ w
      ⟨submitted, left, assigned, handles, state'⟩ [] :=
  ⟨rfl, rfl, by simp, rfl, by simp [stampFrom], by simp, by simp, rfl, rfl, rfl, rfl, rfl, rfl,
    fun _ => rfl, by simp, fun hne => absurd rfl hne, h⟩

lemma Wal.stocked_of_needsRollover {r : WalRecord} (h : w.admission r = .needsRollover) :
    w.segment.Stocked := by
  simp only [admission] at h
  split at h
  · cases h
  next hfits =>
    cases hseg : w.segment with
    | rollingOver => trivial
    | opened b =>
      simp only [hseg] at h
      split at h
      · show 0 < b
        omega
      · cases h

lemma Wal.opened_of_fits {r : WalRecord} {bytes : Nat} (h : w.admission r = .fits bytes) :
    w.segment = .opened bytes := by
  simp only [admission] at h
  split at h
  · cases h
  · split at h
    · cases h
    · split at h
      · cases h
      · cases h
        assumption

lemma Wal.runLoop_spec (w : Wal) (c : Call) :
    ∃ taken, LoopSpec w c (w.runLoop c.submitted c.assigned c.handles c.left).1
      (w.runLoop c.submitted c.assigned c.handles c.left).2 taken := by
  obtain ⟨submitted, left, assigned, handles, state⟩ := c
  induction left generalizing w assigned handles with
  | nil => exact ⟨[], stop (.inr (.inl ⟨rfl, rfl⟩))⟩
  | cons r rs ih =>
    cases hadmit : w.admission r with
    | exceedsLimit =>
      simp only [runLoop, hadmit]
      exact ⟨[], stop (.inl rfl)⟩
    | needsRollover =>
      simp only [runLoop, hadmit]
      refine ⟨[], stop (.inr (.inr ⟨cons_ne_nil r rs, ?_, stocked_of_needsRollover hadmit⟩))⟩
      by_cases hh : handles = []
      · exact .inl (if_pos hh)
      · exact .inr (if_neg hh)
    | fits bytes =>
      by_cases hfits : r.Fits
      · simp only [runLoop, hadmit, if_pos hfits]
        obtain ⟨taken, h⟩ := ih (w.enqueue r bytes) (assigned ++ [w.nextLsn]) (handles ++ [w.nextLsn])
        refine ⟨r :: taken, ?_, h.submitted_eq, ?_, ?_, ?_, ?_, ?_, h.dir, h.acked,
          h.activeSegmentSeq, h.shardUuid, h.broken, h.maxSegmentBytes, ?_, ?_, ?_, h.state⟩
        · exact congrArg (r :: ·) h.left_eq
        · intro s hs
          rcases mem_cons.mp hs with rfl | hs
          · exact hfits
          · exact h.fits s hs
        · rw [h.nextLsn]
          simp only [enqueue, length_cons]
          omega
        · rw [h.queue]
          simp only [enqueue, stamped, stampFrom, append_assoc, singleton_append]
        · rw [h.assigned_eq]
          simp only [enqueue, length_cons, List.range'_succ, append_assoc, singleton_append]
        · rw [h.handles_eq]
          simp only [enqueue, length_cons, List.range'_succ, append_assoc, singleton_append]
        · intro hnil
          cases hnil
        · intro s rest hs
          cases hs
          exact ⟨bytes, hadmit⟩
        · intro _
          have hpos := r.encodedLen_pos
          refine ⟨bytes, ?_⟩
          by_cases hidle : taken = []
          · rw [h.idle hidle]
            exact ⟨_, opened_of_fits hadmit, rfl, by omega⟩
          · obtain ⟨b, b', hb, hb', hlt⟩ := h.grows hidle
            cases hb
            exact ⟨b', opened_of_fits hadmit, hb', by omega⟩
      · simp only [runLoop, hadmit, if_neg hfits]
        exact ⟨[], stop (.inl rfl)⟩

lemma length_stampFrom (n : Nat) (rs : Records) : (stampFrom n rs).length = rs.length := by
  induction rs generalizing n with
  | nil => rfl
  | cons r rs ih => simp only [stampFrom, length_cons, ih]

lemma stampFrom_isLog {n : Nat} {rs : Records} (hlsn : n + rs.length ≤ 2 ^ 64)
    (hfits : ∀ r ∈ rs, r.Fits) : IsLog n (stampFrom n rs) := by
  induction rs generalizing n with
  | nil => exact IsLog.nil n
  | cons r rs ih =>
    simp only [length_cons] at hlsn
    have hrest := ih (n := n + 1) (by omega) fun s hs => hfits s (mem_cons_of_mem r hs)
    have hts : (UInt64.ofNat n).toNat = n := by
      rw [UInt64.toNat_ofNat', Nat.mod_eq_of_lt (by omega)]
    refine ⟨⟨hts, hrest.numbered⟩, ?_⟩
    intro s hs
    rcases mem_cons.mp hs with rfl | hs
    · exact hfits r mem_cons_self
    · exact hrest.fits s hs

lemma LoopSpec.holdsLog (h : LoopSpec w c w' c' taken) {seq n : Nat} {log : Records}
    (hw : w.HoldsLog crc seq n log) (hlsn : w'.nextLsn ≤ 2 ^ 64) :
    w'.HoldsLog crc seq n (log ++ stampFrom w.nextLsn taken) := by
  obtain ⟨chunks, hdir, hlog⟩ := hw.stored
  rw [h.nextLsn] at hlsn
  refine ⟨⟨chunks, ?_, ?_⟩, ?_, ?_, ?_, ?_⟩
  · rw [h.dir, h.shardUuid]
    exact hdir
  · rw [hlog, h.queue, append_assoc]
  · rw [h.activeSegmentSeq, h.dir]
    exact hw.active
  · rw [h.dir]
    exact hw.nonempty
  · refine isLog_append.mpr ⟨hw.isLog, ?_⟩
    rw [← hw.nextLsn_eq]
    exact stampFrom_isLog hlsn h.fits
  · rw [h.nextLsn, hw.nextLsn_eq, length_append, length_stampFrom, Nat.add_assoc]

namespace WalSystem

inductive Move (crc : Checksum) (s : WalSystem) : WalStep → WalSystem → Prop
  | resume {a : WalStep} {i : Nat} {c : Call} : s.calls[i]? = some c →
      (a = .start i ∧ c.state = .ready ∨ a = .acquire i ∧ ∃ q, c.state = .acquiring q) →
      Move crc s a (s.resume s.wal i c)
  | install {i q l createdAt : Nat} {c : Call} : s.calls[i]? = some c → c.state = .rolling q l →
      s.wal.queue = [] →
      Move crc s (.install i createdAt) (s.resume (s.wal.installSegment crc q l createdAt) i c)
  | flush {k : Nat} : s.wal.broken = false →
      Move crc s (.flush k) { s with wal := s.wal.flush crc k }
  | settle {a : WalStep} {i : Nat} {c : Call} {handles : List Nat} {state : CallState} :
      s.calls[i]? = some c → (∀ lsn ∈ c.handles, lsn ∈ s.wal.acked) →
      ((∃ q, c.state = .draining q ∧ state = .acquiring q) ∨
        (c.state = .awaiting ∧ state = .returned)) →
      Move crc s a (s.setCall i { c with handles := handles, state := state })
  | rollover {i q : Nat} {c : Call} : s.calls[i]? = some c → c.state = .acquiring q →
      s.permitFree = true → q = s.wal.activeSegmentSeq → (∃ b, s.wal.segment = .opened b) →
      Move crc s (.acquire i) ⟨s.wal.startRollover, s.calls.set i { c with
        state := .rolling (s.wal.activeSegmentSeq + 1) s.wal.nextLsn }⟩

inductive Failure (crc : Checksum) (s : WalSystem) : WalStep → WalSystem → Prop
  | flush {k written : Nat} : s.wal.broken = false → s.wal.queue.take k ≠ [] →
      Failure crc s (.flushFails k written) ⟨s.wal.failFlush crc k written, s.failBatch k⟩
  | reject {k : Nat} : s.wal.broken = true → s.wal.queue.take k ≠ [] →
      Failure crc s (.reject k) ⟨s.wal.reject k, s.failBatch k⟩
  | call {a : WalStep} {i : Nat} {c : Call} : s.calls[i]? = some c →
      (a = .installFails i ∨ a = .acquire i ∧ s.permitFree = true ∧ s.wal.segment = .rollingOver) →
      Failure crc s a (s.setCall i { c with state := .failed })

variable {s s' : WalSystem} {a : WalStep}

lemma step_cases (h : s.step crc a = some s') : Move crc s a s' ∨ Failure crc s a s' := by
  cases a with
  | start i =>
    cases hc : s.calls[i]? with
    | none => simp [step, hc] at h
    | some c =>
      simp only [step, hc, ite_none_right_eq_some, Option.some.injEq] at h
      obtain ⟨hready, rfl⟩ := h
      exact .inl (Move.resume hc (.inl ⟨rfl, hready⟩))
  | flush k =>
    simp only [step, ite_none_left_eq_some, Option.some.injEq, Bool.not_eq_true] at h
    obtain ⟨hbrk, rfl⟩ := h
    exact .inl (Move.flush hbrk)
  | flushFails k written =>
    simp only [step, ite_none_left_eq_some, Option.some.injEq, not_or, Bool.not_eq_true] at h
    obtain ⟨⟨hbrk, hne⟩, rfl⟩ := h
    exact .inr (Failure.flush hbrk hne)
  | reject k =>
    simp only [step, ite_none_left_eq_some, Option.some.injEq, not_or, Bool.not_eq_false] at h
    obtain ⟨⟨hbrk, hne⟩, rfl⟩ := h
    exact .inr (Failure.reject hbrk hne)
  | drained i =>
    cases hc : s.calls[i]? with
    | none => simp [step, hc] at h
    | some c =>
      simp only [step, hc] at h
      split at h
      next q hst =>
        simp only [ite_none_right_eq_some, Option.some.injEq] at h
        obtain ⟨hack, rfl⟩ := h
        exact .inl (Move.settle hc hack (.inl ⟨q, hst, rfl⟩))
      · cases h
  | acquire i =>
    cases hc : s.calls[i]? with
    | none => simp [step, hc] at h
    | some c =>
      simp only [step, hc] at h
      split at h
      next q hst =>
        simp only [ite_none_left_eq_some] at h
        obtain ⟨hper, h⟩ := h
        rw [Bool.not_eq_false] at hper
        split at h
        · cases h
          exact .inl (Move.resume hc (.inr ⟨rfl, q, hst⟩))
        next hseq =>
          split at h
          next hslot =>
            cases h
            exact .inr (Failure.call hc (.inr ⟨rfl, hper, hslot⟩))
          next b hslot =>
            cases h
            exact .inl (Move.rollover hc hst hper (not_not.mp hseq).symm ⟨b, hslot⟩)
      · cases h
  | install i createdAt =>
    cases hc : s.calls[i]? with
    | none => simp [step, hc] at h
    | some c =>
      simp only [step, hc] at h
      split at h
      next q l hst =>
        simp only [ite_none_right_eq_some, Option.some.injEq] at h
        obtain ⟨hqueue, rfl⟩ := h
        exact .inl (Move.install hc hst hqueue)
      · cases h
  | installFails i =>
    cases hc : s.calls[i]? with
    | none => simp [step, hc] at h
    | some c =>
      simp only [step, hc, ite_none_right_eq_some, Option.some.injEq] at h
      obtain ⟨_, rfl⟩ := h
      exact .inr (Failure.call hc (.inl rfl))
  | finish i =>
    cases hc : s.calls[i]? with
    | none => simp [step, hc] at h
    | some c =>
      simp only [step, hc, ite_none_right_eq_some, Option.some.injEq] at h
      obtain ⟨⟨hst, hack⟩, rfl⟩ := h
      exact .inl (Move.settle hc hack (.inr ⟨hst, rfl⟩))

def SomeFailed (s : WalSystem) : Prop :=
  ∃ (i : Nat) (c : Call), s.calls[i]? = some c ∧ c.state = .failed

def Owned (s : WalSystem) : Prop :=
  ∀ r ∈ s.wal.queue, ∃ (i : Nat) (c : Call),
    s.calls[i]? = some c ∧ r.lsn.toNat ∈ c.handles ∧ c.state ≠ .returned

lemma failBatch_someFailed (howned : s.Owned) {k : Nat} (hne : s.wal.queue.take k ≠ []) (w : Wal) :
    SomeFailed ⟨w, s.failBatch k⟩ := by
  obtain ⟨r, hr⟩ := exists_mem_of_ne_nil _ hne
  obtain ⟨i, c, hc, hmem, _⟩ := howned r (mem_of_mem_take hr)
  refine ⟨i, { c with state := .failed }, ?_, rfl⟩
  have hfails : ∃ r ∈ s.wal.queue.take k, r.lsn.toNat ∈ c.handles := ⟨r, hr, hmem⟩
  simp only [failBatch, List.getElem?_map, hc, map_some, if_pos hfails]

lemma Failure.someFailed (howned : s.Owned) (h : Failure crc s a s') : s'.SomeFailed := by
  cases h with
  | flush _ hne => exact failBatch_someFailed howned hne _
  | reject _ hne => exact failBatch_someFailed howned hne _
  | call hc _ => exact ⟨_, _, getElem?_set_self hc _, rfl⟩

lemma getElem?_failBatch {k j : Nat} {d : Call} (h : (s.failBatch k)[j]? = some d) :
    ∃ c, s.calls[j]? = some c ∧ (d = c ∨ d = { c with state := .failed }) := by
  simp only [failBatch, List.getElem?_map, map_eq_some_iff] at h
  obtain ⟨c, hc, rfl⟩ := h
  refine ⟨c, hc, ?_⟩
  split
  · exact .inr rfl
  · exact .inl rfl

lemma failBatch_failed {j : Nat} {d : Call} (hd : s.calls[j]? = some d) (hs : d.state = .failed)
    (k : Nat) (w : Wal) : SomeFailed ⟨w, s.failBatch k⟩ := by
  refine ⟨j, if ∃ r ∈ s.wal.queue.take k, r.lsn.toNat ∈ d.handles then { d with state := .failed }
    else d, ?_, ?_⟩
  · simp only [failBatch, List.getElem?_map, hd, map_some]
  · split
    · rfl
    · exact hs

lemma step_someFailed (hf : s.SomeFailed) (h : s.step crc a = some s') : s'.SomeFailed := by
  obtain ⟨j, d, hd, hst⟩ := hf
  have hoth : ∀ {i : Nat} {c e : Call}, s.calls[i]? = some c → c.state ≠ .failed →
      (s.calls.set i e)[j]? = some d := by
    intro i c e hc hne
    refine getElem?_set_other ?_ hd e
    rintro rfl
    rw [hd] at hc
    cases hc
    exact hne hst
  rcases step_cases h with hmove | hfail
  · cases hmove with
    | resume hc hs =>
      refine ⟨j, d, hoth hc ?_, hst⟩
      rcases hs with ⟨_, hs⟩ | ⟨_, q, hs⟩ <;> simp [hs]
    | install hc hs _ => exact ⟨j, d, hoth hc (by simp [hs]), hst⟩
    | flush _ => exact ⟨j, d, hd, hst⟩
    | settle hc _ hs =>
      refine ⟨j, d, hoth hc ?_, hst⟩
      rcases hs with ⟨q, hs, _⟩ | ⟨hs, _⟩ <;> simp [hs]
    | rollover hc hs _ _ _ => exact ⟨j, d, hoth hc (by simp [hs]), hst⟩
  · cases hfail with
    | flush _ _ | reject _ _ => exact failBatch_failed hd hst _ _
    | @call _ i c hc _ =>
      by_cases hij : j = i
      · subst hij
        exact ⟨j, _, getElem?_set_self hc _, rfl⟩
      · exact ⟨j, d, getElem?_set_other hij hd _, hst⟩

structure Permit (s : WalSystem) : Prop where
  rolling : ∀ {i q l : Nat} {c : Call}, s.calls[i]? = some c → c.state = .rolling q l →
    s.wal.segment = .rollingOver ∧ q = s.wal.activeSegmentSeq + 1 ∧ l = s.wal.nextLsn
  unique : ∀ {i j q l q' l' : Nat} {c d : Call}, s.calls[i]? = some c → s.calls[j]? = some d →
    c.state = .rolling q l → d.state = .rolling q' l' → i = j

lemma Permit.of_frame (h : s.Permit) (hwal : s'.wal.segment = s.wal.segment ∧
      s'.wal.activeSegmentSeq = s.wal.activeSegmentSeq ∧ s'.wal.nextLsn = s.wal.nextLsn)
    (hcalls : ∀ {i q l : Nat} {c : Call}, s'.calls[i]? = some c → c.state = .rolling q l →
      s.calls[i]? = some c) : s'.Permit := by
  refine ⟨?_, ?_⟩
  · intro i q l c hc hs
    rw [hwal.1, hwal.2.1, hwal.2.2]
    exact h.rolling (hcalls hc hs) hs
  · intro i j q l q' l' c d hc hd hs hs'
    exact h.unique (hcalls hc hs) (hcalls hd hs') hs hs'

lemma loop_not_rolling (h : LoopSpec w c w' c' taken) (q l : Nat) : c'.state ≠ .rolling q l := by
  rcases h.state with hs | ⟨_, hs⟩ | ⟨_, hs | hs, _⟩
  all_goals
    rw [hs]
    intro hne
    cases hne

lemma Permit.move (h : s.Permit) (hm : Move crc s a s') : s'.Permit := by
  cases hm with
  | @resume _ i c hc _ =>
    obtain ⟨taken, hspec⟩ := s.wal.runLoop_spec c
    have hoth : ∀ {j q l : Nat} {d : Call}, (s.resume s.wal i c).calls[j]? = some d →
        d.state = .rolling q l → s.calls[j]? = some d := by
      intro j q l d hd hs
      rcases getElem?_set_some hd with ⟨_, rfl⟩ | ⟨_, hd⟩
      · exact absurd hs (loop_not_rolling hspec q l)
      · exact hd
    refine ⟨?_, ?_⟩
    · intro j q l d hd hs
      have hroll := h.rolling (hoth hd hs) hs
      -- a slot that is mid-rollover admits nothing, so the loop left the WAL alone
      have hidle : taken = [] := by
        by_contra hne
        obtain ⟨b, _, hopened, _⟩ := hspec.grows hne
        rw [hroll.1] at hopened
        cases hopened
      have hwal : (s.resume s.wal i c).wal = s.wal := hspec.idle hidle
      rw [hwal]
      exact hroll
    · intro j k q l q' l' d e hd he hs hs'
      exact h.unique (hoth hd hs) (hoth he hs') hs hs'
  | @install i q l t c hc hst _ =>
    obtain ⟨taken, hspec⟩ := (s.wal.installSegment crc q l t).runLoop_spec c
    have hnone : ∀ {j q' l' : Nat} {d : Call},
        (s.resume (s.wal.installSegment crc q l t) i c).calls[j]? = some d →
        d.state ≠ .rolling q' l' := by
      intro j q' l' d hd hs
      rcases getElem?_set_some hd with ⟨_, rfl⟩ | ⟨hji, hd⟩
      · exact loop_not_rolling hspec q' l' hs
      · exact hji (h.unique hd hc hs hst)
    exact ⟨fun hd hs => absurd hs (hnone hd), fun hd _ hs _ => absurd hs (hnone hd)⟩
  | flush _ => exact h.of_frame ⟨rfl, rfl, rfl⟩ fun hc _ => hc
  | @settle _ i c handles state hc _ hst =>
    refine h.of_frame ⟨rfl, rfl, rfl⟩ ?_
    intro j q l d hd hs
    rcases getElem?_set_some hd with ⟨_, rfl⟩ | ⟨_, hd⟩
    · rcases hst with ⟨_, _, rfl⟩ | ⟨_, rfl⟩ <;> cases hs
    · exact hd
  | @rollover i q c hc hst hper _ _ =>
    have hnone : ∀ {j q' l' : Nat} {d : Call}, s.calls[j]? = some d → d.state ≠ .rolling q' l' := by
      intro j q' l' d hd hs
      have hfree := List.all_eq_true.mp hper d (mem_of_getElem? hd)
      simp [isRolling, hs] at hfree
    have hself : ∀ {j q' l' : Nat} {d : Call},
        (s.calls.set i { c with state := .rolling (s.wal.activeSegmentSeq + 1) s.wal.nextLsn })[j]? =
          some d → d.state = .rolling q' l' →
        j = i ∧ q' = s.wal.activeSegmentSeq + 1 ∧ l' = s.wal.nextLsn := by
      intro j q' l' d hd hs
      rcases getElem?_set_some hd with ⟨rfl, rfl⟩ | ⟨_, hd⟩
      · cases hs
        exact ⟨rfl, rfl, rfl⟩
      · exact absurd hs (hnone hd)
    refine ⟨?_, ?_⟩
    · intro j q' l' d hd hs
      obtain ⟨_, hq, hl⟩ := hself hd hs
      exact ⟨rfl, hq, hl⟩
    · intro j k q₁ l₁ q₂ l₂ d e hd he hs hs'
      rw [(hself hd hs).1, (hself he hs').1]

variable {i : Nat}

lemma failBatch_rolling {k q l : Nat} (hc : (s.failBatch k)[i]? = some c)
    (hs : c.state = .rolling q l) : s.calls[i]? = some c := by
  obtain ⟨d, hd, rfl | rfl⟩ := getElem?_failBatch hc
  · exact hd
  · cases hs

lemma Permit.failure (h : s.Permit) (hf : Failure crc s a s') : s'.Permit := by
  cases hf with
  | flush _ _ | reject _ _ => exact h.of_frame ⟨rfl, rfl, rfl⟩ failBatch_rolling
  | call hc _ =>
    refine h.of_frame ⟨rfl, rfl, rfl⟩ ?_
    intro j q l d hd hs
    rcases getElem?_set_some hd with ⟨_, rfl⟩ | ⟨_, hd⟩
    · cases hs
    · exact hd

lemma Permit.step (h : s.Permit) (hs : s.step crc a = some s') : s'.Permit :=
  (step_cases hs).elim h.move h.failure

lemma Permit.run (h : s.Permit) (hs : s.run crc as = some s') : s'.Permit :=
  run_invariant Permit.step h hs

lemma step_mono (h : s.Permit) (hs : s.step crc a = some s') :
    s.wal.nextLsn ≤ s'.wal.nextLsn ∧ s.wal.activeSegmentSeq ≤ s'.wal.activeSegmentSeq := by
  rcases step_cases hs with hmove | hfail
  · cases hmove with
    | @resume _ i c hc _ =>
      obtain ⟨taken, hspec⟩ := s.wal.runLoop_spec c
      exact ⟨hspec.nextLsn ▸ Nat.le_add_right _ _, hspec.activeSegmentSeq.ge⟩
    | @install i q l t c hc hst _ =>
      obtain ⟨taken, hspec⟩ := (s.wal.installSegment crc q l t).runLoop_spec c
      obtain ⟨_, rfl, _⟩ := h.rolling hc hst
      refine ⟨hspec.nextLsn ▸ Nat.le_add_right _ _, ?_⟩
      have hact : _ = s.wal.activeSegmentSeq + 1 := hspec.activeSegmentSeq
      exact (Nat.le_succ _).trans hact.ge
    | flush _ => exact ⟨le_rfl, le_rfl⟩
    | settle _ _ _ => exact ⟨le_rfl, le_rfl⟩
    | rollover _ _ _ _ _ => exact ⟨le_rfl, le_rfl⟩
  · cases hfail <;> exact ⟨le_rfl, le_rfl⟩

lemma run_mono (h : s.Permit) (hs : s.run crc as = some s') :
    s.wal.nextLsn ≤ s'.wal.nextLsn ∧ s.wal.activeSegmentSeq ≤ s'.wal.activeSegmentSeq := by
  induction as generalizing s with
  | nil =>
    cases hs
    exact ⟨le_rfl, le_rfl⟩
  | cons a as ih =>
    obtain ⟨mid, hstep, hs⟩ := run_cons hs
    obtain ⟨hl, ha⟩ := step_mono h hstep
    obtain ⟨hl', ha'⟩ := ih (h.step hstep) hs
    exact ⟨hl.trans hl', ha.trans ha'⟩

structure Stored (crc : Checksum) (seq n : Nat) (s : WalSystem) (log : Records) :
    Prop where
  holds : s.wal.HoldsLog crc seq n log
  acked_lt : ∀ a ∈ s.wal.acked, a + s.wal.queue.length < s.wal.nextLsn
  owned : s.Owned

variable {seq n : Nat} {log : Records}

lemma queue_bounds (h : w.HoldsLog crc seq n log) :
    Numbered.From (fun r : WalRecord => r.lsn.toNat) (w.nextLsn - w.queue.length) w.queue ∧
      w.queue.length ≤ w.nextLsn := by
  obtain ⟨chunks, _, hlog⟩ := h.stored
  have hnum := h.isLog.numbered
  rw [hlog] at hnum
  have hlen : log.length = chunks.flatten.length + w.queue.length := by
    rw [hlog, length_append]
  have hnext := h.nextLsn_eq
  have hbeg : w.nextLsn - w.queue.length = n + chunks.flatten.length := by omega
  rw [hbeg]
  exact ⟨(Numbered.from_append.mp hnum).2, by omega⟩

lemma Stored.loop (h : s.Stored crc seq n log) (hc : s.calls[i]? = some c)
    (hspec : LoopSpec w c w' c' taken) (hw : w.HoldsLog crc seq n log)
    (hack : w.acked = s.wal.acked) (hqueue : w.queue = s.wal.queue)
    (hnext : w.nextLsn = s.wal.nextLsn) (hlsn : w'.nextLsn ≤ 2 ^ 64) :
    Stored crc seq n ⟨w', s.calls.set i c'⟩ (log ++ stampFrom w.nextLsn taken) := by
  refine ⟨hspec.holdsLog hw hlsn, ?_, ?_⟩
  · intro a ha
    rw [hspec.acked, hack] at ha
    have hlt := h.acked_lt a ha
    simp only [hspec.queue, hspec.nextLsn, length_append, length_stampFrom, hqueue, hnext]
    omega
  · intro r hr
    simp only [hspec.queue, mem_append, hqueue] at hr
    rcases hr with hr | hr
    · obtain ⟨j, d, hd, hmem, hst⟩ := h.owned r hr
      by_cases hji : j = i
      · subst hji
        rw [hc] at hd
        cases hd
        refine ⟨j, c', getElem?_set_self hc c', ?_, ?_⟩
        · rw [hspec.handles_eq]
          exact mem_append_left _ hmem
        · rcases hspec.state with hs | ⟨_, hs⟩ | ⟨_, hs | hs, _⟩ <;> simp [hs]
      · exact ⟨j, d, getElem?_set_other hji hd c', hmem, hst⟩
    · refine ⟨i, c', getElem?_set_self hc c', ?_, ?_⟩
      · have hlog := stampFrom_isLog (hspec.nextLsn ▸ hlsn) hspec.fits
        have hb := hlog.numbered.bounds r hr
        rw [length_stampFrom] at hb
        rw [hspec.handles_eq]
        exact mem_append_right _ (mem_range'_1.mpr hb)
      · rcases hspec.state with hs | ⟨_, hs⟩ | ⟨_, hs | hs, _⟩ <;> simp [hs]

lemma acked_flush (h : w.HoldsLog crc seq n log)
    (hack : ∀ a ∈ w.acked, a + w.queue.length < w.nextLsn) (k : Nat) :
    ∀ a ∈ (w.flush crc k).acked, a + (w.flush crc k).queue.length < w.nextLsn := by
  obtain ⟨hnum, hle⟩ := queue_bounds h
  rw [← take_append_drop k w.queue] at hnum
  have htake := (Numbered.from_append.mp hnum).1
  have hcut : (w.queue.take k).length + (w.queue.drop k).length = w.queue.length := by
    rw [← length_append, take_append_drop]
  intro a ha
  simp only [flush, mem_append, List.mem_map] at ha ⊢
  rcases ha with ha | ⟨r, hr, rfl⟩
  · have hlt := hack a ha
    omega
  · have hb := htake.bounds r hr
    rw [take_append_drop] at hb
    omega

lemma Stored.flush (h : s.Stored crc seq n log) (k : Nat) :
    Stored crc seq n { s with wal := s.wal.flush crc k } log :=
  ⟨h.holds.flush k, acked_flush h.holds h.acked_lt k,
    fun r hr => h.owned r (mem_of_mem_drop hr)⟩

lemma Stored.settle (h : s.Stored crc seq n log) {state : CallState} (hc : s.calls[i]? = some c)
    (hack : ∀ lsn ∈ c.handles, lsn ∈ s.wal.acked) :
    Stored crc seq n (s.setCall i { c with handles := handles, state := state }) log := by
  refine ⟨h.holds, h.acked_lt, ?_⟩
  intro r hr
  obtain ⟨j, d, hd, hmem, hst⟩ := h.owned r hr
  by_cases hji : j = i
  · subst hji
    rw [hc] at hd
    cases hd
    have hlt := h.acked_lt _ (hack _ hmem)
    have hb := (queue_bounds h.holds).1.bounds r hr
    omega
  · exact ⟨j, d, getElem?_set_other hji hd _, hmem, hst⟩

lemma Stored.rollover (h : s.Stored crc seq n log) {q l : Nat} (hc : s.calls[i]? = some c) :
    Stored crc seq n ⟨s.wal.startRollover, s.calls.set i { c with state := .rolling q l }⟩ log := by
  refine ⟨h.holds.startRollover, h.acked_lt, ?_⟩
  intro r hr
  obtain ⟨j, d, hd, hmem, hst⟩ := h.owned r hr
  by_cases hji : j = i
  · subst hji
    rw [hc] at hd
    cases hd
    exact ⟨j, _, getElem?_set_self hc _, hmem, by simp⟩
  · exact ⟨j, d, getElem?_set_other hji hd _, hmem, hst⟩

end WalSystem
end BrainDb
