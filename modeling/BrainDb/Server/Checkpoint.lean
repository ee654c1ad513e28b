import BrainDb.Base.Tickets
import BrainDb.Wal.Assignment

namespace BrainDb
open ListSet Function
open List Option WalSystem Tickets Call Step Nat

inductive SubmitState where
  | ready
  | queued
  | durable
  | committed
  | refused
  deriving DecidableEq

structure Submission where
  records : Records
  call : Option Nat
  state : SubmitState

def Submission.resolved (t : Submission) : Bool := t.state = .committed || t.state = .refused

inductive SnapshotState where
  | ready
  | beginning (checkpointId call : Nat)
  | ending (checkpointId durableLsn call : Nat)
  | failed

structure ShardTasks where
  wal : WalSystem
  submits : List Submission
  channel : List Nat
  draining : Option Nat
  (watermark nextCheckpointId : Nat)
  snapshots : List SnapshotState

inductive TaskStep where
  | send (i : Nat)
  | receive
  | wal (a : WalStep)
  | reply
  | apply (i : Nat) (accepted : Bool)
  | snapshotBegin (j startedAt : Nat)
  | snapshotEnd (j now : Nat) (arenaCapacity : Option Nat)

def checkpointRecord (timestampNs : Nat) (p : WalPayload Bytes) : WalRecord :=
  { lsn := 0, kind := p.kind, flags := 0, timestampNs := UInt64.ofNat timestampNs,
    spaceIdLo64 := 0, payload := p.encode fun _ bytes => bytes }

namespace WalSystem
variable (s : WalSystem)

def spawn (records : Records) : WalSystem :=
  resume ⟨s.wal, s.calls ++ [start records]⟩ s.wal s.calls.length (start records)

def callState (k : Nat) : Option CallState := s.calls[k]?.map state

def assignedTo (k : Nat) : List Nat :=
  match s.calls[k]? with
  | none => []
  | some c => c.assigned

def lsnsOf (t : Submission) : List Nat :=
  match t.call with
  | none => []
  | some k => s.assignedTo k

end WalSystem

variable (w : Wal)

namespace ShardTasks

def setSubmit (s : ShardTasks) (i : Nat) (t : Submission) : ShardTasks :=
  { s with submits := s.submits.set i t }

def step (crc : Checksum) (s : ShardTasks) : TaskStep → Option ShardTasks
  | .send i =>
    match s.submits[i]? with
    | none => none
    | some t =>
      if t.state = .ready ∧ t.records ≠ [] then
        some { s.setSubmit i { t with state := .queued } with channel := s.channel ++ [i] }
      else none
  | .receive =>
    match s.draining, s.channel with
    | none, i :: rest =>
      match s.submits[i]? with
      | none => none
      | some t =>
        some { s.setSubmit i { t with call := some s.wal.calls.length } with
          wal := s.wal.spawn t.records, channel := rest, draining := some i }
    | _, _ => none
  | .wal a => (s.wal.step crc a).map fun w => { s with wal := w }
  | .reply =>
    match s.draining with
    | none => none
    | some i =>
      match s.submits[i]? with
      | none => none
      | some t =>
        match t.call.bind s.wal.callState with
        | some .returned =>
          some { s.setSubmit i { t with state := .durable } with draining := none }
        | some .failed => some { s.setSubmit i { t with state := .refused } with draining := none }
        | _ => none
  | .apply i accepted =>
    -- from the answer of the WAL to the return no await is left
    match s.submits[i]? with
    | none => none
    | some t =>
      if t.state = .durable ∨ (t.state = .ready ∧ t.records = []) then
        if accepted then
          some { s.setSubmit i { t with state := .committed } with
            watermark :=
              match (s.wal.lsnsOf t).getLast? with
              | none => s.watermark
              | some last => max s.watermark last }
        else some (s.setSubmit i { t with state := .refused })
      else none
  | .snapshotBegin j startedAt =>
    match s.snapshots[j]? with
    | some .ready =>
      some { s with
        wal := s.wal.spawn [checkpointRecord startedAt
          (.checkpointBegin (UInt64.ofNat s.nextCheckpointId) (UInt64.ofNat startedAt))]
        nextCheckpointId := s.nextCheckpointId + 1
        snapshots := s.snapshots.set j (.beginning s.nextCheckpointId s.wal.calls.length) }
    | _ => none
  | .snapshotEnd j now arenaCapacity =>
    match s.snapshots[j]? with
    | some (.beginning checkpointId call) =>
      match s.wal.callState call, arenaCapacity with
      | some .returned, some capacity =>
        -- `target_lsn_hint` and the watermark are read with no await in between
        let durableLsn := min s.watermark (s.wal.wal.nextLsn - 1)
        some { s with
          wal := s.wal.spawn [checkpointRecord now (.checkpointEnd (UInt64.ofNat checkpointId)
            (UInt64.ofNat durableLsn) (UInt64.ofNat capacity))]
          snapshots := s.snapshots.set j (.ending checkpointId durableLsn s.wal.calls.length) }
      | some .returned, none => some { s with snapshots := s.snapshots.set j .failed }
      | some .failed, _ => some { s with snapshots := s.snapshots.set j .failed }
      | _, _ => none
    | _ => none

def run (crc : Checksum) : ShardTasks → List TaskStep → Option ShardTasks
  | s, [] => some s
  | s, a :: as =>
    match s.step crc a with
    | none => none
    | some s' => run crc s' as

def start (writes : List Records) (nextCheckpointId snapshots : Nat) : ShardTasks :=
  ⟨⟨w, []⟩, writes.map fun rs => ⟨rs, none, .ready⟩, [], none, w.nextLsn - 1, nextCheckpointId,
    List.replicate snapshots .ready⟩

def CommitsInOrder (s : ShardTasks) : TaskStep → Prop
  | .apply i true => ∀ t ∈ s.submits[i]?, ∀ last ∈ (s.wal.lsnsOf t).getLast?,
      ∀ j : Nat, j ≠ i → ∀ u ∈ s.submits[j]?, ∀ x ∈ s.wal.lsnsOf u, x < last → u.resolved = true
  | _ => True

def OrderedRun (crc : Checksum) : ShardTasks → List TaskStep → Prop
  | _, [] => True
  | s, a :: as => s.CommitsInOrder a ∧ ∀ s' ∈ s.step crc a, OrderedRun crc s' as

def CoversResolved (s : ShardTasks) (d : Nat) : Prop :=
  ∀ i : Nat, ∀ t ∈ s.submits[i]?, ∀ x ∈ s.wal.lsnsOf t, x ≤ d →
    t.resolved = true ∧ ∀ y ∈ s.wal.lsnsOf t, y ≤ d

end ShardTasks

variable {crc : Checksum} {k : Nat} {new : List Nat}

namespace WalSystem
variable {s s' : WalSystem} {a : WalStep}

def isDone (s : WalSystem) (k : Nat) : Bool :=
  s.callState k = some .returned || s.callState k = some .failed

structure Extends (s s' : WalSystem) (k : Nat) (new : List Nat) : Prop where
  nextLsn : s.wal.nextLsn ≤ s'.wal.nextLsn
  assigned : s'.assignedTo = Function.update s.assignedTo k (s.assignedTo k ++ new)
  rising : new.Pairwise (· < ·)
  bounds : ∀ x ∈ new, s.wal.nextLsn ≤ x ∧ x < s'.wal.nextLsn
  unfinished : new ≠ [] → s.isDone k = false
  done : ∀ j, s.isDone j = true → s'.isDone j = true
  length : s.calls.length ≤ s'.calls.length

variable {c : Call}

lemma callState_eq (h : s.calls[k]? = some c) : s.callState k = some c.state := by
  rw [callState, h, map_some]

lemma assignedTo_eq (h : s.calls[k]? = some c) : s.assignedTo k = c.assigned := by
  rw [assignedTo, h]

variable {w' : Wal} {c' : Call}

lemma Extends.of_set (hc : s.calls[k]? = some c) (hnext : s.wal.nextLsn ≤ w'.nextLsn)
    (hasg : c'.assigned = c.assigned ++ new) (hrising : new.Pairwise (· < ·))
    (hbds : ∀ x ∈ new, s.wal.nextLsn ≤ x ∧ x < w'.nextLsn)
    (hdone : s.isDone k = true → new = [] ∧ (c'.state = .returned ∨ c'.state = .failed)) :
    Extends s ⟨w', s.calls.set k c'⟩ k new := by
  have hself : (⟨w', s.calls.set k c'⟩ : WalSystem).calls[k]? = some c' := getElem?_set_self hc c'
  have hoth : ∀ j, j ≠ k → (⟨w', s.calls.set k c'⟩ : WalSystem).calls[j]? = s.calls[j]? := by
    intro j hj
    exact List.getElem?_set_ne (Ne.symm hj)
  refine ⟨hnext, ?_, hrising, hbds, ?_, ?_, ?_⟩
  · funext j
    by_cases hj : j = k
    · subst hj
      rw [update_self, assignedTo_eq hself, assignedTo_eq hc, hasg]
    · rw [update_of_ne hj, assignedTo, hoth j hj, assignedTo]
  · intro hne
    cases hk : s.isDone k with
    | false => rfl
    | true => exact absurd (hdone hk).1 hne
  · intro j hj
    by_cases hjk : j = k
    · subst hjk
      rw [isDone, callState_eq hself]
      rcases (hdone hj).2 with h | h <;> simp [h]
    · rw [isDone, callState, hoth j hjk]
      exact hj
  · exact le_of_eq (length_set ..).symm

lemma Extends.loop {w : Wal} {taken : Records} (hc : s.calls[k]? = some c)
    (hspec : LoopSpec w c w' c' taken) (hnext : w.nextLsn = s.wal.nextLsn)
    (hopen : s.isDone k = false) :
    Extends s ⟨w', s.calls.set k c'⟩ k (List.range' w.nextLsn taken.length) := by
  have hgrow := hspec.nextLsn
  refine Extends.of_set hc (by omega) hspec.assigned_eq pairwise_lt_range' ?_ ?_
  · intro x hx
    have hx := mem_range'_1.mp hx
    omega
  · intro hdone
    rw [hopen] at hdone
    cases hdone

lemma Extends.settle (hc : s.calls[k]? = some c) (hnext : w'.nextLsn = s.wal.nextLsn)
    (hasg : c'.assigned = c.assigned)
    (hdone : s.isDone k = true → c'.state = .returned ∨ c'.state = .failed) :
    Extends s ⟨w', s.calls.set k c'⟩ k [] := by
  refine Extends.of_set hc (le_of_eq hnext.symm) ?_ List.Pairwise.nil ?_ fun h => ⟨rfl, hdone h⟩
  · rw [hasg, append_nil]
  · intro x hx
    cases hx

lemma isDone_eq_false (hc : s.calls[k]? = some c) (hret : c.state ≠ .returned)
    (hfailed : c.state ≠ .failed) : s.isDone k = false := by
  rw [isDone, callState_eq hc]
  simp [hret, hfailed]

lemma Extends.of_same (hnext : s'.wal.nextLsn = s.wal.nextLsn)
    (hasg : ∀ j, s'.assignedTo j = s.assignedTo j)
    (hdone : ∀ j, s.isDone j = true → s'.isDone j = true)
    (hlen : s.calls.length = s'.calls.length) : Extends s s' k [] := by
  refine ⟨hnext.ge, ?_, List.Pairwise.nil, by simp, fun hne => absurd rfl hne, hdone, hlen.le⟩
  rw [append_nil, update_eq_self]
  exact funext hasg

lemma Extends.failBatch (hnext : w'.nextLsn = s.wal.nextLsn) (n : Nat) :
    Extends s ⟨w', s.failBatch n⟩ 0 [] := by
  refine .of_same hnext (fun j => ?_) (fun j hj => ?_) (by simp [WalSystem.failBatch])
  · simp only [assignedTo, WalSystem.failBatch, getElem?_map]
    cases s.calls[j]? with
    | none => rfl
    | some c =>
      dsimp only [map_some]
      split <;> rfl
  · simp only [isDone, Bool.or_eq_true, decide_eq_true_eq] at hj ⊢
    simp only [callState, WalSystem.failBatch, getElem?_map] at hj ⊢
    cases hc : s.calls[j]? with
    | none => simp [hc] at hj
    | some c =>
      rw [hc] at hj
      dsimp only [map_some] at hj ⊢
      split
      · simp
      · exact hj

lemma step_extends (h : s.step crc a = some s') : ∃ k new, Extends s s' k new := by
  rcases step_cases h with hm | hf
  · cases hm with
    | @resume a i c hc hst =>
      obtain ⟨taken, hspec⟩ := Wal.runLoop_spec s.wal c
      refine ⟨i, _, Extends.loop hc hspec rfl (isDone_eq_false hc ?_ ?_)⟩
      · rcases hst with ⟨_, hs⟩ | ⟨_, q, hs⟩ <;> simp [hs]
      · rcases hst with ⟨_, hs⟩ | ⟨_, q, hs⟩ <;> simp [hs]
    | @install i q l createdAt c hc hst _ =>
      obtain ⟨taken, hspec⟩ := Wal.runLoop_spec (s.wal.installSegment crc q l createdAt) c
      exact ⟨i, _, Extends.loop hc hspec rfl (isDone_eq_false hc (by simp [hst]) (by simp [hst]))⟩
    | flush _ =>
      exact ⟨0, [], .of_same rfl (fun _ => rfl) (fun _ hj => hj) rfl⟩
    | @settle a i c handles state hc _ hst =>
      refine ⟨i, [], Extends.settle hc rfl rfl ?_⟩
      intro hdone
      rw [isDone, callState_eq hc] at hdone
      rcases hst with ⟨q, hs, _⟩ | ⟨hs, _⟩ <;> simp [hs] at hdone
    | @rollover i q c hc hst _ _ _ =>
      refine ⟨i, [], Extends.settle hc rfl rfl ?_⟩
      intro hdone
      rw [isDone, callState_eq hc] at hdone
      simp [hst] at hdone
  · cases hf with
    | flush _ _ | reject _ _ => exact ⟨0, [], Extends.failBatch (by rfl) _⟩
    | @call a i c hc _ => exact ⟨i, [], Extends.settle hc rfl rfl fun _ => .inr rfl⟩

lemma spawn_extends (s : WalSystem) (records : Records) :
    ∃ new, Extends s (s.spawn records) s.calls.length new ∧
      (s.spawn records).calls.length = s.calls.length + 1 := by
  have hat : (s.calls ++ [start records])[s.calls.length]? = some (start records) :=
    List.getElem?_concat_length
  obtain ⟨taken, hspec⟩ := Wal.runLoop_spec s.wal (start records)
  have hloop := Extends.loop (s := ⟨s.wal, s.calls ++ [start records]⟩) hat hspec rfl
    (isDone_eq_false hat (by simp [start]) (by simp [start]))
  have hasg : (⟨s.wal, s.calls ++ [start records]⟩ : WalSystem).assignedTo =
      s.assignedTo := by
    funext j
    rcases lt_trichotomy j s.calls.length with hj | rfl | hj
    · rw [assignedTo, assignedTo, List.getElem?_append_left hj]
    · rw [assignedTo_eq hat, assignedTo, getElem?_eq_none (le_refl _)]
      rfl
    · rw [assignedTo, assignedTo, getElem?_eq_none (by simp; omega),
        getElem?_eq_none (le_of_lt hj)]
  have hdone : ∀ j, s.isDone j = true →
      (⟨s.wal, s.calls ++ [start records]⟩ : WalSystem).isDone j = true := by
    intro j hj
    have hlt : j < s.calls.length := by
      by_contra hge
      rw [isDone, callState, getElem?_eq_none (by omega)] at hj
      cases hj
    rw [isDone, callState, List.getElem?_append_left hlt]
    exact hj
  have hnone : s.isDone s.calls.length = false := by
    rw [isDone, callState, getElem?_eq_none (le_refl _)]
    rfl
  refine ⟨_, ⟨hloop.nextLsn, ?_, hloop.rising, hloop.bounds, fun _ => hnone,
    fun j hj => hloop.done j (hdone j hj), ?_⟩, ?_⟩
  · rw [← hasg]
    exact hloop.assigned
  · simp [spawn, resume]
  · simp [spawn, resume]

end WalSystem

namespace ShardTasks
variable {s s' : ShardTasks} {a : TaskStep}

inductive Turn (crc : Checksum) (s : ShardTasks) : TaskStep → ShardTasks → Prop
  | send {i : Nat} {t : Submission} : s.submits[i]? = some t → t.state = .ready →
      Turn crc s (.send i)
        { s.setSubmit i { t with state := .queued } with channel := s.channel ++ [i] }
  | receive {i : Nat} {rest : List Nat} {t : Submission} : s.draining = none →
      s.channel = i :: rest → s.submits[i]? = some t →
      Turn crc s .receive { s.setSubmit i { t with call := some s.wal.calls.length } with
        wal := s.wal.spawn t.records, channel := rest, draining := some i }
  | wal {a : WalStep} {w : WalSystem} : s.wal.step crc a = some w →
      Turn crc s (.wal a) { s with wal := w }
  | reply {i k : Nat} {t : Submission} {state : SubmitState} : s.draining = some i →
      s.submits[i]? = some t → t.call = some k → s.wal.isDone k = true →
      (state = .durable ∨ state = .refused) →
      Turn crc s .reply { s.setSubmit i { t with state := state } with draining := none }
  | commit {i : Nat} {t : Submission} : s.submits[i]? = some t → t.state ≠ .queued →
      Turn crc s (.apply i true) { s.setSubmit i { t with state := .committed } with
        watermark :=
          match (s.wal.lsnsOf t).getLast? with
          | none => s.watermark
          | some last => max s.watermark last }
  | refuse {i : Nat} {t : Submission} : s.submits[i]? = some t → t.state ≠ .queued →
      Turn crc s (.apply i false) (s.setSubmit i { t with state := .refused })
  | snapshot {a : TaskStep} {j nextCheckpointId : Nat} {records : Records}
      {state : SnapshotState} :
      (∀ checkpointId durableLsn call, state = .ending checkpointId durableLsn call →
        durableLsn = min s.watermark (s.wal.wal.nextLsn - 1)) →
      Turn crc s a { s with
        wal := s.wal.spawn records
        nextCheckpointId := nextCheckpointId
        snapshots := s.snapshots.set j state }
  | abandon {a : TaskStep} {j : Nat} :
      Turn crc s a { s with snapshots := s.snapshots.set j .failed }

lemma step_cases (h : s.step crc a = some s') : Turn crc s a s' := by
  cases a with
  | send i =>
    cases ht : s.submits[i]? with
    | none => simp [step, ht] at h
    | some t =>
      simp only [step, ht, ite_none_right_eq_some, Option.some.injEq] at h
      obtain ⟨⟨hst, _⟩, rfl⟩ := h
      exact Turn.send ht hst
  | receive =>
    simp only [step] at h
    split at h
    next i rest hdr hchan =>
      cases ht : s.submits[i]? with
      | none => simp [ht] at h
      | some t =>
        simp only [ht, Option.some.injEq] at h
        subst h
        exact Turn.receive hdr hchan ht
    · cases h
  | wal a =>
    obtain ⟨w, hw, rfl⟩ := map_eq_some_iff.mp h
    exact Turn.wal hw
  | reply =>
    cases hd : s.draining with
    | none => simp [step, hd] at h
    | some i =>
      cases ht : s.submits[i]? with
      | none => simp [step, hd, ht] at h
      | some t =>
        simp only [step, hd, ht] at h
        split at h
        next hcall =>
          cases h
          obtain ⟨k, hk, hst⟩ := bind_eq_some_iff.mp hcall
          exact Turn.reply hd ht hk (by simp [isDone, hst]) (.inl rfl)
        next hcall =>
          cases h
          obtain ⟨k, hk, hst⟩ := bind_eq_some_iff.mp hcall
          exact Turn.reply hd ht hk (by simp [isDone, hst]) (.inr rfl)
        · cases h
  | apply i accepted =>
    cases ht : s.submits[i]? with
    | none => simp [step, ht] at h
    | some t =>
      simp only [step, ht, ite_none_right_eq_some] at h
      obtain ⟨hst, h⟩ := h
      have hqd : t.state ≠ .queued := by
        rcases hst with hs | ⟨hs, _⟩ <;> simp [hs]
      cases accepted with
      | true =>
        simp only [if_true, Option.some.injEq] at h
        subst h
        exact Turn.commit ht hqd
      | false =>
        simp only [Bool.false_eq_true, if_false, Option.some.injEq] at h
        subst h
        exact Turn.refuse ht hqd
  | snapshotBegin j startedAt =>
    simp only [step] at h
    split at h
    · cases h
      exact Turn.snapshot (by simp)
    · cases h
  | snapshotEnd j now arenaCapacity =>
    simp only [step] at h
    split at h
    next checkpointId call _ =>
      split at h
      · cases h
        refine Turn.snapshot ?_
        intro _ _ _ hending
        cases hending
        rfl
      · cases h
        exact Turn.abandon
      · cases h
        exact Turn.abandon
      · cases h
    · cases h

structure Wired (s : ShardTasks) : Prop where
  channel : ∀ i ∈ s.channel, ∃ t, s.submits[i]? = some t ∧ t.call = none ∧ t.state = .queued
  nodup : s.channel.Nodup
  draining : ∀ i, s.draining = some i → ∃ t k, s.submits[i]? = some t ∧ t.call = some k ∧
    t.state = .queued
  attached : ∀ {i k : Nat} {t : Submission}, s.submits[i]? = some t → t.call = some k →
    k < s.wal.calls.length ∧ (s.draining = some i ∨ s.wal.isDone k = true)
  distinct : ∀ {i j k : Nat} {t u : Submission}, s.submits[i]? = some t → t.call = some k →
    s.submits[j]? = some u → u.call = some k → i = j
  unsent : ∀ {i : Nat} {t : Submission}, s.submits[i]? = some t → t.state = .ready → t.call = none

variable {state : SubmitState}

lemma Wired.extend (h : s.Wired) (hext : Extends s.wal s'.wal k new)
    (hchan : s'.channel = s.channel) (hsubmits : s'.submits = s.submits)
    (hdr : s'.draining = s.draining) : s'.Wired := by
  refine ⟨?_, ?_, ?_, ?_, ?_, ?_⟩
  · rw [hchan, hsubmits]
    exact h.channel
  · rw [hchan]
    exact h.nodup
  · rw [hdr, hsubmits]
    exact h.draining
  · rw [hdr, hsubmits]
    intro i l t ht hl
    obtain ⟨hlt, hdone⟩ := h.attached ht hl
    exact ⟨hlt.trans_le hext.length, hdone.imp_right (hext.done l)⟩
  · rw [hsubmits]
    exact h.distinct
  · rw [hsubmits]
    exact h.unsent

variable {i : Nat} {t : Submission} {as : List TaskStep}

lemma Wired.not_queued (h : s.Wired) (ht : s.submits[i]? = some t) (hst : t.state ≠ .queued) :
    i ∉ s.channel ∧ s.draining ≠ some i := by
  refine ⟨?_, ?_⟩
  · intro hi
    obtain ⟨u, hu, _, hqd⟩ := h.channel i hi
    cases ht.symm.trans hu
    exact hst hqd
  · intro hi
    obtain ⟨u, _, hu, _, hqd⟩ := h.draining i hi
    cases ht.symm.trans hu
    exact hst hqd

lemma Wired.not_draining (h : s.Wired) (hi : i ∈ s.channel) : s.draining ≠ some i := by
  intro hd
  obtain ⟨t, ht, hnone, _⟩ := h.channel i hi
  obtain ⟨u, k, hu, hsome, _⟩ := h.draining i hd
  cases ht.symm.trans hu
  rw [hnone] at hsome
  cases hsome

lemma Wired.restate (h : s.Wired) {draining : Option Nat} (ht : s.submits[i]? = some t)
    (hready : state ≠ .ready) (hchan : i ∉ s.channel)
    (hkeeps : ∀ j, draining = some j → s.draining = some j ∧ j ≠ i)
    (hleaves : ∀ j, s.draining = some j → draining = some j ∨
      (j = i ∧ ∀ k, t.call = some k → s.wal.isDone k = true)) (watermark : Nat) :
    Wired { s.setSubmit i { t with state := state } with
      draining := draining, watermark := watermark } := by
  refine ⟨?_, h.nodup, ?_, ?_, ?_, ?_⟩
  · intro j hj
    have hji : j ≠ i := fun hji => hchan (hji ▸ hj)
    obtain ⟨u, hu, hcall, hst⟩ := h.channel j hj
    exact ⟨u, getElem?_set_other hji hu _, hcall, hst⟩
  · intro j hj
    obtain ⟨hj, hji⟩ := hkeeps j hj
    obtain ⟨u, k, hu, hcall, hst⟩ := h.draining j hj
    exact ⟨u, k, getElem?_set_other hji hu _, hcall, hst⟩
  · intro j k u hu hk
    rcases getElem?_set_some hu with ⟨rfl, rfl⟩ | ⟨hji, hu⟩
    · obtain ⟨hlt, hd | hdone⟩ := h.attached ht hk
      · rcases hleaves j hd with hd | ⟨_, hdone⟩
        · exact ⟨hlt, .inl hd⟩
        · exact ⟨hlt, .inr (hdone k hk)⟩
      · exact ⟨hlt, .inr hdone⟩
    · obtain ⟨hlt, hd | hdone⟩ := h.attached hu hk
      · rcases hleaves j hd with hd | ⟨hji', _⟩
        · exact ⟨hlt, .inl hd⟩
        · exact absurd hji' hji
      · exact ⟨hlt, .inr hdone⟩
  · intro j l k u v hu hku hv hkv
    have hold : ∀ {m : Nat} {x : Submission},
        (s.setSubmit i { t with state := state }).submits[m]? = some x →
          ∃ y, s.submits[m]? = some y ∧ y.call = x.call := by
      intro m x hx
      rcases getElem?_set_some hx with ⟨rfl, rfl⟩ | ⟨_, hx⟩
      · exact ⟨t, ht, rfl⟩
      · exact ⟨x, hx, rfl⟩
    obtain ⟨u', hu', hcallu⟩ := hold hu
    obtain ⟨v', hv', hcallv⟩ := hold hv
    exact h.distinct hu' (hcallu.trans hku) hv' (hcallv.trans hkv)
  · intro j u hu hst
    rcases getElem?_set_some hu with ⟨rfl, rfl⟩ | ⟨_, hu⟩
    · exact absurd hst hready
    · exact h.unsent hu hst

lemma Wired.move (h : s.Wired) (ht : s.submits[i]? = some t) (hqd : t.state ≠ .queued)
    (hready : state ≠ .ready) (watermark : Nat) :
    Wired { s.setSubmit i { t with state := state } with watermark := watermark } := by
  obtain ⟨hchan, hdr⟩ := h.not_queued ht hqd
  exact h.restate ht hready hchan (fun j hj => ⟨hj, fun hji => hdr (hji ▸ hj)⟩)
    (fun j hj => .inl hj) watermark

lemma Wired.send (h : s.Wired) (ht : s.submits[i]? = some t) (hst : t.state = .ready) :
    Wired { s.setSubmit i { t with state := .queued } with
      channel := s.channel ++ [i] } := by
  have hchan := (h.not_queued ht (by simp [hst])).1
  have hready : SubmitState.queued ≠ .ready := by simp
  have hrest := h.move ht (by simp [hst]) hready s.watermark
  refine { hrest with channel := ?_, nodup := ?_ }
  · intro j hj
    rcases mem_append.mp hj with hj | hj
    · exact hrest.channel j hj
    · have hnone := h.unsent ht hst
      rw [mem_singleton.mp hj]
      exact ⟨_, getElem?_set_self ht _, hnone, rfl⟩
  · refine nodup_append.mpr ⟨h.nodup, by simp, ?_⟩
    intro j hj k hk hjk
    rw [mem_singleton.mp hk] at hjk
    exact hchan (hjk ▸ hj)

lemma Wired.receive (h : s.Wired) {rest : List Nat} (hdr : s.draining = none)
    (hchan : s.channel = i :: rest) (ht : s.submits[i]? = some t) :
    Wired { s.setSubmit i { t with call := some s.wal.calls.length } with
      wal := s.wal.spawn t.records, channel := rest, draining := some i } := by
  obtain ⟨new, hext, hlen⟩ := s.wal.spawn_extends t.records
  have hi : i ∈ s.channel := hchan ▸ mem_cons_self
  obtain ⟨_, htu, hnone, hst⟩ := h.channel i hi
  cases ht.symm.trans htu
  have hnd := h.nodup
  rw [hchan] at hnd
  obtain ⟨hfresh, hrest⟩ := nodup_cons.mp hnd
  -- a call of another write was there before the new one
  have hoth : ∀ {j k : Nat} {u : Submission}, s.submits[j]? = some u → u.call = some k →
      k < s.wal.calls.length ∧ s.wal.isDone k = true := by
    intro j k u hu hk
    obtain ⟨hlt, hd | hdone⟩ := h.attached hu hk
    · rw [hdr] at hd
      cases hd
    · exact ⟨hlt, hdone⟩
  refine ⟨?_, hrest, ?_, ?_, ?_, ?_⟩
  · intro j hj
    have hji : j ≠ i := fun hji => hfresh (hji ▸ hj)
    obtain ⟨u, hu, hcall, hqd⟩ := h.channel j (hchan ▸ mem_cons_of_mem i hj)
    exact ⟨u, getElem?_set_other hji hu _, hcall, hqd⟩
  · intro j hj
    cases hj
    exact ⟨_, _, getElem?_set_self ht _, rfl, hst⟩
  · intro j k u hu hk
    rcases getElem?_set_some hu with ⟨rfl, rfl⟩ | ⟨_, hu⟩
    · cases hk
      refine ⟨?_, .inl rfl⟩
      show s.wal.calls.length < (s.wal.spawn t.records).calls.length
      omega
    · obtain ⟨hlt, hdone⟩ := hoth hu hk
      exact ⟨hlt.trans_le hext.length, .inr (hext.done k hdone)⟩
  · intro j l k u v hu hku hv hkv
    rcases getElem?_set_some hu with ⟨rfl, rfl⟩ | ⟨_, hold⟩
    · rcases getElem?_set_some hv with ⟨rfl, rfl⟩ | ⟨_, hv⟩
      · rfl
      · cases hku
        have hlt := (hoth hv hkv).1
        omega
    · rcases getElem?_set_some hv with ⟨rfl, rfl⟩ | ⟨_, hv⟩
      · cases hkv
        have hlt := (hoth hold hku).1
        omega
      · exact h.distinct hold hku hv hkv
  · intro j u hu hready
    rcases getElem?_set_some hu with ⟨rfl, rfl⟩ | ⟨_, hu⟩
    · rw [hst] at hready
      cases hready
    · exact h.unsent hu hready

lemma Wired.step (h : s.Wired) (hs : s.step crc a = some s') : s'.Wired := by
  cases step_cases hs with
  | send ht hst => exact h.send ht hst
  | receive hdr hchan ht => exact h.receive hdr hchan ht
  | wal hw =>
    obtain ⟨_, _, hext⟩ := step_extends hw
    exact h.extend hext rfl rfl rfl
  | @reply i k t state hdr ht hk hdone hst =>
    refine h.restate ht ?_ ?_ ?_ ?_ s.watermark
    · rcases hst with rfl | rfl <;> simp
    · intro hi
      exact h.not_draining hi hdr
    · intro j hj
      cases hj
    · intro j hj
      refine .inr ⟨Option.some.inj (hj.symm.trans hdr), ?_⟩
      intro l hl
      cases hk.symm.trans hl
      exact hdone
  | commit ht hqd => exact h.move ht hqd (by simp) _
  | refuse ht hqd => exact h.move ht hqd (by simp) s.watermark
  | snapshot _ =>
    obtain ⟨_, hext, _⟩ := s.wal.spawn_extends _
    exact h.extend hext rfl rfl rfl
  | abandon => exact { h with }

def drawn (w : WalSystem) (submits : List Submission) (i : Nat) : List Nat :=
  match submits[i]? with
  | none => []
  | some t => w.lsnsOf t

def resolvedAt (submits : List Submission) (i : Nat) : Bool :=
  match submits[i]? with
  | none => false
  | some t => t.resolved

structure Models (s : ShardTasks) (m : State) : Prop where
  next : m.next = s.wal.wal.nextLsn
  drawn : m.drawn = ShardTasks.drawn s.wal s.submits
  current : m.current = s.draining
  settled : m.settled = resolvedAt s.submits
  mark : m.mark = s.watermark
  observed : ∀ {j checkpointId durableLsn call : Nat},
    s.snapshots[j]? = some (.ending checkpointId durableLsn call) → durableLsn ∈ m.observed

section
variable {w w' : WalSystem} {submits : List Submission} {t' : Submission}

lemma drawn_set (ht : submits[i]? = some t) (t' : Submission) :
    drawn w (submits.set i t') = Function.update (drawn w submits) i (w.lsnsOf t') := by
  funext j
  by_cases hj : j = i
  · subst hj
    rw [update_self, drawn, getElem?_set_self ht]
  · rw [update_of_ne hj, drawn, List.getElem?_set_ne (Ne.symm hj), drawn]

lemma drawn_restate (ht : submits[i]? = some t) (state : SubmitState) :
    drawn w (submits.set i { t with state := state }) = drawn w submits := by
  rw [drawn_set ht, update_eq_self_iff, drawn, ht]
  rfl

lemma resolvedAt_set (ht : submits[i]? = some t) (t' : Submission) :
    resolvedAt (submits.set i t') = Function.update (resolvedAt submits) i t'.resolved := by
  funext j
  by_cases hj : j = i
  · subst hj
    rw [update_self, resolvedAt, getElem?_set_self ht]
  · rw [update_of_ne hj, resolvedAt, List.getElem?_set_ne (Ne.symm hj), resolvedAt]

lemma resolvedAt_keep (ht : submits[i]? = some t) (hsame : t'.resolved = t.resolved) :
    resolvedAt (submits.set i t') = resolvedAt submits := by
  rw [resolvedAt_set ht, update_eq_self_iff, resolvedAt, ht]
  exact hsame

lemma drawn_foreign (hext : Extends w w' k new)
    (hforeign : new = [] ∨ ∀ (i : Nat) (t : Submission), submits[i]? = some t → t.call ≠ some k) :
    drawn w' submits = drawn w submits := by
  funext i
  cases ht : submits[i]? with
  | none => rw [drawn, drawn, ht]
  | some t =>
    rw [drawn, drawn, ht]
    cases hcall : t.call with
    | none => simp only [lsnsOf, hcall]
    | some l =>
      simp only [lsnsOf, hcall, hext.assigned]
      by_cases hl : l = k
      · subst hl
        rcases hforeign with rfl | hforeign
        · simp
        · exact absurd hcall (hforeign i t ht)
      · exact update_of_ne hl ..

lemma drawn_own (hext : Extends w w' k new) (ht : submits[i]? = some t) (hcall : t.call = some k)
    (hown : ∀ (j : Nat) (u : Submission), submits[j]? = some u → u.call = some k → j = i) :
    drawn w' submits = Function.update (drawn w submits) i (drawn w submits i ++ new) := by
  funext j
  by_cases hj : j = i
  · subst hj
    rw [update_self, drawn, drawn, ht]
    simp only [lsnsOf, hcall, hext.assigned, update_self]
  · rw [update_of_ne hj, drawn, drawn]
    cases hu : submits[j]? with
    | none => rfl
    | some u =>
      cases hl : u.call with
      | none => simp only [lsnsOf, hl]
      | some l =>
        have hlk : l ≠ k := fun hlk => hj (hown j u hu (hlk ▸ hl))
        simp only [lsnsOf, hl, hext.assigned, update_of_ne hlk]
end

lemma Wired.foreign_or_own (h : s.Wired) (hopen : new ≠ [] → s.wal.isDone k = false) :
    (new = [] ∨ ∀ (i : Nat) (t : Submission), s.submits[i]? = some t → t.call ≠ some k) ∨
      ∃ i t, s.draining = some i ∧ s.submits[i]? = some t ∧ t.call = some k := by
  by_cases hnew : new = []
  · exact .inl (.inl hnew)
  · by_cases hown : ∃ i t, s.draining = some i ∧ s.submits[i]? = some t ∧ t.call = some k
    · exact .inr hown
    · refine .inl (.inr ?_)
      intro i t ht hcall
      rcases (h.attached ht hcall).2 with hd | hdone
      · exact hown ⟨i, t, hd, ht, hcall⟩
      · rw [hopen hnew] at hdone
        cases hdone

variable {m : State}

lemma Models.extend (hm : s.Models m) (h : s.Wired) (hext : Extends s.wal s'.wal k new)
    (hsubmits : s'.submits = s.submits) (hdr : s'.draining = s.draining)
    (hwatermark : s'.watermark = s.watermark) (hobserved : ∀ {j checkpointId durableLsn call : Nat},
      s'.snapshots[j]? = some (.ending checkpointId durableLsn call) → durableLsn ∈ m.observed) :
    ∃ m', Steps m m' ∧ s'.Models m' := by
  have hnext : m.next ≤ s'.wal.wal.nextLsn := by
    rw [hm.next]
    exact hext.nextLsn
  have hcur := hm.current.trans hdr.symm
  have hstl := hm.settled.trans (congrArg resolvedAt hsubmits.symm)
  have hmark := hm.mark.trans hwatermark.symm
  rcases h.foreign_or_own hext.unfinished with hforeign | ⟨i, t, hd, ht, hcall⟩
  · refine ⟨_, .single (skip hnext), rfl, ?_, hcur, hstl, hmark, hobserved⟩
    rw [hsubmits, drawn_foreign hext hforeign]
    exact hm.drawn
  · refine ⟨_, .single (draw (hm.current.trans hd) hnext hext.rising ?_),
      rfl, ?_, hcur, hstl, hmark, hobserved⟩
    · rw [hm.next]
      exact hext.bounds
    · have hown := fun (j : Nat) (u : Submission) hu hk =>
        h.distinct (i := j) (t := u) hu hk ht hcall
      rw [hsubmits, drawn_own hext ht hcall hown, hm.drawn]

lemma Models.receive (hm : s.Models m) (h : s.Wired) {rest : List Nat}
    (hdr : s.draining = none) (hchan : s.channel = i :: rest) (ht : s.submits[i]? = some t) :
    ∃ m', Steps m m' ∧
      Models { s.setSubmit i { t with call := some s.wal.calls.length } with
        wal := s.wal.spawn t.records, channel := rest, draining := some i } m' := by
  obtain ⟨new, hext, _⟩ := s.wal.spawn_extends t.records
  obtain ⟨_, htu, hnone, hst⟩ := h.channel i (hchan ▸ mem_cons_self)
  cases ht.symm.trans htu
  have hfresh : m.drawn i = [] := by
    simp only [hm.drawn, ShardTasks.drawn, ht, lsnsOf, hnone]
  have hopen : m.settled i = false := by
    simp [hm.settled, resolvedAt, ht, Submission.resolved, hst]
  have htake := take (hm.current.trans hdr) hfresh hopen
  have hforeign : ∀ (j : Nat) (u : Submission), s.submits[j]? = some u →
      u.call ≠ some s.wal.calls.length := by
    intro j u hu hk
    have hlt := (h.attached hu hk).1
    omega
  have hempty : s.wal.assignedTo s.wal.calls.length = [] := by
    rw [assignedTo, getElem?_eq_none (le_refl _)]
  have hdraw := draw (s := { m with current := some i })
    (n := (s.wal.spawn t.records).wal.nextLsn) rfl (hm.next ▸ hext.nextLsn) hext.rising
    (hm.next ▸ hext.bounds)
  refine ⟨_, .tail (.single htake) hdraw, rfl, ?_, rfl, ?_, hm.mark, hm.observed⟩
  · rw [hfresh, nil_append, hm.drawn]
    refine Eq.symm ((drawn_set ht _).trans ?_)
    rw [drawn_foreign hext (.inr hforeign)]
    simp only [lsnsOf, hext.assigned, update_self, hempty, nil_append]
  · exact hm.settled.trans (resolvedAt_keep ht (by rfl)).symm

lemma Models.step (hm : s.Models m) (h : s.Wired) (hsnd : Sound m)
    (horder : s.CommitsInOrder a) (hs : s.step crc a = some s') :
    ∃ m', Steps m m' ∧ s'.Models m' := by
  cases step_cases hs with
  | send ht hst =>
    refine ⟨m, .refl, hm.next, ?_, hm.current, ?_, hm.mark, hm.observed⟩
    · exact hm.drawn.trans (drawn_restate ht _).symm
    · exact hm.settled.trans (resolvedAt_keep ht (by simp [Submission.resolved, hst])).symm
  | receive hdr hchan ht => exact hm.receive h hdr hchan ht
  | wal hw =>
    obtain ⟨_, _, hext⟩ := step_extends hw
    exact hm.extend h hext rfl rfl rfl hm.observed
  | @reply i k t state hdr ht hk _ hst =>
    obtain ⟨_, _, htu, _, hqd⟩ := h.draining i hdr
    cases ht.symm.trans htu
    have hdrawn := hm.drawn.trans (drawn_restate (w := s.wal) ht state).symm
    rcases hst with rfl | rfl
    · refine ⟨_, .single release, hm.next, hdrawn, rfl, ?_, hm.mark, hm.observed⟩
      exact hm.settled.trans (resolvedAt_keep ht (by simp [Submission.resolved, hqd])).symm
    · have hsettle := settle (s := { m with current := none }) (i := i) (by simp)
      refine ⟨_, .tail (.single release) hsettle, hm.next, hdrawn, rfl, ?_, hm.mark, hm.observed⟩
      refine Eq.trans ?_ (resolvedAt_set ht _).symm
      rw [hm.settled]
      rfl
  | @commit i t ht hqd =>
    have hcur := hm.current ▸ (h.not_queued ht hqd).2
    have hdrawn := hm.drawn.trans (drawn_restate (w := s.wal) ht .committed).symm
    have hstl : Function.update m.settled i true =
        resolvedAt (s.submits.set i { t with state := .committed }) := by
      rw [resolvedAt_set ht, hm.settled]
      rfl
    have hlsns : m.drawn i = s.wal.lsnsOf t := by
      rw [hm.drawn, ShardTasks.drawn, ht]
    cases hlast : (s.wal.lsnsOf t).getLast? with
    | none =>
      exact ⟨_, .single (settle hcur), hm.next, hdrawn, hm.current, hstl, hm.mark, hm.observed⟩
    | some last =>
      refine ⟨_, .single (commit hcur (hlsns ▸ hlast) ?_), hm.next,
        hdrawn, hm.current, hstl, ?_, hm.observed⟩
      · intro j hj x hx hlt
        rw [hm.drawn, ShardTasks.drawn] at hx
        rw [hm.settled, resolvedAt]
        cases hu : s.submits[j]? with
        | none => simp [hu] at hx
        | some u =>
          simp only [hu] at hx
          exact horder t ht last hlast j hj u hu x hx hlt
      · rw [hm.mark]
  | @refuse i t ht hqd =>
    have hcur := hm.current ▸ (h.not_queued ht hqd).2
    refine ⟨_, .single (settle hcur), hm.next, ?_, hm.current, ?_, hm.mark, hm.observed⟩
    · exact hm.drawn.trans (drawn_restate ht _).symm
    · refine Eq.trans ?_ (resolvedAt_set ht _).symm
      rw [hm.settled]
      rfl
  | @snapshot a j nextCheckpointId records state hst =>
    obtain ⟨_, hext, _⟩ := s.wal.spawn_extends records
    have hlt := (hsnd.marks m.mark mem_cons_self).1
    have hmin : min s.watermark (s.wal.wal.nextLsn - 1) = m.mark := by
      rw [hm.next] at hlt
      rw [← hm.mark]
      omega
    have hobserve : s.Models { m with observed := m.mark :: m.observed } :=
      { hm with observed := fun hj => mem_cons_of_mem _ (hm.observed hj) }
    obtain ⟨m', hsteps, hm'⟩ : ∃ m', Steps
        { m with observed := m.mark :: m.observed } m' ∧ Models { s with
          wal := s.wal.spawn records
          nextCheckpointId := nextCheckpointId
          snapshots := s.snapshots.set j state } m' := by
      refine hobserve.extend h hext rfl rfl rfl ?_
      intro l checkpointId durableLsn call hl
      rcases getElem?_set_some hl with ⟨_, hl⟩ | ⟨_, hl⟩
      · rw [hst _ _ _ hl.symm, hmin]
        exact mem_cons_self
      · exact mem_cons_of_mem _ (hm.observed hl)
    exact ⟨m', .head observe hsteps, hm'⟩
  | abandon =>
    refine ⟨m, .refl, { hm with observed := ?_ }⟩
    intro j checkpointId durableLsn call hj
    rcases getElem?_set_some hj with ⟨_, hj⟩ | ⟨_, hj⟩
    · cases hj
    · exact hm.observed hj

lemma Models.covers (hm : s.Models m) {d : Nat} (h : Covers m d) : s.CoversResolved d := by
  intro i t ht x hx hle
  have ht : s.submits[i]? = some t := ht
  obtain ⟨hstl, hwhole⟩ := h i
  simp only [hm.drawn, hm.settled, ShardTasks.drawn, resolvedAt, ht] at hstl hwhole
  exact ⟨hstl x hx hle, hwhole x hx hle⟩

lemma start_wired (writes : List Records) (nextCheckpointId snapshots : Nat) :
    (start w writes nextCheckpointId snapshots).Wired := by
  have hcall : ∀ {i : Nat} {t : Submission},
      (start w writes nextCheckpointId snapshots).submits[i]? = some t → t.call = none := by
    intro i t ht
    obtain ⟨rs, _, rfl⟩ := List.mem_map.mp (mem_of_getElem? ht)
    rfl
  refine ⟨?_, nodup_nil, ?_, ?_, ?_, ?_⟩
  · intro i hi
    cases hi
  · intro i hi
    cases hi
  · intro i k t ht hk
    cases (hcall ht).symm.trans hk
  · intro i j k t u ht hk
    cases (hcall ht).symm.trans hk
  · intro i t ht _
    exact hcall ht

lemma start_models (writes : List Records) (nextCheckpointId snapshots : Nat) :
    (start w writes nextCheckpointId snapshots).Models
      ⟨w.nextLsn, fun _ => [], none, fun _ => false, w.nextLsn - 1, []⟩ := by
  refine ⟨rfl, ?_, rfl, ?_, rfl, ?_⟩
  · funext i
    rw [ShardTasks.drawn, start, getElem?_map]
    cases writes[i]? <;> rfl
  · funext i
    rw [resolvedAt, start, getElem?_map]
    cases writes[i]? <;> rfl
  · intro j checkpointId durableLsn call hj
    cases eq_of_mem_replicate (mem_of_getElem? hj)

lemma run_models (hm : s.Models m) (h : s.Wired) (hsnd : Sound m)
    (hordered : OrderedRun crc s as) (hrun : s.run crc as = some s') :
    ∃ m', Sound m' ∧ s'.Models m' := by
  induction as generalizing s m with
  | nil =>
    cases hrun
    exact ⟨m, hsnd, hm⟩
  | cons a as ih =>
    cases hs : s.step crc a with
    | none => simp [run, hs] at hrun
    | some mid =>
      simp only [run, hs] at hrun
      obtain ⟨m', hsteps, hm'⟩ := hm.step h hsnd hordered.1 hs
      exact ih hm' (h.step hs) (hsnd.steps hsteps) (hordered.2 mid hs) hrun

/-- Along a run whose commits are in order, a checkpoint covers resolved writes only, and each of
them whole. -/
theorem checkpoint_covers_resolved {w : Wal} {writes : List Records}
    {nextCheckpointId snapshots : Nat} {as : List TaskStep} (hlsn : 0 < w.nextLsn)
    (hordered : OrderedRun crc (start w writes nextCheckpointId snapshots) as)
    (hrun : (start w writes nextCheckpointId snapshots).run crc as = some s)
    {j checkpointId durableLsn call : Nat}
    (hend : s.snapshots[j]? = some (.ending checkpointId durableLsn call)) :
    s.CoversResolved durableLsn := by
  have hsnd : Sound ⟨w.nextLsn, fun _ => [], none, fun _ => false, w.nextLsn - 1, []⟩ := by
    refine ⟨hlsn, by simp, by simp, by simp, by simp, ?_⟩
    intro d hd
    cases mem_singleton.mp hd
    exact ⟨Nat.sub_lt hlsn one_pos, fun i => ⟨by simp, by simp⟩⟩
  obtain ⟨m, hsnd, hm⟩ := run_models (start_models w writes nextCheckpointId snapshots)
    (start_wired w writes nextCheckpointId snapshots) hsnd hordered hrun
  exact hm.covers (hsnd.marks durableLsn (mem_cons_of_mem _ (hm.observed hend))).2

instance (s : ShardTasks) (a : TaskStep) : Decidable (s.CommitsInOrder a) :=
  match a with
  | .apply i true => decidable_of_iff (∀ t ∈ s.submits[i]?, ∀ last ∈ (s.wal.lsnsOf t).getLast?,
      ∀ j < s.submits.length, j ≠ i → ∀ u ∈ s.submits[j]?, ∀ x ∈ s.wal.lsnsOf u, x < last →
        u.resolved = true) <| by
    refine forall₅_congr fun t _ last _ j => ⟨fun h hj u hu => ?_, fun h _ => h⟩
    exact h (List.getElem?_eq_some_iff.mp hu).1 hj u hu
  | .apply _ false | .send _ | .receive | .reply | .wal _ | .snapshotBegin .. | .snapshotEnd .. =>
    isTrue trivial

instance OrderedRun.decidable (crc : Checksum) :
    ∀ (s : ShardTasks) (as : List TaskStep), Decidable (OrderedRun crc s as)
  | _, [] => isTrue trivial
  | s, a :: as =>
    have := fun s' => OrderedRun.decidable crc s' as
    inferInstanceAs (Decidable (s.CommitsInOrder a ∧ ∀ s' ∈ s.step crc a, OrderedRun crc s' as))

def pairStart : ShardTasks :=
  start (Wal.create zeroCrc zeroUuid 8192 0) [[tightRecord], [tightRecord]] 0 1

def pairDurable : List TaskStep :=
  [.send 0, .send 1, .receive, .wal (.flush 1), .wal (.finish 0), .reply,
    .receive, .wal (.flush 1), .wal (.finish 1), .reply]

def pairSnapshot : List TaskStep :=
  [.snapshotBegin 0 0, .wal (.flush 1), .wal (.finish 2), .snapshotEnd 0 0 (some 0)]

def pairRun (i : Nat) : Option ShardTasks :=
  pairStart.run zeroCrc (pairDurable ++ .apply i true :: pairSnapshot)

theorem earlier_commit_covered :
    ∃ s, pairRun 0 = some s ∧ s.snapshots[0]? = some (.ending 0 1 3) ∧ s.CoversResolved 1 := by
  refine ⟨(pairRun 0).get (by rfl), (some_get _).symm, by rfl, ?_⟩
  refine checkpoint_covers_resolved (j := 0) (w := Wal.create zeroCrc zeroUuid 8192 0)
    (by decide) ?_ (some_get (show (pairRun 0).isSome by rfl)).symm (by rfl)
  decide +kernel

/-- The second write commits first, and the checkpoint covers the first. -/
theorem later_commit_covers_earlier :
    ∃ s, pairRun 1 = some s ∧ s.snapshots[0]? = some (.ending 0 2 3) ∧ ¬ s.CoversResolved 2 := by
  refine ⟨(pairRun 1).get (by rfl), (some_get _).symm, by rfl, ?_⟩
  intro h
  have hres := (h 0 _ rfl 1 (by decide) (by decide)).1
  cases hres

end ShardTasks
end BrainDb
