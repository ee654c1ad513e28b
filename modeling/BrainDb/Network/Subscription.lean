import BrainDb.Base.Cutover
import BrainDb.Network.Events

namespace BrainDb
open List Option Cutover Prod Step Journal
open EventEnvelope (fromWalRecord)

inductive PendingEvent where
  | write (w : Write FeedPhase) (recordLsn : Nat)
  | notification (n : Notification) (lsn : Nat)

def phaseEvents (w : Write FeedPhase) (committedAt : Nanos)
    (rows : MemoryRows) :
    Nat → List FeedPhase → List (Nat × EventEnvelope)
  | _, [] => []
  | n, phase :: phases =>
    (phase.toEnvelope w.toCaller committedAt rows).toList.map (fun env => (n, env)) ++
      phaseEvents w committedAt rows
        (if (phase.walPayload w.writeId w.toCaller).isSome then n + 1 else n) phases

def stampEvents : Nat → List (Nat × EventEnvelope) → List (Nat × EventEnvelope)
  | _, [] => []
  | busLsn, (n, env) :: rest => (n, { env with lsn := busLsn + 1 }) :: stampEvents (busLsn + 1) rest

variable (p : PendingEvent)

namespace PendingEvent

def events (committedAt : Nanos) (rows : MemoryRows) :
    PendingEvent → List (Nat × EventEnvelope)
  | .write w recordLsn => phaseEvents w committedAt rows recordLsn w.phases
  | .notification n lsn => [(lsn, n.envelope lsn)]

def eventLsns : List Nat := (p.events 0 fun _ => none).map fst

def publish (busLsn : Nat) (committedAt : Nanos)
    (rows : MemoryRows) (p : PendingEvent) :
    List (Nat × EventEnvelope) × Nat :=
  match p with
  | .write .. =>
    (stampEvents busLsn (p.events committedAt rows), busLsn + (p.events committedAt rows).length)
  | .notification _ lsn => (p.events committedAt rows, max busLsn (lsn + 1))

end PendingEvent

open PendingEvent

inductive Subscription where
  | off
  | waiting (rx fromLsn : Nat)
  | scanning (rx fromLsn cursor tail replayHighWater : Nat)
  | live (rx replayHighWater : Nat)
  deriving DecidableEq

/-- A shard's feed with one subscriber. `log` holds the records on disk; `published` is what the bus
has sent, each event with the LSN of its record, of which the hub has broadcast the first `bridged`;
`last` is the LSN of the last delivered frame. -/
structure Feed where
  log : Journal (LogPayload FeedPayload)
  pending : List PendingEvent
  busLsn : Nat
  published : List (Nat × EventEnvelope)
  bridged : Nat
  subscription : Subscription
  last : Nat
  delivered : List (Nat × EventEnvelope)

inductive FeedStep where
  | submit (now : Nanos) (w : Write FeedPhase)
  | checkpointBegin (now : Nanos) (checkpointId : Nat)
  | checkpointEnd (now : Nanos) (checkpointId durable : Nat)
  | notify (now : Nanos) (n : Notification)
  | publish (i : Nat) (committedAt : Nanos)
      (rows : MemoryRows)
  | bridge
  | connect
  | scanStart
  | scanNext
  | scanEnd
  | recv
  | disconnect

namespace Feed

def start (log : Journal (LogPayload FeedPayload)) (last : Nat) : Feed :=
  ⟨log, [], 0, [], 0, .off, last, []⟩

variable (s : Feed)

def appendLog (now : Nanos) (batch : List (LogPayload FeedPayload))
    (pending : List PendingEvent) : Feed :=
  { s with log := s.log.append now batch, pending := s.pending ++ pending }

def firstRecordLsn (w : Write FeedPhase) : Nat :=
  if (w.walBatch feedEngine).length = 1 then s.log.nextLsn else s.log.nextLsn + 1

def deliver (frame : Nat × EventEnvelope) : Feed :=
  { s with last := frame.2.lsn, delivered := s.delivered ++ [frame] }

def entryAt (lsn : Nat) : Option FeedEntry := s.log.entries.find? fun e => e.lsn = lsn

variable (admits : EventEnvelope → Bool)

def step (s : Feed) : FeedStep → Option Feed
  | .submit now w =>
    some (s.appendLog (if w.startedAt ≠ 0 then w.startedAt else now) (w.walBatch feedEngine)
      [.write w (s.firstRecordLsn w)])
  | .checkpointBegin now checkpointId => some (s.appendLog now [.checkpointBegin checkpointId] [])
  | .checkpointEnd now checkpointId durable =>
    some (s.appendLog now [.checkpointEnd checkpointId durable] [])
  | .notify now n => some (s.appendLog now [.record n.payload] [.notification n s.log.nextLsn])
  | .publish i committedAt rows =>
    match s.pending[i]? with
    | none => none
    | some p =>
      some { s with
        pending := s.pending.eraseIdx i
        published := s.published ++ (p.publish s.busLsn committedAt rows).1
        busLsn := (p.publish s.busLsn committedAt rows).2 }
  | .bridge =>
    if s.bridged < s.published.length then some { s with bridged := s.bridged + 1 } else none
  | .connect =>
    if s.subscription = .off then
      -- below the oldest segment the request fails with `LsnTooOld`
      if s.last + 1 < s.log.first then none
      else some { s with subscription := .waiting s.bridged (s.last + 1) }
    else none
  | .scanStart =>
    match s.subscription with
    | .waiting rx fromLsn =>
      some { s with subscription := .scanning rx fromLsn fromLsn s.log.nextLsn 0 }
    | _ => none
  | .scanNext =>
    match s.subscription with
    | .scanning rx fromLsn cursor tail high =>
      match s.entryAt cursor with
      | none => none
      | some e =>
        match (fromWalRecord e).filter admits with
        | some env => some { s.deliver (e.lsn, env) with
            subscription := .scanning rx fromLsn (cursor + 1) tail e.lsn }
        | none => some { s with subscription := .scanning rx fromLsn (cursor + 1) tail high }
    | _ => none
  | .scanEnd =>
    match s.subscription with
    | .scanning rx _ cursor tail high =>
      -- the reader goes on at least to the records on disk when it was opened
      if tail ≤ cursor then some { s with subscription := .live rx high } else none
    | _ => none
  | .recv =>
    match s.subscription with
    | .live rx high =>
      if rx < s.bridged then
        match s.published[rx]? with
        | none => none
        | some (n, env) =>
          if env.lsn ≠ 0 ∧ env.lsn ≤ high then
            some { s with subscription := .live (rx + 1) high }
          else if admits env then
            some { s.deliver (n, env) with subscription := .live (rx + 1) high }
          else some { s with subscription := .live (rx + 1) high }
      else none
    | _ => none
  | .disconnect => some { s with subscription := .off }

def run (admits : EventEnvelope → Bool) : Feed → List FeedStep → Option Feed
  | s, [] => some s
  | s, a :: as =>
    match s.step admits a with
    | none => none
    | some s' => run admits s' as

def replays (s : Feed) (lsn : Nat) : Bool :=
  (s.entryAt lsn).any fun e => (fromWalRecord e).any admits

def InStep (s : Feed) : FeedStep → Prop
  | .publish i committedAt rows => ∀ p ∈ s.pending[i]?,
      (∀ q ∈ s.pending.take i, q.eventLsns = []) ∧
      ∀ e ∈ (p.publish s.busLsn committedAt rows).1,
        e.2.lsn = e.1 ∧ admits e.2 = s.replays admits e.1
  | .connect => (∀ e ∈ s.published.drop s.bridged, s.last < e.1) ∧
      ∀ p ∈ s.pending, ∀ n ∈ p.eventLsns, s.last < n
  | _ => True

def InStepRun (admits : EventEnvelope → Bool) : Feed → List FeedStep → Prop
  | _, [] => True
  | s, a :: as => s.InStep admits a ∧ ∀ s' ∈ s.step admits a, InStepRun admits s' as

def CaughtUp : Prop := ∃ high, s.subscription = .live s.published.length high

end Feed

open Feed
section
variable {w : Write FeedPhase} {n : Nat}

lemma FeedPhase.isSome_toEnvelope (phase : FeedPhase) (caller : Caller) (committedAt : Nanos)
    (rows : MemoryRows) : (phase.toEnvelope caller committedAt rows).isSome =
      (phase.toEnvelope caller 0 fun _ => none).isSome := by
  cases phase with
  | graph record => rfl
  | substrate p =>
    cases p with
    | link l => rfl
    | unlink key => rfl
    | memory p =>
      cases p with
      | tombstoneMemory id mode now =>
        simp only [FeedPhase.toEnvelope]
        cases rows id <;> rfl
      | _ => rfl

lemma FeedPhase.isSome_walPayload {phase : FeedPhase} {caller : Caller}
    (h : (phase.toEnvelope caller 0 fun _ => none).isSome) (writeId : WriteId) :
    (phase.walPayload writeId caller).isSome := by
  cases phase with
  | graph record => rfl
  | substrate p =>
    cases p with
    | link l => rfl
    | unlink key => rfl
    | memory p =>
      cases p with
      | upsertMemory m => rfl
      | tombstoneMemory id mode now => rfl
      | _ => cases h

lemma map_fst_toList (o : Option EventEnvelope) (n : Nat) :
    (o.toList.map fun env => (n, env)).map fst = if o.isSome then [n] else [] := by
  cases o <;> rfl

lemma phaseEvents_lsns (w : Write FeedPhase) (committedAt : Nanos)
    (rows : MemoryRows) (n : Nat) (phases : List FeedPhase) :
    (phaseEvents w committedAt rows n phases).map fst =
      (phaseEvents w 0 (fun _ => none) n phases).map fst := by
  induction phases generalizing n with
  | nil => rfl
  | cons phase phases ih =>
    simp only [phaseEvents, map_append, map_fst_toList, ih]
    rw [phase.isSome_toEnvelope w.toCaller committedAt rows]

lemma stampEvents_lsns (busLsn : Nat) (events : List (Nat × EventEnvelope)) :
    (stampEvents busLsn events).map fst = events.map fst := by
  induction events generalizing busLsn with
  | nil => rfl
  | cons e events ih => simp only [stampEvents, map_cons, ih]

lemma PendingEvent.publish_lsns (busLsn : Nat) (committedAt : Nanos) (rows : MemoryRows) :
    (p.publish busLsn committedAt rows).1.map fst = p.eventLsns := by
  cases p with
  | write w recordLsn =>
    simp only [publish, stampEvents_lsns]
    exact phaseEvents_lsns w committedAt rows recordLsn w.phases
  | notification n lsn => rfl

lemma phaseEvents_bounds (w : Write FeedPhase) (n : Nat) (phases : List FeedPhase) :
    ((phaseEvents w 0 (fun _ => none) n phases).map fst).Pairwise (· < ·) ∧
      ∀ x ∈ (phaseEvents w 0 (fun _ => none) n phases).map fst,
        n ≤ x ∧ x < n + (phases.filterMap (FeedPhase.walPayload w.writeId w.toCaller)).length := by
  induction phases generalizing n with
  | nil => exact ⟨List.Pairwise.nil, by simp [phaseEvents]⟩
  | cons phase phases ih =>
    simp only [phaseEvents, map_append, map_fst_toList]
    cases hp : phase.walPayload w.writeId w.toCaller with
    | none =>
      -- without a record the phase has no event
      have hnone : (phase.toEnvelope w.toCaller 0 fun _ => none).isSome = false := by
        cases he : (phase.toEnvelope w.toCaller 0 fun _ => none).isSome with
        | false => rfl
        | true =>
          have hsome := FeedPhase.isSome_walPayload he w.writeId
          rw [hp] at hsome
          cases hsome
      rw [filterMap_cons_none hp]
      simpa [hnone] using ih n
    | some payload =>
      obtain ⟨hsort, hbds⟩ := ih (n + 1)
      rw [filterMap_cons_some hp]
      simp only [isSome_some, if_true, length_cons]
      cases (phase.toEnvelope w.toCaller 0 fun _ => none).isSome with
      | false =>
        refine ⟨by simpa using hsort, ?_⟩
        intro x hx
        have hx := hbds x (by simpa using hx)
        omega
      | true =>
        refine ⟨pairwise_append.mpr ⟨pairwise_singleton .., hsort, ?_⟩, ?_⟩
        · intro a ha b hb
          have hb := hbds b hb
          rw [if_pos rfl, mem_singleton] at ha
          omega
        · intro x hx
          rcases mem_append.mp hx with hx | hx
          · rw [if_pos rfl, mem_singleton] at hx
            omega
          · have hx := hbds x hx
            omega
end

namespace Feed
variable {admits : EventEnvelope → Bool} {s s' : Feed} {a : FeedStep} {m : State}

lemma eventLsns_submit (s : Feed) (w : Write FeedPhase) :
    (write w (s.firstRecordLsn w)).eventLsns.Pairwise (· < ·) ∧
      ∀ x ∈ (write w (s.firstRecordLsn w)).eventLsns,
        s.log.nextLsn ≤ x ∧ x < s.log.nextLsn + (w.walBatch feedEngine).length := by
  obtain ⟨hsort, hbds⟩ := phaseEvents_bounds w (s.firstRecordLsn w) w.phases
  refine ⟨hsort, ?_⟩
  intro x hx
  have hx := hbds x hx
  change s.firstRecordLsn w ≤ x ∧ x < s.firstRecordLsn w +
    (w.phases.filterMap (feedEngine.walPayload w.writeId w.toCaller)).length at hx
  unfold firstRecordLsn Write.walBatch at hx
  unfold Write.walBatch
  generalize w.phases.filterMap (feedEngine.walPayload w.writeId w.toCaller) = mapped at hx ⊢
  match mapped, hx with
  | [], hx =>
    simp only [length_nil] at hx
    omega
  | [p], hx =>
    exact hx
  | p :: q :: ps, hx =>
    simp only [length_cons, length_append, length_map, length_nil] at hx ⊢
    split at hx <;> omega

variable {pending : List PendingEvent} {e : FeedEntry} {batch : List (LogPayload FeedPayload)}
  {lsn : Nat} {env : EventEnvelope}

lemma entryAt_appendLog {now : Nanos}
    (h : lsn < s.log.nextLsn ∨ s.log.nextLsn + batch.length ≤ lsn) :
    (s.appendLog now batch pending).entryAt lsn = s.entryAt lsn := by
  have hnone : (stamp now s.log.nextLsn batch).find? (fun e => e.lsn = lsn) = none := by
    refine List.find?_eq_none.mpr ?_
    intro e he
    have hlen : (stamp now s.log.nextLsn batch).length = batch.length := by
      rw [← length_map, map_payload_stamp]
    have hbds := (stamp_numbered now s.log.nextLsn batch).bounds e he
    simp only [decide_eq_true_eq]
    omega
  show (s.log.entries ++ stamp now s.log.nextLsn batch).find? _ = _
  rw [List.find?_append, hnone, or_none]
  rfl

lemma entryAt_lsn (h : s.entryAt lsn = some e) : e.lsn = lsn := by
  simpa using List.find?_some h

lemma entryAt_le (h : s.entryAt lsn = some e) : lsn < s.log.nextLsn := by
  have hbds := s.log.numbered.bounds e (mem_of_find?_eq_some h)
  rw [entryAt_lsn h] at hbds
  exact hbds.2

lemma replays_eq (h : s.entryAt lsn = some e) :
    s.replays admits lsn = (fromWalRecord e).any admits := by
  rw [replays, h, any_some]

lemma fromWalRecord_lsn (h : fromWalRecord e = some env) : env.lsn = e.lsn := by
  unfold fromWalRecord at h
  split at h
  · obtain ⟨_, _, rfl⟩ := map_eq_some_iff.mp h
    rfl
  · cases h

inductive PhaseModels : Subscription → Phase → Prop
  | off : PhaseModels .off .off
  | waiting {rx base : Nat} : PhaseModels (.waiting rx (base + 1)) (.waiting rx base)
  | scanning {rx base cursor tail high : Nat} :
      PhaseModels (.scanning rx (base + 1) cursor tail high) (.scanning rx base cursor tail high)
  | live {rx base high : Nat} : PhaseModels (.live rx high) (.live rx base high)

open PhaseModels

structure Models (admits : EventEnvelope → Bool) (s : Feed) (m : State) : Prop where
  top : m.top + 1 = s.log.nextLsn
  wanted : m.wanted = s.replays admits
  owed : m.owed = s.pending.flatMap eventLsns
  sent : m.sent = s.published.map fst
  hub : m.hub = s.bridged
  last : m.last = s.last
  delivered : m.delivered = s.delivered.map fst
  phase : PhaseModels s.subscription m.phase
  positive : ∀ n ∈ m.sent ++ m.owed, 0 < n
  stamped : ∀ e ∈ s.published, e.2.lsn = e.1 ∧ admits e.2 = s.replays admits e.1
  framed : ∀ d ∈ s.delivered, d.2.lsn = d.1

lemma Models.sub {sub : Subscription} (hm : s.Models admits m) (hsub : s.subscription = sub) :
    ∃ q, m.phase = q ∧ PhaseModels sub q :=
  ⟨_, rfl, hsub ▸ hm.phase⟩

lemma Models.appendLog (hm : s.Models admits m) (hsnd : Sound m) {now : Nanos}
    (hsort : (pending.flatMap eventLsns).Pairwise (· < ·)) (hbds : ∀ x ∈ pending.flatMap eventLsns,
      s.log.nextLsn ≤ x ∧ x < s.log.nextLsn + batch.length) :
    ∃ m', Steps m m' ∧ (s.appendLog now batch pending).Models admits m' := by
  have htop := hm.top
  have hreplays : ∀ n, n ≤ m.top ∨ m.top + batch.length < n →
      (s.appendLog now batch pending).replays admits n = s.replays admits n := by
    intro n hn
    rw [replays, entryAt_appendLog (by omega), replays]
  refine ⟨_, steps_append batch.length (f := (s.appendLog now batch pending).replays admits)
    (fun n hn => ?_) hsort (fun n hn => ?_), ?_, rfl, ?_, hm.sent, hm.hub, hm.last, hm.delivered,
    hm.phase, ?_, ?_, hm.framed⟩
  · rw [hm.wanted]
    exact hreplays n hn
  · have hn := hbds n hn
    omega
  · have hnext := s.log.nextLsn_append now batch
    show m.top + batch.length + 1 = (s.log.append now batch).nextLsn
    omega
  · show m.owed ++ _ = (s.pending ++ pending).flatMap eventLsns
    rw [hm.owed, flatMap_append]
  · intro n hn
    rw [← append_assoc] at hn
    rcases mem_append.mp hn with hn | hn
    · exact hm.positive n hn
    · have hn := hbds n hn
      omega
  · intro e he
    obtain ⟨hlsn, hadmits⟩ := hm.stamped e he
    have hmem : e.1 ∈ m.sent := by
      rw [hm.sent]
      exact List.mem_map_of_mem he
    rw [hreplays e.1 (.inl (hsnd.below e.1 (mem_append_left _ hmem)))]
    exact ⟨hlsn, hadmits⟩

lemma Models.appendSilent (hm : s.Models admits m) (hsnd : Sound m) (now : Nanos)
    (payload : LogPayload FeedPayload) :
    ∃ m', Steps m m' ∧ (s.appendLog now [payload] []).Models admits m' :=
  hm.appendLog hsnd List.Pairwise.nil (by simp)

lemma flatMap_eraseIdx {i : Nat} {p : PendingEvent} (hp : pending[i]? = some p)
    (hfst : ∀ q ∈ pending.take i, q.eventLsns = []) : pending.flatMap eventLsns =
      p.eventLsns ++ (pending.eraseIdx i).flatMap eventLsns := by
  obtain ⟨hlt, hget⟩ := List.getElem?_eq_some_iff.mp hp
  have hnil : (pending.take i).flatMap eventLsns = [] := flatMap_eq_nil_iff.mpr hfst
  have hcut : pending = pending.take i ++ p :: pending.drop (i + 1) := by
    rw [← hget, ← drop_eq_getElem_cons hlt, take_append_drop]
  rw [eraseIdx_eq_take_drop_succ, flatMap_append, hnil, nil_append]
  conv_lhs => rw [hcut, flatMap_append, hnil, nil_append, flatMap_cons]

lemma Models.publish (hm : s.Models admits m) {i : Nat} {p : PendingEvent}
    {committedAt : Nanos} {rows : MemoryId → Option (SessionId × MemoryKind)}
    (hp : s.pending[i]? = some p) (hfst : ∀ q ∈ s.pending.take i, q.eventLsns = [])
    (hts : ∀ e ∈ (p.publish s.busLsn committedAt rows).1,
      e.2.lsn = e.1 ∧ admits e.2 = s.replays admits e.1) :
    ∃ m', Steps m m' ∧ Models admits { s with
      pending := s.pending.eraseIdx i
      published := s.published ++ (p.publish s.busLsn committedAt rows).1
      busLsn := (p.publish s.busLsn committedAt rows).2 } m' := by
  have howed := hm.owed.trans (flatMap_eraseIdx hp hfst)
  refine ⟨_, steps_send howed, { hm with owed := rfl, sent := ?_, positive := ?_, stamped := ?_ }⟩
  · rw [map_append, p.publish_lsns, hm.sent]
  · intro n hn
    refine hm.positive n ?_
    rw [howed, ← append_assoc]
    exact hn
  · intro e he
    rcases mem_append.mp he with he | he
    · exact hm.stamped e he
    · exact hts e he

lemma Models.scanNext (hm : s.Models admits m) {rx fromLsn cursor tail high : Nat}
    (hsub : s.subscription = .scanning rx fromLsn cursor tail high) (he : s.entryAt cursor = some e)
    (hs : s.step admits .scanNext = some s') : ∃ m', Steps m m' ∧ s'.Models admits m' := by
  have hlsn := entryAt_lsn he
  have htop : cursor ≤ m.top := by
    have hlt := entryAt_le he
    have hnext := hm.top
    omega
  obtain ⟨_, hq, hph⟩ := hm.sub hsub
  cases hph with
  | @scanning rx base cursor tail high =>
    simp only [step, hsub, he] at hs
    cases henv : (fromWalRecord e).filter admits with
    | none =>
      simp only [henv, Option.some.injEq] at hs
      subst hs
      have hwanted : m.wanted cursor = false := by
        rw [hm.wanted, replays_eq he]
        cases hrec : fromWalRecord e with
        | none => rfl
        | some env => simpa [hrec] using henv
      exact ⟨_, .single (pass hq htop hwanted), { hm with phase := scanning }⟩
    | some env =>
      simp only [henv, Option.some.injEq] at hs
      subst hs
      obtain ⟨hrec, hadmits⟩ := filter_eq_some_iff.mp henv
      have henvlsn := fromWalRecord_lsn hrec
      have hwanted : m.wanted cursor = true := by
        rw [hm.wanted, replays_eq he, hrec]
        exact hadmits
      refine ⟨_, .single (scan hq htop hwanted),
        { hm with last := ?_, delivered := ?_, phase := ?_, framed := ?_ }⟩
      · exact (henvlsn.trans hlsn).symm
      · show m.delivered ++ [cursor] = (s.delivered ++ [(e.lsn, env)]).map fst
        rw [map_append, hm.delivered, hlsn]
        rfl
      · rw [hlsn]
        exact scanning
      · intro d hd
        rcases mem_append.mp hd with hd | hd
        · exact hm.framed d hd
        · rw [mem_singleton.mp hd]
          exact henvlsn

lemma Models.recv (hm : s.Models admits m) {rx high n : Nat}
    (hsub : s.subscription = .live rx high) (hrx : rx < s.bridged)
    (hget : s.published[rx]? = some (n, env)) (hs : s.step admits .recv = some s') :
    ∃ m', Steps m m' ∧ s'.Models admits m' := by
  have hmem : (n, env) ∈ s.published := mem_of_getElem? hget
  obtain ⟨hlsn, hadmits⟩ := hm.stamped (n, env) hmem
  have hlsn : env.lsn = n := hlsn
  have hsent : m.sent[rx]? = some n := by
    rw [hm.sent, List.getElem?_map, hget]
    rfl
  have hpos : 0 < n := by
    refine hm.positive n (mem_append_left _ ?_)
    rw [hm.sent]
    exact List.mem_map_of_mem hmem
  have hhub : rx < m.hub := hm.hub ▸ hrx
  have hwanted : m.wanted n = admits env := by
    rw [hm.wanted]
    exact hadmits.symm
  obtain ⟨_, hq, hph⟩ := hm.sub hsub
  cases hph with
  | @live rx base high =>
    have hignore : ∀ hskip : n ≤ high ∨ m.wanted n = false,
        ∃ m', Steps m m' ∧
          Models admits { s with subscription := .live (rx + 1) high } m' := by
      intro hskip
      exact ⟨_, .single (ignore hq hhub hsent hskip), { hm with phase := live }⟩
    simp only [step, hsub, if_pos hrx, hget] at hs
    split at hs
    next hold =>
      cases hs
      exact hignore (.inl (by omega))
    next hnew =>
      have hhigh : high < n := by
        by_contra hle
        exact hnew ⟨by omega, by omega⟩
      split at hs
      next hpass =>
        cases hs
        have hreceive := receive hq hhub hsent hhigh (hwanted.trans hpass)
        refine ⟨_, .single hreceive,
          { hm with last := hlsn.symm, delivered := ?_, phase := live, framed := ?_ }⟩
        · show m.delivered ++ [n] = (s.delivered ++ [(n, env)]).map fst
          rw [map_append, hm.delivered]
          rfl
        · intro d hd
          rcases mem_append.mp hd with hd | hd
          · exact hm.framed d hd
          · rw [mem_singleton.mp hd]
            exact hlsn
      next hfail =>
        cases hs
        exact hignore (.inr (by rw [hwanted]; simpa using hfail))

lemma Models.step (hm : s.Models admits m) (hsnd : Sound m) (hin : s.InStep admits a)
    (hs : s.step admits a = some s') : ∃ m', Steps m m' ∧ s'.Models admits m' := by
  cases a with
  | submit now w =>
    cases hs
    obtain ⟨hsort, hbds⟩ := s.eventLsns_submit w
    exact hm.appendLog hsnd (by simpa using hsort) (by simpa using hbds)
  | checkpointBegin now checkpointId =>
    cases hs
    exact hm.appendSilent hsnd now _
  | checkpointEnd now checkpointId durable =>
    cases hs
    exact hm.appendSilent hsnd now _
  | notify now n =>
    cases hs
    refine hm.appendLog hsnd ?_ ?_
    · simp [eventLsns, events]
    · simp [eventLsns, events]
  | publish i committedAt rows =>
    cases hp : s.pending[i]? with
    | none => simp [step, hp] at hs
    | some p =>
      simp only [step, hp, Option.some.injEq] at hs
      subst hs
      obtain ⟨hfst, hts⟩ := hin p hp
      exact hm.publish hp hfst hts
  | bridge =>
    simp only [step, ite_none_right_eq_some, Option.some.injEq] at hs
    obtain ⟨hlt, rfl⟩ := hs
    have hforward : m.hub < m.sent.length := by
      rw [hm.hub, hm.sent, length_map]
      exact hlt
    exact ⟨_, .single (forward hforward), { hm with hub := congrArg (· + 1) hm.hub }⟩
  | connect =>
    simp only [step, ite_none_right_eq_some, ite_none_left_eq_some, Option.some.injEq] at hs
    obtain ⟨_, _, rfl⟩ := hs
    obtain ⟨hsent, hpend⟩ := hin
    refine ⟨_, .single (connect ?_), { hm with phase := ?_ }⟩
    · intro n hn
      rw [hm.last]
      rw [hm.sent, hm.hub, hm.owed, ← map_drop] at hn
      rcases mem_append.mp hn with hn | hn
      · obtain ⟨e, he, rfl⟩ := List.mem_map.mp hn
        exact hsent e he
      · obtain ⟨p, hp, hn⟩ := mem_flatMap.mp hn
        exact hpend p hp n hn
    · rw [hm.hub, hm.last]
      exact waiting
  | scanStart =>
    simp only [step] at hs
    split at hs
    next rx fromLsn hsub =>
      cases hs
      obtain ⟨_, hq, ⟨⟩⟩ := hm.sub hsub
      refine ⟨_, .single (openLog hq), { hm with phase := ?_ }⟩
      rw [hm.top]
      exact scanning
    · cases hs
  | scanNext =>
    have hstep := hs
    simp only [step] at hs
    split at hs
    next rx fromLsn cursor tail high hsub =>
      cases he : s.entryAt cursor with
      | none => simp [he] at hs
      | some e => exact hm.scanNext hsub he hstep
    · cases hs
  | scanEnd =>
    simp only [step] at hs
    split at hs
    next rx fromLsn cursor tail high hsub =>
      simp only [ite_none_right_eq_some, Option.some.injEq] at hs
      obtain ⟨htail, rfl⟩ := hs
      obtain ⟨_, hq, ⟨⟩⟩ := hm.sub hsub
      exact ⟨_, .single (caughtUp hq htail), { hm with phase := live }⟩
    · cases hs
  | recv =>
    have hstep := hs
    simp only [step] at hs
    split at hs
    next rx high hsub =>
      simp only [ite_none_right_eq_some] at hs
      obtain ⟨hrx, hs⟩ := hs
      cases hget : s.published[rx]? with
      | none => simp [hget] at hs
      | some e => exact hm.recv hsub hrx hget hstep
    · cases hs
  | disconnect =>
    cases hs
    exact ⟨_, .single drop, { hm with phase := off }⟩

lemma start_models (admits : EventEnvelope → Bool) (log : Journal (LogPayload FeedPayload))
    (last : Nat) : (start log last).Models admits
      ⟨log.nextLsn - 1, (start log last).replays admits, [], [], 0, last, [], .off⟩ := by
  have hpos := log.first_pos
  refine ⟨?_, rfl, rfl, rfl, rfl, rfl, rfl, off, by simp, ?_, ?_⟩
  · show log.nextLsn - 1 + 1 = log.nextLsn
    have hnext : log.nextLsn = log.first + log.entries.length := rfl
    omega
  · intro e he
    cases he
  · intro d hd
    cases hd

lemma run_models {as : List FeedStep} (hm : s.Models admits m) (hsnd : Sound m)
    (hin : InStepRun admits s as) (hrun : s.run admits as = some s') :
    ∃ m', Sound m' ∧ s'.Models admits m' := by
  induction as generalizing s m with
  | nil =>
    cases hrun
    exact ⟨m, hsnd, hm⟩
  | cons a as ih =>
    cases hs : s.step admits a with
    | none => simp [run, hs] at hrun
    | some mid =>
      simp only [run, hs] at hrun
      obtain ⟨m', hsteps, hm'⟩ := hm.step hsnd hin.1 hs
      exact ih hm' (hsnd.steps hsteps) (hin.2 mid hs) hrun

lemma length_filter_of_rising {l : List (Nat × EventEnvelope)} {n : Nat}
    (h : (l.map fst).Pairwise (· < ·)) (hn : n ∈ l.map fst) :
    (l.filter fun d => d.1 = n).length = 1 := by
  have hcnt : (l.map fst).count n = 1 := count_eq_one_of_mem (h.imp fun hlt => Nat.ne_of_lt hlt) hn
  rw [← hcnt, List.count, countP_map, countP_eq_length_filter]
  congr 1

/-- Along a run that meets the condition the frames have rising LSNs, and once the subscriber has
caught up they hold every published event of its space exactly once. -/
theorem delivers_exactly_once {below : UInt32 → UInt32 → Bool}
    {similar : Embedding → SimilarityMatch → Bool} {filter : ParsedFilter} {space : SpaceId}
    (hfilter : ∀ env : EventEnvelope, env.spaceId = space → filter.matches below similar env = true)
    {log : Journal (LogPayload FeedPayload)} {last : Nat} (hlast : last < log.nextLsn)
    {as : List FeedStep} (hin : InStepRun (filter.matches below similar) (start log last) as)
    (hrun : (start log last).run (filter.matches below similar) as = some s) :
    (s.delivered.map fun d => d.2.lsn).Pairwise (· < ·) ∧
      (s.CaughtUp → ∀ e ∈ s.published, e.2.spaceId = space →
        (s.delivered.filter fun d => d.1 = e.1).length = 1) := by
  have hsnd : Sound ⟨log.nextLsn - 1,
      (start log last).replays (filter.matches below similar), [], [], 0, last, [], .off⟩ :=
    ⟨List.Pairwise.nil, by simp, Nat.le_sub_one_of_lt hlast, List.Pairwise.nil, by simp,
      Nat.le_refl 0, by simp, trivial⟩
  obtain ⟨m, hsnd, hm⟩ := run_models (start_models _ log last) hsnd hin hrun
  have hrising := hsnd.rising
  rw [hm.delivered] at hrising
  refine ⟨?_, ?_⟩
  · have hlsns : (s.delivered.map fun d => d.2.lsn) = s.delivered.map fst :=
      map_congr_left hm.framed
    rw [hlsns]
    exact hrising
  · rintro ⟨high, hsub⟩ e he hsp
    obtain ⟨_, hq, ⟨⟩⟩ := hm.sub hsub
    have hlength : s.published.length = m.sent.length := by
      rw [hm.sent, length_map]
    have hwanted : m.wanted e.1 = true := by
      rw [hm.wanted, ← (hm.stamped e he).2]
      exact hfilter e.2 hsp
    have hmem : e.1 ∈ m.sent := by
      rw [hm.sent]
      exact List.mem_map_of_mem he
    have hdlv := hsnd.complete hq hlength e.1 hmem hwanted
    rw [hm.delivered] at hdlv
    exact length_filter_of_rising hrising hdlv

instance (admits : EventEnvelope → Bool) (s : Feed) (a : FeedStep) :
    Decidable (s.InStep admits a) := by
  unfold InStep
  split <;> infer_instance

instance InStepRun.decidable (admits : EventEnvelope → Bool) :
    ∀ (s : Feed) (as : List FeedStep), Decidable (InStepRun admits s as)
  | _, [] => isTrue trivial
  | s, a :: as =>
    have := fun s' => InStepRun.decidable admits s' as
    inferInstanceAs (Decidable (s.InStep admits a ∧ ∀ s' ∈ s.step admits a, InStepRun admits s' as))

def emptyLog : Journal (LogPayload FeedPayload) := ⟨1, [], Nat.one_pos, trivial⟩

def feedEncode : Write FeedPhase :=
  { scope := ⟨1, 7⟩, spaceString := "notes", writeId := 1, startedAt := 1, requestHash := none
    phases := [.substrate (.memory (.upsertMemory
      { id := 1, text := "a", vector := [], kind := .episodic, salience := 0, sessionId := 0
        createdAt := 1, occurredAt := none, arenaSlot := 1, embeddingModelFp := 0
        contentHash := none, deduplicate := false }))] }

def spaceFilter : ParsedFilter := ⟨none, none, some [7], none, none, none⟩

def spaceAdmits : EventEnvelope → Bool := spaceFilter.matches (fun _ _ => false) (fun _ _ => false)

def encodeThenReconnect : List FeedStep :=
  .connect :: ([.scanStart, .scanEnd, .submit 1 feedEncode] ++
    .publish 0 2 (fun _ => none) :: ([.bridge, .recv, .disconnect] ++
      .connect :: ([.scanStart, .scanEnd] ++ [])))

def checkpointThenReconnect : List FeedStep :=
  [.checkpointBegin 1 0, .checkpointEnd 1 0 0, .connect, .scanStart, .scanNext, .scanNext, .scanEnd,
    .submit 1 feedEncode, .publish 0 2 (fun _ => none), .bridge, .recv, .disconnect, .connect,
    .scanStart, .scanNext, .scanNext, .scanEnd]

theorem encode_delivered_once :
    ∃ s, (start emptyLog 0).run spaceAdmits encodeThenReconnect = some s ∧ s.CaughtUp ∧
      ∀ e ∈ s.published, e.2.spaceId = 7 → (s.delivered.filter fun d => d.1 = e.1).length = 1 := by
  have hin : InStepRun spaceAdmits (start emptyLog 0) encodeThenReconnect := by decide +kernel
  obtain ⟨s, hrun⟩ : ∃ s, (start emptyLog 0).run spaceAdmits encodeThenReconnect = some s :=
    ⟨_, rfl⟩
  have hcaught : s.CaughtUp := by
    cases hrun
    exact ⟨0, rfl⟩
  refine ⟨s, hrun, hcaught, ?_⟩
  refine (delivers_exactly_once ?_ (by decide) hin hrun).2 hcaught
  intro env hsp
  simp [spaceFilter, ParsedFilter.matches, hsp]

/-- The bus numbers the encode 1 and the log numbers it 3, so the reconnect from 2 delivers it
again. -/
theorem encode_delivered_twice :
    ∃ s, (start emptyLog 0).run spaceAdmits checkpointThenReconnect = some s ∧ s.CaughtUp ∧
      ∃ e ∈ s.published, e.2.spaceId = 7 ∧ (s.delivered.filter fun d => d.1 = e.1).length = 2 := by
  obtain ⟨s, hrun⟩ : ∃ s, (start emptyLog 0).run spaceAdmits checkpointThenReconnect = some s :=
    ⟨_, rfl⟩
  refine ⟨s, hrun, ?_⟩
  cases hrun
  exact ⟨⟨3, rfl⟩, _, mem_cons_self, rfl, rfl⟩

end Feed
end BrainDb
