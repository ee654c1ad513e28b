import BrainDb.Base.Journal
import BrainDb.Index.Shared
import BrainDb.Store.MemoryReplay

namespace BrainDb
open Table List

structure Write (Ph : Type) extends Caller where
  writeId : WriteId
  startedAt : Nanos
  phases : List Ph
  requestHash : Option Digest

structure WriteAck (A : Type) where
  writeId : WriteId
  committedAt : Nanos
  (lsnFirst lsnLast : Nat)
  phaseAcks : List A
  deriving DecidableEq

structure IdempotencyEntry (A : Type) where
  responseKind : ResponseKind
  memoryId : Option MemoryId
  response : Option (WriteAck A)
  requestHash : Option Digest
  createdAt : Nanos
  lsn : Nat

structure HotEntry (A : Type) where
  ack : WriteAck A
  requestHash : Option Digest
  createdAt : Nanos

inductive CacheLookup (A : Type) where
  | miss
  | hit (ack : WriteAck A)
  | conflict
  deriving DecidableEq

inductive LogPayload (P : Type) where
  | txnBegin (txnId : WriteId) (expectedRecordCount : Nat)
  | record (p : P)
  | txnCommit (txnId : WriteId)
  | checkpointBegin (checkpointId : Nat)
  | checkpointEnd (checkpointId durable : Nat)

structure Db (T A : Type) where
  tables : T
  idempotency : Table WriteId (IdempotencyEntry A)

structure Shard (T P A : Type) where
  db : Db T A
  hot : Table WriteId (HotEntry A)
  log : Journal (LogPayload P)
  index : SharedHnsw
  committedWatermark : Nat

structure Engine (T Ph P A : Type) where
  dispatch : Caller → T → Ph → Except ApplyError (T × A)
  walPayload : WriteId → Caller → Ph → Option P
  hnswEffect : SharedHnsw → Ph → SharedHnsw

inductive WriterError where
  | conflict (writeId : WriteId)
  | refused (e : ApplyError)

def idempotencyTtl : Nat := 24 * 60 * 60 * 1000000000

variable {A : Type}

section

def classify (stored provided : Option Digest) (ack : WriteAck A) : CacheLookup A :=
  match stored, provided with
  | some s, some p => if s ≠ p then .conflict else .hit ack
  | _, _ => .hit ack

lemma classify_shape (stored provided : Option Digest) :
    (∀ ack : WriteAck A, classify stored provided ack = .hit ack) ∨
      ∀ ack : WriteAck A, classify stored provided ack = .conflict := by
  unfold classify
  split
  · split
    · exact .inr fun _ => rfl
    · exact .inl fun _ => rfl
  · exact .inl fun _ => rfl

lemma classify_cases (stored provided : Option Digest) (ack : WriteAck A) :
    classify stored provided ack = .hit ack ∨ classify stored provided ack = .conflict :=
  (classify_shape stored provided).imp (fun h => h ack) fun h => h ack

def fresh (createdAt now : Nanos) : Bool :=
  now ≤ saturatingAdd u64Max createdAt idempotencyTtl

def durableEntry (idempotency : Table WriteId (IdempotencyEntry A)) (now : Nanos)
    (id : WriteId) : Option (HotEntry A) :=
  match idempotency.get id with
  | some e =>
    if fresh e.createdAt now then e.response.map fun ack => ⟨ack, e.requestHash, e.createdAt⟩
    else none
  | none => none
end

def replayedEntry {A : Type} (kind : ResponseKind) (id : MemoryId) (timestamp : Nanos)
    (lsn : Nat) : IdempotencyEntry A :=
  { responseKind := kind, memoryId := some id, response := none, requestHash := none
    createdAt := timestamp, lsn }

section
variable {T Ph P : Type}

def Db.replayEntry (replay : Nat → Nanos → T → P → T)
    (request : P → Option (WriteId × ResponseKind × MemoryId)) (db : Db T A)
    (e : Entry (LogPayload P)) : Db T A :=
  match e.payload with
  | .record p =>
    { tables := replay e.lsn e.timestamp db.tables p
      idempotency := match request p with
        | some (requestId, kind, id) =>
          db.idempotency.insert requestId (replayedEntry kind id e.timestamp e.lsn)
        | none => db.idempotency }
  | _ => db

variable (s : Shard T P A)

def Shard.cachedEntry (now : Nanos) (id : WriteId) : Option (HotEntry A) :=
  match s.hot.get id with
  | some e => if fresh e.createdAt now then some e else durableEntry s.db.idempotency now id
  | none => durableEntry s.db.idempotency now id

def Shard.lookupWithHash (now : Nanos) (id : WriteId) (requestHash : Option Digest) :
    CacheLookup A × Shard T P A :=
  match s.cachedEntry now id with
  | none => (.miss, s)
  | some e =>
    match classify e.requestHash requestHash e.ack with
    | .hit ack => (.hit ack, { s with hot := s.hot.insert id e })
    | outcome => (outcome, s)

open Shard
variable (eng : Engine T Ph P A)

def Write.walBatch (w : Write Ph) : List (LogPayload P) :=
  match w.phases.filterMap (eng.walPayload w.writeId w.toCaller) with
  | [] => []
  | [p] => [.record p]
  | ps => .txnBegin w.writeId ps.length :: (ps.map .record ++ [.txnCommit w.writeId])

def applyPhases (eng : Engine T Ph P A) (caller : Caller) :
    List Ph → T → Except ApplyError (T × List A)
  | [], t => .ok (t, [])
  | ph :: phs, t =>
    match eng.dispatch caller t ph with
    | .error e => .error e
    | .ok (t', ack) => (applyPhases eng caller phs t').map fun r => (r.1, ack :: r.2)

def Shard.appended (now : Nanos) (w : Write Ph) (s : Shard T P A) : Shard T P A :=
  { s with
    log := s.log.append (if w.startedAt ≠ 0 then w.startedAt else now) (w.walBatch eng)
    index := w.phases.foldl eng.hnswEffect s.index }

def submitAck (now : Nanos) (w : Write Ph) (s : Shard T P A) (acks : List A) : WriteAck A :=
  let batch := w.walBatch eng
  { writeId := w.writeId
    committedAt := now
    lsnFirst := if batch.isEmpty then 0 else s.log.nextLsn
    lsnLast := if batch.isEmpty then 0 else s.log.nextLsn + batch.length - 1
    phaseAcks := acks }

def idempotencyEntryFor (ack : WriteAck A) (requestHash : Option Digest) (now : Nanos) :
    IdempotencyEntry A :=
  { responseKind := .unknown, memoryId := none, response := some ack
    requestHash := requestHash.filter (· ≠ 0), createdAt := now, lsn := ack.lsnFirst }

def submit (now : Nanos) (w : Write Ph) (s : Shard T P A) :
    Except WriterError (WriteAck A) × Shard T P A :=
  match s.lookupWithHash now w.writeId w.requestHash with
  | (.hit ack, s) => (.ok ack, s)
  | (.conflict, s) => (.error (.conflict w.writeId), s)
  | (.miss, _) =>
    match applyPhases eng w.toCaller w.phases s.db.tables with
    | .error e => (.error (.refused e), s.appended eng now w)
    | .ok (tables, acks) =>
      let ack := submitAck eng now w s acks
      (.ok ack, { s.appended eng now w with
        db := {
          tables
          idempotency := s.db.idempotency.insert w.writeId
            (idempotencyEntryFor ack w.requestHash now) }
        hot := s.hot.insert w.writeId ⟨ack, w.requestHash, now⟩
        committedWatermark := max s.committedWatermark ack.lsnLast })

inductive SubmitCase (eng : Engine T Ph P A) (now : Nanos) (w : Write Ph) (s s' : Shard T P A) :
    Except WriterError (WriteAck A) → Prop
  | hit {ack : WriteAck A} {hot : Table WriteId (HotEntry A)} :
      (s.lookupWithHash now w.writeId w.requestHash).1 = .hit ack → s' = { s with hot } →
      SubmitCase eng now w s s' (.ok ack)
  | conflict : (s.lookupWithHash now w.writeId w.requestHash).1 = .conflict → s' = s →
      SubmitCase eng now w s s' (.error (.conflict w.writeId))
  | refused {e : ApplyError} : (s.lookupWithHash now w.writeId w.requestHash).1 = .miss →
      applyPhases eng w.toCaller w.phases s.db.tables = .error e → s' = s.appended eng now w →
      SubmitCase eng now w s s' (.error (.refused e))
  | committed {tables : T} {acks : List A} :
      (s.lookupWithHash now w.writeId w.requestHash).1 = .miss →
      applyPhases eng w.toCaller w.phases s.db.tables = .ok (tables, acks) →
      s'.db.tables = tables → s'.log = (s.appended eng now w).log →
      s'.index = (s.appended eng now w).index →
      SubmitCase eng now w s s' (.ok (submitAck eng now w s acks))

lemma Shard.lookupWithHash_state (now : Nanos) (id : WriteId) (requestHash : Option Digest) :
    (∃ ack hot, (s.lookupWithHash now id requestHash) = (.hit ack, { s with hot })) ∨
      s.lookupWithHash now id requestHash = (.conflict, s) ∨
      s.lookupWithHash now id requestHash = (.miss, s) := by
  unfold lookupWithHash
  split
  · exact .inr (.inr rfl)
  next e _ =>
    rcases classify_cases e.requestHash requestHash e.ack with h | h
    · rw [h]
      exact .inl ⟨_, _, rfl⟩
    · rw [h]
      exact .inr (.inl rfl)

lemma submit_cases (now : Nanos) (w : Write Ph) (s : Shard T P A) :
    SubmitCase eng now w s (submit eng now w s).2 (submit eng now w s).1 := by
  unfold submit
  rcases s.lookupWithHash_state now w.writeId w.requestHash with ⟨ack, hot, h⟩ | h | h
  · rw [h]
    exact .hit (by rw [h]) rfl
  · rw [h]
    exact .conflict (by rw [h]) rfl
  · rw [h]
    simp only
    split
    next e he => exact .refused (by rw [h]) he rfl
    next tables acks ht => exact .committed (by rw [h]) ht rfl rfl rfl

variable {s : Shard T P A} {now : Nanos} {id : WriteId} {eng : Engine T Ph P A} {w : Write Ph}

lemma Shard.lookupWithHash_of_miss {requestHash : Option Digest}
    (h : (s.lookupWithHash now id requestHash).1 = .miss) :
    s.lookupWithHash now id requestHash = (.miss, s) := by
  rcases s.lookupWithHash_state now id requestHash with ⟨ack, hot, heq⟩ | heq | heq
  · rw [heq] at h
    cases h
  · rw [heq] at h
    cases h
  · exact heq

lemma submit_commits {tables : T} {acks : List A}
    (hmiss : (s.lookupWithHash now w.writeId w.requestHash).1 = .miss)
    (happ : applyPhases eng w.toCaller w.phases s.db.tables = .ok (tables, acks)) :
    ∃ s', submit eng now w s = (.ok (submitAck eng now w s acks), s') ∧ s'.db.tables = tables := by
  rw [submit, lookupWithHash_of_miss hmiss]
  simp only [happ]
  exact ⟨_, rfl, rfl⟩

lemma submit_db_of_ne_miss (h : (s.lookupWithHash now w.writeId w.requestHash).1 ≠ .miss) :
    (submit eng now w s).2.db = s.db := by
  have hcase := submit_cases eng now w s
  generalize submit eng now w s = out at hcase ⊢
  obtain ⟨result, s'⟩ := out
  cases hcase with
  | hit _ hs => rw [hs]
  | conflict _ hs => rw [hs]
  | refused hmiss => exact absurd hmiss h
  | committed hmiss => exact absurd hmiss h

def Shard.UnusedId (s : Shard T P A) (id : WriteId) : Prop :=
  s.hot.get id = none ∧ s.db.idempotency.get id = none

lemma Shard.UnusedId.lookup_miss (h : s.UnusedId id) (now : Nanos)
    (requestHash : Option Digest) : (s.lookupWithHash now id requestHash).1 = .miss := by
  simp [lookupWithHash, cachedEntry, durableEntry, h.1, h.2]

lemma submit_stamps {ack : WriteAck A}
    (hmiss : (s.lookupWithHash now w.writeId w.requestHash).1 = .miss)
    (hok : (submit eng now w s).1 = .ok ack) : (submit eng now w s).2.db.idempotency.get w.writeId =
        some (idempotencyEntryFor ack w.requestHash now) ∧
      (submit eng now w s).2.hot.get w.writeId = some ⟨ack, w.requestHash, now⟩ := by
  rw [submit, lookupWithHash_of_miss hmiss] at hok ⊢
  cases happ : applyPhases eng w.toCaller w.phases s.db.tables with
  | error e =>
    rw [happ] at hok
    cases hok
  | ok out =>
    rw [happ] at hok
    cases hok
    exact ⟨get_insert_self _ _ _, get_insert_self _ _ _⟩

lemma submit_idempotency_of_miss {ack : WriteAck A}
    (hmiss : (s.lookupWithHash now w.writeId w.requestHash).1 = .miss)
    (hok : (submit eng now w s).1 = .ok ack) : (submit eng now w s).2.db.idempotency.get w.writeId =
      some (idempotencyEntryFor ack w.requestHash now) :=
  (submit_stamps hmiss hok).1

lemma submit_of_hot (eng : Engine T Ph P A) {e : HotEntry A} (h : s.hot.get w.writeId = some e)
    (hnow : fresh e.createdAt now = true) : ∃ hot, hot.get w.writeId = some e ∧ submit eng now w s =
      (match classify e.requestHash w.requestHash e.ack with
        | .hit ack => .ok ack
        | _ => .error (.conflict w.writeId), { s with hot }) := by
  have hcached : s.cachedEntry now w.writeId = some e := by simp [cachedEntry, h, hnow]
  rcases classify_cases e.requestHash w.requestHash e.ack with hc | hc
  · refine ⟨s.hot.insert w.writeId e, get_insert_self _ _ _, ?_⟩
    simp only [submit, lookupWithHash, hcached, hc]
  · refine ⟨s.hot, h, ?_⟩
    simp only [submit, lookupWithHash, hcached, hc]

lemma submit_idempotency_ne (eng : Engine T Ph P A) (now : Nanos) (hne : id ≠ w.writeId)
    (s : Shard T P A) : (submit eng now w s).2.db.idempotency.get id = s.db.idempotency.get id := by
  unfold submit
  rcases s.lookupWithHash_state now w.writeId w.requestHash with ⟨ack, hot, h⟩ | h | h
  · rw [h]
  · rw [h]
  · rw [h]
    simp only
    split
    · rfl
    · exact get_insert_ne _ _ hne

lemma submit_hot_ne (eng : Engine T Ph P A) (now : Nanos) (hne : id ≠ w.writeId)
    (s : Shard T P A) : (submit eng now w s).2.hot.get id = s.hot.get id := by
  have hlookup : (s.lookupWithHash now w.writeId w.requestHash).2.hot.get id = s.hot.get id := by
    unfold lookupWithHash
    split
    · rfl
    · split
      · exact get_insert_ne _ _ hne
      · rfl
  unfold submit
  split
  next heq => rwa [heq] at hlookup
  next heq => rwa [heq] at hlookup
  · split
    · rfl
    · exact get_insert_ne _ _ hne

lemma submit_unusedId (eng : Engine T Ph P A) (now : Nanos) (hne : id ≠ w.writeId)
    (h : s.UnusedId id) : (submit eng now w s).2.UnusedId id :=
  ⟨(submit_hot_ne eng now hne s).trans h.1, (submit_idempotency_ne eng now hne s).trans h.2⟩

lemma applyPhases_cons {caller : Caller} {ph : Ph} {phs : List Ph} {t t' : T} {acks : List A}
    (h : applyPhases eng caller (ph :: phs) t = .ok (t', acks)) :
    ∃ mid ack rest, eng.dispatch caller t ph = .ok (mid, ack) ∧
      applyPhases eng caller phs mid = .ok (t', rest) := by
  unfold applyPhases at h
  split at h
  · cases h
  next mid ack hd =>
    obtain ⟨⟨last, rest⟩, hrest, heq⟩ := ExceptLemmas.map_ok h
    cases heq
    exact ⟨mid, ack, rest, hd, hrest⟩

structure Engine.Observes {O : Type} (eng : Engine T Ph P A) (obs : T → O)
    (act : Caller → O → Ph → O) : Prop where
  dispatch {caller : Caller} {t t' : T} {ph : Ph} {ack : A} :
    eng.dispatch caller t ph = .ok (t', ack) → obs t' = act caller (obs t) ph

namespace Engine.Observes
variable {O : Type} {eng : Engine T Ph P A} {obs : T → O} {act : Caller → O → Ph → O}

lemma applyPhases (h : eng.Observes obs act) {caller : Caller} {phases : List Ph} {t t' : T}
    {acks : List A} (happ : applyPhases eng caller phases t = .ok (t', acks)) :
    obs t' = phases.foldl (act caller) (obs t) := by
  induction phases generalizing t acks with
  | nil =>
    cases happ
    rfl
  | cons ph phs ih =>
    obtain ⟨mid, ack, rest, hd, hu⟩ := applyPhases_cons happ
    rw [ih hu, foldl_cons, h.dispatch hd]

lemma submit (h : eng.Observes obs act) (now : Nanos) (w : Write Ph) (s : Shard T P A) :
    obs (submit eng now w s).2.db.tables = obs s.db.tables ∨
      obs (BrainDb.submit eng now w s).2.db.tables =
        w.phases.foldl (act w.toCaller) (obs s.db.tables) := by
  have hcase := submit_cases eng now w s
  generalize BrainDb.submit eng now w s = out at hcase ⊢
  obtain ⟨result, s'⟩ := out
  change SubmitCase eng now w s s' result at hcase
  cases hcase with
  | hit _ hs => exact .inl (by rw [hs])
  | conflict _ hs => exact .inl (by rw [hs])
  | refused _ _ hs => exact .inl (by rw [hs]; rfl)
  | committed _ happ ht => exact .inr (by rw [ht, h.applyPhases happ])

lemma submit_of_phases (h : eng.Observes obs act)
    (hphases : ∀ ph ∈ w.phases, ∀ o, act w.toCaller o ph = o) (now : Nanos) (s : Shard T P A) :
    obs (BrainDb.submit eng now w s).2.db.tables = obs s.db.tables := by
  rcases h.submit now w s with heq | heq
  · exact heq
  · rw [heq]
    refine foldlRecOn w.phases _ (motive := fun o => o = obs s.db.tables) rfl ?_
    intro o ho ph hmem
    rw [hphases ph hmem, ho]

lemma submit_ok (h : eng.Observes obs act) {s' : Shard T P A} {ack : WriteAck A}
    (hmiss : (s.lookupWithHash now w.writeId w.requestHash).1 = .miss)
    (hok : BrainDb.submit eng now w s = (.ok ack, s')) :
    obs s'.db.tables = w.phases.foldl (act w.toCaller) (obs s.db.tables) := by
  have hcase := submit_cases eng now w s
  rw [hok] at hcase
  cases hcase with
  | hit hhit =>
    rw [hmiss] at hhit
    cases hhit
  | committed _ happ ht => rw [ht, h.applyPhases happ]

end Engine.Observes

lemma submit_log (eng : Engine T Ph P A) (now : Nanos) (w : Write Ph) (s : Shard T P A) :
    (submit eng now w s).2.log = s.log ∨
      ∃ timestamp, (submit eng now w s).2.log = s.log.append timestamp (w.walBatch eng) := by
  have h := submit_cases eng now w s
  generalize submit eng now w s = out at h ⊢
  obtain ⟨result, s'⟩ := out
  cases h with
  | hit _ hs => exact .inl (by rw [hs])
  | conflict _ hs => exact .inl (by rw [hs])
  | refused _ _ hs => exact .inr ⟨_, by rw [hs]; rfl⟩
  | committed _ _ _ hlog => exact .inr ⟨_, hlog⟩

lemma Write.mem_walBatch {p : P} :
    .record p ∈ w.walBatch eng ↔ ∃ ph ∈ w.phases, eng.walPayload w.writeId w.toCaller ph = some p := by
  rw [← mem_filterMap, walBatch]
  split
  next h => simp [h]
  next q h => simp [h]
  next h _ => simp

lemma Write.filterMap_walBatch {B : Type} {f : LogPayload P → Option B}
    (hbegin : ∀ id n, f (.txnBegin id n) = none) (hcomm : ∀ id, f (.txnCommit id) = none) :
    (w.walBatch eng).filterMap f = w.phases.filterMap fun ph =>
      (eng.walPayload w.writeId w.toCaller ph).bind fun p => f (.record p) := by
  rw [← filterMap_filterMap, walBatch]
  split
  next h => rw [h, filterMap_nil, filterMap_nil]
  next q h => rw [h, filterMap_cons, filterMap_cons, filterMap_nil]; rfl
  next ps _ _ =>
    rw [filterMap_cons_none (hbegin ..), filterMap_append, filterMap_map,
      filterMap_cons_none (hcomm _), filterMap_nil, append_nil]
    rfl
end
end BrainDb
