import BrainDb.Handlers.TxnOps
import Mathlib.Data.Nat.Pairing

namespace BrainDb
open List Table Option Shard

/-- Where the id of a client write comes from: `WriteId::from_request` folds the space in,
`write_id_from_txn` takes the transaction id as it is. -/
inductive KeySource where
  | request (requestId : RequestId)
  | txn (txnId : TxnKey)

structure ClientWrite (Ph : Type) where
  now : Nanos
  caller : Caller
  source : KeySource
  startedAt : Nanos
  phases : List Ph
  requestHash : Digest

structure Exchange (A : Type) where
  outcome : CacheLookup A
  answer : Except WriterError (WriteAck A)

namespace ClientWrite
variable {Ph : Type}

def key (writeId : RequestId → SpaceId → WriteId) (q : ClientWrite Ph) : WriteId :=
  match q.source with
  | .request requestId => writeId requestId q.caller.scope.spaceId
  | .txn txnId => txnId

def isCommit (q : ClientWrite Ph) : Bool :=
  match q.source with
  | .request _ => false
  | .txn _ => true

def toWrite (writeId : RequestId → SpaceId → WriteId) (q : ClientWrite Ph) : Write Ph :=
  { q.caller with
    writeId := q.key writeId, startedAt := q.startedAt, phases := q.phases
    requestHash := some q.requestHash }

end ClientWrite

open ClientWrite
section
variable {T Ph P A : Type} (eng : Engine T Ph P A) (writeId : RequestId → SpaceId → WriteId)

def exchange (q : ClientWrite Ph) (s : Shard T P A) : Exchange A × Shard T P A :=
  let w := q.toWrite writeId
  let out := submit eng q.now w s
  (⟨(s.lookupWithHash q.now w.writeId w.requestHash).1, out.1⟩, out.2)

def exchanges : List (ClientWrite Ph) → Shard T P A → List (ClientWrite Ph × Exchange A)
  | [], _ => []
  | q :: qs, s =>
    let out := exchange eng writeId q s
    (q, out.1) :: exchanges qs out.2

variable (space : SpaceId)

def ClientWrite.ofSpace (q : ClientWrite Ph) : Bool :=
  q.caller.scope.spaceId = space

def toldTo (told : List (ClientWrite Ph × Exchange A)) : List (Exchange A) :=
  (told.filter fun x => x.1.ofSpace space).map Prod.snd

def SameVerdicts (space : SpaceId) : List (ClientWrite Ph) → Shard T P A → Shard T P A → Prop
  | [], _, _ => True
  | q :: qs, s, t =>
    if q.ofSpace space then
      ((s.lookupWithHash q.now (q.key writeId) (some q.requestHash)).1 = .miss →
        (applyPhases eng q.caller q.phases s.db.tables).isOk =
          (applyPhases eng q.caller q.phases t.db.tables).isOk) ∧
      SameVerdicts space qs (exchange eng writeId q s).2 (exchange eng writeId q t).2
    else SameVerdicts space qs (exchange eng writeId q s).2 t
end

lemma optionRel_imp {B C : Type} {R S : B → C → Prop} (himp : ∀ b c, R b c → S b c)
    {x : Option B} {y : Option C} (h : Rel R x y) : Rel S x y := by
  cases h with
  | none => exact .none
  | some h => exact .some (himp _ _ h)

lemma optionRel_cases {B C : Type} {R : B → C → Prop} {x : Option B} {y : Option C}
    (h : Rel R x y) : (x = none ∧ y = none) ∨ ∃ b c, x = some b ∧ y = some c ∧ R b c := by
  cases h with
  | none => exact .inl ⟨rfl, rfl⟩
  | some h => exact .inr ⟨_, _, rfl, rfl, h⟩

section
variable {A : Type} (issued : List (WriteAck A × WriteAck A))

def SameAck (a b : WriteAck A) : Prop :=
  a = b ∨ (a, b) ∈ issued

def SameOutcome : CacheLookup A → CacheLookup A → Prop
  | .miss, .miss => True
  | .hit a, .hit b => SameAck issued a b
  | .conflict, .conflict => True
  | _, _ => False

def issue (x y : Exchange A) (issued : List (WriteAck A × WriteAck A)) :
    List (WriteAck A × WriteAck A) :=
  match x.answer, y.answer with
  | .ok a, .ok b => (a, b) :: issued
  | _, _ => issued

def SameOutcomes : List (WriteAck A × WriteAck A) → List (Exchange A) → List (Exchange A) → Prop
  | _, [], [] => True
  | issued, x :: xs, y :: ys =>
    SameOutcome issued x.outcome y.outcome ∧ SameOutcomes (issue x y issued) xs ys
  | _, _, _ => False

structure SameEntry (issued : List (WriteAck A × WriteAck A)) (e f : HotEntry A) : Prop where
  ack : SameAck issued e.ack f.ack
  requestHash : e.requestHash = f.requestHash
  createdAt : e.createdAt = f.createdAt

structure SameRow (issued : List (WriteAck A × WriteAck A)) (e f : IdempotencyEntry A) : Prop where
  response : Rel (SameAck issued) e.response f.response
  requestHash : e.requestHash = f.requestHash
  createdAt : e.createdAt = f.createdAt
end

structure SameCaches {T P A : Type} (issued : List (WriteAck A × WriteAck A)) (k : WriteId)
    (s t : Shard T P A) : Prop where
  hot : Rel (SameEntry issued) (s.hot.get k) (t.hot.get k)
  durable : Rel (SameRow issued) (s.db.idempotency.get k) (t.db.idempotency.get k)

namespace SameCaches
variable {T P A : Type} {issued : List (WriteAck A × WriteAck A)} {k : WriteId}
  {s t : Shard T P A}

lemma refl (s : Shard T P A) : SameCaches issued k s s := by
  have hack : ∀ a : WriteAck A, SameAck issued a a := fun _ => .inl rfl
  refine ⟨?_, ?_⟩
  · cases s.hot.get k with
    | none => exact .none
    | some e => exact .some ⟨hack _, rfl, rfl⟩
  · cases s.db.idempotency.get k with
    | none => exact .none
    | some e =>
      refine .some ⟨?_, rfl, rfl⟩
      cases e.response with
      | none => exact .none
      | some a => exact .some (hack a)

lemma durableEntry (h : SameCaches issued k s t) (now : Nanos) :
    Rel (SameEntry issued) (durableEntry s.db.idempotency now k)
      (BrainDb.durableEntry t.db.idempotency now k) := by
  unfold BrainDb.durableEntry
  rcases optionRel_cases h.durable with ⟨hs, ht⟩ | ⟨e, f, hs, ht, hrow⟩
  · rw [hs, ht]
    exact .none
  · rw [hs, ht]
    simp only [hrow.createdAt, hrow.requestHash]
    split
    · rcases optionRel_cases hrow.response with ⟨he, hf⟩ | ⟨a, b, he, hf, hack⟩
      · rw [he, hf]
        exact .none
      · rw [he, hf]
        exact .some ⟨hack, rfl, rfl⟩
    · exact .none

lemma cachedEntry (h : SameCaches issued k s t) (now : Nanos) :
    Rel (SameEntry issued) (s.cachedEntry now k) (t.cachedEntry now k) := by
  unfold Shard.cachedEntry
  rcases optionRel_cases h.hot with ⟨hs, ht⟩ | ⟨e, f, hs, ht, hentry⟩
  · rw [hs, ht]
    exact h.durableEntry now
  · rw [hs, ht]
    simp only [hentry.createdAt]
    split
    · exact .some hentry
    · exact h.durableEntry now

lemma mono (h : SameCaches issued k s t) (x : WriteAck A × WriteAck A) :
    SameCaches (x :: issued) k s t := by
  have hack : ∀ {a b}, SameAck issued a b → SameAck (x :: issued) a b :=
    fun h => h.imp id (mem_cons_of_mem x)
  exact ⟨optionRel_imp (fun _ _ he => { he with ack := hack he.ack }) h.hot,
    optionRel_imp (fun _ _ hrow => { hrow with
      response := optionRel_imp (fun _ _ => hack) hrow.response }) h.durable⟩

end SameCaches

section
variable {T Ph P A : Type} {eng : Engine T Ph P A} {writeId : RequestId → SpaceId → WriteId}
  {issued : List (WriteAck A × WriteAck A)} {q : ClientWrite Ph} {s t : Shard T P A}

lemma SameCaches.exchange_other {k : WriteId} (h : SameCaches issued k s t)
    (hne : k ≠ q.key writeId) : SameCaches issued k (exchange eng writeId q s).2 t := by
  have hhot : (exchange eng writeId q s).2.hot.get k = s.hot.get k := submit_hot_ne eng q.now hne s
  have hdur : (exchange eng writeId q s).2.db.idempotency.get k = s.db.idempotency.get k :=
    submit_idempotency_ne eng q.now hne s
  exact ⟨by rw [hhot]; exact h.hot, by rw [hdur]; exact h.durable⟩

variable {e : HotEntry A} {K : WriteId → Prop}

lemma exchange_of_hit (hs : s.cachedEntry q.now (q.key writeId) = some e)
    (hclass : classify e.requestHash (some q.requestHash) e.ack = .hit e.ack) :
    exchange eng writeId q s =
      (⟨.hit e.ack, .ok e.ack⟩, { s with hot := s.hot.insert (q.key writeId) e }) := by
  simp [exchange, submit, lookupWithHash, toWrite, hs, hclass]

lemma exchange_of_conflict (hs : s.cachedEntry q.now (q.key writeId) = some e)
    (hclass : classify e.requestHash (some q.requestHash) e.ack = .conflict) :
    exchange eng writeId q s = (⟨.conflict, .error (.conflict (q.key writeId))⟩, s) := by
  simp [exchange, submit, lookupWithHash, toWrite, hs, hclass]

lemma exchange_of_refused {e : ApplyError} (hs : s.cachedEntry q.now (q.key writeId) = none)
    (happ : applyPhases eng q.caller q.phases s.db.tables = .error e) : exchange eng writeId q s =
      (⟨.miss, .error (.refused e)⟩, s.appended eng q.now (q.toWrite writeId)) := by
  simp [exchange, submit, lookupWithHash, toWrite, hs, happ]

lemma exchange_of_committed {out : T × List A} (hs : s.cachedEntry q.now (q.key writeId) = none)
    (happ : applyPhases eng q.caller q.phases s.db.tables = .ok out) :
    ∃ ack s', exchange eng writeId q s = (⟨.miss, .ok ack⟩, s') ∧
      s'.hot = s.hot.insert (q.key writeId) ⟨ack, some q.requestHash, q.now⟩ ∧
      s'.db.idempotency = s.db.idempotency.insert (q.key writeId)
        (idempotencyEntryFor ack (some q.requestHash) q.now) := by
  simp [exchange, submit, lookupWithHash, toWrite, hs, happ]

lemma SameCaches.insert_hot {k key : WriteId} {f : HotEntry A} (h : SameCaches issued k s t)
    (hentry : SameEntry issued e f) :
    SameCaches issued k { s with hot := s.hot.insert key e } { t with hot := t.hot.insert key f } := by
  refine ⟨?_, h.durable⟩
  simp only [get_insert]
  split
  · exact .some hentry
  · exact h.hot

lemma exchange_own (h : ∀ k, K k → SameCaches issued k s t) (hq : K (q.key writeId))
    (hverdict : s.cachedEntry q.now (q.key writeId) = none →
      (applyPhases eng q.caller q.phases s.db.tables).isOk =
        (applyPhases eng q.caller q.phases t.db.tables).isOk) :
    SameOutcome issued (exchange eng writeId q s).1.outcome (exchange eng writeId q t).1.outcome ∧
      ∀ k, K k → SameCaches (issue (exchange eng writeId q s).1 (exchange eng writeId q t).1 issued) k
        (exchange eng writeId q s).2 (exchange eng writeId q t).2 := by
  rcases optionRel_cases ((h _ hq).cachedEntry q.now) with ⟨hs, ht⟩ | ⟨e, f, hs, ht, hentry⟩
  · have hsame := hverdict hs
    cases happ : applyPhases eng q.caller q.phases s.db.tables with
    | error err =>
      rw [happ] at hsame
      cases happ' : applyPhases eng q.caller q.phases t.db.tables with
      | error err' =>
        rw [exchange_of_refused hs happ, exchange_of_refused ht happ']
        exact ⟨trivial, fun k hk => ⟨(h k hk).hot, (h k hk).durable⟩⟩
      | ok out' =>
        rw [happ'] at hsame
        cases hsame
    | ok out =>
      rw [happ] at hsame
      cases happ' : applyPhases eng q.caller q.phases t.db.tables with
      | error err' =>
        rw [happ'] at hsame
        cases hsame
      | ok out' =>
        obtain ⟨a, s', hx, hhot, hdur⟩ := exchange_of_committed hs happ
        obtain ⟨b, t', hy, hhot', hdur'⟩ := exchange_of_committed ht happ'
        rw [hx, hy]
        have hack : SameAck ((a, b) :: issued) a b := .inr mem_cons_self
        refine ⟨trivial, fun k hk => ?_⟩
        have hold := (h k hk).mono (a, b)
        refine ⟨?_, ?_⟩
        · rw [hhot, hhot', get_insert, get_insert]
          split
          · exact .some ⟨hack, rfl, rfl⟩
          · exact hold.hot
        · rw [hdur, hdur', get_insert, get_insert]
          split
          · exact .some ⟨.some hack, rfl, rfl⟩
          · exact hold.durable
  · have hclass := @classify_shape A e.requestHash (some q.requestHash)
    rcases hclass with hhit | hconflict
    · rw [exchange_of_hit hs (hhit e.ack),
        exchange_of_hit ht (by rw [← hentry.requestHash]; exact hhit f.ack)]
      exact ⟨hentry.ack, fun k hk => ((h k hk).insert_hot hentry).mono (e.ack, f.ack)⟩
    · rw [exchange_of_conflict hs (hconflict e.ack),
        exchange_of_conflict ht (by rw [← hentry.requestHash]; exact hconflict f.ack)]
      exact ⟨trivial, h⟩

lemma exchanges_same {space : SpaceId} {qs : List (ClientWrite Ph)}
    (hown : ∀ q ∈ qs, q.ofSpace space = true → K (q.key writeId))
    (hoth : ∀ q ∈ qs, q.ofSpace space = false → ∀ k, K k → k ≠ q.key writeId)
    (hverdicts : SameVerdicts eng writeId space qs s t) (h : ∀ k, K k → SameCaches issued k s t) :
    SameOutcomes issued (toldTo space (exchanges eng writeId qs s))
      ((exchanges eng writeId (qs.filter fun q => q.ofSpace space) t).map Prod.snd) := by
  induction qs generalizing s t issued with
  | nil => trivial
  | cons q qs ih =>
    have hown' := fun p hp => hown p (mem_cons_of_mem q hp)
    have hother' := fun p hp => hoth p (mem_cons_of_mem q hp)
    unfold SameVerdicts at hverdicts
    cases hq : q.ofSpace space with
    | true =>
      rw [if_pos hq] at hverdicts
      have hstep := exchange_own h (hown q mem_cons_self hq) fun hnone =>
        hverdicts.1 (by simp [lookupWithHash, hnone])
      have hrest := ih hown' hother' hverdicts.2 hstep.2
      simp only [exchanges, toldTo, filter_cons, hq, ↓reduceIte, map_cons]
      exact ⟨hstep.1, hrest⟩
    | false =>
      rw [if_neg (by rw [hq]; exact Bool.false_ne_true)] at hverdicts
      have hrest := ih hown' hother' hverdicts fun k hk =>
        (h k hk).exchange_other (hoth q mem_cons_self hq k hk)
      simp only [exchanges, toldTo, filter_cons, hq, Bool.false_eq_true, ↓reduceIte]
      exact hrest

lemma key_ne (hinj : ∀ {r r' : RequestId} {a a' : SpaceId}, writeId r a = writeId r' a' → a = a')
    {q' : ClientWrite Ph} {space : SpaceId} (hq : q.ofSpace space = true)
    (hq' : q'.ofSpace space = false) (hcomm : (q.isCommit || q'.isCommit) = false) :
    q.key writeId ≠ q'.key writeId := by
  unfold isCommit at hcomm
  unfold key
  cases hs : q.source with
  | txn txnId => simp [hs] at hcomm
  | request requestId =>
    cases hs' : q'.source with
    | txn txnId => simp [hs, hs'] at hcomm
    | request requestId' =>
      intro heq
      have hsp := hinj heq
      have hmine : q.caller.scope.spaceId = space := of_decide_eq_true hq
      have htheirs : q'.caller.scope.spaceId ≠ space := of_decide_eq_false hq'
      exact htheirs (hsp ▸ hmine)

/-- In every run where no transaction id is a key of another tenant's write and the apply layer
decides on a tenant's writes as without the others, each has the outcome it would have alone. -/
theorem idempotency_outcomes_private
    (hinj : ∀ {r r' : RequestId} {a a' : SpaceId}, writeId r a = writeId r' a' → r = r' ∧ a = a')
    {space : SpaceId} {qs : List (ClientWrite Ph)}
    (hcommits : ∀ q ∈ qs, ∀ q' ∈ qs, q.ofSpace space = true → q'.ofSpace space = false →
      (q.isCommit || q'.isCommit) = true → q.key writeId ≠ q'.key writeId)
    (hverdicts : SameVerdicts eng writeId space qs s s) :
    SameOutcomes [] (toldTo space (exchanges eng writeId qs s))
      ((exchanges eng writeId (qs.filter fun q => q.ofSpace space) s).map Prod.snd) := by
  refine @exchanges_same T Ph P A eng writeId [] s s
    (fun k => ∃ q ∈ qs, q.ofSpace space = true ∧ k = q.key writeId) space qs
    (fun q hmem hq => ⟨q, hmem, hq, rfl⟩) ?_ hverdicts fun k _ => .refl s
  rintro q' hmem' hq' k ⟨q, hmem, hq, rfl⟩
  cases hcomm : q.isCommit || q'.isCommit with
  | true => exact hcommits q hmem q' hmem' hq hq' hcomm
  | false => exact key_ne (fun h => (hinj h).2) hq hq' hcomm
end

def spaceOneLink : ClientWrite SubstratePhase :=
  { now := 2, caller := ⟨⟨1, 1⟩, ""⟩, source := .request 5, startedAt := 0
    phases := [clientLink 1 2 .similarTo 0 2], requestHash := 7 }

def spaceTwoCommit (txnId : TxnKey) : ClientWrite SubstratePhase :=
  { now := 1, caller := ⟨⟨1, 2⟩, ""⟩, source := .txn txnId, startedAt := 0
    phases := [], requestHash := 9 }

theorem link_misses_beside_commit :
    SameOutcomes [] (toldTo 1 (exchanges substrateEngine Nat.pair [spaceTwoCommit 4, spaceOneLink]
        (Server.fresh 0).shard)) ((exchanges substrateEngine Nat.pair
        ([spaceTwoCommit 4, spaceOneLink].filter fun q => q.ofSpace 1)
        (Server.fresh 0).shard).map Prod.snd) := by
  refine idempotency_outcomes_private Nat.pair_eq_pair.mp ?_ ?_
  · decide
  · exact ⟨fun _ => rfl, trivial⟩

/-- The commit is of transaction 31, the key of request 5 in space 1: the link is a conflict. -/
theorem link_conflicts_with_foreign_commit :
    (∀ {r r' a a' : Nat}, Nat.pair r a = Nat.pair r' a' → r = r' ∧ a = a') ∧
      (toldTo 1 (exchanges substrateEngine Nat.pair [spaceTwoCommit 31, spaceOneLink]
        (Server.fresh 0).shard)).map Exchange.outcome = [.conflict] ∧
      ((exchanges substrateEngine Nat.pair [spaceOneLink] (Server.fresh 0).shard).map Prod.snd).map
        Exchange.outcome = [.miss] := by
  refine ⟨Nat.pair_eq_pair.mp, ?_, ?_⟩
  · decide +kernel
  · decide +kernel

end BrainDb
