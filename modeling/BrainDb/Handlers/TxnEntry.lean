import BrainDb.Base.Program
import BrainDb.Handlers.Txn

namespace BrainDb
open Table Program
namespace TxnStore

def sweepEntry (now : Nanos) (e : TxnEntry) : TxnEntry :=
  if e.state = .active ∧ e.expiresAt ≤ now then { e with state := .expired, buffer := none } else e

lemma sweepEntry_connectionId (now : Nanos) (e : TxnEntry) :
    (sweepEntry now e).connectionId = e.connectionId := by
  unfold sweepEntry
  split <;> rfl

lemma get_sweepExpired (now : Nanos) (store : TxnStore) (id : TxnKey) :
    (sweepExpired now store).get id = (store.get id).map (sweepEntry now) :=
  get_mapValues store _ id

end TxnStore

open TxnStore

def ownedOp {R : Type} (now : Nanos) (id : TxnKey) (c : Nat)
    (act : TxnEntry → Except OpError R × TxnEntry) : TxnM R := fun store =>
  let swept := sweepExpired now store
  match swept.get id with
  | none => (.error .txnNotFound, swept)
  | some e =>
    if txnOwnedBy e.connectionId c then ((act e).1, swept.insert id (act e).2)
    else (.error .txnNotFound, swept)

namespace TxnStore
variable (now : Nanos) (id : TxnKey) (c : Nat) (store : TxnStore) {R : Type}

lemma exec_eq_ownedOp {k : TxnEntry → TxnM R} {act : TxnEntry → Except OpError R × TxnEntry}
    (hk : ∀ e, (sweepExpired now store).get id = some e → exec (k e) (sweepExpired now store) =
        ((act e).1, (sweepExpired now store).insert id (act e).2)) :
    exec (match (sweepExpired now store).get id with
      | none => throw .txnNotFound
      | some e =>
        if (!txnOwnedBy e.connectionId c) = true then do
          throw .txnNotFound
          k e
        else k e) (sweepExpired now store) =
      exec (ownedOp now id c act) store := by
  show _ = ownedOp now id c act store
  cases hget : (sweepExpired now store).get id with
  | none =>
    simp only [ownedOp, hget]
    rfl
  | some e =>
    simp only [ownedOp, hget]
    cases txnOwnedBy e.connectionId c with
    | false => rfl
    | true => exact hk e hget

variable (e : TxnEntry)

def validateEntry : Except OpError Nanos × TxnEntry :=
  match e.state with
  | .active => (.ok (renewed now e), { e with expiresAt := renewed now e })
  | _ => (.error .txnExpired, e)

def bufferEntry {R : Type} (f : TxnBuffer → Except OpError (R × TxnBuffer)) (e : TxnEntry) :
    Except OpError R × TxnEntry :=
  match e.state, e.buffer with
  | .active, some buffer =>
    match f buffer with
    | .error err => (.error err, e)
    | .ok (r, buffer) => (.ok r, { e with buffer := some buffer, expiresAt := renewed now e })
  | _, _ => (.error .txnExpired, e)

def takeEntry : Except OpError ((Nanos × Nat) ⊕ (TxnBuffer × Option Caller)) × TxnEntry :=
  match e.finalResponse with
  | some (.commit committedAt ops) => (.ok (.inl (committedAt, ops)), e)
  | _ =>
    match e.state, e.buffer with
    | .active, some buffer => (.ok (.inr (buffer, e.delegated)), { e with buffer := none })
    | _, _ => (.error .txnExpired, e)

def abortEntry : Except OpError TxnAbortResponse × TxnEntry :=
  match e.finalResponse with
  | some (.abort ops) => (.ok ⟨id, ops⟩, e)
  | _ =>
    match e.state with
    | .active =>
      let ops := e.buffer.elim 0 TxnBuffer.opsCount
      (.ok ⟨id, ops⟩, { e with
        state := .aborted, buffer := none, finalResponse := some (.abort ops) })
    | _ => (.error .txnExpired, e)

lemma exec_validateActive :
    exec (validateActive now id c) store = exec (ownedOp now id c (validateEntry now)) store := by
  refine exec_eq_ownedOp now id c store fun e hget => ?_
  have hsame := insert_of_get hget
  unfold validateEntry
  cases hs : e.state with
  | active => rfl
  | _ =>
    simp only [hsame]
    rfl

variable (f : TxnBuffer → Except OpError (R × TxnBuffer))

lemma exec_withBuffer :
    exec (withBuffer now id c f) store = exec (ownedOp now id c (bufferEntry now f)) store := by
  unfold withBuffer
  refine exec_eq_ownedOp now id c store fun e hget => ?_
  have hsame := insert_of_get hget
  unfold bufferEntry
  cases hs : e.state with
  | active =>
    cases hb : e.buffer with
    | none =>
      simp only [hsame]
      rfl
    | some buffer =>
      cases hf : f buffer with
      | error err =>
        simp only [hf, hsame]
        rfl
      | ok out =>
        simp only [hf]
        rfl
  | _ =>
    simp only [hsame]
    rfl

lemma exec_takeBuffer :
    exec (takeBuffer now id c) store = exec (ownedOp now id c takeEntry) store := by
  refine exec_eq_ownedOp now id c store fun e hget => ?_
  have hsame := insert_of_get hget
  unfold takeEntry
  rcases hfin : e.finalResponse with _ | ⟨_ | _⟩
  · cases hs : e.state <;> cases hb : e.buffer <;> simp only [hsame] <;> rfl
  · simp only [hsame]
    rfl
  · cases hs : e.state <;> cases hb : e.buffer <;> simp only [hsame] <;> rfl

lemma exec_handleTxnAbort :
    exec (handleTxnAbort now id c) store = exec (ownedOp now id c (abortEntry id)) store := by
  refine exec_eq_ownedOp now id c store fun e hget => ?_
  have hsame := insert_of_get hget
  unfold abortEntry
  rcases hfin : e.finalResponse with _ | ⟨_ | _⟩
  · cases hs : e.state <;> simp [hsame] <;> rfl
  · cases hs : e.state <;> simp [hsame] <;> rfl
  · simp only [hsame]
    rfl

lemma validateEntry_cases : (∃ err, validateEntry now e = (.error err, e)) ∨
      ∃ t, validateEntry now e = (.ok t, { e with expiresAt := t }) := by
  unfold validateEntry
  split
  · exact .inr ⟨_, rfl⟩
  · exact .inl ⟨_, rfl⟩

lemma bufferEntry_cases (e : TxnEntry) : (∃ err, bufferEntry now f e = (.error err, e)) ∨
      ∃ b r b' t, e.buffer = some b ∧ f b = .ok (r, b') ∧
        bufferEntry now f e = (.ok r, { e with buffer := some b', expiresAt := t }) := by
  unfold bufferEntry
  split
  next b _ hb =>
    cases hf : f b with
    | error err => exact .inl ⟨err, by simp only⟩
    | ok out => exact .inr ⟨b, out.1, out.2, renewed now e, hb, hf, by simp only⟩
  · exact .inl ⟨_, rfl⟩

lemma validateEntry_connectionId : (validateEntry now e).2.connectionId = e.connectionId := by
  rcases validateEntry_cases now e with ⟨err, h⟩ | ⟨t, h⟩ <;> rw [h]

lemma bufferEntry_connectionId (e : TxnEntry) :
    (bufferEntry now f e).2.connectionId = e.connectionId := by
  rcases bufferEntry_cases now f e with ⟨err, h⟩ | ⟨b, r, b', t, -, -, h⟩ <;> rw [h]

lemma takeEntry_connectionId : (takeEntry e).2.connectionId = e.connectionId := by
  unfold takeEntry
  split
  · rfl
  · split <;> rfl

lemma abortEntry_connectionId : (abortEntry id e).2.connectionId = e.connectionId := by
  unfold abortEntry
  split
  · rfl
  · split <;> rfl

end TxnStore

section
variable {now : Nanos} {id : TxnKey} {store : TxnStore} (timeoutSeconds : Nat) (actAs : Bool)
  (caller : Caller) (c : Nat)

lemma exec_handleTxnBegin_of_some {e : TxnEntry} (h : (sweepExpired now store).get id = some e) :
    exec (handleTxnBegin now id timeoutSeconds actAs caller c) store =
      (.ok ⟨id, e.timeoutSeconds, e.startedAt⟩, sweepExpired now store) := by
  unfold handleTxnBegin
  simp only [exec_bind, exec_get, exec_set, h]
  rfl

lemma exec_handleTxnBegin_of_none (h : (sweepExpired now store).get id = none) :
    exec (handleTxnBegin now id timeoutSeconds actAs caller c) store =
      (.ok ⟨id, clampTimeout timeoutSeconds, now⟩, (sweepExpired now store).insert id
        (.opened now (clampTimeout timeoutSeconds) (if actAs then some caller else none) c)) := by
  unfold handleTxnBegin
  simp only [exec_bind, exec_get, exec_set, h]
  rfl
end
end BrainDb
