import BrainDb.Base.Except
import BrainDb.Store.Memory

namespace BrainDb
open List

structure HnswIndex where
  nodes : List (MemoryId × Embedding)
  tombstones : Finset Nat

inductive HnswError where
  | duplicateMemoryId (id : MemoryId)
  | idMapExhausted

variable {id : MemoryId}

namespace HnswIndex

def empty : HnswIndex := ⟨[], ∅⟩

def lookupForward (idx : HnswIndex) (id : MemoryId) : Option Nat :=
  idx.nodes.findIdx? fun n => n.1 = id

def contains (idx : HnswIndex) (id : MemoryId) : Bool := (idx.lookupForward id).isSome

def isTombstoned (idx : HnswIndex) (id : MemoryId) : Bool :=
  (idx.lookupForward id).any fun internal => internal ∈ idx.tombstones

def insert (idx : HnswIndex) (id : MemoryId) (vector : Embedding) : Except HnswError HnswIndex :=
  if idx.contains id then .error (.duplicateMemoryId id)
  else if idx.nodes.length = u32Max then .error .idMapExhausted
  else .ok { idx with nodes := idx.nodes ++ [(id, vector)] }

def rebuild (source : List (MemoryId × Embedding)) : Except HnswError HnswIndex :=
  source.foldlM (fun idx n => idx.insert n.1 n.2) empty

variable {idx : HnswIndex}

lemma contains_iff : idx.contains id = true ↔ id ∈ idx.nodes.map Prod.fst := by
  simp [contains, lookupForward, List.findIdx?_isSome]

lemma isTombstoned_of_tombstones_eq_empty (h : idx.tombstones = ∅) (id : MemoryId) :
    idx.isTombstoned id = false := by
  simp [isTombstoned, h]

lemma insert_of_notMem {vector : Embedding} (h : id ∉ idx.nodes.map Prod.fst) :
    idx.insert id vector = if idx.nodes.length = u32Max then .error .idMapExhausted
      else .ok { idx with nodes := idx.nodes ++ [(id, vector)] } := by
  rw [insert, if_neg (mt contains_iff.mp h)]

variable {source : List (MemoryId × Embedding)}

lemma foldlM_insert {idx : HnswIndex} (hnd : ((idx.nodes ++ source).map Prod.fst).Nodup)
    (hlen : idx.nodes.length ≤ u32Max) : source.foldlM (fun idx n => idx.insert n.1 n.2) idx =
      if idx.nodes.length + source.length ≤ u32Max then
        .ok { idx with nodes := idx.nodes ++ source }
      else .error .idMapExhausted := by
  induction source generalizing idx with
  | nil =>
    rw [append_nil, length_nil, Nat.add_zero, if_pos hlen]
    rfl
  | cons n source ih =>
    have hnew : n.1 ∉ idx.nodes.map Prod.fst := by
      rw [map_append, map_cons] at hnd
      intro hmem
      exact (nodup_append'.mp hnd).2.2 hmem mem_cons_self
    have hcut : idx.nodes ++ n :: source = (idx.nodes ++ [n]) ++ source := by simp
    rw [foldlM_cons, insert_of_notMem hnew, length_cons]
    split
    next hfull =>
      rw [if_neg (by omega)]
      rfl
    next hroom =>
      have hrest := @ih { idx with nodes := idx.nodes ++ [n] } (hcut ▸ hnd)
        (by rw [length_append, length_singleton]; omega)
      rw [hcut]
      refine hrest.trans ?_
      rw [length_append, length_singleton, Nat.add_assoc, Nat.add_comm 1]

lemma rebuild_eq (h : (source.map Prod.fst).Nodup) :
    rebuild source = if source.length ≤ u32Max then .ok ⟨source, ∅⟩ else .error .idMapExhausted := by
  have hfold := @foldlM_insert source empty h (Nat.zero_le u32Max)
  rw [rebuild, hfold]
  simp [empty]

lemma rebuild_tombstones (h : rebuild source = .ok idx) : idx.tombstones = ∅ := by
  refine ExceptLemmas.foldlM_invariant (I := fun idx => idx.tombstones = ∅) ?_ h rfl
  intro n _ start next hnext hbeg
  unfold insert at hnext
  split at hnext
  · cases hnext
  · split at hnext
    · cases hnext
    · cases hnext
      exact hbeg

end HnswIndex

def f32Eq (a b : UInt32) : Bool :=
  let magnitude : UInt32 := 0x7FFFFFFF
  let infinity : UInt32 := 0x7F800000
  a &&& magnitude ≤ infinity && b &&& magnitude ≤ infinity &&
    (a == b || (a ||| b) &&& magnitude == 0)

structure PendingEntry where
  memoryId : MemoryId
  vector : Embedding
  tombstoned : Bool

def PendingEntry.eq (a b : PendingEntry) : Bool :=
  a.memoryId == b.memoryId && a.vector.length == b.vector.length &&
    (a.vector.zip b.vector).all (fun p => f32Eq p.1 p.2) && a.tombstoned == b.tombstoned

structure SharedHnsw where
  main : HnswIndex
  epochId : Nat
  pending : List PendingEntry
  overlay : Finset MemoryId

namespace SharedHnsw

def fromIndex (idx : HnswIndex) : SharedHnsw := ⟨idx, 0, [], ∅⟩

def contains (s : SharedHnsw) (id : MemoryId) : Bool :=
  if id ∈ s.overlay then false
  else if s.pending.any fun e => e.memoryId = id && !e.tombstoned then true
  else s.main.contains id && !s.main.isTombstoned id

def isTombstoned (s : SharedHnsw) (id : MemoryId) : Bool :=
  if id ∈ s.overlay then true else s.main.isTombstoned id

def upsertPending (id : MemoryId) (vector : Embedding) : List PendingEntry → List PendingEntry
  | [] => [⟨id, vector, false⟩]
  | e :: es => if e.memoryId = id then ⟨id, vector, false⟩ :: es
    else e :: upsertPending id vector es

def markPending (id : MemoryId) : List PendingEntry → List PendingEntry
  | [] => []
  | e :: es => if e.memoryId = id then { e with tombstoned := true } :: es
    else e :: markPending id es

variable (s : SharedHnsw)

def insert (id : MemoryId) (vector : Embedding) : SharedHnsw :=
  { s with pending := upsertPending id vector s.pending, overlay := s.overlay.erase id }

def markTombstoned (id : MemoryId) : SharedHnsw :=
  { s with pending := markPending id s.pending, overlay := Insert.insert id s.overlay }

def swap (idx : HnswIndex) : SharedHnsw := ⟨idx, s.epochId + 1, [], ∅⟩

def foldedEntry (snapshot : List PendingEntry) (id : MemoryId) : Option PendingEntry :=
  snapshot.reverse.find? fun e => e.memoryId = id

def flushWithRebuild (build : List PendingEntry → Except HnswError HnswIndex) :
    Except HnswError SharedHnsw :=
  (build s.pending).map fun idx =>
    { main := idx
      epochId := s.epochId + 1
      pending := s.pending.filter fun e => (foldedEntry s.pending e.memoryId).all fun f => !f.eq e
      overlay := s.overlay.filter fun id =>
        ∀ e ∈ s.pending, e.tombstoned = true → e.memoryId ≠ id }

def saveSnapshot : Option HnswIndex :=
  if s.main.nodes.isEmpty then none else some s.main

lemma any_upsertPending_ne {id' : MemoryId} (hne : id' ≠ id) (vector : Embedding)
    (pending : List PendingEntry) :
    ((upsertPending id vector pending).any fun e => e.memoryId = id' && !e.tombstoned) =
      pending.any fun e => e.memoryId = id' && !e.tombstoned := by
  induction pending with
  | nil => simp [upsertPending, Ne.symm hne]
  | cons e es ih =>
    unfold upsertPending
    split
    next h => simp [h, Ne.symm hne]
    · rw [any_cons, any_cons, ih]

lemma any_upsertPending_self (id : MemoryId) (vector : Embedding) (pending : List PendingEntry) :
    ((upsertPending id vector pending).any fun e => e.memoryId = id && !e.tombstoned) = true := by
  induction pending with
  | nil => simp [upsertPending]
  | cons e es ih =>
    unfold upsertPending
    split
    · simp
    · rw [any_cons, ih, Bool.or_true]

lemma any_markPending_ne {id' : MemoryId} (hne : id' ≠ id) (pending : List PendingEntry) :
    ((markPending id pending).any fun e => e.memoryId = id' && !e.tombstoned) =
      pending.any fun e => e.memoryId = id' && !e.tombstoned := by
  induction pending with
  | nil => rfl
  | cons e es ih =>
    unfold markPending
    split
    next h => simp [h, Ne.symm hne]
    · rw [any_cons, any_cons, ih]

lemma contains_insert (id id' : MemoryId) (vector : Embedding) :
    (s.insert id vector).contains id' = (decide (id' = id) || s.contains id') := by
  by_cases h : id' = id
  · subst h
    simp [contains, insert, any_upsertPending_self]
  · simp [contains, insert, any_upsertPending_ne h, h]

lemma contains_markTombstoned (id id' : MemoryId) :
    (s.markTombstoned id).contains id' = (decide (id' ≠ id) && s.contains id') := by
  by_cases h : id' = id
  · simp [contains, markTombstoned, h]
  · simp [contains, markTombstoned, any_markPending_ne h, h]

lemma isTombstoned_insert (id id' : MemoryId) (vector : Embedding) :
    (s.insert id vector).isTombstoned id' =
      if id' = id then s.main.isTombstoned id' else s.isTombstoned id' := by
  by_cases h : id' = id
  · simp [isTombstoned, insert, h]
  · simp [isTombstoned, insert, h]

lemma isTombstoned_markTombstoned (id id' : MemoryId) :
    (s.markTombstoned id).isTombstoned id' = (decide (id' = id) || s.isTombstoned id') := by
  by_cases h : id' = id
  · simp [isTombstoned, markTombstoned, h]
  · simp [isTombstoned, markTombstoned, h]

end SharedHnsw
end BrainDb
