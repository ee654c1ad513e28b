import BrainDb.Store.Memory

namespace BrainDb
open Table

abbrev EntityId := Nat
abbrev RelationTypeId := Nat
abbrev RelationId := Nat

inductive EdgeKind where
  | caused
  | followedBy
  | derivedFrom
  | similarTo
  | contradicts
  | supports
  | references
  | partOf
  deriving DecidableEq

namespace EdgeKind

def code : EdgeKind → Nat
  | caused => 0
  | followedBy => 1
  | derivedFrom => 2
  | similarTo => 3
  | contradicts => 4
  | supports => 5
  | references => 6
  | partOf => 7

lemma code_injective : code.Injective := by
  intro a b h
  cases a <;> cases b <;> first | rfl | cases h

def debugName : EdgeKind → String
  | caused => "Caused"
  | followedBy => "FollowedBy"
  | derivedFrom => "DerivedFrom"
  | similarTo => "SimilarTo"
  | contradicts => "Contradicts"
  | supports => "Supports"
  | references => "References"
  | partOf => "PartOf"

def isSymmetric : EdgeKind → Bool
  | similarTo | contradicts => true
  | _ => false

end EdgeKind

inductive NodeRef where
  | memory (id : MemoryId)
  | entity (id : EntityId)

def NodeRef.code : NodeRef → Nat ×ₗ Nat
  | memory id => toLex (0, id)
  | entity id => toLex (1, id)

lemma NodeRef.code_injective : code.Injective := by
  intro a b h
  cases a <;> cases b <;> simp_all [code]

instance : LinearOrder NodeRef := LinearOrder.lift' NodeRef.code NodeRef.code_injective

inductive EdgeKindRef where
  | builtin (kind : EdgeKind)
  | mentions
  | typed (relationType : RelationTypeId)

def EdgeKindRef.code : EdgeKindRef → Nat ×ₗ Nat
  | builtin kind => toLex (0, kind.code)
  | mentions => toLex (1, 0)
  | typed relationType => toLex (2, relationType)

lemma EdgeKindRef.code_injective : code.Injective := by
  intro a b h
  cases a <;> cases b <;> simp_all [code, EdgeKind.code_injective.eq_iff]

instance : LinearOrder EdgeKindRef :=
  LinearOrder.lift' EdgeKindRef.code EdgeKindRef.code_injective

structure EdgeKey where
  source : NodeRef
  kind : EdgeKindRef
  target : NodeRef
  disambiguator : Nat

instance : LinearOrder EdgeKey :=
  LinearOrder.lift'
    (fun k => toLex (k.source, toLex (k.kind, toLex (k.target, k.disambiguator))))
    fun ⟨_, _, _, _⟩ ⟨_, _, _, _⟩ h => by simpa using h

instance : LawfulBEq EdgeKey := inferInstance

def EdgeKey.flip (k : EdgeKey) : EdgeKey := ⟨k.target, k.kind, k.source, k.disambiguator⟩

structure EdgeData where
  weight : UInt32
  (origin derivedBy : Nat)
  createdAt : Nanos

structure Edges where
  (forward reverse : Table EdgeKey EdgeData)

def zeroDisambiguator : Nat := 0

def symmetricAutoMirror : EdgeKindRef → Bool
  | .builtin kind => kind.isSymmetric
  | _ => false

namespace Edges

def empty : Edges := ⟨Table.empty, Table.empty⟩

variable (t : Edges)

def insertPair (k : EdgeKey) (data : EdgeData) : Edges :=
  ⟨t.forward.insert k data, t.reverse.insert k.flip data⟩

def removePair (k : EdgeKey) : Edges :=
  ⟨t.forward.remove k, t.reverse.remove k.flip⟩

def link (k : EdgeKey) (data : EdgeData) : Edges :=
  let t := t.insertPair k data
  if symmetricAutoMirror k.kind ∧ k.source ≠ k.target then t.insertPair k.flip data else t

def unlink (k : EdgeKey) : Edges × Bool :=
  let removed := (t.forward.get k).isSome
  let t := t.removePair k
  (if symmetricAutoMirror k.kind ∧ k.source ≠ k.target then t.removePair k.flip else t, removed)

def listMemoryEdges (t : Table EdgeKey EdgeData) (anchor : MemoryId) :
    List (EdgeKind × MemoryId × EdgeData) :=
  (t.scan fun k => k.source = .memory anchor).filterMap fun e =>
    match e.1.kind, e.1.target with
    | .builtin kind, .memory other => some (kind, other, e.2)
    | _, _ => none

end Edges

def Edges.AllPairs (R : NodeRef → NodeRef → Prop) (t : Edges) : Prop :=
  (∀ k data, t.forward.get k = some data → R k.source k.target) ∧
    ∀ k data, t.reverse.get k = some data → R k.source k.target

namespace Edges.AllPairs
variable {R : NodeRef → NodeRef → Prop} {t : Edges} {k : EdgeKey}

lemma insertPair (h : t.AllPairs R) (hk : R k.source k.target) (hflip : R k.target k.source)
    (data : EdgeData) : (t.insertPair k data).AllPairs R := by
  constructor
  · intro k' data' hget
    rw [Edges.insertPair, get_insert] at hget
    split at hget
    next heq => exact heq ▸ hk
    · exact h.1 k' data' hget
  · intro k' data' hget
    rw [Edges.insertPair, get_insert] at hget
    split at hget
    next heq => exact heq ▸ hflip
    · exact h.2 k' data' hget

lemma removePair (h : t.AllPairs R) (k : EdgeKey) : (t.removePair k).AllPairs R := by
  constructor
  · intro k' data' hget
    rw [Edges.removePair, get_remove] at hget
    split at hget
    · cases hget
    · exact h.1 k' data' hget
  · intro k' data' hget
    rw [Edges.removePair, get_remove] at hget
    split at hget
    · cases hget
    · exact h.2 k' data' hget

lemma link (h : t.AllPairs R) (hk : R k.source k.target) (hflip : R k.target k.source)
    (data : EdgeData) : (t.link k data).AllPairs R := by
  unfold Edges.link
  split
  · exact (h.insertPair hk hflip data).insertPair hflip hk data
  · exact h.insertPair hk hflip data

lemma unlink (h : t.AllPairs R) (k : EdgeKey) : (t.unlink k).1.AllPairs R := by
  unfold Edges.unlink
  split
  · exact (h.removePair k).removePair k.flip
  · exact h.removePair k

lemma empty : Edges.empty.AllPairs R := by
  constructor
  · intro k data hget
    cases hget
  · intro k data hget
    cases hget

end Edges.AllPairs

lemma Edges.mem_listMemoryEdges {t : Table EdgeKey EdgeData} {anchor other : MemoryId}
    {kind : EdgeKind} {data : EdgeData} : (kind, other, data) ∈ listMemoryEdges t anchor ↔
      ∃ d, t.get ⟨.memory anchor, .builtin kind, .memory other, d⟩ = some data := by
  constructor
  · intro h
    obtain ⟨⟨⟨source, _, _, d⟩, _⟩, hscan, hmatch⟩ := List.mem_filterMap.mp h
    obtain ⟨hget, hanchor⟩ := t.mem_scan.mp hscan
    split at hmatch
    next hkind htgt =>
      cases hmatch
      cases hkind
      cases htgt
      cases of_decide_eq_true hanchor
      exact ⟨d, hget⟩
    · cases hmatch
  · rintro ⟨d, hget⟩
    exact List.mem_filterMap.mpr ⟨_, t.mem_scan.mpr ⟨hget, by simp⟩, rfl⟩

end BrainDb
