import BrainDb.Base.Relocate
import BrainDb.Graph.Merge
import BrainDb.Store.EdgeEffect

namespace BrainDb
open List Table Relocate
namespace Edges
variable (ty : RelationTypeId)

def keysOf (isSymmetric : Bool) (id : RelationId) (a b : EntityId) : List EdgeKey :=
  ⟨.entity a, .typed ty, .entity b, id⟩ ::
    if isSymmetric ∧ a ≠ b then [⟨.entity b, .typed ty, .entity a, id⟩] else []

lemma mem_keysOf (isSymmetric : Bool) (id : RelationId) (a b : EntityId) :
    ⟨.entity a, .typed ty, .entity b, id⟩ ∈ keysOf ty isSymmetric id a b :=
  mem_cons_self

variable {k : EdgeKey}

lemma disambiguator_keysOf {ty : RelationTypeId} {isSymmetric : Bool} {id : RelationId}
    {a b : EntityId} (h : k ∈ keysOf ty isSymmetric id a b) :
    k.kind = .typed ty ∧ k.disambiguator = id := by
  rcases mem_cons.mp h with rfl | h
  · exact ⟨rfl, rfl⟩
  · split at h
    · exact mem_singleton.mp h ▸ ⟨rfl, rfl⟩
    · cases h

variable (t : Edges)

lemma pairAt_linkRelation (ty : RelationTypeId) (isSymmetric : Bool) (id : RelationId)
    (a b : EntityId) (data : EdgeData) (k : EdgeKey) :
    (t.linkRelation (.entity a) (.entity b) ty id isSymmetric data).pairAt k =
      if k ∈ keysOf ty isSymmetric id a b then (some data, some data) else t.pairAt k := by
  unfold linkRelation keysOf link
  simp only [symmetricAutoMirror, Bool.false_eq_true, false_and, if_false, ne_eq,
    NodeRef.entity.injEq]
  split
  · rw [pairAt_insertPair, pairAt_insertPair]
    grind
  · rw [pairAt_insertPair]
    simp only [mem_cons, not_mem_nil, or_false]

lemma pairAt_rewriteRelation (m : RelationMetadata) (id : RelationId) (a b c d : EntityId)
    (now : Nanos) (k : EdgeKey) : (t.rewriteRelation m id a b c d now).pairAt k =
      if k ∈ keysOf m.relationType m.isSymmetric id c d then
        let data := (t.pairAt ⟨.entity a, .typed m.relationType, .entity b, id⟩).1.getD
          (relationEdgeData now)
        (some data, some data)
      else if k ∈ keysOf m.relationType m.isSymmetric id a b then (none, none)
      else t.pairAt k := by
  unfold rewriteRelation
  simp only [pairAt_linkRelation]
  congr 1
  unfold keysOf unlink
  simp only [symmetricAutoMirror, Bool.false_eq_true, false_and, if_false]
  split
  · rw [pairAt_removePair, pairAt_removePair]
    grind
  · rw [pairAt_removePair]
    simp only [mem_cons, not_mem_nil, or_false]

variable {t t' : Edges} {m n : RelationMetadata} {id id' : RelationId} {a b c d : EntityId}
  {a' b' c' d' : EntityId} {now now' : Nanos}

lemma pairAt_rewriteRelation_other (hk : k.disambiguator ≠ id) :
    (t.rewriteRelation m id a b c d now).pairAt k = t.pairAt k := by
  rw [pairAt_rewriteRelation, if_neg fun h => hk (disambiguator_keysOf h).2,
    if_neg fun h => hk (disambiguator_keysOf h).2]

lemma pairAt_rewriteRelation_congr (hsame : ∀ k, k.disambiguator = id → t.pairAt k = t'.pairAt k)
    (hk : k.disambiguator = id) : (t.rewriteRelation m id a b c d now).pairAt k =
      (t'.rewriteRelation m id a b c d now).pairAt k := by
  rw [pairAt_rewriteRelation, pairAt_rewriteRelation, hsame k hk, hsame _ rfl]

lemma rewriteRelation_comm (hne : id ≠ id') :
    (t.rewriteRelation m id a b c d now).rewriteRelation n id' a' b' c' d' now' =
      (t.rewriteRelation n id' a' b' c' d' now').rewriteRelation m id a b c d now := by
  refine ext_pairAt fun k => ?_
  by_cases hk : k.disambiguator = id
  · rw [pairAt_rewriteRelation_other fun hk' => hne (hk.symm.trans hk')]
    exact pairAt_rewriteRelation_congr (fun k' hk' =>
      (pairAt_rewriteRelation_other fun h => hne (hk'.symm.trans h)).symm) hk
  · by_cases hk' : k.disambiguator = id'
    · refine Eq.trans ?_ (pairAt_rewriteRelation_other hk).symm
      exact pairAt_rewriteRelation_congr (fun k h =>
        pairAt_rewriteRelation_other fun h' => hne (h'.symm.trans h)) hk'
    · simp only [pairAt_rewriteRelation_other hk, pairAt_rewriteRelation_other hk']

def HasEdges (t : Edges) (m : RelationMetadata) (id : RelationId) : Prop :=
  ∃ a b data, m.source = .entity a ∧ m.target = .entity b ∧
    ∀ k : EdgeKey, k.kind = .typed m.relationType → k.disambiguator = id →
      t.pairAt k = if k ∈ keysOf m.relationType m.isSymmetric id a b then (some data, some data)
        else (none, none)

lemma HasEdges.rewriteRelation_back (h : t.HasEdges m id) (hn : n.relationType = m.relationType)
    (hsymmetric : n.isSymmetric = m.isSymmetric) :
    (t.rewriteRelation m id (Graph.nodeBytes m.source) (Graph.nodeBytes m.target) c d
      now).rewriteRelation n id c d (Graph.nodeBytes m.source) (Graph.nodeBytes m.target) now' =
      t := by
  obtain ⟨a, b, data, hsrc, htgt, hedges⟩ := h
  rw [hsrc, htgt]
  simp only [Graph.nodeBytes]
  have hdata : (t.pairAt ⟨.entity a, .typed m.relationType, .entity b, id⟩).1.getD
      (relationEdgeData now) = data := by
    rw [hedges _ rfl rfl, if_pos (mem_keysOf ..)]
    rfl
  refine ext_pairAt fun k => ?_
  rw [pairAt_rewriteRelation, hn, hsymmetric]
  have hmoved := t.pairAt_rewriteRelation m id a b c d now
  rw [hdata] at hmoved
  rw [hmoved, if_pos (mem_keysOf ..), hmoved]
  split
  next hk =>
    rw [hedges k (disambiguator_keysOf hk).1 (disambiguator_keysOf hk).2, if_pos hk]
    rfl
  next hk =>
    split
    next hk' => rw [hedges k (disambiguator_keysOf hk').1 (disambiguator_keysOf hk').2, if_neg hk]
    next hk' => rfl

end Edges

namespace Graph

abbrev Links := Edges × Table RelationId RelationMetadata

def withLinks (g : Graph) (s : Links) : Graph :=
  { g with edges := s.1, relations := { g.relations with rows := s.2 } }

def Links.move (s : Links) (id : RelationId) (m : RelationMetadata) (a b c d : EntityId)
    (now : Nanos) : Links :=
  (s.1.rewriteRelation m id a b c d now,
    s.2.insert id { m with source := .entity c, target := .entity d })

def rerouteOf (merged survivor : EntityId) (e : RelationId × RelationMetadata) : RelationReroute :=
  let fromChanged : Bool := e.2.source = .entity merged
  let toChanged : Bool := e.2.target = .entity merged
  let newFrom := if fromChanged then survivor else nodeBytes e.2.source
  let newTo := if toChanged then survivor else nodeBytes e.2.target
  let pair := if e.2.isSymmetric then canonicalPair newFrom newTo else (newFrom, newTo)
  { relation := e.1, oldFrom := nodeBytes e.2.source, oldTo := nodeBytes e.2.target
    newFrom := pair.1, newTo := pair.2, fromChanged, toChanged }

def affected (g : Graph) (scope : RowScope) (merged : EntityId) :
    List (RelationId × RelationMetadata) :=
  g.relations.rows.entries.filter fun e =>
    e.2.scope = scope ∧ (e.2.source = .entity merged ∨ e.2.target = .entity merged)

def Links.away (merged survivor : EntityId) (now : Nanos) (s : Links)
    (e : RelationId × RelationMetadata) : Links :=
  let r := rerouteOf merged survivor e
  s.move e.1 e.2 r.oldFrom r.oldTo r.newFrom r.newTo now

def Links.back (merged survivor : EntityId) (now : Nanos) (s : Links)
    (e : RelationId × RelationMetadata) : Links :=
  let r := rerouteOf merged survivor e
  match s.2.get e.1 with
  | none => s
  | some m => s.move e.1 m r.newFrom r.newTo r.oldFrom r.oldTo now

variable {g : Graph} {scope : RowScope} {merged survivor : EntityId} {now later : Nanos}

def rerouteOne (merged survivor : EntityId) (now : Nanos) (g : Graph)
    (e : RelationId × RelationMetadata) : Graph :=
  let r := rerouteOf merged survivor e
  g.moveRelation e.1 e.2 r.oldFrom r.oldTo r.newFrom r.newTo now

lemma rerouteRelations_eq : g.rerouteRelations scope merged survivor now =
      (g.withLinks ((g.affected scope merged).foldl (Links.away merged survivor now)
        (g.edges, g.relations.rows)), (g.affected scope merged).map (rerouteOf merged survivor)) := by
  have hlinks : (g.affected scope merged).foldl (rerouteOne merged survivor now)
      (g.withLinks (g.edges, g.relations.rows)) = g.withLinks ((g.affected scope merged).foldl
        (Links.away merged survivor now) (g.edges, g.relations.rows)) :=
    foldl_hom g.withLinks fun _ _ => rfl
  refine (foldl_pair (rerouteOne merged survivor now) (rerouteOf merged survivor)
    (g.affected scope merged) g []).trans ?_
  exact Prod.ext hlinks rfl

lemma reverseRelationReroutes_eq (g : Graph) (merged survivor : EntityId) (later : Nanos)
    (s : Links) (l : List (RelationId × RelationMetadata)) :
    (g.withLinks s).reverseRelationReroutes (l.map (rerouteOf merged survivor)) later =
      g.withLinks (l.foldl (Links.back merged survivor later) s) := by
  rw [reverseRelationReroutes, foldl_map]
  refine foldl_hom g.withLinks fun s e => ?_
  change (match s.2.get e.1 with | none => _ | some m => _) = _
  unfold Links.back
  cases s.2.get e.1 <;> rfl

lemma Links.get_back (s : Links) (e : RelationId × RelationMetadata) (id : RelationId) :
    (Links.back merged survivor now s e).2.get id = if id = e.1 then (s.2.get id).map fun r =>
        { r with source := .entity (nodeBytes e.2.source), target := .entity (nodeBytes e.2.target) }
      else s.2.get id := by
  unfold Links.back
  by_cases hid : id = e.1
  · rw [if_pos hid, hid]
    cases hrow : s.2.get e.1 with
    | none => exact hrow
    | some m => exact get_insert_self ..
  · rw [if_neg hid]
    cases s.2.get e.1 with
    | none => rfl
    | some m => exact get_insert_ne _ _ hid

lemma links_returned (hedges : ∀ id m, g.relations.rows.get id = some m → g.edges.HasEdges m id) :
    (g.affected scope merged).foldl (Links.back merged survivor later)
      ((g.affected scope merged).foldl (Links.away merged survivor now)
        (g.edges, g.relations.rows)) = (g.edges, g.relations.rows) := by
  refine foldl_undo ?_ ?_
  · rintro ⟨id, m⟩ he
    have hrow := g.relations.rows.mem_entries_iff.mp (mem_filter.mp he).1
    have hmove := hedges id m hrow
    unfold Links.back Links.away
    simp only [Links.move, get_insert_self]
    refine Prod.ext (hmove.rewriteRelation_back rfl rfl) ?_
    obtain ⟨a, b, data, hsrc, htgt, -⟩ := hmove
    have hsame : { m with
        source := .entity (nodeBytes m.source), target := .entity (nodeBytes m.target) } = m := by
      rw [hsrc, htgt]
      change { m with source := .entity a, target := .entity b } = m
      rw [← hsrc, ← htgt]
    refine Eq.trans ?_ (insert_of_get hrow)
    ext1 k
    rw [get_insert, get_insert, get_insert]
    split
    · exact congrArg some hsame
    · rfl
  · refine List.Pairwise.imp_of_mem ?_ (g.relations.rows.sorted.sublist filter_sublist)
    rintro ⟨id, m⟩ ⟨id', m'⟩ - - hlt s
    have hne : id ≠ id' := hlt.ne
    unfold Links.back Links.away
    simp only [Links.move, get_insert_ne _ _ hne]
    cases s.2.get id with
    | none => rfl
    | some n =>
      exact Prod.ext (Edges.rewriteRelation_comm hne.symm) (s.2.insert_comm hne.symm _ _)

end Graph
end BrainDb
