import BrainDb.Graph.Relation

namespace BrainDb
open Table ExceptLemmas RelationMetadata RelationPhase Except
open Schema (QName RelationConstraints Vocabulary Definition)

structure RelationLinkPayload where
  relationId : RelationId
  (source target : NodeRef)
  relationTypeId : RelationTypeId
  chainRoot : RelationId
  confidence : UInt32
  (validFrom validTo : Option Nanos)
  supersedes : Option RelationId
  evidence : List MemoryId
  extractorId : ExtractorId
  isSymmetric : Bool
  properties : List UInt8
  scope : RowScope
  sessionId : SessionId
  internHint : Option QName

inductive RelationPayload where
  | link (p : RelationLinkPayload)
  | supersede (old : RelationId) (new : RelationLinkPayload)
  | tombstone (id : RelationId) (stamp : Nanos)

/-- `phase_to_wal_payload`: the record is made of the phase alone, before the tables are looked
at. -/
def RelationPhase.walPayload (scope : RowScope) : RelationPhase → RelationPayload
  | .upsert p => .link
    { relationId := p.id, source := .entity p.source, target := .entity p.target
      relationTypeId := p.ty, chainRoot := p.id, confidence := p.confidence
      validFrom := p.validFrom, validTo := p.validTo, supersedes := none, evidence := p.evidence
      extractorId := p.extractor, isSymmetric := p.isSymmetric, properties := p.properties, scope
      sessionId := p.session, internHint := p.internHint }
  | .supersede old r _ => .supersede old
    { relationId := r.id, source := .entity r.fromEntity, target := .entity r.toEntity
      relationTypeId := r.relationType, chainRoot := r.chainRoot, confidence := r.confidence
      validFrom := r.validFrom, validTo := r.validTo, supersedes := r.supersedes
      evidence := r.evidence, extractorId := r.extractorId, isSymmetric := r.isSymmetric
      properties := r.properties, scope, sessionId := 0, internHint := none }
  | .tombstone id stamp => .tombstone id stamp

inductive RelationSinkError where
  | internFailed (e : Schema.VocabularyError)
  | supersedeMissing (id : RelationId)
  | tombstoneMissing (id : RelationId)

def RelationLinkPayload.metadata (p : RelationLinkPayload) (ty : RelationTypeId)
    (now : Nanos) : RelationMetadata :=
  { scope := p.scope, sessionId := p.sessionId, source := p.source, target := p.target
    relationType := ty
    chainRoot := if p.supersedes.isSome then p.chainRoot
      else if p.chainRoot = 0 then p.relationId else p.chainRoot
    properties := p.properties, version := if p.supersedes.isSome then 2 else 1
    confidence := p.confidence, extractorId := p.extractorId, extractedAt := now
    validFrom := p.validFrom, validTo := p.validTo, supersededBy := none
    supersedes := p.supersedes, evidence := p.evidence, tombstoned := false, tombstonedAt := none
    isCurrent := true, isSymmetric := p.isSymmetric }

def Graph.writeRelationLink (g : Graph) (p : RelationLinkPayload) (now : Nanos) :
    Except RelationSinkError Graph := do
  let (ty, g) ← (g.resolveRelationType p.relationTypeId p.internHint now).mapError .internFailed
  .ok (g.writeRelation p.relationId (p.metadata ty now) now)

def Graph.replayRelation (g : Graph) (now : Nanos) :
    RelationPayload → Except RelationSinkError Graph
  | .link p => g.writeRelationLink p now
  | .supersede oldId new =>
    match g.relations.rows.get oldId with
    | none => .error (.supersedeMissing oldId)
    | some old =>
      (g.setRelationRow oldId (supersededRow old new.relationId now)).writeRelationLink new now
  | .tombstone id stamp =>
    match g.relations.rows.get id with
    | none => .error (.tombstoneMissing id)
    | some row => .ok (g.setRelationRow id (tombstonedRow row stamp))

def RelationMetadata.timeless (m : RelationMetadata) : RelationMetadata :=
  { m with
    extractedAt := 0
    validTo := m.validTo.map fun _ => 0
    tombstonedAt := m.tombstonedAt.map fun _ => 0 }

def EdgeData.timeless (d : EdgeData) : EdgeData := { d with createdAt := 0 }

def Schema.Definition.timeless {C : Type} (d : Definition C) : Definition C :=
  { d with createdAt := 0 }

def Schema.Vocabulary.timeless {C : Type} (v : Vocabulary C) : Vocabulary C :=
  { v with rows := v.rows.mapValues Definition.timeless }

def Edges.timeless (t : Edges) : Edges :=
  ⟨t.forward.mapValues EdgeData.timeless, t.reverse.mapValues EdgeData.timeless⟩

def RelationTables.timeless (t : RelationTables) : RelationTables :=
  { t with rows := t.rows.mapValues RelationMetadata.timeless }

def Graph.timeless (g : Graph) : Graph :=
  { g with
    catalog := { g.catalog with relationTypes := g.catalog.relationTypes.timeless }
    relations := g.relations.timeless
    edges := g.edges.timeless }

variable (t : Edges)

lemma Edges.timeless_insertPair (k : EdgeKey) (d : EdgeData) :
    (t.insertPair k d).timeless = t.timeless.insertPair k d.timeless := by
  rw [insertPair, timeless, mapValues_insert, mapValues_insert]
  rfl

lemma Edges.timeless_link (k : EdgeKey) (d : EdgeData) :
    (t.link k d).timeless = t.timeless.link k d.timeless := by
  unfold link
  split
  · rw [timeless_insertPair, timeless_insertPair]
  · rw [timeless_insertPair]

lemma Edges.timeless_linkRelation (source target : NodeRef) (ty : RelationTypeId)
    (id : RelationId) (isSymmetric : Bool) (d : EdgeData) :
    (t.linkRelation source target ty id isSymmetric d).timeless =
      t.timeless.linkRelation source target ty id isSymmetric d.timeless := by
  unfold linkRelation
  split
  · rw [timeless_link, timeless_link]
  · rw [timeless_link]

lemma RelationTables.timeless_insertRow (t : RelationTables) (id : RelationId)
    (m : RelationMetadata) : (t.insertRow id m).timeless = t.timeless.insertRow id m.timeless := by
  unfold insertRow timeless
  rw [mapValues_insert]
  rfl

variable {g h g' : Graph} {m m' : RelationMetadata} {id : RelationId} {now : Nanos}
  {ty : RelationTypeId} {r : Relation} {scope : RowScope}

namespace Graph

def SameTimeless (g h : Graph) : Prop := g.timeless = h.timeless

lemma timeless_setRelationRow (g : Graph) (id : RelationId) (m : RelationMetadata) :
    (g.setRelationRow id m).timeless = g.timeless.setRelationRow id m.timeless := by
  unfold setRelationRow timeless RelationTables.timeless
  simp only [mapValues_insert]

lemma timeless_writeRelation (g : Graph) (id : RelationId) (m : RelationMetadata) (now : Nanos) :
    (g.writeRelation id m now).timeless = g.timeless.writeRelation id m.timeless 0 := by
  unfold writeRelation
  simp only [timeless, Edges.timeless_linkRelation, RelationTables.timeless_insertRow]
  rfl

lemma SameTimeless.setRelationRow (hsame : g.SameTimeless h) (id : RelationId)
    (hm : m.timeless = m'.timeless) :
    (g.setRelationRow id m).SameTimeless (h.setRelationRow id m') := by
  unfold SameTimeless at hsame ⊢
  rw [timeless_setRelationRow, timeless_setRelationRow, hsame, hm]

lemma SameTimeless.writeRelation (hsame : g.SameTimeless h) (id : RelationId)
    (hm : m.timeless = m'.timeless) (now now' : Nanos) :
    (g.writeRelation id m now).SameTimeless (h.writeRelation id m' now') := by
  unfold SameTimeless at hsame ⊢
  rw [timeless_writeRelation, timeless_writeRelation, hsame, hm]

lemma SameTimeless.get_relation (hsame : g.SameTimeless h)
    (hget : g.relations.rows.get id = some m) :
    ∃ m', h.relations.rows.get id = some m' ∧ m.timeless = m'.timeless := by
  have hrows := congrArg (fun g => g.relations.rows.get id) hsame
  have hmap : (g.relations.rows.get id).map RelationMetadata.timeless =
      (h.relations.rows.get id).map RelationMetadata.timeless := by
    rw [← get_mapValues, ← get_mapValues]
    exact hrows
  rw [hget, Option.map_some, eq_comm, Option.map_eq_some_iff] at hmap
  obtain ⟨m', hget', heq⟩ := hmap
  exact ⟨m', hget', heq.symm⟩

end Graph

variable {C : Type} {ty' : RelationTypeId} {hint : Option QName} {oldId : RelationId}
  (v : Vocabulary C)

lemma Schema.Vocabulary.timeless_register (row : Definition C) :
    (v.register row).timeless = v.timeless.register row.timeless := by
  unfold register timeless
  rw [mapValues_insert]
  rfl

lemma Schema.Vocabulary.nextId_timeless : v.timeless.nextId = v.nextId := by
  unfold nextId timeless
  rw [maxKey_mapValues]

lemma Schema.Vocabulary.internOrGet_timeless {v w : Vocabulary C} {q : QName} {c : C}
    {lsn id : Nat} {v' : Vocabulary C} (hsame : v.timeless = w.timeless)
    (h : v.internOrGet q c lsn now = .ok (id, v')) (now' : Nanos) :
    ∃ w', w.internOrGet q c lsn now' = .ok (id, w') ∧ v'.timeless = w'.timeless := by
  have hname : v.byQname.get q = w.byQname.get q := congrArg (fun u => u.byQname.get q) hsame
  have hnext : v.nextId = w.nextId := by
    rw [← v.nextId_timeless, ← w.nextId_timeless, hsame]
  unfold internOrGet at h ⊢
  rw [← hname]
  cases hget : v.byQname.get q with
  | some id' =>
    simp only [hget, ok.injEq, Prod.mk.injEq] at h
    obtain ⟨rfl, rfl⟩ := h
    exact ⟨w, rfl, hsame⟩
  | none =>
    simp only [hget] at h
    obtain ⟨id', hid, hok⟩ := bind_ok h
    obtain ⟨rfl, rfl⟩ := hok
    simp only [← hnext, hid]
    refine ⟨_, rfl, ?_⟩
    rw [timeless_register, timeless_register, hsame]
    rfl

lemma Graph.SameTimeless.resolveRelationType (hsame : g.SameTimeless h)
    (hres : g.resolveRelationType ty hint now = .ok (ty', g')) (now' : Nanos) :
    ∃ h', h.resolveRelationType ty hint now' = .ok (ty', h') ∧ g'.SameTimeless h' := by
  cases hint with
  | none =>
    cases hres
    exact ⟨h, rfl, hsame⟩
  | some q =>
    obtain ⟨⟨id, types⟩, hintern, hok⟩ := bind_ok hres
    cases hok
    obtain ⟨_, hval, hget⟩ := bind_ok hintern
    have htypes : g.catalog.relationTypes.timeless = h.catalog.relationTypes.timeless :=
      congrArg (fun g => g.catalog.relationTypes) hsame
    obtain ⟨types', hget', htimeless⟩ := Vocabulary.internOrGet_timeless htypes hget now'
    have hintern' : Schema.relationTypeInternOrGet h.catalog.relationTypes q 0 now' =
        .ok (ty', types') := by
      unfold Schema.relationTypeInternOrGet
      rw [hval]
      exact hget'
    refine ⟨{ h with catalog := { h.catalog with relationTypes := types' } }, ?_, ?_⟩
    · unfold Graph.resolveRelationType
      simp only [hintern']
      rfl
    · unfold SameTimeless timeless at hsame ⊢
      simp only [Graph.mk.injEq, Schema.Catalog.mk.injEq] at hsame ⊢
      simp only [htimeless, hsame, and_self]

structure UpsertRelation.StoredAsGiven (p : UpsertRelation) (g : Graph) (scope : RowScope)
    (ty : RelationTypeId) (declared : RelationConstraints) : Prop where
  symmetry : declared.isSymmetric = p.isSymmetric
  ordered : p.isSymmetric = true → p.source ≤ p.target
  direction : ∀ fromType toType, g.requireEntityExists p.source = .ok fromType →
    g.requireEntityExists p.target = .ok toType →
    resolveEndpointDirection (p.relation ty p.isSymmetric) fromType toType declared = .ok .asGiven
  noDuplicate : g.findIdenticalActiveRelation scope (p.relation ty p.isSymmetric) = none
  noConflict :
    g.findCardinalityConflicts scope (p.relation ty p.isSymmetric) declared.cardinality = []

structure Relation.Succeeds (r : Relation) (oldId : RelationId) (old : RelationMetadata) :
    Prop where
  version : old.version = 1
  supersedes : r.supersedes = some oldId
  chainRoot : r.chainRoot = if old.supersedes = none then oldId else old.chainRoot
  symmetry : r.isSymmetric = old.isSymmetric
  live : r.tombstoned = false ∧ r.tombstonedAt = none

def RelationPhase.Projected (g : Graph) (scope : RowScope) : RelationPhase → Prop
  | .upsert p => ∀ ty g' declared,
    g.resolveRelationType p.ty p.internHint p.extractedAt = .ok (ty, g') →
    g'.lookupType ty = .ok declared → p.StoredAsGiven g' scope ty declared
  | .supersede oldId r _ => ∀ old, g.relations.rows.get oldId = some old → r.Succeeds oldId old
  | .tombstone _ _ => True

lemma Relation.oriented_asGiven (h : r.isSymmetric = true → r.fromEntity ≤ r.toEntity) :
    r.oriented .asGiven r.isSymmetric = r := by
  by_cases hsym : r.isSymmetric = true
  · simp only [oriented, if_pos hsym, canonicalPair, if_pos (h hsym)]
  · simp only [oriented, if_neg hsym]

namespace Graph
variable {sessionId : SessionId} {declared : RelationConstraints} {p : UpsertRelation}

lemma relationCreate_asGiven (h : g.relationCreate scope sessionId r now = .ok (id, g'))
    (hdecl : g.lookupType r.relationType = .ok declared)
    (hsymmetry : declared.isSymmetric = r.isSymmetric)
    (hordered : r.isSymmetric = true → r.fromEntity ≤ r.toEntity)
    (hdirection : ∀ fromType toType, g.requireEntityExists r.fromEntity = .ok fromType →
      g.requireEntityExists r.toEntity = .ok toType →
      resolveEndpointDirection r fromType toType declared = .ok .asGiven)
    (hdup : g.findIdenticalActiveRelation scope r = none)
    (hconflict : g.findCardinalityConflicts scope r declared.cardinality = []) :
    g' = g.insertNewRelation scope sessionId r now := by
  obtain ⟨_, _, h⟩ := bind_ok h
  obtain ⟨fromType, hfrom, h⟩ := bind_ok h
  obtain ⟨toType, hto, h⟩ := bind_ok h
  rw [hdecl] at h
  obtain ⟨direction, hdir, h⟩ := bind_ok (x := ok declared) h
  cases hdir
  obtain ⟨direction, hdir, h⟩ := bind_ok h
  rw [hdirection fromType toType hfrom hto] at hdir
  cases hdir
  split at h
  · cases h
  · rw [hsymmetry, Relation.oriented_asGiven hordered, placeRelation, hdup] at h
    simp only [hconflict, ok.injEq, Prod.mk.injEq] at h
    exact h.2.symm

lemma relationCreate_declared (h : g.relationCreate scope sessionId r now = .ok (id, g')) :
    ∃ declared, g.lookupType r.relationType = .ok declared := by
  obtain ⟨_, _, h⟩ := bind_ok h
  obtain ⟨_, _, h⟩ := bind_ok h
  obtain ⟨_, _, h⟩ := bind_ok h
  obtain ⟨declared, hdecl, _⟩ := bind_ok h
  exact ⟨declared, hdecl⟩

lemma effectiveIsSymmetric_ok {isSymmetric : Bool}
    (h : g.effectiveIsSymmetric p ty = .ok isSymmetric) (hdecl : g.lookupType ty = .ok declared)
    (hsymmetry : declared.isSymmetric = p.isSymmetric) : isSymmetric = p.isSymmetric := by
  unfold effectiveIsSymmetric at h
  unfold lookupType at hdecl
  split at h
  · exact (ok.inj h).symm
  · split at hdecl
    next row hrow =>
      rw [hrow] at h
      cases hdecl
      exact (ok.inj h).symm.trans hsymmetry
    · cases hdecl

lemma applyUpsertRelation_asGiven (h : g.applyUpsertRelation scope p = .ok g')
    (hp : (upsert p).Projected g scope) :
    ∃ ty g₁, g.resolveRelationType p.ty p.internHint p.extractedAt = .ok (ty, g₁) ∧
      g' = g₁.insertNewRelation scope p.session (p.relation ty p.isSymmetric) p.extractedAt := by
  obtain ⟨⟨ty, g₁⟩, hres, h⟩ := bind_ok h
  have hres := mapError_ok hres
  obtain ⟨isSymmetric, hsymmetric, h⟩ := bind_ok h
  obtain ⟨⟨id, g₂⟩, hcreate, h⟩ := bind_ok h
  have hcreate := mapError_ok hcreate
  cases h
  obtain ⟨declared, hdecl⟩ := relationCreate_declared hcreate
  have hgiven := hp ty g₁ declared hres hdecl
  have heffective := effectiveIsSymmetric_ok hsymmetric hdecl hgiven.symmetry
  exact ⟨ty, g₁, hres, relationCreate_asGiven hcreate hdecl hgiven.symmetry hgiven.ordered
    hgiven.direction hgiven.noDuplicate hgiven.noConflict⟩

lemma relationSupersede_ok (h : g.relationSupersede scope sessionId oldId r now = .ok (id, g')) :
    ∃ old, g.relations.rows.get oldId = some old ∧ old.scope = scope ∧
      g' = (g.setRelationRow oldId (supersededRow old r.id r.extractedAt)).insertNewRelation scope
        sessionId (successorOf oldId old r) now := by
  obtain ⟨_, _, h⟩ := bind_ok h
  split at h
  · cases h
  next old hold =>
    split at h
    · cases h
    next hsc =>
      split at h
      · cases h
      · split at h
        · cases h
        · split at h
          · cases h
          · split at h
            · cases h
            · cases h
              exact ⟨old, hold, (not_not.mp hsc).symm, rfl⟩

end Graph

lemma UpsertRelation.timeless_metadata (p : UpsertRelation) (scope : RowScope)
    (ty : RelationTypeId) (now : Nanos) (payload : RelationLinkPayload)
    (hpay : (upsert p).walPayload scope = .link payload) :
    (metadataFromRelation scope p.session (p.relation ty p.isSymmetric)).timeless =
      (payload.metadata ty now).timeless := by
  cases hpay
  simp [metadataFromRelation, UpsertRelation.relation, Relation.newRoot,
    RelationLinkPayload.metadata, timeless]

lemma Relation.Succeeds.timeless_metadata {old : RelationMetadata} (h : r.Succeeds oldId old)
    (scope : RowScope) (stamp now : Nanos) (payload : RelationLinkPayload)
    (hpay : (supersede oldId r stamp).walPayload scope = .supersede oldId payload) :
    (metadataFromRelation scope 0 (Graph.successorOf oldId old r)).timeless =
      (payload.metadata r.relationType now).timeless := by
  cases hpay
  have hver : saturatingAdd u32Max old.version 1 = 2 := by
    rw [h.version]
    rfl
  simp [metadataFromRelation, Graph.successorOf, RelationLinkPayload.metadata,
    timeless, h.supersedes, h.chainRoot, h.symmetry, h.live, hver]

lemma timeless_supersededRow (h : m.timeless = m'.timeless) (newId : RelationId)
    (stamp stamp' : Nanos) :
    (Graph.supersededRow m newId stamp).timeless = (Graph.supersededRow m' newId stamp').timeless := by
  simp only [timeless, mk.injEq] at h
  simp [Graph.supersededRow, timeless, h]

lemma timeless_tombstonedRow (h : m.timeless = m'.timeless) (stamp : Nanos) :
    (Graph.tombstonedRow m stamp).timeless = (Graph.tombstonedRow m' stamp).timeless := by
  simp only [timeless, mk.injEq] at h
  simp [Graph.tombstonedRow, timeless, h]

structure RelationMetadata.Coherent (m : RelationMetadata) : Prop where
  current : m.isCurrent = (!m.tombstoned && m.supersededBy.isNone)
  stamped : m.tombstoned = true → m.tombstonedAt.isSome

namespace Graph

def RelationsCoherent (g : Graph) : Prop :=
  ∀ id m, g.relations.rows.get id = some m → m.Coherent

lemma RelationsCoherent.insert (hg : g.RelationsCoherent) (hm : m.Coherent)
    (hrows : h.relations.rows = g.relations.rows.insert id m) : h.RelationsCoherent := by
  intro id' m' hget
  rw [hrows, get_insert] at hget
  split at hget
  · exact Option.some.inj hget ▸ hm
  · exact hg id' m' hget

lemma resolveRelationType_relations (h : g.resolveRelationType ty hint now = .ok (ty', g')) :
    g'.relations = g.relations := by
  cases hint with
  | none =>
    cases h
    rfl
  | some q =>
    obtain ⟨⟨id, types⟩, _, h⟩ := bind_ok h
    cases h
    rfl

lemma RelationsCoherent.applyRelation {w : RelationPhase} (hg : g.RelationsCoherent)
    (h : g.applyRelation scope w = .ok g') (hw : w.Projected g scope) : g'.RelationsCoherent := by
  cases w with
  | upsert p =>
    obtain ⟨ty, g₁, hres, rfl⟩ := applyUpsertRelation_asGiven h hw
    have hrows := congrArg RelationTables.rows (resolveRelationType_relations hres)
    have hroot : (metadataFromRelation scope p.session (p.relation ty p.isSymmetric)).Coherent :=
      ⟨rfl, fun htomb => absurd htomb Bool.false_ne_true⟩
    exact hg.insert hroot (congrArg (Table.insert · _ _) hrows)
  | supersede oldId r stamp =>
    obtain ⟨_, _, h⟩ := bind_ok h
    obtain ⟨⟨id, g₁⟩, hsup, h⟩ := bind_ok h
    cases h
    obtain ⟨old, hold, _, rfl⟩ := relationSupersede_ok (mapError_ok hsup)
    have hlive := (hw old hold).live
    have hflip : (supersededRow old r.id r.extractedAt).Coherent :=
      ⟨by simp [supersededRow], (hg oldId old hold).stamped⟩
    refine (hg.insert hflip rfl).insert ⟨rfl, fun htomb => ?_⟩ rfl
    have htomb' : r.tombstoned = true := htomb
    rw [hlive.1] at htomb'
    cases htomb'
  | tombstone id stamp =>
    obtain ⟨_, _, h⟩ := bind_ok h
    unfold relationTombstone at h
    split at h
    · cases h
    · split at h
      · cases h
        exact hg
      · cases h
        exact hg.insert ⟨rfl, fun _ => rfl⟩ rfl

lemma replayRelation_of_live {w : RelationPhase} (hcoh : g.RelationsCoherent)
    (hsame : g.SameTimeless h) (hlive : g.applyRelation scope w = .ok g') (hw : w.Projected g scope)
    (now : Nanos) :
    ∃ h', h.replayRelation now (w.walPayload scope) = .ok h' ∧ g'.SameTimeless h' := by
  cases w with
  | upsert p =>
    obtain ⟨ty, g₁, hres, rfl⟩ := applyUpsertRelation_asGiven hlive hw
    obtain ⟨h₁, hres', hsame₁⟩ := hsame.resolveRelationType hres now
    refine ⟨_, ?_, hsame₁.writeRelation p.id (p.timeless_metadata scope ty now _ rfl) _ now⟩
    simp only [replayRelation, walPayload, writeRelationLink, hres']
    rfl
  | supersede oldId r stamp =>
    obtain ⟨_, _, hlive⟩ := bind_ok hlive
    obtain ⟨⟨id, g₁⟩, hsup, hlive⟩ := bind_ok hlive
    cases hlive
    obtain ⟨old, hold, _, rfl⟩ := relationSupersede_ok (mapError_ok hsup)
    obtain ⟨old', hold', hrow⟩ := hsame.get_relation hold
    have hflip := hsame.setRelationRow oldId (timeless_supersededRow hrow r.id r.extractedAt now)
    refine ⟨_, ?_, hflip.writeRelation r.id
      ((hw old hold).timeless_metadata scope stamp now _ rfl) stamp now⟩
    simp only [replayRelation, walPayload, hold']
    rfl
  | tombstone id stamp =>
    obtain ⟨_, _, hlive⟩ := bind_ok hlive
    unfold relationTombstone at hlive
    split at hlive
    · cases hlive
    next row hget =>
      obtain ⟨row', hget', hrow⟩ := hsame.get_relation hget
      refine ⟨h.setRelationRow id (tombstonedRow row' stamp), ?_, ?_⟩
      · simp only [replayRelation, walPayload, hget']
      · split at hlive
        next htomb =>
          -- the live write left the row alone: it is the tombstone already
          cases hlive
          have hstl : (tombstonedRow row' stamp).timeless = row.timeless := by
            rw [← timeless_tombstonedRow hrow stamp]
            have hcur := (hcoh id row hget).current
            have hstamped := (hcoh id row hget).stamped htomb
            obtain ⟨since, hsince⟩ := Option.isSome_iff_exists.mp hstamped
            simp [tombstonedRow, RelationMetadata.timeless, htomb, hsince, hcur]
          have hset := hsame.setRelationRow id hstl.symm
          rwa [setRelationRow, insert_of_get hget] at hset
        · cases hlive
          exact hsame.setRelationRow id (timeless_tombstonedRow hrow stamp)

end Graph

structure RelationWrite where
  scope : RowScope
  phase : RelationPhase
  recordedAt : Nanos

namespace Graph

def applyRelations (g : Graph) (ws : List RelationWrite) : Except RelationApplyError Graph :=
  ws.foldlM (fun g w => g.applyRelation w.scope w.phase) g

def replayRelations (g : Graph) (ws : List RelationWrite) : Except RelationSinkError Graph :=
  ws.foldlM (fun g w => g.replayRelation w.recordedAt (w.phase.walPayload w.scope)) g

def ProjectedRun : Graph → List RelationWrite → Prop
  | _, [] => True
  | g, w :: ws => w.phase.Projected g w.scope ∧
    ∀ g', g.applyRelation w.scope w.phase = .ok g' → ProjectedRun g' ws

lemma replayRelations_of_live {ws : List RelationWrite} (hcoh : g.RelationsCoherent)
    (hsame : g.SameTimeless h) (hlive : g.applyRelations ws = .ok g') (hrun : g.ProjectedRun ws) :
    ∃ h', h.replayRelations ws = .ok h' ∧ g'.SameTimeless h' := by
  induction ws generalizing g h with
  | nil =>
    cases hlive
    exact ⟨h, rfl, hsame⟩
  | cons w ws ih =>
    obtain ⟨g₁, hstep, hlive⟩ := bind_ok hlive
    obtain ⟨h₁, hrep, hsame₁⟩ := replayRelation_of_live hcoh hsame hstep hrun.1 w.recordedAt
    obtain ⟨h', hrest, hsame'⟩ :=
      ih (hcoh.applyRelation hstep hrun.1) hsame₁ hlive (hrun.2 g₁ hstep)
    refine ⟨h', ?_, hsame'⟩
    rw [replayRelations, List.foldlM_cons, hrep]
    exact hrest

/-- From coherent tables, replaying the records of accepted relation writes gives the tables that
the writes gave, times apart, provided each write stored what its record says. -/
theorem replayed_relations_agree {g g' : Graph} {ws : List RelationWrite}
    (hcoh : g.RelationsCoherent) (hlive : g.applyRelations ws = .ok g') (hrun : g.ProjectedRun ws) :
    ∃ g'', g.replayRelations ws = .ok g'' ∧ g''.timeless = g'.timeless := by
  obtain ⟨g'', hrep, hsame⟩ := replayRelations_of_live hcoh (Eq.refl g.timeless) hlive hrun
  exact ⟨g'', hrep, hsame.symm⟩

def team : Graph :=
  let person (id : EntityId) (name : String) : EntityMetadata :=
    { id, entityType := 1, canonicalName := name, normalizedName := name, aliases := []
      attributes := [], mentionCount := 0, createdAt := 0, updatedAt := 0, mergedInto := none
      embeddingVersion := 0, tombstoned := false, merged := false, scope := ⟨1, 1⟩, sessionId := 0 }
  let managedBy : Definition RelationConstraints :=
    { id := 1, qname := ⟨"acme", "managed_by"⟩
      constraints := { RelationConstraints.open with cardinality := .manyToOne }
      schemaVersion := 1, createdAt := 0, origin := .schemaDeclared 1 }
  let g := Graph.empty { Schema.Catalog.empty with
    relationTypes := Vocabulary.empty.register managedBy }
  { g with entities := { g.entities with
      entities := ((g.entities.entities.insert 1 (person 1 "ann")).insert 2 (person 2 "bob")).insert
        3 (person 3 "eve") } }

def managed (id : RelationId) (manager : EntityId) : RelationWrite :=
  { scope := ⟨1, 1⟩
    phase := .upsert
      { id, ty := 1, session := 0, source := 1, target := manager, confidence := 0, evidence := []
        isSymmetric := false, extractor := 0, extractedAt := 10 * id, properties := []
        validFrom := none, validTo := none, internHint := none }
    recordedAt := 10 * id + 1 }

lemma team_coherent : team.RelationsCoherent := by
  intro id m hget
  cases hget

def reassigned : List RelationWrite :=
  [managed 1 2, ⟨⟨1, 1⟩, .tombstone 1 15, 16⟩, managed 2 3, ⟨⟨1, 1⟩, .tombstone 2 25, 26⟩, managed 3 2]

lemma reassigned_projected : team.ProjectedRun reassigned := by
  refine ⟨?_, fun g₁ h₁ => ⟨trivial, fun g₂ h₂ => ⟨?_, fun g₃ h₃ => ⟨trivial, fun g₄ h₄ =>
    ⟨?_, fun _ _ => trivial⟩⟩⟩⟩⟩
  · intro ty g' declared hres hdecl
    cases hres
    cases hdecl
    exact ⟨rfl, by decide, fun _ _ hfrom hto => by cases hfrom; cases hto; rfl, rfl, rfl⟩
  · intro ty g' declared hres hdecl
    cases h₁
    cases h₂
    cases hres
    cases hdecl
    exact ⟨rfl, by decide, fun _ _ hfrom hto => by cases hfrom; cases hto; rfl, rfl, rfl⟩
  · intro ty g' declared hres hdecl
    cases h₁
    cases h₂
    cases h₃
    cases h₄
    cases hres
    cases hdecl
    exact ⟨rfl, by decide, fun _ _ hfrom hto => by cases hfrom; cases hto; rfl, rfl, rfl⟩

theorem reassigned_replayed :
    ∃ g' g'', team.applyRelations reassigned = .ok g' ∧ team.replayRelations reassigned = .ok g'' ∧
      g''.timeless = g'.timeless ∧ (g''.relations.rows.get 1).map tombstoned = some true ∧
      (g''.relations.rows.get 3).map isCurrent = some true := by
  obtain ⟨g', hlive⟩ : ∃ g', team.applyRelations reassigned = .ok g' := ⟨_, rfl⟩
  obtain ⟨g'', hrep, hsame⟩ := replayed_relations_agree team_coherent hlive reassigned_projected
  refine ⟨g', g'', hlive, hrep, hsame, ?_⟩
  cases hrep
  decide +kernel

/-- Two managers in turn: the write of the second supersedes the first, its replay does not. -/
theorem second_manager_not_replayed : ∃ g' g'', team.RelationsCoherent ∧
      team.applyRelations [managed 1 2, managed 2 3] = .ok g' ∧
      team.replayRelations [managed 1 2, managed 2 3] = .ok g'' ∧
      (g'.relations.rows.get 1).map isCurrent = some false ∧
      (g''.relations.rows.get 1).map isCurrent = some true ∧
      (g'.relations.rows.get 2).map version = some 2 ∧
      (g''.relations.rows.get 2).map version = some 1 := by
  refine ⟨_, _, team_coherent, (by rfl), (by rfl), ?_, ?_, ?_, ?_⟩
  all_goals decide +kernel

end Graph
end BrainDb
