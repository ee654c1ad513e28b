import BrainDb.Graph.EntityLog

namespace BrainDb
open List Table ExceptLemmas Entities
variable {scope : RowScope} {id : EntityId} {now : Nanos} {g g' : Graph} {t' : Entities}
  {mint : MergeId}

namespace Entities
variable {t : Table TrigramKey Unit} {ty : EntityTypeId} {trigrams : List Trigram}

lemma get_indexTrigrams_ne {key : TrigramKey} (h : key.entity ≠ id) :
    (indexTrigrams t scope ty id trigrams).get key = t.get key := by
  unfold indexTrigrams
  rw [get_foldl_insert, if_neg]
  intro hmem
  obtain ⟨tg, _, rfl⟩ := List.mem_map.mp hmem
  exact h rfl

lemma get_removeTrigrams_of_none {key : TrigramKey} (h : t.get key = none) :
    (removeTrigrams t scope ty id trigrams).get key = none := by
  unfold removeTrigrams
  rw [get_foldl_remove]
  split
  · rfl
  · exact h

lemma get_removeTrigrams_mem {tg : Trigram} (h : tg ∈ trigrams) :
    (removeTrigrams t scope ty id trigrams).get ⟨scope, ty, tg, id⟩ = none := by
  unfold removeTrigrams
  rw [get_foldl_remove, if_pos (List.mem_map_of_mem h)]

lemma removeTrigrams_of_absent (h : ∀ tg ∈ trigrams, t.get ⟨scope, ty, tg, id⟩ = none) :
    removeTrigrams t scope ty id trigrams = t := by
  unfold removeTrigrams
  ext1 key
  rw [get_foldl_remove]
  split
  next hmem =>
    obtain ⟨tg, htg, rfl⟩ := List.mem_map.mp hmem
    exact (h tg htg).symm
  · rfl

def KeyedRows (rows : Table EntityId EntityMetadata) : Prop :=
  ∀ id m, rows.get id = some m → m.id = id

def Keyed (t : Entities) : Prop := KeyedRows t.entities

lemma Keyed.insert {t : Entities} (h : t.Keyed) (row : EntityMetadata)
    (ht' : t'.entities = t.entities.insert row.id row) : t'.Keyed := by
  intro id row' hget
  rw [ht', get_insert] at hget
  split at hget
  next heq => exact Option.some.inj hget ▸ heq.symm
  · exact h id row' hget

end Entities

open Entities (nameKey entityKey Keyed)
variable {w : EntityPhase} {row m : EntityMetadata} {key : CanonicalNameKey} (t : Entities)

namespace EntityPhase

def stamp : EntityPhase → Nanos
  | upsert p => p.createdAt
  | update b => b.stamp
  | rename b => b.stamp
  | tombstone b => b.stamp
  | merge b => b.stamp
  | unmerge b => b.stamp

def touched : EntityPhase → List EntityId
  | upsert p => [p.id]
  | update b => [b.id]
  | rename b => [b.id]
  | tombstone b => [b.id]
  | merge b => [b.source, b.target]
  | unmerge b => b.merged :: ((t.entities.get b.merged).bind (·.mergedInto)).toList

def named : EntityPhase → Option (EntityId × String)
  | update b => some (b.id, b.canonicalName)
  | rename b => some (b.id, b.newCanonicalName)
  | _ => none

def mergedAway : EntityPhase → Option EntityId
  | merge b => some b.source
  | _ => none

def restored : EntityPhase → Option EntityId
  | unmerge b => some b.merged
  | _ => none

def reindexed : EntityPhase → Option EntityId
  | upsert p => some p.id
  | update b => some b.id
  | rename b => some b.id
  | unmerge b => some b.merged
  | _ => none

lemma reindexed_of_named {name : String} (h : w.named = some (id, name)) :
    w.reindexed = some id := by
  cases w with
  | update b =>
    cases h
    rfl
  | rename b =>
    cases h
    rfl
  | _ => cases h

variable [TextFolding]

def nameTaken (scope : RowScope) : EntityPhase → Option CanonicalNameKey
  | upsert p => some (entityKey scope p.entity)
  | update b => renamed b.id b.canonicalName
  | rename b => renamed b.id b.newCanonicalName
  | unmerge b => (t.entities.get b.merged).map nameKey
  | _ => none
where
  renamed (id : EntityId) (name : String) : Option CanonicalNameKey :=
    ((t.entities.get id).map fun row =>
      (nameKey row, entityKey row.scope { row.toEntity with canonicalName := name })).bind
      fun keys => if keys.1 = keys.2 then none else some keys.2

lemma nameTaken_renamed {t : Entities} {name : String} (hrow : t.entities.get id = some row)
    (hne : key ≠ nameKey row)
    (hkey : key = entityKey row.scope { row.toEntity with canonicalName := name }) :
    nameTaken.renamed t id name = some key := by
  unfold nameTaken.renamed
  rw [hrow]
  exact (if_neg fun heq => hne (hkey.trans heq.symm)).trans (congrArg some hkey.symm)

end EntityPhase

structure RowStep (t : Entities) (w : EntityPhase) (id : EntityId)
    (row row' : EntityMetadata) : Prop where
  stamped : row' = row ∨ (id ∈ w.touched t ∧ row'.updatedAt = w.stamp)
  named : row'.canonicalName = row.canonicalName ∨ w.named = some (id, row'.canonicalName)
  pointed : row'.mergedInto = row.mergedInto ∨
    (w.mergedAway = some id ∧ row.mergedInto = none) ∨
    (w.restored = some id ∧ row'.mergedInto = none)
  place : row'.scope = row.scope ∧ row'.entityType = row.entityType ∧ row'.id = row.id
  buried : row.tombstoned = true → row.aliases = [] → w.reindexed = some id ∨
    (row'.tombstoned = true ∧ row'.aliases = [])

lemma RowStep.refl (w : EntityPhase) (id : EntityId) (row : EntityMetadata) :
    RowStep t w id row row :=
  ⟨.inl rfl, .inl rfl, .inl rfl, ⟨rfl, rfl, rfl⟩, fun htomb halias => .inr ⟨htomb, halias⟩⟩

section
variable [TextFolding]

structure Frame (t t' : Entities) (scope : RowScope) (w : EntityPhase) : Prop where
  row : ∀ id row, t.entities.get id = some row →
    ∃ row', t'.entities.get id = some row' ∧ RowStep t w id row row'
  name : ∀ key, t.byCanonicalName.get key = none →
    w.nameTaken t scope = some key ∨ t'.byCanonicalName.get key = none
  trigram : ∀ id row, t.entities.get id = some row → row.tombstoned = true →
    w.reindexed ≠ some id → ∀ key, key.entity = id → t.trigrams.get key = none →
    t'.trigrams.get key = none
  keyed : t'.Keyed

variable {t : Entities}

omit [TextFolding] in
lemma rows_of_insert {row' : EntityMetadata} (hrow : t.entities.get id = some row)
    (ht' : t'.entities = t.entities.insert id row') (hstep : RowStep t w id row row') :
    ∀ i r, t.entities.get i = some r → ∃ r', t'.entities.get i = some r' ∧ RowStep t w i r r' := by
  intro i r hr
  by_cases hi : i = id
  · subst hi
    cases hrow.symm.trans hr
    exact ⟨row', by rw [ht', get_insert_self], hstep⟩
  · exact ⟨r, by rw [ht', get_insert_ne _ _ hi, hr], .refl t w i r⟩

variable {types : Schema.EntityTypes} {current : EntityMetadata}

lemma put_frame {p : UpsertEntity} (h : t.put types scope p.session p.entity = .ok t')
    (hkeyed : t.Keyed) (hnew : t.entities.get p.id = none) : Frame t t' scope (.upsert p) := by
  obtain ⟨_, _, h⟩ := bind_ok h
  split at h
  · cases h
  · cases h
    refine ⟨?_, ?_, ?_, hkeyed.insert (newRow scope p.session p.entity) rfl⟩
    · intro id row hrow
      have hne : id ≠ p.id := by
        rintro rfl
        rw [hnew] at hrow
        cases hrow
      exact ⟨row, (get_insert_ne _ _ hne).trans hrow, .refl t _ id row⟩
    · intro key hkey
      by_cases heq : key = entityKey scope p.entity
      · exact .inl (congrArg some heq.symm)
      · exact .inr ((get_insert_ne _ _ heq).trans hkey)
    · intro id row _ _ hspared key hent hkey
      have hne : key.entity ≠ p.entity.id := fun heq => hspared (congrArg some (heq.symm.trans hent))
      dsimp only [added]
      rw [get_indexTrigrams_ne hne]
      exact hkey

lemma rekeyName_none {next : Entity} {names : Table CanonicalNameKey EntityId}
    (h : t.rekeyName current next = .ok names) (hkey : t.byCanonicalName.get key = none) :
    (key ≠ nameKey current ∧ key = entityKey current.scope next) ∨ names.get key = none := by
  unfold rekeyName at h
  split at h
  · cases h
    exact .inr hkey
  next hne =>
    split at h
    · cases h
    · cases h
      by_cases heq : key = entityKey current.scope next
      · exact .inl ⟨fun hown => hne (hown.symm.trans heq), heq⟩
      · rw [get_insert_ne _ _ heq, get_remove, hkey, ite_self]
        exact .inr rfl

lemma revised_fields (current : EntityMetadata) (newState : Entity) (now : Nanos) :
    (revised current newState now).id = newState.id ∧
      (revised current newState now).entityType = newState.entityType ∧
      (revised current newState now).canonicalName = newState.canonicalName ∧
      (revised current newState now).mergedInto = newState.mergedInto ∧
      (revised current newState now).updatedAt = now := by
  unfold revised
  simp only
  split
  · exact ⟨rfl, rfl, rfl, rfl, rfl⟩
  · exact ⟨rfl, rfl, rfl, rfl, rfl⟩

lemma update_ok {newState : Entity} (h : t.update types newState now = .ok t') :
    ∃ current names, t.entities.get newState.id = some current ∧
      t.rekeyName current (revised current newState now) = .ok names ∧
      t' = t.moved current (revised current newState now) names := by
  unfold update at h
  split at h
  · cases h
  next current hcur =>
    obtain ⟨_, _, h⟩ := bind_ok h
    obtain ⟨names, hnames, h⟩ := bind_ok h
    cases h
    exact ⟨current, names, hcur, hnames, rfl⟩

lemma update_frame {newState : Entity} (h : t.update types newState w.stamp = .ok t')
    (hkeyed : t.Keyed) (hcur : t.entities.get newState.id = some current)
    (htype : newState.entityType = current.entityType)
    (hmrg : newState.mergedInto = current.mergedInto) (htouched : newState.id ∈ w.touched t)
    (hnamed : w.named = some (newState.id, newState.canonicalName))
    (htk : ∀ key, key ≠ nameKey current → key = entityKey current.scope newState →
      w.nameTaken t scope = some key) : Frame t t' scope w := by
  obtain ⟨current', names, hcur', hrekey, rfl⟩ := update_ok h
  cases hcur.symm.trans hcur'
  have hid := hkeyed _ _ hcur
  have hreindexed := EntityPhase.reindexed_of_named hnamed
  obtain ⟨hnextId, hnextType, hnextName, hnextMrg, hnextStamp⟩ :=
    revised_fields current newState w.stamp
  generalize revised current newState w.stamp = next at *
  have hstep : RowStep t w newState.id current (nextRow current next) := by
    refine ⟨.inr ⟨htouched, hnextStamp⟩, .inr ?_, .inl (hnextMrg.trans hmrg),
      ⟨rfl, hnextType.trans htype, hnextId.trans hid.symm⟩, fun _ _ => .inl hreindexed⟩
    rw [← hnextName] at hnamed
    exact hnamed
  refine ⟨rows_of_insert hcur (congrArg (t.entities.insert · _) hnextId) hstep, ?_, ?_,
    hkeyed.insert (nextRow current next) rfl⟩
  · intro key hkey
    rcases rekeyName_none hrekey hkey with ⟨hne, heq⟩ | hnone
    · refine .inl (htk key hne (heq.trans ?_))
      unfold entityKey
      rw [hnextType, hnextName]
    · exact .inr hnone
  · intro id row _ _ hspared key hent hkey
    have hne : key.entity ≠ next.id := by
      rintro heq
      exact hspared (by rw [← hent, heq, hnextId]; exact hreindexed)
    refine (get_indexTrigrams_ne hne).trans ?_
    exact get_removeTrigrams_of_none hkey

lemma tombstone_frame {b : EntityTombstoneBody} (h : t.tombstone b.id b.stamp = .ok t')
    (hkeyed : t.Keyed) : Frame t t' scope (.tombstone b) := by
  obtain ⟨current, hcur, rfl⟩ := tombstone_ok h
  have hid := hkeyed _ _ hcur
  refine ⟨rows_of_insert hcur (congrArg (t.entities.insert · _) hid) ?_, ?_, ?_,
    hkeyed.insert { current with tombstoned := true, updatedAt := b.stamp, aliases := [] } rfl⟩
  · exact ⟨.inr ⟨mem_singleton_self _, rfl⟩, .inl rfl, .inl rfl, ⟨rfl, rfl, rfl⟩,
      fun _ _ => .inr ⟨rfl, rfl⟩⟩
  · intro key hkey
    refine .inr ?_
    change (t.byCanonicalName.remove (nameKey current)).get key = none
    rw [get_remove, hkey, ite_self]
  · intro id row _ _ _ key _ hkey
    dsimp only [buried]
    exact get_removeTrigrams_of_none hkey
end

section
namespace Graph

lemma entities_rerouteRelations (g : Graph) (scope : RowScope) (merged survivor : EntityId)
    (now : Nanos) : (g.rerouteRelations scope merged survivor now).1.entities = g.entities := by
  refine List.foldlRecOn (motive := fun (acc : Graph × List RelationReroute) =>
    acc.1.entities = g.entities) _ _ rfl ?_
  intro acc hacc e _
  exact hacc

lemma entities_reverseRelationReroutes (g : Graph) (records : List RelationReroute)
    (now : Nanos) : (g.reverseRelationReroutes records now).entities = g.entities := by
  refine List.foldlRecOn (motive := fun (acc : Graph) => acc.entities = g.entities) _ _ rfl ?_
  intro acc hacc r _
  split
  · exact hacc
  · exact hacc

variable [TextFolding] in
lemma entities_merged (g : Graph) (mint : MergeId) (survivor merged : EntityId)
    (s m : EntityMetadata) (confidence : UInt32) (reason : String) (actor : MergeActor)
    (grace : Nat) (now : Nanos) :
    (g.merged mint survivor merged s m confidence reason actor grace now).entities =
      g.entities.merge survivor merged s m (newAliases s (m.canonicalName :: m.aliases))
        (newTrigrams s m) now := by
  unfold Graph.merged
  simp only [entities_rerouteRelations]

variable [TextFolding] in
lemma entities_unmerged (g : Graph) (survivor merged : EntityId) (s m : EntityMetadata)
    (key : MergeLogKey) (audit : MergeRecord) (actor : MergeActor) (now : Nanos) :
    (g.unmerged survivor merged s m key audit actor now).entities =
      g.entities.unmerge survivor merged s m audit now := by
  unfold Graph.unmerged
  simp only [entities_reverseRelationReroutes]

end Graph

open Graph
variable {merged survivor : EntityId} {actor : MergeActor}

lemma mergeable_ok {s : EntityMetadata} (h : mergeable survivor merged s m = .ok ()) :
    s.tombstoned = false ∧ m.tombstoned = false ∧ s.mergedInto = none ∧ m.mergedInto = none := by
  unfold mergeable at h
  split at h
  · cases h
  next hs =>
    split at h
    · cases h
    next hm =>
      split at h
      · cases h
      · cases h
      next hsInto hmInto =>
        exact ⟨Bool.eq_false_iff.mpr hs, Bool.eq_false_iff.mpr hm, hsInto, hmInto⟩

variable [TextFolding]

lemma Graph.mergeEntity_ok {confidence : UInt32} {reason : String} {grace : Nat}
    (h : g.mergeEntity mint survivor merged confidence reason actor grace now = .ok g') :
    ∃ s m, survivor ≠ merged ∧
      g.entities.entities.get survivor = some s ∧ g.entities.entities.get merged = some m ∧
      mergeable survivor merged s m = .ok () ∧
      g' = g.merged mint survivor merged s m confidence reason actor grace now := by
  unfold mergeEntity at h
  split at h
  · cases h
  next hne =>
    split at h
    · cases h
    · split at h
      · cases h
      · cases h
      next s m hs hm =>
        obtain ⟨_, hmergeable, h⟩ := bind_ok h
        cases h
        exact ⟨s, m, hne, hs, hm, hmergeable, rfl⟩

lemma merge_frame {b : EntityMergeBody}
    (h : g.mergeEntity mint b.target b.source b.confidence b.reason b.actor b.graceSeconds b.stamp =
      .ok g') (hkeyed : g.entities.Keyed) : Frame g.entities g'.entities scope (.merge b) := by
  obtain ⟨s, m, hne, hs, hm, hmergeable, rfl⟩ := mergeEntity_ok h
  obtain ⟨hsTomb, hmTomb, hsInto, hmInto⟩ := mergeable_ok hmergeable
  have hsId := hkeyed _ _ hs
  have hmId := hkeyed _ _ hm
  rw [entities_merged]
  generalize newAliases s (m.canonicalName :: m.aliases) = aliasesAdded
  generalize newTrigrams s m = trigramsAdded
  refine ⟨?_, ?_, ?_, ?_⟩
  · intro id row hrow
    change ∃ row', ((g.entities.entities.insert s.id _).insert m.id _).get id = some row' ∧ _
    by_cases hidm : id = b.source
    · subst hidm
      cases hm.symm.trans hrow
      refine ⟨mergedRow s m b.stamp, by rw [← hmId, get_insert_self], ?_⟩
      exact ⟨.inr ⟨mem_cons_self, rfl⟩, .inl rfl, .inr (.inl ⟨rfl, hmInto⟩), ⟨rfl, rfl, rfl⟩,
        fun htomb => absurd (hmTomb.symm.trans htomb) Bool.false_ne_true⟩
    · rw [get_insert_ne _ _ (by rwa [hmId])]
      by_cases hids : id = b.target
      · subst hids
        cases hs.symm.trans hrow
        refine ⟨survivorRow s m aliasesAdded b.stamp, by rw [← hsId, get_insert_self], ?_⟩
        exact ⟨.inr ⟨mem_cons_of_mem _ mem_cons_self, rfl⟩, .inl rfl, .inl rfl,
          ⟨rfl, rfl, rfl⟩,
          fun htomb => absurd (hsTomb.symm.trans htomb) Bool.false_ne_true⟩
      · exact ⟨row, by rw [get_insert_ne _ _ (by rwa [hsId]), hrow], .refl _ _ id row⟩
  · intro key hkey
    refine .inr ?_
    change (g.entities.byCanonicalName.remove (nameKey m)).get key = none
    rw [get_remove, hkey, ite_self]
  · intro id row hrow htomb _ key hent hkey
    have hsurv : key.entity ≠ b.target := by
      rintro heq
      rw [← hent, heq] at hrow
      cases hs.symm.trans hrow
      exact absurd (hsTomb.symm.trans htomb) Bool.false_ne_true
    refine (get_indexTrigrams_ne hsurv).trans ?_
    exact get_removeTrigrams_of_none hkey
  · have hinner : Keyed
        { g.entities with
          entities := g.entities.entities.insert s.id (survivorRow s m aliasesAdded b.stamp) } :=
      hkeyed.insert (survivorRow s m aliasesAdded b.stamp) rfl
    exact hinner.insert (mergedRow s m b.stamp) rfl

lemma Graph.unmergeEntity_ok (h : g.unmergeEntity merged actor now = .ok g') :
    ∃ m survivor s key audit, g.entities.entities.get merged = some m ∧
      m.mergedInto = some survivor ∧ g.entities.entities.get survivor = some s ∧
      g.findActiveAudit merged = some (key, audit) ∧ ¬audit.gracePeriodUntil < now ∧
      g' = g.unmerged survivor merged s m key audit actor now := by
  unfold unmergeEntity at h
  split at h
  · cases h
  next m hm =>
    split at h
    · cases h
    next survivor hinto =>
      split at h
      · cases h
      next s hs =>
        split at h
        · cases h
        next key audit haudit =>
          split at h
          · cases h
          next hgrace =>
            cases h
            exact ⟨m, survivor, s, key, audit, hm, hinto, hs, haudit, hgrace, rfl⟩

lemma unmerge_frame {b : EntityUnmergeBody}
    (h : g.unmergeEntity b.merged b.actor b.stamp = .ok g') (hkeyed : g.entities.Keyed) :
    Frame g.entities g'.entities scope (.unmerge b) := by
  obtain ⟨m, survivor, s, key, audit, hm, hinto, hs, _, _, rfl⟩ := unmergeEntity_ok h
  have hsId := hkeyed _ _ hs
  have hmId := hkeyed _ _ hm
  rw [entities_unmerged]
  refine ⟨?_, ?_, ?_, ?_⟩
  · intro id row hrow
    change ∃ row', ((g.entities.entities.insert s.id _).insert m.id _).get id = some row' ∧ _
    by_cases hidm : id = b.merged
    · subst hidm
      cases hm.symm.trans hrow
      refine ⟨_, by rw [← hmId, get_insert_self], ?_⟩
      exact ⟨.inr ⟨mem_cons_self, rfl⟩, .inl rfl, .inr (.inr ⟨rfl, rfl⟩), ⟨rfl, rfl, rfl⟩,
        fun _ _ => .inl rfl⟩
    · rw [get_insert_ne _ _ (by rwa [hmId])]
      by_cases hids : id = survivor
      · subst hids
        cases hs.symm.trans hrow
        refine ⟨_, by rw [← hsId, get_insert_self], ?_⟩
        have htouched : id ∈ (EntityPhase.unmerge b).touched g.entities := by
          refine mem_cons_of_mem _ ?_
          rw [hm]
          exact Option.mem_toList.mpr hinto
        refine ⟨.inr ⟨htouched, rfl⟩, .inl rfl, .inl rfl, ⟨rfl, rfl, rfl⟩, ?_⟩
        intro htomb hals
        refine .inr ⟨htomb, ?_⟩
        simp only [hals, filter_nil]
      · exact ⟨row, by rw [get_insert_ne _ _ (by rwa [hsId]), hrow], .refl _ _ id row⟩
  · intro key hkey
    by_cases heq : key = nameKey m
    · exact .inl ((congrArg (Option.map nameKey) hm).trans (congrArg some heq.symm))
    · exact .inr ((get_insert_ne _ _ heq).trans hkey)
  · intro id row _ _ hspared key hent hkey
    have hne : key.entity ≠ b.merged := fun heq => hspared (congrArg some (heq.symm.trans hent))
    dsimp only [unmerge]
    rw [get_indexTrigrams_ne hne]
    exact get_removeTrigrams_of_none hkey
  · intro id row hrow
    change ((g.entities.entities.insert s.id _).insert m.id _).get id = some row at hrow
    rw [get_insert] at hrow
    split at hrow
    next heq => exact Option.some.inj hrow ▸ heq.symm
    · rw [get_insert] at hrow
      split at hrow
      next heq => exact Option.some.inj hrow ▸ heq.symm
      · exact hkeyed id row hrow
end

def EntityPhase.Fresh : EntityPhase → Prop
  | upsert p => t.entities.get p.id = none
  | _ => True

instance EntityPhase.Fresh.decidable (t : Entities) (w : EntityPhase) : Decidable (w.Fresh t) := by
  cases w <;> unfold EntityPhase.Fresh <;> infer_instance

namespace Graph

lemma entityScopeGuard_ok (h : g.entityScopeGuard scope id = .ok m) :
    g.entities.entities.get id = some m ∧ m.scope = scope := by
  unfold entityScopeGuard at h
  split at h
  next row hrow =>
    split at h
    next hsc =>
      cases h
      exact ⟨hrow, hsc⟩
    · cases h
  · cases h

variable [TextFolding]

lemma renameEntity_ok {newName : String} (h : g.renameEntity id newName now = .ok g') :
    ∃ current t', g.entities.entities.get id = some current ∧
      g.entities.update g.catalog.entityTypes { current.toEntity with canonicalName := newName }
        now = .ok t' ∧ g' = { g with entities := t' } := by
  obtain ⟨t', hrename, h⟩ := bind_ok h
  cases h
  unfold rename at hrename
  split at hrename
  · cases hrename
  next current hcur => exact ⟨current, t', hcur, hrename, rfl⟩

lemma applyEntity_frame (h : g.applyEntity scope mint w = .ok g') (hkeyed : g.entities.Keyed)
    (hnew : w.Fresh g.entities) : Frame g.entities g'.entities scope w := by
  cases w with
  | upsert p =>
    obtain ⟨t', hput, h⟩ := bind_ok (mapError_ok h)
    cases h
    exact put_frame hput hkeyed hnew
  | update b =>
    obtain ⟨current, hguard, h⟩ := bind_ok h
    obtain ⟨t', hupd, h⟩ := bind_ok (mapError_ok h)
    cases h
    have hcur := (entityScopeGuard_ok hguard).1
    have hid : (b.newState current.toEntity).id = b.id := hkeyed _ _ hcur
    exact update_frame hupd hkeyed (hid ▸ hcur) rfl rfl (mem_singleton.mpr hid)
      (congrArg (fun id => some (id, _)) hid.symm) fun _ => EntityPhase.nameTaken_renamed hcur
  | rename b =>
    obtain ⟨_, _, h⟩ := bind_ok h
    obtain ⟨current, t', hcur, hupd, rfl⟩ := renameEntity_ok (mapError_ok h)
    have hid : current.id = b.id := hkeyed _ _ hcur
    exact update_frame hupd hkeyed (hid ▸ hcur) rfl rfl (mem_singleton.mpr hid)
      (congrArg (fun id => some (id, _)) hid.symm) fun _ => EntityPhase.nameTaken_renamed hcur
  | tombstone b =>
    obtain ⟨_, _, h⟩ := bind_ok h
    obtain ⟨t', htombstone, h⟩ := bind_ok (mapError_ok h)
    cases h
    exact tombstone_frame htombstone hkeyed
  | merge b =>
    obtain ⟨_, _, h⟩ := bind_ok h
    obtain ⟨_, _, h⟩ := bind_ok h
    exact merge_frame (mapError_ok h) hkeyed
  | unmerge b =>
    obtain ⟨_, _, h⟩ := bind_ok h
    exact unmerge_frame (mapError_ok h) hkeyed

def directory : Graph :=
  let person : Schema.EntityTypeDefinition :=
    { id := 1, namespaceId := 0, name := "Person", schemaBlob := [], createdAt := 0 }
  Graph.empty { Schema.Catalog.empty with entityTypes := ⟨Table.empty.insert 1 person, .empty⟩ }

end Graph
end BrainDb
