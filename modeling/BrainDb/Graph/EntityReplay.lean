import BrainDb.Base.Run
import BrainDb.Graph.EntityFrame

namespace BrainDb
open List Table ExceptLemmas Entities
open Entities (nameKey entityKey Keyed)
variable {t t' : Entities} {scope : RowScope} {r : EntityPayload} {g : Graph} {w : EntityPhase}
  {id : EntityId} {now : Nanos}

section
variable [TextFolding]

structure Buried (t : Entities) (row : EntityMetadata) : Prop where
  tombstoned : row.tombstoned = true
  aliases : row.aliases = []
  name : t.byCanonicalName.get (nameKey row) = none
  trigrams : ∀ tg ∈ trigramsOfComponents row.canonicalName [],
    t.trigrams.get ⟨row.scope, row.entityType, tg, row.id⟩ = none

def Settled (t : Entities) : EntityPayload → Prop
  | .create row => ∃ current, t.entities.get row.id = some current
  | .update b => ∃ current, t.entities.get b.id = some current ∧ b.stamp ≤ current.updatedAt
  | .rename b => ∃ current, t.entities.get b.id = some current ∧
    current.canonicalName = b.newCanonicalName
  | .tombstone b => ∃ current, t.entities.get b.id = some current ∧ Buried t current
  | .merge b => ∃ current, t.entities.get b.source = some current ∧
    current.mergedInto = some b.target
  | .unmerge b => ∃ current, t.entities.get b.merged = some current ∧ current.mergedInto = none

def EntityPhase.Respects (t : Entities) (scope : RowScope) (w : EntityPhase) :
    EntityPayload → Prop
  | .create _ => True
  | .update b => b.id ∈ w.touched t → b.stamp ≤ w.stamp
  | .rename b => ∀ e ∈ w.named, e.1 = b.id → e.2 = b.newCanonicalName
  | .tombstone b => w.reindexed ≠ some b.id ∧
    ∀ row ∈ t.entities.get b.id, w.nameTaken t scope ≠ some (nameKey row)
  | .merge b => w.restored ≠ some b.source
  | .unmerge b => w.mergedAway ≠ some b.merged

instance EntityPhase.Respects.decidable (t : Entities) (scope : RowScope)
    (w : EntityPhase) (r : EntityPayload) :
    Decidable (w.Respects t scope r) := by
  cases r <;> unfold EntityPhase.Respects <;> infer_instance

lemma Buried.step {row row' : EntityMetadata} (h : Buried t row) (hframe : Frame t t' scope w)
    (hids : t.Keyed) (hrow : t.entities.get id = some row) (hstep : RowStep t w id row row')
    (hspared : w.reindexed ≠ some id) (hname : w.nameTaken t scope ≠ some (nameKey row)) :
    Buried t' row' := by
  have hcanonical : row'.canonicalName = row.canonicalName := by
    rcases hstep.named with heq | hnamed
    · exact heq
    · exact absurd (EntityPhase.reindexed_of_named hnamed) hspared
  obtain ⟨hsc, htype, hid⟩ := hstep.place
  obtain ⟨htomb, hals⟩ := (hstep.buried h.tombstoned h.aliases).resolve_left hspared
  refine ⟨htomb, hals, ?_, ?_⟩
  · have hkey : nameKey row' = nameKey row := by
      unfold nameKey entityKey
      rw [hsc, htype, hcanonical]
    rw [hkey]
    exact (hframe.name _ h.name).resolve_left hname
  · intro tg htg
    rw [hcanonical] at htg
    rw [hsc, htype, hid]
    exact hframe.trigram id row hrow h.tombstoned hspared _ (hids id row hrow) (h.trigrams tg htg)

lemma Settled.step (h : Settled t r) (hframe : Frame t t' scope w) (hids : t.Keyed)
    (hrespects : w.Respects t scope r) : Settled t' r := by
  cases r with
  | create row =>
    obtain ⟨current, hcur⟩ := h
    obtain ⟨next, hnext, _⟩ := hframe.row _ _ hcur
    exact ⟨next, hnext⟩
  | update b =>
    obtain ⟨current, hcur, hts⟩ := h
    obtain ⟨next, hnext, hstep⟩ := hframe.row _ _ hcur
    refine ⟨next, hnext, ?_⟩
    rcases hstep.stamped with rfl | ⟨htouched, heq⟩
    · exact hts
    · rw [heq]
      exact hrespects htouched
  | rename b =>
    obtain ⟨current, hcur, hname⟩ := h
    obtain ⟨next, hnext, hstep⟩ := hframe.row _ _ hcur
    refine ⟨next, hnext, ?_⟩
    rcases hstep.named with heq | hnamed
    · exact heq.trans hname
    · exact hrespects _ hnamed rfl
  | tombstone b =>
    obtain ⟨current, hcur, hburied⟩ := h
    obtain ⟨next, hnext, hstep⟩ := hframe.row _ _ hcur
    exact ⟨next, hnext, hburied.step hframe hids hcur hstep hrespects.1 (hrespects.2 current hcur)⟩
  | merge b =>
    obtain ⟨current, hcur, hinto⟩ := h
    obtain ⟨next, hnext, hstep⟩ := hframe.row _ _ hcur
    refine ⟨next, hnext, ?_⟩
    rcases hstep.pointed with heq | ⟨_, hnone⟩ | ⟨hrestored, _⟩
    · exact heq.trans hinto
    · rw [hnone] at hinto
      cases hinto
    · exact absurd hrestored hrespects
  | unmerge b =>
    obtain ⟨current, hcur, hinto⟩ := h
    obtain ⟨next, hnext, hstep⟩ := hframe.row _ _ hcur
    refine ⟨next, hnext, ?_⟩
    rcases hstep.pointed with heq | ⟨hmrgAway, _⟩ | ⟨_, hnone⟩
    · exact heq.trans hinto
    · exact absurd hmrgAway hrespects
    · exact hnone
end

section
variable [TextFolding]

lemma update_row {types : Schema.EntityTypes} {newState : Entity}
    (h : t.update types newState now = .ok t') :
    ∃ row, t'.entities.get newState.id = some row ∧ row.updatedAt = now ∧
      row.canonicalName = newState.canonicalName := by
  obtain ⟨current, names, _, _, rfl⟩ := update_ok h
  obtain ⟨hid, _, hname, _, hts⟩ := revised_fields current newState now
  generalize revised current newState now = next at *
  refine ⟨nextRow current next, ?_, hts, hname⟩
  change (t.entities.insert _ _).get newState.id = _
  rw [hid, get_insert_self]

lemma subset_trigramsOfComponents {name : String} {aliases : List String} {tg : Trigram}
    (h : tg ∈ trigramsOfComponents name []) : tg ∈ trigramsOfComponents name aliases := by
  unfold trigramsOfComponents at h ⊢
  exact mem_append_left _ (by simpa using h)

lemma buried_row (current : EntityMetadata) (now : Nanos) : Buried (t.buried current now)
      { current with tombstoned := true, updatedAt := now, aliases := [] } := by
  refine ⟨rfl, rfl, ?_, ?_⟩
  · exact get_remove_self _ _
  · intro tg htg
    dsimp only [buried]
    exact get_removeTrigrams_mem (subset_trigramsOfComponents htg)

lemma Graph.applyEntity_settles {g' : Graph} {mint : MergeId}
    (h : g.applyEntity scope mint w = .ok g') (hids : g.entities.Keyed) :
    Settled g'.entities (w.walPayload scope) := by
  cases w with
  | upsert p =>
    obtain ⟨t', hput, h⟩ := bind_ok (mapError_ok h)
    cases h
    obtain ⟨_, _, hput⟩ := bind_ok hput
    split at hput
    · cases hput
    · cases hput
      exact ⟨_, get_insert_self _ _ _⟩
  | update b =>
    obtain ⟨current, hguard, h⟩ := bind_ok h
    obtain ⟨t', hupd, h⟩ := bind_ok (mapError_ok h)
    cases h
    obtain ⟨hcur, _⟩ := entityScopeGuard_ok hguard
    have hid : (b.newState current.toEntity).id = b.id := hids _ _ hcur
    obtain ⟨row, hrow, hts, _⟩ := update_row hupd
    exact ⟨row, hid ▸ hrow, le_of_eq hts.symm⟩
  | rename b =>
    obtain ⟨_, _, h⟩ := bind_ok h
    obtain ⟨current, t', hcur, hupd, rfl⟩ := renameEntity_ok (mapError_ok h)
    have hid : current.id = b.id := hids _ _ hcur
    obtain ⟨row, hrow, _, hname⟩ := update_row hupd
    exact ⟨row, hid ▸ hrow, hname⟩
  | tombstone b =>
    obtain ⟨_, _, h⟩ := bind_ok h
    obtain ⟨t', htombstone, h⟩ := bind_ok (mapError_ok h)
    cases h
    obtain ⟨current, hcur, rfl⟩ := tombstone_ok htombstone
    refine ⟨_, ?_, buried_row current b.stamp⟩
    rw [← hids _ _ hcur]
    exact get_insert_self _ _ _
  | merge b =>
    obtain ⟨_, _, h⟩ := bind_ok h
    obtain ⟨_, _, h⟩ := bind_ok h
    obtain ⟨s, m, _, hs, hm, _, rfl⟩ := mergeEntity_ok (mapError_ok h)
    refine ⟨mergedRow s m b.stamp, ?_, congrArg some (hids _ _ hs)⟩
    rw [← hids _ _ hm]
    exact get_insert_self _ _ _
  | unmerge b =>
    obtain ⟨_, _, h⟩ := bind_ok h
    obtain ⟨m, survivor, s, key, audit, hm, _, _, _, _, rfl⟩ := unmergeEntity_ok (mapError_ok h)
    refine ⟨{ m with mergedInto := none, merged := false, updatedAt := b.stamp }, ?_, rfl⟩
    rw [← hids _ _ hm]
    exact get_insert_self _ _ _
end

def EntityMetadata.undated (m : EntityMetadata) : EntityMetadata := { m with updatedAt := 0 }

def Graph.undated (g : Graph) : Graph :=
  { g with entities := { g.entities with
      entities := g.entities.entities.mapValues EntityMetadata.undated } }

def EntityPayload.Before (r r' : EntityPayload) : Prop :=
  ∀ b b', r = .tombstone b → r' = .update b' → b.id ≠ b'.id

section
variable [TextFolding] {current : EntityMetadata}

lemma Entities.buried_of_buried (h : Buried t current) (now : Nanos) : t.buried current now =
      { t with entities := t.entities.insert current.id { current with updatedAt := now } } := by
  have hrow : { current with tombstoned := true, updatedAt := now, aliases := [] } =
      { current with updatedAt := now } := by
    rw [← h.tombstoned, ← h.aliases]
  unfold buried
  rw [hrow, remove_of_get_none h.name, h.aliases, removeTrigrams_of_absent h.trigrams]
  rfl

lemma Settled.redated (hcur : t.entities.get id = some current)
    (hupd : ∀ b, r = .update b → id ≠ b.id) (h : Settled t r) :
    Settled { t with entities := t.entities.insert id { current with updatedAt := now } } r := by
  have hget : ∀ i row, t.entities.get i = some row → ∃ row',
      (t.entities.insert id { current with updatedAt := now }).get i = some row' ∧
        (row' = row ∨ row' = { row with updatedAt := now }) ∧ (id ≠ i → row' = row) := by
    intro i row hrow
    by_cases hi : i = id
    · subst hi
      cases hcur.symm.trans hrow
      exact ⟨_, get_insert_self _ _ _, .inr rfl, fun hne => absurd rfl hne⟩
    · exact ⟨row, by rw [get_insert_ne _ _ hi, hrow], .inl rfl, fun _ => rfl⟩
  cases r with
  | create row =>
    obtain ⟨c, hc⟩ := h
    obtain ⟨c', hc', _⟩ := hget _ _ hc
    exact ⟨c', hc'⟩
  | update b =>
    obtain ⟨c, hc, hts⟩ := h
    obtain ⟨c', hc', _, hsame⟩ := hget _ _ hc
    rw [hsame (hupd b rfl)] at hc'
    exact ⟨c, hc', hts⟩
  | tombstone b =>
    obtain ⟨c, hc, hburied⟩ := h
    obtain ⟨c', hc', hrow, _⟩ := hget _ _ hc
    refine ⟨c', hc', ?_⟩
    rcases hrow with rfl | rfl
    · exact ⟨hburied.tombstoned, hburied.aliases, hburied.name, hburied.trigrams⟩
    · exact ⟨hburied.tombstoned, hburied.aliases, hburied.name, hburied.trigrams⟩
  | _ =>
    obtain ⟨c, hc, hfield⟩ := h
    obtain ⟨c', hc', hrow, _⟩ := hget _ _ hc
    refine ⟨c', hc', ?_⟩
    rcases hrow with rfl | rfl
    · exact hfield
    · exact hfield

namespace Graph

lemma tombstoneEntity_of_buried {b : EntityTombstoneBody} (hids : g.entities.Keyed)
    (hcur : g.entities.entities.get b.id = some current) (hburied : Buried g.entities current) :
    g.tombstoneEntity b.id b.stamp = .ok { g with entities := { g.entities with
      entities := g.entities.entities.insert b.id { current with updatedAt := b.stamp } } } := by
  have htombstone : g.entities.tombstone b.id b.stamp = .ok (g.entities.buried current b.stamp) := by
    unfold tombstone
    rw [hcur]
  unfold tombstoneEntity
  rw [htombstone, buried_of_buried hburied, hids _ _ hcur]
  rfl

omit [TextFolding] in
lemma undated_redated (hcur : g.entities.entities.get id = some current) :
    undated { g with entities := { g.entities with
      entities := g.entities.entities.insert id { current with updatedAt := now } } } =
      g.undated := by
  have hrows : (g.entities.entities.insert id { current with updatedAt := now }).mapValues
      EntityMetadata.undated = g.entities.entities.mapValues EntityMetadata.undated := by
    rw [mapValues_insert]
    refine insert_of_get ?_
    rw [get_mapValues, hcur]
    rfl
  unfold undated
  simp only [hrows]

lemma replayEntity_settled (mint : MergeId) (hids : g.entities.Keyed) (h : Settled g.entities r) :
    ∃ g', g.replayEntity mint r = .ok g' ∧ g'.undated = g.undated ∧ g'.entities.Keyed ∧
      ∀ r', r.Before r' → Settled g.entities r' → Settled g'.entities r' := by
  cases r with
  | create row =>
    obtain ⟨current, hcur⟩ := h
    refine ⟨g, ?_, rfl, hids, fun _ _ h => h⟩
    simp only [replayEntity, replayEntityCreate, hcur]
  | update b =>
    obtain ⟨current, hcur, hts⟩ := h
    refine ⟨g, ?_, rfl, hids, fun _ _ h => h⟩
    simp only [replayEntity, replayEntityUpdate, hcur, if_neg (not_lt.mpr hts)]
  | rename b =>
    obtain ⟨current, hcur, hname⟩ := h
    refine ⟨g, ?_, rfl, hids, fun _ _ h => h⟩
    simp only [replayEntity, replayEntityRename, hcur, if_neg (not_not.mpr hname)]
  | tombstone b =>
    obtain ⟨current, hcur, hburied⟩ := h
    have heq := tombstoneEntity_of_buried hids hcur hburied
    refine ⟨_, congrArg (Except.mapError _) heq, undated_redated hcur, ?_, ?_⟩
    · exact hids.insert { current with updatedAt := b.stamp } (by rw [← hids _ _ hcur])
    · intro r' hbef hstl
      exact hstl.redated hcur fun b' hr' => hbef b b' rfl hr'
  | merge b =>
    obtain ⟨current, hcur, hinto⟩ := h
    refine ⟨g, ?_, rfl, hids, fun _ _ h => h⟩
    have hcond : (g.entities.entities.get b.source).bind (·.mergedInto) = some b.target := by
      rw [hcur]
      exact hinto
    simp only [replayEntity, replayEntityMerge, if_pos hcond]
  | unmerge b =>
    obtain ⟨current, hcur, hinto⟩ := h
    refine ⟨g, ?_, rfl, hids, fun _ _ h => h⟩
    have hcond : (g.entities.entities.get b.merged).bind (·.mergedInto) = none := by
      rw [hcur]
      exact hinto
    simp only [replayEntity, replayEntityUnmerge, hcond, Option.isSome_none, Bool.false_eq_true,
      if_false]

end Graph
end

structure EntityWrite where
  scope : RowScope
  mint : MergeId
  phase : EntityPhase

def EntityWrite.record (w : EntityWrite) : EntityPayload := w.phase.walPayload w.scope

section
variable [TextFolding]

namespace Graph

def applyEntities (g : Graph) (ws : List EntityWrite) : Except EntityApplyError Graph :=
  ws.foldlM (fun g w => g.applyEntity w.scope w.mint w.phase) g

def replayEntities (g : Graph) (records : List (EntityPayload × MergeId)) :
    Except EntitySinkError Graph :=
  records.foldlM (fun g r => g.replayEntity r.2 r.1) g

def RespectfulRun : Graph → List EntityPayload → List EntityWrite → Prop
  | _, _, [] => True
  | g, log, w :: ws => (w.phase.Fresh g.entities ∧
      ∀ r ∈ log, w.phase.Respects g.entities w.scope r) ∧
    ∀ g', g.applyEntity w.scope w.mint w.phase = .ok g' → RespectfulRun g' (log ++ [w.record]) ws

instance RespectfulRun.decidable : ∀ (g : Graph) (log : List EntityPayload) (ws : List EntityWrite),
      Decidable (g.RespectfulRun log ws)
  | _, _, [] => isTrue trivial
  | g, log, w :: ws =>
    match h : g.applyEntity w.scope w.mint w.phase with
    | .error _ => decidable_of_iff (w.phase.Fresh g.entities ∧
        ∀ r ∈ log, w.phase.Respects g.entities w.scope r)
        ⟨fun hw => ⟨hw, fun _ hok => nomatch h.symm.trans hok⟩, fun hrun => hrun.1⟩
    | .ok g₁ =>
      have : Decidable (g₁.RespectfulRun (log ++ [w.record]) ws) :=
        RespectfulRun.decidable g₁ (log ++ [w.record]) ws
      decidable_of_iff ((w.phase.Fresh g.entities ∧
        ∀ r ∈ log, w.phase.Respects g.entities w.scope r) ∧ g₁.RespectfulRun (log ++ [w.record]) ws)
        ⟨fun hw => ⟨hw.1, fun _ hok => Except.ok.inj (h.symm.trans hok) ▸ hw.2⟩,
          fun hrun => ⟨hrun.1, hrun.2 g₁ h⟩⟩

lemma RespectfulRun.settled {ws : List EntityWrite} {log : List EntityPayload} {g' : Graph}
    (hrun : g.RespectfulRun log ws) (hlive : g.applyEntities ws = .ok g')
    (hids : g.entities.Keyed) (hstl : ∀ r ∈ log, Settled g.entities r)
    (hbef : log.Pairwise EntityPayload.Before) :
    g'.entities.Keyed ∧ (∀ r ∈ log ++ ws.map EntityWrite.record, Settled g'.entities r) ∧
      (log ++ ws.map EntityWrite.record).Pairwise EntityPayload.Before := by
  induction ws generalizing log g with
  | nil =>
    cases hlive
    rw [map_nil, append_nil]
    exact ⟨hids, hstl, hbef⟩
  | cons w ws ih =>
    obtain ⟨g₁, happ, hlive⟩ := bind_ok hlive
    obtain ⟨⟨hfresh, hrespects⟩, hrest⟩ := hrun
    have hframe := applyEntity_frame happ hids hfresh
    have hstl₁ : ∀ r ∈ log ++ [w.record], Settled g₁.entities r := by
      intro r hr
      rcases mem_append.mp hr with hold | hnew
      · exact (hstl r hold).step hframe hids (hrespects r hold)
      · rw [mem_singleton.mp hnew]
        exact applyEntity_settles happ hids
    have hbef₁ : (log ++ [w.record]).Pairwise EntityPayload.Before := by
      refine pairwise_append.mpr ⟨hbef, pairwise_singleton _ _, ?_⟩
      rintro r hr r' hr' b b' rfl hupd heq
      rw [mem_singleton.mp hr'] at hupd
      have hreindexed : w.phase.reindexed = some b'.id := by
        unfold EntityWrite.record at hupd
        cases hw : w.phase with
        | update u =>
          rw [hw] at hupd
          cases hupd
          rfl
        | _ =>
          rw [hw] at hupd
          cases hupd
      exact (hrespects _ hr).1 (heq ▸ hreindexed)
    have hlast := ih (hrest g₁ happ) hlive hframe.keyed hstl₁ hbef₁
    rwa [append_assoc, singleton_append, ← map_cons] at hlast

/-- Replaying a respectful run onto the tables it left changes nothing but times of last update. -/
theorem replayed_entities_unchanged {start g : Graph} {ws : List EntityWrite}
    (hbeg : start.entities.Keyed) (hlive : start.applyEntities ws = .ok g)
    (hrun : start.RespectfulRun [] ws) (records : List (EntityPayload × MergeId))
    (hrecs : records.map Prod.fst = ws.map EntityWrite.record) :
    ∃ g', g.replayEntities records = .ok g' ∧ g'.undated = g.undated := by
  obtain ⟨hids, hstl, hbef⟩ := hrun.settled hlive hbeg (by simp) List.Pairwise.nil
  rw [nil_append, ← hrecs] at hstl hbef
  have hpairs : records.Pairwise fun r r' => r.1.Before r'.1 := pairwise_map.mp hbef
  refine Run.foldlM_settled undated (fun g r => g.entities.Keyed ∧ Settled g.entities r.1) _ ?_
    hpairs ?_
  · rintro s r ⟨hids, hr⟩
    obtain ⟨s', hrep, hview, hids', hkeep⟩ := replayEntity_settled r.2 hids hr
    exact ⟨s', hrep, hview, fun r' hr' h => ⟨hids', hkeep r'.1 hr' h.2⟩⟩
  · intro r hr
    exact ⟨hids, hstl r.1 (List.mem_map_of_mem hr)⟩

end Graph
end

namespace Graph

attribute [local instance] asciiFolding

def person (id : EntityId) (name : String) (now : Nanos) : EntityWrite :=
  ⟨⟨1, 1⟩, 0, .upsert ⟨id, 1, 0, name, name, [], [], now⟩⟩

def joined : List EntityWrite :=
  [person 1 "ann" 10, person 2 "ann b" 20,
    ⟨⟨1, 1⟩, 0, .rename ⟨2, "bee", 30⟩⟩,
    ⟨⟨1, 1⟩, 0, .update ⟨1, "ann", ["annie"], [7], 40⟩⟩,
    ⟨⟨1, 1⟩, 5, .merge ⟨2, 1, 0x3F800000, "", .system, 60, 50⟩⟩,
    person 3 "eve" 60, ⟨⟨1, 1⟩, 0, .tombstone ⟨3, 70⟩⟩]

def reused : List EntityWrite :=
  [person 1 "ann" 10, ⟨⟨1, 1⟩, 0, .tombstone ⟨1, 20⟩⟩, person 2 "ann" 30]

lemma directory_keyed : directory.entities.Keyed := by
  intro id m hget
  cases hget

theorem joined_replayed : ∃ g g', directory.applyEntities joined = .ok g ∧
      g.replayEntities (joined.map fun w => (w.record, 9)) = .ok g' ∧ g'.undated = g.undated ∧
      g.entities.byCanonicalName.entries.map Prod.snd = [1] := by
  obtain ⟨g, hlive⟩ : ∃ g, directory.applyEntities joined = .ok g := ⟨_, rfl⟩
  obtain ⟨g', hrep, hsame⟩ := replayed_entities_unchanged directory_keyed hlive
    (by decide +kernel) (joined.map fun w => (w.record, 9)) rfl
  refine ⟨g, g', hlive, hrep, hsame, ?_⟩
  cases hlive
  decide +kernel

/-- A name that is free again goes to another entity: replay of the tombstone takes it away. -/
theorem reused_name_lost : ∃ g g', directory.applyEntities reused = .ok g ∧
      g.replayEntities (reused.map fun w => (w.record, 0)) = .ok g' ∧
      g.entities.byCanonicalName.get ⟨⟨1, 1⟩, 1, "ann"⟩ = some 2 ∧
      g'.entities.byCanonicalName.get ⟨⟨1, 1⟩, 1, "ann"⟩ = none := by
  refine ⟨_, _, (by rfl), (by rfl), ?_, ?_⟩
  all_goals decide +kernel

end Graph
end BrainDb
