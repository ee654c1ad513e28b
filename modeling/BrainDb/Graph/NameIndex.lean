import BrainDb.Base.Run
import BrainDb.Graph.NameParts

namespace BrainDb
open List Option Table ExceptLemmas Mirror Entities PartIndex ByTypeKey
section
variable [TextFolding] (m : EntityMetadata)

def liveName : Option CanonicalNameKey :=
  if m.isLive then some (nameKey m) else none

omit [TextFolding] in
def typeKey : ByTypeKey := ⟨m.scope, m.entityType, m.id⟩

variable {m : EntityMetadata} {t : Entities} {now : Nanos} {survivor merged : EntityId}
  {s : EntityMetadata} {audit : MergeRecord}

namespace Entities

structure NamesExact (t : Entities) : Prop where
  names : Mirrors liveName id t.entities t.byCanonicalName
  sole : ∀ i j m n, t.entities.get i = some m → t.entities.get j = some n → m.isLive = true →
    n.isLive = true → nameKey m = nameKey n → i = j
  aliases : aliasParts.Exact t.entities t.aliases
  trigrams : trigramParts.Exact t.entities t.trigrams

def TypesExact (t : Entities) : Prop :=
  Reflects (fun m k => m.isLive = true ∧ typeKey m = k) (fun _ => ()) t.entities t.byType

def Linked (rows : Table EntityId EntityMetadata) : Prop :=
  ∀ id m survivor, rows.get id = some m → m.mergedInto = some survivor →
    survivor ≠ id ∧ ∃ s, rows.get survivor = some s ∧ s.scope = m.scope

structure Tidy (t : Entities) : Prop where
  keyed : t.Keyed
  linked : Linked t.entities
  names : Mirrors liveName id t.entities t.byCanonicalName
  aliases : aliasParts.Exact t.entities t.aliases
  trigrams : trigramParts.Exact t.entities t.trigrams
  types : Mirrors (fun m => some (typeKey m)) (fun _ => ()) t.entities t.byType

lemma tidy_empty : empty.Tidy := by
  refine ⟨?_, ?_, reflects_empty, reflects_empty, reflects_empty, reflects_empty⟩
  · intro id m hm
    cases hm
  · intro id m survivor hm
    cases hm

variable {w : EntityMetadata}

lemma liveName_of_live (h : m.isLive = true) : liveName m = some (nameKey m) := if_pos h

lemma liveName_of_dead (h : m.isLive = false) : liveName m = none := by
  rw [liveName, h]
  rfl

lemma Tidy.namesExact (h : t.Tidy) : t.NamesExact := by
  refine ⟨h.names, ?_, h.aliases, h.trigrams⟩
  intro i j m n hm hn hmLive hnLive hname
  have hkey : liveName n = some (nameKey m) := by rw [liveName_of_live hnLive, hname]
  exact (h.names.own hm (liveName_of_live hmLive) j n hn hkey).symm

lemma Tidy.typesExact_iff (h : t.Tidy) :
    t.TypesExact ↔ ∀ id m, t.entities.get id = some m → m.isLive = true := by
  constructor
  · intro hexact id m hm
    have hget := h.types.get hm rfl
    obtain ⟨j, n, hn, ⟨hlive, hkey⟩, -⟩ := (hexact _ _).mp hget
    have hj : j = id := by
      rw [← h.keyed j n hn, ← h.keyed id m hm]
      exact congrArg entity hkey
    rw [hj, hm] at hn
    exact Option.some.inj hn ▸ hlive
  · intro hall k v
    refine (h.types k v).trans (exists₂_congr fun j n => ?_)
    constructor
    · rintro ⟨hn, hkey, rfl⟩
      exact ⟨hn, ⟨hall j n hn, Option.some.inj hkey⟩, rfl⟩
    · rintro ⟨hn, ⟨-, hkey⟩, rfl⟩
      exact ⟨hn, congrArg some hkey, rfl⟩

variable {rows : Table EntityId EntityMetadata} {current : EntityMetadata} {i : EntityId}
  {names : Table CanonicalNameKey EntityId}

omit [TextFolding] in
lemma keyedRows_insert (h : KeyedRows rows) (hid : w.id = i) : KeyedRows (rows.insert i w) := by
  intro j n hn
  rw [get_insert] at hn
  split at hn
  next heq => rw [← Option.some.inj hn, hid, heq]
  · exact h j n hn

omit [TextFolding] in
lemma Linked.insert (h : Linked rows) (hsc : ∀ m ∈ rows.get i, w.scope = m.scope)
    (hlink : ∀ survivor ∈ w.mergedInto,
      survivor ≠ i ∧ ∃ s, rows.get survivor = some s ∧ s.scope = w.scope) :
    Linked (rows.insert i w) := by
  intro id n survivor hn hinto
  rw [get_insert] at hn
  split at hn
  next heq =>
    obtain rfl := Option.some.inj hn
    obtain ⟨hne, s, hs, hss⟩ := hlink survivor hinto
    exact ⟨heq ▸ hne, s, by rw [get_insert_ne _ _ hne, hs], hss⟩
  · obtain ⟨hne, s, hs, hss⟩ := h id n survivor hn hinto
    refine ⟨hne, ?_⟩
    by_cases hi : survivor = i
    · subst hi
      exact ⟨w, get_insert_self _ _ _, (hsc s hs).trans hss⟩
    · exact ⟨s, by rw [get_insert_ne _ _ hi, hs], hss⟩

omit [TextFolding] in
lemma typeKey_own (h : KeyedRows rows) {k : ByTypeKey} (hk : k.entity = i) :
    Own (fun m k => some (typeKey m) = some k) rows i k :=
  own_of_owner entity
    (fun j n _ hj hn => (congrArg entity (Option.some.inj hn)).symm.trans (h j n hj)) hk

lemma indexTrigrams_eq (t : Table TrigramKey Unit) (scope : RowScope) (ty : EntityTypeId)
    (id : EntityId) (l : List Trigram) :
    indexTrigrams t scope ty id l = trigramParts.add t scope ty id l := rfl

lemma removeTrigrams_eq (t : Table TrigramKey Unit) (scope : RowScope) (ty : EntityTypeId)
    (id : EntityId) (l : List Trigram) :
    removeTrigrams t scope ty id l = trigramParts.drop t scope ty id l := rfl

lemma parts_aliases (e : Entity) : aliasParts.parts e = e.aliases.map normalizeName := rfl

lemma parts_trigrams (e : Entity) :
    trigramParts.parts e = trigramsOfComponents e.canonicalName e.aliases := by
  rw [trigramParts]

lemma Tidy.added (h : t.Tidy) {scope : RowScope} {session : SessionId} {e : Entity}
    (hfresh : t.entities.get e.id = none) (hlive : e.isLive = true)
    (hname : t.byCanonicalName.get (entityKey scope e) = none) :
    (t.added scope session e).Tidy := by
  have hnone : ∀ m ∈ t.entities.get e.id, m.isLive = false := by
    intro m hm
    rw [hfresh] at hm
    cases hm
  have hinto : e.mergedInto = none := by
    have hlive' := hlive
    rw [Entity.isLive, Bool.and_eq_true] at hlive'
    exact isNone_iff_eq_none.mp hlive'.2
  constructor
  · exact keyedRows_insert h.keyed rfl
  · refine h.linked.insert (fun m hm => ?_) fun survivor hs => ?_
    · rw [hfresh] at hm
      cases hm
    · change survivor ∈ e.mergedInto at hs
      rw [hinto] at hs
      cases hs
  · have hkey : liveName (newRow scope session e) = some (entityKey scope e) := if_pos hlive
    have hpos := h.names.place (w := newRow scope session e) hfresh fun k hk =>
      h.names.own_of_free (by rw [← Option.some.inj (hkey.symm.trans hk), hname])
    rw [hkey] at hpos
    exact hpos
  · exact h.aliases.enter (w := newRow scope session e) h.keyed rfl hnone hlive
  · have henter := h.trigrams.enter (w := newRow scope session e) h.keyed rfl hnone hlive
    rw [parts_trigrams, ← indexTrigrams_eq] at henter
    simpa only [Entities.added, newRow, EntityMetadata.fromEntity] using henter
  · exact h.types.place (w := newRow scope session e) hfresh fun k hk =>
      typeKey_own h.keyed (congrArg entity (Option.some.inj hk)).symm

lemma isLive_revised (current : EntityMetadata) (newState : Entity) (now : Nanos) :
    (revised current newState now).isLive = newState.isLive := by
  unfold revised
  simp only
  split <;> rfl

lemma rekeyName_ok {next : Entity} (h : t.rekeyName current next = .ok names) :
    (nameKey current = entityKey current.scope next ∧ names = t.byCanonicalName) ∨
      t.byCanonicalName.get (entityKey current.scope next) = none ∧
      names = (t.byCanonicalName.remove (nameKey current)).insert
        (entityKey current.scope next) next.id := by
  unfold rekeyName at h
  split at h
  next heq => exact .inl ⟨heq, (Except.ok.inj h).symm⟩
  next hne =>
    split at h
    · cases h
    next hfree =>
      rw [get_remove_ne _ fun heq => hne heq.symm] at hfree
      exact .inr ⟨hfree, (Except.ok.inj h).symm⟩

lemma Tidy.moved (h : t.Tidy) {next : Entity} (hcur : t.entities.get next.id = some current)
    (hlive : current.isLive = true) (hlive' : next.isLive = true)
    (hnames : t.rekeyName current next = .ok names) : (t.moved current next names).Tidy := by
  have hid : current.id = next.id := h.keyed _ _ hcur
  have hnew : (nextRow current next).isLive = true := hlive'
  have hkey : liveName (nextRow current next) = some (entityKey current.scope next) := if_pos hnew
  constructor
  · exact keyedRows_insert h.keyed rfl
  · refine h.linked.insert (fun m hm => ?_) fun survivor hs => ?_
    · obtain rfl := Option.some.inj (hcur.symm.trans hm)
      rfl
    · change survivor ∈ next.mergedInto at hs
      rw [Entity.isLive, Bool.and_eq_true] at hlive'
      rw [isNone_iff_eq_none.mp hlive'.2] at hs
      cases hs
  · rcases rekeyName_ok hnames with ⟨heq, rfl⟩ | ⟨hfree, rfl⟩
    · exact h.names.same hcur (by rw [hkey, liveName_of_live hlive, heq])
    · exact h.names.move hcur (liveName_of_live hlive) hkey
        (h.names.own hcur (liveName_of_live hlive)) (h.names.own_of_free hfree)
  · exact h.aliases.revise (w := nextRow current next) h.keyed rfl hcur hlive hnew rfl
      (current.entityType ≠ next.entityType) decide_eq_true_iff rfl
  · have hrevise := h.trigrams.revise (w := nextRow current next) h.keyed rfl hcur hlive hnew rfl
      (current.entityType ≠ next.entityType) decide_eq_true_iff rfl
    rw [parts_trigrams, parts_trigrams, ← removeTrigrams_eq, ← indexTrigrams_eq] at hrevise
    simpa only [Entities.moved, nextRow, EntityMetadata.fromEntity] using hrevise
  · by_cases htype : current.entityType = next.entityType
    · have hsame : (t.moved current next names).byType = t.byType := by
        simp [Entities.moved, htype]
      rw [hsame]
      refine h.types.same hcur (congrArg some ?_)
      rw [typeKey, typeKey, hid, htype]
      rfl
    · have hmoved : (t.moved current next names).byType =
          (t.byType.remove ⟨current.scope, current.entityType, current.id⟩).insert
            ⟨current.scope, next.entityType, next.id⟩ () := by
        simp [Entities.moved, htype]
      rw [hmoved]
      exact h.types.move hcur rfl rfl (typeKey_own h.keyed hid) (typeKey_own h.keyed rfl)

lemma Tidy.update (h : t.Tidy) {t' : Entities} {types : Schema.EntityTypes}
    {newState : Entity} (hok : t.update types newState now = .ok t')
    (hlive : ∀ m ∈ t.entities.get newState.id, m.isLive = true) (hlive' : newState.isLive = true) :
    t'.Tidy := by
  obtain ⟨current, names, hcur, hnames, rfl⟩ := update_ok hok
  have hid : (revised current newState now).id = newState.id :=
    (revised_fields current newState now).1
  exact h.moved (hid ▸ hcur) (hlive current hcur)
    ((isLive_revised current newState now).trans hlive') hnames

lemma Tidy.buried (h : t.Tidy) (hcur : t.entities.get current.id = some current)
    (hname : current.isLive = false → t.byCanonicalName.get (nameKey current) = none) :
    (t.buried current now).Tidy := by
  have hdead : Entity.isLive { current.toEntity with
      tombstoned := true, updatedAt := now, aliases := [] } = false := rfl
  constructor
  · exact keyedRows_insert h.keyed rfl
  · refine h.linked.insert (fun m hm => ?_) fun survivor hs => ?_
    · obtain rfl := Option.some.inj (hcur.symm.trans hm)
      rfl
    · exact h.linked current.id current survivor hcur hs
  · cases hlive : current.isLive with
    | true =>
      exact h.names.drop hcur (liveName_of_live hlive) (liveName_of_dead hdead)
        (h.names.own hcur (liveName_of_live hlive))
    | false =>
      have hsame : (t.buried current now).byCanonicalName = t.byCanonicalName :=
        remove_of_get_none (hname hlive)
      rw [hsame]
      exact h.names.same hcur ((liveName_of_dead hdead).trans (liveName_of_dead hlive).symm)
  · exact h.aliases.leave h.keyed rfl hcur hdead
  · have hleave := h.trigrams.leave (w := { current with
      tombstoned := true, updatedAt := now, aliases := [] }) h.keyed rfl hcur hdead
    rw [parts_trigrams, ← removeTrigrams_eq] at hleave
    simpa only [Entities.buried] using hleave
  · exact h.types.same hcur rfl

end Entities

lemma foldl_newAliases (base : List String) (names out : List String) :
    ∃ taken, names.foldl (fun (acc : List String × List String) name =>
      if normalizeName name ∈ acc.1 then acc
      else (acc.1 ++ [normalizeName name], acc.2 ++ [name])) (base ++ out.map normalizeName, out) =
        (base ++ (out ++ taken).map normalizeName, out ++ taken) ∧
      (∀ a ∈ taken, a ∈ names ∧ normalizeName a ∉ base) ∧
      ∀ name ∈ names, normalizeName name ∈ base ++ (out ++ taken).map normalizeName := by
  induction names generalizing out with
  | nil => exact ⟨[], by simp, by simp, by simp⟩
  | cons name names ih =>
    rw [foldl_cons]
    split
    next hseen =>
      obtain ⟨taken, hfold, htk, hall⟩ := ih out
      refine ⟨taken, hfold, fun a ha => ⟨mem_cons_of_mem _ (htk a ha).1, (htk a ha).2⟩, ?_⟩
      intro n hn
      rcases mem_cons.mp hn with rfl | hn
      · simp only [mem_append, map_append] at hseen ⊢
        exact hseen.elim .inl fun h => .inr (.inl h)
      · exact hall n hn
    next hnew =>
      obtain ⟨taken, hfold, htk, hall⟩ := ih (out ++ [name])
      refine ⟨name :: taken, ?_, ?_, ?_⟩
      · simpa using hfold
      · intro a ha
        rcases mem_cons.mp ha with rfl | ha
        · exact ⟨mem_cons_self, fun hbase => hnew (mem_append_left _ hbase)⟩
        · exact ⟨mem_cons_of_mem _ (htk a ha).1, (htk a ha).2⟩
      · intro n hn
        rcases mem_cons.mp hn with rfl | hn
        · simp
        · simpa using hall n hn

lemma newAliases_spec (s : EntityMetadata) (names : List String) :
    (∀ a ∈ newAliases s names, a ∈ names ∧
      normalizeName a ∉ (s.canonicalName :: s.aliases).map normalizeName) ∧
    ∀ name ∈ names, ∃ n ∈ s.canonicalName :: s.aliases ++ newAliases s names,
      normalizeName n = normalizeName name := by
  obtain ⟨taken, hfold, htk, hall⟩ :=
    foldl_newAliases ((s.canonicalName :: s.aliases).map normalizeName) names []
  have htaken' : newAliases s names = taken := by
    unfold newAliases
    have hbeg : (s.canonicalName :: s.aliases).map normalizeName =
        (s.canonicalName :: s.aliases).map normalizeName ++ ([] : List String).map normalizeName := by
      simp
    rw [hbeg, hfold]
    rfl
  rw [htaken']
  refine ⟨htk, fun name hname => ?_⟩
  have hmem := hall name hname
  rw [nil_append, ← map_append] at hmem
  obtain ⟨n, hn, heq⟩ := mem_map.mp hmem
  exact ⟨n, hn, heq⟩

lemma mem_trigramsOfComponents {canonical : String} {aliases : List String} {tg : Trigram} :
    tg ∈ trigramsOfComponents canonical aliases ↔
      ∃ name ∈ canonical :: aliases, tg ∈ extractTrigrams (normalizeName name) :=
  mem_flatMap

lemma mem_trigrams_survivor (s m : EntityMetadata) (tg : Trigram) :
    tg ∈ trigramsOfComponents s.canonicalName
        (s.aliases ++ newAliases s (m.canonicalName :: m.aliases)) ↔
      tg ∈ newTrigrams s m ∨ tg ∈ trigramsOfComponents s.canonicalName s.aliases := by
  obtain ⟨htk, hall⟩ := newAliases_spec s (m.canonicalName :: m.aliases)
  rw [newTrigrams, mem_dedup, mem_filter, decide_eq_true_eq]
  constructor
  · intro htg
    obtain ⟨name, hname, htg⟩ := mem_trigramsOfComponents.mp htg
    rw [← cons_append, mem_append] at hname
    by_cases hhad : tg ∈ trigramsOfComponents s.canonicalName s.aliases
    · exact .inr hhad
    · rcases hname with hname | hname
      · exact .inr (mem_trigramsOfComponents.mpr ⟨name, hname, htg⟩)
      · exact .inl ⟨mem_trigramsOfComponents.mpr ⟨name, (htk name hname).1, htg⟩, hhad⟩
  · rintro (⟨htg, -⟩ | htg)
    · obtain ⟨name, hname, htg⟩ := mem_trigramsOfComponents.mp htg
      obtain ⟨n, hn, heq⟩ := hall name hname
      exact mem_trigramsOfComponents.mpr ⟨n, hn, heq ▸ htg⟩
    · obtain ⟨name, hname, htg⟩ := mem_trigramsOfComponents.mp htg
      refine mem_trigramsOfComponents.mpr ⟨name, ?_, htg⟩
      rw [← cons_append]
      exact mem_append_left _ hname

omit [TextFolding] in
lemma isLive_iff {e : Entity} : e.isLive = true ↔ e.tombstoned = false ∧ e.mergedInto = none := by
  rw [Entity.isLive, Bool.and_eq_true, isNone_iff_eq_none, Bool.not_eq_true']

structure Mergeable (s m : EntityMetadata) : Prop where
  survivor : s.isLive = true
  merged : m.isLive = true
  scope : s.scope = m.scope
  entityType : s.entityType = m.entityType

omit [TextFolding] in
lemma mergeable_of_ok (h : mergeable survivor merged s m = .ok ()) : Mergeable s m := by
  obtain ⟨hs, hm, hsInto, hmInto⟩ := mergeable_ok h
  unfold mergeable at h
  rw [hs, hm, hsInto, hmInto] at h
  simp only [Bool.false_eq_true, if_false] at h
  split at h
  · cases h
  next hsame =>
    rw [not_or, not_not, not_not] at hsame
    exact ⟨isLive_iff.mpr ⟨hs, hsInto⟩, isLive_iff.mpr ⟨hm, hmInto⟩, hsame.2, hsame.1⟩

lemma Entities.Tidy.merge (h : t.Tidy) (hne : survivor ≠ merged)
    (hs : t.entities.get survivor = some s) (hm : t.entities.get merged = some m)
    (hmrg : Mergeable s m) :
    (t.merge survivor merged s m (newAliases s (m.canonicalName :: m.aliases)) (newTrigrams s m)
      now).Tidy := by
  have hsId : s.id = survivor := h.keyed _ _ hs
  have hmId : m.id = merged := h.keyed _ _ hm
  subst hsId hmId
  obtain ⟨hsLive, hmLive, hsc, htype⟩ := hmrg
  generalize hadded : newAliases s (m.canonicalName :: m.aliases) = aliasesAdded
  have hdead : (mergedRow s m now).isLive = false := by
    rw [Entity.isLive]
    exact Bool.and_false _
  have hlive : (survivorRow s m aliasesAdded now).isLive = true := hsLive
  -- the rows can be written in either order
  have hrows : (t.merge s.id m.id s m aliasesAdded (newTrigrams s m) now).entities =
      (t.entities.insert m.id (mergedRow s m now)).insert s.id
        (survivorRow s m aliasesAdded now) := t.entities.insert_comm hne _ _
  have hs' : (t.entities.insert m.id (mergedRow s m now)).get s.id = some s := by
    rw [get_insert_ne _ _ hne, hs]
  have hids := keyedRows_insert h.keyed (rfl : (mergedRow s m now).id = m.id)
  constructor
  · rw [Keyed, hrows]
    exact keyedRows_insert hids rfl
  · have hfst := h.linked.insert (i := s.id) (w := survivorRow s m aliasesAdded now)
      (fun n hn => by rw [← Option.some.inj (hs.symm.trans hn)]; rfl) fun survivor hsurv => by
        change survivor ∈ s.mergedInto at hsurv
        rw [(isLive_iff.mp hsLive).2] at hsurv
        cases hsurv
    refine hfst.insert (fun n hn => ?_) fun survivor hsurv => ?_
    · rw [get_insert_ne _ _ hne.symm, hm] at hn
      rw [← Option.some.inj hn]
      rfl
    · obtain rfl : s.id = survivor := Option.some.inj hsurv
      exact ⟨hne, _, get_insert_self _ _ _, hsc⟩
  · rw [hrows]
    have hgone := h.names.drop hm (liveName_of_live hmLive) (liveName_of_dead hdead)
      (h.names.own hm (liveName_of_live hmLive))
    refine hgone.same hs' ?_
    rw [liveName_of_live hlive, liveName_of_live hsLive]
    rfl
  · rw [hrows]
    have hgone := h.aliases.leave (w := mergedRow s m now) h.keyed rfl hm hdead
    have hmore := hgone.extend (w := survivorRow s m aliasesAdded now) hids rfl hs' hsLive hlive
      rfl rfl (aliasesAdded.map normalizeName) fun p => by
        rw [parts_aliases, parts_aliases]
        change p ∈ (s.aliases ++ aliasesAdded).map normalizeName ↔ _
        rw [map_append, mem_append, or_comm]
    rw [← hsc] at hmore
    exact hmore
  · rw [hrows]
    have hgone := h.trigrams.leave (i := m.id) (w := mergedRow s m now) h.keyed rfl hm hdead
    have hmore := hgone.extend (i := s.id) (w := survivorRow s m aliasesAdded now) hids rfl hs'
      hsLive hlive rfl rfl (newTrigrams s m) fun p => by
        rw [parts_trigrams, parts_trigrams]
        change p ∈ trigramsOfComponents s.canonicalName (s.aliases ++ aliasesAdded) ↔ _
        rw [← hadded, mem_trigrams_survivor]
    rw [parts_trigrams, ← hsc, ← htype, ← removeTrigrams_eq, ← indexTrigrams_eq] at hmore
    simpa only [merge] using hmore
  · rw [hrows]
    have hmerged := h.types.same (w := mergedRow s m now) hm rfl
    exact hmerged.same hs' rfl

def strippedRow (s : EntityMetadata) (audit : MergeRecord) (now : Nanos) : EntityMetadata :=
  { s with
    aliases := s.aliases.filter fun a => normalizeName a ∉ audit.aliasesAdded.map normalizeName
    mentionCount := s.mentionCount - audit.mentionCountAdded
    attributes := audit.survivorAttributesBefore
    updatedAt := now }

omit [TextFolding] in
def restoredRow (m : EntityMetadata) (now : Nanos) : EntityMetadata :=
  { m with mergedInto := none, merged := false, updatedAt := now }

def TrigramsReturn (s m : EntityMetadata) (audit : MergeRecord) : Prop :=
  ∀ tg ∈ trigramsOfComponents s.canonicalName s.aliases,
    tg ∈ trigramsOfComponents s.canonicalName (strippedRow s audit 0).aliases ↔
      ¬ (m.entityType = s.entityType ∧ tg ∈ audit.trigramsAdded)

instance (s m : EntityMetadata) (audit : MergeRecord) : Decidable (TrigramsReturn s m audit) :=
  List.decidableBAll _ _

lemma mem_aliases_stripped {p : String} : p ∈ (strippedRow s audit now).aliases.map normalizeName ↔
      p ∈ s.aliases.map normalizeName ∧ p ∉ audit.aliasesAdded.map normalizeName := by
  constructor
  · intro hp
    obtain ⟨a, ha, rfl⟩ := mem_map.mp hp
    obtain ⟨ha, hkept⟩ := mem_filter.mp ha
    exact ⟨List.mem_map_of_mem ha, of_decide_eq_true hkept⟩
  · rintro ⟨hp, hkept⟩
    obtain ⟨a, ha, rfl⟩ := mem_map.mp hp
    exact List.mem_map_of_mem (mem_filter.mpr ⟨ha, decide_eq_true hkept⟩)

lemma trigrams_stripped_subset (s : EntityMetadata) (audit : MergeRecord) (now : Nanos) :
    trigramsOfComponents s.canonicalName (strippedRow s audit now).aliases ⊆
      trigramsOfComponents s.canonicalName s.aliases := by
  intro tg htg
  obtain ⟨name, hname, htg⟩ := mem_trigramsOfComponents.mp htg
  refine mem_trigramsOfComponents.mpr ⟨name, ?_, htg⟩
  rcases mem_cons.mp hname with rfl | hname
  · exact mem_cons_self
  · exact mem_cons_of_mem _ (mem_filter.mp hname).1

lemma TrigramsReturn.mem_stripped (h : TrigramsReturn s m audit) (now : Nanos) (tg : Trigram) :
    tg ∈ trigramsOfComponents s.canonicalName (strippedRow s audit now).aliases ↔
      tg ∈ trigramsOfComponents s.canonicalName s.aliases ∧
        ¬ (m.entityType = s.entityType ∧ tg ∈ audit.trigramsAdded) := by
  have hsub : tg ∈ _ → tg ∈ _ := fun htg => trigrams_stripped_subset s audit now htg
  exact ⟨fun htg => ⟨hsub htg, (h tg (hsub htg)).mp htg⟩, fun ⟨htg, hkept⟩ => (h tg htg).mpr hkept⟩

lemma Entities.Tidy.unmerge (h : t.Tidy) (hs : t.entities.get survivor = some s)
    (hm : t.entities.get merged = some m) (hinto : m.mergedInto = some survivor)
    (htomb : m.tombstoned = false) (hname : t.byCanonicalName.get (nameKey m) = none)
    (htrigrams : s.isLive = true → TrigramsReturn s m audit) :
    (t.unmerge survivor merged s m audit now).Tidy := by
  obtain ⟨hne, s', hs', hsc⟩ := h.linked merged m survivor hm hinto
  obtain rfl : s = s' := Option.some.inj (hs.symm.trans hs')
  have hsId : s.id = survivor := h.keyed _ _ hs
  have hmId : m.id = merged := h.keyed _ _ hm
  subst hsId hmId
  have hdead : m.isLive = false := by
    rw [Entity.isLive, hinto]
    exact Bool.and_false _
  have hlive : (restoredRow m now).isLive = true := isLive_iff.mpr ⟨htomb, rfl⟩
  have hrows : (t.unmerge s.id m.id s m audit now).entities =
      (t.entities.insert s.id (strippedRow s audit now)).insert m.id (restoredRow m now) := rfl
  have hm' : (t.entities.insert s.id (strippedRow s audit now)).get m.id = some m := by
    rw [get_insert_ne _ _ hne.symm, hm]
  have hbef : ∀ n ∈ (t.entities.insert s.id (strippedRow s audit now)).get m.id,
      n.isLive = false := by
    intro n hn
    rw [← Option.some.inj (hm'.symm.trans hn), hdead]
  have hids := keyedRows_insert h.keyed (rfl : (strippedRow s audit now).id = s.id)
  constructor
  · rw [Keyed, hrows]
    exact keyedRows_insert hids rfl
  · rw [hrows]
    have hfst := h.linked.insert (i := s.id) (w := strippedRow s audit now)
      (fun n hn => by rw [← Option.some.inj (hs.symm.trans hn)]; rfl)
      fun into hinto => h.linked s.id s into hs hinto
    refine hfst.insert (fun n hn => ?_) fun into hinto => ?_
    · rw [← Option.some.inj (hm'.symm.trans hn)]
      rfl
    · cases hinto
  · rw [hrows]
    have hsame := h.names.same (w := strippedRow s audit now) hs rfl
    exact hsame.gain hm' (liveName_of_dead hdead) (liveName_of_live hlive) (hsame.own_of_free hname)
  · rw [hrows]
    have hless := h.aliases.strip (i := s.id) (w := strippedRow s audit now) h.keyed rfl hs rfl rfl
      rfl m.scope s.entityType (audit.aliasesAdded.map normalizeName) fun _ p => by
        rw [parts_aliases, parts_aliases, mem_aliases_stripped, hsc]
        simp only [true_and]
    exact hless.enter (i := m.id) (w := restoredRow m now) hids rfl hbef hlive
  · rw [hrows]
    have hless := h.trigrams.strip (i := s.id) (w := strippedRow s audit now) h.keyed rfl hs rfl rfl
      rfl m.scope m.entityType audit.trigramsAdded fun hsLive p => by
        rw [parts_trigrams, parts_trigrams]
        refine ((htrigrams hsLive).mem_stripped now p).trans ?_
        simp only [Prod.mk.injEq, hsc, true_and]
    have hmore := hless.enter (i := m.id) (w := restoredRow m now) hids rfl hbef hlive
    rw [parts_trigrams, ← removeTrigrams_eq, ← indexTrigrams_eq] at hmore
    simpa only [unmerge, restoredRow] using hmore
  · rw [hrows]
    have hsame := h.types.same (w := strippedRow s audit now) hs rfl
    exact hsame.same hm' rfl

namespace Graph
open Entities

def callStep (g : Graph) (c : EntityCall) : Graph :=
  match g.call c with
  | .ok g' => g'
  | .error _ => g

def KeepsNames (g : Graph) : EntityCall → Prop
  | .put _ _ e => g.entities.entities.get e.id = none ∧ e.isLive = true
  | .update newState _ =>
    (∀ m ∈ g.entities.entities.get newState.id, m.isLive = true) ∧ newState.isLive = true
  | .rename id _ _ => ∀ m ∈ g.entities.entities.get id, m.isLive = true
  | .tombstone id _ => ∀ m ∈ g.entities.entities.get id,
    m.isLive = true ∨ g.entities.byCanonicalName.get (nameKey m) = none
  | .merge _ _ _ _ _ _ _ _ => True
  | .unmerge merged _ _ => ∀ m ∈ g.entities.entities.get merged, ∀ survivor ∈ m.mergedInto,
    m.tombstoned = false ∧ g.entities.byCanonicalName.get (nameKey m) = none ∧
      ∀ s ∈ g.entities.entities.get survivor, ∀ audit ∈ g.findActiveAudit merged,
        s.isLive = true → TrigramsReturn s m audit.2

instance (g : Graph) : (c : EntityCall) → Decidable (g.KeepsNames c)
  | .put _ _ _ => inferInstanceAs (Decidable (_ ∧ _))
  | .update _ _ => inferInstanceAs (Decidable ((∀ m ∈ _, _) ∧ _))
  | .rename _ _ _ => inferInstanceAs (Decidable (∀ m ∈ _, _))
  | .tombstone _ _ => inferInstanceAs (Decidable (∀ m ∈ _, _))
  | .merge _ _ _ _ _ _ _ _ => inferInstanceAs (Decidable True)
  | .unmerge _ _ _ => inferInstanceAs (Decidable (∀ m ∈ _, _))

lemma tidy_call {g g' : Graph} {c : EntityCall} (h : g.entities.Tidy) (hok : g.call c = .ok g')
    (hkeeps : g.KeepsNames c) : g'.entities.Tidy := by
  cases c with
  | put scope session e =>
    obtain ⟨entities, hput, hok⟩ := bind_ok (mapError_ok hok)
    cases hok
    obtain ⟨_, _, hput⟩ := bind_ok hput
    split at hput
    · cases hput
    next hname =>
      cases hput
      exact h.added hkeeps.1 hkeeps.2 hname
  | update newState now =>
    obtain ⟨entities, hupd, hok⟩ := bind_ok (mapError_ok hok)
    cases hok
    exact h.update hupd hkeeps.1 hkeeps.2
  | rename id newName now =>
    obtain ⟨entities, hrename, hok⟩ := bind_ok (mapError_ok hok)
    cases hok
    unfold rename at hrename
    split at hrename
    · cases hrename
    next current hcur =>
      have hid : current.id = id := h.keyed id current hcur
      have hlive := hkeeps current hcur
      exact h.update hrename (fun m hm => hkeeps m (hid ▸ hm)) hlive
  | tombstone id now =>
    obtain ⟨entities, htomb, hok⟩ := bind_ok (mapError_ok hok)
    cases hok
    obtain ⟨current, hcur, rfl⟩ := tombstone_ok htomb
    have hid : current.id = id := h.keyed id current hcur
    refine h.buried (hid ▸ hcur) fun hdead => ?_
    rcases hkeeps current hcur with hlive | hname
    · exact absurd (hdead.symm.trans hlive) Bool.false_ne_true
    · exact hname
  | merge mint survivor merged confidence reason actor grace now =>
    obtain ⟨s, m, hne, hs, hm, hmrg, rfl⟩ := mergeEntity_ok (mapError_ok hok)
    rw [entities_merged]
    exact h.merge hne hs hm (mergeable_of_ok hmrg)
  | unmerge merged actor now =>
    obtain ⟨m, survivor, s, key, audit, hm, hinto, hs, haudit, -, rfl⟩ :=
      unmergeEntity_ok (mapError_ok hok)
    obtain ⟨htomb, hname, htrigrams⟩ := hkeeps m hm survivor hinto
    rw [entities_unmerged]
    exact h.unmerge hs hm hinto htomb hname (htrigrams s hs (key, audit) haudit)

lemma tidy_callStep {g : Graph} {c : EntityCall} (h : g.entities.Tidy)
    (hkeeps : g.KeepsNames c) : (g.callStep c).entities.Tidy := by
  unfold callStep
  split
  next hok => exact tidy_call h hok hkeeps
  · exact h

/-- From empty tables, in every state of a run that meets `KeepsNames`, the indexes of names are
those of the live entities, and the listing by type too where no entity is dead. -/
theorem names_always {catalog : Schema.Catalog} {cs : List EntityCall}
    (h : Run.EachStep callStep KeepsNames (Graph.empty catalog) cs) :
    Run.Always callStep (fun g => g.entities.NamesExact ∧
      (g.entities.TypesExact ↔ ∀ id m, g.entities.entities.get id = some m → m.isLive = true))
      (Graph.empty catalog) cs :=
  (h.always (I := fun g => g.entities.Tidy) (fun _ _ hg hc => tidy_callStep hg hc) tidy_empty).imp
    fun _ hg => ⟨hg.namesExact, hg.typesExact_iff⟩

end Graph
end

namespace Graph
open Entities

attribute [local instance] asciiFolding

def enters (id : EntityId) (name : String) (now : Nanos) : EntityCall :=
  .put ⟨1, 1⟩ 0 (UpsertEntity.entity ⟨id, 1, 0, name, name, [], [], now⟩)

theorem register_names : Run.Always callStep (fun g => g.entities.NamesExact ∧
      (g.entities.TypesExact ↔ ∀ id m, g.entities.entities.get id = some m → m.isLive = true))
      directory [enters 1 "ann" 10, enters 2 "bea" 20, .rename 2 "bee" 30,
        .merge 5 1 2 0x3F800000 "" .system 60 40, .unmerge 2 .system 50, .tombstone 1 60] :=
  names_always (by decide +kernel)

/-- A person is removed, another one takes the name, and the first is removed once more: the name of
the second, who is live, is gone from the index. -/
theorem removed_twice_unnamed : ¬ Run.Always callStep (fun g => g.entities.NamesExact) directory
      [enters 1 "ann" 10, .tombstone 1 20, enters 2 "ann" 30, .tombstone 1 40] := by
  intro h
  have hlive : ∃ m, ([enters 1 "ann" 10, .tombstone 1 20, enters 2 "ann" 30,
      .tombstone 1 40].foldl callStep directory).entities.entities.get 2 = some m ∧
      liveName m = some ⟨⟨1, 1⟩, 1, "ann"⟩ := ⟨_, rfl, by decide +kernel⟩
  have hgone : ([enters 1 "ann" 10, .tombstone 1 20, enters 2 "ann" 30,
      .tombstone 1 40].foldl callStep directory).entities.byCanonicalName.get ⟨⟨1, 1⟩, 1, "ann"⟩ =
        none := by decide +kernel
  obtain ⟨m, hm, hkey⟩ := hlive
  have hget := h.last.names.get hm hkey
  rw [hgone] at hget
  cases hget

end Graph
end BrainDb
