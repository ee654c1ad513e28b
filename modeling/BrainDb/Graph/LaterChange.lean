import BrainDb.Graph.Unmerge

namespace BrainDb
open List Option Table Relocate Entities

structure Entities.Found [TextFolding] (t : Entities) (s : EntityMetadata) : Prop where
  live : s.isLive = true
  name : t.byCanonicalName.get (nameKey s) = some s.id
  type : t.byType.get (typeKey s) = some ()
  aliases : aliasParts.Lists t.aliases s
  trigrams : trigramParts.Lists t.trigrams s

lemma Entities.Tidy.found [TextFolding] {t : Entities} (h : t.Tidy) {id : EntityId}
    {s : EntityMetadata} (hs : t.entities.get id = some s) (hlive : s.isLive = true) :
    t.Found s where
  live := hlive
  name := (h.names.get hs (liveName_of_live hlive)).trans (congrArg some (h.keyed id s hs).symm)
  type := h.types.get hs rfl
  aliases := h.aliases.lists h.keyed hs
  trigrams := h.trigrams.lists h.keyed hs

namespace Graph
open Statements
section
variable [TextFolding] {g g' : Graph} {s m s' : EntityMetadata} (mint : MergeId)
  (confidence : UInt32) (reason : String) (actor actor' : MergeActor) (grace : Nat)
  (now later : Nanos)

def keptAliases (s s' m : EntityMetadata) : List String :=
  s'.aliases.filter (· ∉ newAliases s (m.canonicalName :: m.aliases))

/-- What is to be left of the survivor: its row `s'` with all that was done to it since the merge made
it `s₁`, less what the merge brought. -/
def remaining (s s₁ s' m : EntityMetadata) (later : Nanos) : EntityMetadata :=
  { s' with
    attributes := if s'.attributes = s₁.attributes then s.attributes else s'.attributes
    aliases := keptAliases s s' m
    mentionCount := s.mentionCount + (s'.mentionCount - s₁.mentionCount)
    updatedAt := later }

/-- The survivor's row is what is to be left of it, and the indexes have its rows and no others. -/
def KeepsLater (t : Entities) (s s₁ s' m : EntityMetadata) (later : Nanos) : Prop :=
  t.entities.get s'.id = some (remaining s s₁ s' m later) ∧ t.Found (remaining s s₁ s' m later)

/-- What was done to the survivor is apart from what the merge brought. -/
structure LaterApart (s s₁ s' m : EntityMetadata) : Prop where
  /-- The attributes are the merge's or those of before. -/
  attributes : s'.attributes = s₁.attributes ∨ s'.attributes = s.attributes
  /-- No later alias reads like one that the merge added. -/
  aliases : ∀ a ∈ s'.aliases, ∀ b ∈ newAliases s (m.canonicalName :: m.aliases),
    normalizeName a = normalizeName b → a ∈ newAliases s (m.canonicalName :: m.aliases)
  /-- The sum of the mentions was not cut. -/
  room : s.mentionCount + m.mentionCount ≤ u32Max
  /-- The survivor did not take the merged entity's name. -/
  name : nameKey s' ≠ nameKey m
  /-- The trigrams that the merge added are in none of the names that stay, and those that go with its
  aliases are all among them. -/
  trigrams : ∀ tg ∈ trigramsOfComponents s'.canonicalName s'.aliases,
    tg ∈ trigramsOfComponents s'.canonicalName (keptAliases s s' m) ↔
      ¬ (m.entityType = s'.entityType ∧ tg ∈ newTrigrams s m)

variable {audit : MergeRecord} {s₁ : EntityMetadata}

lemma keptAliases_eq_iff (h : audit.Tells s m) :
    keptAliases s s' m = (strippedRow s' audit later).aliases ↔
      ∀ a ∈ s'.aliases, ∀ b ∈ newAliases s (m.canonicalName :: m.aliases),
        normalizeName a = normalizeName b → a ∈ newAliases s (m.canonicalName :: m.aliases) := by
  simp only [keptAliases, strippedRow, h.aliases]
  constructor
  · intro hsame a ha b hb heq
    by_contra hnew
    have hkept : a ∈ s'.aliases.filter (· ∉ newAliases s (m.canonicalName :: m.aliases)) :=
      mem_filter.mpr ⟨ha, decide_eq_true hnew⟩
    rw [hsame] at hkept
    refine of_decide_eq_true (mem_filter.mp hkept).2 ?_
    rw [heq]
    exact List.mem_map_of_mem hb
  · intro hsep
    refine filter_congr fun a ha => decide_eq_decide.mpr (not_congr ?_)
    constructor
    · exact List.mem_map_of_mem
    · intro hmem
      obtain ⟨b, hb, heq⟩ := List.mem_map.mp hmem
      exact hsep a ha b hb heq.symm

lemma remaining_eq_iff (h : audit.Tells s m)
    (hs₁ : s₁ = survivorRow s m (newAliases s (m.canonicalName :: m.aliases)) now)
    (hgr : s₁.mentionCount ≤ s'.mentionCount) (hcnt : s'.mentionCount ≤ u32Max)
    (hmax : m.mentionCount ≤ u32Max) : strippedRow s' audit later = remaining s s₁ s' m later ↔
      (s'.attributes = s₁.attributes ∨ s'.attributes = s.attributes) ∧
        keptAliases s s' m = (strippedRow s' audit later).aliases ∧
        s.mentionCount + m.mentionCount ≤ u32Max := by
  have hadded : s₁.mentionCount = min (s.mentionCount + m.mentionCount) u32Max := by
    rw [hs₁]
    rfl
  have hattrs : (audit.survivorAttributesBefore = if s'.attributes = s₁.attributes
      then s.attributes else s'.attributes) ↔
        s'.attributes = s₁.attributes ∨ s'.attributes = s.attributes := by
    rw [h.attributes]
    split <;> grind
  have hmentions : s'.mentionCount - m.mentionCount =
      s.mentionCount + (s'.mentionCount - s₁.mentionCount) ↔
        s.mentionCount + m.mentionCount ≤ u32Max := by
    omega
  rw [← hattrs, ← hmentions, ← h.mentions]
  constructor
  · intro hsame
    exact ⟨congrArg (·.attributes) hsame, (congrArg (·.aliases) hsame).symm,
      congrArg (·.mentionCount) hsame⟩
  · rintro ⟨hattrs, hals, hmentions⟩
    rw [remaining, hals, ← hmentions, ← hattrs]
    rfl

/-- Taking the merge back leaves the survivor as findable as its remaining names make it, exactly if
it did not take the other's name and the right trigrams go. -/
lemma found_unmerge_iff {t : Entities} (h : t.Found s')
    (hne : m.id ≠ s'.id) (hsc : s'.scope = m.scope) :
    (t.unmerge s'.id m.id s' m audit later).Found (strippedRow s' audit later) ↔
      nameKey s' ≠ nameKey m ∧ TrigramsReturn s' m audit := by
  have hname : (t.byCanonicalName.insert (nameKey m) m.id).get (nameKey s') = some s'.id ↔
      nameKey s' ≠ nameKey m := by
    rw [get_insert]
    split
    next heq => simp [heq, hne]
    next hoth => simp [hoth, h.name]
  have hals := (h.aliases.stripped_iff (w := strippedRow s' audit later) h.live rfl h.live rfl rfl
    (fun p hp => (mem_aliases_stripped.mp hp).1) hne m.scope s'.entityType m.entityType
    (audit.aliasesAdded.map normalizeName) (m.aliases.map normalizeName)).mpr fun p hp => by
      rw [hsc, and_iff_right rfl]
      exact mem_aliases_stripped.trans (and_iff_right hp)
  have htrigrams := h.trigrams.stripped_iff (w := strippedRow s' audit later) h.live rfl h.live rfl
    rfl (by rw [parts_trigrams, parts_trigrams]; exact trigrams_stripped_subset s' audit later) hne
    m.scope m.entityType m.entityType audit.trigramsAdded
    (trigramsOfComponents m.canonicalName m.aliases)
  rw [parts_trigrams, parts_trigrams, ← removeTrigrams_eq, ← indexTrigrams_eq, hsc] at htrigrams
  simp only [Prod.mk.injEq, true_and, eq_comm (a := s'.entityType)] at htrigrams
  have htable : (t.unmerge s'.id m.id s' m audit later).trigrams = indexTrigrams
      (removeTrigrams t.trigrams m.scope m.entityType s'.id audit.trigramsAdded) m.scope m.entityType
      m.id (trigramsOfComponents m.canonicalName m.aliases) := by
    rw [unmerge]
  rw [← htable] at htrigrams
  constructor
  · intro hfound
    exact ⟨hname.mp hfound.name, htrigrams.mp hfound.trigrams⟩
  · rintro ⟨hnames, hreturn⟩
    exact ⟨h.live, hname.mpr hnames, h.type, hals, htrigrams.mpr hreturn⟩

lemma trigramsReturn_iff (h : audit.Tells s m)
    (hals : keptAliases s s' m = (strippedRow s' audit 0).aliases) :
    TrigramsReturn s' m audit ↔ ∀ tg ∈ trigramsOfComponents s'.canonicalName s'.aliases,
      tg ∈ trigramsOfComponents s'.canonicalName (keptAliases s s' m) ↔
        ¬ (m.entityType = s'.entityType ∧ tg ∈ newTrigrams s m) := by
  rw [TrigramsReturn, hals, h.trigrams]

lemma keepsLater_iff {t : Entities} (h : audit.Tells s m) (hfound : t.Found s')
    (hs₁ : s₁ = survivorRow s m (newAliases s (m.canonicalName :: m.aliases)) now)
    (hne : m.id ≠ s'.id) (hsc : s'.scope = m.scope)
    (hgr : s₁.mentionCount ≤ s'.mentionCount) (hcnt : s'.mentionCount ≤ u32Max)
    (hmax : m.mentionCount ≤ u32Max) :
    KeepsLater (t.unmerge s'.id m.id s' (mergedRow s m now) audit later) s s₁ s' m later ↔
      LaterApart s s₁ s' m := by
  have hrow : (t.unmerge s'.id m.id s' (mergedRow s m now) audit later).entities.get s'.id =
      some (strippedRow s' audit later) :=
    (get_insert_ne _ _ hne.symm).trans (get_insert_self ..)
  have hremaining := remaining_eq_iff now later h hs₁ hgr hcnt hmax
  have hidxs : Found (t.unmerge s'.id m.id s' (mergedRow s m now) audit later)
      (strippedRow s' audit later) ↔ _ :=
    found_unmerge_iff later hfound (m := mergedRow s m now) hne hsc
  unfold KeepsLater
  rw [hrow, Option.some.injEq]
  constructor
  · rintro ⟨hsame, hfound'⟩
    obtain ⟨hattrs, hals, hroom⟩ := hremaining.mp hsame
    rw [← hsame] at hfound'
    obtain ⟨hname, htrigrams⟩ := hidxs.mp hfound'
    exact ⟨hattrs, (keptAliases_eq_iff later h).mp hals, hroom, hname,
      (trigramsReturn_iff h hals).mp htrigrams⟩
  · intro hsep
    have hals := (keptAliases_eq_iff later h).mpr hsep.aliases
    have hsame := hremaining.mpr ⟨hsep.attributes, hals, hsep.room⟩
    refine ⟨hsame, hsame ▸ hidxs.mpr ⟨hsep.name, ?_⟩⟩
    exact (trigramsReturn_iff h hals).mpr hsep.trigrams

variable (hg : g.Coherent)

include hg

structure Returned (g g' g₂ : Graph) (survivor : EntityId) (m : EntityMetadata) : Prop where
  statements : ∀ r ∈ g.statements.reroutesOf m.scope m.id, g₂.statements.rows.get r.statement =
    (g'.statements.rows.get r.statement).map (·.repointed m.id r.reversed)
  otherStatements : ∀ id, (∀ r ∈ g.statements.reroutesOf m.scope m.id, id ≠ r.statement) →
    g₂.statements.rows.get id = g'.statements.rows.get id
  indexed : g'.statements.Indexed → (∀ r ∈ g.statements.reroutesOf m.scope m.id,
    ∀ n ∈ g'.statements.rows.get r.statement, Fits m.scope survivor r.reversed n) →
      g₂.statements.Indexed
  relations : ∀ e ∈ g.affected m.scope m.id, g₂.relations.rows.get e.1 =
    (g'.relations.rows.get e.1).map fun r =>
      { r with source := .entity (nodeBytes e.2.source), target := .entity (nodeBytes e.2.target) }
  otherRelations : ∀ id, (∀ e ∈ g.affected m.scope m.id, id ≠ e.1) →
    g₂.relations.rows.get id = g'.relations.rows.get id
  aliases : ∀ a ∈ m.aliases,
    g₂.entities.aliases.get ⟨m.scope, m.entityType, normalizeName a, m.id⟩ = some ()

lemma Coherent.returned (s' : EntityMetadata) (hsc : s.scope = m.scope)
    (hids' : g'.statements.Keyed) :
    Returned g g' (g'.unmerged s.id m.id s' (mergedRow s m now) ⟨now, mint⟩
      (g.auditOf mint s m confidence reason actor grace now) actor' later) s.id m := by
  generalize haudit : g.auditOf mint s m confidence reason actor grace now = audit
  have hstmts : audit.reroutedStatements = g.statements.reroutesOf m.scope m.id := by
    rw [← haudit, auditOf, hsc, hg.statements.reroute_eq hg.statementsKeyed]
  have hrels : audit.reroutedRelations =
      (g.affected m.scope m.id).map (rerouteOf m.id s.id) := by
    rw [← haudit, ← hsc]
    rfl
  have hback := reverseRelationReroutes_eq { g' with
      statements := g'.statements.reverseReroutes m.scope audit.reroutedStatements m.id s.id }
    m.id s.id later (g'.edges, g'.relations.rows) (g.affected m.scope m.id)
  rw [← hrels] at hback
  have hsep : ((g.statements.reroutesOf m.scope m.id).map StatementReroute.reversed).Pairwise
      (·.statement ≠ ·.statement) :=
    pairwise_map.mpr (reroutesOf_statements hg.statementsKeyed m.id)
  have hsort : (g.affected m.scope m.id).Pairwise (·.1 ≠ ·.1) :=
    (g.relations.rows.sorted.sublist filter_sublist).imp ne_of_lt
  have hrows := g'.statements.reverseReroutes_eq m.scope audit.reroutedStatements m.id s.id
  have hmoved := (congrArg Graph.statements hback).trans (hrows.trans (congrArg
    (fun l => g'.statements.followAll m.scope s.id m.id (l.map (·.reversed))) hstmts))
  constructor
  · intro r hr
    refine (congrArg (fun t => t.rows.get r.statement) hmoved).trans ?_
    exact get_rows_followAll hids' hsep (List.mem_map_of_mem hr)
  · intro id hid
    refine (congrArg (fun t => t.rows.get id) hmoved).trans ?_
    refine get_rows_followAll_other hids' fun r' hr' => ?_
    obtain ⟨r, hr, rfl⟩ := List.mem_map.mp hr'
    exact hid r hr
  · intro hindexed hfits
    refine Eq.mpr (congrArg Indexed hmoved) (hindexed.followAll hids' hsep fun r' hr' => ?_)
    obtain ⟨r, hr, rfl⟩ := List.mem_map.mp hr'
    exact hfits r hr
  · intro e he
    refine (congrArg (fun g => g.relations.rows.get e.1) hback).trans ?_
    exact get_foldl_touched (v := fun s => s.2.get) (I := fun _ => True) (fun _ _ h => h)
      (fun s e id _ => Links.get_back s e id) trivial hsort he
  · intro id hid
    refine (congrArg (fun g => g.relations.rows.get id) hback).trans ?_
    exact get_foldl_other (v := fun s => s.2.get) (I := fun _ => True) (fun _ _ h => h)
      (fun s e id _ => Links.get_back s e id) trivial hid
  · intro a ha
    refine (get_foldl_insert (fun name => AliasKey.mk m.scope m.entityType name m.id) () _ _ _).trans ?_
    exact if_pos (List.mem_map_of_mem (List.mem_map_of_mem ha))

end

attribute [local instance] asciiFolding flatConfidence

end Graph
end BrainDb
