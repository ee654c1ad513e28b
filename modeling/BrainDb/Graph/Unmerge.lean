import BrainDb.Graph.EntityReplay
import BrainDb.Graph.NameIndex
import BrainDb.Graph.RelationMoves
import BrainDb.Graph.StatementUpkeep

namespace BrainDb
open List Option Table Relocate Entities
namespace StatementReroute
variable (scope : RowScope)

def oldSlot (r : StatementReroute) : ChainKey :=
  ⟨scope, r.chainRoot, r.oldVersion⟩

def newSlot (r : StatementReroute) : ChainKey :=
  ⟨scope, r.chainRoot, r.newVersion⟩

def movesSlot (r : StatementReroute) : Bool := r.subjectChanged && r.newVersion ≠ r.oldVersion

end StatementReroute

namespace Statements
open StatementReroute StatementMetadata
variable {t : Statements} {scope : RowScope} {old new merged survivor : EntityId}
  {records : List StatementReroute}

def Returns (t : Statements) (scope : RowScope) (merged : EntityId) : Prop :=
  Undoable (oldSlot scope) (newSlot scope) t.chain ((t.reroutesOf scope merged).filter movesSlot)

instance : Decidable (t.Returns scope merged) := Undoable.decidable ..

lemma chain_followAll (hids : t.Keyed)
    (hrows : ∀ r ∈ records, ∃ m, t.rows.get r.statement = some m) :
    (t.followAll scope old new records).chain = shiftAll (oldSlot scope) (newSlot scope)
      (·.statement) t.chain (records.filter movesSlot) := by
  induction records generalizing t with
  | nil => rfl
  | cons r records ih =>
    obtain ⟨m, hm⟩ := hrows r mem_cons_self
    have hrest : ∀ r' ∈ records, ∃ m, (t.follow scope old new r).rows.get r'.statement = some m := by
      intro r' hr'
      obtain ⟨m', hm'⟩ := hrows r' (mem_cons_of_mem r hr')
      rw [get_rows_follow hids, hm']
      split
      · exact ⟨_, rfl⟩
      · exact ⟨m', rfl⟩
    have hchain : (t.follow scope old new r).chain = if r.movesSlot then
        shift (oldSlot scope) (newSlot scope) (·.statement) t.chain r else t.chain := by
      rw [follow_of_get hm, chain_carry, hids _ m hm]
      simp only [movesSlot, Bool.and_eq_true, decide_eq_true_eq]
      rfl
    refine (ih hids.follow hrest).trans ?_
    rw [hchain, filter_cons]
    split <;> rfl

variable {r : StatementReroute} {m : StatementMetadata}

lemma Fits.repointed_repointed (h : Fits scope old r m) (hver : r.oldVersion = m.version) :
    (m.repointed new r).repointed old r.reversed = m := by
  have hsubj : r.subjectChanged = true → (m.subject.withBytes new).withBytes old = m.subject := by
    intro hr
    rw [← (h.2.2 hr).2]
    cases m.subject <;> rfl
  have hobj := h.2.1
  obtain ⟨id, subjectChanged, objectChanged, oldVersion, newVersion, root⟩ := r
  simp only at hsubj hobj hver
  cases subjectChanged <;> cases objectChanged
  · rfl
  · change { m with object := .entity old } = m
    rw [← hobj rfl]
  · change { m with
      subject := (m.subject.withBytes new).withBytes old, version := oldVersion } = m
    rw [hsubj rfl, hver]
  · change { m with
      object := .entity old, subject := (m.subject.withBytes new).withBytes old
      version := oldVersion } = m
    rw [hsubj rfl, hver, ← hobj rfl]

lemma Fits.reversed (h : Fits scope old r m) : Fits scope new r.reversed (m.repointed new r) := by
  refine ⟨(m.repointed_frame new r).2.1.trans h.1, fun hr => ?_, fun hr => ?_⟩
  · rw [object_repointed]
    exact if_pos hr
  · obtain ⟨hpend, -⟩ := h.2.2 hr
    refine ⟨(m.isPending_repointed new r).trans hpend, ?_⟩
    rw [subject_repointed]
    exact (congrArg SubjectRef.bytes (if_pos hr)).trans (m.subject.bytes_withBytes new)

section
variable (hids : t.Keyed) (hsep : records.Pairwise (·.statement ≠ ·.statement))
  (hfits : ∀ r ∈ records, ∃ m, t.rows.get r.statement = some m ∧
    Fits scope old r m ∧ r.oldVersion = m.version ∧ r.chainRoot = m.chainRoot)
  (new)

include hids hsep hfits

lemma get_rows_moved (hr : r ∈ records) :
    ∃ m, t.rows.get r.statement = some m ∧ Fits scope old r m ∧ r.oldVersion = m.version ∧
      (t.followAll scope old new records).rows.get r.statement = some (m.repointed new r) := by
  obtain ⟨m, hm, hfit, hver, -⟩ := hfits r hr
  refine ⟨m, hm, hfit, hver, ?_⟩
  rw [get_rows_followAll hids hsep hr, hm]
  rfl

lemma chain_returned : ((t.followAll scope old new records).followAll scope new old
      (records.map (·.reversed))).chain = shiftAll (newSlot scope) (oldSlot scope) (·.statement)
        (shiftAll (oldSlot scope) (newSlot scope) (·.statement) t.chain (records.filter movesSlot))
        (records.filter movesSlot) := by
  have hmoves : movesSlot ∘ StatementReroute.reversed = movesSlot := by
    funext r
    exact congrArg (r.subjectChanged && ·) (decide_eq_decide.mpr ne_comm)
  rw [chain_followAll hids.followAll, chain_followAll hids, List.filter_map, hmoves, shiftAll,
    foldl_map]
  · rfl
  · intro r hr
    obtain ⟨m, hm, -⟩ := hfits r hr
    exact ⟨m, hm⟩
  · intro r' hr'
    obtain ⟨r, hr, rfl⟩ := List.mem_map.mp hr'
    obtain ⟨m, -, -, -, hm⟩ := get_rows_moved new hids hsep hfits hr
    exact ⟨_, hm⟩

lemma rows_returned : ((t.followAll scope old new records).followAll scope new old
      (records.map (·.reversed))).rows = t.rows := by
  have hback : (records.map StatementReroute.reversed).Pairwise (·.statement ≠ ·.statement) :=
    pairwise_map.mpr hsep
  ext1 id
  by_cases hid : ∃ r ∈ records, r.statement = id
  · obtain ⟨r, hr, rfl⟩ := hid
    obtain ⟨m, hm, hfit, hver, hmoved⟩ := get_rows_moved new hids hsep hfits hr
    refine (get_rows_followAll hids.followAll hback (List.mem_map_of_mem hr)).trans ?_
    refine (congrArg (Option.map _) hmoved).trans ?_
    rw [hm, map_some, hfit.repointed_repointed hver]
  · rw [get_rows_followAll_other hids.followAll, get_rows_followAll_other hids]
    · exact fun r hr heq => hid ⟨r, hr, heq.symm⟩
    · intro r' hr' heq
      obtain ⟨r, hr, rfl⟩ := List.mem_map.mp hr'
      exact hid ⟨r, hr, heq.symm⟩

lemma indexed_returned (h : t.Indexed) :
    ((t.followAll scope old new records).followAll scope new old
      (records.map (·.reversed))).Indexed := by
  have hmoved : (t.followAll scope old new records).Indexed :=
    h.followAll hids hsep fun r hr m hm => by
      obtain ⟨m', hm', hfit, -⟩ := hfits r hr
      exact Option.some.inj (hm'.symm.trans hm) ▸ hfit
  refine hmoved.followAll hids.followAll (pairwise_map.mpr hsep) ?_
  intro r' hr' m hm
  obtain ⟨r, hr, rfl⟩ := List.mem_map.mp hr'
  obtain ⟨m', -, hfit, -, hm'⟩ := get_rows_moved new hids hsep hfits hr
  exact Option.some.inj (hm'.symm.trans hm) ▸ hfit.reversed
end

def unmoved (t : Statements) : Table ByPredicateKey StatementId ×
    Table ByPredicateIdKey Unit × Table ByEvidenceKey Unit ×
    Table EvidenceOverflowId (List EvidenceEntry) × Table StatementId Nanos :=
  (t.byPredicate, t.byPredicateId, t.byEvidence, t.overflow, t.embedQueue)

lemma unmoved_followAll : (t.followAll scope old new records).unmoved = t.unmoved := by
  refine List.foldlRecOn (motive := fun (acc : Statements) => acc.unmoved = t.unmoved) _ _ rfl ?_
  intro acc hacc r _
  refine Eq.trans ?_ hacc
  unfold follow
  split
  · rfl
  next m _ =>
    unfold carry repoint
    cases r.subjectChanged <;> cases r.objectChanged <;> rfl

lemma Indexed.eq_of_rows {t' : Statements} (h : t.Indexed) (h' : t'.Indexed)
    (hrows : t'.rows = t.rows) (hchain : t'.chain = t.chain) (hunmoved : t'.unmoved = t.unmoved) :
    t' = t := by
  have hsubj := (hrows ▸ h'.bySubject).unique h.bySubject
  have hsubjId := (hrows ▸ h'.bySubjectId).unique h.bySubjectId
  have hobj := (hrows ▸ h'.byObject).unique h.byObject
  have htime := (hrows ▸ h'.byEventTime).unique h.byEventTime
  cases t
  cases t'
  obtain ⟨rfl, rfl, rfl, rfl, rfl⟩ := hunmoved
  simp only at hrows hchain hsubj hsubjId hobj htime
  rw [hrows, hchain, hsubj, hsubjId, hobj, htime]

lemma Mirrored.returned_iff (h : t.Mirrored) (hids : t.Keyed) (scope : RowScope)
    (merged survivor : EntityId) : (t.reroute scope merged survivor).1.reverseReroutes scope
      (t.reroute scope merged survivor).2 merged survivor = t ↔ t.Returns scope merged := by
  have hsep : (t.reroutesOf scope merged).Pairwise (·.statement ≠ ·.statement) :=
    reroutesOf_statements hids merged
  have hfits := h.reroutesOf_fits hids scope merged
  have hchain := chain_returned survivor hids hsep hfits
  have hundone : shiftAll (newSlot scope) (oldSlot scope) (·.statement)
      (shiftAll (oldSlot scope) (newSlot scope) (·.statement) t.chain
        ((t.reroutesOf scope merged).filter movesSlot))
      ((t.reroutesOf scope merged).filter movesSlot) = t.chain ↔ t.Returns scope merged := by
    refine shiftAll_undone_iff ?_ ?_
    · intro r hr
      obtain ⟨m, hm, hfit, hver, hroot⟩ := hfits r (mem_filter.mp hr).1
      rw [oldSlot, hver, hroot, ← hfit.1]
      exact h.chain.get hm rfl
    · intro r hr heq
      have hmoves := (mem_filter.mp hr).2
      rw [movesSlot, Bool.and_eq_true, decide_eq_true_eq] at hmoves
      exact hmoves.2 (congrArg ChainKey.version heq).symm
  rw [h.reroute_eq hids, reverseReroutes_eq]
  constructor
  · intro heq
    refine hundone.mp (hchain.symm.trans ?_)
    rw [heq]
  · intro hreturns
    exact h.indexed.eq_of_rows (indexed_returned survivor hids hsep hfits h.indexed)
      (rows_returned survivor hids hsep hfits) (hchain.trans (hundone.mpr hreturns))
      (unmoved_followAll.trans unmoved_followAll)

end Statements

open Statements
variable {s m : EntityMetadata}

namespace PartIndex
variable {P K : Type} [LinearOrder K] {x : PartIndex P K} {rows : Table EntityId EntityMetadata}
  {index : Table K Unit}

lemma Exact.returned (h : x.Exact rows index) (hids : KeyedRows rows)
    (hs : rows.get s.id = some s) (hm : rows.get m.id = some m) (hmrg : Mergeable s m)
    (added : List P) (hadded : ∀ p ∈ added, p ∉ x.parts s.toEntity) :
    x.add (x.drop (x.add (x.drop index m.scope m.entityType m.id (x.parts m.toEntity))
      m.scope m.entityType s.id added) m.scope m.entityType s.id added) m.scope m.entityType m.id
      (x.parts m.toEntity) = index := by
  ext1 k
  simp only [add, drop, get_foldl_insert, get_foldl_remove]
  split
  next hk =>
    obtain ⟨p, hp, rfl⟩ := List.mem_map.mp hk
    exact (h.get hm ⟨hmrg.merged, p, hp, rfl⟩).symm
  · split
    next hk =>
      obtain ⟨p, hp, rfl⟩ := List.mem_map.mp hk
      refine (eq_none_iff_forall_ne_some.mpr fun _ hget => ?_).symm
      obtain ⟨j, n, hn, hhas, -⟩ := (h _ _).mp hget
      have hj : j = s.id := by
        rw [← hids j n hn, ← hhas.owner, x.owner_key]
      obtain rfl : s = n := by
        rw [hj, hs] at hn
        exact Option.some.inj hn
      obtain ⟨-, p', hp', heq⟩ := hhas
      exact hadded p hp ((x.key_inj heq).2 ▸ hp')
    · rfl

end PartIndex

section
variable [TextFolding] {now later : Nanos} {audit : MergeRecord}

omit [TextFolding] in
lemma undated_restoredRow (hinto : m.mergedInto = none) (hflag : m.merged = false) :
    (restoredRow (mergedRow s m now) later).undated = m.undated := by
  change { m with mergedInto := none, merged := false, updatedAt := 0 } = m.undated
  rw [← hinto, ← hflag]
  rfl

structure MergeRecord.Tells (audit : MergeRecord) (s m : EntityMetadata) : Prop where
  aliases : audit.aliasesAdded = newAliases s (m.canonicalName :: m.aliases)
  trigrams : audit.trigramsAdded = newTrigrams s m
  mentions : audit.mentionCountAdded = m.mentionCount
  attributes : audit.survivorAttributesBefore = s.attributes

lemma MergeRecord.Tells.alias_new (h : audit.Tells s m) {a : String} (ha : a ∈ audit.aliasesAdded) :
    normalizeName a ∉ (s.canonicalName :: s.aliases).map normalizeName := by
  rw [h.aliases] at ha
  exact ((newAliases_spec s _).1 a ha).2

lemma undated_strippedRow (h : audit.Tells s m) (hroom : s.mentionCount + m.mentionCount ≤ u32Max) :
    (strippedRow (survivorRow s m audit.aliasesAdded now) audit later).undated = s.undated := by
  have hkept : (s.aliases ++ audit.aliasesAdded).filter
      (fun a => normalizeName a ∉ audit.aliasesAdded.map normalizeName) = s.aliases := by
    have hself : s.aliases.filter
        (fun a => normalizeName a ∉ audit.aliasesAdded.map normalizeName) = s.aliases := by
      refine filter_eq_self.mpr fun a ha => decide_eq_true fun hmem => ?_
      obtain ⟨b, hb, heq⟩ := List.mem_map.mp hmem
      refine h.alias_new hb ?_
      rw [heq]
      exact List.mem_map_of_mem (mem_cons_of_mem _ ha)
    have hnone : audit.aliasesAdded.filter
        (fun a => normalizeName a ∉ audit.aliasesAdded.map normalizeName) = [] := by
      refine filter_eq_nil_iff.mpr fun a ha => ?_
      simpa using ⟨a, ha, rfl⟩
    rw [filter_append, hself, hnone, append_nil]
  have hcnt : saturatingAdd u32Max s.mentionCount m.mentionCount - m.mentionCount =
      s.mentionCount := by
    rw [saturatingAdd, Nat.min_eq_left hroom, Nat.add_sub_cancel]
  change { s with
    aliases := (s.aliases ++ audit.aliasesAdded).filter
      (fun a => normalizeName a ∉ audit.aliasesAdded.map normalizeName)
    mentionCount := saturatingAdd u32Max s.mentionCount m.mentionCount - audit.mentionCountAdded
    attributes := audit.survivorAttributesBefore
    updatedAt := 0 } = s.undated
  rw [hkept, h.mentions, hcnt, h.attributes]
  rfl

def Entities.undated (t : Entities) : Entities :=
  { t with entities := t.entities.mapValues EntityMetadata.undated }

variable (now later) in
lemma Entities.NamesExact.unmerge_merge {t : Entities} (hnames : t.NamesExact) (hids : t.Keyed)
    (hs : t.entities.get s.id = some s) (hm : t.entities.get m.id = some m)
    (hmrg : Mergeable s m) (hflag : m.merged = false) (haudit : audit.Tells s m)
    (hroom : s.mentionCount + m.mentionCount ≤ u32Max) :
    ((t.merge s.id m.id s m audit.aliasesAdded audit.trigramsAdded now).unmerge s.id m.id
      (survivorRow s m audit.aliasesAdded now) (mergedRow s m now) audit later).undated =
      t.undated := by
  have hrows : ((((t.entities.insert s.id (survivorRow s m audit.aliasesAdded now)).insert m.id
      (mergedRow s m now)).insert s.id (strippedRow (survivorRow s m audit.aliasesAdded now) audit
        later)).insert m.id (restoredRow (mergedRow s m now) later)).mapValues
          EntityMetadata.undated = t.entities.mapValues EntityMetadata.undated := by
    have hinto := (isLive_iff.mp hmrg.merged).2
    simp only [mapValues_insert, undated_strippedRow haudit hroom, undated_restoredRow hinto hflag]
    ext1 k
    simp only [get_insert, get_mapValues]
    by_cases hk : k = m.id
    · rw [if_pos hk, hk, hm]
      rfl
    · by_cases hk' : k = s.id
      · rw [if_neg hk, if_pos hk', hk', hs]
        rfl
      · simp only [hk, hk', if_false]
  have hcanonical : (t.byCanonicalName.remove (nameKey m)).insert (nameKey m) m.id =
      t.byCanonicalName := by
    have hget := hnames.names.get hm (liveName_of_live hmrg.merged)
    ext1 k
    rw [get_insert, get_remove]
    split
    next hk => rw [hk, hget]; rfl
    · rfl
  have halias := hnames.aliases.returned hids hs hm hmrg
    (audit.aliasesAdded.map normalizeName) fun p hp hhad => by
      obtain ⟨a, ha, rfl⟩ := List.mem_map.mp hp
      exact haudit.alias_new ha (mem_cons_of_mem _ hhad)
  have htrigram := hnames.trigrams.returned hids hs hm hmrg audit.trigramsAdded
    fun p hp hhad => by
      rw [haudit.trigrams, newTrigrams, mem_dedup, mem_filter, decide_eq_true_eq] at hp
      dsimp only [trigramParts] at hhad
      exact hp.2 hhad
  rw [parts_trigrams, ← removeTrigrams_eq, ← indexTrigrams_eq, ← removeTrigrams_eq,
    ← indexTrigrams_eq] at htrigram
  rw [undated, undated, mk.injEq]
  refine ⟨hrows, hcanonical, ?_, ?_, rfl⟩
  · simp only [unmerge, merge, survivorRow, mergedRow, hmrg.scope,
      hmrg.entityType]
    exact halias
  · simpa only [unmerge, merge, survivorRow, mergedRow, hmrg.scope,
      hmrg.entityType] using htrigram
end

namespace Graph
section
variable [TextFolding]

structure Coherent (g : Graph) : Prop where
  keyed : g.entities.Keyed
  flagged : ∀ id m, g.entities.entities.get id = some m → m.merged = m.mergedInto.isSome
  names : g.entities.NamesExact
  statementsKeyed : g.statements.Keyed
  statements : g.statements.Mirrored
  edges : ∀ id m, g.relations.rows.get id = some m → g.edges.HasEdges m id
  audits : ∀ e ∈ g.mergeLog.entries, e.2.isUnmerged = false → e.2.finalized = false →
    ∀ m ∈ g.entities.entities.get e.2.merged, m.mergedInto ≠ none

def unaudited (g : Graph) : Graph := { g with mergeLog := .empty }.undated

variable (g : Graph) (mint : MergeId) (s m : EntityMetadata) (confidence : UInt32)
  (reason : String) (actor actor' : MergeActor) (grace : Nat) (now later : Nanos)

def auditOf : MergeRecord :=
  let reroutedStatements := (g.statements.reroute s.scope m.id s.id).2
  let reroutedRelations := (g.affected s.scope m.id).map (rerouteOf m.id s.id)
  { mergeId := mint, survivor := s.id, merged := m.id, mergedAt := now
    gracePeriodUntil := saturatingAdd u64Max now (min (grace * 1000000000) u64Max)
    confidence, reason, actor, aliasesAdded := newAliases s (m.canonicalName :: m.aliases)
    trigramsAdded := newTrigrams s m
    attributeConflicts := attributeConflicts s.attributes m.attributes
    statementsRerouted := min reroutedStatements.length u32Max
    relationsRerouted := min reroutedRelations.length u32Max
    mentionCountAdded := m.mentionCount, reroutedStatements, reroutedRelations
    survivorAttributesBefore := s.attributes, finalized := false, unmergedAt := 0
    unmergedBy := .system }

lemma tells_auditOf : (g.auditOf mint s m confidence reason actor grace now).Tells s m := by
  constructor <;> rw [auditOf]

lemma merged_eq :
    let audit := g.auditOf mint s m confidence reason actor grace now
    g.merged mint s.id m.id s m confidence reason actor grace now = withLinks { g with
        statements := (g.statements.reroute s.scope m.id s.id).1
        entities := g.entities.merge s.id m.id s m audit.aliasesAdded audit.trigramsAdded now
        mergeLog := g.mergeLog.insert ⟨now, mint⟩ audit }
      ((g.affected s.scope m.id).foldl (Links.away m.id s.id now) (g.edges, g.relations.rows)) := by
  unfold Graph.merged auditOf
  simp only [rerouteRelations_eq, withLinks]
  rfl

def parted : Graph :=
  let audit := g.auditOf mint s m confidence reason actor grace now
  let rerouted := g.statements.reroute m.scope m.id s.id
  { g with
    statements := rerouted.1.reverseReroutes m.scope rerouted.2 m.id s.id
    entities := (g.entities.merge s.id m.id s m audit.aliasesAdded audit.trigramsAdded now).unmerge
      s.id m.id (survivorRow s m audit.aliasesAdded now) (mergedRow s m now) audit later
    mergeLog := (g.mergeLog.insert ⟨now, mint⟩ audit).insert ⟨now, mint⟩
      { audit with unmergedAt := later, unmergedBy := actor', finalized := true } }

variable {g s m} (hg : g.Coherent)

omit [TextFolding] in
lemma find?_of_sole {A : Type} {l : List A} {p : A → Bool} {e : A} (he : e ∈ l)
    (hp : p e = true) (hsole : ∀ e' ∈ l, p e' = true → e' = e) : l.find? p = some e := by
  cases hfind : l.find? p with
  | none => exact absurd hp (List.find?_eq_none.mp hfind e he)
  | some e' =>
    rw [hsole e' (mem_of_find?_eq_some hfind) (List.find?_some hfind)]

include hg

lemma Coherent.findActiveAudit_merged (hm : g.entities.entities.get m.id = some m)
    (hinto : m.mergedInto = none) :
    (g.merged mint s.id m.id s m confidence reason actor grace now).findActiveAudit m.id =
      some (⟨now, mint⟩, g.auditOf mint s m confidence reason actor grace now) := by
  rw [merged_eq, findActiveAudit]
  refine find?_of_sole ((mem_entries_iff _).mpr (get_insert_self _ _ _)) ?_ ?_
  · simp [auditOf, MergeRecord.isUnmerged]
  · rintro ⟨key, audit⟩ he hact
    have hget := (mem_entries_iff _).mp he
    rw [withLinks, get_insert] at hget
    split at hget
    next hkey => rw [hkey, ← Option.some.inj hget]
    · simp only [Bool.and_eq_true, decide_eq_true_eq, Bool.not_eq_true'] at hact
      obtain ⟨⟨hmerged, hunmerged⟩, hfinal⟩ := hact
      refine absurd hinto (hg.audits (key, audit) (g.mergeLog.mem_entries_iff.mpr hget) hunmerged
        hfinal m ?_)
      simp only [hmerged, hm, mem_def]

lemma Coherent.unmerged_merged (hsc : s.scope = m.scope) :
    let audit := g.auditOf mint s m confidence reason actor grace now
    (g.merged mint s.id m.id s m confidence reason actor grace now).unmerged s.id m.id
      (survivorRow s m audit.aliasesAdded now) (mergedRow s m now) ⟨now, mint⟩ audit actor' later =
      g.parted mint s m confidence reason actor actor' grace now later := by
  intro audit
  have hrels : audit.reroutedRelations =
      (g.affected m.scope m.id).map (rerouteOf m.id s.id) := by
    rw [← hsc]
    rfl
  have hstmts : audit.reroutedStatements = (g.statements.reroute m.scope m.id s.id).2 := by
    rw [← hsc]
    rfl
  have hback := reverseRelationReroutes_eq
    { g with
      statements := (g.statements.reroute m.scope m.id s.id).1.reverseReroutes m.scope
        (g.statements.reroute m.scope m.id s.id).2 m.id s.id
      entities := g.entities.merge s.id m.id s m audit.aliasesAdded audit.trigramsAdded now
      mergeLog := g.mergeLog.insert ⟨now, mint⟩ audit }
    m.id s.id later ((g.affected m.scope m.id).foldl (Links.away m.id s.id now)
      (g.edges, g.relations.rows)) (g.affected m.scope m.id)
  rw [links_returned hg.edges] at hback
  rw [parted, merged_eq, Graph.unmerged, hrels, hstmts, hsc]
  simp only [withLinks, mergedRow] at hback ⊢
  rw [hback]

variable {g' : Graph} {s' : EntityMetadata}

/-- Taking the merge back, whatever was done to the survivor and to other rows since. -/
lemma Coherent.unmergeEntity_later (hm : g.entities.entities.get m.id = some m)
    (hinto : m.mergedInto = none) (hlog : g'.mergeLog =
      (g.merged mint s.id m.id s m confidence reason actor grace now).mergeLog)
    (hm' : g'.entities.entities.get m.id = some (mergedRow s m now))
    (hs' : g'.entities.entities.get s.id = some s')
    (hgrace : later ≤ saturatingAdd u64Max now (min (grace * 1000000000) u64Max)) :
    g'.unmergeEntity m.id actor' later = .ok (g'.unmerged s.id m.id s' (mergedRow s m now)
      ⟨now, mint⟩ (g.auditOf mint s m confidence reason actor grace now) actor' later) := by
  have haudit := hg.findActiveAudit_merged mint (s := s) confidence reason actor grace now hm hinto
  rw [findActiveAudit, ← hlog] at haudit
  simp only [unmergeEntity, hm', mergedRow, hs', findActiveAudit, haudit]
  exact if_neg (Nat.not_lt.mpr hgrace)

lemma Coherent.unmergeEntity_merged (hne : s.id ≠ m.id)
    (hm : g.entities.entities.get m.id = some m) (hinto : m.mergedInto = none)
    (hsc : s.scope = m.scope)
    (hgrace : later ≤ saturatingAdd u64Max now (min (grace * 1000000000) u64Max)) :
    (g.merged mint s.id m.id s m confidence reason actor grace now).unmergeEntity m.id actor'
      later = .ok (g.parted mint s m confidence reason actor actor' grace now later) := by
  rw [← hg.unmerged_merged mint confidence reason actor actor' grace now later hsc]
  refine hg.unmergeEntity_later mint confidence reason actor actor' grace now later hm hinto rfl
    ?_ ?_ hgrace
  · rw [entities_merged]
    exact get_insert_self ..
  · rw [entities_merged]
    exact (get_insert_ne _ _ hne).trans (get_insert_self ..)

omit hg in
lemma mergeEntity_of_mergeable (hne : s.id ≠ m.id) (hs : g.entities.entities.get s.id = some s)
    (hm : g.entities.entities.get m.id = some m) (hmrg : Mergeable s m)
    (hconf : mergeConfidence confidence = true) :
    g.mergeEntity mint s.id m.id confidence reason actor grace now =
      .ok (g.merged mint s.id m.id s m confidence reason actor grace now) := by
  obtain ⟨hsTomb, hsInto⟩ := isLive_iff.mp hmrg.survivor
  obtain ⟨hmTomb, hmInto⟩ := isLive_iff.mp hmrg.merged
  have hok : mergeable s.id m.id s m = .ok () := by
    simp [mergeable, hsTomb, hsInto, hmTomb, hmInto, hmrg.scope, hmrg.entityType]
  simp only [mergeEntity, if_neg hne, hconf, hs, hm, hok]
  rfl

/-- A merge that is taken back at once leaves the graph as it was, but for the audit row and the times
of the last updates, exactly if no entry of a chain was overwritten for good. -/
theorem unmerge_restores_iff {survivor merged : EntityId} (hne : survivor ≠ merged)
    (hs : g.entities.entities.get survivor = some s)
    (hm : g.entities.entities.get merged = some m) (hmrg : Mergeable s m)
    (hconf : mergeConfidence confidence = true) (hroom : s.mentionCount + m.mentionCount ≤ u32Max)
    (hgrace : later ≤ saturatingAdd u64Max now (min (grace * 1000000000) u64Max)) :
    (∃ g₁ g₂, g.mergeEntity mint survivor merged confidence reason actor grace now = .ok g₁ ∧
      g₁.unmergeEntity merged actor' later = .ok g₂ ∧ g₂.unaudited = g.unaudited) ↔
      g.statements.Returns m.scope merged := by
  obtain rfl : s.id = survivor := hg.keyed survivor s hs
  obtain rfl : m.id = merged := hg.keyed merged m hm
  have hinto := (isLive_iff.mp hmrg.merged).2
  have hflag : m.merged = false := by
    rw [hg.flagged m.id m hm, hinto]
    rfl
  have hmerge := mergeEntity_of_mergeable mint confidence reason actor grace now hne hs hm
    hmrg hconf
  have hunmerge := hg.unmergeEntity_merged mint confidence reason actor actor' grace now later
    hne hm hinto hmrg.scope hgrace
  rw [← hg.statements.returned_iff hg.statementsKeyed m.scope m.id s.id]
  constructor
  · rintro ⟨g₁, g₂, hg₁, hg₂, hsame⟩
    obtain rfl := Except.ok.inj (hmerge.symm.trans hg₁)
    obtain rfl := Except.ok.inj (hunmerge.symm.trans hg₂)
    exact congrArg Graph.statements hsame
  · intro hsame
    refine ⟨_, _, hmerge, hunmerge, ?_⟩
    have hents := hg.names.unmerge_merge now later hg.keyed hs hm hmrg hflag
      (g.tells_auditOf mint s m confidence reason actor grace now) hroom
    unfold parted unaudited Graph.undated
    simp only [hsame]
    exact congrArg (fun t => ({ g with entities := t, mergeLog := .empty } : Graph)) hents
end

attribute [local instance] asciiFolding flatConfidence

def persons : List EntityCall := [enters 1 "ann" 10, enters 2 "bea" 20]

variable (version : Nat)

def residences : List GraphWrite :=
  [named 1 "ann", named 2 "bea", .create ⟨1, 1⟩ 0 { residence 1 7 10 with version } 10,
    settles 2 8 20]

def knows : RelationMetadata :=
  metadataFromRelation ⟨1, 1⟩ 0 (.newRoot 9 4 1 2 0x3F666666 [7] 0 10 true)

def couple : Graph :=
  { persons.foldl callStep directory with
    statements := ((residences version).foldl step town).statements
    relations := RelationTables.empty.insertRow 9 knows
    edges := Edges.empty.linkRelation (.entity 1) (.entity 2) 4 9 true (relationEdgeData 10) }

lemma persons_tidy : (persons.foldl callStep directory).entities.Tidy := by
  have hcalls : Run.EachStep callStep KeepsNames directory persons := by decide +kernel
  exact (hcalls.always (I := fun g => g.entities.Tidy) (fun _ _ hg hc => tidy_callStep hg hc)
    tidy_empty).last

lemma couple_coherent {version : Nat}
    (hwrites : Run.EachStep step KeepsMirror town (residences version)) :
    (couple version).Coherent := by
  have htidy := persons_tidy
  have hsnd : ((residences version).foldl step town).Sound :=
    (hwrites.always (fun _ _ hg hw => hg.step hw) (sound_empty _)).last
  have hflags : ∀ e ∈ (persons.foldl callStep directory).entities.entities.entries,
      e.2.merged = e.2.mergedInto.isSome := by decide +kernel
  have hlog : (persons.foldl callStep directory).mergeLog.entries = [] := by decide +kernel
  refine ⟨htidy.keyed, ?_, htidy.namesExact, hsnd.statements.keyed, hsnd.statements.mirrored,
    ?_, ?_⟩
  · intro id m hm
    exact hflags _ ((mem_entries_iff _).mpr hm)
  · intro id m hm
    change (RelationTables.empty.insertRow 9 knows).rows.get id = some m at hm
    rw [RelationTables.insertRow, get_insert] at hm
    split at hm
    next hid =>
      obtain rfl := Option.some.inj hm
      subst hid
      refine ⟨1, 2, relationEdgeData 10, rfl, rfl, fun k _ _ => ?_⟩
      exact Edges.pairAt_linkRelation Edges.empty 4 true 9 1 2 (relationEdgeData 10) k
    · cases hm
  · intro e he
    change e ∈ (persons.foldl callStep directory).mergeLog.entries at he
    cases he

theorem couple_restored : ∃ g₁ g₂,
    (couple 1).mergeEntity 5 2 1 0x3F800000 "" .system 60 30 = .ok g₁ ∧
      g₁.unmergeEntity 1 .system 40 = .ok g₂ ∧ g₂.unaudited = (couple 1).unaudited :=
  (unmerge_restores_iff 5 0x3F800000 "" .system .system 60 30 40
    (couple_coherent (by decide +kernel)) (by decide) rfl rfl
    (by constructor <;> decide +kernel) (by decide)
    (by decide +kernel) (by decide)).mpr (by decide +kernel)

/-- The second residence has the greatest version, so the first one is moved to it: when the merge is
taken back, the chain has lost the second. -/
theorem couple_chain_lost : (couple (u32Max - 1)).Coherent ∧ ¬ ∃ g₁ g₂,
    (couple (u32Max - 1)).mergeEntity 5 2 1 0x3F800000 "" .system 60 30 = .ok g₁ ∧
      g₁.unmergeEntity 1 .system 40 = .ok g₂ ∧ g₂.unaudited = (couple (u32Max - 1)).unaudited := by
  refine ⟨couple_coherent (by decide +kernel), ?_⟩
  rintro ⟨g₁, g₂, h₁, h₂, hsame⟩
  have hbef : (couple (u32Max - 1)).statements.chain.get ⟨⟨1, 1⟩, 1, u32Max⟩ = some 2 := by
    decide +kernel
  have hlost : (((couple (u32Max - 1)).mergeEntity 5 2 1 0x3F800000 "" .system 60 30).toOption.bind
      fun g => (g.unmergeEntity 1 .system 40).toOption.map
        fun g => g.statements.chain.get ⟨⟨1, 1⟩, 1, u32Max⟩) = some none := by decide +kernel
  rw [h₁] at hlost
  simp only [Except.toOption, bind_some, h₂, map_some, Option.some.injEq] at hlost
  have hchain : g₂.statements.chain = (couple (u32Max - 1)).statements.chain :=
    congrArg (fun g => g.statements.chain) hsame
  rw [hchain, hbef] at hlost
  cases hlost

end Graph
end BrainDb
