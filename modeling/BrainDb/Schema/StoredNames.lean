import BrainDb.Base.Run
import BrainDb.Schema.References
import BrainDb.Schema.Upsert

namespace BrainDb.Schema
open Table ExceptLemmas Vocabulary

structure TypedGraph where
  catalog : Catalog
  (statements relations : References)

open TypedGraph

inductive TypeOp where
  | upload (caller : String) (now : Nanos) (req : UploadRequest)
  | replace (caller : String) (now : Nanos) (req : ReplaceRequest)
  | drop (caller : String) (callerId : NamespaceId) (now : Nanos) (req : DropRequest)
  | coinPredicate (q : QName) (firstSeenLsn : Nat) (now : Nanos)
  | coinRelationType (q : QName) (firstSeenLsn : Nat) (now : Nanos)
  | extractPredicate (q : QName) (near : Option Nat) (now : Nanos)
  | reclaimPredicates (now : Nanos) (grace limit : Nat)
  | writeStatement (id : Nat) (ns : NamespaceId) (predicate : Nat)
  | writeRelation (id : Nat) (ns : NamespaceId) (relationType : Nat)
  | retireStatement (id : Nat)
  | retireRelation (id : Nat)
  | purgeStatement (id : Nat)
  | purgeRelation (id : Nat)

def References.write {C : Type} (refs : References) (v : Vocabulary C) (id : Nat)
    (ns : NamespaceId) (typeId : Nat) : References :=
  match refs.get id, v.rows.get typeId with
  | none, some row =>
    refs.insert id { typeId, namespaceId := ns, listed := true, writtenAs := row.qname }
  | _, _ => refs

def References.retire (refs : References) (id : Nat) : References :=
  match refs.get id with
  | some r => refs.insert id { r with listed := false }
  | none => refs

def TypedGraph.inUse (g : TypedGraph) (callerId : NamespaceId) (nspace : String) :
    DropTarget → Bool
  | .predicate name =>
    (g.catalog.predicates.byQname.get ⟨nspace, name⟩).any (g.statements.liveIn callerId)
  | .relationType name =>
    (g.catalog.relationTypes.byQname.get ⟨nspace, name⟩).any (g.relations.liveIn callerId)

section
variable [Unicode]

def TypeOp.preflight (g : TypedGraph) : TypeOp → Option Preflight
  | .upload caller now req => some (handleSchemaUpload g.catalog caller now req)
  | .replace caller now req => some (handleSchemaReplace g.catalog caller now req)
  | .drop caller callerId now req =>
    some (handleSchemaDrop g.catalog caller now (g.inUse callerId req.nspace req.target) req)
  | _ => none

def afterPreflight (c : Catalog) : Preflight → Catalog
  | .submit phase => ((applyUpsertSchema c phase).toOption.map Prod.snd).getD c
  | .invalid _ | .refused _ | .answered _ => c

def afterVocabulary {C : Type} (v : Vocabulary C) :
    Except VocabularyError (Nat × Vocabulary C) → Vocabulary C
  | .ok (_, v') => v'
  | .error _ => v

def TypeOp.step (g : TypedGraph) (op : TypeOp) : TypedGraph :=
  match op with
  | .upload .. | .replace .. | .drop .. =>
    { g with catalog := (op.preflight g).elim g.catalog (afterPreflight g.catalog) }
  | .coinPredicate q lsn now =>
    let v := g.catalog.predicates
    { g with catalog := { g.catalog with
        predicates := afterVocabulary v (predicateInternOrGet v q lsn now) } }
  | .coinRelationType q lsn now =>
    let v := g.catalog.relationTypes
    { g with catalog := { g.catalog with
        relationTypes := afterVocabulary v (relationTypeInternOrGet v q lsn now) } }
  | .extractPredicate q near now =>
    let v := g.catalog.predicates
    { g with catalog := { g.catalog with
        predicates := afterVocabulary v (resolveOrInternPredicate v q near now) } }
  | .reclaimPredicates now grace limit =>
    let v := g.catalog.predicates
    { g with catalog := { g.catalog with
        predicates := v.reclaimOrphans g.statements.anyLive now grace limit } }
  | .writeStatement id ns predicate =>
    { g with statements := g.statements.write g.catalog.predicates id ns predicate }
  | .writeRelation id ns relationType =>
    { g with relations := g.relations.write g.catalog.relationTypes id ns relationType }
  | .retireStatement id => { g with statements := g.statements.retire id }
  | .retireRelation id => { g with relations := g.relations.retire id }
  | .purgeStatement id => { g with statements := g.statements.remove id }
  | .purgeRelation id => { g with relations := g.relations.remove id }

structure TypedGraph.NamesKept (g : TypedGraph) : Prop where
  statements : g.catalog.predicates.Kept g.statements
  relations : g.catalog.relationTypes.Kept g.relations

instance (g : TypedGraph) : Decidable g.NamesKept :=
  decidable_of_iff
    (g.catalog.predicates.Kept g.statements ∧ g.catalog.relationTypes.Kept g.relations)
    ⟨fun h => ⟨h.1, h.2⟩, fun h => ⟨h.1, h.2⟩⟩

def ItemKeeps (g : TypedGraph) (nspace : String) (ns : NamespaceId) (version : Nat) :
    SchemaItem → Prop
  | .predicate p => InternKeeps g.statements g.catalog.predicates ⟨nspace, p.name⟩
      (predicateConstraints g.catalog.entityTypes ns p) version
  | .relationType r => InternKeeps g.relations g.catalog.relationTypes ⟨nspace, r.name⟩
      (relationConstraints g.catalog.entityTypes ns r) version
  | .entityType _ | .extractor _ | .kind _ => True

def ItemsKeep (nspace : String) (ns : NamespaceId) (version : Nat) (now : Nanos) :
    TypedGraph → List SchemaItem → Prop
  | _, [] => True
  | g, item :: items =>
    ItemKeeps g nspace ns version item ∧
      match applyItem nspace ns version now g.catalog item with
      | .ok catalog => ItemsKeep nspace ns version now { g with catalog } items
      | .error _ => True

def PhaseKeeps (g : TypedGraph) (p : UpsertSchema) : Prop :=
  ∀ n c₁ version ns namespaces,
    applySchemaDelta g.catalog p.document.nspace p.replaceAll p.drops = .ok (n, c₁) →
    nextVersion c₁ p.document.nspace = .ok version →
    c₁.namespaces.internOrGet p.document.nspace = .ok (ns, namespaces) →
    ItemsKeep p.document.nspace ns version p.createdAt
      { g with catalog :=
          { recordVersion c₁ p.document version p.createdAt p.mode with namespaces } }
      p.document.items

def CoinKeeps {C : Type} (refs : References) (v : Vocabulary C) (q : QName) : Prop :=
  v.byQname.get q = none → refs.WrittenAs (v.rows.maxKey + 1) q

def StepKeeps (g : TypedGraph) (op : TypeOp) : Prop :=
  match op with
  | .upload .. | .replace .. | .drop .. =>
    ∀ phase, op.preflight g = some (.submit phase) →
      (∃ r, applyUpsertSchema g.catalog phase = .ok r) → PhaseKeeps g phase
  | .coinPredicate q lsn now =>
    (∃ r, predicateInternOrGet g.catalog.predicates q lsn now = .ok r) →
      CoinKeeps g.statements g.catalog.predicates q
  | .coinRelationType q lsn now =>
    (∃ r, relationTypeInternOrGet g.catalog.relationTypes q lsn now = .ok r) →
      CoinKeeps g.relations g.catalog.relationTypes q
  | .extractPredicate q near now =>
    (∃ r, resolveOrInternPredicate g.catalog.predicates q near now = .ok r) →
      synonym g.catalog.predicates q near = none → CoinKeeps g.statements g.catalog.predicates q
  | .reclaimPredicates .. | .writeStatement .. | .writeRelation .. | .retireStatement _
  | .retireRelation _ | .purgeStatement _ | .purgeRelation _ => True

section
variable {nspace : String} {ns : NamespaceId} {version : Nat} {now : Nanos} {g : TypedGraph}
  {c' : Catalog}

lemma applyItem_kept_iff {item : SchemaItem} (hkept : g.NamesKept)
    (h : applyItem nspace ns version now g.catalog item = .ok c') :
    NamesKept { g with catalog := c' } ↔ ItemKeeps g nspace ns version item := by
  cases item with
  | predicate p =>
    obtain ⟨⟨id, predicates⟩, hint, hend⟩ := bind_ok h
    cases hend
    obtain ⟨_, _, hrest⟩ := bind_ok (withError_ok hint)
    have hiff := kept_intern_iff hkept.statements hrest
    exact ⟨fun h' => hiff.mp h'.statements, fun h' => ⟨hiff.mpr h', hkept.relations⟩⟩
  | relationType r =>
    obtain ⟨⟨id, relationTypes⟩, hint, hend⟩ := bind_ok h
    cases hend
    obtain ⟨_, _, hrest⟩ := bind_ok (withError_ok hint)
    have hiff := kept_intern_iff hkept.relations hrest
    exact ⟨fun h' => hiff.mp h'.relations, fun h' => ⟨hkept.statements, hiff.mpr h'⟩⟩
  | _ =>
    obtain ⟨_, _, hend⟩ := bind_ok h
    cases hend
    exact ⟨fun _ => trivial, fun _ => ⟨hkept.statements, hkept.relations⟩⟩

variable {items : List SchemaItem}

lemma itemKeeps_of_kept {item : SchemaItem} {c₁ : Catalog}
    (h : applyItem nspace ns version now g.catalog item = .ok c₁)
    (hrest : applyItems nspace ns version now c₁ items = .ok c')
    (hkept : NamesKept { g with catalog := c' }) :
    ItemKeeps g nspace ns version item := by
  cases item with
  | predicate p =>
    obtain ⟨⟨id, predicates⟩, hint, hend⟩ := bind_ok h
    cases hend
    obtain ⟨_, _, hone⟩ := bind_ok (withError_ok hint)
    exact internKeeps_of_kept hone (applyItems_predicates hrest).1 hkept.statements
  | relationType r =>
    obtain ⟨⟨id, relationTypes⟩, hint, hend⟩ := bind_ok h
    cases hend
    obtain ⟨_, _, hone⟩ := bind_ok (withError_ok hint)
    exact internKeeps_of_kept hone (applyItems_relationTypes hrest) hkept.relations
  | _ => trivial

lemma applyItems_kept_iff (hkept : g.NamesKept)
    (h : applyItems nspace ns version now g.catalog items = .ok c') :
    NamesKept { g with catalog := c' } ↔ ItemsKeep nspace ns version now g items := by
  induction items generalizing g with
  | nil =>
    cases h
    exact iff_of_true hkept trivial
  | cons item items ih =>
    obtain ⟨c₁, hone, hrest⟩ := bind_ok h
    have hiff := applyItem_kept_iff hkept hone
    simp only [ItemsKeep, hone]
    constructor
    · intro h'
      have hitem := itemKeeps_of_kept hone hrest h'
      exact ⟨hitem, (@ih { g with catalog := c₁ } (hiff.mpr hitem) hrest).mp h'⟩
    · intro h'
      exact (@ih { g with catalog := c₁ } (hiff.mpr h'.1) hrest).mpr h'.2
end

variable {g : TypedGraph}

lemma dropTargets_kept {nspace : String} {drops : List DropTarget} {n m : Nat} {c' : Catalog}
    (hkept : g.NamesKept) (h : dropTargets nspace (n, g.catalog) drops = .ok (m, c')) :
    NamesKept { g with catalog := c' } := by
  induction drops generalizing g n with
  | nil =>
    cases h
    exact hkept
  | cons target drops ih =>
    obtain ⟨⟨k, c₁⟩, hone, hrest⟩ := bind_ok h
    refine @ih { g with catalog := c₁ } (n + k) ?_ hrest
    cases target with
    | predicate name =>
      obtain ⟨_, _, hend⟩ := bind_ok hone
      cases hend
      exact ⟨hkept.statements.dropOne _, hkept.relations⟩
    | relationType name =>
      obtain ⟨_, _, hend⟩ := bind_ok hone
      cases hend
      exact ⟨hkept.statements, hkept.relations.dropOne _⟩

lemma applySchemaDelta_kept {nspace : String} {replaceAll : Bool} {drops : List DropTarget}
    {n : Nat} {c' : Catalog} (hkept : g.NamesKept)
    (h : applySchemaDelta g.catalog nspace replaceAll drops = .ok (n, c')) :
    NamesKept { g with catalog := c' } := by
  cases replaceAll with
  | false => exact dropTargets_kept hkept h
  | true =>
    obtain ⟨⟨k, c₁⟩, hall, hrest⟩ := bind_ok (x := dropAll g.catalog nspace) h
    refine @dropTargets_kept _ { g with catalog := c₁ } nspace drops k n c' ?_ hrest
    obtain ⟨_, _, hall⟩ := bind_ok hall
    obtain ⟨_, _, hall⟩ := bind_ok hall
    obtain ⟨_, _, hall⟩ := bind_ok hall
    cases hall
    exact ⟨hkept.statements.dropRows _, hkept.relations.dropRows _⟩

lemma applyUpsertSchema_kept_iff {p : UpsertSchema} {ack : UpsertedSchema} {c' : Catalog}
    (hkept : g.NamesKept) (h : applyUpsertSchema g.catalog p = .ok (ack, c')) :
    NamesKept { g with catalog := c' } ↔ PhaseKeeps g p := by
  unfold applyUpsertSchema at h
  simp only at h
  split at h
  · cases h
  · obtain ⟨⟨n, c₁⟩, hdelta, hrest⟩ := bind_ok h
    obtain ⟨⟨version, c₂⟩, hupload, hend⟩ := bind_ok hrest
    cases hend
    obtain ⟨v, hnext, hrest⟩ := bind_ok hupload
    obtain ⟨c₂, happ, hend⟩ := bind_ok hrest
    cases hend
    obtain ⟨⟨ns, namespaces⟩, hns, hitems⟩ := bind_ok happ
    have hdropped := applySchemaDelta_kept hkept hdelta
    have hiff := @applyItems_kept_iff _ _ _ _ _
      { g with catalog :=
          { recordVersion c₁ p.document version p.createdAt p.mode with namespaces } }
      c₂ p.document.items ⟨hdropped.statements, hdropped.relations⟩ hitems
    rw [hiff]
    constructor
    · intro hkeeps n' c₁' version' ns' namespaces' hdelta' hnext' hns'
      rw [hdelta] at hdelta'
      cases hdelta'
      rw [hnext] at hnext'
      cases hnext'
      have heq := hns.symm.trans hns'
      cases heq
      exact hkeeps
    · intro hkeeps
      exact hkeeps n c₁ version ns namespaces hdelta hnext hns

lemma afterPreflight_kept_iff (hkept : g.NamesKept) (pre : Preflight) :
    NamesKept { g with catalog := afterPreflight g.catalog pre } ↔
      ∀ phase, pre = .submit phase → (∃ r, applyUpsertSchema g.catalog phase = .ok r) →
        PhaseKeeps g phase := by
  cases pre with
  | submit phase =>
    simp only [afterPreflight]
    cases happ : applyUpsertSchema g.catalog phase with
    | error e =>
      refine iff_of_true hkept ?_
      intro phase' heq hr
      cases heq
      obtain ⟨r, hr⟩ := hr
      rw [happ] at hr
      cases hr
    | ok r =>
      refine (applyUpsertSchema_kept_iff hkept happ).trans ⟨?_, ?_⟩
      · intro hkeeps phase' heq _
        cases heq
        exact hkeeps
      · intro hkeeps
        exact hkeeps phase rfl ⟨_, happ⟩
  | _ =>
    exact iff_of_true hkept fun phase heq => by cases heq

variable {C : Type} {v : Vocabulary C} {refs : References}

omit [Unicode] in
lemma kept_afterVocabulary_iff {P : Prop} (hkept : v.Kept refs)
    {r : Except VocabularyError (Nat × Vocabulary C)}
    (h : ∀ id v', r = .ok (id, v') → (v'.Kept refs ↔ P)) :
    (afterVocabulary v r).Kept refs ↔ ((∃ x, r = .ok x) → P) := by
  cases r with
  | error e =>
    refine iff_of_true hkept ?_
    rintro ⟨x, hx⟩
    cases hx
  | ok x =>
    refine (h x.1 x.2 rfl).trans ⟨fun hP _ => hP, fun hP => hP ⟨x, rfl⟩⟩

omit [Unicode] in
lemma kept_write (hkept : v.Kept refs) (id : Nat) (ns : NamespaceId) (typeId : Nat) :
    v.Kept (refs.write v id ns typeId) := by
  unfold References.write
  split
  next row _ hrow =>
    rintro ⟨k, r⟩ he row' hrow'
    rw [mem_entries_iff, get_insert] at he
    split at he
    · cases he
      rw [hrow] at hrow'
      cases hrow'
      rfl
    · exact hkept (k, r) ((mem_entries_iff _).mpr he) row' hrow'
  · exact hkept

omit [Unicode] in
lemma kept_retire (hkept : v.Kept refs) (id : Nat) : v.Kept (refs.retire id) := by
  unfold References.retire
  split
  next old hold =>
    rintro ⟨k, r⟩ he row hrow
    rw [mem_entries_iff, get_insert] at he
    split at he
    · cases he
      exact hkept (id, old) ((mem_entries_iff _).mpr hold) row hrow
    · exact hkept (k, r) ((mem_entries_iff _).mpr he) row hrow
  · exact hkept

omit [Unicode] in
lemma kept_purge (hkept : v.Kept refs) (id : Nat) : v.Kept (Table.remove refs id) := by
  rintro ⟨k, r⟩ he row hrow
  rw [mem_entries_iff, get_remove] at he
  split at he
  · cases he
  · exact hkept (k, r) ((mem_entries_iff _).mpr he) row hrow

lemma kept_resolve_iff {v v' : Vocabulary PredicateConstraints} {q : QName} {near : Option Nat}
    {id : Nat} {now : Nanos} (hkept : v.Kept refs)
    (h : resolveOrInternPredicate v q near now = .ok (id, v')) :
    v'.Kept refs ↔ (synonym v q near = none → CoinKeeps refs v q) := by
  rcases resolveOrInternPredicate_cases h with ⟨hq, rfl⟩ | ⟨_, hsyn, rfl⟩ | ⟨_, hsyn, hmint⟩
  · exact iff_of_true hkept fun _ hnone => absurd hnone hq
  · exact iff_of_true hkept fun hnone => by simp [hsyn] at hnone
  · obtain ⟨_, _, hint⟩ := bind_ok hmint
    rw [kept_internOrGet_iff hkept hint]
    exact ⟨fun hP _ => hP, fun hP => hP hsyn⟩

lemma TypeOp.step_kept_iff (hkept : g.NamesKept) (op : TypeOp) :
    (op.step g).NamesKept ↔ StepKeeps g op := by
  cases op with
  | upload caller now req =>
    refine (afterPreflight_kept_iff hkept (handleSchemaUpload g.catalog caller now req)).trans ?_
    simp only [StepKeeps, TypeOp.preflight, Option.some.injEq]
  | replace caller now req =>
    refine (afterPreflight_kept_iff hkept (handleSchemaReplace g.catalog caller now req)).trans ?_
    simp only [StepKeeps, TypeOp.preflight, Option.some.injEq]
  | drop caller callerId now req =>
    refine (afterPreflight_kept_iff hkept (handleSchemaDrop g.catalog caller now
      (g.inUse callerId req.nspace req.target) req)).trans ?_
    simp only [StepKeeps, TypeOp.preflight, Option.some.injEq]
  | coinPredicate q lsn now =>
    have hiff : (afterVocabulary g.catalog.predicates
        (predicateInternOrGet g.catalog.predicates q lsn now)).Kept g.statements ↔ _ :=
      kept_afterVocabulary_iff hkept.statements fun id v' hok => by
        obtain ⟨_, _, hint⟩ := bind_ok hok
        exact kept_internOrGet_iff hkept.statements hint
    exact ⟨fun h => hiff.mp h.statements, fun h => ⟨hiff.mpr h, hkept.relations⟩⟩
  | coinRelationType q lsn now =>
    have hiff : (afterVocabulary g.catalog.relationTypes
        (relationTypeInternOrGet g.catalog.relationTypes q lsn now)).Kept g.relations ↔ _ :=
      kept_afterVocabulary_iff hkept.relations fun id v' hok => by
        obtain ⟨_, _, hint⟩ := bind_ok hok
        exact kept_internOrGet_iff hkept.relations hint
    exact ⟨fun h => hiff.mp h.relations, fun h => ⟨hkept.statements, hiff.mpr h⟩⟩
  | extractPredicate q near now =>
    have hiff : (afterVocabulary g.catalog.predicates
        (resolveOrInternPredicate g.catalog.predicates q near now)).Kept g.statements ↔ _ :=
      kept_afterVocabulary_iff hkept.statements fun _ _ hok => kept_resolve_iff hkept.statements hok
    exact ⟨fun h => hiff.mp h.statements, fun h => ⟨hiff.mpr h, hkept.relations⟩⟩
  | reclaimPredicates now grace limit =>
    exact iff_of_true ⟨hkept.statements.dropRows _, hkept.relations⟩ trivial
  | writeStatement id ns predicate =>
    exact iff_of_true ⟨kept_write hkept.statements id ns predicate, hkept.relations⟩ trivial
  | writeRelation id ns relationType =>
    exact iff_of_true ⟨hkept.statements, kept_write hkept.relations id ns relationType⟩ trivial
  | retireStatement id =>
    exact iff_of_true ⟨kept_retire hkept.statements id, hkept.relations⟩ trivial
  | retireRelation id =>
    exact iff_of_true ⟨hkept.statements, kept_retire hkept.relations id⟩ trivial
  | purgeStatement id =>
    exact iff_of_true ⟨kept_purge hkept.statements id, hkept.relations⟩ trivial
  | purgeRelation id =>
    exact iff_of_true ⟨hkept.statements, kept_purge hkept.relations id⟩ trivial

/-- Stored rows keep the name of their type in every state of a run exactly when every row that is
written into a registry is written where all references are of its name. -/
theorem stored_names_kept_iff {g : TypedGraph} (h : g.NamesKept) (ops : List TypeOp) :
    Run.Always TypeOp.step NamesKept g ops ↔ Run.EachStep TypeOp.step StepKeeps g ops :=
  @Run.always_iff_eachStep _ _ _ (fun _ => True) _ _ (fun _ _ _ => trivial)
    (fun _ op _ hkept => op.step_kept_iff hkept) _ trivial h ops
end

def TypedGraph.empty : TypedGraph :=
  { catalog := .empty, statements := .empty, relations := .empty }

def declareFacts (now : Nanos) (names : List String) : TypeOp :=
  .upload "acme" now { document := factDocument "acme" names, dryRun := false }

def replaceFacts (now : Nanos) (names : List String) : TypeOp :=
  .replace "acme" now { document := factDocument "acme" names, forceDropExisting := true }

/-- What is dropped, replaced or reclaimed has no statement left when its id is given anew. -/
theorem turnover_keeps_names :
    let ops := [declareFacts 1 ["likes"], .writeStatement 7 1 1, declareFacts 2 ["likes", "owns"],
      .drop "acme" 1 3 ⟨"acme", .predicate "owns", false, none⟩, .coinPredicate ⟨"acme", "knows"⟩ 5 4,
      .writeStatement 8 1 2, .purgeStatement 7, .purgeStatement 8, replaceFacts 5 ["owns"],
      .writeStatement 9 1 1, .reclaimPredicates 9 0 10]
    empty.NamesKept ∧
      Run.Always (@TypeOp.step asciiClasses) NamesKept empty ops ∧
      Run.EachStep (@TypeOp.step asciiClasses) (@StepKeeps asciiClasses) empty ops := by
  let := asciiClasses
  refine ⟨by decide, by decide, ?_⟩
  exact (stored_names_kept_iff (by decide) _).mp (by decide)

/-- After a replace the next declaration takes the id of a dropped predicate that a stored statement
refers to; and an alias of a coined name gives its name to the row of the statements written under
the coined one. -/
theorem stored_statements_renamed :
    let reused := [declareFacts 1 ["likes"], .writeStatement 7 1 1,
      replaceFacts 2 ["owns"]].foldl (@TypeOp.step asciiClasses) empty
    let adopted := [.extractPredicate ⟨"acme", "keen_on"⟩ none 1, .writeStatement 7 1 1,
      .extractPredicate ⟨"acme", "keen_about"⟩ (some 1) 2, replaceFacts 3 ["keen_about"]].foldl
        (@TypeOp.step asciiClasses) empty
    ((reused.statements.get 7).map fun r => (r.typeId, r.writtenAs)) = some (1, ⟨"acme", "likes"⟩) ∧
      ((reused.catalog.predicates.rows.get 1).map (·.qname)) = some ⟨"acme", "owns"⟩ ∧
      ((adopted.statements.get 7).map fun r => (r.typeId, r.writtenAs)) =
        some (1, ⟨"acme", "keen_on"⟩) ∧
      ((adopted.catalog.predicates.rows.get 1).map (·.qname)) = some ⟨"acme", "keen_about"⟩ ∧
      ¬reused.NamesKept ∧ ¬adopted.NamesKept := by
  decide

end BrainDb.Schema
