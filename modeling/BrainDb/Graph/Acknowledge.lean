import BrainDb.Graph.CascadeEffect
import BrainDb.Graph.RelationReplay

namespace BrainDb
open Table ExceptLemmas Statements Schema

inductive UpsertPhase where
  | statement (p : UpsertStatement)
  | relation (p : UpsertRelation)

inductive UpsertAck where
  | upsertedStatement (id : StatementId)
  | upsertedRelation (id : RelationId)

inductive UpsertError where
  | statement (e : StatementApplyError)
  | relation (e : RelationApplyError)

namespace Graph

def Stores (g : Graph) : UpsertAck → Prop
  | .upsertedStatement id => ∃ m, g.statements.rows.get id = some m
  | .upsertedRelation id => ∃ m, g.relations.rows.get id = some m

def IdenticalStatement (g : Graph) (scope : RowScope) (s : Statement) : Prop :=
  ∃ i m, g.statements.rows.get i = some m ∧ m.isLive = true ∧ m.scope = scope ∧
    m.subject = s.subject ∧ m.kind = s.kind ∧ m.predicate = s.predicate ∧
    m.object.sameAs s.object = true ∧ m.eventAt = s.eventAt

def IdenticalRelation (g : Graph) (scope : RowScope) (r : Relation) : Prop :=
  ∃ i m, g.relations.rows.get i = some m ∧ m.isCurrent = true ∧ m.tombstoned = false ∧
    m.scope = scope ∧ m.relationType = r.relationType ∧ m.source = .entity r.fromEntity ∧
    m.target = .entity r.toEntity

section
variable [Unicode]

structure AdmitsStatement (g : Graph) (p : UpsertStatement) (predicate : PredicateId) (g' : Graph)
    (c : PredicateConstraints) : Prop where
  resolved : g.resolvePredicate p.predicate p.internHint p.extractedAt = .ok (predicate, g')
  shape : validateStatementShape (p.statement predicate) = .ok ()
  subject : g'.checkSubject p.subject = .ok ()
  found : g'.lookupPredicate predicate = .ok c
  constraints : g'.validateAgainstPredicate (p.statement predicate) c = .ok ()

structure AdmitsRelation (g : Graph) (p : UpsertRelation) (g' : Graph) (r : Relation)
    (cardinality : Cardinality) : Prop where
  resolved : ∃ ty isSymmetric fromType toType declared direction,
    g.resolveRelationType p.ty p.internHint p.extractedAt = .ok (ty, g') ∧
    g'.effectiveIsSymmetric p ty = .ok isSymmetric ∧
    g'.requireEntityExists p.source = .ok fromType ∧
    g'.requireEntityExists p.target = .ok toType ∧ g'.lookupType ty = .ok declared ∧
    resolveEndpointDirection (p.relation ty isSymmetric) fromType toType declared = .ok direction ∧
    r = (p.relation ty isSymmetric).oriented direction declared.isSymmetric ∧
    cardinality = declared.cardinality
  confidence : confidenceCheck p.confidence = .ok ()

def Admits (g : Graph) : UpsertPhase → Prop
  | .statement p => ∃ predicate g' c, g.AdmitsStatement p predicate g' c
  | .relation p => ∃ g' r cardinality, g.AdmitsRelation p g' r cardinality

variable [Confidences]

def applyUpsert (g : Graph) (scope : RowScope) :
    UpsertPhase → Except UpsertError (UpsertAck × Graph)
  | .statement p => do
    let applied ← (g.applyUpsertStatement scope p).mapError .statement
    .ok (.upsertedStatement applied.1, applied.2)
  | .relation p => do
    let g ← (g.applyUpsertRelation scope p).mapError .relation
    .ok (.upsertedRelation p.id, g)

def Identical (g : Graph) (scope : RowScope) : UpsertPhase → Prop
  | .statement p => ∃ predicate g' c, g.AdmitsStatement p predicate g' c ∧
    g'.IdenticalStatement scope (p.statement predicate)
  | .relation p => ∃ g' r cardinality, g.AdmitsRelation p g' r cardinality ∧
    g'.IdenticalRelation scope r

def Acknowledges (g : Graph) (scope : RowScope) (phase : UpsertPhase) : Prop :=
  (g.Identical scope phase → ∃ ack g', g.applyUpsert scope phase = .ok (ack, g')) ∧
    ∀ ack g', g.applyUpsert scope phase = .ok (ack, g') → g'.Stores ack
end

variable {g g' : Graph} {scope : RowScope} {session : SessionId} {now : Nanos}

section
variable [Confidences] {s : Statement}

def CanSucceed (g : Graph) (scope : RowScope) (prior : StatementId) (s : Statement) : Prop :=
  (∃ old, g.statements.rows.get prior = some old ∧ Supersedable scope old s) ∧
    (g.statements.evidenceEntries s.evidence).isSome

def StatementAcknowledged (g : Graph) (scope : RowScope) (s : Statement)
    (c : PredicateConstraints) (hinted : Bool) : Prop :=
  (g.IdenticalStatement scope s → g.statements.rows.get s.id = none) ∧
    (g.statements.rows.get s.id = none →
      match g.placement scope s c with
      | .repeats _ => hinted = true ∧ ¬ g.IdenticalStatement scope s
      | .supersedes prior => g.IdenticalStatement scope s → g.CanSucceed scope prior s
      | .fresh => g.IdenticalStatement scope s → (g.statements.evidenceEntries s.evidence).isSome)

lemma evidence_recomputed (t : Statements) (s : Statement)
    (now : Nanos) : (t.recomputeConfidence s now).evidence = s.evidence := by
  obtain ⟨_, h⟩ := t.exists_recomputeConfidence s now
  rw [h]

lemma insertNewStatement_ok_iff (t : Statements) (scope : RowScope) (session : SessionId)
    (s : Statement) : (∃ t', t.insertNewStatement scope session s = .ok t') ↔
      (t.evidenceEntries s.evidence).isSome := by
  unfold insertNewStatement
  cases t.evidenceEntries s.evidence with
  | none => exact iff_of_false (fun ⟨_, h⟩ => by cases h) (by simp)
  | some entries => exact iff_of_true ⟨_, rfl⟩ rfl

lemma statementSupersede_ok_iff (session : SessionId) (now : Nanos) {prior : StatementId}
    (hshape : validateStatementShape s = .ok ()) (hunused : g.statements.rows.get s.id = none) :
    (∃ t', g.statements.statementSupersede scope session prior s now = .ok t') ↔
      g.CanSucceed scope prior s := by
  unfold statementSupersede
  rw [hshape]
  cases hpre : g.statements.rows.get prior with
  | none =>
    refine iff_of_false (fun ⟨_, h⟩ => by cases h) ?_
    rintro ⟨⟨old, hold, _⟩, _⟩
    rw [hpre] at hold
    cases hold
  | some old =>
    have hoverflow : (g.statements.withdraw old (old.superseded s now)).evidenceEntries s.evidence =
        g.statements.evidenceEntries s.evidence := by
      cases s.evidence with
      | inline entries => rfl
      | overflow id =>
        exact congrArg (Table.get · id)
          (g.statements.withdraw_frame old (old.superseded s now)).2.2.2
    have hevid : (g.statements.recomputeConfidence (old.successor prior s)
        s.extractedAt).evidence = s.evidence := evidence_recomputed _ _ _
    have hinsert : (∃ t', (g.statements.withdraw old (old.superseded s now)).insertNewStatement
        scope session (g.statements.recomputeConfidence (old.successor prior s) s.extractedAt) =
          .ok t') ↔ (g.statements.evidenceEntries s.evidence).isSome := by
      rw [insertNewStatement_ok_iff, hevid, hoverflow]
    cases hallowed : supersedable scope prior old s with
    | error e =>
      refine iff_of_false ?_ ?_
      · rintro ⟨t', h⟩
        simp only [hallowed] at h
        cases h
      · rintro ⟨⟨old', hold', hok⟩, _⟩
        rw [hpre] at hold'
        cases hold'
        rw [supersedable_ok_iff.mpr hok] at hallowed
        cases hallowed
    | ok u =>
      have hok := supersedable_ok_iff.mp (hallowed.trans rfl)
      simp only [hallowed, hunused]
      refine hinsert.trans ⟨fun h => ⟨⟨old, hpre, hok⟩, h⟩, fun h => h.2⟩

variable {c : PredicateConstraints}

omit [Confidences] in
lemma creatable_of_checks (hshape : validateStatementShape s = .ok ())
    (hsubj : g.checkSubject s.subject = .ok ()) (hfound : g.lookupPredicate s.predicate = .ok c)
    (hconstraints : g.validateAgainstPredicate s c = .ok ()) : g.creatable s =
      if (g.statements.rows.get s.id).isSome then .error (.alreadyExists s.id) else .ok c := by
  unfold creatable
  simp only [hshape, hsubj, hfound, bind, Except.bind, hconstraints]

lemma stores_of_created {p : PredicateConstraints} {id : StatementId}
    {t' : Statements} (h : Created g scope session s now p id t')
    (hrep : ∀ existing, g.placement scope s p ≠ .repeats existing) :
    ∃ m, t'.rows.get s.id = some m := by
  cases h with
  | superseding _ hsup =>
    rw [hsup.tables]
    exact ⟨_, get_insert_self _ _ _⟩
  | repeated hpos => exact absurd hpos (hrep _)
  | placed _ => exact ⟨_, get_insert_self _ _ _⟩

lemma statementCreate_ok_iff (scope : RowScope) (session : SessionId) (now : Nanos)
    (hshape : validateStatementShape s = .ok ()) (hcreatable : g.creatable s = .ok c) :
    (∃ r, g.statementCreate scope session s now = .ok r) ↔
      match g.placement scope s c with
      | .repeats _ => True
      | .supersedes prior => g.CanSucceed scope prior s
      | .fresh => ((g.statements.evidenceEntries s.evidence).isSome : Prop) := by
  unfold statementCreate
  rw [hcreatable]
  simp only [bind, Except.bind]
  cases hpos : g.placement scope s c with
  | repeats existing => exact iff_of_true ⟨_, rfl⟩ trivial
  | supersedes prior =>
    simp only
    rw [← statementSupersede_ok_iff session now hshape (creatable_unused hcreatable)]
    constructor
    · rintro ⟨r, hr⟩
      obtain ⟨t', ht', _⟩ := bind_ok hr
      exact ⟨t', ht'⟩
    · rintro ⟨t', ht'⟩
      rw [ht']
      exact ⟨_, rfl⟩
  | fresh =>
    rw [← evidence_recomputed g.statements s now, ← insertNewStatement_ok_iff _ scope session]
    constructor
    · rintro ⟨r, hr⟩
      obtain ⟨t', ht', _⟩ := bind_ok hr
      exact ⟨t', ht'⟩
    · rintro ⟨t', ht'⟩
      rw [ht']
      exact ⟨_, rfl⟩

variable [Unicode] {p : UpsertStatement} {predicate : PredicateId}

def stamped (g : Graph) (p : UpsertStatement) : Except StatementApplyError (StatementId × Graph) :=
  if p.internHint.isSome then do
    let g ← g.stampImplicitPredicateFlag p.id
    .ok (p.id, g)
  else .ok (p.id, g)

omit [Confidences] [Unicode] in
lemma stamped_of_stored (h : ∃ m, g.statements.rows.get p.id = some m) :
    ∃ g', g.stamped p = .ok (p.id, g') ∧ ∃ m, g'.statements.rows.get p.id = some m := by
  obtain ⟨m, hm⟩ := h
  unfold stamped
  split
  · simp only [stampImplicitPredicateFlag, hm]
    exact ⟨_, rfl, _, get_insert_self _ _ _⟩
  · exact ⟨g, rfl, m, hm⟩

omit [Confidences] [Unicode] in
lemma stamped_of_absent (h : g.statements.rows.get p.id = none) :
    (p.internHint.isSome = true → ∃ e, g.stamped p = .error e) ∧
      (p.internHint.isSome = false → g.stamped p = .ok (p.id, g)) := by
  refine ⟨fun hhint => ?_, fun hhint => ?_⟩
  · simp only [stamped, hhint, if_true, stampImplicitPredicateFlag, h]
    exact ⟨_, rfl⟩
  · simp only [stamped, hhint]
    rfl

lemma applyUpsertStatement_eq (h : g.AdmitsStatement p predicate g' c) (scope : RowScope) :
    g.applyUpsertStatement scope p =
      ((g'.statementCreate scope p.session (p.statement predicate) p.extractedAt).mapError
        .refused).bind fun created => created.2.stamped p := by
  unfold applyUpsertStatement
  rw [h.resolved]
  rfl

lemma applyUpsertStatement_cases (h : g.AdmitsStatement p predicate g' c) (scope : RowScope) :
    (∃ e, g.applyUpsertStatement scope p = .error e) ∨
      ∃ g'', g.applyUpsertStatement scope p = .ok (p.id, g'') := by
  rw [applyUpsertStatement_eq h]
  cases g'.statementCreate scope p.session (p.statement predicate) p.extractedAt with
  | error e => exact .inl ⟨_, rfl⟩
  | ok created =>
    cases hrow : created.2.statements.rows.get p.id with
    | some m =>
      obtain ⟨g'', hg'', _⟩ := stamped_of_stored ⟨m, hrow⟩
      exact .inr ⟨g'', hg''⟩
    | none =>
      obtain ⟨herror, hok⟩ := stamped_of_absent hrow
      cases hhint : p.internHint.isSome with
      | true => exact .inl (herror hhint)
      | false => exact .inr ⟨_, hok hhint⟩

omit [Confidences] in
lemma identicalStatement_iff (h : g.AdmitsStatement p predicate g' c) :
    g.Identical scope (.statement p) ↔ g'.IdenticalStatement scope (p.statement predicate) := by
  constructor
  · rintro ⟨predicate', g'', c', h', hid⟩
    have heq := h.resolved.symm.trans h'.resolved
    cases heq
    exact hid
  · intro hid
    exact ⟨predicate, g', c, h, hid⟩

lemma acknowledges_statement_iff (h : g.AdmitsStatement p predicate g' c) :
    g.Acknowledges scope (.statement p) ↔ (g'.IdenticalStatement scope (p.statement predicate) →
        ∃ g'', g.applyUpsertStatement scope p = .ok (p.id, g'')) ∧
      ∀ g'', g.applyUpsertStatement scope p = .ok (p.id, g'') →
        ∃ m, g''.statements.rows.get p.id = some m := by
  unfold Acknowledges
  rw [identicalStatement_iff h]
  have hresult : ∀ ack g'', g.applyUpsert scope (.statement p) = .ok (ack, g'') ↔
      ack = .upsertedStatement p.id ∧ g.applyUpsertStatement scope p = .ok (p.id, g'') := by
    intro ack g''
    rcases applyUpsertStatement_cases h scope with ⟨e, he⟩ | ⟨g₂, hg₂⟩
    · simp only [applyUpsert, he]
      exact iff_of_false (fun h => by cases h) (fun h => by cases h.2)
    · simp only [applyUpsert, hg₂]
      constructor
      · intro heq
        cases heq
        exact ⟨rfl, rfl⟩
      · rintro ⟨rfl, heq⟩
        cases heq
        rfl
  refine and_congr (imp_congr_right fun _ => ?_) ?_
  · constructor
    · rintro ⟨ack, g'', hok⟩
      exact ⟨g'', ((hresult ack g'').mp hok).2⟩
    · rintro ⟨g'', hok⟩
      exact ⟨_, g'', (hresult _ g'').mpr ⟨rfl, hok⟩⟩
  · constructor
    · intro hput g'' hok
      exact hput _ g'' ((hresult _ g'').mpr ⟨rfl, hok⟩)
    · intro hput ack g'' hok
      obtain ⟨rfl, happ⟩ := (hresult ack g'').mp hok
      exact hput g'' happ

lemma statement_acknowledged_iff (h : g.AdmitsStatement p predicate g' c) :
    g.Acknowledges scope (.statement p) ↔
      g'.StatementAcknowledged scope (p.statement predicate) c p.internHint.isSome := by
  rw [acknowledges_statement_iff h]
  have hcreatable := creatable_of_checks h.shape h.subject h.found h.constraints
  have happly := applyUpsertStatement_eq h scope
  unfold StatementAcknowledged
  cases hrow : g'.statements.rows.get p.id with
  | some m =>
    -- the id is in use, and the create is refused
    have hused : g'.statements.rows.get (p.statement predicate).id = some m := hrow
    have hrefused : ∀ g'', g.applyUpsertStatement scope p ≠ .ok (p.id, g'') := by
      intro g'' hok
      rw [happly, statementCreate, hcreatable, hused] at hok
      cases hok
    simp only [hused]
    constructor
    · rintro ⟨hsucceeds, _⟩
      refine ⟨fun hid => ?_, fun h => by cases h⟩
      obtain ⟨g'', hok⟩ := hsucceeds hid
      exact absurd hok (hrefused g'')
    · rintro ⟨hid, _⟩
      refine ⟨fun hidentical => ?_, fun g'' hok => absurd hok (hrefused g'')⟩
      cases hid hidentical
  | none =>
    have hunused : g'.statements.rows.get (p.statement predicate).id = none := hrow
    rw [hunused] at hcreatable
    have hcreate := statementCreate_ok_iff scope p.session p.extractedAt h.shape hcreatable
    simp only [hunused, implies_true, true_and, forall_const]
    by_cases hrep : ∃ existing, g'.placement scope (p.statement predicate) c = .repeats existing
    · -- the create is answered with another row, and nothing is stored
      obtain ⟨existing, hpos⟩ := hrep
      have hmade : g'.statementCreate scope p.session (p.statement predicate) p.extractedAt =
          .ok (existing, g') := by
        simp only [statementCreate, hcreatable, bind, Except.bind, Option.isSome_none,
          Bool.false_eq_true, if_false, hpos]
      have happly : g.applyUpsertStatement scope p = g'.stamped p := by
        rw [happly, hmade]
        rfl
      obtain ⟨herror, hok⟩ := stamped_of_absent hrow
      rw [happly, hpos]
      cases hhint : p.internHint.isSome with
      | true =>
        obtain ⟨e, he⟩ := herror hhint
        simp [he]
      | false =>
        refine iff_of_false ?_ (by simp)
        rintro ⟨_, hput⟩
        obtain ⟨m, hm⟩ := hput g' (hok hhint)
        rw [hrow] at hm
        cases hm
    · push Not at hrep
      have hput : ∀ r, g'.statementCreate scope p.session (p.statement predicate)
          p.extractedAt = .ok r → ∃ g'', g.applyUpsertStatement scope p = .ok (p.id, g'') ∧
            ∃ m, g''.statements.rows.get p.id = some m := by
        rintro ⟨id, g₂⟩ hr
        obtain ⟨c', t', hc', rfl, hmade⟩ := statementCreate_ok hr
        obtain rfl : c = c' := Except.ok.inj (hcreatable.symm.trans hc')
        rw [happly, hr]
        exact stamped_of_stored (stores_of_created hmade hrep)
      have hok : (∃ g'', g.applyUpsertStatement scope p = .ok (p.id, g'')) ↔
          ∃ r, g'.statementCreate scope p.session (p.statement predicate) p.extractedAt =
            .ok r := by
        constructor
        · rintro ⟨g'', hg''⟩
          rw [happly] at hg''
          obtain ⟨r, hr, _⟩ := bind_ok hg''
          exact ⟨r, mapError_ok hr⟩
        · rintro ⟨r, hr⟩
          obtain ⟨g'', hg'', _⟩ := hput r hr
          exact ⟨g'', hg''⟩
      have hall : ∀ g'', g.applyUpsertStatement scope p = .ok (p.id, g'') →
          ∃ m, g''.statements.rows.get p.id = some m := by
        intro g'' hg''
        obtain ⟨r, hr⟩ := hok.mp ⟨g'', hg''⟩
        obtain ⟨g₃, hg₃, hm⟩ := hput r hr
        rw [hg₃] at hg''
        cases hg''
        exact hm
      rw [hok, hcreate]
      cases hpos : g'.placement scope (p.statement predicate) c with
      | repeats existing => exact absurd hpos (hrep existing)
      | supersedes prior | fresh => exact and_iff_left hall
end

section
variable {r : Relation}

structure SupersedableRelation (scope : RowScope) (old : RelationMetadata) (r : Relation) :
    Prop where
  scope : old.scope = scope
  tombstoned : old.tombstoned = false
  supersededBy : old.supersededBy = none
  relationType : old.relationType = r.relationType

def RelationAcknowledged (g : Graph) (scope : RowScope) (r : Relation)
    (cardinality : Cardinality) : Prop :=
  (g.IdenticalRelation scope r → g.relations.rows.get r.id = none) ∧
    (g.relations.rows.get r.id = none → g.findIdenticalActiveRelation scope r = none ∧
      (g.IdenticalRelation scope r →
        match g.findCardinalityConflicts scope r cardinality with
        | [] => True
        | [conflict] => ∃ old, g.relations.rows.get conflict = some old ∧
          SupersedableRelation scope old r
        | _ => False))

lemma relationSupersede_ok_iff (session : SessionId) (now : Nanos) {old : RelationId}
    (hconf : confidenceCheck r.confidence = .ok ()) (hunused : g.relations.rows.get r.id = none) :
    (∃ result, g.relationSupersede scope session old r now = .ok result) ↔
      ∃ m, g.relations.rows.get old = some m ∧ SupersedableRelation scope m r := by
  unfold relationSupersede
  rw [hconf]
  cases hold : g.relations.rows.get old with
  | none => exact iff_of_false (fun ⟨_, h⟩ => by cases h) (fun ⟨_, h, _⟩ => by cases h)
  | some m =>
    simp only [bind, Except.bind, Option.some.injEq, exists_eq_left', hunused]
    constructor
    · rintro ⟨result, h⟩
      split at h
      · cases h
      next hsc =>
        split at h
        · cases h
        next htomb =>
          split at h
          · cases h
          next hsup =>
            split at h
            · cases h
            next htype =>
              exact ⟨(not_not.mp hsc).symm, by simpa using htomb, hsup, not_not.mp htype⟩
    · intro h
      refine ⟨(r.id, (g.setRelationRow old (supersededRow m r.id
        r.extractedAt)).insertNewRelation scope session (successorOf old m r) now), ?_⟩
      simp only [h.scope, ne_eq, not_true_eq_false, if_false, h.tombstoned, Bool.false_eq_true,
        h.supersededBy, h.relationType, Option.isSome_none]

lemma stores_of_placed {cardinality : Cardinality} {result : RelationId × Graph}
    (hnone : g.findIdenticalActiveRelation scope r = none)
    (h : g.placeRelation scope session r cardinality now = .ok result) :
    ∃ m, result.2.relations.rows.get r.id = some m := by
  unfold placeRelation at h
  rw [hnone] at h
  simp only at h
  split at h
  · cases h
    exact ⟨_, get_insert_self _ _ _⟩
  next conflict _ =>
    obtain ⟨old, _, _, hgraph⟩ := relationSupersede_ok h
    rw [hgraph]
    exact ⟨_, get_insert_self _ _ _⟩
  · cases h

lemma placeRelation_ok_iff (session : SessionId) (now : Nanos)
    (cardinality : Cardinality) (hconf : confidenceCheck r.confidence = .ok ())
    (hunused : g.relations.rows.get r.id = none)
    (hnone : g.findIdenticalActiveRelation scope r = none) :
    (∃ result, g.placeRelation scope session r cardinality now = .ok result) ↔
      match g.findCardinalityConflicts scope r cardinality with
      | [] => True
      | [conflict] => ∃ old, g.relations.rows.get conflict = some old ∧
        SupersedableRelation scope old r
      | _ => False := by
  unfold placeRelation
  rw [hnone]
  cases hconflicts : g.findCardinalityConflicts scope r cardinality with
  | nil => exact iff_of_true ⟨_, rfl⟩ trivial
  | cons conflict rest =>
    cases rest with
    | nil => exact relationSupersede_ok_iff session now hconf hunused
    | cons conflict' rest => exact iff_of_false (fun ⟨_, h⟩ => by cases h) id

variable {p : UpsertRelation} {cardinality : Cardinality}

lemma AdmitsRelation.id (h : g.AdmitsRelation p g' r cardinality) : r.id = p.id := by
  obtain ⟨_, _, _, _, _, _, _, _, _, _, _, _, rfl, _⟩ := h.resolved
  rfl

lemma AdmitsRelation.confidenceCheck (h : g.AdmitsRelation p g' r cardinality) :
    Graph.confidenceCheck r.confidence = .ok () := by
  have hconf := h.confidence
  obtain ⟨_, _, _, _, _, _, _, _, _, _, _, _, rfl, _⟩ := h.resolved
  exact hconf

lemma applyUpsertRelation_eq (h : g.AdmitsRelation p g' r cardinality) (scope : RowScope) :
    g.applyUpsertRelation scope p =
      if (g'.relations.rows.get p.id).isSome then .error (.refused (.alreadyExists p.id))
      else ((g'.placeRelation scope p.session r cardinality p.extractedAt).mapError .refused).map
        Prod.snd := by
  have hconf := h.confidence
  obtain ⟨ty, isSymmetric, fromType, toType, declared, direction, hty, hsym, hfrom, hto, hfound,
    hdirection, rfl, rfl⟩ := h.resolved
  have hcheck : Graph.confidenceCheck (p.relation ty isSymmetric).confidence = .ok () := hconf
  have hfrom : g'.requireEntityExists (p.relation ty isSymmetric).fromEntity = .ok fromType := hfrom
  have hto : g'.requireEntityExists (p.relation ty isSymmetric).toEntity = .ok toType := hto
  have hfound : g'.lookupType (p.relation ty isSymmetric).relationType = .ok declared := hfound
  have hid : (p.relation ty isSymmetric).id = p.id := rfl
  simp only [applyUpsertRelation, hty, Except.mapError, bind, Except.bind, hsym, relationCreate,
    hcheck, hfrom, hto, hfound, hdirection, hid]
  cases (g'.relations.rows.get p.id).isSome with
  | true => rfl
  | false =>
    cases g'.placeRelation scope p.session ((p.relation ty isSymmetric).oriented direction
      declared.isSymmetric) declared.cardinality p.extractedAt <;> rfl

lemma AdmitsRelation.unique {g'' : Graph} {r' : Relation} {cardinality' : Cardinality}
    (h : g.AdmitsRelation p g' r cardinality) (h' : g.AdmitsRelation p g'' r' cardinality') :
    g' = g'' ∧ r = r' ∧ cardinality = cardinality' := by
  obtain ⟨ty, sym, fromType, toType, declared, direction, hty, hsym, hfrom, hto, hfound, hdir,
    rfl, rfl⟩ := h.resolved
  obtain ⟨ty', sym', fromType', toType', declared', direction', hty', hsym', hfrom', hto', hfound',
    hdir', rfl, rfl⟩ := h'.resolved
  cases hty.symm.trans hty'
  cases hsym.symm.trans hsym'
  cases hfrom.symm.trans hfrom'
  cases hto.symm.trans hto'
  cases hfound.symm.trans hfound'
  cases hdir.symm.trans hdir'
  exact ⟨rfl, rfl, rfl⟩

variable [Unicode] [Confidences]

omit [Confidences] in
lemma identicalRelation_iff (h : g.AdmitsRelation p g' r cardinality) :
    g.Identical scope (.relation p) ↔ g'.IdenticalRelation scope r := by
  constructor
  · rintro ⟨g'', r', cardinality', h', hid⟩
    obtain ⟨rfl, rfl, _⟩ := h.unique h'
    exact hid
  · intro hid
    exact ⟨g', r, cardinality, h, hid⟩

lemma acknowledges_relation_iff (h : g.AdmitsRelation p g' r cardinality) :
    g.Acknowledges scope (.relation p) ↔
      (g'.IdenticalRelation scope r → ∃ g'', g.applyUpsertRelation scope p = .ok g'') ∧
      ∀ g'', g.applyUpsertRelation scope p = .ok g'' →
        ∃ m, g''.relations.rows.get p.id = some m := by
  unfold Acknowledges
  rw [identicalRelation_iff h]
  cases happly : g.applyUpsertRelation scope p with
  | error e =>
    have hrefused : ∀ ack g'', g.applyUpsert scope (.relation p) ≠ .ok (ack, g'') := by
      intro ack g'' hok
      simp only [applyUpsert, happly] at hok
      cases hok
    simp only [hrefused, exists_false, false_implies, implies_true, reduceCtorEq]
  | ok g₂ =>
    have hresult : g.applyUpsert scope (.relation p) = .ok (.upsertedRelation p.id, g₂) := by
      simp only [applyUpsert, happly]
      rfl
    rw [hresult]
    refine and_congr (iff_of_true (fun _ => ⟨_, _, rfl⟩) fun _ => ⟨_, rfl⟩) ?_
    constructor
    · rintro hput g'' ⟨⟩
      exact hput _ _ rfl
    · rintro hput ack g'' ⟨⟩
      exact hput _ rfl

lemma relation_acknowledged_iff (h : g.AdmitsRelation p g' r cardinality) :
    g.Acknowledges scope (.relation p) ↔ g'.RelationAcknowledged scope r cardinality := by
  rw [acknowledges_relation_iff h]
  have happly := applyUpsertRelation_eq h scope
  unfold RelationAcknowledged
  rw [h.id]
  cases hrow : g'.relations.rows.get p.id with
  | some m =>
    rw [hrow] at happly
    rw [happly]
    simp
  | none =>
    have hunused : g'.relations.rows.get r.id = none := by rw [h.id]; exact hrow
    rw [hrow] at happly
    simp only [implies_true, true_and, forall_const]
    cases hfind : g'.findIdenticalActiveRelation scope r with
    | some existing =>
      -- the create is answered with another row, and nothing is stored
      have hpos : g'.placeRelation scope p.session r cardinality p.extractedAt =
          .ok (existing, g') := by
        simp only [placeRelation, hfind]
      rw [happly, hpos]
      refine iff_of_false ?_ (by simp)
      rintro ⟨_, hput⟩
      obtain ⟨m, hm⟩ := hput g' rfl
      rw [hrow] at hm
      cases hm
    | none =>
      have hok := placeRelation_ok_iff p.session p.extractedAt cardinality
        h.confidenceCheck hunused hfind
      have happ : (∃ g'', g.applyUpsertRelation scope p = .ok g'') ↔
          ∃ result, g'.placeRelation scope p.session r cardinality p.extractedAt = .ok result := by
        rw [happly]
        cases g'.placeRelation scope p.session r cardinality p.extractedAt with
        | error e => exact iff_of_false (by rintro ⟨_, ⟨⟩⟩) (by rintro ⟨_, ⟨⟩⟩)
        | ok result => exact iff_of_true ⟨_, rfl⟩ ⟨_, rfl⟩
      have hput : ∀ g'', g.applyUpsertRelation scope p = .ok g'' →
          ∃ m, g''.relations.rows.get p.id = some m := by
        intro g'' hg''
        rw [happly] at hg''
        obtain ⟨result, hresult, rfl⟩ := map_ok hg''
        rw [← h.id]
        exact stores_of_placed hfind (mapError_ok hresult)
      rw [happ, hok]
      simp only [true_and]
      exact and_iff_left hput
end

section
variable [Unicode] [Confidences]

omit [Confidences] in
def StoresOwnRow (g : Graph) (scope : RowScope) : UpsertPhase → Prop
  | .statement p => ∀ predicate g' c, g.AdmitsStatement p predicate g' c →
    g'.StatementAcknowledged scope (p.statement predicate) c p.internHint.isSome
  | .relation p => ∀ g' r cardinality, g.AdmitsRelation p g' r cardinality →
    g'.RelationAcknowledged scope r cardinality

theorem acknowledges_iff (scope : RowScope) {phase : UpsertPhase} (h : g.Admits phase) :
    g.Acknowledges scope phase ↔ g.StoresOwnRow scope phase := by
  cases phase with
  | statement p =>
    obtain ⟨predicate, g', c, h⟩ := h
    rw [statement_acknowledged_iff h]
    constructor
    · intro hack predicate' g'' c' h'
      cases h.resolved.symm.trans h'.resolved
      cases h.found.symm.trans h'.found
      exact hack
    · intro hack
      exact hack predicate g' c h
  | relation p =>
    obtain ⟨g', r, cardinality, h⟩ := h
    rw [relation_acknowledged_iff h]
    constructor
    · intro hack g'' r' cardinality' h'
      obtain ⟨rfl, rfl, rfl⟩ := h.unique h'
      exact hack
    · intro hack
      exact hack g' r cardinality h
end

def likesFive (id : StatementId) (hint : Option QName) : UpsertStatement :=
  { id, kind := .fact, session := 0, subject := .entity 1, predicate := 1
    object := .value (.integer 5), confidence := 0x3F666666, evidence := .inline []
    validFrom := none, extractor := 0, extractedAt := 10, schemaVersion := 1, internHint := hint }

def informed : Graph :=
  match @applyUpsertStatement household.graph asciiClasses flatConfidence ⟨1, 1⟩
    (likesFive 1 none) with
  | .ok applied => applied.2
  | .error _ => household.graph

theorem first_acknowledged : @Acknowledges asciiClasses flatConfidence household.graph ⟨1, 1⟩
      (.statement (likesFive 1 none)) := by
  let _ := asciiClasses
  let _ := flatConfidence
  have hadmits : household.graph.Admits (.statement (likesFive 1 none)) :=
    ⟨1, household.graph, .open, rfl, rfl, rfl, rfl, rfl⟩
  refine (acknowledges_iff ⟨1, 1⟩ hadmits).mpr ?_
  rintro predicate g' c ⟨hres, _, _, hfound, _⟩
  cases hres
  cases hfound
  exact ⟨fun _ => rfl, fun _ _ => rfl⟩

/-- Said again under another id, it is acknowledged with that id and no such row is stored; with the
predicate named by a hint it is refused. -/
theorem repeated_not_acknowledged : (¬ @Acknowledges asciiClasses flatConfidence informed ⟨1, 1⟩
      (.statement (likesFive 2 none))) ∧ ¬ @Acknowledges asciiClasses flatConfidence informed ⟨1, 1⟩
      (.statement (likesFive 2 (some ⟨"acme", "lives_in"⟩))) := by
  let _ := asciiClasses
  let _ := flatConfidence
  constructor
  · rintro ⟨_, hput⟩
    obtain ⟨m, hm⟩ := hput (.upsertedStatement 2) informed rfl
    cases hm
  · rintro ⟨hsucceeds, _⟩
    obtain ⟨ack, g', hok⟩ := hsucceeds ⟨1, informed, .open, ⟨rfl, rfl, rfl, rfl, rfl⟩,
      1, _, rfl, rfl, rfl, rfl, rfl, rfl, rfl, rfl⟩
    cases hok

end Graph
end BrainDb
