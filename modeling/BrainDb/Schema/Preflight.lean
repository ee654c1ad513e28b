import BrainDb.Schema.StoredNames
import BrainDb.Writer.Submit

namespace BrainDb.Schema
open ExceptLemmas TypeOp Except String EntityTypes
variable [Unicode]

def Extractors.Admits (t : Extractors) (q : QName) (x : ExtractorDef) (version : Nat) : Prop :=
  match t.byQname.get q with
  | some id => ∃ row, t.rows.get id = some row ∧ row.kind = x.kind ∧ row.schemaVersion = version ∧
      row.definition = x
  | none => t.rows.maxKey < u32Max

def Kinds.Admits (t : Kinds) (q : QName) (k : KindDef) : Prop :=
  match t.rows.get q with
  | some row => row.cardinality = k.cardinality ∧ row.temporal = k.temporal ∧
      row.polarity = k.polarity
  | none => max (firstCustomByte - 1) t.byByte.maxKey < u8Max

variable (t : EntityTypes)

def EntityTypes.Admits (ns : NamespaceId) (name : String) : Prop :=
  match t.own ns name with
  | some row => row.schemaBlob = []
  | none => t.rows.maxKey < u32Max

def ItemFits (nspace : String) (ns : NamespaceId) (version : Nat) (c : Catalog) :
    SchemaItem → Prop
  | .entityType e => c.entityTypes.Admits ns e.name
  | .predicate p => validatePredicateQName ⟨nspace, p.name⟩ = .ok () ∧
      c.predicates.Admits ⟨nspace, p.name⟩ (predicateConstraints c.entityTypes ns p)
  | .relationType r => validateRelationQName ⟨nspace, r.name⟩ = .ok () ∧
      c.relationTypes.Admits ⟨nspace, r.name⟩ (relationConstraints c.entityTypes ns r)
  | .extractor x => validateExtractorName x.name = .ok () ∧
      c.extractors.Admits ⟨nspace, x.name⟩ x version
  | .kind k => c.kinds.Admits ⟨nspace, k.name⟩ k

def ItemsFit (nspace : String) (ns : NamespaceId) (version : Nat) (now : Nanos) :
    Catalog → List SchemaItem → Prop
  | _, [] => True
  | c, item :: items =>
    ItemFits nspace ns version c item ∧
      ∀ c', applyItem nspace ns version now c item = .ok c' →
        ItemsFit nspace ns version now c' items

structure PhaseFits (c : Catalog) (p : UpsertSchema) : Prop where
  version : ∀ v, c.active.get p.document.nspace = some v → v < u32Max
  nspace : c.namespaces.byName.get p.document.nspace = none → c.namespaces.names.maxKey < u32Max
  items : ∀ n c₁ version ns namespaces,
    applySchemaDelta c p.document.nspace p.replaceAll p.drops = .ok (n, c₁) →
    nextVersion c p.document.nspace = .ok version →
    c.namespaces.internOrGet p.document.nspace = .ok (ns, namespaces) →
    ItemsFit p.document.nspace ns version p.createdAt
      { recordVersion c₁ p.document version p.createdAt p.mode with namespaces } p.document.items

variable {ε : Type} {drops : List DropTarget}

omit [Unicode] in
lemma exists_bind_ok {α β : Type} {x : Except ε α} {f : α → Except ε β} :
    (∃ b, (x >>= f) = .ok b) ↔ ∃ a, x = .ok a ∧ ∃ b, f a = .ok b := by
  constructor
  · rintro ⟨b, h⟩
    obtain ⟨a, ha, hb⟩ := bind_ok h
    exact ⟨a, ha, b, hb⟩
  · rintro ⟨a, rfl, b, hb⟩
    exact ⟨b, hb⟩

omit [Unicode] in
lemma exists_check_ok {β : Type} {x : Except ε Unit} {f : Unit → Except ε β} :
    (∃ b, (x >>= f) = .ok b) ↔ x = .ok () ∧ ∃ b, f () = .ok b := by
  rw [exists_bind_ok]
  constructor
  · rintro ⟨_, hx, hf⟩
    exact ⟨hx, hf⟩
  · rintro ⟨hx, hf⟩
    exact ⟨(), hx, hf⟩

omit [Unicode] in
lemma exists_withError_ok {E E' A : Type} {f : E → E'} {x : Except E A} :
    (∃ a, withError f x = .ok a) ↔ ∃ a, x = .ok a := by
  cases x <;> simp [withError]

omit [Unicode] in
lemma exists_ite_ok {α : Type} {P : Prop} [Decidable P] {a : α} {e : ε} :
    (∃ b, (if P then ok a else error e) = .ok b) ↔ P := by
  split <;> simp_all

omit [Unicode] in
lemma EntityTypes.intern_ok_iff (ns : NamespaceId) (name : String) (now : Nanos) :
    (∃ t', t.intern ns name [] now = .ok t') ↔ t.Admits ns name := by
  unfold intern Admits
  cases t.own ns name with
  | some row => exact exists_ite_ok
  | none => exact exists_ite_ok

omit [Unicode] in
lemma Extractors.intern_ok_iff (t : Extractors) (nspace : String) (x : ExtractorDef)
    (version : Nat) (now : Nanos) (hns : validateExtractorNamespace nspace = .ok ()) :
    (∃ t', t.intern ⟨nspace, x.name⟩ x.kind version x now = .ok t') ↔
      validateExtractorName x.name = .ok () ∧ t.Admits ⟨nspace, x.name⟩ x version := by
  unfold Extractors.intern Extractors.Admits
  rw [hns]
  refine exists_check_ok.trans ((and_iff_right rfl).trans (exists_check_ok.trans ?_))
  refine and_congr_right fun _ => ?_
  cases t.byQname.get ⟨nspace, x.name⟩ with
  | none => exact exists_ite_ok
  | some id =>
    simp only
    cases t.rows.get id with
    | none => simp
    | some row => simpa using exists_ite_ok

omit [Unicode] in
lemma Kinds.intern_ok_iff (t : Kinds) (q : QName) (k : KindDef) (version : Nat)
    (now : Nanos) : (∃ t', t.intern q k version now = .ok t') ↔ t.Admits q k := by
  unfold Kinds.intern Kinds.Admits
  cases t.rows.get q with
  | some row => exact exists_ite_ok
  | none => exact exists_ite_ok

section
variable {nspace : String} {ns : NamespaceId} {version : Nat} {now : Nanos} {c : Catalog}

lemma applyItem_ok_iff (hns : validateExtractorNamespace nspace = .ok ()) (item : SchemaItem) :
    (∃ c', applyItem nspace ns version now c item = .ok c') ↔ ItemFits nspace ns version c item := by
  cases item with
  | entityType e =>
    rw [applyItem, exists_bind_ok, ItemFits, ← intern_ok_iff _ _ _ now]
    simp
  | predicate p | relationType r =>
    rw [applyItem, exists_bind_ok, ItemFits, ← Vocabulary.intern_ok_iff _ _ _ version now]
    simp only [ok.injEq, exists_eq', and_true, exists_withError_ok]
    exact exists_check_ok
  | extractor x =>
    rw [applyItem, exists_bind_ok, ItemFits, ← Extractors.intern_ok_iff _ _ _ version now hns]
    simp only [ok.injEq, exists_eq', and_true, exists_withError_ok]
  | kind k =>
    rw [applyItem, exists_bind_ok, ItemFits, ← Kinds.intern_ok_iff _ _ _ version now]
    simp

lemma applyItems_ok_iff (hns : validateExtractorNamespace nspace = .ok ())
    (items : List SchemaItem) : (∃ c', applyItems nspace ns version now c items = .ok c') ↔
      ItemsFit nspace ns version now c items := by
  induction items generalizing c with
  | nil => exact iff_of_true ⟨c, rfl⟩ trivial
  | cons item items ih =>
    rw [applyItems, exists_bind_ok, ItemsFit, ← applyItem_ok_iff hns item]
    constructor
    · rintro ⟨c₁, hone, hrest⟩
      refine ⟨⟨c₁, hone⟩, ?_⟩
      intro c₂ hone'
      rw [hone] at hone'
      cases hone'
      exact ih.mp hrest
    · rintro ⟨⟨c₁, hone⟩, hrest⟩
      exact ⟨c₁, hone, ih.mpr (hrest c₁ hone)⟩
end

omit [Unicode] in
lemma length_le_utf8ByteSize (s : String) : s.length ≤ s.utf8ByteSize := by
  have hlen : ∀ cs : List Char, cs.length ≤ utf8Len cs := by
    intro cs
    induction cs with
    | nil => simp
    | cons c cs ih =>
      have hpos := Char.utf8Size_pos c
      simp only [utf8Len_cons, List.length_cons]
      omega
  have hbs := utf8ByteSize_ofList s.toList
  rw [ofList_toList] at hbs
  rw [hbs, ← length_toList]
  exact hlen s.toList

omit [Unicode] in
lemma validateIdentifier_ok {length max : Nat} {label s : String}
    (hident : isLowerSnakeIdent s = true) (hlen : length ≤ max) :
    validateIdentifier length max label s = .ok () := by
  unfold isLowerSnakeIdent at hident
  unfold validateIdentifier
  cases hs : s.toList with
  | nil => simp [hs] at hident
  | cons c cs =>
    simp only [hs, Bool.and_eq_true] at hident
    have hmax : ¬max < length := by omega
    simp only [hmax, if_false, hident.1, Bool.not_true, Bool.false_eq_true, List.all_cons,
      Bool.true_or, Bool.true_and, hident.2, if_true]

omit [Unicode] in
lemma validNamespace {d : Document} {ctx : DeclaredContext} (h : validateWith d ctx = []) :
    validatePredicateNamespace d.nspace = .ok () ∧ validateRelationNamespace d.nspace = .ok () ∧
      validateExtractorNamespace d.nspace = .ok () := by
  obtain ⟨hne, _, hident, hbs⟩ := namespace_of_valid h
  have hlen := length_le_utf8ByteSize d.nspace
  refine ⟨validateIdentifier_ok hident hbs, validateIdentifier_ok hident (by omega), ?_⟩
  unfold validateExtractorNamespace
  rw [if_neg hne, if_neg (by omega)]

variable {c : Catalog} {nspace : String} {phase : UpsertSchema}

omit [Unicode] in
lemma nextVersion_ok_iff :
    (∃ v, nextVersion c nspace = .ok v) ↔ ∀ v, c.active.get nspace = some v → v < u32Max := by
  unfold nextVersion
  cases c.active.get nspace with
  | none => simp
  | some v =>
    simp only [Option.some.injEq, forall_eq']
    exact exists_ite_ok

omit [Unicode] in
lemma Namespaces.internOrGet_ok_iff {n : Namespaces} {name : String}
    (hname : name ≠ systemNamespace) :
    (∃ r, n.internOrGet name = .ok r) ↔ (n.byName.get name = none → n.names.maxKey < u32Max) := by
  unfold Namespaces.internOrGet
  rw [if_neg hname]
  cases n.byName.get name with
  | some id => simp
  | none => exact ⟨fun h _ => exists_ite_ok.mp h, fun h => exists_ite_ok.mpr (h rfl)⟩

lemma dropTargets_frame {n m : Nat} {c' : Catalog}
    (h : dropTargets nspace (n, c) drops = .ok (m, c')) :
    c'.active = c.active ∧ c'.namespaces = c.namespaces := by
  induction drops generalizing n c with
  | nil =>
    cases h
    exact ⟨rfl, rfl⟩
  | cons target drops ih =>
    obtain ⟨⟨k, c₁⟩, hone, hrest⟩ := bind_ok h
    have hmany := ih hrest
    cases target with
    | predicate name | relationType name =>
      obtain ⟨_, _, hend⟩ := bind_ok hone
      cases hend
      exact hmany

lemma applySchemaDelta_frame {c' : Catalog} {replaceAll : Bool} {n : Nat}
    (h : applySchemaDelta c nspace replaceAll drops = .ok (n, c')) :
    c'.active = c.active ∧ c'.namespaces = c.namespaces := by
  cases replaceAll with
  | false => exact dropTargets_frame h
  | true =>
    obtain ⟨⟨k, c₁⟩, hall, hrest⟩ := bind_ok (x := dropAll c nspace) h
    have hmany := dropTargets_frame hrest
    obtain ⟨_, _, hall⟩ := bind_ok hall
    obtain ⟨_, _, hall⟩ := bind_ok hall
    obtain ⟨_, _, hall⟩ := bind_ok hall
    cases hall
    exact hmany

lemma applyUpsertSchema_ok_iff {p : UpsertSchema}
    (hval : validateWith p.document (p.context c) = [])
    (hdelta : ∃ r, applySchemaDelta c p.document.nspace p.replaceAll p.drops = .ok r) :
    (∃ r, applyUpsertSchema c p = .ok r) ↔ PhaseFits c p := by
  obtain ⟨⟨n, c₁⟩, hdelta⟩ := hdelta
  have hframe := applySchemaDelta_frame hdelta
  have hsystem := (namespace_of_valid hval).2.1
  have hns := (validNamespace hval).2.2
  have hnext : nextVersion c₁ p.document.nspace = nextVersion c p.document.nspace := by
    simp only [nextVersion, hframe.1]
  have hupsert : (∃ r, applyUpsertSchema c p = .ok r) ↔
      ∃ r, schemaUploadWithMode c₁ p.document p.createdAt p.mode = .ok r := by
    have hstep : applyUpsertSchema c p =
        (schemaUploadWithMode c₁ p.document p.createdAt p.mode >>= fun r =>
          .ok ({ nspace := p.document.nspace, version := r.1, dropped := min n u32Max }, r.2)) := by
      simp only [applyUpsertSchema, hval, ne_eq, not_true_eq_false, if_false, hdelta]
      rfl
    rw [hstep, exists_bind_ok]
    simp
  rw [hupsert, schemaUploadWithMode, exists_bind_ok, hnext]
  constructor
  · rintro ⟨version, hver, hrest⟩
    obtain ⟨c₂, happ, _⟩ := exists_bind_ok.mp hrest
    obtain ⟨⟨ns, namespaces⟩, hint, hitems⟩ := bind_ok happ
    have hintern' : c.namespaces.internOrGet p.document.nspace = .ok (ns, namespaces) := by
      rw [← hframe.2]
      exact hint
    refine ⟨nextVersion_ok_iff.mp ⟨version, hver⟩,
      (Namespaces.internOrGet_ok_iff hsystem).mp ⟨_, hintern'⟩, ?_⟩
    intro n' c₁' version' ns' namespaces' hdelta' hver' hns'
    rw [hdelta] at hdelta'
    cases hdelta'
    rw [hver] at hver'
    cases hver'
    rw [hintern'] at hns'
    cases hns'
    exact (applyItems_ok_iff hns _).mp ⟨c₂, hitems⟩
  · rintro ⟨hver, hnamespace, hitems⟩
    obtain ⟨version, hver⟩ := nextVersion_ok_iff.mpr hver
    obtain ⟨⟨ns, namespaces⟩, hint⟩ := (Namespaces.internOrGet_ok_iff hsystem).mpr hnamespace
    have hfit := hitems n c₁ version ns namespaces hdelta hver hint
    obtain ⟨c₂, happ⟩ := (applyItems_ok_iff hns _).mpr hfit
    refine ⟨version, hver, exists_bind_ok.mpr ⟨c₂, ?_, (version, c₂), rfl⟩⟩
    have hintern' : (recordVersion c₁ p.document version p.createdAt p.mode).namespaces.internOrGet
        p.document.nspace = .ok (ns, namespaces) := by
      rw [← hframe.2] at hint
      exact hint
    simp only [applySchemaDefinitions, hintern']
    exact happ

omit [Unicode] in
lemma handleSchemaReplace_submit {caller : String} {now : Nanos} {req : ReplaceRequest}
    (h : handleSchemaReplace c caller now req = .submit phase) :
    phase = replacePhase req.document now ∧
      validateWith req.document (declaredContext c systemNamespace) = [] := by
  unfold handleSchemaReplace at h
  simp only at h
  split at h
  · cases h
  · split at h
    · cases h
    next hval =>
      split at h
      · cases h
      · cases h
        exact ⟨rfl, by simpa using hval⟩

lemma handleSchemaDrop_submit {caller : String} {now : Nanos} {inUse : Bool}
    {req : DropRequest} (h : handleSchemaDrop c caller now inUse req = .submit phase) :
    ∃ d, phase = dropPhase d req.target req.text now ∧
      validateTarget req.nspace req.target = .ok () ∧
      validateWith phase.document (declaredContext c systemNamespace) = [] := by
  unfold handleSchemaDrop at h
  split at h
  · cases h
  · split at h
    · cases h
    · split at h
      · cases h
      next row _ =>
        split at h
        · cases h
        · split at h
          · cases h
          next htgt =>
            split at h
            · cases h
            · simp only at h
              split at h
              · cases h
              next hval =>
                cases h
                exact ⟨row.source, rfl, htgt, by simpa using hval⟩

lemma dropTarget_ok {nspace' : String} {target : DropTarget}
    (htgt : validateTarget nspace' target = .ok ())
    (hpred : validatePredicateNamespace nspace = .ok ())
    (hrel : validateRelationNamespace nspace = .ok ()) :
    ∃ r, dropTarget c nspace target = .ok r := by
  cases target with
  | predicate name =>
    obtain ⟨_, _, hname⟩ := bind_ok htgt
    have hval : validatePredicateQName ⟨nspace, name⟩ = .ok () := by
      simp only [validatePredicateQName, hpred]
      exact hname
    simp only [dropTarget, hval]
    exact ⟨_, rfl⟩
  | relationType name =>
    obtain ⟨_, _, hname⟩ := bind_ok htgt
    have hval : validateRelationQName ⟨nspace, name⟩ = .ok () := by
      simp only [validateRelationQName, hrel]
      exact hname
    simp only [dropTarget, hval]
    exact ⟨_, rfl⟩

lemma TypeOp.preflight_submit {g : TypedGraph} {op : TypeOp}
    (h : op.preflight g = some (.submit phase)) :
    validateWith phase.document (phase.context g.catalog) = [] ∧
      ∃ r, applySchemaDelta g.catalog phase.document.nspace phase.replaceAll phase.drops =
        .ok r := by
  cases op with
  | upload caller now req =>
    obtain ⟨rfl, hval, _⟩ := handleSchemaUpload_submit (Option.some.inj h)
    exact ⟨hval, _, rfl⟩
  | replace caller now req =>
    obtain ⟨rfl, hval⟩ := handleSchemaReplace_submit (Option.some.inj h)
    obtain ⟨hpred, hrel, hextr⟩ := validNamespace hval
    refine ⟨hval, ?_⟩
    simp only [replacePhase, applySchemaDelta, if_true, dropAll, hpred, hrel, hextr]
    exact ⟨_, rfl⟩
  | drop caller callerId now req =>
    obtain ⟨d, rfl, htgt, hval⟩ := handleSchemaDrop_submit (Option.some.inj h)
    obtain ⟨hpred, hrel, _⟩ := validNamespace hval
    refine ⟨hval, ?_⟩
    obtain ⟨⟨m, c₁⟩, hdrop⟩ := @dropTarget_ok _ g.catalog d.nspace _ _ htgt hpred hrel
    refine ⟨(0 + m, c₁), ?_⟩
    show (dropTarget g.catalog d.nspace req.target >>= fun r => _) = _
    rw [hdrop]
    rfl
  | _ => cases h

variable (g : TypedGraph) (op : TypeOp)

def LoggedApplies : Prop :=
  ∀ phase, op.preflight g = some (.submit phase) →
    ∃ r, applyUpsertSchema g.catalog phase = .ok r

def LoggedFits : Prop :=
  ∀ phase, op.preflight g = some (.submit phase) → PhaseFits g.catalog phase

lemma loggedApplies_iff : LoggedApplies g op ↔ LoggedFits g op := by
  refine forall_congr' fun phase => forall_congr' fun hsub => ?_
  obtain ⟨hval, hdelta⟩ := preflight_submit hsub
  exact applyUpsertSchema_ok_iff hval hdelta

def schemaEngine : Engine Catalog UpsertSchema UpsertSchema UpsertedSchema where
  dispatch _ c p :=
    match applyUpsertSchema c p with
    | .ok (ack, c') => .ok (c', ack)
    | .error (.revalidateFailed _) => .error (.invariant "UpsertSchema re-validate failed")
    | .error _ => .error (.metadata "schema_upload")
  walPayload _ _ p := some p
  hnswEffect index _ := index

def refusedRecords (g : TypedGraph) : List TypeOp → List UpsertSchema
  | [] => []
  | op :: ops =>
    let refused :=
      match op.preflight g with
      | some (.submit phase) => if (applyUpsertSchema g.catalog phase).isOk then [] else [phase]
      | _ => []
    refused ++ refusedRecords (op.step g) ops

lemma refusedRecords_eq_nil_iff (ops : List TypeOp) :
    refusedRecords g ops = [] ↔ Run.EachStep step LoggedApplies g ops := by
  induction ops generalizing g with
  | nil => exact iff_of_true rfl trivial
  | cons op ops ih =>
    simp only [refusedRecords, Run.EachStep, List.append_eq_nil_iff, ih]
    refine and_congr_left fun _ => ?_
    unfold LoggedApplies
    split
    next phase hsub =>
      simp only [hsub, Option.some.injEq, Preflight.submit.injEq, forall_eq']
      cases applyUpsertSchema g.catalog phase <;> simp [Except.isOk, Except.toBool]
    next hoth =>
      refine iff_of_true rfl ?_
      intro phase hsub
      exact absurd hsub (hoth phase)

lemma submit_schema_refused {s : Shard Catalog UpsertSchema UpsertedSchema} {now : Nanos}
    {w : Write UpsertSchema} {phase : UpsertSchema} (hphases : w.phases = [phase])
    (hmiss : (s.lookupWithHash now w.writeId w.requestHash).1 = .miss)
    (hrefused : ∀ r, applyUpsertSchema s.db.tables phase ≠ .ok r) :
    (∃ e, (submit schemaEngine now w s).1 = .error (.refused e)) ∧
      (submit schemaEngine now w s).2.log =
        s.log.append (if w.startedAt ≠ 0 then w.startedAt else now) [.record phase] := by
  have happ : ∃ e, applyPhases schemaEngine w.toCaller [phase] s.db.tables = .error e := by
    cases hph : applyUpsertSchema s.db.tables phase with
    | ok r => exact absurd hph (hrefused r)
    | error e => cases e <;> simp [applyPhases, schemaEngine, hph]
  obtain ⟨e, he⟩ := happ
  simp only [submit, Shard.lookupWithHash_of_miss hmiss, hphases, he, Shard.appended,
    Write.walBatch]
  exact ⟨⟨e, rfl⟩, rfl⟩

/-- A refused record is the one of a request whose submit, at the catalog it meets, appends the record
before the phase is refused: it stays in the log. -/
lemma refused_record_logged {ops : List TypeOp} {phase : UpsertSchema}
    (h : phase ∈ refusedRecords g ops) : ∃ before op after, ops = before ++ op :: after ∧
      op.preflight (before.foldl step g) = some (.submit phase) ∧
      ∀ (s : Shard Catalog UpsertSchema UpsertedSchema) (now : Nanos) (w : Write UpsertSchema),
        s.db.tables = (before.foldl step g).catalog → w.phases = [phase] →
        (s.lookupWithHash now w.writeId w.requestHash).1 = .miss →
        (∃ e, (submit schemaEngine now w s).1 = .error (.refused e)) ∧
          (submit schemaEngine now w s).2.log =
            s.log.append (if w.startedAt ≠ 0 then w.startedAt else now) [.record phase] := by
  induction ops generalizing g with
  | nil => cases h
  | cons op ops ih =>
    rcases List.mem_append.mp h with hhere | hlater
    · split at hhere
      next phase' hsub =>
        split at hhere
        · cases hhere
        next hfails =>
          obtain rfl := List.mem_singleton.mp hhere
          refine ⟨[], op, ops, rfl, hsub, fun s now w htables hphases hmiss => ?_⟩
          refine submit_schema_refused hphases hmiss fun r hr => hfails ?_
          rw [htables] at hr
          exact congrArg Except.isOk hr
      · cases hhere
    · obtain ⟨before, op', after, rfl, hsub, hlog⟩ := ih (op.step g) hlater
      exact ⟨op :: before, op', after, rfl, hsub, hlog⟩

/-- The handlers predict the apply layer, and no record is in the log that it refuses, over exactly
the runs in which every phase that reaches the submit fits the catalog it meets. -/
theorem preflight_predicts_apply_iff (g : TypedGraph) (ops : List TypeOp) :
    (Run.EachStep step LoggedApplies g ops ↔ Run.EachStep step LoggedFits g ops) ∧
      (refusedRecords g ops = [] ↔ Run.EachStep step LoggedFits g ops) := by
  have hiff : Run.EachStep step LoggedApplies g ops ↔
      Run.EachStep step LoggedFits g ops :=
    Run.eachStep_congr loggedApplies_iff g ops
  exact ⟨hiff, (refusedRecords_eq_nil_iff g ops).trans hiff⟩

def datesDocument (others : List SchemaItem) : Document :=
  { nspace := "acme"
    items := .extractor
      { name := "dates", kind := .pattern, target := .statement .fact
        fields := [.patterns ["[0-9]+"]] } :: others
    source := none }

def uploadDates (now : Nanos) (others : List SchemaItem) : TypeOp :=
  .upload "acme" now { document := datesDocument others, dryRun := false }

omit [Unicode] in
/-- The second upload repeats the extractor of the first and adds a predicate. The handler finds
nothing in its way; the extractor's row is at the version before, so the logged phase is refused. -/
theorem logged_upload_refused :
    let likes := factPredicate "likes"
    let g := @TypeOp.step asciiClasses TypedGraph.empty (uploadDates 1 [])
    g.catalog.active.get "acme" = some 1 ∧
      @TypeOp.preflight asciiClasses g (uploadDates 2 [likes]) =
        some (.submit (uploadPhase (datesDocument [likes]) 2)) ∧
      (@applyUpsertSchema asciiClasses g.catalog (uploadPhase (datesDocument [likes]) 2)).map
        Prod.fst = .error (.extractor (.alreadyExists ⟨"acme", "dates"⟩ 1)) ∧
      @refusedRecords asciiClasses TypedGraph.empty [uploadDates 1 [], uploadDates 2 [likes]] =
        [uploadPhase (datesDocument [likes]) 2] := by
  decide

end BrainDb.Schema
