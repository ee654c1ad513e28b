import BrainDb.Schema.Handlers

namespace BrainDb.Schema
open List ExceptLemmas Vocabulary

lemma withError_ok {E E' A : Type} {f : E → E'} {x : Except E A} {a : A}
    (h : withError f x = .ok a) : x = .ok a := by
  cases x with
  | error e => cases h
  | ok b =>
    cases h
    rfl

variable [Unicode]

section
variable {nspace : String} {ns : NamespaceId} {version : Nat} {now : Nanos} {c c' : Catalog}
  {item : SchemaItem} {items : List SchemaItem}

lemma applyItem_predicates (h : applyItem nspace ns version now c item = .ok c') :
    match item.predicateName? with
    | some name => validatePredicateQName ⟨nspace, name⟩ = .ok () ∧ ∃ constraints id,
        c.predicates.intern ⟨nspace, name⟩ constraints version now = .ok (id, c'.predicates)
    | none => c'.predicates = c.predicates := by
  cases item with
  | predicate p =>
    obtain ⟨⟨id, predicates⟩, hint, hend⟩ := bind_ok h
    cases hend
    obtain ⟨_, hval, hrest⟩ := bind_ok (withError_ok hint)
    exact ⟨hval, _, id, hrest⟩
  | _ =>
    obtain ⟨_, _, hend⟩ := bind_ok h
    cases hend
    rfl

lemma applyItem_relationTypes (h : applyItem nspace ns version now c item = .ok c') :
    match item.relationName? with
    | some name => ∃ constraints id,
        c.relationTypes.intern ⟨nspace, name⟩ constraints version now = .ok (id, c'.relationTypes)
    | none => c'.relationTypes = c.relationTypes := by
  cases item with
  | relationType r =>
    obtain ⟨⟨id, relationTypes⟩, hint, hend⟩ := bind_ok h
    cases hend
    obtain ⟨_, hval, hrest⟩ := bind_ok (withError_ok hint)
    exact ⟨_, id, hrest⟩
  | _ =>
    obtain ⟨_, _, hend⟩ := bind_ok h
    cases hend
    rfl

lemma applyItem_versions (h : applyItem nspace ns version now c item = .ok c') :
    c'.versions = c.versions ∧ c'.active = c.active := by
  cases item with
  | entityType e | predicate p | relationType r | extractor x | kind k =>
    obtain ⟨_, _, hend⟩ := bind_ok h
    cases hend
    exact ⟨rfl, rfl⟩

lemma applyItems_versions (h : applyItems nspace ns version now c items = .ok c') :
    c'.versions = c.versions ∧ c'.active = c.active := by
  induction items generalizing c with
  | nil =>
    cases h
    exact ⟨rfl, rfl⟩
  | cons item items ih =>
    obtain ⟨c₁, hitem, hrest⟩ := bind_ok h
    have hone := applyItem_versions hitem
    have hmany := ih hrest
    exact ⟨hmany.1.trans hone.1, hmany.2.trans hone.2⟩

lemma applyItems_predicates (h : applyItems nspace ns version now c items = .ok c') :
    Interned version now c.predicates
        ((items.filterMap (·.predicateName?)).map (⟨nspace, ·⟩)) c'.predicates ∧
      ∀ name ∈ items.filterMap (·.predicateName?),
        validatePredicateQName ⟨nspace, name⟩ = .ok () := by
  induction items generalizing c with
  | nil =>
    cases h
    exact ⟨.nil, by simp⟩
  | cons item items ih =>
    obtain ⟨c₁, hitem, hrest⟩ := bind_ok h
    have hone := applyItem_predicates hitem
    obtain ⟨hmany, hnames⟩ := ih hrest
    cases hname : item.predicateName? with
    | none =>
      rw [hname] at hone
      rw [filterMap_cons_none hname, ← hone]
      exact ⟨hmany, hnames⟩
    | some name =>
      rw [hname] at hone
      obtain ⟨hval, constraints, id, hint⟩ := hone
      rw [filterMap_cons_some hname, map_cons]
      refine ⟨.cons hint hmany, ?_⟩
      intro n hn
      rcases mem_cons.mp hn with rfl | hn
      · exact hval
      · exact hnames n hn

lemma applyItems_relationTypes (h : applyItems nspace ns version now c items = .ok c') :
    Interned version now c.relationTypes
      ((items.filterMap (·.relationName?)).map (⟨nspace, ·⟩)) c'.relationTypes := by
  induction items generalizing c with
  | nil =>
    cases h
    exact .nil
  | cons item items ih =>
    obtain ⟨c₁, hitem, hrest⟩ := bind_ok h
    have hone := applyItem_relationTypes hitem
    have hmany := ih hrest
    cases hname : item.relationName? with
    | none =>
      rw [hname] at hone
      rw [filterMap_cons_none hname, ← hone]
      exact hmany
    | some name =>
      rw [hname] at hone
      obtain ⟨constraints, id, hint⟩ := hone
      rw [filterMap_cons_some hname, map_cons]
      exact .cons hint hmany
end

def predicateQNames (d : Document) : List QName := d.predicateNames.map (⟨d.nspace, ·⟩)

def relationQNames (d : Document) : List QName := d.relationNames.map (⟨d.nspace, ·⟩)

structure Uploaded (c : Catalog) (d : Document) (now : Nanos) (mode : SourceMode)
    (version : Nat) (c' : Catalog) : Prop where
  next : nextVersion c d.nspace = .ok version
  versions : c'.versions = (recordVersion c d version now mode).versions
  active : c'.active = c.active.insert d.nspace version
  predicates : Interned version now c.predicates (predicateQNames d) c'.predicates
  valid : ∀ q ∈ predicateQNames d, validatePredicateQName q = .ok ()
  relationTypes :
    Interned version now c.relationTypes (relationQNames d) c'.relationTypes

lemma schemaUploadWithMode_ok {c c' : Catalog} {d : Document} {now : Nanos}
    {mode : SourceMode} {version : Nat}
    (h : schemaUploadWithMode c d now mode = .ok (version, c')) :
    Uploaded c d now mode version c' := by
  obtain ⟨v, hnext, hrest⟩ := bind_ok h
  obtain ⟨c₁, happ, hend⟩ := bind_ok hrest
  cases hend
  obtain ⟨⟨ns, namespaces⟩, _, hitems⟩ := bind_ok happ
  replace hitems : applyItems d.nspace ns version now
    { recordVersion c d version now mode with namespaces } d.items = .ok c' := hitems
  have hvers := applyItems_versions hitems
  have hpreds := applyItems_predicates hitems
  have hrels := applyItems_relationTypes hitems
  exact
    { next := hnext
      versions := hvers.1
      active := hvers.2
      predicates := hpreds.1
      valid := by
        intro q hq
        obtain ⟨name, hname, rfl⟩ := List.mem_map.mp hq
        exact hpreds.2 name hname
      relationTypes := hrels }

lemma applyUpsertSchema_ok {c c' : Catalog} {p : UpsertSchema} {ack : UpsertedSchema}
    (h : applyUpsertSchema c p = .ok (ack, c')) :
    validateWith p.document (p.context c) = [] ∧ ∃ n c₁ version,
      applySchemaDelta c p.document.nspace p.replaceAll p.drops = .ok (n, c₁) ∧
      Uploaded c₁ p.document p.createdAt p.mode version c' := by
  unfold applyUpsertSchema at h
  simp only at h
  split at h
  · cases h
  next hval =>
    obtain ⟨⟨n, c₁⟩, hdelta, hrest⟩ := bind_ok h
    obtain ⟨⟨version, c₂⟩, hupload, hend⟩ := bind_ok hrest
    cases hend
    exact ⟨by simpa using hval, n, c₁, version, hdelta, schemaUploadWithMode_ok hupload⟩

end BrainDb.Schema
