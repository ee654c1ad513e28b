import BrainDb.Base.Run
import BrainDb.Schema.Growth
import BrainDb.Schema.Upsert

namespace BrainDb.Schema
open List Table ExceptLemmas Vocabulary

inductive StatementVocabularyError where
  | invalid (e : VocabularyError)
  | predicateNotInSchema (q : QName) (version : Nat)
  deriving DecidableEq

def declaredNames (c : Catalog) (nspace : String) : List String :=
  (activeSchema c nspace).elim [] Document.predicateNames

def outsideActiveSchema (c : Catalog) (nspace : String) (version predicate : Nat) : Bool :=
  (c.predicates.rows.get predicate).any (·.qname.nspace = nspace) &&
    !(c.predicates.activeForSchema nspace version).contains predicate

section
variable [Unicode]

def statementPredicate (c : Catalog) (q : QName) :
    Except StatementVocabularyError (Option Nat) := do
  withError .invalid (validatePredicateQName q)
  match c.active.get q.nspace with
  | none => .ok ((c.predicates.lookup q).map (·.id))
  | some version =>
    match c.predicates.lookup q with
    | none => .error (.predicateNotInSchema q version)
    | some row =>
      if row.id ∈ c.predicates.activeForSchema q.nspace version then .ok (some row.id)
      else .error (.predicateNotInSchema q version)

def EnforcesExactly (c : Catalog) (nspace : String) : Prop :=
  ∀ version, c.active.get nspace = some version →
    ∀ id, id ∈ c.predicates.activeForSchema nspace version ↔
      ∃ name ∈ declaredNames c nspace, c.predicates.byQname.get ⟨nspace, name⟩ = some id

structure Enforces (c : Catalog) (nspace : String) : Prop where
  exactly : EnforcesExactly c nspace
  usable : ∀ name ∈ declaredNames c nspace, ∃ id, c.predicates.byQname.get ⟨nspace, name⟩ = some id ∧
    statementPredicate c ⟨nspace, name⟩ = .ok (some id)
  unflagged : ∀ version, c.active.get nspace = some version → ∀ name ∈ declaredNames c nspace,
    ∀ id, c.predicates.byQname.get ⟨nspace, name⟩ = some id →
      outsideActiveSchema c nspace version id = false

def uploaded (c : Catalog) (caller : String) (now : Nanos) (req : UploadRequest) :
    Option Catalog :=
  match handleSchemaUpload c caller now req with
  | .submit phase => (applyUpsertSchema c phase).toOption.map Prod.snd
  | .invalid _ | .refused _ | .answered _ => none

inductive GrowthOp where
  | upload (caller : String) (now : Nanos) (req : UploadRequest)
  | coin (q : QName) (firstSeenLsn : Nat) (now : Nanos)
  | extract (q : QName) (near : Option Nat) (now : Nanos)

open GrowthOp

def GrowthOp.step (c : Catalog) : GrowthOp → Catalog
  | .upload caller now req => (uploaded c caller now req).getD c
  | .coin q lsn now =>
    match predicateInternOrGet c.predicates q lsn now with
    | .ok (_, predicates) => { c with predicates }
    | .error _ => c
  | .extract q near now =>
    match resolveOrInternPredicate c.predicates q near now with
    | .ok (_, predicates) => { c with predicates }
    | .error _ => c

/-- The document declares every predicate of the active source again, under its name or under one
that leads to the same row. -/
def Covers (c : Catalog) (d : Document) : Prop :=
  ∀ name ∈ declaredNames c d.nspace, ∃ name' ∈ d.predicateNames,
    c.predicates.byQname.get ⟨d.nspace, name'⟩ = c.predicates.byQname.get ⟨d.nspace, name⟩

instance (c : Catalog) (d : Document) : Decidable (Covers c d) :=
  inferInstanceAs (Decidable (∀ name ∈ declaredNames c d.nspace, ∃ name' ∈ d.predicateNames, _ = _))

def CoversIfWritten (nspace : String) (c : Catalog) : GrowthOp → Prop
  | .upload caller now req =>
    (uploaded c caller now req).isSome → req.document.nspace = nspace → Covers c req.document
  | .coin _ _ _ | .extract _ _ _ => True

def accepted (c : Catalog) (caller : String) (now : Nanos) (req : UploadRequest) : Bool :=
  (uploaded c caller now req).isSome ||
    match handleSchemaUpload c caller now req with
    | .answered _ => !req.dryRun
    | .submit _ | .invalid _ | .refused _ => false

def GrowthOp.acceptedNames (nspace : String) (c : Catalog) : GrowthOp → List String
  | .upload caller now req =>
    if req.document.nspace = nspace ∧ accepted c caller now req then req.document.predicateNames
    else []
  | .coin _ _ _ | .extract _ _ _ => []

def acceptedNames (nspace : String) (c : Catalog) : List GrowthOp → List String
  | [] => []
  | op :: ops => op.acceptedNames nspace c ++ acceptedNames nspace (op.step c) ops

structure Undeclared (nspace : String) (c : Catalog) : Prop where
  wellIndexed : c.predicates.WellIndexed
  inactive : c.active.get nspace = none
  coined : ∀ version id, ¬c.predicates.DeclaredAt nspace version id

structure Grown (nspace : String) (c : Catalog) : Prop where
  wellIndexed : c.predicates.WellIndexed
  declared {version id : Nat} : c.predicates.DeclaredAt nspace version id →
    ∃ v, c.active.get nspace = some v ∧ version ≤ v
  names {name : String} : name ∈ declaredNames c nspace →
    validatePredicateQName ⟨nspace, name⟩ = .ok () ∧
      ∃ id, c.predicates.byQname.get ⟨nspace, name⟩ = some id

variable {nspace : String} {c c' : Catalog} {now : Nanos} {name : String}

lemma Undeclared.grown (h : Undeclared nspace c) : Grown nspace c where
  wellIndexed := h.wellIndexed
  declared hat := absurd hat (h.coined _ _)
  names hname := by simp [declaredNames, activeSchema, h.inactive] at hname

omit [Unicode] in
lemma Undeclared.enforcesExactly (h : Undeclared nspace c) : EnforcesExactly c nspace := by
  intro version hact
  rw [h.inactive] at hact
  cases hact

omit [Unicode] in
lemma active_of_declaredNames (h : name ∈ declaredNames c nspace) :
    ∃ version, c.active.get nspace = some version := by
  cases hact : c.active.get nspace with
  | none => simp [declaredNames, activeSchema, hact] at h
  | some version => exact ⟨version, rfl⟩

lemma Grown.enforces (hgr : Grown nspace c) (h : EnforcesExactly c nspace) : Enforces c nspace where
  exactly := h
  usable name hname := by
    obtain ⟨hval, id, hid⟩ := hgr.names hname
    obtain ⟨version, hact⟩ := active_of_declaredNames hname
    obtain ⟨row, hrow, _⟩ := hgr.wellIndexed.index hid
    have hmem := (h version hact id).mpr ⟨name, hname, hid⟩
    have hown := (hgr.wellIndexed.own hrow).1
    have hlookup : c.predicates.lookup ⟨nspace, name⟩ = some row := by
      simp [Vocabulary.lookup, hid, hrow]
    refine ⟨id, hid, ?_⟩
    simp [statementPredicate, hval, withError, bind, Except.bind, hact, hlookup, hown, hmem]
  unflagged version hact name hname id hid := by
    have hmem := (h version hact id).mpr ⟨name, hname, hid⟩
    simp [outsideActiveSchema, hmem]

structure SameDeclared (nspace : String) (c c' : Catalog) : Prop where
  wellIndexed : c'.predicates.WellIndexed
  index_kept {q : QName} {id : Nat} : c.predicates.byQname.get q = some id →
    c'.predicates.byQname.get q = some id
  declaredAt {version id : Nat} :
    c'.predicates.DeclaredAt nspace version id ↔ c.predicates.DeclaredAt nspace version id
  active : c'.active.get nspace = c.active.get nspace
  source : activeSchema c' nspace = activeSchema c nspace

namespace SameDeclared

omit [Unicode] in
lemma declaredNames_eq (h : SameDeclared nspace c c') :
    declaredNames c' nspace = declaredNames c nspace := by
  rw [declaredNames, declaredNames, h.source]

lemma index_eq (h : SameDeclared nspace c c') (hgr : Grown nspace c)
    (hname : name ∈ declaredNames c nspace) :
    c'.predicates.byQname.get ⟨nspace, name⟩ = c.predicates.byQname.get ⟨nspace, name⟩ := by
  obtain ⟨_, id, hid⟩ := hgr.names hname
  rw [hid]
  exact h.index_kept hid

lemma grown (h : SameDeclared nspace c c') (hgr : Grown nspace c) : Grown nspace c' where
  wellIndexed := h.wellIndexed
  declared hat := by
    rw [h.active]
    exact hgr.declared (h.declaredAt.mp hat)
  names hname := by
    rw [h.declaredNames_eq] at hname
    rw [h.index_eq hgr hname]
    exact hgr.names hname

lemma enforcesExactly_iff (h : SameDeclared nspace c c') (hgr : Grown nspace c) :
    EnforcesExactly c' nspace ↔ EnforcesExactly c nspace := by
  have hdecl : ∀ id, (∃ name ∈ declaredNames c' nspace,
      c'.predicates.byQname.get ⟨nspace, name⟩ = some id) ↔
      ∃ name ∈ declaredNames c nspace, c.predicates.byQname.get ⟨nspace, name⟩ = some id := by
    intro id
    rw [h.declaredNames_eq]
    refine exists_congr fun name => and_congr_right fun hname => ?_
    rw [h.index_eq hgr hname]
  simp only [EnforcesExactly, mem_activeForSchema h.wellIndexed,
    mem_activeForSchema hgr.wellIndexed, h.active, h.declaredAt, hdecl]

end SameDeclared

omit [Unicode] in
lemma Vocabulary.Coined.sameDeclared {predicates : Vocabulary PredicateConstraints}
    (h : Coined c.predicates predicates) :
    SameDeclared nspace c { c with predicates } where
  wellIndexed := h.wellIndexed
  index_kept := h.index_kept
  declaredAt := h.declaredAt
  active := rfl
  source := rfl

variable {v v' : Vocabulary PredicateConstraints} {id : Nat}

lemma coined_predicateInternOrGet (h : v.WellIndexed) {q : QName} {lsn : Nat}
    (hint : predicateInternOrGet v q lsn now = .ok (id, v')) : Coined v v' := by
  obtain ⟨_, _, hrest⟩ := bind_ok hint
  exact coined_internOrGet h hrest

lemma coined_resolveOrInternPredicate (h : v.WellIndexed) {q : QName} {near : Option Nat}
    (hres : resolveOrInternPredicate v q near now = .ok (id, v')) : Coined v v' := by
  rcases resolveOrInternPredicate_cases hres with ⟨_, rfl⟩ | ⟨hq, hsyn, rfl⟩ | ⟨_, _, hmint⟩
  · exact ⟨h, fun hq => hq, Iff.rfl⟩
  · obtain ⟨row, hrow, hns, halias⟩ := synonym_some hsyn
    exact coined_aliasQname h hq hrow hns halias
  · exact coined_predicateInternOrGet h hmint

omit [Unicode] in
lemma itemKey_eq_predicate {item : SchemaItem} :
    itemKey item = (1, name) ↔ item.predicateName? = some name := by
  cases item <;> simp [itemKey, SchemaItem.predicateName?]

omit [Unicode] in
lemma mem_mergeSchemaItems {active d : Document} :
    name ∈ (mergeSchemaItems active d).filterMap (·.predicateName?) ↔
      name ∈ active.predicateNames ∨ name ∈ d.predicateNames := by
  simp only [mergeSchemaItems, filterMap_append, mem_append]
  constructor
  · rintro (h | h)
    · obtain ⟨item, hitem, hname⟩ := mem_filterMap.mp h
      exact .inl (mem_filterMap.mpr ⟨item, mem_of_mem_filter hitem, hname⟩)
    · exact .inr h
  · rintro (h | h)
    · obtain ⟨item, hitem, hname⟩ := mem_filterMap.mp h
      by_cases hkey : itemKey item ∈ d.items.map itemKey
      · obtain ⟨item', hitem', heq⟩ := mem_map.mp hkey
        rw [itemKey_eq_predicate.mpr hname, itemKey_eq_predicate] at heq
        exact .inr (mem_filterMap.mpr ⟨item', hitem', heq⟩)
      · refine .inl (mem_filterMap.mpr ⟨item, mem_filter.mpr ⟨hitem, ?_⟩, hname⟩)
        simpa using hkey
    · exact .inr h

lemma uploaded_some {caller : String} {req : UploadRequest}
    (h : uploaded c caller now req = some c') :
    ∃ version, Uploaded c req.document now .merge version c' := by
  unfold uploaded at h
  split at h
  next phase hsub =>
    obtain ⟨rfl, _, _⟩ := handleSchemaUpload_submit hsub
    cases happ : applyUpsertSchema c (uploadPhase req.document now) with
    | error e => simp [happ, Except.toOption] at h
    | ok r =>
      simp only [happ, Except.toOption, Option.map_some, Option.some.injEq] at h
      subst h
      obtain ⟨_, n, c₂, version, hdelta, hupload⟩ := applyUpsertSchema_ok happ
      cases hdelta
      exact ⟨version, hupload⟩
  · cases h
  · cases h
  · cases h

omit [Unicode] in
lemma nextVersion_lt {version : Nat} (h : nextVersion c nspace = .ok version) :
    0 < version ∧ ∀ v, c.active.get nspace = some v → v < version := by
  unfold nextVersion at h
  split at h
  next v hv =>
    split at h
    · cases h
      refine ⟨by omega, ?_⟩
      intro v' hv'
      rw [hv] at hv'
      cases hv'
      omega
    · cases h
  next hv =>
    cases h
    refine ⟨by omega, ?_⟩
    intro v' hv'
    rw [hv] at hv'
    cases hv'

namespace Uploaded
variable {d : Document} {version : Nat} (h : Uploaded c d now .merge version c')

include h

lemma carried (hwell : c.predicates.WellIndexed) :
    Carried version c.predicates (predicateQNames d) c'.predicates :=
  h.predicates.carried hwell (nextVersion_lt h.next).1

lemma active_self : c'.active.get d.nspace = some version := by
  rw [h.active, get_insert_self]

lemma activeSchema_self : activeSchema c' d.nspace = some (storedDocument c d .merge) := by
  have hrow : c'.versions.get ⟨d.nspace, version⟩ =
      some ⟨version, now, storedDocument c d .merge, d.source⟩ := by
    rw [h.versions]
    exact get_insert_self _ _ _
  have hns : (storedDocument c d .merge).nspace = d.nspace := by
    unfold storedDocument
    cases activeSchema c d.nspace <;> rfl
  simp [activeSchema, h.active_self, hrow, hns]

lemma mem_declaredNames : name ∈ declaredNames c' d.nspace ↔
      name ∈ declaredNames c d.nspace ∨ name ∈ d.predicateNames := by
  simp only [declaredNames, h.activeSchema_self, Option.elim_some]
  unfold storedDocument
  cases hact : activeSchema c d.nspace with
  | none => simp
  | some active => exact mem_mergeSchemaItems

lemma activeSchema_other (hns : nspace ≠ d.nspace) : c'.active.get nspace = c.active.get nspace ∧
      activeSchema c' nspace = activeSchema c nspace := by
  have hact : c'.active.get nspace = c.active.get nspace := by
    rw [h.active]
    exact get_insert_ne _ _ hns
  have hrows : ∀ v, c'.versions.get ⟨nspace, v⟩ = c.versions.get ⟨nspace, v⟩ := by
    intro v
    rw [h.versions]
    refine get_insert_ne _ _ ?_
    intro heq
    exact hns (congrArg VersionKey.nspace heq)
  simp only [activeSchema, hact, hrows, true_and]

lemma sameDeclared (hwell : c.predicates.WellIndexed)
    (hns : nspace ≠ d.nspace) : SameDeclared nspace c c' := by
  have hcarr := h.carried hwell
  -- a row of this namespace is not one that a name of the document leads to
  have hold : ∀ {id row}, c'.predicates.rows.get id = some row → row.qname.nspace = nspace →
      c.predicates.rows.get id = some row := by
    intro id row hrow hrowns
    rcases hcarr.rows_from hrow with hsame | ⟨_, q, hq, hidx⟩
    · exact hsame
    · obtain ⟨row', hrow', hrowns'⟩ := hcarr.wellIndexed.index hidx
      obtain ⟨name, _, rfl⟩ := mem_map.mp hq
      rw [hrow] at hrow'
      cases hrow'
      exact absurd (hrowns.symm.trans hrowns') hns
  refine ⟨hcarr.wellIndexed, hcarr.index_kept, ?_, (h.activeSchema_other hns).1,
    (h.activeSchema_other hns).2⟩
  intro v id
  constructor
  · rintro ⟨row, hrow, hrowns, horg⟩
    exact ⟨row, hold hrow hrowns, hrowns, horg⟩
  · rintro ⟨row, hrow, hrowns, horg⟩
    obtain ⟨row', hrow', hrowns'⟩ := hcarr.rows_kept hrow
    have hsame := hold hrow' (hrowns'.trans hrowns)
    rw [hrow] at hsame
    cases hsame
    exact ⟨row, hrow', hrowns, horg⟩

lemma declaredAt_iff (hgr : Grown d.nspace c) : c'.predicates.DeclaredAt d.nspace version id ↔
      ∃ name ∈ d.predicateNames, c'.predicates.byQname.get ⟨d.nspace, name⟩ = some id := by
  have hcarr := h.carried hgr.wellIndexed
  constructor
  · rintro ⟨row, hrow, hrowns, horg⟩
    rcases hcarr.rows_from hrow with hold | ⟨_, q, hq, hidx⟩
    · obtain ⟨v, hv, hle⟩ := hgr.declared ⟨row, hold, hrowns, horg⟩
      have hlt := (nextVersion_lt h.next).2 v hv
      omega
    · obtain ⟨name, hname, rfl⟩ := mem_map.mp hq
      exact ⟨name, hname, hidx⟩
  · rintro ⟨name, hname, hidx⟩
    obtain ⟨id', row, hidx', hrow, horg⟩ := hcarr.declared (mem_map.mpr ⟨name, hname, rfl⟩)
    rw [hidx] at hidx'
    cases hidx'
    obtain ⟨row', hrow', hrowns⟩ := hcarr.wellIndexed.index hidx
    rw [hrow] at hrow'
    cases hrow'
    exact ⟨row, hrow, hrowns, horg⟩

lemma grown (hgr : Grown d.nspace c) : Grown d.nspace c' := by
  have hcarr := h.carried hgr.wellIndexed
  refine ⟨hcarr.wellIndexed, ?_, ?_⟩
  · rintro v id ⟨row, hrow, hrowns, horg⟩
    refine ⟨version, h.active_self, ?_⟩
    rcases hcarr.rows_from hrow with hold | ⟨hnew, _⟩
    · obtain ⟨v', hv', hle⟩ := hgr.declared ⟨row, hold, hrowns, horg⟩
      have hlt := (nextVersion_lt h.next).2 v' hv'
      omega
    · rw [horg] at hnew
      cases hnew
      exact le_refl version
  · intro name hname
    rcases h.mem_declaredNames.mp hname with hold | hnew
    · obtain ⟨hval, id, hid⟩ := hgr.names hold
      exact ⟨hval, id, hcarr.index_kept hid⟩
    · have hq : (⟨d.nspace, name⟩ : QName) ∈ predicateQNames d := mem_map.mpr ⟨name, hnew, rfl⟩
      obtain ⟨id, _, hid, _⟩ := hcarr.declared hq
      exact ⟨h.valid _ hq, id, hid⟩

lemma enforcesExactly_iff (hgr : Grown d.nspace c) : EnforcesExactly c' d.nspace ↔ Covers c d := by
  have hcarr := h.carried hgr.wellIndexed
  constructor
  · intro henf name hname
    obtain ⟨_, id, hid⟩ := hgr.names hname
    have hmem := (henf version h.active_self id).mpr
      ⟨name, h.mem_declaredNames.mpr (.inl hname), hcarr.index_kept hid⟩
    rw [mem_activeForSchema hcarr.wellIndexed, h.declaredAt_iff hgr] at hmem
    obtain ⟨name', hname', hidx⟩ := hmem
    obtain ⟨row, hrow, _⟩ := hgr.wellIndexed.index hid
    -- the row was there before, so the name led to it before
    exact ⟨name', hname', (hcarr.index_old hidx hrow).trans hid.symm⟩
  · intro hcovers v hv id
    rw [h.active_self] at hv
    cases hv
    rw [mem_activeForSchema hcarr.wellIndexed, h.declaredAt_iff hgr]
    constructor
    · rintro ⟨name, hname, hidx⟩
      exact ⟨name, h.mem_declaredNames.mpr (.inr hname), hidx⟩
    · rintro ⟨name, hname, hidx⟩
      rcases h.mem_declaredNames.mp hname with hold | hnew
      · obtain ⟨_, id', hid'⟩ := hgr.names hold
        have hsame := hcarr.index_kept hid'
        rw [hidx] at hsame
        cases hsame
        obtain ⟨name', hname', heq⟩ := hcovers name hold
        exact ⟨name', hname', hcarr.index_kept (heq.trans hid')⟩
      · exact ⟨name, hnew, hidx⟩

end Uploaded

omit [Unicode] in
lemma mem_declaredNames_of_covers {d : Document} (h : activeSourceCovers c d = true)
    (hname : name ∈ d.predicateNames) : name ∈ declaredNames c d.nspace := by
  obtain ⟨item, hitem, hitemName⟩ := mem_filterMap.mp hname
  unfold activeSourceCovers at h
  cases hsrc : activeSchema c d.nspace with
  | none =>
    simp only [hsrc, List.isEmpty_iff] at h
    rw [h] at hitem
    cases hitem
  | some active =>
    simp only [hsrc, List.all_eq_true, contains_iff_mem] at h
    obtain ⟨item', hitem', hkey⟩ := mem_map.mp (h item hitem)
    rw [itemKey_eq_predicate.mpr hitemName, itemKey_eq_predicate] at hkey
    simp only [declaredNames, hsrc, Option.elim_some]
    exact mem_filterMap.mpr ⟨item', hitem', hkey⟩

lemma GrowthOp.mem_declaredNames_step (nspace : String) (c : Catalog) (op : GrowthOp)
    (name : String) : name ∈ declaredNames (op.step c) nspace ↔
      name ∈ declaredNames c nspace ∨ name ∈ op.acceptedNames nspace c := by
  cases op with
  | upload caller now req =>
    simp only [step, acceptedNames]
    cases hup : uploaded c caller now req with
    | some c' =>
      obtain ⟨version, hupload⟩ := uploaded_some hup
      have haccepted : accepted c caller now req = true := by simp [accepted, hup]
      by_cases hns : req.document.nspace = nspace
      · subst hns
        simp only [Option.getD_some, haccepted, and_self, if_true]
        exact hupload.mem_declaredNames
      · have hoth := (hupload.activeSchema_other fun h => hns h.symm).2
        simp [declaredNames, hoth, hns]
    | none =>
      constructor
      · exact .inl
      · rintro (hold | hnew)
        · exact hold
        · split at hnew
          next hacc =>
            obtain ⟨rfl, hacc⟩ := hacc
            simp only [accepted, hup, Option.isSome_none, Bool.false_or] at hacc
            split at hacc
            next version hanswered =>
              have hreal : req.dryRun = false := by simpa using hacc
              have hcovers := (handleSchemaUpload_answered hreal hanswered).2
              exact mem_declaredNames_of_covers hcovers hnew
            · cases hacc
            · cases hacc
            · cases hacc
          · cases hnew
  | coin q lsn now | extract q near now =>
    simp only [step, acceptedNames, not_mem_nil, or_false]
    split <;> exact Iff.rfl

lemma mem_declaredNames_run (nspace : String) (c : Catalog) (ops : List GrowthOp)
    (name : String) : name ∈ declaredNames (ops.foldl step c) nspace ↔
      name ∈ declaredNames c nspace ∨ name ∈ acceptedNames nspace c ops := by
  induction ops generalizing c with
  | nil => simp [acceptedNames]
  | cons op ops ih =>
    rw [foldl_cons, ih, op.mem_declaredNames_step, acceptedNames, mem_append, or_assoc]

lemma GrowthOp.step_cases (nspace : String) (hwell : c.predicates.WellIndexed) (op : GrowthOp) :
    (SameDeclared nspace c (op.step c) ∧ CoversIfWritten nspace c op) ∨
      ∃ caller now req version, op = .upload caller now req ∧ req.document.nspace = nspace ∧
        (uploaded c caller now req).isSome ∧
        Uploaded c req.document now .merge version (op.step c) := by
  have hrefl : SameDeclared nspace c c := ⟨hwell, fun hq => hq, Iff.rfl, rfl, rfl⟩
  cases op with
  | upload caller now req =>
    simp only [step, CoversIfWritten]
    cases hup : uploaded c caller now req with
    | none =>
      refine .inl ⟨hrefl, ?_⟩
      intro hwritten
      simp at hwritten
    | some c' =>
      obtain ⟨version, hupload⟩ := uploaded_some hup
      by_cases hns : req.document.nspace = nspace
      · exact .inr ⟨caller, now, req, version, rfl, hns, by simp [hup], hupload⟩
      · exact .inl ⟨hupload.sameDeclared hwell fun h => hns h.symm, fun _ h => absurd h hns⟩
  | coin q lsn now =>
    simp only [step]
    split
    next predicates hint =>
      exact .inl ⟨(coined_predicateInternOrGet hwell hint).sameDeclared, trivial⟩
    · exact .inl ⟨hrefl, trivial⟩
  | extract q near now =>
    simp only [step]
    split
    next predicates hres =>
      exact .inl ⟨(coined_resolveOrInternPredicate hwell hres).sameDeclared, trivial⟩
    · exact .inl ⟨hrefl, trivial⟩

lemma GrowthOp.step_grown (hgr : Grown nspace c) (op : GrowthOp) : Grown nspace (op.step c) := by
  rcases step_cases nspace hgr.wellIndexed op with
    ⟨hsame, _⟩ | ⟨caller, now, req, version, _, rfl, _, hupload⟩
  · exact hsame.grown hgr
  · exact hupload.grown hgr

lemma GrowthOp.step_enforces (hgr : Grown nspace c) (henf : Enforces c nspace) (op : GrowthOp) :
    Enforces (op.step c) nspace ↔ CoversIfWritten nspace c op := by
  refine Iff.trans ⟨Enforces.exactly, (op.step_grown hgr).enforces⟩ ?_
  rcases step_cases nspace hgr.wellIndexed op with
    ⟨hsame, hcovers⟩ | ⟨caller, now, req, version, hop, rfl, hwritten, hupload⟩
  · exact iff_of_true ((hsame.enforcesExactly_iff hgr).mpr henf.exactly) hcovers
  · rw [hupload.enforcesExactly_iff hgr, hop]
    exact ⟨fun h _ _ => h, fun h => h hwritten rfl⟩

/-- From before its first upload on, a namespace's active source declares what its accepted uploads
declared, and the active version enforces it in every state iff each written upload covers what was
declared. -/
theorem uploads_enforced_iff {nspace : String} {c : Catalog} (h : Undeclared nspace c)
    (ops : List GrowthOp) : (∀ name, name ∈ declaredNames (ops.foldl step c) nspace ↔
      name ∈ acceptedNames nspace c ops) ∧ (Run.Always step (Enforces · nspace) c ops ↔
      Run.EachStep step (CoversIfWritten nspace) c ops) := by
  constructor
  · intro name
    have hnone : declaredNames c nspace = [] := by simp [declaredNames, activeSchema, h.inactive]
    rw [mem_declaredNames_run, hnone]
    simp
  · exact Run.always_iff_eachStep (fun _ op hgr => op.step_grown hgr)
      (fun _ op hgr henf => op.step_enforces hgr henf) h.grown
      (h.grown.enforces h.enforcesExactly) ops
end

def uploadFacts (now : Nanos) (names : List String) : GrowthOp :=
  .upload "acme" now { document := factDocument "acme" names, dryRun := false }

lemma undeclared_empty (nspace : String) : Undeclared nspace Catalog.empty where
  wellIndexed := ⟨nofun, nofun⟩
  inactive := rfl
  coined version id h := by
    obtain ⟨_, hrow, _⟩ := h
    cases hrow

theorem widening_upload_enforced : Undeclared "acme" Catalog.empty ∧
      Run.Always (@GrowthOp.step asciiClasses) (@Enforces asciiClasses · "acme") Catalog.empty
        [uploadFacts 1 ["likes"], uploadFacts 2 ["likes", "owns"]] := by
  let := asciiClasses
  refine ⟨undeclared_empty "acme", (uploads_enforced_iff (undeclared_empty "acme") _).2.mpr ?_⟩
  refine ⟨?_, ?_, trivial⟩
  · intro _ _
    decide
  · intro _ _
    decide

/-- A second upload that does not: its namespace's source still declares the first predicate, which
can no longer be stated and whose statements are flagged. -/
theorem narrow_upload_not_enforced :
    let c := [uploadFacts 1 ["likes"], uploadFacts 2 ["owns"]].foldl (@GrowthOp.step asciiClasses)
      Catalog.empty
    c.active.get "acme" = some 2 ∧ declaredNames c "acme" = ["likes", "owns"] ∧
      c.predicates.byQname.get ⟨"acme", "likes"⟩ = some 1 ∧
      c.predicates.activeForSchema "acme" 2 = [2] ∧
      @statementPredicate asciiClasses c ⟨"acme", "likes"⟩ =
        .error (.predicateNotInSchema ⟨"acme", "likes"⟩ 2) ∧
      outsideActiveSchema c "acme" 2 1 = true ∧ ¬@Enforces asciiClasses c "acme" := by
  refine ⟨by decide, by decide, by decide, by decide, by decide, by decide, ?_⟩
  intro h
  have hexactly := @Enforces.exactly asciiClasses _ _ h
  have hmem := (hexactly 2 (by decide) 1).mpr ⟨"likes", by decide, by decide⟩
  exact absurd hmem (by decide)

end BrainDb.Schema
