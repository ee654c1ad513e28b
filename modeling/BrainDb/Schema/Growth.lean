import BrainDb.Schema.Vocabulary

namespace BrainDb.Schema
open List Table

def SchemaOrigin.version : SchemaOrigin → Nat
  | schemaDeclared v => v
  | implicitFromWrite _ => 0

namespace Vocabulary
variable {C : Type}

structure WellIndexed (v : Vocabulary C) : Prop where
  own {id : Nat} {row : Definition C} : v.rows.get id = some row →
    row.id = id ∧ row.schemaVersion = row.origin.version
  index {q : QName} {id : Nat} : v.byQname.get q = some id →
    ∃ row, v.rows.get id = some row ∧ row.qname.nspace = q.nspace

def DeclaredAt (v : Vocabulary C) (nspace : String) (version id : Nat) : Prop :=
  ∃ row, v.rows.get id = some row ∧ row.qname.nspace = nspace ∧ row.origin = .schemaDeclared version

variable {v : Vocabulary C} {id : Nat} {row : Definition C} {q : QName}

lemma mem_activeForSchema (h : v.WellIndexed) {nspace : String} {version : Nat} :
    id ∈ v.activeForSchema nspace version ↔ v.DeclaredAt nspace version id := by
  simp only [activeForSchema, List.mem_map, mem_filter, decide_eq_true_eq]
  constructor
  · rintro ⟨⟨k, row⟩, ⟨hmem, hns, horg⟩, rfl⟩
    have hrow := (mem_entries_iff _).mp hmem
    have hid := (h.own hrow).1
    rw [hid]
    exact ⟨row, hrow, hns, horg⟩
  · rintro ⟨row, hrow, hns, horg⟩
    exact ⟨(id, row), ⟨(mem_entries_iff _).mpr hrow, hns, horg⟩, (h.own hrow).1⟩

lemma WellIndexed.register (h : v.WellIndexed) (hver : row.schemaVersion = row.origin.version)
    (hfresh : v.rows.get row.id = none) : (v.register row).WellIndexed where
  own := by
    intro id r hr
    rw [Vocabulary.register, get_insert] at hr
    split at hr
    next hid =>
      cases hr
      exact ⟨hid.symm, hver⟩
    · exact h.own hr
  index := by
    intro q id hq
    rw [Vocabulary.register, get_insert] at hq
    split at hq
    next hname =>
      cases hq
      exact ⟨row, get_insert_self _ _ _, by rw [hname]⟩
    · obtain ⟨r, hr, hns⟩ := h.index hq
      have hne : id ≠ row.id := by
        rintro rfl
        rw [hfresh] at hr
        cases hr
      refine ⟨r, ?_, hns⟩
      exact (get_insert_ne _ _ hne).trans hr

structure Carried (version : Nat) (v : Vocabulary C) (qs : List QName) (v' : Vocabulary C) :
    Prop where
  wellIndexed : v'.WellIndexed
  index_kept {q : QName} {id : Nat} : v.byQname.get q = some id → v'.byQname.get q = some id
  index_old {q : QName} {id : Nat} {row : Definition C} : v'.byQname.get q = some id →
    v.rows.get id = some row → v.byQname.get q = some id
  rows_kept {id : Nat} {row : Definition C} : v.rows.get id = some row →
    ∃ row', v'.rows.get id = some row' ∧ row'.qname.nspace = row.qname.nspace
  declared {q : QName} : q ∈ qs → ∃ id row, v'.byQname.get q = some id ∧
    v'.rows.get id = some row ∧ row.origin = .schemaDeclared version
  rows_from {id : Nat} {row : Definition C} : v'.rows.get id = some row →
    v.rows.get id = some row ∨
      row.origin = .schemaDeclared version ∧ ∃ q ∈ qs, v'.byQname.get q = some id

variable {c : C}

section
variable {v v' : Vocabulary C} {version : Nat} {now : Nanos}

lemma Carried.nil (h : v.WellIndexed) : Carried version v [] v where
  wellIndexed := h
  index_kept hq := hq
  index_old hq _ := hq
  rows_kept hr := ⟨_, hr, rfl⟩
  declared hq := by cases hq
  rows_from hr := .inl hr

lemma Carried.cons {v₁ : Vocabulary C} {qs : List QName} (hone : Carried version v [q] v₁)
    (hrest : Carried version v₁ qs v') : Carried version v (q :: qs) v' where
  wellIndexed := hrest.wellIndexed
  index_kept hq := hrest.index_kept (hone.index_kept hq)
  index_old hq hr := by
    obtain ⟨row₁, hr₁, _⟩ := hone.rows_kept hr
    exact hone.index_old (hrest.index_old hq hr₁) hr
  rows_kept hr := by
    obtain ⟨row₁, hr₁, hns₁⟩ := hone.rows_kept hr
    obtain ⟨row', hr', hns'⟩ := hrest.rows_kept hr₁
    exact ⟨row', hr', hns'.trans hns₁⟩
  declared hq := by
    rcases mem_cons.mp hq with rfl | hq
    · obtain ⟨id, row₁, hidx, hr₁, horg⟩ := hone.declared mem_cons_self
      obtain ⟨row', hr', _⟩ := hrest.rows_kept hr₁
      refine ⟨id, row', hrest.index_kept hidx, hr', ?_⟩
      rcases hrest.rows_from hr' with hold | hnew
      · rw [hr₁] at hold
        cases hold
        exact horg
      · exact hnew.1
    · exact hrest.declared hq
  rows_from hr := by
    rcases hrest.rows_from hr with hold | ⟨horg, q', hq', hidx⟩
    · rcases hone.rows_from hold with holder | ⟨horg, q', hq', hidx⟩
      · exact .inl holder
      · rw [mem_singleton] at hq'
        subst hq'
        exact .inr ⟨horg, _, mem_cons_self, hrest.index_kept hidx⟩
    · exact .inr ⟨horg, q', mem_cons_of_mem q hq', hidx⟩

lemma carried_rewrite (h : v.WellIndexed) (hq : v.byQname.get q = some id)
    (hrow : v.rows.get id = some row) :
    Carried version v [q] { v with rows := v.rows.insert id (declaredRow id q c version now) } := by
  have hns : row.qname.nspace = q.nspace := by
    obtain ⟨row', hrow', hns⟩ := h.index hq
    rw [hrow] at hrow'
    cases hrow'
    exact hns
  -- the row keeps its id and its namespace
  have hkept : ∀ {k : Nat} {r : Definition C}, v.rows.get k = some r →
      ∃ r', (v.rows.insert id (declaredRow id q c version now)).get k = some r' ∧
        r'.qname.nspace = r.qname.nspace := by
    intro k r hr
    rw [get_insert]
    split
    next hk =>
      subst hk
      rw [hrow] at hr
      cases hr
      exact ⟨_, rfl, hns.symm⟩
    · exact ⟨r, hr, rfl⟩
  refine ⟨⟨?_, ?_⟩, fun hq' => hq', fun hq' _ => hq', hkept, ?_, ?_⟩
  · intro k r hr
    rw [get_insert] at hr
    split at hr
    next hk =>
      cases hr
      exact ⟨hk.symm, rfl⟩
    · exact h.own hr
  · intro q' k hq'
    obtain ⟨r, hr, hns'⟩ := h.index hq'
    obtain ⟨r', hr', hns''⟩ := hkept hr
    exact ⟨r', hr', hns''.trans hns'⟩
  · intro q' hq'
    rw [mem_singleton] at hq'
    subst hq'
    exact ⟨id, _, hq, get_insert_self _ _ _, rfl⟩
  · intro k r hr
    rw [get_insert] at hr
    split at hr
    next hk =>
      cases hr
      subst hk
      exact .inr ⟨rfl, q, mem_cons_self, hq⟩
    · exact .inl hr

lemma carried_register (h : v.WellIndexed) (hq : v.byQname.get q = none)
    (hfresh : v.rows.get id = none) :
    Carried version v [q] (v.register (declaredRow id q c version now)) := by
  have hrows : ∀ k, (v.register (declaredRow id q c version now)).rows.get k =
      if k = id then some (declaredRow id q c version now) else v.rows.get k :=
    fun k => get_insert _ _ _ _
  have hidx : ∀ q', (v.register (declaredRow id q c version now)).byQname.get q' =
      if q' = q then some id else v.byQname.get q' :=
    fun q' => get_insert _ _ _ _
  refine ⟨h.register rfl hfresh, ?_, ?_, ?_, ?_, ?_⟩
  · intro q' k hq'
    rw [hidx, if_neg]
    · exact hq'
    · rintro rfl
      rw [hq] at hq'
      cases hq'
  · intro q' k r hq' hr
    rw [hidx] at hq'
    split at hq'
    · cases hq'
      rw [hfresh] at hr
      cases hr
    · exact hq'
  · intro k r hr
    refine ⟨r, ?_, rfl⟩
    rw [hrows, if_neg]
    · exact hr
    · rintro rfl
      rw [hfresh] at hr
      cases hr
  · intro q' hq'
    rw [mem_singleton] at hq'
    subst hq'
    exact ⟨id, _, by rw [hidx, if_pos rfl], by rw [hrows, if_pos rfl], rfl⟩
  · intro k r hr
    rw [hrows] at hr
    split at hr
    next hk =>
      cases hr
      exact .inr ⟨rfl, q, mem_cons_self, by rw [hidx, if_pos rfl, hk]⟩
    · exact .inl hr

lemma carried_intern [DecidableEq C] (h : v.WellIndexed) (hpos : 0 < version)
    (hint : v.intern q c version now = .ok (id, v')) : Carried version v [q] v' := by
  cases intern_cases hint with
  | @same row hq hrow _ hver =>
    -- a row at the new version was declared there by an earlier name of the document
    have horg : row.origin = .schemaDeclared version := by
      have hown := (h.own hrow).2
      cases ho : row.origin with
      | schemaDeclared w =>
        rw [ho, hver] at hown
        rw [hown]
        rfl
      | implicitFromWrite lsn =>
        rw [ho, hver] at hown
        simp only [SchemaOrigin.version] at hown
        omega
    refine ⟨h, fun hq' => hq', fun hq' _ => hq', fun hr => ⟨_, hr, rfl⟩, ?_, .inl⟩
    intro q' hq'
    rw [mem_singleton] at hq'
    subst hq'
    exact ⟨id, row, hq, hrow, horg⟩
  | rewritten hq hrow _ _ => exact carried_rewrite h hq hrow
  | fresh hq hid => exact carried_register h hq (get_nextId hid)

lemma Interned.carried [DecidableEq C] {qs : List QName} (h : v.WellIndexed) (hpos : 0 < version)
    (hrun : Interned version now v qs v') : Carried version v qs v' := by
  induction hrun with
  | nil => exact .nil h
  | cons hint _ ih =>
    have hone := carried_intern h hpos hint
    exact hone.cons (ih hone.wellIndexed)
end

structure Coined (v v' : Vocabulary C) : Prop where
  wellIndexed : v'.WellIndexed
  index_kept {q : QName} {id : Nat} : v.byQname.get q = some id → v'.byQname.get q = some id
  declaredAt {nspace : String} {version id : Nat} :
    v'.DeclaredAt nspace version id ↔ v.DeclaredAt nspace version id

lemma coined_internOrGet {v' : Vocabulary C} (h : v.WellIndexed) {lsn : Nat} {now : Nanos}
    (hint : v.internOrGet q c lsn now = .ok (id, v')) : Coined v v' := by
  rcases internOrGet_cases hint with ⟨_, rfl⟩ | ⟨hq, hid, rfl⟩
  · exact ⟨h, fun hq => hq, Iff.rfl⟩
  · have hfresh := get_nextId hid
    refine ⟨h.register rfl hfresh, ?_, ?_⟩
    · intro q' k hq'
      refine (get_insert_ne _ _ ?_).trans hq'
      rintro rfl
      rw [hq] at hq'
      cases hq'
    · intro nspace version k
      constructor
      · rintro ⟨row, hrow, hns, horg⟩
        rw [Vocabulary.register, get_insert] at hrow
        split at hrow
        · cases hrow
          cases horg
        · exact ⟨row, hrow, hns, horg⟩
      · rintro ⟨row, hrow, hns, horg⟩
        refine ⟨row, (get_insert_ne _ _ ?_).trans hrow, hns, horg⟩
        rintro rfl
        rw [hfresh] at hrow
        cases hrow

lemma coined_aliasQname {v' : Vocabulary C} (h : v.WellIndexed) {target : Nat}
    (hq : v.byQname.get q = none) (hrow : v.rows.get target = some row)
    (hns : row.qname.nspace = q.nspace) (halias : v.aliasQname q target = .ok v') :
    Coined v v' := by
  obtain ⟨_, rfl⟩ := aliasQname_cases halias
  refine ⟨⟨h.own, ?_⟩, ?_, Iff.rfl⟩
  · intro q' k hq'
    rw [get_insert] at hq'
    split at hq'
    next hname =>
      cases hq'
      exact ⟨row, hrow, by rw [hns, hname]⟩
    · exact h.index hq'
  · intro q' k hq'
    refine (get_insert_ne _ _ ?_).trans hq'
    rintro rfl
    rw [hq] at hq'
    cases hq'

end Vocabulary
end BrainDb.Schema
