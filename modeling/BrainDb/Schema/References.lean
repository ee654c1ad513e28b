import BrainDb.Schema.Vocabulary

namespace BrainDb.Schema
open Table

/-- A stored statement or relation. `listed`: the index by type has it and it is not tombstoned;
`writtenAs`: the name its type had when it was written, which the store does not keep. -/
structure Reference where
  typeId : Nat
  namespaceId : NamespaceId
  listed : Bool
  writtenAs : QName

abbrev References := Table Nat Reference

namespace References
variable (refs : References)

def WrittenAs (id : Nat) (q : QName) : Prop :=
  ∀ e ∈ refs.entries, e.2.typeId = id → e.2.writtenAs = q

def anyLive (id : Nat) : Bool :=
  refs.entries.any fun e => e.2.typeId = id && e.2.listed

def liveIn (ns : NamespaceId) (id : Nat) : Bool :=
  refs.entries.any fun e => e.2.namespaceId = ns && e.2.typeId = id && e.2.listed

end References

namespace Vocabulary
variable {C : Type} {v v' : Vocabulary C} {refs : References}

def Kept (v : Vocabulary C) (refs : References) : Prop :=
  ∀ e ∈ refs.entries, ∀ row, v.rows.get e.2.typeId = some row → row.qname = e.2.writtenAs

instance (v : Vocabulary C) (refs : References) : Decidable (v.Kept refs) :=
  decidable_of_iff
    (∀ e ∈ refs.entries, (v.rows.get e.2.typeId).all fun row => row.qname = e.2.writtenAs)
    (by simp [Kept, Option.all_eq_true])

lemma Kept.mono (h : v.Kept refs)
    (hrows : ∀ id row, v'.rows.get id = some row → v.rows.get id = some row) : v'.Kept refs :=
  fun e he row hrow => h e he row (hrows _ _ hrow)

lemma Kept.dropRows (h : v.Kept refs) (victims : List (Nat × QName)) :
    (v.dropRows victims).Kept refs := by
  refine h.mono ?_
  intro id row hrow
  rw [Vocabulary.dropRows, Table.get_foldl_remove] at hrow
  split at hrow
  · cases hrow
  · exact hrow

lemma Kept.dropOne (h : v.Kept refs) (q : QName) : (v.dropOne q).2.Kept refs := by
  rcases dropOne_cases v q with hsame | ⟨id, row, _, _, _, hdrop⟩
  · rw [hsame]
    exact h
  · rw [hdrop]
    exact h.dropRows _

variable {row : Definition C}

lemma Kept.insert_iff (h : v.Kept refs) {id : Nat} (hrows : v'.rows = v.rows.insert id row) :
    v'.Kept refs ↔ refs.WrittenAs id row.qname := by
  constructor
  · intro h' e he hid
    refine (h' e he row ?_).symm
    rw [hrows, hid, get_insert_self]
  · intro hwritten e he r hr
    rw [hrows, get_insert] at hr
    split at hr
    next hid =>
      cases hr
      exact (hwritten e he hid).symm
    · exact h e he r hr

section
variable [DecidableEq C] {q : QName} {c : C} {version id : Nat} {now : Nanos}

def registers (v : Vocabulary C) (q : QName) (c : C) (version : Nat) : Option Nat :=
  match v.byQname.get q with
  | none => some (v.rows.maxKey + 1)
  | some id =>
    (v.rows.get id).bind fun row =>
      if row.constraints = c ∧ row.schemaVersion = version then none else some id

def InternKeeps (refs : References) (v : Vocabulary C) (q : QName) (c : C) (version : Nat) : Prop :=
  ∀ id ∈ v.registers q c version, refs.WrittenAs id q

lemma intern_registers (h : v.intern q c version now = .ok (id, v')) :
    (v.registers q c version = none ∧ v' = v) ∨ (v.registers q c version = some id ∧
        v'.rows = v.rows.insert id (declaredRow id q c version now)) := by
  cases intern_cases h with
  | same hq hrow hc hver =>
    refine .inl ⟨?_, rfl⟩
    simp [registers, hq, hrow, hc, hver]
  | rewritten hq hrow _ hdiff =>
    refine .inr ⟨?_, rfl⟩
    simp only [registers, hq, hrow, Option.bind_some, if_neg hdiff]
  | fresh hq hid =>
    refine .inr ⟨?_, rfl⟩
    simp only [registers, hq, nextId_ok hid]

lemma kept_intern_iff (hkept : v.Kept refs) (h : v.intern q c version now = .ok (id, v')) :
    v'.Kept refs ↔ InternKeeps refs v q c version := by
  rcases intern_registers h with ⟨hnone, rfl⟩ | ⟨hsome, hrows⟩
  · simpa [InternKeeps, hnone] using hkept
  · rw [hkept.insert_iff hrows]
    simp [InternKeeps, hsome, declaredRow]

lemma Interned.row_stays {qs : List QName} (h : Interned version now v qs v')
    (hrow : v.rows.get id = some row) (hver : row.schemaVersion = version)
    (hdecl : row.origin.isSchemaDeclared = true) : v'.rows.get id = some row := by
  induction h with
  | nil => exact hrow
  | @cons v v₁ v' q qs c id' hint _ ih =>
    apply ih
    cases intern_cases hint with
    | same => exact hrow
    | @rewritten row' hq hrow' hsame hdiff =>
      refine (get_insert_ne _ _ ?_).trans hrow
      rintro rfl
      rw [hrow] at hrow'
      cases hrow'
      rcases hsame with hc | hopen
      · exact hdiff ⟨hc, hver⟩
      · rw [hdecl] at hopen
        cases hopen
    | fresh hq hid =>
      refine (get_insert_ne _ _ ?_).trans hrow
      rintro rfl
      have hnone := get_nextId hid
      rw [hrow] at hnone
      cases hnone

lemma internKeeps_of_kept {v₁ : Vocabulary C} {qs : List QName}
    (h : v.intern q c version now = .ok (id, v₁)) (hrest : Interned version now v₁ qs v')
    (hkept : v'.Kept refs) : InternKeeps refs v q c version := by
  intro k hk e he hid
  rcases intern_registers h with ⟨hnone, _⟩ | ⟨hsome, hrows⟩
  · rw [hnone] at hk
    cases hk
  · rw [hsome] at hk
    cases hk
    have hrow : v₁.rows.get id = some (declaredRow id q c version now) := by
      rw [hrows, get_insert_self]
    have hend := hrest.row_stays hrow rfl rfl
    rw [← hid] at hend
    exact (hkept e he _ hend).symm
end

lemma kept_internOrGet_iff (hkept : v.Kept refs) {q : QName} {c : C} {lsn id : Nat}
    {now : Nanos} (h : v.internOrGet q c lsn now = .ok (id, v')) :
    v'.Kept refs ↔ (v.byQname.get q = none → refs.WrittenAs (v.rows.maxKey + 1) q) := by
  rcases internOrGet_cases h with ⟨hq, rfl⟩ | ⟨hq, hid, rfl⟩
  · simpa [hq] using hkept
  · rw [hkept.insert_iff rfl]
    simp [hq, nextId_ok hid]

end Vocabulary
end BrainDb.Schema
