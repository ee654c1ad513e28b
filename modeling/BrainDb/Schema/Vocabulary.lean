import BrainDb.Store.Registry
import Mathlib.Data.String.Basic

namespace BrainDb.Schema

structure QName where
  (nspace name : String)

instance : LinearOrder QName :=
  LinearOrder.lift' (fun q => toLex (q.nspace, q.name)) fun ⟨_, _⟩ ⟨_, _⟩ h => by simpa using h

inductive SchemaOrigin where
  | schemaDeclared (version : Nat)
  | implicitFromWrite (firstSeenLsn : Nat)
  deriving DecidableEq

def SchemaOrigin.isSchemaDeclared : SchemaOrigin → Bool
  | schemaDeclared _ => true
  | implicitFromWrite _ => false

structure Definition (C : Type) where
  id : Nat
  qname : QName
  constraints : C
  schemaVersion : Nat
  createdAt : Nanos
  origin : SchemaOrigin

structure Vocabulary (C : Type) where
  rows : Table Nat (Definition C)
  byQname : Table QName Nat

inductive VocabularyError where
  | invalidIdentifier (reason : String)
  | alreadyExists (q : QName) (existingId : Nat)
  | corrupt
  | exhausted
  deriving DecidableEq

namespace Vocabulary
variable {C : Type}

def empty : Vocabulary C := { rows := .empty, byQname := .empty }

variable (v : Vocabulary C)

def nextId : Except VocabularyError Nat :=
  if v.rows.maxKey < u32Max then .ok (v.rows.maxKey + 1) else .error .exhausted

def declaredRow (id : Nat) (q : QName) (c : C) (version : Nat) (now : Nanos) : Definition C :=
  { id, qname := q, constraints := c, schemaVersion := version, createdAt := now
    origin := .schemaDeclared version }

def register (row : Definition C) : Vocabulary C :=
  { rows := v.rows.insert row.id row, byQname := v.byQname.insert row.qname row.id }

/-- `predicate_intern_with_subject`, `relation_type_intern`: a row with the same constraints is
carried to the new version, a coined one is adopted, and a declared one that differs is refused. -/
def intern [DecidableEq C] (q : QName) (c : C) (version : Nat) (now : Nanos) :
    Except VocabularyError (Nat × Vocabulary C) :=
  match v.byQname.get q with
  | some id =>
    match v.rows.get id with
    | none => .error .corrupt
    | some row =>
      if row.constraints = c ∧ row.schemaVersion = version then .ok (id, v)
      else if row.constraints = c ∨ !row.origin.isSchemaDeclared then
        -- the row takes the name it was looked up by
        .ok (id, { v with rows := v.rows.insert id (declaredRow id q c version now) })
      else .error (.alreadyExists q id)
  | none => do
    let id ← v.nextId
    .ok (id, v.register (declaredRow id q c version now))

def internOrGet (q : QName) (c : C) (firstSeenLsn : Nat) (now : Nanos) :
    Except VocabularyError (Nat × Vocabulary C) :=
  match v.byQname.get q with
  | some id => .ok (id, v)
  | none => do
    let id ← v.nextId
    .ok (id, v.register
      { id, qname := q, constraints := c, schemaVersion := 0, createdAt := now
        origin := .implicitFromWrite firstSeenLsn })

def aliasQname (q : QName) (target : Nat) : Except VocabularyError (Vocabulary C) :=
  match v.rows.get target with
  | none => .error (.invalidIdentifier "alias target predicate does not exist")
  | some row =>
    if row.origin.isSchemaDeclared then
      .error (.invalidIdentifier "cannot alias onto a schema-declared predicate")
    else .ok { v with byQname := v.byQname.insert q target }

def dropRows (victims : List (Nat × QName)) : Vocabulary C :=
  { rows := victims.foldl (fun t e => t.remove e.1) v.rows
    byQname := victims.foldl (fun t e => t.remove e.2) v.byQname }

def declaredIn (nspace : String) : List (Nat × QName) :=
  (v.rows.entries.filter fun e =>
    e.2.qname.nspace = nspace ∧ e.2.origin.isSchemaDeclared).map fun e => (e.1, e.2.qname)

def dropSchemaDeclared (nspace : String) : Vocabulary C :=
  v.dropRows (v.declaredIn nspace)

def dropOne (q : QName) : Option Nat × Vocabulary C :=
  match v.byQname.get q with
  | none => (none, v)
  | some id =>
    match v.rows.get id with
    | none => (none, v)
    | some row => if row.origin.isSchemaDeclared then (some id, v.dropRows [(id, q)]) else (none, v)

def orphans (live : Nat → Bool) (now : Nanos) (grace limit : Nat) : List (Nat × QName) :=
  let candidates := v.rows.entries.filter fun e =>
    !e.2.origin.isSchemaDeclared && !(now - e.2.createdAt < grace)
  ((candidates.filter fun e => !live e.1).take limit).map fun e => (e.1, e.2.qname)

def reclaimOrphans (live : Nat → Bool) (now : Nanos) (grace limit : Nat) : Vocabulary C :=
  v.dropRows (v.orphans live now grace limit)

def activeForSchema (nspace : String) (version : Nat) : List Nat :=
  (v.rows.entries.filter fun e =>
    e.2.qname.nspace = nspace ∧ e.2.origin = .schemaDeclared version).map fun e => e.2.id

def lookup (q : QName) : Option (Definition C) :=
  (v.byQname.get q).bind v.rows.get

variable {v v' : Vocabulary C} {id : Nat} {q : QName}

lemma nextId_ok (h : v.nextId = .ok id) : id = v.rows.maxKey + 1 := by
  unfold nextId at h
  split at h
  · exact (Except.ok.inj h).symm
  · cases h

lemma get_nextId (h : v.nextId = .ok id) : v.rows.get id = none := by
  have hid := nextId_ok h
  exact Table.get_of_maxKey_lt (by omega)

section
variable [DecidableEq C]

inductive InternCase (v : Vocabulary C) (q : QName) (c : C) (version : Nat) (now : Nanos) :
    Nat → Vocabulary C → Prop
  | same {id : Nat} {row : Definition C} : v.byQname.get q = some id → v.rows.get id = some row →
      row.constraints = c → row.schemaVersion = version → InternCase v q c version now id v
  | rewritten {id : Nat} {row : Definition C} : v.byQname.get q = some id →
      v.rows.get id = some row → (row.constraints = c ∨ row.origin.isSchemaDeclared = false) →
      ¬(row.constraints = c ∧ row.schemaVersion = version) →
      InternCase v q c version now id
        { v with rows := v.rows.insert id (declaredRow id q c version now) }
  | fresh {id : Nat} : v.byQname.get q = none → v.nextId = .ok id →
      InternCase v q c version now id (v.register (declaredRow id q c version now))

lemma intern_cases {c : C} {version : Nat} {now : Nanos}
    (h : v.intern q c version now = .ok (id, v')) : InternCase v q c version now id v' := by
  unfold intern at h
  split at h
  next id' hq =>
    split at h
    · cases h
    next row hrow =>
      split at h
      next hsame =>
        cases h
        exact .same hq hrow hsame.1 hsame.2
      next hdiff =>
        split at h
        next hok =>
          cases h
          refine .rewritten hq hrow ?_ hdiff
          simpa using hok
        · cases h
  next hq =>
    cases hid : v.nextId with
    | error e =>
      rw [hid] at h
      cases h
    | ok id' =>
      rw [hid] at h
      cases h
      exact .fresh hq hid

inductive Interned (version : Nat) (now : Nanos) :
    Vocabulary C → List QName → Vocabulary C → Prop
  | nil {v : Vocabulary C} : Interned version now v [] v
  | cons {v v₁ v' : Vocabulary C} {q : QName} {qs : List QName} {c : C} {id : Nat} :
      v.intern q c version now = .ok (id, v₁) → Interned version now v₁ qs v' →
      Interned version now v (q :: qs) v'

def Admits (v : Vocabulary C) (q : QName) (c : C) : Prop :=
  match v.byQname.get q with
  | some id => ∃ row, v.rows.get id = some row ∧
      (row.constraints = c ∨ row.origin.isSchemaDeclared = false)
  | none => v.rows.maxKey < u32Max

lemma intern_ok_iff (v : Vocabulary C) (q : QName) (c : C) (version : Nat) (now : Nanos) :
    (∃ r, v.intern q c version now = .ok r) ↔ v.Admits q c := by
  unfold Admits
  unfold intern
  split
  next id hq =>
    split
    next hrow => simp [hrow]
    next row hrow =>
      simp only [hrow, Option.some.injEq, exists_eq_left']
      split
      next hsame => simp [hsame.1]
      next hdiff =>
        split
        next hok => simpa using hok
        next hno => simpa using hno
  next hq =>
    unfold nextId
    split
    next hlt => simpa [bind, Except.bind] using hlt
    next hge => simpa [bind, Except.bind] using hge
end

lemma internOrGet_cases {c : C} {lsn : Nat} {now : Nanos}
    (h : v.internOrGet q c lsn now = .ok (id, v')) : (v.byQname.get q = some id ∧ v' = v) ∨
      (v.byQname.get q = none ∧ v.nextId = .ok id ∧
        v' = v.register { id, qname := q, constraints := c, schemaVersion := 0, createdAt := now
                          origin := .implicitFromWrite lsn }) := by
  unfold internOrGet at h
  split at h
  next id' hq =>
    cases h
    exact .inl ⟨hq, rfl⟩
  next hq =>
    cases hid : v.nextId with
    | error e =>
      rw [hid] at h
      cases h
    | ok id' =>
      rw [hid] at h
      cases h
      exact .inr ⟨hq, rfl, rfl⟩

lemma aliasQname_cases {target : Nat} (h : v.aliasQname q target = .ok v') :
    (∃ row, v.rows.get target = some row ∧ row.origin.isSchemaDeclared = false) ∧
      v' = { v with byQname := v.byQname.insert q target } := by
  unfold aliasQname at h
  split at h
  · cases h
  next row hrow =>
    split at h
    · cases h
    next hdecl =>
      cases h
      exact ⟨⟨row, hrow, by simpa using hdecl⟩, rfl⟩

lemma dropOne_cases (v : Vocabulary C) (q : QName) :
    v.dropOne q = (none, v) ∨ ∃ id row, v.byQname.get q = some id ∧ v.rows.get id = some row ∧
      row.origin.isSchemaDeclared = true ∧ v.dropOne q = (some id, v.dropRows [(id, q)]) := by
  unfold dropOne
  split
  · exact .inl rfl
  next id hq =>
    split
    · exact .inl rfl
    next row hrow =>
      split
      next hdecl => exact .inr ⟨id, row, hq, hrow, hdecl, rfl⟩
      · exact .inl rfl

end Vocabulary
end BrainDb.Schema
