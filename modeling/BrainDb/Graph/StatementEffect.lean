import BrainDb.Graph.Statement

namespace BrainDb
open ExceptLemmas

def StatementMetadata.isLive (m : StatementMetadata) : Bool := m.isCurrent && !m.tombstoned

variable {scope : RowScope} {session : SessionId} {s : Statement}

namespace Statements

def Keyed (t : Statements) : Prop := ∀ id m, t.rows.get id = some m → m.id = id

lemma Keyed.insert {t t' : Statements} (h : t.Keyed) {m : StatementMetadata}
    (hrows : t'.rows = t.rows.insert m.id m) : t'.Keyed := by
  intro id m' hm'
  rw [hrows, Table.get_insert] at hm'
  split at hm'
  next heq => rw [← Option.some.inj hm', heq]
  · exact h id m' hm'

section
variable [Confidences] (t : Statements) (m old row : StatementMetadata)

@[simp] lemma rows_removeFromPredicateIndex : (t.removeFromPredicateIndex m).rows = t.rows := by
  unfold removeFromPredicateIndex
  split <;> rfl

@[simp] lemma bySubject_removeFromPredicateIndex :
    (t.removeFromPredicateIndex m).bySubject = t.bySubject := by
  unfold removeFromPredicateIndex
  split <;> rfl

@[simp] lemma rows_rekeyPredicateIndex (a b : UInt32) :
    (t.rekeyPredicateIndex m a b).rows = t.rows := by
  unfold rekeyPredicateIndex
  split
  · rfl
  · split <;> rfl

@[simp] lemma bySubject_rekeyPredicateIndex (a b : UInt32) :
    (t.rekeyPredicateIndex m a b).bySubject = t.bySubject := by
  unfold rekeyPredicateIndex
  split
  · rfl
  · split <;> rfl

@[simp] lemma rows_withdraw : (t.withdraw old row).rows = t.rows.insert row.id row := by
  unfold withdraw
  split
  · rw [rows_removeFromPredicateIndex]; rfl
  · rfl

lemma bySubject_withdraw : (t.withdraw old row).bySubject = if old.isCurrent then
      (t.bySubject.remove (old.subjectKeyAs true)).insert (old.subjectKeyAs false) old.id
    else t.bySubject := by
  unfold withdraw
  split
  · rw [bySubject_removeFromPredicateIndex]; rfl
  · rfl

lemma withdraw_frame : (t.withdraw old row).byObjectEntity = t.byObjectEntity ∧
      (t.withdraw old row).byEventTime = t.byEventTime ∧ (t.withdraw old row).chain = t.chain ∧
      (t.withdraw old row).overflow = t.overflow := by
  unfold withdraw removeFromPredicateIndex
  split
  · split <;> exact ⟨rfl, rfl, rfl, rfl⟩
  · exact ⟨rfl, rfl, rfl, rfl⟩

@[simp] lemma rows_bury (reason : TombstoneReason) (now : Nanos) :
    (t.bury row reason now).rows = t.rows.insert row.id (row.buried reason now) :=
  t.rows_withdraw row (row.buried reason now)
end

variable [Confidences] {t t' : Statements}

lemma exists_recomputeConfidence (t : Statements) (s : Statement) (now : Nanos) :
    ∃ confidence, t.recomputeConfidence s now = { s with confidence } := by
  unfold recomputeConfidence
  split
  · split
    · exact ⟨_, rfl⟩
    · exact ⟨s.confidence, rfl⟩
  · exact ⟨s.confidence, rfl⟩

variable {oldId : StatementId}

lemma insertNewStatement_ok (h : t.insertNewStatement scope session s = .ok t') :
    ∃ memories, t' = t.place (s.row scope session) memories := by
  unfold insertNewStatement at h
  split at h
  next entries _ => exact ⟨_, (Except.ok.inj h).symm⟩
  · cases h

structure Supersedable (scope : RowScope) (old : StatementMetadata) (s : Statement) : Prop where
  scope : old.scope = scope
  tombstoned : old.tombstoned = false
  supersededBy : old.supersededBy = none
  kindNe : old.kind ≠ .event
  kind : old.kind = s.kind
  subject : old.subject.bytes = s.subject.bytes
  predicate : old.predicate = s.predicate

omit [Confidences] in
lemma supersedable_ok_iff {old : StatementMetadata} :
    supersedable scope oldId old s = .ok () ↔ Supersedable scope old s := by
  unfold supersedable
  constructor
  · intro h
    split at h
    · cases h
    next hsc =>
      split at h
      · cases h
      next htomb =>
        split at h
        · cases h
        next hnone =>
          split_ifs at h with hev hkind hsubj hpred
          exact ⟨(not_not.mp hsc).symm, by simpa using htomb, hnone, hev,
            not_not.mp hkind, not_not.mp hsubj, not_not.mp hpred⟩
  · intro h
    have hkind : s.kind ≠ .event := h.kind ▸ h.kindNe
    simp [h.scope, h.tombstoned, h.supersededBy, h.kind, h.subject, h.predicate, hkind]

structure Superseded (t : Statements) (scope : RowScope) (session : SessionId)
    (oldId : StatementId) (s : Statement) (now : Nanos) (old : StatementMetadata)
    (confidence : UInt32) (memories : List MemoryId) (t' : Statements) : Prop where
  row : t.rows.get oldId = some old
  allowed : Supersedable scope old s
  unused : t.rows.get s.id = none
  tables : t' = (t.withdraw old (old.superseded s now)).place
    ({ old.successor oldId s with confidence }.row scope session) memories

lemma statementSupersede_ok {now : Nanos}
    (h : t.statementSupersede scope session oldId s now = .ok t') : ∃ old confidence memories,
      Superseded t scope session oldId s now old confidence memories t' := by
  obtain ⟨_, _, h⟩ := bind_ok h
  split at h
  · cases h
  next old hold =>
    obtain ⟨_, hok, h⟩ := bind_ok h
    split at h
    · cases h
    next hunused =>
      obtain ⟨confidence, hconf⟩ :=
        t.exists_recomputeConfidence (old.successor oldId s) s.extractedAt
      rw [hconf] at h
      obtain ⟨memories, hpos⟩ := insertNewStatement_ok h
      exact ⟨old, confidence, memories, hold, supersedable_ok_iff.mp hok,
        Option.not_isSome_iff_eq_none.mp hunused, hpos⟩

lemma statementTombstone_ok {id : StatementId} {reason : TombstoneReason} {now : Nanos}
    (h : t.statementTombstone id reason now = .ok t') : ∃ row, t.rows.get id = some row ∧
      (row.tombstoned = true ∧ t' = t ∨ row.tombstoned = false ∧ t' = t.bury row reason now) := by
  unfold statementTombstone at h
  split at h
  · cases h
  next row hrow =>
    split at h
    next htomb => exact ⟨row, hrow, .inl ⟨htomb, (Except.ok.inj h).symm⟩⟩
    next htomb =>
      exact ⟨row, hrow, .inr ⟨Bool.eq_false_iff.mpr htomb, (Except.ok.inj h).symm⟩⟩

end Statements

namespace Graph
open Statements
variable [Confidences] {g g' : Graph} {now : Nanos} {id : StatementId}
  {p : Schema.PredicateConstraints}

omit [Confidences] in
lemma creatable_unused (h : g.creatable s = .ok p) : g.statements.rows.get s.id = none := by
  obtain ⟨_, _, h⟩ := bind_ok h
  obtain ⟨_, _, h⟩ := bind_ok h
  obtain ⟨_, _, h⟩ := bind_ok h
  obtain ⟨_, _, h⟩ := bind_ok h
  split at h
  · cases h
  next hunused => exact Option.not_isSome_iff_eq_none.mp hunused

omit [Confidences] in
lemma creatable_resolved (h : g.creatable s = .ok p) : s.subject.isPending = false := by
  obtain ⟨_, _, h⟩ := bind_ok h
  obtain ⟨_, hsubj, _⟩ := bind_ok h
  cases hs : s.subject with
  | entity e => rfl
  | memory id => rfl
  | pending audit =>
    rw [hs] at hsubj
    cases hsubj

inductive Created (g : Graph) (scope : RowScope) (session : SessionId) (s : Statement)
    (now : Nanos) (p : Schema.PredicateConstraints) : StatementId → Statements → Prop
  | superseding {prior old confidence memories t'} : g.placement scope s p = .supersedes prior →
      Superseded g.statements scope session prior s now old confidence memories t' →
      Created g scope session s now p s.id t'
  | repeated {existing} : g.placement scope s p = .repeats existing →
      Created g scope session s now p existing g.statements
  | placed {confidence memories} : g.placement scope s p = .fresh →
      Created g scope session s now p s.id
        (g.statements.place ({ s with confidence }.row scope session) memories)

lemma statementCreate_ok (h : g.statementCreate scope session s now = .ok (id, g')) :
    ∃ p t', g.creatable s = .ok p ∧ g' = { g with statements := t' } ∧
      Created g scope session s now p id t' := by
  obtain ⟨p, hp, h⟩ := bind_ok h
  split at h
  next prior hpos =>
    obtain ⟨t', ht', h⟩ := bind_ok h
    cases h
    obtain ⟨old, confidence, memories, hsup⟩ := statementSupersede_ok ht'
    exact ⟨p, t', hp, rfl, .superseding hpos hsup⟩
  next existing hpos =>
    cases h
    exact ⟨p, g.statements, hp, rfl, .repeated hpos⟩
  next hpos =>
    obtain ⟨t', ht', h⟩ := bind_ok h
    cases h
    obtain ⟨confidence, hconf⟩ := g.statements.exists_recomputeConfidence s now
    rw [hconf] at ht'
    obtain ⟨memories, rfl⟩ := insertNewStatement_ok ht'
    exact ⟨p, _, hp, rfl, .placed hpos⟩

end Graph
end BrainDb
