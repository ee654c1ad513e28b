import BrainDb.Base.Mirror
import BrainDb.Graph.Reclaim
import BrainDb.Graph.StatementEffect

namespace BrainDb
open Table Mirror Option
variable {m : StatementMetadata}

namespace StatementMetadata

def subjectEntry (m : StatementMetadata) : Option BySubjectKey :=
  if m.subject.isPending then none else some m.subjectKey

def subjectIdEntry (m : StatementMetadata) : Option BySubjectIdKey :=
  if m.subject.isPending then none else some ⟨m.scope, m.subject.bytes, m.id⟩

lemma subjectEntry_owner {k : BySubjectKey} (h : m.subjectEntry = some k) : k.statement = m.id := by
  unfold subjectEntry at h
  split at h
  · cases h
  · exact some.inj h ▸ rfl

lemma subjectIdEntry_owner {k : BySubjectIdKey} (h : m.subjectIdEntry = some k) :
    k.statement = m.id := by
  unfold subjectIdEntry at h
  split at h
  · cases h
  · exact some.inj h ▸ rfl

lemma objectKey_owner {k : ByObjectKey} (h : m.objectKey = some k) : k.statement = m.id := by
  unfold objectKey at h
  split at h
  · exact some.inj h ▸ rfl
  · cases h

lemma eventKey_owner {k : ByEventTimeKey} (h : m.eventKey = some k) : k.statement = m.id := by
  unfold eventKey at h
  split at h
  · obtain ⟨_, _, rfl⟩ := map_eq_some_iff.mp h
    rfl
  · cases h

lemma subjectEntry_resolved (h : m.subject.isPending = false) :
    m.subjectEntry = some m.subjectKey := by
  rw [subjectEntry, h]
  rfl

lemma subjectIdEntry_resolved (h : m.subject.isPending = false) :
    m.subjectIdEntry = some ⟨m.scope, m.subject.bytes, m.id⟩ := by
  rw [subjectIdEntry, h]
  rfl

variable (m) in
def hasSubject (scope : RowScope) (entity : EntityId) : Bool :=
  !m.subject.isPending && m.scope = scope && m.subject.bytes = entity

variable (m) in
def hasObject (scope : RowScope) (entity : EntityId) : Bool :=
  m.scope = scope && m.object = .entity entity

end StatementMetadata

namespace Statements
open StatementMetadata

structure Mirrored (t : Statements) : Prop where
  bySubject : Mirrors subjectEntry id t.rows t.bySubject
  bySubjectId : Mirrors subjectIdEntry (fun _ => ()) t.rows t.bySubjectId
  byObject : Mirrors objectKey id t.rows t.byObjectEntity
  byEventTime : Mirrors eventKey id t.rows t.byEventTime
  chain : Mirrors (fun m => some m.chainKey) id t.rows t.chain

lemma mirrored_empty : Statements.empty.Mirrored :=
  ⟨reflects_empty, reflects_empty, reflects_empty, reflects_empty, reflects_empty⟩

def Resolved (t : Statements) : Prop :=
  ∀ id m, t.rows.get id = some m → m.subject.isPending = false

lemma Resolved.insert {t t' : Statements} (h : t.Resolved) (hm : m.subject.isPending = false)
    (hrows : t'.rows = t.rows.insert m.id m) : t'.Resolved := by
  intro id m' hm'
  rw [hrows, get_insert] at hm'
  split at hm'
  · rw [← some.inj hm', hm]
  · exact h id m' hm'

variable {t : Statements}

lemma Keyed.own (h : t.Keyed) {K : Type} [LinearOrder K] {key : StatementMetadata → Option K}
    {owner : K → StatementId} (howner : ∀ {n k}, key n = some k → owner k = n.id) {i : StatementId}
    {k : K} (hk : owner k = i) : Own (fun m k => key m = some k) t.rows i k :=
  own_of_owner owner (fun j n _ hj hn => (howner hn).trans (h j n hj)) hk

variable [Confidences]

lemma Mirrored.place (h : t.Mirrored) (hids : t.Keyed) (hunused : t.rows.get m.id = none)
    (hslot : t.chain.get m.chainKey = none) (memories : List MemoryId) :
    (t.place m memories).Mirrored := by
  have hsubj : (t.place m memories).bySubject =
      m.subjectEntry.elim t.bySubject fun k => t.bySubject.insert k m.id := by
    rw [Statements.place, subjectEntry]
    split <;> rfl
  have hsubjId : (t.place m memories).bySubjectId =
      m.subjectIdEntry.elim t.bySubjectId fun k => t.bySubjectId.insert k () := by
    rw [Statements.place, subjectIdEntry]
    split <;> rfl
  constructor
  · rw [hsubj]
    exact h.bySubject.place hunused fun k hk => hids.own subjectEntry_owner (subjectEntry_owner hk)
  · rw [hsubjId]
    exact h.bySubjectId.place hunused fun k hk =>
      hids.own subjectIdEntry_owner (subjectIdEntry_owner hk)
  · exact h.byObject.place hunused fun k hk => hids.own objectKey_owner (objectKey_owner hk)
  · exact h.byEventTime.place hunused fun k hk => hids.own eventKey_owner (eventKey_owner hk)
  · refine h.chain.place hunused fun k hk => h.chain.own_of_free ?_
    rw [← some.inj hk, hslot]

structure Retires (old row : StatementMetadata) : Prop where
  id : row.id = old.id
  subject : row.subject = old.subject
  subjectKey : row.subjectKey = old.subjectKeyAs false
  scope : row.scope = old.scope
  objectKey : row.objectKey = old.objectKey
  eventKey : row.eventKey = old.eventKey
  chainKey : row.chainKey = old.chainKey

lemma Mirrored.withdraw {row : StatementMetadata} (h : t.Mirrored) (hids : t.Keyed)
    (hold : t.rows.get m.id = some m) (hres : m.subject.isPending = false)
    (hrow : Retires m row) : (t.withdraw m row).Mirrored := by
  obtain ⟨hobj, hev, hchain, -⟩ := t.withdraw_frame m row
  have hid : (t.withdraw m row).bySubjectId = t.bySubjectId := by
    unfold Statements.withdraw removeFromPredicateIndex
    split
    · split <;> rfl
    · rfl
  have hentry : row.subjectEntry = some (m.subjectKeyAs false) := by
    rw [subjectEntry, hrow.subject, hres, hrow.subjectKey]
    rfl
  constructor
  · rw [rows_withdraw, bySubject_withdraw, hrow.id]
    split
    next hcur =>
      have hwas : m.subjectEntry = some (m.subjectKeyAs true) := by
        rw [subjectEntry_resolved hres, StatementMetadata.subjectKey, hcur]
      exact h.bySubject.move hold hwas hentry (hids.own subjectEntry_owner rfl)
        (hids.own subjectEntry_owner rfl)
    next hcur =>
      refine h.bySubject.same hold ?_
      rw [hentry, subjectEntry_resolved hres, StatementMetadata.subjectKey,
        Bool.eq_false_iff.mpr hcur]
  · rw [rows_withdraw, hid, hrow.id]
    refine h.bySubjectId.same hold ?_
    rw [subjectIdEntry, subjectIdEntry, hrow.subject, hrow.scope, hrow.id]
  · rw [rows_withdraw, hobj, hrow.id]
    exact h.byObject.same hold hrow.objectKey
  · rw [rows_withdraw, hev, hrow.id]
    exact h.byEventTime.same hold hrow.eventKey
  · rw [rows_withdraw, hchain, hrow.id]
    exact h.chain.same hold (congrArg some hrow.chainKey)

lemma Mirrored.bury {reason : TombstoneReason} {now : Nanos} (h : t.Mirrored)
    (hids : t.Keyed) (hold : t.rows.get m.id = some m)
    (hres : m.subject.isPending = false) : (t.bury m reason now).Mirrored := by
  have hrow : Retires m (m.buried reason now) := ⟨rfl, rfl, rfl, rfl, rfl, rfl, rfl⟩
  obtain ⟨h₁, h₂, h₃, h₄, h₅⟩ := h.withdraw hids hold hres hrow
  exact ⟨h₁, h₂, h₃, h₄, h₅⟩

lemma Mirrored.reclaimOne (h : t.Mirrored) (hids : t.Keyed) (hm : t.rows.get m.id = some m)
    (hres : m.subject.isPending = false) (htail : m.supersededBy = none) :
    (t.reclaimOne m).Mirrored := by
  have hsubj : (t.reclaimOne m).bySubject =
      m.subjectEntry.elim t.bySubject t.bySubject.remove := by
    have hoth : t.bySubject.get (m.subjectKeyAs !m.isCurrent) = none := by
      refine eq_none_iff_forall_ne_some.mpr fun i hi => ?_
      obtain ⟨j, n, hn, hkey, rfl⟩ := (h.bySubject _ i).mp hi
      have hj : j = m.id := (hids j n hn).symm.trans (subjectEntry_owner hkey).symm
      obtain rfl : m = n := some.inj (hm.symm.trans (hj ▸ hn))
      rw [subjectEntry_resolved hres] at hkey
      have hflag : m.isCurrent = !m.isCurrent := congrArg BySubjectKey.isCurrent (some.inj hkey)
      simp at hflag
    rw [Statements.reclaimOne, subjectEntry_resolved hres, hres]
    change (t.bySubject.remove (m.subjectKeyAs false)).remove (m.subjectKeyAs true) =
      t.bySubject.remove (m.subjectKeyAs m.isCurrent)
    cases hcur : m.isCurrent with
    | true =>
      rw [hcur] at hoth
      exact congrArg (Table.remove · (m.subjectKeyAs true)) (remove_of_get_none hoth)
    | false =>
      rw [hcur] at hoth
      exact remove_of_get_none (by rw [get_remove]; split <;> [rfl; exact hoth])
  have hsubjId : (t.reclaimOne m).bySubjectId =
      m.subjectIdEntry.elim t.bySubjectId t.bySubjectId.remove := by
    rw [Statements.reclaimOne, subjectIdEntry_resolved hres, hres]
    rfl
  constructor
  · rw [hsubj]
    exact h.bySubject.remove hm fun k hk => hids.own subjectEntry_owner (subjectEntry_owner hk)
  · rw [hsubjId]
    exact h.bySubjectId.remove hm fun k hk =>
      hids.own subjectIdEntry_owner (subjectIdEntry_owner hk)
  · exact h.byObject.remove hm fun k hk => hids.own objectKey_owner (objectKey_owner hk)
  · exact h.byEventTime.remove hm fun k hk => hids.own eventKey_owner (eventKey_owner hk)
  · have hchain : (t.reclaimOne m).chain = t.chain.remove m.chainKey := by
      rw [Statements.reclaimOne, htail]
      rfl
    rw [hchain]
    exact h.chain.remove hm fun k hk => h.chain.own hm hk

end Statements
end BrainDb
