import BrainDb.Base.Relocate
import BrainDb.Graph.Merge
import BrainDb.Graph.StatementMirror

namespace BrainDb
open List Option Table Mirror

def StatementMetadata.repointed (m : StatementMetadata) (new : EntityId) (r : StatementReroute) :
    StatementMetadata :=
  let m := if r.objectChanged then { m with object := .entity new } else m
  if r.subjectChanged then
    { m with subject := m.subject.withBytes new, version := r.newVersion } else m

variable (s : SubjectRef)

@[simp] lemma SubjectRef.bytes_withBytes (id : Nat) : (s.withBytes id).bytes = id := by
  cases s <;> rfl

@[simp] lemma SubjectRef.isPending_withBytes (id : Nat) :
    (s.withBytes id).isPending = s.isPending := by
  cases s <;> rfl

namespace StatementMetadata
variable (m : StatementMetadata) (new : EntityId) (r : StatementReroute)

lemma repointed_frame : (m.repointed new r).id = m.id ∧ (m.repointed new r).scope = m.scope ∧
      (m.repointed new r).kind = m.kind ∧ (m.repointed new r).predicate = m.predicate ∧
      (m.repointed new r).isCurrent = m.isCurrent ∧ (m.repointed new r).eventAt = m.eventAt ∧
      (m.repointed new r).chainRoot = m.chainRoot := by
  unfold repointed
  cases r.subjectChanged <;> cases r.objectChanged <;> exact ⟨rfl, rfl, rfl, rfl, rfl, rfl, rfl⟩

lemma object_repointed : (m.repointed new r).object =
    if r.objectChanged then .entity new else m.object := by
  unfold repointed
  cases r.subjectChanged <;> cases r.objectChanged <;> rfl

lemma subject_repointed : (m.repointed new r).subject =
    if r.subjectChanged then m.subject.withBytes new else m.subject := by
  unfold repointed
  cases r.subjectChanged <;> cases r.objectChanged <;> rfl

lemma version_repointed : (m.repointed new r).version =
    if r.subjectChanged then r.newVersion else m.version := by
  unfold repointed
  cases r.subjectChanged <;> cases r.objectChanged <;> rfl

lemma isPending_repointed : (m.repointed new r).subject.isPending = m.subject.isPending := by
  rw [subject_repointed]
  split
  · exact m.subject.isPending_withBytes new
  · rfl

end StatementMetadata

namespace Statements
open StatementMetadata
variable {t : Statements} {m : StatementMetadata} {scope : RowScope} {old new : EntityId}
  {r : StatementReroute}

def carry (t : Statements) (scope : RowScope) (old new : EntityId) (r : StatementReroute)
    (m : StatementMetadata) : Statements :=
  t.repoint scope old new r.subjectChanged r.objectChanged r.oldVersion r.newVersion r.chainRoot m

def follow (scope : RowScope) (old new : EntityId) (t : Statements) (r : StatementReroute) :
    Statements :=
  match t.rows.get r.statement with
  | none => t
  | some m => t.carry scope old new r m

def Movable (t : Statements) (scope : RowScope) (old : EntityId) (r : StatementReroute)
    (m : StatementMetadata) : Prop :=
  m.scope = scope ∧ (r.objectChanged = true → m.object = .entity old) ∧
    (r.subjectChanged = true → m.subject.isPending = false ∧ m.subject.bytes = old ∧
      m.chainKey = ⟨scope, r.chainRoot, r.oldVersion⟩ ∧
      (r.newVersion ≠ r.oldVersion → t.chain.get ⟨scope, r.chainRoot, r.newVersion⟩ = none))

instance : Decidable (Movable t scope old r m) := inferInstanceAs (Decidable (_ ∧ _ ∧ _))

def Fits (scope : RowScope) (old : EntityId) (r : StatementReroute) (m : StatementMetadata) :
    Prop :=
  m.scope = scope ∧ (r.objectChanged = true → m.object = .entity old) ∧
    (r.subjectChanged = true → m.subject.isPending = false ∧ m.subject.bytes = old)

lemma Movable.fits (h : t.Movable scope old r m) : Fits scope old r m :=
  ⟨h.1, h.2.1, fun hr => ⟨(h.2.2 hr).1, (h.2.2 hr).2.1⟩⟩

structure Indexed (t : Statements) : Prop where
  bySubject : Mirrors subjectEntry id t.rows t.bySubject
  bySubjectId : Mirrors subjectIdEntry (fun _ => ()) t.rows t.bySubjectId
  byObject : Mirrors objectKey id t.rows t.byObjectEntity
  byEventTime : Mirrors eventKey id t.rows t.byEventTime

lemma Mirrored.indexed (h : t.Mirrored) : t.Indexed :=
  ⟨h.bySubject, h.bySubjectId, h.byObject, h.byEventTime⟩

section
variable (t : Statements) (scope : RowScope) (old new : EntityId) (r : StatementReroute)
  (m : StatementMetadata)

lemma rows_carry : (t.carry scope old new r m).rows = t.rows.insert m.id (m.repointed new r) := by
  unfold carry repoint repointed
  cases r.subjectChanged <;> cases r.objectChanged <;> rfl

lemma byObjectEntity_carry : (t.carry scope old new r m).byObjectEntity = if r.objectChanged then
        (t.byObjectEntity.remove ⟨scope, old, m.kind.asU8, m.id⟩).insert
          ⟨scope, new, m.kind.asU8, m.id⟩ m.id else t.byObjectEntity := by
  unfold carry repoint
  cases r.subjectChanged <;> cases r.objectChanged <;> rfl

lemma bySubject_carry : (t.carry scope old new r m).bySubject = if r.subjectChanged then
        (t.bySubject.remove ⟨scope, old, m.kind.asU8, m.predicate, m.isCurrent, m.id⟩).insert
          ⟨scope, new, m.kind.asU8, m.predicate, m.isCurrent, m.id⟩ m.id else t.bySubject := by
  unfold carry repoint
  cases r.subjectChanged <;> cases r.objectChanged <;> rfl

lemma bySubjectId_carry : (t.carry scope old new r m).bySubjectId = if r.subjectChanged then
        (t.bySubjectId.remove ⟨scope, old, m.id⟩).insert ⟨scope, new, m.id⟩ ()
      else t.bySubjectId := by
  unfold carry repoint
  cases r.subjectChanged <;> cases r.objectChanged <;> rfl

lemma byEventTime_carry : (t.carry scope old new r m).byEventTime = if r.subjectChanged then
        match m.kind, m.eventAt with
        | .event, some eventAt => (t.byEventTime.remove ⟨scope, eventAt, old, m.id⟩).insert
          ⟨scope, eventAt, new, m.id⟩ m.id
        | _, _ => t.byEventTime
      else t.byEventTime := by
  unfold carry repoint
  cases r.subjectChanged <;> cases r.objectChanged <;> rfl

lemma chain_carry :
    (t.carry scope old new r m).chain = if r.subjectChanged ∧ r.newVersion ≠ r.oldVersion then
        (t.chain.remove ⟨scope, r.chainRoot, r.oldVersion⟩).insert
          ⟨scope, r.chainRoot, r.newVersion⟩ m.id else t.chain := by
  unfold carry repoint
  cases r.subjectChanged <;> cases r.objectChanged <;> simp
end

section
variable (h : t.Indexed) (hids : t.Keyed) (hm : t.rows.get m.id = some m)
  (hfits : Fits scope old r m)

include h hids hm hfits

lemma Indexed.bySubject_carry : Mirrors subjectEntry id (t.rows.insert m.id (m.repointed new r))
      (t.carry scope old new r m).bySubject := by
  obtain ⟨rfl, -, hsubj⟩ := hfits
  obtain ⟨hid, hsc, hkind, hpred, hcur, -, -⟩ := m.repointed_frame new r
  rw [Statements.bySubject_carry]
  split
  next hr =>
    obtain ⟨hpend, rfl⟩ := hsubj hr
    have hkey := subjectEntry_resolved ((m.isPending_repointed new r).trans hpend)
    have hnew : (m.repointed new r).subjectKey =
        ⟨m.scope, new, m.kind.asU8, m.predicate, m.isCurrent, m.id⟩ := by
      simp [subjectKey, subjectKeyAs, hid, hsc, hkind, hpred, hcur, subject_repointed, hr]
    rw [hnew] at hkey
    exact h.bySubject.move hm (subjectEntry_resolved hpend) hkey
      (hids.own subjectEntry_owner rfl) (hids.own subjectEntry_owner rfl)
  next hr =>
    refine h.bySubject.same hm ?_
    simp [subjectEntry, subjectKey, subjectKeyAs, hid, hsc, hkind, hpred, hcur,
      subject_repointed, hr]

lemma Indexed.bySubjectId_carry :
    Mirrors subjectIdEntry (fun _ => ()) (t.rows.insert m.id (m.repointed new r))
      (t.carry scope old new r m).bySubjectId := by
  obtain ⟨rfl, -, hsubj⟩ := hfits
  obtain ⟨hid, hsc, -⟩ := m.repointed_frame new r
  rw [Statements.bySubjectId_carry]
  split
  next hr =>
    obtain ⟨hpend, rfl⟩ := hsubj hr
    have hkey := subjectIdEntry_resolved ((m.isPending_repointed new r).trans hpend)
    rw [hid, hsc, subject_repointed, if_pos hr, SubjectRef.bytes_withBytes] at hkey
    exact h.bySubjectId.move hm (subjectIdEntry_resolved hpend) hkey
      (hids.own subjectIdEntry_owner rfl) (hids.own subjectIdEntry_owner rfl)
  next hr =>
    refine h.bySubjectId.same hm ?_
    simp [subjectIdEntry, hid, hsc, subject_repointed, hr]

lemma Indexed.byObject_carry : Mirrors objectKey id (t.rows.insert m.id (m.repointed new r))
      (t.carry scope old new r m).byObjectEntity := by
  obtain ⟨rfl, hobj, -⟩ := hfits
  obtain ⟨hid, hsc, hkind, -⟩ := m.repointed_frame new r
  rw [byObjectEntity_carry]
  split
  next hr =>
    have hkey : m.objectKey = some ⟨m.scope, old, m.kind.asU8, m.id⟩ := by
      simp [objectKey, hobj hr]
    have hkey' : (m.repointed new r).objectKey = some ⟨m.scope, new, m.kind.asU8, m.id⟩ := by
      simp [objectKey, object_repointed, hr, hid, hsc, hkind]
    exact h.byObject.move hm hkey hkey' (hids.own objectKey_owner rfl)
      (hids.own objectKey_owner rfl)
  next hr =>
    refine h.byObject.same hm ?_
    simp [objectKey, object_repointed, hr, hid, hsc, hkind]

lemma Indexed.byEventTime_carry : Mirrors eventKey id (t.rows.insert m.id (m.repointed new r))
      (t.carry scope old new r m).byEventTime := by
  obtain ⟨rfl, -, hsubj⟩ := hfits
  obtain ⟨hid, hsc, hkind, -, -, hev, -⟩ := m.repointed_frame new r
  rw [Statements.byEventTime_carry]
  split
  next hr =>
    obtain ⟨-, rfl⟩ := hsubj hr
    split
    next eventAt hk hat =>
      have hkey : m.eventKey = some ⟨m.scope, eventAt, m.subject.bytes, m.id⟩ := by
        simp [eventKey, hk, hat]
      have hkey' : (m.repointed new r).eventKey = some ⟨m.scope, eventAt, new, m.id⟩ := by
        simp [eventKey, hkind, hev, hk, hat, hid, hsc, subject_repointed, hr]
      exact h.byEventTime.move hm hkey hkey' (hids.own eventKey_owner rfl)
        (hids.own eventKey_owner rfl)
    next hno =>
      -- a row that is not indexed by time of event is not after the move either
      refine h.byEventTime.same hm ?_
      unfold eventKey
      rw [hkind, hev]
      split
      next hk =>
        cases hat : m.eventAt with
        | none => rfl
        | some eventAt => exact absurd hat (hno eventAt hk)
      · rfl
  next hr =>
    refine h.byEventTime.same hm ?_
    simp [eventKey, hid, hsc, hkind, hev, subject_repointed, hr]

lemma Indexed.carry : (t.carry scope old new r m).Indexed := by
  constructor
  · exact (rows_carry ..).symm ▸ h.bySubject_carry hids hm hfits
  · exact (rows_carry ..).symm ▸ h.bySubjectId_carry hids hm hfits
  · exact (rows_carry ..).symm ▸ h.byObject_carry hids hm hfits
  · exact (rows_carry ..).symm ▸ h.byEventTime_carry hids hm hfits
end

lemma Mirrored.chain_carry (h : t.Mirrored) (hm : t.rows.get m.id = some m)
    (hmove : t.Movable scope old r m) :
    Mirrors (fun m => some m.chainKey) id (t.rows.insert m.id (m.repointed new r))
      (t.carry scope old new r m).chain := by
  obtain ⟨rfl, -, hsubj⟩ := hmove
  obtain ⟨-, hsc, -, -, -, -, hroot⟩ := m.repointed_frame new r
  rw [Statements.chain_carry]
  split
  next hr =>
    obtain ⟨-, -, hkey, hfree⟩ := hsubj hr.1
    have hkey' : (m.repointed new r).chainKey = ⟨m.scope, r.chainRoot, r.newVersion⟩ := by
      have hroot' : m.chainRoot = r.chainRoot := congrArg ChainKey.chainRoot hkey
      simp [chainKey, hsc, hroot, version_repointed, hr.1, hroot']
    exact h.chain.move hm (congrArg some hkey) (congrArg some hkey')
      (h.chain.own hm (congrArg some hkey)) (h.chain.own_of_free (hfree hr.2))
  next hr =>
    refine h.chain.same hm (congrArg some ?_)
    have hver : (m.repointed new r).version = m.version := by
      rw [version_repointed]
      split
      next hs =>
        obtain ⟨-, -, hkey, -⟩ := hsubj hs
        have hsame : r.newVersion = r.oldVersion := not_not.mp fun hne => hr ⟨hs, hne⟩
        exact hsame.trans (congrArg ChainKey.version hkey).symm
      · rfl
    simp [chainKey, hsc, hroot, hver]

lemma Mirrored.carry (h : t.Mirrored) (hids : t.Keyed) (hm : t.rows.get m.id = some m)
    (hmove : t.Movable scope old r m) : (t.carry scope old new r m).Mirrored := by
  have hlist : (t.carry scope old new r m).Indexed := h.indexed.carry hids hm hmove.fits
  exact ⟨hlist.bySubject, hlist.bySubjectId, hlist.byObject, hlist.byEventTime,
    (rows_carry ..).symm ▸ h.chain_carry hm hmove⟩

def Apart (a b : StatementReroute) : Prop :=
  a.statement ≠ b.statement ∧ (a.subjectChanged = true → b.subjectChanged = true →
    (a.chainRoot, a.newVersion) ≠ (b.chainRoot, b.newVersion))

lemma follow_of_get (hm : t.rows.get r.statement = some m) :
    t.follow scope old new r = t.carry scope old new r m := by
  rw [follow, hm]

lemma follow_of_get_none (hm : t.rows.get r.statement = none) : t.follow scope old new r = t := by
  rw [follow, hm]

lemma get_rows_follow (hids : t.Keyed) (id : StatementId) : (t.follow scope old new r).rows.get id =
      if id = r.statement then (t.rows.get id).map (·.repointed new r) else t.rows.get id := by
  cases hget : t.rows.get r.statement with
  | none =>
    rw [follow_of_get_none hget]
    split
    next heq => rw [heq, hget]; rfl
    · rfl
  | some m =>
    rw [follow_of_get hget, rows_carry, hids _ m hget, get_insert]
    split
    next heq => rw [heq, hget]; rfl
    · rfl

lemma Keyed.follow (hids : t.Keyed) : (t.follow scope old new r).Keyed := by
  intro id m' hm'
  rw [get_rows_follow hids] at hm'
  split at hm'
  · obtain ⟨m, hm, rfl⟩ := map_eq_some_iff.mp hm'
    exact (m.repointed_frame new r).1.trans (hids id m hm)
  · exact hids id m' hm'

lemma Resolved.follow (hres : t.Resolved) (hids : t.Keyed) :
    (t.follow scope old new r).Resolved := by
  intro id m' hm'
  rw [get_rows_follow hids] at hm'
  split at hm'
  · obtain ⟨m, hm, rfl⟩ := map_eq_some_iff.mp hm'
    exact (m.isPending_repointed new r).trans (hres id m hm)
  · exact hres id m' hm'

lemma Mirrored.follow (h : t.Mirrored) (hids : t.Keyed)
    (hmove : ∀ m ∈ t.rows.get r.statement, t.Movable scope old r m) :
    (t.follow scope old new r).Mirrored := by
  cases hget : t.rows.get r.statement with
  | none => rwa [follow_of_get_none hget]
  | some m =>
    have hm : t.rows.get m.id = some m := by rw [hids _ m hget, hget]
    rw [follow_of_get hget]
    exact h.carry hids hm (hmove m hget)

lemma Indexed.follow (h : t.Indexed) (hids : t.Keyed)
    (hfits : ∀ m ∈ t.rows.get r.statement, Fits scope old r m) :
    (t.follow scope old new r).Indexed := by
  cases hget : t.rows.get r.statement with
  | none => rwa [follow_of_get_none hget]
  | some m =>
    have hm : t.rows.get m.id = some m := by rw [hids _ m hget, hget]
    rw [follow_of_get hget]
    exact h.carry hids hm (hfits m hget)

lemma Movable.follow {r' : StatementReroute} (h : t.Movable scope old r' m)
    (hsep : Apart r r') : (t.follow scope old new r).Movable scope old r' m := by
  refine ⟨h.1, h.2.1, fun hr' => ?_⟩
  obtain ⟨hpend, hbs, hkey, hfree⟩ := h.2.2 hr'
  refine ⟨hpend, hbs, hkey, fun hne => ?_⟩
  cases hget : t.rows.get r.statement with
  | none =>
    rw [follow_of_get_none hget]
    exact hfree hne
  | some n =>
    rw [follow_of_get hget, Statements.chain_carry]
    split
    next hr =>
      have hoth : (⟨scope, r'.chainRoot, r'.newVersion⟩ : ChainKey) ≠
          ⟨scope, r.chainRoot, r.newVersion⟩ := by
        intro heq
        obtain ⟨-, hroot, hver⟩ := ChainKey.mk.inj heq
        exact hsep.2 hr.1 hr' (Prod.ext hroot.symm hver.symm)
      rw [get_insert_ne _ _ hoth, get_remove, hfree hne, ite_self]
    · exact hfree hne

def followAll (t : Statements) (scope : RowScope) (old new : EntityId)
    (records : List StatementReroute) : Statements :=
  records.foldl (fun t r => t.follow scope old new r) t

variable {records : List StatementReroute}

lemma Mirrored.followAll (h : t.Mirrored) (hids : t.Keyed) (hsep : records.Pairwise Apart)
    (hmove : ∀ r ∈ records, ∀ m ∈ t.rows.get r.statement, t.Movable scope old r m) :
    (t.followAll scope old new records).Mirrored := by
  induction records generalizing t with
  | nil => exact h
  | cons r records ih =>
    obtain ⟨hr, hsep⟩ := pairwise_cons.mp hsep
    refine ih (h.follow hids (hmove r mem_cons_self)) hids.follow hsep ?_
    intro r' hr' m hm
    rw [mem_def, get_rows_follow hids, if_neg (hr r' hr').1.symm] at hm
    exact (hmove r' (mem_cons_of_mem r hr') m hm).follow (hr r' hr')

lemma Indexed.followAll (h : t.Indexed) (hids : t.Keyed)
    (hsep : records.Pairwise (·.statement ≠ ·.statement))
    (hfits : ∀ r ∈ records, ∀ m ∈ t.rows.get r.statement, Fits scope old r m) :
    (t.followAll scope old new records).Indexed := by
  induction records generalizing t with
  | nil => exact h
  | cons r records ih =>
    obtain ⟨hr, hsep⟩ := pairwise_cons.mp hsep
    refine ih (h.follow hids (hfits r mem_cons_self)) hids.follow hsep ?_
    intro r' hr' m hm
    rw [mem_def, get_rows_follow hids, if_neg (hr r' hr').symm] at hm
    exact hfits r' (mem_cons_of_mem r hr') m hm

lemma Keyed.followAll (hids : t.Keyed) : (t.followAll scope old new records).Keyed := by
  induction records generalizing t with
  | nil => exact hids
  | cons r records ih => exact ih hids.follow

lemma Resolved.followAll (hres : t.Resolved) (hids : t.Keyed) :
    (t.followAll scope old new records).Resolved := by
  induction records generalizing t with
  | nil => exact hres
  | cons r records ih => exact ih (hres.follow hids) hids.follow

lemma get_rows_followAll_other (hids : t.Keyed) {id : StatementId}
    (hid : ∀ r ∈ records, id ≠ r.statement) :
    (t.followAll scope old new records).rows.get id = t.rows.get id :=
  Relocate.get_foldl_other (v := fun t => t.rows.get) (fun _ _ h => Keyed.follow h)
    (fun _ _ id h => get_rows_follow h id) hids hid

lemma get_rows_followAll (hids : t.Keyed)
    (hsep : records.Pairwise (·.statement ≠ ·.statement)) (hr : r ∈ records) :
    (t.followAll scope old new records).rows.get r.statement =
      (t.rows.get r.statement).map (·.repointed new r) :=
  Relocate.get_foldl_touched (v := fun t => t.rows.get) (fun _ _ h => Keyed.follow h)
    (fun _ _ id h => get_rows_follow h id) hids hsep hr

end Statements
end BrainDb
