import BrainDb.Graph.CurrentIndex

namespace BrainDb
open StatementMetadata (isLive)
open Statements Option

structure ValueSlot where
  scope : RowScope
  subject : SubjectRef
  kind : StatementKind
  predicate : PredicateId
  deriving DecidableEq

def StatementMetadata.slot (m : StatementMetadata) : ValueSlot :=
  ⟨m.scope, m.subject, m.kind, m.predicate⟩

def Statement.slot (s : Statement) (scope : RowScope) : ValueSlot :=
  ⟨scope, s.subject, s.kind, s.predicate⟩

variable {scope : RowScope} {session : SessionId} {s : Statement} {now : Nanos}
  {confidence : UInt32} {memory : MemoryId} {mint : OverflowMint} {oldId : StatementId}
  {memories : List MemoryId} {cap : Nat} {p : Schema.PredicateConstraints}

namespace Statements
variable (t : Statements)

def Live (i : StatementId) (slot : ValueSlot) : Prop :=
  ∃ m, t.rows.get i = some m ∧ m.isLive = true ∧ m.slot = slot

instance (t : Statements) (i : StatementId) (slot : ValueSlot) : Decidable (t.Live i slot) :=
  decidable_of_iff ((t.rows.get i).any fun m => m.isLive && m.slot = slot) <| by
    simp [Live, any_eq_true]

def OneValue (single : StatementKind → Bool) : Prop :=
  ∀ slot i j, single slot.kind = true → t.Live i slot → t.Live j slot → i = j

def Vacant (slot : ValueSlot) : Prop := ∀ i, ¬ t.Live i slot

variable {t t' : Statements} {single : StatementKind → Bool} {m old row : StatementMetadata}
  {i : StatementId} {slot : ValueSlot}

lemma OneValue.mono (h : t.OneValue single) (hsub : ∀ i slot, t'.Live i slot → t.Live i slot) :
    t'.OneValue single :=
  fun slot i j hsingle hi hj => h slot i j hsingle (hsub i slot hi) (hsub j slot hj)

lemma oneValue_add_iff (h : t.OneValue single) {new : StatementId} {k : ValueSlot} {c : Prop}
    (hnew : ∀ slot, ¬ t.Live new slot)
    (hlive : ∀ i slot, t'.Live i slot ↔ t.Live i slot ∨ i = new ∧ c ∧ k = slot) :
    t'.OneValue single ↔ (c → single k.kind = true → t.Vacant k) := by
  constructor
  · intro h' hc hsingle i hi
    have hself := (hlive new k).mpr (.inr ⟨rfl, hc, rfl⟩)
    obtain rfl := h' k i new hsingle ((hlive i k).mpr (.inl hi)) hself
    exact hnew k hi
  · intro hvacant slot i j hsingle hi hj
    rcases (hlive i slot).mp hi with hi | ⟨rfl, hc, rfl⟩
    · rcases (hlive j slot).mp hj with hj | ⟨rfl, hc, rfl⟩
      · exact h slot i j hsingle hi hj
      · exact absurd hi (hvacant hc hsingle i)
    · rcases (hlive j _).mp hj with hj | ⟨rfl, _, _⟩
      · exact absurd hj (hvacant hc hsingle j)
      · rfl

lemma not_live_of_unused (h : t.rows.get i = none) : ¬ t.Live i slot := by
  rintro ⟨m, hm, _⟩
  rw [h] at hm
  cases hm

section
variable [Confidences]

lemma live_place (hunused : t.rows.get m.id = none) (memories : List MemoryId) :
    (t.place m memories).Live i slot ↔
      t.Live i slot ∨ i = m.id ∧ m.isLive = true ∧ m.slot = slot := by
  by_cases hi : i = m.id
  · subst hi
    have hget : (t.place m memories).rows.get m.id = some m := t.rows.get_insert_self _ _
    constructor
    · rintro ⟨m', hm', hlive, hslot⟩
      obtain rfl := some.inj (hget.symm.trans hm')
      exact .inr ⟨rfl, hlive, hslot⟩
    · rintro (h | ⟨_, hlive, hslot⟩)
      · exact absurd h (not_live_of_unused hunused)
      · exact ⟨m, hget, hlive, hslot⟩
  · have hget : (t.place m memories).rows.get i = t.rows.get i := t.rows.get_insert_ne _ hi
    simp only [Live, hget, hi, false_and, or_false]

lemma live_withdraw (hid : row.id = old.id) (hrow : row.isLive = false) :
    (t.withdraw old row).Live i slot ↔ t.Live i slot ∧ i ≠ old.id := by
  simp only [Live, rows_withdraw, hid]
  by_cases hi : i = old.id
  · subst hi
    simp [hrow]
  · simp only [Table.get_insert_ne _ _ hi, ne_eq, hi, not_false_eq_true, and_true]

lemma oneValue_superseded (hids : t.Keyed) (h : t.OneValue single)
    (hcur : old.tombstoned = false → old.supersededBy = none → old.isCurrent = true)
    (hsup : Superseded t scope session oldId s now old confidence memories t') :
    t'.OneValue single ↔ (s.tombstoned = false → single s.kind = true →
      old.subject ≠ s.subject → t.Vacant (s.slot scope)) := by
  have hid := hids _ _ hsup.row
  have hne : s.id ≠ old.id := by
    intro heq
    have hrow := hsup.row
    rw [← hid, ← heq, hsup.unused] at hrow
    cases hrow
  have hwithdrawn : ∀ {i slot}, (t.withdraw old (old.superseded s now)).Live i slot ↔
      t.Live i slot ∧ i ≠ old.id := live_withdraw rfl rfl
  have hunused : (t.withdraw old (old.superseded s now)).rows.get s.id = none := by
    rw [rows_withdraw]
    exact (t.rows.get_insert_ne _ hne).trans hsup.unused
  have hone : (t.withdraw old (old.superseded s now)).OneValue single :=
    h.mono fun i slot hi => (hwithdrawn.mp hi).1
  have hold : t.Live old.id old.slot := by
    refine ⟨old, by rw [hid]; exact hsup.row, ?_, rfl⟩
    rw [isLive, hcur hsup.allowed.tombstoned hsup.allowed.supersededBy, hsup.allowed.tombstoned]
    rfl
  have hnew : ∀ i slot, t'.Live i slot ↔ (t.withdraw old (old.superseded s now)).Live i slot ∨
      i = s.id ∧ s.tombstoned = false ∧ s.slot scope = slot := by
    intro i slot
    rw [hsup.tables]
    refine (live_place ?_ memories).trans ?_
    · exact hunused
    · refine or_congr_right (and_congr_right fun _ => and_congr_left fun _ => ?_)
      simp [isLive, Statement.row, StatementMetadata.successor]
  rw [oneValue_add_iff hone (fun slot => not_live_of_unused hunused) hnew]
  refine forall_congr' fun _ => forall_congr' fun hsingle => ?_
  constructor
  · intro hvacant hsubj i hi
    refine hvacant i (hwithdrawn.mpr ⟨hi, ?_⟩)
    rintro rfl
    obtain ⟨m, hm, _, hslot⟩ := hi
    rw [hid, hsup.row] at hm
    cases hm
    exact hsubj (congrArg ValueSlot.subject hslot)
  · intro hvacant i hi
    obtain ⟨hi, hne⟩ := hwithdrawn.mp hi
    by_cases hsubj : old.subject = s.subject
    · have hslot : old.slot = s.slot scope := by
        simp only [StatementMetadata.slot, Statement.slot, hsubj, hsup.allowed.scope,
          hsup.allowed.kind, hsup.allowed.predicate]
      rw [hslot] at hold
      exact hne (h _ i old.id hsingle hi hold)
    · exact hvacant hsubj i hi

lemma live_of_cascaded {threshold : UInt32} (hids : t.Keyed)
    (h : (Chronicle.cascaded t memory threshold cap now mint).Live i slot) : t.Live i slot := by
  obtain ⟨m', hm', hlive, hslot⟩ := h
  by_cases hi : ∃ a ∈ t.affected memory cap, a.row.id = i
  · obtain ⟨a, ha, rfl⟩ := hi
    rw [Chronicle.rows_get_cascaded_self hids ha] at hm'
    obtain rfl := some.inj hm'
    unfold Chronicle.afterwards at hlive hslot
    split at hlive
    · cases hlive
    next hdies =>
      rw [if_neg hdies] at hslot
      exact ⟨a.row, (affected_row hids ha).1, hlive, hslot⟩
  · push Not at hi
    rw [Chronicle.rows_get_cascaded_other hids hi] at hm'
    exact ⟨m', hm', hlive, hslot⟩
end
end Statements

lemma Graph.vacant_of_fresh {g : Graph} {subject : EntityId}
    (htraced : ∀ i, g.statements.Traced i) (hfresh : g.placement scope s p = .fresh)
    (hsubj : s.subject.asEntity = some subject) (hsingle : g.kindSupersedes s.kind = true) :
    g.statements.Vacant (s.slot scope) := by
  rintro i ⟨m, hm, hlive, hslot⟩
  have hent : s.subject = .entity subject := by
    cases hs : s.subject with
    | entity id => rw [hs] at hsubj; rw [some.inj hsubj]
    | memory id | pending audit => rw [hs] at hsubj; cases hsubj
  have hmsubject : m.subject = .entity subject := (congrArg ValueSlot.subject hslot).trans hent
  have hentry := (htraced i).listed m hm hlive (by rw [hmsubject]; rfl)
  have hkey : m.subjectKey = ⟨scope, subject, s.kind.asU8, s.predicate, true, m.id⟩ := by
    have hsc : m.scope = scope := congrArg ValueSlot.scope hslot
    have hkind : m.kind = s.kind := congrArg ValueSlot.kind hslot
    have hpred : m.predicate = s.predicate := congrArg ValueSlot.predicate hslot
    have hcur : m.isCurrent = true := (Bool.and_eq_true_iff.mp hlive).1
    rw [StatementMetadata.subjectKey, StatementMetadata.subjectKeyAs, hsc, hkind, hpred,
      hcur, hmsubject]
    rfl
  have hmem : (m.subjectKey, i) ∈ g.statements.currentEntries scope subject s.kind s.predicate := by
    refine (g.statements.bySubject.mem_scan).mpr ⟨hentry, ?_⟩
    simp [hkey]
  have hev : s.kind ≠ .event := by
    intro heq
    rw [heq] at hsingle
    cases hsingle
  have hpre : ∃ prior, g.priorValue scope subject s p = some prior := by
    cases hentries : g.statements.currentEntries scope subject s.kind s.predicate with
    | nil =>
      rw [hentries] at hmem
      cases hmem
    | cons e rest =>
      refine ⟨e.2, ?_⟩
      simp [priorValue, hsingle, hev, findCurrentStatement, hentries]
  obtain ⟨prior, hpre⟩ := hpre
  simp only [placement, hsubj, hpre] at hfresh
  cases hfresh

lemma Graph.kindSupersedes_congr {g g' : Graph} (h : g'.catalog = g.catalog) :
    g'.kindSupersedes = g.kindSupersedes := by
  funext kind
  cases kind <;> simp [Graph.kindSupersedes, h]

namespace Chronicle
variable [Confidences] {l : Chronicle}

def Revives (l : Chronicle) (memory : MemoryId) (cap : Nat) (i : StatementId)
    (slot : ValueSlot) : Prop :=
  ∃ e ∈ l.undoRecords memory cap, e.2.recordKind = .statement ∧ e.2.priorIsCurrent = true ∧
    e.1.dependent = i ∧ ∃ m, l.graph.statements.rows.get i = some m ∧ forgotten m = true ∧
      m.slot = slot

lemma live_cascadeRevertForget {i : StatementId} {slot : ValueSlot}
    (hids : l.graph.statements.Keyed) :
    (l.cascadeRevertForget memory now cap mint).graph.statements.Live i slot ↔
      l.graph.statements.Live i slot ∨ l.Revives memory cap i slot := by
  by_cases hrec : ∃ e ∈ l.undoRecords memory cap, e.2.recordKind = .statement ∧
      e.1.dependent = i ∧ ∃ m, l.graph.statements.rows.get i = some m
  · obtain ⟨e, he, hkind, rfl, m, hm⟩ := hrec
    obtain ⟨_, _, hget⟩ := rows_cascadeRevertForget_self now mint hids he hkind hm
    unfold revertedRow at hget
    split at hget
    next hforg =>
      have htomb : m.tombstoned = true := (Bool.and_eq_true_iff.mp hforg).1
      constructor
      · rintro ⟨m', hm', hlive, hslot⟩
        obtain rfl := some.inj (hget.symm.trans hm')
        have hpre : e.2.priorIsCurrent = true := (Bool.and_eq_true_iff.mp hlive).1
        exact .inr ⟨e, he, hkind, hpre, rfl, m, hm, hforg, hslot⟩
      · rintro (⟨m', hm', hlive, _⟩ | ⟨e', he', hkind', hpre, hdep, m', hm', _, hslot⟩)
        · obtain rfl := some.inj (hm.symm.trans hm')
          rw [isLive, htomb, Bool.not_true, Bool.and_false] at hlive
          cases hlive
        · obtain rfl := some.inj (hm.symm.trans hm')
          rw [← hdep] at hm
          obtain ⟨_, _, hget'⟩ := rows_cascadeRevertForget_self now mint hids he' hkind' hm
          rw [revertedRow, if_pos hforg, hdep] at hget'
          exact ⟨_, hget', by simp [isLive, hpre], hslot⟩
    next hforg =>
      constructor
      · rintro ⟨m', hm', hlive, hslot⟩
        obtain rfl := some.inj (hget.symm.trans hm')
        exact .inl ⟨m, hm, hlive, hslot⟩
      · rintro (⟨m', hm', hlive, hslot⟩ | ⟨_, _, _, _, _, m', hm', hforg', _⟩)
        · obtain rfl := some.inj (hm.symm.trans hm')
          exact ⟨_, hget, hlive, hslot⟩
        · obtain rfl := some.inj (hm.symm.trans hm')
          exact absurd hforg' hforg
  · push Not at hrec
    have hsame := rows_cascadeRevertForget_other now mint hids fun e he hkind hdep =>
      eq_none_iff_forall_ne_some.mpr (hrec e he hkind hdep)
    have hnot : ¬ l.Revives memory cap i slot := by
      rintro ⟨e, he, hkind, _, hdep, m, hm, _⟩
      exact hrec e he hkind hdep m hm
    simp only [Live, hsame, hnot, or_false]

def Succeeds (l : Chronicle) (scope : RowScope) (prior : StatementId) (s : Statement) : Prop :=
  ∀ old, l.graph.statements.rows.get prior = some old → s.tombstoned = false →
    l.graph.kindSupersedes s.kind = true → old.subject ≠ s.subject →
    l.graph.statements.Vacant (s.slot scope)

def KeepsOneValue (l : Chronicle) : StatementOp → Prop
  | .create scope session s now => (l.apply (.create scope session s now)).isOk →
    ∀ p, l.graph.creatable s = .ok p →
      match l.graph.placement scope s p with
      | .supersedes prior => l.Succeeds scope prior s
      | .repeats _ => True
      | .fresh => s.subject.asEntity = none → s.tombstoned = false → s.supersededBy = none →
        l.graph.kindSupersedes s.kind = true → l.graph.statements.Vacant (s.slot scope)
  | .supersede scope session old s now =>
    (l.apply (.supersede scope session old s now)).isOk → l.Succeeds scope old s
  | .tombstone _ _ _ => True
  | .forget _ _ _ _ _ _ _ => True
  | .revert memory cap _ _ => ∀ slot i j, l.graph.kindSupersedes slot.kind = true →
    l.Revives memory cap i slot →
    l.graph.statements.Live j slot ∨ l.Revives memory cap j slot → i = j

abbrev OneValue (l : Chronicle) : Prop := l.graph.statements.OneValue l.graph.kindSupersedes

lemma oneValue_superseded_iff (h : l.Tracked) (hone : l.OneValue) {old : StatementMetadata}
    {t' : Statements}
    (hsup : Superseded l.graph.statements scope session oldId s now old confidence memories t') :
    (l.withStatements t').OneValue ↔ l.Succeeds scope oldId s := by
  have hiff := oneValue_superseded h.keyed hone ((h.traced oldId).current old hsup.row) hsup
  refine Iff.trans hiff ?_
  constructor
  · intro hcond old' hold'
    obtain rfl := some.inj (hsup.row.symm.trans hold')
    exact hcond
  · intro hcond
    exact hcond old hsup.row

lemma oneValue_placed_iff (h : l.Tracked) (hone : l.OneValue) (hp : l.graph.creatable s = .ok p)
    (hfresh : l.graph.placement scope s p = .fresh) (memories : List MemoryId) :
    (l.withStatements (l.graph.statements.place ({ s with confidence }.row scope session)
      memories)).OneValue ↔
      (s.subject.asEntity = none → s.tombstoned = false → s.supersededBy = none →
        l.graph.kindSupersedes s.kind = true → l.graph.statements.Vacant (s.slot scope)) := by
  have hunused := Graph.creatable_unused hp
  refine (oneValue_add_iff (c := s.tombstoned = false ∧ s.supersededBy = none)
    (k := s.slot scope) hone (fun slot => not_live_of_unused hunused) ?_).trans ?_
  · intro i slot
    refine (live_place ?_ memories).trans ?_
    · exact hunused
    · refine or_congr_right (and_congr_right fun _ => and_congr_left fun _ => ?_)
      cases s.tombstoned <;> cases s.supersededBy <;>
        simp [isLive, Statement.row]
  · constructor
    · intro hcond _ htomb hnone
      exact hcond ⟨htomb, hnone⟩
    · rintro hcond ⟨htomb, hnone⟩ hsingle
      cases hent : s.subject.asEntity with
      | none => exact hcond hent htomb hnone hsingle
      | some subject => exact Graph.vacant_of_fresh h.traced hfresh hent hsingle

lemma oneValue_reverted_iff (h : l.Tracked) (hone : l.OneValue) :
    (l.cascadeRevertForget memory now cap mint).graph.statements.OneValue l.graph.kindSupersedes ↔
      l.KeepsOneValue (.revert memory cap now mint) := by
  constructor
  · intro hone' slot i j hsingle hi hj
    exact hone' slot i j hsingle ((live_cascadeRevertForget h.keyed).mpr (.inr hi))
      ((live_cascadeRevertForget h.keyed).mpr hj)
  · intro hcond slot i j hsingle hi hj
    have hj := (live_cascadeRevertForget h.keyed).mp hj
    rcases (live_cascadeRevertForget h.keyed).mp hi with hi | hi
    · rcases hj with hj | hj
      · exact hone slot i j hsingle hi hj
      · exact (hcond slot j i hsingle hj (.inl hi)).symm
    · exact hcond slot i j hsingle hi hj

lemma catalog_cascadeRevertForget (l : Chronicle) (memory : MemoryId) (cap : Nat) (now : Nanos)
    (mint : OverflowMint) :
    (l.cascadeRevertForget memory now cap mint).graph.catalog = l.graph.catalog := by
  refine Run.foldl_frame (P := fun l' : Chronicle => l'.graph.catalog = l.graph.catalog) ?_ rfl
  intro e _ l' hl'
  unfold Chronicle.revertRecord
  cases e.2.recordKind with
  | statement => exact hl'
  | relation =>
    simp only [revertRelation]
    split <;> exact hl'

lemma oneValue_step (h : l.Tracked) (hone : l.OneValue) (op : StatementOp) :
    (l.step op).OneValue ↔ l.KeepsOneValue op := by
  cases op with
  | create scope session s now =>
    refine step_create_iff (P := OneValue) hone fun hp hmade => ?_
    cases hmade with
    | superseding hpos hsup =>
      rw [hpos]
      exact oneValue_superseded_iff h hone hsup
    | repeated hpos =>
      rw [hpos]
      exact iff_of_true hone trivial
    | placed hpos =>
      rw [hpos]
      exact oneValue_placed_iff h hone hp hpos _
  | supersede scope session old s now =>
    exact step_supersede_iff (P := OneValue) hone (oneValue_superseded_iff h hone)
  | tombstone id reason now =>
    refine iff_of_true ?_ trivial
    cases happ : l.apply (.tombstone id reason now) with
    | error e => rwa [step_eq_of_error happ]
    | ok l' =>
      rw [step_eq_of_ok happ]
      obtain ⟨row, _, ⟨_, rfl⟩ | ⟨_, rfl⟩⟩ := apply_tombstone_ok happ
      · exact hone
      · have hid : (row.buried reason now).id = row.id := rfl
        exact hone.mono fun i slot hi => ((live_withdraw hid rfl).mp hi).1
  | forget scope memory threshold cap now undo mint =>
    refine iff_of_true ?_ trivial
    obtain ⟨l', happ, hsame⟩ := apply_forget h.keyed scope memory threshold cap now undo mint
    rw [step_eq_of_ok happ, OneValue, hsame.statements, Graph.kindSupersedes_congr hsame.catalog]
    exact hone.mono fun i slot hi => live_of_cascaded h.keyed hi
  | revert memory cap now mint =>
    have happ : l.apply (.revert memory cap now mint) =
        .ok (l.cascadeRevertForget memory now cap mint) := rfl
    rw [step_eq_of_ok happ, OneValue,
      Graph.kindSupersedes_congr (catalog_cascadeRevertForget l memory cap now mint)]
    exact oneValue_reverted_iff h hone

/-- No slot of a kind that holds one value at a time gets a second one in a run exactly if every
write of it is as it needs to be. -/
theorem oneValue_iff (h : l.Blank) (ops : List StatementOp) :
    Run.Always step OneValue l ops ↔ Run.EachStep step KeepsOneValue l ops := by
  have hnone : ∀ i slot, ¬ l.graph.statements.Live i slot := by
    intro i slot
    rw [h.statements]
    exact not_live_of_unused rfl
  exact Run.always_iff_eachStep (I := Tracked) (P := OneValue) (fun l op hl => tracked_step hl op)
    (fun l op hl hone => oneValue_step hl hone op) h.tracked
    (fun slot i j _ hi _ => absurd hi (hnone i slot)) ops

omit [Confidences] in
theorem residence_single : Run.Always (@step flatConfidence) OneValue household
      [moves 1 7 10, moves 2 8 20, forgets 8 30, recalls 8 40] := by
  let _ := flatConfidence
  refine (oneValue_iff household_blank _).mpr ⟨?_, ?_, trivial, ?_, trivial⟩
  · intro _ p hp
    cases hp
    intro h
    cases h
  · intro _ p hp
    cases hp
    intro old hold _ _ hne
    cases hold
    exact absurd rfl hne
  · have hrecs : ∀ e ∈ (((household.step (moves 1 7 10)).step (moves 2 8 20)).step
        (forgets 8 30)).undoRecords 8 256, e.1.dependent = 2 := by decide +kernel
    have hdead : ∀ e ∈ (((household.step (moves 1 7 10)).step (moves 2 8 20)).step
        (forgets 8 30)).graph.statements.rows.entries, e.2.isLive = false := by decide +kernel
    rintro slot i j - ⟨e, he, -, -, rfl, -⟩ (⟨m, hm, hlive, -⟩ | ⟨e', he', -, -, rfl, -⟩)
    · rw [hdead _ ((Table.mem_entries_iff _).mpr hm)] at hlive
      cases hlive
    · rw [hrecs e he, hrecs e' he']

omit [Confidences] in
/-- The memory of where the person lives is forgotten, they are said to live elsewhere, and the
memory is recalled: both are current. -/
theorem recalled_beside : ¬ Run.Always (@step flatConfidence) OneValue household
      [moves 1 7 10, forgets 7 20, moves 2 8 30, recalls 7 40] := by
  intro h
  have hlive : ∀ i ∈ [1, 2], ([moves 1 7 10, forgets 7 20, moves 2 8 30, recalls 7 40].foldl
      (@step flatConfidence) household).graph.statements.Live i
        ⟨⟨1, 1⟩, .entity 1, .attribute, 1⟩ := by
    decide +kernel
  have hone := h.last ⟨⟨1, 1⟩, .entity 1, .attribute, 1⟩ 1 2 rfl (hlive 1 (by decide))
    (hlive 2 (by decide))
  cases hone

end Chronicle
end BrainDb
