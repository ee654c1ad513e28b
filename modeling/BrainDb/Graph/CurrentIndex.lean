import BrainDb.Graph.CascadeEffect

namespace BrainDb
open Table
open StatementMetadata (subjectKey subjectKeyAs)
open Statements Chronicle Option
variable {threshold : UInt32} {now : Nanos} {mint : OverflowMint}

namespace Statements

structure Traced (t : Statements) (i : StatementId) : Prop where
  current : ∀ m, t.rows.get i = some m → m.tombstoned = false → m.supersededBy = none →
    m.isCurrent = true
  listed : ∀ m, t.rows.get i = some m → m.isLive = true → m.subject.isPending = false →
    t.bySubject.get m.subjectKey = some i

def Outdated (t : Statements) (i : StatementId) : Prop :=
  ∃ m, t.rows.get i = some m ∧ m.supersededBy ≠ none

variable {t t' : Statements} {m old row : StatementMetadata} {i : StatementId}

lemma Traced.congr (h : t.Traced i) (hrow : t'.rows.get i = t.rows.get i)
    (hidx : ∀ m, t.rows.get i = some m → m.isLive = true →
      t'.bySubject.get m.subjectKey = t.bySubject.get m.subjectKey) : t'.Traced i where
  current := fun m hm => h.current m (hrow ▸ hm)
  listed := by
    intro m hm hlive hpend
    rw [hrow] at hm
    exact (hidx m hm hlive).trans (h.listed m hm hlive hpend)

lemma subjectKeyAs_ne (h : m.id ≠ old.id) (b c : Bool) : m.subjectKeyAs b ≠ old.subjectKeyAs c :=
  fun heq => h (congrArg BySubjectKey.statement heq)

lemma Outdated.congr (h : t.Outdated i) (hrow : t'.rows.get i = t.rows.get i) : t'.Outdated i := by
  obtain ⟨m, hm, hsup⟩ := h
  exact ⟨m, hrow.trans hm, hsup⟩

section
variable [Confidences]

lemma traced_place (hkey : t.Keyed) (h : ∀ i, t.Traced i)
    (hm : m.tombstoned = false → m.supersededBy = none → m.isCurrent = true)
    (memories : List MemoryId) (i : StatementId) : (t.place m memories).Traced i := by
  by_cases hi : i = m.id
  · subst hi
    have hget : (t.place m memories).rows.get m.id = some m := t.rows.get_insert_self _ _
    refine ⟨fun m' hm' => ?_, fun m' hm' _ hpend => ?_⟩
    · obtain rfl := some.inj (hget.symm.trans hm')
      exact hm
    · obtain rfl := some.inj (hget.symm.trans hm')
      simp [place, hpend]
  · refine (h i).congr (t.rows.get_insert_ne _ hi) fun m' hm' _ => ?_
    have hne : m'.id ≠ m.id := by rwa [hkey i m' hm']
    simp only [place]
    split
    · rfl
    · exact t.bySubject.get_insert_ne _ (subjectKeyAs_ne hne _ _)

lemma traced_withdraw (hkey : t.Keyed) (h : ∀ i, t.Traced i) (hid : row.id = old.id)
    (hwhy : row.tombstoned = true ∨ row.supersededBy ≠ none) (hrow : row.isLive = false)
    (i : StatementId) : (t.withdraw old row).Traced i := by
  by_cases hi : i = old.id
  · have hget : (t.withdraw old row).rows.get i = some row := by
      rw [rows_withdraw, hid, hi, get_insert_self]
    refine ⟨fun m' hm' htomb hsup => ?_, fun m' hm' hlive => ?_⟩
    · obtain rfl := some.inj (hget.symm.trans hm')
      rcases hwhy with h | h
      · rw [htomb] at h; cases h
      · exact absurd hsup h
    · obtain rfl := some.inj (hget.symm.trans hm')
      rw [hrow] at hlive
      cases hlive
  · refine (h i).congr ?_ fun m' hm' _ => ?_
    · rw [rows_withdraw, hid]
      exact t.rows.get_insert_ne _ hi
    · have hne : m'.id ≠ old.id := by rwa [hkey i m' hm']
      rw [bySubject_withdraw]
      split
      · rw [subjectKey, get_insert_ne _ _ (subjectKeyAs_ne hne _ _),
          get_remove_ne _ (subjectKeyAs_ne hne _ _)]
      · rfl

lemma traced_bury (hkey : t.Keyed) (h : ∀ i, t.Traced i) (row : StatementMetadata)
    (reason : TombstoneReason) (now : Nanos) (i : StatementId) :
    (t.bury row reason now).Traced i := by
  have hrow : (row.buried reason now).id = row.id := rfl
  have htraced := traced_withdraw hkey h hrow (.inl rfl) rfl i
  exact ⟨htraced.current, htraced.listed⟩

lemma outdated_place (hunused : t.rows.get m.id = none) (h : t.Outdated i)
    (memories : List MemoryId) : (t.place m memories).Outdated i := by
  refine h.congr (t.rows.get_insert_ne _ ?_)
  rintro rfl
  obtain ⟨m', hm', _⟩ := h
  rw [hunused] at hm'
  cases hm'

lemma outdated_withdraw (hold : t.rows.get old.id = some old) (hid : row.id = old.id)
    (hrow : old.supersededBy ≠ none → row.supersededBy ≠ none) (h : t.Outdated i) :
    (t.withdraw old row).Outdated i := by
  by_cases hi : i = old.id
  · subst hi
    obtain ⟨m, hm, hsup⟩ := h
    obtain rfl := some.inj (hold.symm.trans hm)
    refine ⟨row, ?_, hrow hsup⟩
    rw [rows_withdraw, hid, get_insert_self]
  · refine h.congr ?_
    rw [rows_withdraw, hid]
    exact t.rows.get_insert_ne _ hi

section
variable {memory : MemoryId} {cap : Nat}

lemma bySubject_buryAt_other {id : StatementId} {k : BySubjectKey} (hkey : t.Keyed)
    (hk : k.statement ≠ id) : (t.buryAt now id).bySubject.get k = t.bySubject.get k := by
  unfold buryAt
  split
  · rfl
  next row hrow =>
    split
    · rfl
    · have hne : ∀ b, k ≠ row.subjectKeyAs b := by
        intro b heq
        exact hk ((congrArg BySubjectKey.statement heq).trans (hkey id row hrow))
      rw [bury, bySubject_withdraw]
      split
      · rw [get_insert_ne _ _ (hne _), get_remove_ne _ (hne _)]
      · rfl

lemma bySubject_cascaded (hkey : t.Keyed) {k : BySubjectKey}
    (hk : k.statement ∉ dying (t.affected memory cap) threshold) :
    (cascaded t memory threshold cap now mint).bySubject.get k = t.bySubject.get k := by
  refine (Run.foldl_frame (P := fun t' : Statements => t'.Keyed ∧
    t'.bySubject.get k = t.bySubject.get k) ?_ ⟨keyed_shrinkAll now mint hkey memory _, ?_⟩).2
  · intro id hid t' ht'
    have hne : k.statement ≠ id := fun heq => hk (heq ▸ hid)
    exact ⟨keyed_buryAt ht'.1 id, (bySubject_buryAt_other ht'.1 hne).trans ht'.2⟩
  · rw [bySubject_shrinkAll]

lemma traced_cascaded (hkey : t.Keyed) (h : ∀ i, t.Traced i) (i : StatementId) :
    (cascaded t memory threshold cap now mint).Traced i := by
  by_cases hi : ∃ a ∈ t.affected memory cap, a.row.id = i
  · obtain ⟨a, ha, rfl⟩ := hi
    have hget : (cascaded t memory threshold cap now mint).rows.get a.row.id =
        some (afterwards a threshold now mint) := rows_get_cascaded_self hkey ha
    have hrow := (affected_row hkey ha).1
    unfold afterwards at hget
    split at hget
    next hdies =>
      refine ⟨fun m hm htomb => ?_, fun m hm hlive => ?_⟩
      · obtain rfl := some.inj (hget.symm.trans hm)
        cases htomb
      · obtain rfl := some.inj (hget.symm.trans hm)
        cases hlive
    next hdies =>
      refine ⟨fun m hm htomb hsup => ?_, fun m hm hlive hpend => ?_⟩
      · obtain rfl := some.inj (hget.symm.trans hm)
        exact (h a.row.id).current a.row hrow htomb hsup
      · obtain rfl := some.inj (hget.symm.trans hm)
        have hnot : a.row.id ∉ dying (t.affected memory cap) threshold :=
          fun hmem => hdies ((mem_dying (affected_pairwise hkey memory cap) ha).mp hmem)
        exact (bySubject_cascaded hkey hnot).trans ((h a.row.id).listed a.row hrow hlive hpend)
  · push Not at hi
    refine (h i).congr (rows_get_cascaded_other hkey hi) fun m hm _ => ?_
    refine bySubject_cascaded hkey fun hmem => ?_
    obtain ⟨a, ha, hid⟩ := List.mem_map.mp hmem
    exact hi a (List.mem_of_mem_filter ha) (hid.trans (hkey i m hm))

lemma outdated_cascaded (hkey : t.Keyed) (h : t.Outdated i) :
    (cascaded t memory threshold cap now mint).Outdated i := by
  by_cases hi : ∃ a ∈ t.affected memory cap, a.row.id = i
  · obtain ⟨a, ha, rfl⟩ := hi
    obtain ⟨m, hm, hsup⟩ := h
    obtain rfl := some.inj ((affected_row hkey ha).1.symm.trans hm)
    refine ⟨_, rows_get_cascaded_self hkey ha, ?_⟩
    unfold afterwards
    split <;> exact hsup
  · push Not at hi
    exact h.congr (rows_get_cascaded_other hkey hi)
end

section
variable {id : StatementId} {r : ForgetUndoRecord}

omit [Confidences] in
lemma supersededBy_revertedRow (confidence : UInt32) (evidence : EvidenceRef) :
    (revertedRow row r confidence evidence).supersededBy = row.supersededBy := by
  unfold revertedRow
  split <;> rfl

lemma bySubject_revertStatement (r : ForgetUndoRecord) (now : Nanos)
    (mint : OverflowMint) (hrow : t.rows.get id = some row) :
    (revertStatement t id r now mint).bySubject = if forgotten row && r.priorIsCurrent then
        (t.bySubject.remove (row.subjectKeyAs false)).insert (row.subjectKeyAs true) row.id
      else t.bySubject := by
  simp only [revertStatement, hrow]
  cases hforg : forgotten row with
  | true =>
    cases hpre : r.priorIsCurrent <;> simp [reactivate, hpre] <;> rfl
  | false =>
    cases row.tombstoned with
    | true => rfl
    | false => simp [restoreRow]

lemma outdated_revertStatement (hkey : t.Keyed) (h : t.Outdated i) :
    (revertStatement t id r now mint).Outdated i := by
  by_cases hi : i = id
  · subst hi
    obtain ⟨m, hm, hsup⟩ := h
    obtain ⟨_, _, hget⟩ := rows_revertStatement_self r now mint hkey hm
    exact ⟨_, hget, by rwa [supersededBy_revertedRow]⟩
  · exact h.congr (rows_revertStatement_other r now mint hkey hi)

lemma traced_revertStatement (hkey : t.Keyed) (h : ∀ i, t.Traced i)
    (hnoted : r.priorIsCurrent = false → t.Outdated id) (i : StatementId) :
    (revertStatement t id r now mint).Traced i := by
  cases hrow : t.rows.get id with
  | none =>
    simp only [revertStatement, hrow]
    exact h i
  | some row =>
    have hid := hkey id row hrow
    have hidx := bySubject_revertStatement r now mint hrow
    by_cases hi : i = id
    · subst hi
      obtain ⟨_, _, hget⟩ := rows_revertStatement_self r now mint hkey hrow
      unfold revertedRow at hget
      split at hget
      next hforg =>
        rw [hforg, Bool.true_and] at hidx
        refine ⟨fun m hm _ hsup => ?_, fun m hm hlive _ => ?_⟩
        · obtain rfl := some.inj (hget.symm.trans hm)
          by_contra hpre
          obtain ⟨m', hm', hsup'⟩ := hnoted (Bool.eq_false_iff.mpr hpre)
          obtain rfl := some.inj (hrow.symm.trans hm')
          exact hsup' hsup
        · obtain rfl := some.inj (hget.symm.trans hm)
          have hpre : r.priorIsCurrent = true := (Bool.and_eq_true_iff.mp hlive).1
          rw [hidx, if_pos hpre]
          simp only [subjectKey, subjectKeyAs, hpre]
          rw [get_insert_self, hid]
      next hforg =>
        have hsame : (forgotten row && r.priorIsCurrent) = false := by simp [hforg]
        rw [hsame] at hidx
        refine ⟨fun m hm => ?_, fun m hm => ?_⟩
        · obtain rfl := some.inj (hget.symm.trans hm)
          exact (h i).current row hrow
        · obtain rfl := some.inj (hget.symm.trans hm)
          rw [hidx]
          exact (h i).listed row hrow
    · refine (h i).congr (rows_revertStatement_other r now mint hkey hi) fun m hm _ => ?_
      have hne : m.id ≠ row.id := by rwa [hkey i m hm, hid]
      rw [hidx]
      split
      · rw [subjectKey, get_insert_ne _ _ (subjectKeyAs_ne hne _ _),
          get_remove_ne _ (subjectKeyAs_ne hne _ _)]
      · rfl
end
end
end Statements

structure Chronicle.Tracked (l : Chronicle) : Prop where
  keyed : l.graph.statements.Keyed
  traced : ∀ i, l.graph.statements.Traced i
  noted : ∀ k r, l.undoLog.get k = some r → r.recordKind = .statement → r.priorIsCurrent = false →
    l.graph.statements.Outdated k.dependent

namespace Chronicle
variable [Confidences] {l : Chronicle}

omit [Confidences] in
lemma Tracked.withStatements (h : l.Tracked) {t : Statements} (hkey : t.Keyed)
    (htraced : ∀ i, t.Traced i) (hout : ∀ i, l.graph.statements.Outdated i → t.Outdated i) :
    (l.withStatements t).Tracked :=
  ⟨hkey, htraced, fun k r hget hkind hpre => hout _ (h.noted k r hget hkind hpre)⟩

variable {undo : Option Nanos}

lemma Tracked.superseded (h : l.Tracked) {scope : RowScope} {session : SessionId}
    {oldId : StatementId} {s : Statement} {old : StatementMetadata} {confidence : UInt32}
    {memories : List MemoryId} {t' : Statements}
    (hsup : Superseded l.graph.statements scope session oldId s now old confidence memories t') :
    (l.withStatements t').Tracked := by
  have hid := h.keyed _ _ hsup.row
  have hold : l.graph.statements.rows.get old.id = some old := by rw [hid]; exact hsup.row
  have hne : s.id ≠ old.id := by
    intro heq
    rw [← heq, hsup.unused] at hold
    cases hold
  have hunused : (l.graph.statements.withdraw old (old.superseded s now)).rows.get s.id = none := by
    rw [rows_withdraw]
    exact (l.graph.statements.rows.get_insert_ne _ hne).trans hsup.unused
  refine h.withStatements (keyed_of_superseded h.keyed hsup) (fun i => ?_) fun i hi => ?_
  · rw [hsup.tables]
    refine traced_place (keyed_withdraw h.keyed _ _) ?_ ?_ memories i
    · exact traced_withdraw h.keyed h.traced rfl (.inr (some_ne_none _)) rfl
    · intro htomb hnone
      simp only [Statement.row] at htomb hnone ⊢
      simp [htomb, hnone]
  · rw [hsup.tables]
    refine outdated_place ?_ ?_ memories
    · exact hunused
    · exact outdated_withdraw hold rfl (fun _ => some_ne_none _) hi

omit [Confidences] in
lemma journal_records {memory : MemoryId} {affected : List AffectedStatement} {log : UndoLog}
    {k : UndoKey} {r : ForgetUndoRecord}
    (h : (affected.foldl (fun log a => a.journal log memory threshold undo) log).get k = some r) :
    log.get k = some r ∨
      ∃ a ∈ affected, k.dependent = a.row.id ∧ r.priorIsCurrent = a.row.isCurrent := by
  refine Run.foldl_frame (P := fun log' : UndoLog => ∀ k r, log'.get k = some r →
    log.get k = some r ∨
      ∃ a ∈ affected, k.dependent = a.row.id ∧ r.priorIsCurrent = a.row.isCurrent)
    ?_ (fun _ _ h => .inl h) k r h
  intro a ha log' hlog' k r hget
  unfold AffectedStatement.journal at hget
  split at hget
  · rw [get_insert] at hget
    split at hget
    next heq =>
      obtain rfl := some.inj hget
      exact .inr ⟨a, ha, by rw [heq], rfl⟩
    · exact hlog' k r hget
  · exact hlog' k r hget

lemma Tracked.cascaded (h : l.Tracked) {memory : MemoryId} {cap : Nat} {l' : Chronicle}
    (hsame : SameStatements
        { graph := { l.graph with
            statements := cascaded l.graph.statements memory threshold cap now mint }
          undoLog := (l.graph.statements.affected memory cap).foldl
            (fun log a => a.journal log memory threshold undo) l.undoLog } l') : l'.Tracked where
  keyed := by
    rw [hsame.statements]
    exact keyed_cascaded h.keyed memory threshold cap now mint
  traced := by
    rw [hsame.statements]
    exact traced_cascaded h.keyed h.traced
  noted := by
    intro k r hget hkind hpre
    rw [hsame.statements]
    refine outdated_cascaded h.keyed ?_
    rcases journal_records (hsame.records k r hget hkind) with hold | ⟨a, ha, hk, hcur⟩
    · exact h.noted k r hold hkind hpre
    · obtain ⟨hrow, htomb⟩ := affected_row h.keyed ha
      rw [hk]
      refine ⟨a.row, hrow, fun hnone => ?_⟩
      have := (h.traced a.row.id).current a.row hrow htomb hnone
      rw [← hcur, hpre] at this
      cases this

lemma Tracked.revertRecord (h : l.Tracked) {e : UndoKey × ForgetUndoRecord}
    (he : e.2.recordKind = .statement → e.2.priorIsCurrent = false →
      l.graph.statements.Outdated e.1.dependent) : (Chronicle.revertRecord now mint l e).Tracked ∧
      ∀ i, l.graph.statements.Outdated i →
        (Chronicle.revertRecord now mint l e).graph.statements.Outdated i := by
  have hout : ∀ i, l.graph.statements.Outdated i →
      (Chronicle.revertRecord now mint l e).graph.statements.Outdated i := by
    intro i hi
    unfold Chronicle.revertRecord
    cases e.2.recordKind with
    | statement => exact outdated_revertStatement h.keyed hi
    | relation =>
      simp only [revertRelation]
      split <;> exact hi
  refine ⟨⟨keyed_revertRecord h.keyed e, fun i => ?_, fun k r hget hkind hpre => ?_⟩, hout⟩
  · unfold Chronicle.revertRecord
    cases hkind : e.2.recordKind with
    | statement => exact traced_revertStatement h.keyed h.traced (he hkind) i
    | relation =>
      simp only [revertRelation]
      split <;> exact h.traced i
  · have hget : (l.undoLog.remove e.1).get k = some r := hget
    rw [get_remove] at hget
    split at hget
    · cases hget
    · exact hout _ (h.noted k r hget hkind hpre)

lemma tracked_step (h : l.Tracked) (op : StatementOp) : (l.step op).Tracked := by
  cases happ : l.apply op with
  | error e => rwa [step_eq_of_error happ]
  | ok l' =>
    rw [step_eq_of_ok happ]
    cases op with
    | create scope session s now =>
      obtain ⟨p, id, t', hp, hmade, rfl⟩ := apply_create_ok happ
      cases hmade with
      | superseding _ hsup => exact h.superseded hsup
      | repeated _ => exact h
      | placed _ =>
        have hunused := Graph.creatable_unused hp
        refine h.withStatements (keyed_place h.keyed _ _) ?_ fun i hi => ?_
        · refine traced_place h.keyed h.traced ?_ _
          intro htomb hnone
          simp only [Statement.row] at htomb hnone ⊢
          simp [htomb, hnone]
        · refine outdated_place ?_ hi _
          exact hunused
    | supersede scope session old s now =>
      obtain ⟨_, _, _, t', hsup, rfl⟩ := apply_supersede_ok happ
      exact h.superseded hsup
    | tombstone id reason now =>
      obtain ⟨row, hrow, ⟨_, rfl⟩ | ⟨_, rfl⟩⟩ := apply_tombstone_ok happ
      · exact h
      · have hid := h.keyed id row hrow
        have hold : l.graph.statements.rows.get row.id = some row := by rw [hid]; exact hrow
        exact h.withStatements
          (h.keyed.insert (m := row.buried reason now) (rows_bury _ row reason now))
          (traced_bury h.keyed h.traced row reason now)
          fun i => outdated_withdraw hold rfl fun hsup => hsup
    | forget scope memory threshold cap now undo mint =>
      obtain ⟨l'', hok, hsame⟩ := apply_forget h.keyed scope memory threshold cap now undo mint
      rw [happ] at hok
      cases hok
      exact h.cascaded hsame
    | revert memory cap now mint =>
      cases happ
      refine (Run.foldl_frame (P := fun l' : Chronicle => l'.Tracked ∧
        ∀ e ∈ l.undoRecords memory cap, e.2.recordKind = .statement →
          e.2.priorIsCurrent = false → l'.graph.statements.Outdated e.1.dependent) ?_ ⟨h, ?_⟩).1
      · intro e he l' hl'
        obtain ⟨htracked, hout⟩ := hl'.1.revertRecord (hl'.2 e he)
        exact ⟨htracked, fun e' he' hkind hpre => hout _ (hl'.2 e' he' hkind hpre)⟩
      · intro e he hkind hpre
        have hget := (l.undoLog.mem_scan).mp (mem_of_mem_batch he)
        exact h.noted e.1 e.2 hget.1 hkind hpre

omit [Confidences] in
lemma Blank.tracked (h : l.Blank) : l.Tracked := by
  have hnone : ∀ i, l.graph.statements.rows.get i = none := by
    intro i
    rw [h.statements]
    rfl
  refine ⟨fun i m hm => ?_, fun i => ⟨fun m hm => ?_, fun m hm => ?_⟩, fun k r hget => ?_⟩
  · rw [hnone i] at hm; cases hm
  · rw [hnone i] at hm; cases hm
  · rw [hnone i] at hm; cases hm
  · rw [h.undoLog] at hget; cases hget

end Chronicle
end BrainDb
