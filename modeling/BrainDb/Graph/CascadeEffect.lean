import BrainDb.Base.Run
import BrainDb.Graph.Cascade
import BrainDb.Graph.StatementEffect

namespace BrainDb
open Run
open List Table Statements

lemma pairwise_batch {A : Type} {R : A → A → Prop} {l : List A} (cap : Nat)
    (h : l.Pairwise R) : (batch cap l).Pairwise R :=
  h.sublist (take_sublist _ _)

variable {cap : Nat} {row : StatementMetadata} {t : Statements} {memory : MemoryId}
  {a : AffectedStatement}

lemma mem_of_mem_batch {A : Type} {l : List A} {a : A} (h : a ∈ batch cap l) : a ∈ l :=
  mem_of_mem_take h

variable {i : StatementId}

namespace Statements

lemma affectedBy_some (h : t.affectedBy memory row = some a) :
    a.row = row ∧ row.tombstoned = false := by
  unfold affectedBy at h
  split at h
  · cases h
  next htomb =>
    split at h
    · cases h
    · split at h
      · exact ⟨(congrArg AffectedStatement.row (Option.some.inj h)).symm, by simpa using htomb⟩
      · cases h

lemma affected_row (hids : t.Keyed) (ha : a ∈ t.affected memory cap) :
    t.rows.get a.row.id = some a.row ∧ a.row.tombstoned = false := by
  obtain ⟨e, he, hae⟩ := mem_filterMap.mp (mem_of_mem_batch ha)
  obtain ⟨hrow, htomb⟩ := affectedBy_some hae
  have hget := t.rows.mem_entries_iff.mp he
  rw [hrow, hids _ _ hget]
  exact ⟨hget, htomb⟩

lemma affected_pairwise (hids : t.Keyed) (memory : MemoryId) (cap : Nat) :
    (t.affected memory cap).Pairwise fun a b => a.row.id ≠ b.row.id := by
  refine pairwise_batch cap (pairwise_filterMap.mpr ?_)
  refine t.rows.sorted.imp_of_mem ?_
  intro e e' he he' hlt a ha b hb
  rw [(affectedBy_some ha).1, (affectedBy_some hb).1,
    hids _ _ (t.rows.mem_entries_iff.mp he), hids _ _ (t.rows.mem_entries_iff.mp he')]
  exact hlt.ne

variable [Confidences] (now : Nanos) (mint : OverflowMint)

lemma foldl_rekey_frame (l : List AffectedStatement) (t : Statements) :
    (l.foldl (fun t a => t.rekeyPredicateIndex a.row a.row.confidence (a.newConfidence now)) t).rows
        = t.rows ∧
      (l.foldl (fun t a => t.rekeyPredicateIndex a.row a.row.confidence (a.newConfidence now))
        t).bySubject = t.bySubject := by
  induction l generalizing t with
  | nil => exact ⟨rfl, rfl⟩
  | cons a l ih => simpa using ih (t.rekeyPredicateIndex a.row a.row.confidence (a.newConfidence now))

lemma foldl_shrink_frame (memory : MemoryId) (l : List AffectedStatement) (t : Statements) :
    (l.foldl (fun t a => t.shrink memory now mint a) t).bySubject = t.bySubject ∧
      (l.foldl (fun t a => t.shrink memory now mint a) t).byPredicate = t.byPredicate := by
  induction l generalizing t with
  | nil => exact ⟨rfl, rfl⟩
  | cons a l ih => exact ih (t.shrink memory now mint a)

lemma bySubject_shrinkAll (memory : MemoryId) (l : List AffectedStatement)
    (t : Statements) : (t.shrinkAll memory now mint l).bySubject = t.bySubject :=
  (foldl_rekey_frame now l _).2.trans (foldl_shrink_frame now mint memory l t).1

lemma rows_shrinkAll (memory : MemoryId) (l : List AffectedStatement) (t : Statements) :
    (t.shrinkAll memory now mint l).rows =
      (l.foldl (fun t a => t.shrink memory now mint a) t).rows :=
  (foldl_rekey_frame now l _).1

variable {l : List AffectedStatement}

lemma rows_get_shrinkAll_self (hl : l.Pairwise fun a b => a.row.id ≠ b.row.id) (ha : a ∈ l)
    (memory : MemoryId) (t : Statements) :
    (t.shrinkAll memory now mint l).rows.get a.row.id = some (a.shrunk now mint) := by
  rw [rows_shrinkAll]
  refine foldl_at (P := fun _ => True)
    (Q := fun t : Statements => t.rows.get a.row.id = some (a.shrunk now mint))
    (fun a => a.row.id) hl ha (fun _ _ _ _ => trivial) ?_ ?_ trivial
  · intro b t hne hget
    exact (t.rows.get_insert_ne _ hne.symm).trans hget
  · intro t _
    exact t.rows.get_insert_self _ _

lemma rows_get_shrinkAll_other (hi : ∀ a ∈ l, a.row.id ≠ i) (memory : MemoryId)
    (t : Statements) : (t.shrinkAll memory now mint l).rows.get i = t.rows.get i := by
  rw [rows_shrinkAll]
  refine foldl_frame (P := fun t' : Statements => t'.rows.get i = t.rows.get i) ?_ rfl
  intro a ha t' hget
  exact (t'.rows.get_insert_ne _ (hi a ha).symm).trans hget

lemma keyed_shrinkAll (hids : t.Keyed) (memory : MemoryId) (l : List AffectedStatement) :
    (t.shrinkAll memory now mint l).Keyed := by
  unfold Keyed
  rw [rows_shrinkAll]
  exact foldl_frame (P := Keyed) (fun a _ t' h => h.insert (m := a.shrunk now mint) rfl) hids

def buryAt (t : Statements) (id : StatementId) : Statements :=
  match t.rows.get id with
  | none => t
  | some row => if row.tombstoned then t else t.bury row .sourceMemoryForgotten now

variable {now}

lemma rows_buryAt_other {id : StatementId} (hids : t.Keyed) (hne : i ≠ id) :
    (t.buryAt now id).rows.get i = t.rows.get i := by
  unfold buryAt
  split
  · rfl
  next row hrow =>
    split
    · rfl
    · rw [rows_bury, hids id row hrow]
      exact t.rows.get_insert_ne _ hne

lemma rows_buryAt_self (hids : t.Keyed) (hrow : t.rows.get i = some row)
    (htomb : row.tombstoned = false) :
    (t.buryAt now i).rows.get i = some (row.buried .sourceMemoryForgotten now) := by
  have hbury : t.buryAt now i = t.bury row .sourceMemoryForgotten now := by
    simp [buryAt, hrow, htomb]
  rw [hbury, rows_bury, hids i row hrow]
  exact t.rows.get_insert_self _ _

lemma keyed_buryAt (hids : t.Keyed) (id : StatementId) : (t.buryAt now id).Keyed := by
  unfold buryAt
  split
  · exact hids
  next row _ =>
    split
    · exact hids
    · exact hids.insert (m := row.buried .sourceMemoryForgotten now) (rows_bury t row _ _)

lemma statementTombstone_eq_buryAt {id : StatementId} (h : (t.rows.get id).isSome) :
    t.statementTombstone id .sourceMemoryForgotten now = .ok (t.buryAt now id) := by
  obtain ⟨row, hrow⟩ := Option.isSome_iff_exists.mp h
  simp only [statementTombstone, buryAt, hrow]
  split <;> rfl

lemma isSome_buryAt {id : StatementId} (hids : t.Keyed) (h : (t.rows.get i).isSome) :
    ((t.buryAt now id).rows.get i).isSome := by
  by_cases hi : i = id
  · subst hi
    unfold buryAt
    split
    · exact h
    next row hrow =>
      split
      · exact h
      · rw [rows_bury, hids i row hrow, get_insert_self]; rfl
  · rw [rows_buryAt_other hids hi]
    exact h

lemma buryAll_eq (now : Nanos) {ids : List StatementId} (hids : t.Keyed)
    (h : ∀ id ∈ ids, (t.rows.get id).isSome) :
    t.buryAll now ids = .ok (ids.foldl (buryAt now) t) := by
  induction ids generalizing t with
  | nil => rfl
  | cons id ids ih =>
    unfold buryAll
    rw [foldlM_cons, statementTombstone_eq_buryAt (h id mem_cons_self)]
    refine ih (keyed_buryAt hids id) fun id' hid' => isSome_buryAt hids ?_
    exact h id' (mem_cons_of_mem id hid')

end Statements

namespace Chronicle
variable [Confidences] {l : Chronicle}

def dying (affected : List AffectedStatement) (threshold : UInt32) : List StatementId :=
  (affected.filter (·.dies threshold)).map (·.row.id)

def cascaded (t : Statements) (memory : MemoryId) (threshold : UInt32) (cap : Nat)
    (now : Nanos) (mint : OverflowMint) : Statements :=
  (dying (t.affected memory cap) threshold).foldl (buryAt now)
    (t.shrinkAll memory now mint (t.affected memory cap))

lemma cascadeForgetToStatements_eq (hids : l.graph.statements.Keyed) (memory : MemoryId)
    (threshold : UInt32) (cap : Nat) (now : Nanos) (undo : Option Nanos) (mint : OverflowMint) :
    l.cascadeForgetToStatements memory threshold cap now undo mint = .ok
      { graph := { l.graph with
          statements := cascaded l.graph.statements memory threshold cap now mint }
        undoLog := (l.graph.statements.affected memory cap).foldl
          (fun log a => a.journal log memory threshold undo) l.undoLog } := by
  have hsome : ∀ id ∈ dying (l.graph.statements.affected memory cap) threshold,
      ((l.graph.statements.shrinkAll memory now mint
        (l.graph.statements.affected memory cap)).rows.get id).isSome := by
    intro id hid
    obtain ⟨a, ha, rfl⟩ := List.mem_map.mp hid
    rw [rows_get_shrinkAll_self now mint (affected_pairwise hids memory cap) (mem_of_mem_filter ha)]
    rfl
  have hbury := buryAll_eq now (keyed_shrinkAll now mint hids memory _) hsome
  unfold cascadeForgetToStatements
  simp only [dying] at hbury
  simp only [hbury]
  rfl

variable {now : Nanos} {mint : OverflowMint} {affected : List AffectedStatement}
  {e : UndoKey × ForgetUndoRecord}

omit [Confidences] in
lemma dying_nodup (h : affected.Pairwise fun a b => a.row.id ≠ b.row.id) (threshold : UInt32) :
    (dying affected threshold).Pairwise fun a b => a ≠ b :=
  pairwise_map.mpr (h.sublist filter_sublist)

omit [Confidences] in
lemma mem_dying (h : affected.Pairwise fun a b => a.row.id ≠ b.row.id) (ha : a ∈ affected)
    {threshold : UInt32} : a.row.id ∈ dying affected threshold ↔ a.dies threshold = true := by
  constructor
  · intro hmem
    obtain ⟨b, hb, hid⟩ := List.mem_map.mp hmem
    obtain ⟨hb, hdies⟩ := mem_filter.mp hb
    by_contra hne
    have hab : b ≠ a := fun heq => hne (heq ▸ hdies)
    have : Std.Symm fun a b : AffectedStatement => a.row.id ≠ b.row.id := ⟨fun _ _ h => h.symm⟩
    exact h.forall hb ha hab hid
  · intro hdies
    exact List.mem_map_of_mem (mem_filter.mpr ⟨ha, hdies⟩)

lemma keyed_cascaded (hids : t.Keyed) (memory : MemoryId) (threshold : UInt32) (cap : Nat)
    (now : Nanos) (mint : OverflowMint) : (cascaded t memory threshold cap now mint).Keyed :=
  foldl_frame (P := Keyed) (fun id _ _ h => keyed_buryAt h id)
    (keyed_shrinkAll now mint hids memory _)

section
variable {threshold : UInt32}

lemma rows_get_cascaded_other (hids : t.Keyed) (hi : ∀ a ∈ t.affected memory cap, a.row.id ≠ i) :
    (cascaded t memory threshold cap now mint).rows.get i = t.rows.get i := by
  have hbeg : (t.shrinkAll memory now mint (t.affected memory cap)).Keyed ∧
      (t.shrinkAll memory now mint (t.affected memory cap)).rows.get i = t.rows.get i :=
    ⟨keyed_shrinkAll now mint hids memory _, rows_get_shrinkAll_other now mint hi memory t⟩
  refine (foldl_frame
    (P := fun t' : Statements => t'.Keyed ∧ t'.rows.get i = t.rows.get i) ?_ hbeg).2
  intro id hid t' ht'
  obtain ⟨a, ha, rfl⟩ := List.mem_map.mp hid
  have hne := (hi a (mem_of_mem_filter ha)).symm
  exact ⟨keyed_buryAt ht'.1 _, (rows_buryAt_other ht'.1 hne).trans ht'.2⟩

def afterwards (a : AffectedStatement) (threshold : UInt32) (now : Nanos)
    (mint : OverflowMint) : StatementMetadata :=
  if a.dies threshold then (a.shrunk now mint).buried .sourceMemoryForgotten now
  else a.shrunk now mint

lemma rows_get_cascaded_self (hids : t.Keyed) (ha : a ∈ t.affected memory cap) :
    (cascaded t memory threshold cap now mint).rows.get a.row.id =
      some (afterwards a threshold now mint) := by
  have hpair := affected_pairwise hids memory cap
  have hshrunk := rows_get_shrinkAll_self now mint hpair ha memory t
  have hids' := keyed_shrinkAll now mint hids memory (t.affected memory cap)
  unfold afterwards
  split
  next hdies =>
    refine (foldl_at (Q := fun t' : Statements => t'.Keyed ∧ t'.rows.get a.row.id =
        some ((a.shrunk now mint).buried .sourceMemoryForgotten now))
      (P := fun t' : Statements => t'.Keyed ∧
        t'.rows.get a.row.id = some (a.shrunk now mint)) id
      (dying_nodup hpair threshold) ((mem_dying hpair ha).mpr hdies) ?_ ?_ ?_
      ⟨hids', hshrunk⟩).2
    · intro i t' hne ht'
      exact ⟨keyed_buryAt ht'.1 i, (rows_buryAt_other ht'.1 hne.symm).trans ht'.2⟩
    · intro i t' hne ht'
      exact ⟨keyed_buryAt ht'.1 i, (rows_buryAt_other ht'.1 hne.symm).trans ht'.2⟩
    · intro t' ht'
      exact ⟨keyed_buryAt ht'.1 _, rows_buryAt_self ht'.1 ht'.2 (affected_row hids ha).2⟩
  next hdies =>
    refine (foldl_frame (P := fun t' : Statements => t'.Keyed ∧
      t'.rows.get a.row.id = some (a.shrunk now mint)) ?_ ⟨hids', hshrunk⟩).2
    intro i hi t' ht'
    have hne : a.row.id ≠ i := by
      rintro rfl
      exact hdies ((mem_dying hpair ha).mp hi)
    exact ⟨keyed_buryAt ht'.1 i, (rows_buryAt_other ht'.1 hne).trans ht'.2⟩
end

structure SameStatements (l l' : Chronicle) : Prop where
  statements : l'.graph.statements = l.graph.statements
  catalog : l'.graph.catalog = l.graph.catalog
  records : ∀ k r, l'.undoLog.get k = some r → r.recordKind = .statement → l.undoLog.get k = some r

omit [Confidences] in
lemma SameStatements.journalRelation {l' : Chronicle} (h : SameStatements l l') {id : RelationId}
    {m : RelationMetadata} {outcome : UndoOutcome} {undo : Option Nanos} {k : UndoKey}
    {r : ForgetUndoRecord}
    (hget : (Chronicle.journalRelation l'.undoLog memory id m outcome undo).get k = some r)
    (hkind : r.recordKind = .statement) : l.undoLog.get k = some r := by
  unfold Chronicle.journalRelation at hget
  split at hget
  · exact h.records k r hget hkind
  · rw [get_insert] at hget
    split at hget
    · obtain rfl := Option.some.inj hget
      cases hkind
    · exact h.records k r hget hkind

omit [Confidences] in
lemma sameStatements_cascadeForgetToEdges (l : Chronicle) (scope : RowScope) (memory : MemoryId)
    (now : Nanos) (undo : Option Nanos) :
    SameStatements l (l.cascadeForgetToEdges scope memory now undo) := by
  refine foldl_frame (P := SameStatements l) ?_ ⟨rfl, rfl, fun _ _ h _ => h⟩
  intro id _ l' hl'
  simp only [forgetRelation]
  split
  · exact ⟨hl'.statements, hl'.catalog, hl'.records⟩
  · split
    · exact ⟨hl'.statements, hl'.catalog, hl'.records⟩
    · exact ⟨hl'.statements, hl'.catalog, fun k r => hl'.journalRelation⟩
    · exact ⟨hl'.statements, hl'.catalog, fun k r => hl'.journalRelation⟩

section
variable {id : StatementId} (r : ForgetUndoRecord) (now : Nanos)
  (mint : OverflowMint)

lemma rows_revertStatement (hrow : t.rows.get id = some row) :
    (revertStatement t id r now mint).rows = t.rows.insert row.id
      (revertedRow row r (restoredConfidence t row r now)
        (.of (restoredEvidence t row r) (revertOverflowId row r mint))) := by
  simp only [revertStatement, hrow]
  split
  · unfold reactivate
    split <;> rfl
  · split
    · rfl
    · rw [rows_rekeyPredicateIndex]; rfl

omit [Confidences] in
lemma revertedRow_id (confidence : UInt32) (evidence : EvidenceRef) :
    (revertedRow row r confidence evidence).id = row.id := by
  unfold revertedRow
  split <;> rfl

lemma keyed_revertStatement (hids : t.Keyed) : (revertStatement t id r now mint).Keyed := by
  cases hrow : t.rows.get id with
  | none =>
    simp only [revertStatement, hrow]
    exact hids
  | some row =>
    have hrows := rows_revertStatement r now mint hrow
    rw [← revertedRow_id r (restoredConfidence t row r now)
      (.of (restoredEvidence t row r) (revertOverflowId row r mint))] at hrows
    exact hids.insert hrows

lemma rows_revertStatement_self (hids : t.Keyed) (hrow : t.rows.get id = some row) :
    ∃ confidence evidence, (revertStatement t id r now mint).rows.get id =
      some (revertedRow row r confidence evidence) := by
  have hrows := rows_revertStatement r now mint hrow
  have hget := congrArg (Table.get · id) hrows
  simp only [hids id row hrow, get_insert_self] at hget
  exact ⟨_, _, hget⟩

lemma rows_revertStatement_other (hids : t.Keyed) (hne : i ≠ id) :
    (revertStatement t id r now mint).rows.get i = t.rows.get i := by
  cases hrow : t.rows.get id with
  | none => simp only [revertStatement, hrow]
  | some row =>
    rw [rows_revertStatement r now mint hrow, hids id row hrow]
    exact t.rows.get_insert_ne _ hne
end

omit [Confidences] in
lemma undoRecords_pairwise (l : Chronicle) (memory : MemoryId) (cap : Nat) :
    (l.undoRecords memory cap).Pairwise fun a b => a.1.dependent ≠ b.1.dependent := by
  refine pairwise_batch cap ?_
  refine (l.undoLog.sorted.filter _).imp_of_mem ?_
  intro a b ha hb hlt heq
  have hmem : a.1.memory = b.1.memory := by
    have ha := (mem_filter.mp ha).2
    have hb := (mem_filter.mp hb).2
    exact (of_decide_eq_true ha).trans (of_decide_eq_true hb).symm
  have hkey : a.1 = b.1 := by
    cases ha1 : a.1
    cases hb1 : b.1
    rw [ha1, hb1] at hmem heq
    simp only at hmem heq
    rw [hmem, heq]
  exact hlt.ne hkey

lemma keyed_revertRecord (hids : l.graph.statements.Keyed) (e : UndoKey × ForgetUndoRecord) :
    (revertRecord now mint l e).graph.statements.Keyed := by
  unfold revertRecord
  cases e.2.recordKind with
  | statement => exact keyed_revertStatement e.2 now mint hids
  | relation =>
    simp only [revertRelation]
    split <;> exact hids

lemma rows_revertRecord_other (hids : l.graph.statements.Keyed)
    (h : e.2.recordKind = .relation ∨ i ≠ e.1.dependent) :
    (revertRecord now mint l e).graph.statements.rows.get i = l.graph.statements.rows.get i := by
  unfold revertRecord
  cases hkind : e.2.recordKind with
  | relation =>
    simp only [revertRelation]
    split <;> rfl
  | statement =>
    have hne := h.resolve_left (by simp [hkind])
    exact rows_revertStatement_other e.2 now mint hids hne

lemma rows_cascadeRevertForget_self (now : Nanos) (mint : OverflowMint)
    (hids : l.graph.statements.Keyed) (he : e ∈ l.undoRecords memory cap)
    (hkind : e.2.recordKind = .statement)
    (hrow : l.graph.statements.rows.get e.1.dependent = some row) :
    ∃ confidence evidence, (l.cascadeRevertForget memory now cap
      mint).graph.statements.rows.get e.1.dependent =
        some (revertedRow row e.2 confidence evidence) := by
  refine (foldl_at (fun e : UndoKey × ForgetUndoRecord => e.1.dependent)
    (P := fun l : Chronicle => l.graph.statements.Keyed ∧
      l.graph.statements.rows.get e.1.dependent = some row)
    (Q := fun l : Chronicle => l.graph.statements.Keyed ∧ ∃ confidence evidence,
      l.graph.statements.rows.get e.1.dependent = some (revertedRow row e.2 confidence evidence))
    (l.undoRecords_pairwise memory cap) he ?_ ?_ ?_ ⟨hids, hrow⟩).2
  · intro e' l' hne h
    exact ⟨keyed_revertRecord h.1 e', (rows_revertRecord_other h.1 (.inr hne.symm)).trans h.2⟩
  · intro e' l' hne ⟨hl', confidence, evidence, h⟩
    exact ⟨keyed_revertRecord hl' e', confidence, evidence,
      (rows_revertRecord_other hl' (.inr hne.symm)).trans h⟩
  · intro l' h
    refine ⟨keyed_revertRecord h.1 e, ?_⟩
    simp only [revertRecord, hkind]
    exact rows_revertStatement_self e.2 now mint h.1 h.2

lemma rows_cascadeRevertForget_other (now : Nanos) (mint : OverflowMint)
    (hids : l.graph.statements.Keyed)
    (hi : ∀ e ∈ l.undoRecords memory cap, e.2.recordKind = .statement →
      e.1.dependent = i → l.graph.statements.rows.get i = none) :
    (l.cascadeRevertForget memory now cap mint).graph.statements.rows.get i =
      l.graph.statements.rows.get i := by
  refine (foldl_frame (P := fun l' : Chronicle => l'.graph.statements.Keyed ∧
    l'.graph.statements.rows.get i = l.graph.statements.rows.get i) ?_ ⟨hids, rfl⟩).2
  intro e he l' h
  refine ⟨keyed_revertRecord h.1 e, Eq.trans ?_ h.2⟩
  cases hkind : e.2.recordKind with
  | relation => exact rows_revertRecord_other h.1 (.inl hkind)
  | statement =>
    by_cases hdep : e.1.dependent = i
    · have hnone := h.2.trans (hi e he hkind hdep)
      simp only [revertRecord, hkind, hdep, revertStatement, hnone]
    · exact rows_revertRecord_other h.1 (.inr (Ne.symm hdep))

lemma keyed_place (hids : t.Keyed) (m : StatementMetadata) (memories : List MemoryId) :
    (t.place m memories).Keyed :=
  hids.insert (m := m) rfl

lemma keyed_withdraw (hids : t.Keyed) (old row : StatementMetadata) : (t.withdraw old row).Keyed :=
  hids.insert (m := row) (rows_withdraw t old row)

lemma keyed_of_superseded {t' : Statements} (hids : t.Keyed) {scope : RowScope}
    {session : SessionId} {oldId : StatementId} {s : Statement} {old : StatementMetadata}
    {confidence : UInt32} {memories : List MemoryId}
    (h : Superseded t scope session oldId s now old confidence memories t') : t'.Keyed :=
  h.tables ▸ keyed_place (keyed_withdraw hids _ _) _ _

lemma step_eq_of_ok {op : StatementOp} {l' : Chronicle} (h : l.apply op = .ok l') :
    l.step op = l' := by
  simp only [step, h]

lemma step_eq_of_error {op : StatementOp} {e : StatementOpError} (h : l.apply op = .error e) :
    l.step op = l := by
  simp only [step, h]

def withStatements (l : Chronicle) (t : Statements) : Chronicle :=
  { l with graph := { l.graph with statements := t } }

section
open ExceptLemmas
variable {l' : Chronicle} {scope : RowScope} {session : SessionId} {s : Statement}

lemma apply_create_ok (h : l.apply (.create scope session s now) = .ok l') :
    ∃ p id t', l.graph.creatable s = .ok p ∧ Graph.Created l.graph scope session s now p id t' ∧
      l' = l.withStatements t' := by
  obtain ⟨created, hcreate, h⟩ := bind_ok h
  obtain ⟨p, t', hp, hgraph, hmade⟩ := Graph.statementCreate_ok hcreate
  cases h
  exact ⟨p, created.1, t', hp, hmade, by rw [withStatements, hgraph]⟩

lemma apply_supersede_ok {old : StatementId}
    (h : l.apply (.supersede scope session old s now) = .ok l') : ∃ row confidence memories t',
      Superseded l.graph.statements scope session old s now row confidence memories t' ∧
      l' = l.withStatements t' := by
  obtain ⟨t', hsupersede, h⟩ := bind_ok h
  obtain ⟨row, confidence, memories, hsup⟩ := statementSupersede_ok hsupersede
  cases h
  exact ⟨row, confidence, memories, t', hsup, rfl⟩

variable {P : Chronicle → Prop}

lemma step_create_iff {C : _ → Prop} (hrest : P l)
    (hmade : ∀ {p id t'}, l.graph.creatable s = .ok p →
      Graph.Created l.graph scope session s now p id t' → (P (l.withStatements t') ↔ C p)) :
    P (l.step (.create scope session s now)) ↔
      ((l.apply (.create scope session s now)).isOk → ∀ p, l.graph.creatable s = .ok p → C p) := by
  cases happ : l.apply (.create scope session s now) with
  | error e =>
    rw [step_eq_of_error happ]
    exact iff_of_true hrest fun h => by cases h
  | ok l' =>
    rw [step_eq_of_ok happ]
    obtain ⟨p, id, t', hp, hcase, rfl⟩ := apply_create_ok happ
    refine (hmade hp hcase).trans ⟨fun h _ q hq => ?_, fun h => h rfl p hp⟩
    cases hp.symm.trans hq
    exact h

lemma step_supersede_iff {C : Prop} {old : StatementId} (hrest : P l)
    (hsup : ∀ {row confidence memories t'},
      Superseded l.graph.statements scope session old s now row confidence memories t' →
        (P (l.withStatements t') ↔ C)) : P (l.step (.supersede scope session old s now)) ↔
      ((l.apply (.supersede scope session old s now)).isOk → C) := by
  cases happ : l.apply (.supersede scope session old s now) with
  | error e =>
    rw [step_eq_of_error happ]
    exact iff_of_true hrest fun h => by cases h
  | ok l' =>
    rw [step_eq_of_ok happ]
    obtain ⟨_, _, _, t', hcase, rfl⟩ := apply_supersede_ok happ
    exact (hsup hcase).trans ⟨fun h _ => h, fun h => h rfl⟩

lemma apply_tombstone_ok {id : StatementId} {reason : TombstoneReason}
    (h : l.apply (.tombstone id reason now) = .ok l') :
    ∃ row, l.graph.statements.rows.get id = some row ∧ (row.tombstoned = true ∧ l' = l ∨
        row.tombstoned = false ∧
          l' = l.withStatements (l.graph.statements.bury row reason now)) := by
  obtain ⟨t', htombstone, h⟩ := bind_ok h
  obtain ⟨row, hrow, hcase⟩ := statementTombstone_ok htombstone
  cases h
  refine ⟨row, hrow, ?_⟩
  rcases hcase with ⟨htomb, rfl⟩ | ⟨htomb, rfl⟩
  · exact .inl ⟨htomb, rfl⟩
  · exact .inr ⟨htomb, rfl⟩

lemma apply_forget (hids : l.graph.statements.Keyed) (scope : RowScope) (memory : MemoryId)
    (threshold : UInt32) (cap : Nat) (now : Nanos) (undo : Option Nanos) (mint : OverflowMint) :
    ∃ l', l.apply (.forget scope memory threshold cap now undo mint) = .ok l' ∧ SameStatements
        { graph := { l.graph with
            statements := cascaded l.graph.statements memory threshold cap now mint }
          undoLog := (l.graph.statements.affected memory cap).foldl
            (fun log a => a.journal log memory threshold undo) l.undoLog } l' := by
  simp only [apply, cascadeForgetToStatements_eq hids]
  exact ⟨_, rfl, sameStatements_cascadeForgetToEdges _ scope memory now undo⟩
end

lemma keyed_step (hids : l.graph.statements.Keyed) (op : StatementOp) :
    (l.step op).graph.statements.Keyed := by
  cases happ : l.apply op with
  | error e => rwa [step_eq_of_error happ]
  | ok l' =>
    rw [step_eq_of_ok happ]
    cases op with
    | create scope session s now =>
      obtain ⟨p, id, t', _, hmade, rfl⟩ := apply_create_ok happ
      cases hmade with
      | superseding _ hsup => exact keyed_of_superseded hids hsup
      | repeated _ => exact hids
      | placed _ => exact keyed_place hids _ _
    | supersede scope session old s now =>
      obtain ⟨_, _, _, t', hsup, rfl⟩ := apply_supersede_ok happ
      exact keyed_of_superseded hids hsup
    | tombstone id reason now =>
      obtain ⟨row, _, ⟨_, rfl⟩ | ⟨_, rfl⟩⟩ := apply_tombstone_ok happ
      · exact hids
      · exact hids.insert (m := row.buried reason now) (rows_bury _ row reason now)
    | forget scope memory threshold cap now undo mint =>
      obtain ⟨l'', hok, hsame⟩ := apply_forget hids scope memory threshold cap now undo mint
      rw [happ] at hok
      cases hok
      rw [hsame.statements]
      exact keyed_cascaded hids memory threshold cap now mint
    | revert memory cap now mint =>
      cases happ
      exact foldl_frame (P := fun l : Chronicle => l.graph.statements.Keyed)
        (fun e _ _ h => keyed_revertRecord h e) hids

omit [Confidences] in
lemma Blank.keyed (h : l.Blank) : l.graph.statements.Keyed := by
  intro id m hm
  rw [h.statements] at hm
  cases hm

end Chronicle

@[reducible] def flatConfidence : Confidences where
  aggregate := fun _ _ _ => 0x3F666666
  bucket := fun c => if c = 0 then 0 else 9

def household : Chronicle :=
  let ann : EntityMetadata :=
    { id := 1, entityType := 1, canonicalName := "ann", normalizedName := "ann", aliases := []
      attributes := [], mentionCount := 0, createdAt := 0, updatedAt := 0, mergedInto := none
      embeddingVersion := 0, tombstoned := false, merged := false, scope := ⟨1, 1⟩, sessionId := 0 }
  let livesIn : Schema.Definition Schema.PredicateConstraints :=
    { id := 1, qname := ⟨"acme", "lives_in"⟩, constraints := .open, schemaVersion := 1
      createdAt := 0, origin := .schemaDeclared 1 }
  let g := Graph.empty { Schema.Catalog.empty with
    predicates := Schema.Vocabulary.empty.register livesIn }
  { graph := { g with entities := { g.entities with
      entities := g.entities.entities.insert 1 ann } }
    undoLog := .empty }

lemma household_blank : household.Blank := ⟨rfl, rfl⟩

def residence (id : StatementId) (memory : MemoryId) (now : Nanos) : Statement :=
  .newRoot id .attribute (.entity 1) 1 (.value (.integer id)) 0x3F666666
    (.inline [⟨memory, 900, now, 0⟩]) 0 now 1

def moves (id : StatementId) (memory : MemoryId) (now : Nanos) : StatementOp :=
  .create ⟨1, 1⟩ 0 (residence id memory now) now

def forgets (memory : MemoryId) (now : Nanos) : StatementOp :=
  .forget ⟨1, 1⟩ memory 0x3E4CCCCD 256 now (some (now + 100)) id

def recalls (memory : MemoryId) (now : Nanos) : StatementOp := .revert memory 256 now id

end BrainDb
