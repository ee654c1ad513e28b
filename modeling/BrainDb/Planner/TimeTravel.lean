import BrainDb.Base.RecordTime
import BrainDb.Graph.CascadeEffect
import BrainDb.Planner.Filters

namespace BrainDb
open Table RecordTime Statements Statement StatementMetadata Period

def Statement.period (s : Statement) : Period :=
  ⟨s.extractedAt, s.recordInvalidatedAt, !s.tombstoned && s.supersededBy.isNone⟩

def FilterChain.asOf (t : Nanos) : FilterChain := { default with asOfRecordTime := some t }

def StatementOp.time : StatementOp → Nanos
  | .create _ _ _ now => now
  | .supersede _ _ _ _ now => now
  | .tombstone _ _ now => now
  | .forget _ _ _ _ now _ _ => now
  | .revert _ _ now _ => now

namespace Chronicle
variable (l : Chronicle)

def periods (id : StatementId) : Option Period :=
  (l.graph.statements.rows.get id).map fun m => m.toStatement.period

def Standing (id : StatementId) : Prop :=
  ∃ m, l.graph.statements.rows.get id = some m ∧ m.tombstoned = false ∧ m.supersededBy = none

instance (l : Chronicle) (id : StatementId) : Decidable (l.Standing id) :=
  decidable_of_iff ((l.graph.statements.rows.get id).any fun m =>
    !m.tombstoned && m.supersededBy.isNone) <| by
    simp [Standing, Option.any_eq_true]

variable {id : StatementId} {m : StatementMetadata} {l : Chronicle} {mint : OverflowMint}

lemma mem_asOf {rows : FilterRows} (hrows : rows.graph = l.graph) {t : Nanos}
    {traceDetail : Bool} {items : List RankedItemId} :
    .statement id ∈ ((FilterChain.asOf t).apply rows (fun item => item) 0 traceDetail items).1 ↔
      .statement id ∈ items ∧ Believed (l.periods id) t := by
  rw [FilterChain.mem_apply, periods, ← hrows]
  refine and_congr_right fun _ => ?_
  cases hget : rows.graph.statements.rows.get id with
  | none =>
    simp [FilterChain.asOf, FilterChain.default, FilterChain.typeFilter,
      FilterChain.tombstoneFilter, FilterChain.keepsTombstone, FilterChain.keepsStatement, hget]
  | some m =>
    cases hcl : m.recordInvalidatedAt with
    | none | some v =>
      simp [FilterChain.asOf, FilterChain.default, FilterChain.typeFilter,
        FilterChain.tombstoneFilter, FilterChain.keepsTombstone, FilterChain.supersessionFilter,
        FilterChain.keepsSupersession, FilterChain.keepsAsOf, FilterChain.asOfMatches,
        FilterChain.asOfRetainsAfterDrop, FilterChain.keepsStatement, hget, hcl,
        Period.Believed, period]
      tauto

lemma standing_iff : l.Standing id ↔ Stands (l.periods id) := by
  unfold Standing periods
  cases l.graph.statements.rows.get id with
  | none => simp
  | some m => simp [period]

variable [Confidences]

/-- The statements that survive the chain as of an instant, at the end of the history, are those
that stood right after the last operation at or before it. -/
def TimeTravels (l : Chronicle) (memories : Table MemoryId MemoryRow) (ops : List StatementOp) :
    Prop :=
  ∀ t items id,
    .statement id ∈ ((FilterChain.asOf t).apply ⟨memories, (ops.foldl step l).graph⟩
      (fun item => item) 0 false items).1 ↔
    .statement id ∈ items ∧ (stateAt step StatementOp.time l ops t).Standing id

lemma timeTravels_iff {memories : Table MemoryId MemoryRow} {ops : List StatementOp} :
    l.TimeTravels memories ops ↔ Faithful step StatementOp.time periods l ops := by
  constructor
  · intro h id t
    have hid := h t [.statement id] id
    rw [mem_asOf rfl, standing_iff] at hid
    simpa using hid
  · intro h t items id
    rw [mem_asOf rfl, standing_iff]
    exact and_congr_right fun _ => h id t

def KeepsRecordTime (l : Chronicle) : StatementOp → Prop
  | .create scope session s now => (l.apply (.create scope session s now)).isOk →
    ∀ p, l.graph.creatable s = .ok p →
      match l.graph.placement scope s p with
      | .supersedes _ => { s with supersededBy := none }.period.Opens now
      | .repeats _ => True
      | .fresh => s.period.Opens now
  | .supersede scope session old s now =>
    (l.apply (.supersede scope session old s now)).isOk →
      { s with supersededBy := none }.period.Opens now
  | .tombstone id _ now => ∀ m, l.graph.statements.rows.get id = some m → m.tombstoned = false →
    m.supersededBy = none ∨ now ≤ m.extractedAt
  | .forget _ memory threshold cap now _ _ => ∀ a ∈ l.graph.statements.affected memory cap,
    a.dies threshold = true → a.row.supersededBy = none ∨ now ≤ a.row.extractedAt
  | .revert memory cap now _ => ∀ e ∈ l.undoRecords memory cap, e.2.recordKind = .statement →
    ∀ m, l.graph.statements.rows.get e.1.dependent = some m → forgotten m = true →
      if m.supersededBy.isNone then m.extractedAt = now
      else ∀ v ∈ m.recordInvalidatedAt, v ≤ m.extractedAt

variable {l l' : Chronicle} {T : Nanos}

omit [Confidences] in
lemma carries_all_iff {i : StatementId} (hstl : ∀ k, RecordTime.Settled T (l.periods k))
    (hoth : ∀ k, k ≠ i → l'.periods k = l.periods k) :
    (∀ k, Carries T (l.periods k) (l'.periods k)) ↔ Carries T (l.periods i) (l'.periods i) := by
  constructor
  · intro h
    exact h i
  · intro h k
    by_cases hk : k = i
    · exact hk ▸ h
    · rw [hoth k hk]
      exact (hstl k).carries

omit [Confidences] in
lemma periods_of_get (h : l.graph.statements.rows.get id = some m) :
    l.periods id = some m.toStatement.period := by
  rw [periods, h]
  rfl

omit [Confidences] in
lemma positive_of_row (hfst : (∀ k, l.periods k = none) ∨ 0 < T)
    (h : l.graph.statements.rows.get id = some m) : 0 < T := by
  rcases hfst with hnone | hpos
  · have := hnone id
    rw [periods_of_get h] at this
    cases this
  · exact hpos

omit [Confidences] in
lemma carries_buried (hstl : RecordTime.Settled T (some m.toStatement.period)) (hpos : 0 < T)
    (htomb : m.tombstoned = false) :
    Carries T (some m.toStatement.period) (some (m.toStatement.period.close T)) ↔
      (m.supersededBy = none ∨ T ≤ m.extractedAt) := by
  rw [carries_closed hstl hpos]
  simp [period, htomb]

section
variable (hkey : l.graph.statements.Keyed) (hstl : ∀ k, RecordTime.Settled T (l.periods k))
  (hfst : (∀ k, l.periods k = none) ∨ 0 < T) {scope : RowScope} {memory : MemoryId} {cap : Nat}

include hkey hstl hfst

lemma carries_superseded {session : SessionId} {oldId : StatementId}
    {s : Statement} {old : StatementMetadata} {confidence : UInt32} {memories : List MemoryId}
    {t' : Statements}
    (h : Superseded l.graph.statements scope session oldId s T old confidence memories t') :
    (∀ k, Carries T (l.periods k) ((l.withStatements t').periods k)) ↔
      { s with supersededBy := none }.period.Opens T := by
  have hid := hkey _ _ h.row
  have hpos := positive_of_row hfst h.row
  have hne : oldId ≠ s.id := by
    rintro rfl
    have hrow := h.row
    rw [h.unused] at hrow
    cases hrow
  have hrows : t'.rows = (l.graph.statements.rows.insert oldId (old.superseded s T)).insert s.id
      ({ old.successor oldId s with confidence }.row scope session) := by
    rw [h.tables]
    simp only [place, rows_withdraw]
    rw [← hid]
    rfl
  have hnew : (l.withStatements t').periods s.id = some { s with supersededBy := none }.period := by
    simp only [periods, withStatements, hrows, get_insert_self]
    rfl
  have hold : (l.withStatements t').periods oldId = some (old.toStatement.period.close T) := by
    simp only [periods, withStatements, hrows, get_insert_ne _ _ hne, get_insert_self]
    simp [period, close, superseded, Nat.ne_of_gt hpos]
  have hnone : l.periods s.id = none := by simp [periods, h.unused]
  have hoth : ∀ k, k ≠ oldId → k ≠ s.id → (l.withStatements t').periods k = l.periods k := by
    intro k hk hk'
    simp only [periods, withStatements, hrows, get_insert_ne _ _ hk, get_insert_ne _ _ hk']
  have hstd : old.toStatement.period.stands = true := by
    simp [period, h.allowed.tombstoned, h.allowed.supersededBy]
  constructor
  · intro hall
    have := hall s.id
    rw [hnone, hnew] at this
    exact carries_opened.mp this
  · intro hops k
    by_cases hk : k = s.id
    · rw [hk, hnone, hnew]
      exact carries_opened.mpr hops
    · by_cases hk' : k = oldId
      · have hset := hstl oldId
        rw [periods_of_get h.row] at hset
        rw [hk', hold, periods_of_get h.row]
        exact (carries_closed hset hpos).mpr (.inl hstd)
      · rw [hoth k hk' hk]
        exact (hstl k).carries

lemma carries_tombstone {reason : TombstoneReason} :
    (∀ k, Carries T (l.periods k) ((l.step (.tombstone id reason T)).periods k)) ↔
      l.KeepsRecordTime (.tombstone id reason T) := by
  have hkeep : ∀ k, Carries T (l.periods k) (l.periods k) := fun k => (hstl k).carries
  cases hrow : l.graph.statements.rows.get id with
  | none =>
    have happ : l.apply (.tombstone id reason T) = .error (.notFound id) := by
      simp only [apply, statementTombstone, hrow]
      rfl
    rw [step_eq_of_error happ]
    refine iff_of_true hkeep fun m hm => ?_
    rw [hrow] at hm
    cases hm
  | some m =>
    have hcond : l.KeepsRecordTime (.tombstone id reason T) ↔
        (m.tombstoned = false → m.supersededBy = none ∨ T ≤ m.extractedAt) := by
      simp only [KeepsRecordTime, hrow, Option.some.injEq, forall_eq']
    rw [hcond]
    cases htomb : m.tombstoned with
    | true =>
      have happ : l.apply (.tombstone id reason T) = .ok l := by
        simp only [apply, statementTombstone, hrow, htomb, if_true]
        rfl
      rw [step_eq_of_ok happ]
      exact iff_of_true hkeep (fun h => by cases h)
    | false =>
      have happ : l.apply (.tombstone id reason T) =
          .ok (l.withStatements (l.graph.statements.bury m reason T)) := by
        simp only [apply, statementTombstone, hrow, htomb]
        rfl
      have hid := hkey id m hrow
      have hself : (l.withStatements (l.graph.statements.bury m reason T)).periods id =
          some (m.toStatement.period.close T) := by
        simp only [periods, withStatements, rows_bury, hid, get_insert_self]
        simp [period, close, buried]
      have hset := hstl id
      rw [periods_of_get hrow] at hset
      rw [step_eq_of_ok happ, carries_all_iff (i := id) hstl, hself, periods_of_get hrow,
        carries_buried hset (positive_of_row hfst hrow) htomb]
      · exact ⟨fun h _ => h, fun h => h rfl⟩
      · intro k hk
        simp only [periods, withStatements, rows_bury, hid, get_insert_ne _ _ hk]

lemma carries_forget {threshold : UInt32} {undo : Option Nanos} : (∀ k, Carries T (l.periods k)
      ((l.step (.forget scope memory threshold cap T undo mint)).periods k)) ↔
      l.KeepsRecordTime (.forget scope memory threshold cap T undo mint) := by
  obtain ⟨l', happ, hsame⟩ := apply_forget hkey scope memory threshold cap T undo mint
  have hoth : ∀ k, (∀ a ∈ l.graph.statements.affected memory cap, a.row.id ≠ k) →
      l'.periods k = l.periods k := by
    intro k hk
    simp only [periods, hsame.statements]
    rw [rows_get_cascaded_other hkey hk]
  have hself : ∀ a ∈ l.graph.statements.affected memory cap, l'.periods a.row.id =
      if a.dies threshold then some (a.row.toStatement.period.close T)
      else some a.row.toStatement.period := by
    intro a ha
    simp only [periods, hsame.statements]
    rw [rows_get_cascaded_self hkey ha]
    unfold afterwards
    split
    · simp [period, close, buried, AffectedStatement.shrunk]
    · rfl
  have hiff : ∀ a ∈ l.graph.statements.affected memory cap,
      (Carries T (l.periods a.row.id) (l'.periods a.row.id) ↔
        (a.dies threshold = true → a.row.supersededBy = none ∨ T ≤ a.row.extractedAt)) := by
    intro a ha
    obtain ⟨hrow, htomb⟩ := affected_row hkey ha
    have hset := hstl a.row.id
    rw [periods_of_get hrow] at hset
    rw [hself a ha, periods_of_get hrow]
    split
    next hdies =>
      rw [carries_buried hset (positive_of_row hfst hrow) htomb]
      exact ⟨fun h _ => h, fun h => h hdies⟩
    next hdies => exact iff_of_true hset.carries fun h => absurd h hdies
  rw [step_eq_of_ok happ]
  constructor
  · intro h a ha
    exact (hiff a ha).mp (h a.row.id)
  · intro h k
    by_cases hk : ∃ a ∈ l.graph.statements.affected memory cap, a.row.id = k
    · obtain ⟨a, ha, rfl⟩ := hk
      exact (hiff a ha).mpr (h a ha)
    · push Not at hk
      rw [hoth k hk]
      exact (hstl k).carries

omit [Confidences] hkey hstl hfst in
lemma period_revertedRow {r : ForgetUndoRecord} (confidence : UInt32) (evidence : EvidenceRef) :
    (revertedRow m r confidence evidence).toStatement.period =
      if forgotten m then m.toStatement.period.reopen m.supersededBy.isNone
      else m.toStatement.period := by
  unfold revertedRow
  split
  · simp [period, reopen]
  · rfl

omit hfst in
lemma carries_revert :
    (∀ k, Carries T (l.periods k) ((l.step (.revert memory cap T mint)).periods k)) ↔
      l.KeepsRecordTime (.revert memory cap T mint) := by
  have happ : l.apply (.revert memory cap T mint) = .ok (l.cascadeRevertForget memory T cap mint) :=
    rfl
  have hiff : ∀ e ∈ l.undoRecords memory cap, e.2.recordKind = .statement →
      ∀ m, l.graph.statements.rows.get e.1.dependent = some m →
      (Carries T (l.periods e.1.dependent)
        ((l.cascadeRevertForget memory T cap mint).periods e.1.dependent) ↔
        (forgotten m = true → if m.supersededBy.isNone then m.extractedAt = T
          else ∀ v ∈ m.recordInvalidatedAt, v ≤ m.extractedAt)) := by
    intro e he hkind m hm
    obtain ⟨_, _, hget⟩ := rows_cascadeRevertForget_self T mint hkey he hkind hm
    have hset := hstl e.1.dependent
    rw [periods_of_get hm] at hset
    rw [periods_of_get hm, periods_of_get hget, period_revertedRow]
    split
    next hforg =>
      have hfallen : m.toStatement.period.stands = false := by
        have htomb : m.tombstoned = true := (Bool.and_eq_true_iff.mp hforg).1
        simp [period, htomb]
      rw [carries_reopened hset hfallen]
      exact ⟨fun h _ => h, fun h => h hforg⟩
    next hforg => exact iff_of_true hset.carries fun h => absurd h hforg
  rw [step_eq_of_ok happ]
  constructor
  · intro h e he hkind m hm
    exact (hiff e he hkind m hm).mp (h e.1.dependent)
  · intro h k
    by_cases hk : ∃ e ∈ l.undoRecords memory cap, e.2.recordKind = .statement ∧
        e.1.dependent = k ∧ ∃ m, l.graph.statements.rows.get k = some m
    · obtain ⟨e, he, hkind, rfl, m, hm⟩ := hk
      exact (hiff e he hkind m hm).mpr (h e he hkind m hm)
    · push Not at hk
      have hsame := rows_cascadeRevertForget_other T mint hkey fun e he hkind hdep =>
        Option.eq_none_iff_forall_ne_some.mpr (hk e he hkind hdep)
      have hperiods : (l.cascadeRevertForget memory T cap mint).periods k = l.periods k := by
        simp only [periods, hsame]
      rw [hperiods]
      exact (hstl k).carries
end

lemma carries_step (hkey : l.graph.statements.Keyed) (op : StatementOp)
    (hstl : ∀ k, RecordTime.Settled op.time (l.periods k))
    (hfst : (∀ k, l.periods k = none) ∨ 0 < op.time) :
    (∀ k, Carries op.time (l.periods k) ((l.step op).periods k)) ↔ l.KeepsRecordTime op := by
  have hkeep : ∀ k, Carries op.time (l.periods k) (l.periods k) := fun k => (hstl k).carries
  cases op with
  | create scope session s now =>
    refine step_create_iff (P := fun l' => ∀ k, Carries now (l.periods k) (l'.periods k)) hkeep
      fun hp hmade => ?_
    cases hmade with
    | superseding hplace hsup =>
      rw [hplace]
      exact carries_superseded hkey hstl hfst hsup
    | repeated hplace =>
      rw [hplace]
      exact iff_of_true hkeep trivial
    | @placed confidence memories hplace =>
      have hunused := Graph.creatable_unused hp
      have hnone : l.periods s.id = none := by simp [periods, hunused]
      have hself : (l.withStatements (l.graph.statements.place
          ({ s with confidence }.row scope session) memories)).periods s.id =
          some s.period := by
        exact congrArg _ (l.graph.statements.rows.get_insert_self s.id _)
      change ∀ k, RecordTime.Settled now (l.periods k) at hstl
      rw [hplace, carries_all_iff (i := s.id) hstl, hnone, hself]
      · exact carries_opened
      · intro k hk
        exact congrArg _ (l.graph.statements.rows.get_insert_ne _ hk)
  | supersede scope session old s now =>
    exact step_supersede_iff (P := fun l' => ∀ k, Carries now (l.periods k) (l'.periods k)) hkeep
      (carries_superseded hkey hstl hfst)
  | tombstone id reason now => exact carries_tombstone hkey hstl hfst
  | forget scope memory threshold cap now undo mint => exact carries_forget hkey hstl hfst
  | revert memory cap now mint => exact carries_revert hkey hstl

/-- Over a history in which time goes on, every instant of the past can be asked for at every point
exactly if all of its writes carry the past along. -/
theorem timeTravels_always_iff (h : l.Blank) {ops : List StatementOp}
    (htimes : ops.Pairwise fun a b => a.time < b.time) (memories : Table MemoryId MemoryRow) :
    (∀ past, past <+: ops → l.TimeTravels memories past) ↔
      Run.EachStep step KeepsRecordTime l ops := by
  have hnone : ∀ k, l.periods k = none := by
    intro k
    rw [periods, h.statements]
    rfl
  simp only [timeTravels_iff]
  exact faithful_iff (I := fun l => l.graph.statements.Keyed) hnone h.keyed htimes
    (fun l op hl => keyed_step hl op)
    (fun l op _ hl hstl hfst => carries_step hl op hstl hfst)

omit [Confidences] in
theorem residence_timeTravels :
    @TimeTravels flatConfidence household .empty [moves 1 7 10, moves 2 8 20, forgets 8 30] := by
  let _ := flatConfidence
  have htimes : [moves 1 7 10, moves 2 8 20, forgets 8 30].Pairwise fun a b => a.time < b.time := by
    decide
  refine (timeTravels_always_iff household_blank htimes .empty).mpr ⟨?_, ?_, ?_, trivial⟩ _
    List.prefix_rfl
  · intro _ p hp
    cases hp
    exact ⟨rfl, rfl⟩
  · intro _ p hp
    cases hp
    exact ⟨rfl, rfl⟩
  · have hstand : ∀ a ∈ ((household.step (moves 1 7 10)).step
        (moves 2 8 20)).graph.statements.affected 8 256, a.row.supersededBy = none := by
      decide +kernel
    intro a ha _
    exact .inl (hstand a ha)

omit [Confidences] in
/-- The person moves on, and where they lived before is tombstoned later: as of an instant in
between they are said to have lived there still. -/
theorem tombstoned_later : ¬ @TimeTravels flatConfidence household .empty
      [moves 1 7 10, moves 2 8 20, .tombstone 1 .userRequest 30] := by
  intro h
  have h25 := h 25 [.statement 1] 1
  have hsurvives : RankedItemId.statement 1 ∈ ((FilterChain.asOf 25).apply
      ⟨.empty, ([moves 1 7 10, moves 2 8 20, .tombstone 1 .userRequest 30].foldl
        (@step flatConfidence) household).graph⟩ (fun item => item) 0 false [.statement 1]).1 := by
    decide +kernel
  have hnot : ¬ (stateAt (@step flatConfidence) StatementOp.time household
      [moves 1 7 10, moves 2 8 20, .tombstone 1 .userRequest 30] 25).Standing 1 := by
    decide +kernel
  exact hnot (h25.mp hsurvives).2

end Chronicle
end BrainDb
