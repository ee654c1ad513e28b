import BrainDb.Graph.Statement

namespace BrainDb

structure SweepSummary where
  (scanned deleted dryRunWouldDelete skipped : Nat)

def SweepSummary.default : SweepSummary := ⟨0, 0, 0, 0⟩

def StatementMetadata.isReclaimable (m : StatementMetadata) (cutoff : Nanos) : Bool :=
  m.tombstoned &&
    (m.tombstoneReason = some .retract || m.tombstoneReason = some .retentionExpired) &&
    m.tombstonedAt.any (· ≤ cutoff)

namespace Statements

def collectReclaimable (cutoff cap : Nat) :
    List (StatementId × StatementMetadata) → List StatementId → Nat × List StatementId
  | [], out => (0, out)
  | e :: entries, out =>
    if e.2.isReclaimable cutoff then
      if out.length + 1 = cap then (1, out ++ [e.2.id])
      else
        let rest := collectReclaimable cutoff cap entries (out ++ [e.2.id])
        (rest.1 + 1, rest.2)
    else
      let rest := collectReclaimable cutoff cap entries out
      (rest.1 + 1, rest.2)

variable [Confidences] (t : Statements)

def reclaimOne (m : StatementMetadata) : Statements :=
  let memories := ((t.evidenceEntries m.evidence).getD []).map (·.memoryId)
  { rows := t.rows.remove m.id
    bySubject := if m.subject.isPending then t.bySubject
      else (t.bySubject.remove (m.subjectKeyAs false)).remove (m.subjectKeyAs true)
    bySubjectId := if m.subject.isPending then t.bySubjectId
      else t.bySubjectId.remove ⟨m.scope, m.subject.bytes, m.id⟩
    byPredicate := t.byPredicate.remove m.predicateKey
    byPredicateId := t.byPredicateId.remove ⟨m.scope, m.predicate, m.id⟩
    byObjectEntity := m.objectKey.elim t.byObjectEntity t.byObjectEntity.remove
    byEventTime := m.eventKey.elim t.byEventTime t.byEventTime.remove
    byEvidence := memories.foldl (fun e mem => e.remove ⟨m.scope, mem, m.id⟩) t.byEvidence
    chain := if m.supersededBy.isSome then t.chain else t.chain.remove m.chainKey
    overflow := match m.evidence with
      | .inline _ => t.overflow
      | .overflow id => t.overflow.remove id
    embedQueue := t.embedQueue }

def reclaimIfStill (cutoff : Nanos) (acc : Statements × SweepSummary)
    (id : StatementId) : Statements × SweepSummary :=
  match acc.1.rows.get id with
  | none => (acc.1, { acc.2 with skipped := acc.2.skipped + 1 })
  | some m =>
    if m.isReclaimable cutoff then
      (acc.1.reclaimOne m, { acc.2 with deleted := acc.2.deleted + 1 })
    else (acc.1, { acc.2 with skipped := acc.2.skipped + 1 })

def reclaimRetractedStatements (grace : Nat) (now : Nanos) (cap : Nat) (dryRun : Bool) :
    Statements × SweepSummary :=
  if grace = 0 then (t, .default)
  else
    let cutoff := now - grace
    let (scanned, victims) := collectReclaimable cutoff cap t.rows.entries []
    if dryRun then (t, { SweepSummary.default with scanned, dryRunWouldDelete := victims.length })
    else victims.foldl (reclaimIfStill cutoff) (t, { SweepSummary.default with scanned })

end Statements
end BrainDb
