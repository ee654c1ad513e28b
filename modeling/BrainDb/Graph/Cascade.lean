import BrainDb.Graph.Relation
import BrainDb.Graph.Statement

namespace BrainDb

structure UndoKey where
  memory : MemoryId
  dependent : Nat

instance : LinearOrder UndoKey :=
  LinearOrder.lift' (fun k => toLex (k.memory, k.dependent)) fun ⟨_, _⟩ ⟨_, _⟩ h => by simpa using h

inductive UndoRecordKind where
  | statement
  | relation
  deriving DecidableEq

inductive UndoOutcome where
  | evidenceDropped
  | keptStale
  | tombstoned
  deriving DecidableEq

structure ForgetUndoRecord where
  recordKind : UndoRecordKind
  dropped : EvidenceEntry
  priorConfidence : UInt32
  priorIsCurrent : Bool
  priorTombstoneReason : Option TombstoneReason
  priorOverflow : Option EvidenceOverflowId
  outcome : UndoOutcome
  graceExpiry : Nanos

abbrev UndoLog := Table UndoKey ForgetUndoRecord

abbrev OverflowMint := StatementId → EvidenceOverflowId

def EvidenceRef.overflowId : EvidenceRef → Option EvidenceOverflowId
  | inline _ => none
  | overflow id => some id

def EvidenceRef.of (entries : List EvidenceEntry) (id : EvidenceOverflowId) : EvidenceRef :=
  if entries.length ≤ inlineEvidenceCap then inline entries else overflow id

structure AffectedStatement where
  row : StatementMetadata
  remaining : List EvidenceEntry
  priorOverflow : Option EvidenceOverflowId
  dropped : Option EvidenceEntry

def f32Positive (bits : UInt32) : Bool := 0 < bits && bits ≤ 0x7F800000

def batch {A : Type} (cap : Nat) (l : List A) : List A := l.take (max cap 1)

variable (t : Statements)

def Statements.affectedBy (memory : MemoryId) (row : StatementMetadata) :
    Option AffectedStatement :=
  if row.tombstoned then none
  else match t.evidenceEntries row.evidence with
  | none => none
  | some entries =>
    if entries.any fun e => e.memoryId = memory then
      some
        { row, remaining := entries.filter fun e => e.memoryId ≠ memory
          priorOverflow := row.evidence.overflowId
          dropped := entries.find? fun e => e.memoryId = memory }
    else none

def Statements.affected (memory : MemoryId) (cap : Nat) : List AffectedStatement :=
  batch cap (t.rows.entries.filterMap fun e => t.affectedBy memory e.2)

namespace AffectedStatement
variable [Confidences] (a : AffectedStatement)

def newConfidence (now : Nanos) : UInt32 :=
  if a.remaining = [] then 0 else Confidences.aggregate a.remaining now a.row.kind

def overflowId (mint : OverflowMint) : EvidenceOverflowId :=
  a.priorOverflow.getD (mint a.row.id)

def shrunk (now : Nanos) (mint : OverflowMint) : StatementMetadata :=
  { a.row with
    confidence := a.newConfidence now
    evidence := .of a.remaining (a.overflowId mint) }

variable (threshold : UInt32)

def outcome : UndoOutcome :=
  if a.remaining = [] then if f32Positive threshold then .tombstoned else .keptStale
  else .evidenceDropped

def journal (log : UndoLog) (memory : MemoryId) (threshold : UInt32) (undo : Option Nanos) :
    UndoLog :=
  match undo, a.dropped with
  | some graceExpiry, some dropped =>
    log.insert ⟨memory, a.row.id⟩
      { recordKind := .statement, dropped, priorConfidence := a.row.confidence
        priorIsCurrent := a.row.isCurrent, priorTombstoneReason := a.row.tombstoneReason
        priorOverflow := a.priorOverflow, outcome := a.outcome threshold, graceExpiry }
  | _, _ => log

def orphaned : Option EvidenceOverflowId :=
  if a.remaining.length ≤ inlineEvidenceCap then a.priorOverflow else none

def dies : Bool :=
  a.remaining = [] && f32Positive threshold

end AffectedStatement

namespace Statements
variable [Confidences]

def shrink (memory : MemoryId) (now : Nanos) (mint : OverflowMint)
    (a : AffectedStatement) : Statements :=
  { t with
    rows := t.rows.insert a.row.id (a.shrunk now mint)
    byEvidence := t.byEvidence.remove ⟨a.row.scope, memory, a.row.id⟩
    overflow := if inlineEvidenceCap < a.remaining.length then
      t.overflow.insert (a.overflowId mint) a.remaining else t.overflow }

def shrinkAll (memory : MemoryId) (now : Nanos) (mint : OverflowMint)
    (l : List AffectedStatement) : Statements :=
  let shrunk := l.foldl (fun t a => t.shrink memory now mint a) t
  let rekeyed := l.foldl (fun t a =>
    t.rekeyPredicateIndex a.row a.row.confidence (a.newConfidence now)) shrunk
  { rekeyed with overflow := (l.filterMap (·.orphaned)).foldl (·.remove ·) rekeyed.overflow }

def buryAll (now : Nanos) (ids : List StatementId) : Except StatementOpError Statements :=
  ids.foldlM (fun t id => t.statementTombstone id .sourceMemoryForgotten now) t

end Statements

structure Chronicle where
  graph : Graph
  undoLog : UndoLog

variable (l : Chronicle)

namespace Chronicle

def cascadeForgetToStatements [Confidences] (memory : MemoryId) (threshold : UInt32) (cap : Nat)
    (now : Nanos) (undo : Option Nanos) (mint : OverflowMint) :
    Except StatementOpError Chronicle := do
  let affected := l.graph.statements.affected memory cap
  let dying := (affected.filter (·.dies threshold)).map (·.row.id)
  let statements ← (l.graph.statements.shrinkAll memory now mint affected).buryAll now dying
  .ok
    { graph := { l.graph with statements }
      undoLog := affected.foldl (fun log a => a.journal log memory threshold undo) l.undoLog }

def isTyped : EdgeKindRef → Bool
  | .typed _ => true
  | _ => false

def substrateKeys (t : Edges) (memory : MemoryId) : List EdgeKey :=
  let plain (k : EdgeKey) : Bool := k.source = .memory memory && !isTyped k.kind
  let outgoing := (t.forward.scan plain).map Prod.fst
  let incoming := (t.reverse.scan plain).map fun e => e.1.flip
  outgoing ++ incoming.filter fun k => k ∉ outgoing

def forgottenBy (m : RelationMetadata) (memory : MemoryId) : Option UndoOutcome :=
  let left := m.evidence.filter fun e => e ≠ memory
  if left = [] ∧ !m.tombstoned then some .tombstoned
  else if left.length < m.evidence.length then some .evidenceDropped
  else none

def journalRelation (log : UndoLog) (memory : MemoryId) (id : RelationId) (m : RelationMetadata)
    (outcome : UndoOutcome) (undo : Option Nanos) : UndoLog :=
  match undo with
  | none => log
  | some graceExpiry =>
    log.insert ⟨memory, id⟩
      { recordKind := .relation
        dropped := { memoryId := memory, confidenceMilli := 0, timestamp := 0, extractorId := 0 }
        priorConfidence := m.confidence, priorIsCurrent := m.isCurrent
        priorTombstoneReason := none, priorOverflow := none, outcome, graceExpiry }

variable (scope : RowScope)

def forgetRelation (memory : MemoryId) (now : Nanos) (undo : Option Nanos) (id : RelationId) :
    Chronicle :=
  let byEvidence := l.graph.relations.byEvidence.remove ⟨scope, memory, id⟩
  let graph := { l.graph with relations := { l.graph.relations with byEvidence } }
  match graph.relations.rows.get id with
  | none => { l with graph }
  | some m =>
    match forgottenBy m memory with
    | none => { l with graph }
    | some .tombstoned =>
      { graph := graph.setRelationRow id (Graph.tombstonedRow m now)
        undoLog := journalRelation l.undoLog memory id m .tombstoned undo }
    | some outcome =>
      { graph := graph.setRelationRow id
          { m with evidence := m.evidence.filter fun e => e ≠ memory }
        undoLog := journalRelation l.undoLog memory id m outcome undo }

def cascadeForgetToEdges (memory : MemoryId) (now : Nanos) (undo : Option Nanos) :
    Chronicle :=
  let edges := (substrateKeys l.graph.edges memory).foldl (fun t k => (t.unlink k).1) l.graph.edges
  let cited := (l.graph.relations.byEvidence.scan fun k => k.scope = scope ∧ k.memory = memory).map
    fun e => e.1.row
  cited.foldl (fun l id => l.forgetRelation scope memory now undo id)
    { l with graph := { l.graph with edges } }

def restoredEvidence (row : StatementMetadata) (r : ForgetUndoRecord) : List EvidenceEntry :=
  let entries := (t.evidenceEntries row.evidence).getD []
  if entries.any fun e => e.memoryId = r.dropped.memoryId then entries else entries ++ [r.dropped]

variable (row : StatementMetadata)

def forgotten : Bool :=
  row.tombstoned && row.tombstoneReason = some .sourceMemoryForgotten

variable (r : ForgetUndoRecord)

def revertedRow (confidence : UInt32) (evidence : EvidenceRef) : StatementMetadata :=
  if forgotten row then
    { row with
      confidence, evidence, tombstoned := false, tombstonedAt := none, tombstoneReason := none
      recordInvalidatedAt := none, isCurrent := r.priorIsCurrent }
  else { row with confidence, evidence }

section
variable [Confidences]

def restoredConfidence (row : StatementMetadata) (r : ForgetUndoRecord) (now : Nanos) :
    UInt32 :=
  Confidences.aggregate (restoredEvidence t row r) now row.kind

def revertOverflowId (mint : OverflowMint) : EvidenceOverflowId :=
  (row.evidence.overflowId.or r.priorOverflow).getD (mint row.id)

def restoreRow (row : StatementMetadata) (r : ForgetUndoRecord) (now : Nanos)
    (mint : OverflowMint) : Statements :=
  let entries := restoredEvidence t row r
  let id := revertOverflowId row r mint
  { t with
    rows := t.rows.insert row.id
      (revertedRow row r (restoredConfidence t row r now) (.of entries id))
    byEvidence := t.byEvidence.insert ⟨row.scope, r.dropped.memoryId, row.id⟩ ()
    overflow := if inlineEvidenceCap < entries.length then t.overflow.insert id entries
      else row.evidence.overflowId.elim t.overflow t.overflow.remove }

def reactivate (row : StatementMetadata) (r : ForgetUndoRecord) (now : Nanos) :
    Statements :=
  let t := if r.priorIsCurrent then t.flipBySubjectToCurrent row else t
  { t.addToPredicateIndex row with embedQueue := t.embedQueue.insert row.id now }

def revertStatement (id : StatementId) (r : ForgetUndoRecord) (now : Nanos)
    (mint : OverflowMint) : Statements :=
  match t.rows.get id with
  | none => t
  | some row =>
    let confidence := restoredConfidence t row r now
    let restored := restoreRow t row r now mint
    if forgotten row then reactivate restored { row with confidence } r now
    else if row.tombstoned then restored
    else restored.rekeyPredicateIndex row row.confidence confidence
end

def revertRelation (g : Graph) (memory : MemoryId) (id : RelationId) (r : ForgetUndoRecord) :
    Graph :=
  match g.relations.rows.get id with
  | none => g
  | some m =>
    let evidence := if memory ∈ m.evidence then m.evidence else m.evidence ++ [memory]
    let revived := r.outcome = .tombstoned ∧ m.tombstoned ∧ m.supersededBy = none
    let row := if revived then
        { m with evidence, tombstoned := false, tombstonedAt := none, isCurrent := r.priorIsCurrent }
      else { m with evidence }
    { g with
      relations :=
        { rows := g.relations.rows.insert id row
          byEvidence := g.relations.byEvidence.insert ⟨m.scope, memory, id⟩ () } }

variable [Confidences]

def revertRecord (now : Nanos) (mint : OverflowMint) (l : Chronicle)
    (e : UndoKey × ForgetUndoRecord) : Chronicle :=
  { graph := match e.2.recordKind with
      | .statement => { l.graph with
          statements := revertStatement l.graph.statements e.1.dependent e.2 now mint }
      | .relation => revertRelation l.graph e.1.memory e.1.dependent e.2
    undoLog := l.undoLog.remove e.1 }

def undoRecords (memory : MemoryId) (cap : Nat) : List (UndoKey × ForgetUndoRecord) :=
  batch cap (l.undoLog.scan fun k => k.memory = memory)

def cascadeRevertForget (memory : MemoryId) (now : Nanos) (cap : Nat)
    (mint : OverflowMint) : Chronicle :=
  (l.undoRecords memory cap).foldl (revertRecord now mint) l

end Chronicle

inductive StatementOp where
  | create (scope : RowScope) (session : SessionId) (s : Statement) (now : Nanos)
  | supersede (scope : RowScope) (session : SessionId) (old : StatementId) (s : Statement)
      (now : Nanos)
  | tombstone (id : StatementId) (reason : TombstoneReason) (now : Nanos)
  | forget (scope : RowScope) (memory : MemoryId) (threshold : UInt32) (cap : Nat)
      (now : Nanos) (undo : Option Nanos) (mint : OverflowMint)
  | revert (memory : MemoryId) (cap : Nat) (now : Nanos)
      (mint : OverflowMint)

namespace Chronicle
variable [Confidences]

def apply : StatementOp → Except StatementOpError Chronicle
  | .create scope session s now => do
    let created ← l.graph.statementCreate scope session s now
    .ok { l with graph := created.2 }
  | .supersede scope session old s now => do
    let statements ← l.graph.statements.statementSupersede scope session old s now
    .ok { l with graph := { l.graph with statements } }
  | .tombstone id reason now => do
    let statements ← l.graph.statements.statementTombstone id reason now
    .ok { l with graph := { l.graph with statements } }
  | .forget scope memory threshold cap now undo mint => do
    let l ← l.cascadeForgetToStatements memory threshold cap now undo mint
    .ok (l.cascadeForgetToEdges scope memory now undo)
  | .revert memory cap now mint => .ok (l.cascadeRevertForget memory now cap mint)

def step (l : Chronicle) (op : StatementOp) : Chronicle :=
  match l.apply op with
  | .ok l' => l'
  | .error _ => l

structure Blank (l : Chronicle) : Prop where
  statements : l.graph.statements = .empty
  undoLog : l.undoLog = .empty

end Chronicle
end BrainDb
