import BrainDb.Graph.Statement

namespace BrainDb

inductive RankedItemId where
  | memory (id : MemoryId)
  | statement (id : StatementId)
  | entity (id : EntityId)
  | relation (id : RelationId)
  deriving DecidableEq

structure TimeRange where
  (fromUnixMs toUnixMs : Option Nat)

structure FilterChain where
  kindFilter : List StatementKind
  memoryKindFilter : List MemoryKind
  predicateFilter : List PredicateId
  timeFilter : Option TimeRange
  confidenceMin : Option UInt32
  (includeTombstoned includeSuperseded : Bool)
  asOfRecordTime : Option Nanos

def FilterChain.default : FilterChain :=
  { kindFilter := [], memoryKindFilter := [], predicateFilter := [], timeFilter := none
    confidenceMin := none, includeTombstoned := false, includeSuperseded := false
    asOfRecordTime := none }

structure FilterChainStats where
  (before afterType afterTemporal afterConfidence afterTombstone afterSupersession afterAsOf : Nat)
  afterLimit : Nat
  (droppedByType droppedByTemporal droppedByConfidence droppedByTombstone : List RankedItemId)
  (droppedBySupersession droppedByAsOf droppedByLimit : List RankedItemId)

structure FilterRows where
  memories : Table MemoryId MemoryRow
  graph : Graph

def f32Rank (bits : UInt32) : Option Int :=
  if 0x7F800000 < bits.toNat % 2 ^ 31 then none
  else if bits < 0x80000000 then some bits.toNat
  else some (-(bits.toNat % 2 ^ 31 : Nat))

def f32Ge (a b : UInt32) : Bool :=
  match f32Rank a, f32Rank b with
  | some a, some b => b ≤ a
  | _, _ => false

def toMillis (nanos : Nanos) : Nat := nanos / 1000000

def inRange (range : TimeRange) (ms : Nat) : Bool :=
  range.fromUnixMs.all (· ≤ ms) && range.toUnixMs.all (ms ≤ ·)

def windowOverlaps (validFrom validTo : Option Nat) (range : TimeRange) : Bool :=
  validFrom.getD 0 ≤ range.toUnixMs.getD u64Max && range.fromUnixMs.getD 0 ≤ validTo.getD u64Max

variable (s : Statement)

def statementTemporalMatch (range : TimeRange) : Bool :=
  if s.kind = .event then inRange range (toMillis (s.eventAt.getD s.extractedAt))
  else windowOverlaps (some (toMillis (s.validFrom.getD s.extractedAt))) (s.validTo.map toMillis)
    range

namespace FilterChain
variable (chain : FilterChain) (rows : FilterRows)

def keepsStatement (keep : StatementMetadata → Bool) (id : StatementId) : Bool :=
  (rows.graph.statements.rows.get id).any keep

def keepsType : RankedItemId → Bool
  | .memory id => chain.memoryKindFilter.isEmpty ||
    (rows.memories.get id).any fun m => m.kind ∈ chain.memoryKindFilter
  | .statement id => keepsStatement rows (fun s =>
    (chain.kindFilter.isEmpty || s.kind ∈ chain.kindFilter) &&
      (chain.predicateFilter.isEmpty || s.predicate ∈ chain.predicateFilter)) id
  | .entity _ | .relation _ => true

def keepsTemporal (range : TimeRange) : RankedItemId → Bool
  | .memory id => (rows.memories.get id).any fun m => inRange range (toMillis m.createdAt)
  | .statement id => keepsStatement rows (fun s => statementTemporalMatch s.toStatement range) id
  | .relation id => (rows.graph.relations.rows.get id).any fun r =>
    windowOverlaps (r.validFrom.map toMillis) (r.validTo.map toMillis) range
  | .entity _ => true

def keepsConfidence (min : UInt32) : RankedItemId → Bool
  | .memory id => (rows.memories.get id).any fun m => f32Ge m.salience min
  | .statement id => keepsStatement rows (fun s => f32Ge s.confidence min) id
  | .relation id => (rows.graph.relations.rows.get id).any fun r => f32Ge r.confidence min
  | .entity _ => true

def asOfRetainsAfterDrop (invalidatedAt : Option Nanos) : Bool :=
  match chain.asOfRecordTime, invalidatedAt with
  | some t, some invalidated => t < invalidated
  | _, _ => false

def keepsTombstone : RankedItemId → Bool
  | .memory id => (rows.memories.get id).any (·.flags.active)
  | .statement id => keepsStatement rows
    (fun s => !s.tombstoned || chain.asOfRetainsAfterDrop s.recordInvalidatedAt) id
  | .relation id => (rows.graph.relations.rows.get id).any (!·.tombstoned)
  | .entity _ => true

def keepsSupersession : RankedItemId → Bool
  | .statement id => keepsStatement rows
    (fun s => s.supersededBy.isNone || chain.asOfRetainsAfterDrop s.recordInvalidatedAt) id
  | .relation id => (rows.graph.relations.rows.get id).any (·.supersededBy.isNone)
  | .memory _ | .entity _ => true

def asOfMatches (t : Nanos) : Bool :=
  s.extractedAt ≤ t && s.recordInvalidatedAt.all (t < ·)

def keepsAsOf (t : Nanos) : RankedItemId → Bool
  | .statement id => keepsStatement rows (fun s => asOfMatches s.toStatement t) id
  | .memory _ | .entity _ | .relation _ => true

def filterStep {A : Type} (idOf : A → RankedItemId) (traceDetail : Bool)
    (keep : Option (RankedItemId → Bool)) (items : List A) : List A × List RankedItemId :=
  match keep with
  | none => (items, [])
  | some keep =>
    (items.filter fun a => keep (idOf a),
      if traceDetail then (items.filter fun a => !keep (idOf a)).map idOf else [])

def typeFilter : Option (RankedItemId → Bool) :=
  if chain.kindFilter.isEmpty && chain.memoryKindFilter.isEmpty && chain.predicateFilter.isEmpty then
    none
  else some (chain.keepsType rows)

def tombstoneFilter : Option (RankedItemId → Bool) :=
  if chain.includeTombstoned then none else some (chain.keepsTombstone rows)

def supersessionFilter : Option (RankedItemId → Bool) :=
  if chain.includeSuperseded then none else some (chain.keepsSupersession rows)

def apply {A : Type} (idOf : A → RankedItemId) (limit : Nat) (traceDetail : Bool)
    (items : List A) : List A × FilterChainStats :=
  let type := filterStep idOf traceDetail (chain.typeFilter rows) items
  let temporal := filterStep idOf traceDetail (chain.timeFilter.map (keepsTemporal rows)) type.1
  let confidence := filterStep idOf traceDetail (chain.confidenceMin.map (keepsConfidence rows))
    temporal.1
  let tombstone := filterStep idOf traceDetail (chain.tombstoneFilter rows) confidence.1
  let supersession := filterStep idOf traceDetail (chain.supersessionFilter rows) tombstone.1
  let asOf := filterStep idOf traceDetail (chain.asOfRecordTime.map (keepsAsOf rows)) supersession.1
  let limited := 0 < limit && limit < asOf.1.length
  let survivors := if limited then asOf.1.take limit else asOf.1
  (survivors,
    { before := items.length, afterType := type.1.length, afterTemporal := temporal.1.length
      afterConfidence := confidence.1.length, afterTombstone := tombstone.1.length
      afterSupersession := supersession.1.length, afterAsOf := asOf.1.length
      afterLimit := survivors.length
      droppedByType := type.2, droppedByTemporal := temporal.2
      droppedByConfidence := confidence.2, droppedByTombstone := tombstone.2
      droppedBySupersession := supersession.2, droppedByAsOf := asOf.2
      droppedByLimit := if limited && traceDetail then (asOf.1.drop limit).map idOf else [] })

variable {chain rows} {A : Type} {idOf : A → RankedItemId} {traceDetail : Bool}

lemma mem_filterStep {keep : Option (RankedItemId → Bool)} {items : List A} {a : A} :
    a ∈ (filterStep idOf traceDetail keep items).1 ↔ a ∈ items ∧ keep.all (· (idOf a)) = true := by
  cases keep with
  | none => simp [filterStep]
  | some keep => simp [filterStep]

lemma mem_apply {items : List A} {a : A} :
    a ∈ (chain.apply rows idOf 0 traceDetail items).1 ↔ a ∈ items ∧
      (chain.typeFilter rows).all (· (idOf a)) = true ∧
      (chain.timeFilter.map (keepsTemporal rows)).all (· (idOf a)) = true ∧
      (chain.confidenceMin.map (keepsConfidence rows)).all (· (idOf a)) = true ∧
      (chain.tombstoneFilter rows).all (· (idOf a)) = true ∧
      (chain.supersessionFilter rows).all (· (idOf a)) = true ∧
      (chain.asOfRecordTime.map (keepsAsOf rows)).all (· (idOf a)) = true := by
  simp only [apply, lt_irrefl, decide_false, Bool.false_and, Bool.false_eq_true, if_false,
    mem_filterStep, and_assoc]

end FilterChain
end BrainDb
