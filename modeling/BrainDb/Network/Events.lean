import BrainDb.Store.Substrate

namespace BrainDb

inductive GraphEventKind where
  | entityCreated
  | entityUpdated
  | entityRenamed
  | entityMerged
  | entityUnmerged
  | entityTombstoned
  | statementCreated
  | statementSuperseded
  | statementTombstoned
  | relationCreated
  | relationSuperseded
  | relationTombstoned
  | schemaUpdated
  deriving DecidableEq

inductive EventType where
  | encoded
  | forgotten
  | edgeAdded
  | edgeRemoved
  | edgeSuperseded
  | stageCompleted
  | graph (kind : GraphEventKind)
  deriving DecidableEq

structure GraphEventPayload where
  kind : GraphEventKind
  body : List UInt8
  deriving DecidableEq

structure StageTriple where
  (stageKind stageOutcome : Nat)
  stagePayload : List UInt8
  deriving DecidableEq

structure EdgeEventPayload where
  (fromKind fromId toKind toId edgeKindTag edgeKindByte : Nat)
  relationTypeId : Option RelationTypeId
  weight : UInt32
  (relationId supersededRelationId : Option RelationId)
  origin : Nat
  deriving DecidableEq

structure EventEnvelope where
  lsn : Nat
  eventType : EventType
  memoryId : MemoryId
  sessionId : SessionId
  kind : MemoryKind
  salience : UInt32
  timestamp : Nanos
  text : Option String
  graphPayload : Option GraphEventPayload
  edgePayload : Option EdgeEventPayload
  stage : Option StageTriple
  spaceId : SpaceId
  vector : Option Embedding
  deriving DecidableEq

open EventEnvelope

def defaultSpace : SpaceId := 0

def EventEnvelope.blank (eventType : EventType) (timestamp : Nanos) (spaceId : SpaceId) :
    EventEnvelope :=
  { lsn := 0, eventType, memoryId := 0, sessionId := 0, kind := .episodic, salience := 0, timestamp
    text := none, graphPayload := none, edgePayload := none, stage := none, spaceId
    vector := none }

def explicitOrigin : Nat := 0

def weightOne : UInt32 := 0x3F800000

def edgePayloadToEvent (source target : NodeRef) (kind : EdgeKindRef) (weight : UInt32)
    (relationId supersededRelationId : Option RelationId) (origin : Nat) : EdgeEventPayload :=
  { fromKind := (ofLex source.code).1, fromId := (ofLex source.code).2
    toKind := (ofLex target.code).1, toId := (ofLex target.code).2
    edgeKindTag := match kind with
      | .builtin _ => 0
      | .mentions => 1
      | .typed _ => 2
    edgeKindByte := match kind with
      | .builtin k => k.code
      | .mentions => 0
      | .typed relationType => relationType % 256
    relationTypeId := match kind with
      | .typed relationType => some relationType
      | _ => none
    weight, relationId, supersededRelationId, origin }

def tombstonedRelation (relationId : RelationId) : EdgeEventPayload :=
  { fromKind := 0, fromId := 0, toKind := 0, toId := 0, edgeKindTag := 2, edgeKindByte := 0
    relationTypeId := none, weight := 0, relationId := some relationId
    supersededRelationId := none, origin := explicitOrigin }

structure RelationLinkRecord where
  relationId : RelationId
  relationTypeId : RelationTypeId
  (source target : NodeRef)
  sessionId : SessionId
  spaceId : SpaceId

/-- A WAL payload as far as the feed reads it. `phaseBody` is a durable typed-graph row;
`graphEvent` and `stageCompleted` carry `FLAG_SUBSCRIBE_EVENT`. -/
inductive FeedPayload where
  | substrate (p : SubstratePayload)
  | relationLink (p : RelationLinkRecord)
  | relationSupersede (oldRelationId : RelationId) (new : RelationLinkRecord)
  | relationTombstone (relationId : RelationId) (spaceId : SpaceId)
  | phaseBody
  | graphEvent (spaceId : SpaceId) (payload : GraphEventPayload)
  | stageCompleted (spaceId : SpaceId) (memoryId : MemoryId) (stage : StageTriple)

abbrev FeedEntry := Entry (LogPayload FeedPayload)

def FeedPayload.toEnvelope (timestamp : Nanos) : FeedPayload → Option EventEnvelope
  | .substrate (.memory (.encode p)) => some
      { blank .encoded timestamp p.scope.spaceId with
        memoryId := p.memoryId, sessionId := p.sessionId, kind := p.kind
        salience := p.salienceInitial, text := some p.text }
  | .substrate (.memory (.forget memoryId _ _ _)) => some
      { blank .forgotten timestamp defaultSpace with memoryId }
  | .substrate (.memory _) => none
  | .substrate (.link source target kind weight _) => some
      { blank .edgeAdded timestamp defaultSpace with
        edgePayload := some (edgePayloadToEvent source target kind weight none none
          explicitOrigin) }
  | .substrate (.unlink source target kind) => some
      { blank .edgeRemoved timestamp defaultSpace with
        edgePayload := some (edgePayloadToEvent source target kind 0 none none explicitOrigin) }
  | .relationLink p => some
      { blank .edgeAdded timestamp p.spaceId with
        sessionId := p.sessionId
        edgePayload := some (edgePayloadToEvent p.source p.target (.typed p.relationTypeId)
          weightOne (some p.relationId) none explicitOrigin) }
  | .relationSupersede oldRelationId p => some
      { blank .edgeSuperseded timestamp p.spaceId with
        sessionId := p.sessionId
        edgePayload := some (edgePayloadToEvent p.source p.target (.typed p.relationTypeId)
          weightOne (some p.relationId) (some oldRelationId) explicitOrigin) }
  | .relationTombstone relationId spaceId => some
      { blank .edgeRemoved timestamp spaceId with
        edgePayload := some (tombstonedRelation relationId) }
  | .phaseBody => none
  | .graphEvent _ payload => some
      { blank (.graph payload.kind) timestamp defaultSpace with
        graphPayload := some payload }
  | .stageCompleted spaceId memoryId stage => some
      { blank .stageCompleted timestamp spaceId with memoryId, stage := some stage }

def EventEnvelope.fromWalRecord (e : FeedEntry) : Option EventEnvelope :=
  match e.payload with
  | .record p => (p.toEnvelope e.timestamp).map fun env => { env with lsn := e.lsn }
  | _ => none

inductive FeedPhase where
  | substrate (p : SubstratePhase)
  | graph (record : FeedPayload)

def FeedPhase.walPayload (writeId : WriteId) (caller : Caller) : FeedPhase → Option FeedPayload
  | .substrate p => (p.walPayload writeId caller).map .substrate
  | .graph record => some record

def feedEngine : Engine Unit FeedPhase FeedPayload Unit :=
  { dispatch := fun _ t _ => .ok (t, ())
    walPayload := FeedPhase.walPayload
    hnswEffect := fun index _ => index }

def memoryIdFromNodeRef : NodeRef → MemoryId
  | .memory id => id
  | .entity _ => 0

abbrev MemoryRows := MemoryId → Option (SessionId × MemoryKind)

def FeedPhase.toEnvelope (caller : Caller) (committedAt : Nanos)
    (rows : MemoryRows) : FeedPhase → Option EventEnvelope
  | .substrate (.memory (.upsertMemory m)) => some
      { blank .encoded committedAt caller.scope.spaceId with
        memoryId := m.id, sessionId := m.sessionId, kind := m.kind, salience := m.salience
        text := some m.text, vector := some m.vector }
  | .substrate (.memory (.tombstoneMemory memoryId _ _)) =>
    let env := { blank .forgotten committedAt caller.scope.spaceId with memoryId }
    match rows memoryId with
    | some (sessionId, kind) => some { env with sessionId, kind }
    | none => some env
  | .substrate (.memory _) => none
  | .substrate (.link l) => some
      { blank .edgeAdded committedAt caller.scope.spaceId with
        memoryId := memoryIdFromNodeRef l.source
        edgePayload := some (edgePayloadToEvent l.source l.target l.kind l.weight none none
          l.origin) }
  | .substrate (.unlink key) => some
      { blank .edgeRemoved committedAt caller.scope.spaceId with
        memoryId := memoryIdFromNodeRef key.source
        edgePayload := some (edgePayloadToEvent key.source key.target key.kind 0 none none
          explicitOrigin) }
  | .graph _ => none

inductive Notification where
  | graph (payload : GraphEventPayload) (spaceId : SpaceId) (timestamp : Nanos)
  | stage (env : EventEnvelope) (triple : StageTriple)

def Notification.payload : Notification → FeedPayload
  | .graph payload spaceId _ => .graphEvent spaceId payload
  | .stage env triple => .stageCompleted env.spaceId env.memoryId triple

def Notification.envelope (lsn : Nat) : Notification → EventEnvelope
  | .graph payload spaceId timestamp =>
    { blank (.graph payload.kind) timestamp spaceId with
      lsn, graphPayload := some payload }
  | .stage env triple => { env with lsn, stage := some triple }

structure SimilarityMatch where
  reference : Embedding
  threshold : UInt32

structure ParsedFilter where
  sessionFilter : Option (List SessionId)
  kinds : Option (List MemoryKind)
  spaces : Option (List SpaceId)
  memoryIds : Option (List MemoryId)
  minSalience : Option UInt32
  similarTo : Option SimilarityMatch

def ParsedFilter.matches (below : UInt32 → UInt32 → Bool)
    (similar : Embedding → SimilarityMatch → Bool) (f : ParsedFilter) (env : EventEnvelope) :
    Bool :=
  f.spaces.all (fun spaces => env.spaceId ∈ spaces) &&
    f.sessionFilter.all (fun sessions => env.sessionId = 0 || env.sessionId ∈ sessions) &&
    f.kinds.all (fun kinds => env.kind ∈ kinds) &&
    f.memoryIds.all (fun ids => env.memoryId ∈ ids) &&
    f.minSalience.all (fun t => !below env.salience t) &&
    f.similarTo.all (fun sim => env.vector.any fun v => similar v sim)

end BrainDb
