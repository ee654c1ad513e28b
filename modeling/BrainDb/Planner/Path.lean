import BrainDb.Base.TwoSided
import BrainDb.Index.Search
import BrainDb.Store.Edge

namespace BrainDb
open List ExceptLemmas Prod TwoSided

inductive PlanState where
  | byMemoryId (id : MemoryId)
  | byText (text : String)
  | byVector

structure PathPlan where
  (start goal : PlanState)
  edgeKinds : List EdgeKind
  (maxDepth maxPaths maxBranchesExplored topN : Nat)

inductive ExecError where
  | embedFailed
  | unsupported
  | memoryNotFound (id : MemoryId)

structure Path where
  nodes : List MemoryId
  edges : List (EdgeKind × UInt32)
  nodeSalience : List UInt32
  nodeText : List String

structure PlanLib where
  vectors : VectorLib
  efFactor : Nat
  embedQuery : String → Option Embedding
  ge : Score → Score → Bool
  one : Score
  hashOrder : List MemoryId → List MemoryId
  byAlignment : List (MemoryId × EdgeKind × UInt32) → List (MemoryId × EdgeKind × UInt32)
  byScore : List Path → List Path
  mem_hashOrder {l : List MemoryId} {id : MemoryId} : id ∈ hashOrder l ↔ id ∈ l
  mem_byAlignment {l : List (MemoryId × EdgeKind × UInt32)} {e : MemoryId × EdgeKind × UInt32} :
    e ∈ byAlignment l ↔ e ∈ l
  mem_byScore {l : List Path} {p : Path} : p ∈ byScore l ↔ p ∈ l

structure PlanContext where
  memory : Memories
  edges : Edges
  index : SharedHnsw
  caller : RowScope

def endpointRecallK : Nat := 5

def endpointRecallEf : Nat := 32

variable (lib : PlanLib) (ctx : PlanContext)

def PlanContext.memoryInCallerScope (id : MemoryId) : Bool :=
  (ctx.memory.memories.get id).any fun row => row.scope = ctx.caller

def PlanContext.resolveEndpoint (ctx : PlanContext) :
    PlanState → Except ExecError (List (MemoryId × Score))
  | .byMemoryId id =>
    if ctx.index.isTombstoned id then .ok []
    else if !ctx.memoryInCallerScope id then .ok []
    else .ok [(id, lib.one)]
  | .byText text =>
    match lib.embedQuery text with
    | none => .error .embedFailed
    | some vector =>
      .ok ((ctx.index.searchActive lib.vectors lib.efFactor vector endpointRecallK
        (some endpointRecallEf)).filter fun hit => ctx.memoryInCallerScope hit.1)
  | .byVector => .error .unsupported

def lastScore (l : List (MemoryId × Score)) (id : MemoryId) : Option Score :=
  (l.reverse.find? fun e => e.1 = id).map snd

def belongsToStart (starts goals : List (MemoryId × Score)) (id : MemoryId) : Bool :=
  if (starts.head?.map fst) = some id then true
  else if (goals.head?.map fst) = some id then false
  else match lastScore starts id, lastScore goals id with
  | some s, some g => lib.ge s g
  | some _, none => true
  | none, _ => false

def disjointEndpoints (starts goals : List (MemoryId × Score)) : List MemoryId × List MemoryId :=
  match starts.head?.map fst, goals.head?.map fst with
  | some s, some g =>
    if s = g then ([s], [s])
    else
      (((starts.map fst).filter fun id =>
          (lastScore goals id).isNone || belongsToStart lib starts goals id).dedup,
        ((goals.map fst).filter fun id =>
          (lastScore starts id).isNone || !belongsToStart lib starts goals id).dedup)
  | _, _ => ((starts.map fst).dedup, (goals.map fst).dedup)

namespace PlanContext

def neighbours (edgeKinds : List EdgeKind) (table : Table EdgeKey EdgeData) (id : MemoryId) :
    List (MemoryId × EdgeKind × UInt32) :=
  (((Edges.listMemoryEdges table id).filter fun e => e.1 ∈ edgeKinds).map
    fun e => (e.2.1, e.1, e.2.2.weight)).filter fun n => !ctx.index.isTombstoned n.1

def hydratePath (raw : List MemoryId × List (EdgeKind × UInt32)) :
    Except ExecError Path := do
  let nodeSalience ← raw.1.mapM fun id =>
    match ctx.memory.memories.get id with
    | some row => .ok row.salience
    | none => .error (.memoryNotFound id)
  .ok ⟨raw.1, raw.2, nodeSalience, raw.1.map fun id => (ctx.memory.texts.get id).getD ""⟩

def pathsBetween (ctx : PlanContext) (plan : PathPlan) (trace : Bool) (expired : Nat → Bool)
    (turns : Nat) (starts goals : List MemoryId) :
    Option (Except ExecError (List Path × Status)) :=
  if starts.isEmpty || goals.isEmpty then some (.ok ([], .noPathFound))
  else
    (search ⟨plan.maxDepth, plan.maxBranchesExplored, plan.maxPaths, trace⟩
      (fun id => lib.byAlignment (ctx.neighbours plan.edgeKinds ctx.edges.forward id))
      (ctx.neighbours plan.edgeKinds ctx.edges.reverse) expired turns (lib.hashOrder starts)
      (lib.hashOrder goals)).map fun raw => do
        let paths ← raw.1.mapM ctx.hydratePath
        .ok ((lib.byScore paths).take (max plan.topN 1), raw.2)

def executePath (ctx : PlanContext) (plan : PathPlan) (trace : Bool) (expired : Nat → Bool)
    (turns : Nat) : Option (Except ExecError (List Path × Status)) :=
  match ctx.resolveEndpoint lib plan.start, ctx.resolveEndpoint lib plan.goal with
  | .error e, _ => some (.error e)
  | .ok _, .error e => some (.error e)
  | .ok starts, .ok goals =>
    let ends := disjointEndpoints lib starts goals
    ctx.pathsBetween lib plan trace expired turns ends.1 ends.2

end PlanContext

variable {P : MemoryId → Prop}

lemma mem_disjointEndpoints {starts goals : List (MemoryId × Score)}
    (hstarts : ∀ e ∈ starts, P e.1) (hgoals : ∀ e ∈ goals, P e.1) :
    (∀ id ∈ (disjointEndpoints lib starts goals).1, P id) ∧
      ∀ id ∈ (disjointEndpoints lib starts goals).2, P id := by
  have hs : ∀ id ∈ starts.map fst, P id := by
    intro id hid
    obtain ⟨e, he, rfl⟩ := List.mem_map.mp hid
    exact hstarts e he
  have hg : ∀ id ∈ goals.map fst, P id := by
    intro id hid
    obtain ⟨e, he, rfl⟩ := List.mem_map.mp hid
    exact hgoals e he
  unfold disjointEndpoints
  split
  next s g hhead _ =>
    split
    · have hP : P s := hs s (mem_of_head? (by rw [List.head?_map]; exact hhead))
      exact ⟨fun id hid => mem_singleton.mp hid ▸ hP, fun id hid => mem_singleton.mp hid ▸ hP⟩
    · exact ⟨fun id hid => hs id (mem_of_mem_filter (mem_dedup.mp hid)),
        fun id hid => hg id (mem_of_mem_filter (mem_dedup.mp hid))⟩
  · exact ⟨fun id hid => hs id (mem_dedup.mp hid), fun id hid => hg id (mem_dedup.mp hid)⟩

namespace PlanContext
variable {lib : PlanLib} {ctx : PlanContext}

lemma mem_neighbours {edgeKinds : List EdgeKind} {table : Table EdgeKey EdgeData}
    {id : MemoryId} {n : MemoryId × EdgeKind × UInt32} (h : n ∈ ctx.neighbours edgeKinds table id) :
    ctx.index.isTombstoned n.1 = false ∧
      ∃ k data, table.get k = some data ∧ k.source = .memory id ∧ k.target = .memory n.1 := by
  obtain ⟨hmem, hlive⟩ := mem_filter.mp h
  obtain ⟨⟨kind, other, data⟩, he, rfl⟩ := List.mem_map.mp hmem
  obtain ⟨d, hget⟩ := Edges.mem_listMemoryEdges.mp (mem_of_mem_filter he)
  exact ⟨by simpa using hlive, _, data, hget, rfl, rfl⟩

lemma hydratePath_nodes {raw : List MemoryId × List (EdgeKind × UInt32)} {p : Path}
    (h : ctx.hydratePath raw = .ok p) : p.nodes = raw.1 := by
  obtain ⟨_, _, h⟩ := bind_ok h
  cases h
  rfl

lemma executePath_nodes {plan : PathPlan} {trace : Bool} {expired : Nat → Bool} {turns : Nat}
    {paths : List Path} {status : Status}
    (hends : ∀ state hits, ctx.resolveEndpoint lib state = .ok hits → ∀ hit ∈ hits, P hit.1)
    (hedges : ctx.edges.AllPairs fun a b => ∀ id id', a = .memory id → b = .memory id' →
      P id → ctx.index.isTombstoned id' = false → P id')
    (h : ctx.executePath lib plan trace expired turns = some (.ok (paths, status))) :
    ∀ p ∈ paths, ∀ id ∈ p.nodes, P id := by
  unfold executePath at h
  split at h
  · cases h
  · cases h
  next starts goals hs hg =>
    obtain ⟨hstarts, hgoals⟩ := mem_disjointEndpoints lib (hends _ _ hs) (hends _ _ hg)
    unfold pathsBetween at h
    simp only at h
    split at h
    · cases h
      intro p hp
      cases hp
    · obtain ⟨raw, hsearch, hraw⟩ := Option.map_eq_some_iff.mp h
      obtain ⟨hydrated, hmap, hok⟩ := bind_ok hraw
      cases hok
      have hstep : ∀ table : Table EdgeKey EdgeData,
          (∀ k data, table.get k = some data → ∀ id id', k.source = .memory id →
            k.target = .memory id' → P id → ctx.index.isTombstoned id' = false → P id') →
          ∀ id, P id → ∀ n ∈ ctx.neighbours plan.edgeKinds table id, P n.1 := by
        intro table htable id hid n hn
        obtain ⟨hlive, k, data, hget, hsrc, htgt⟩ := mem_neighbours hn
        exact htable k data hget id n.1 hsrc htgt hid hlive
      have hnodes := search_all (P := P) (fun id hid => hstarts id (lib.mem_hashOrder.mp hid))
        (fun id hid => hgoals id (lib.mem_hashOrder.mp hid))
        (fun id hid n hn => hstep _ hedges.1 id hid n (lib.mem_byAlignment.mp hn))
        (hstep _ hedges.2) hsearch
      intro p hp id hid
      have hmem := lib.mem_byScore.mp (mem_of_mem_take hp)
      obtain ⟨r, hr, hrp⟩ := exists_of_mem_mapM hmap hmem
      rw [hydratePath_nodes hrp] at hid
      exact hnodes r hr id hid

def edgeEnds (t : Edges) : Finset MemoryId :=
  ((t.forward.entries ++ t.reverse.entries).filterMap fun e =>
    match e.1.target with
    | .memory id => some id
    | .entity _ => none).toFinset

lemma mem_edgeEnds {t : Edges} {k : EdgeKey} {data : EdgeData} {id : MemoryId}
    (h : t.forward.get k = some data ∨ t.reverse.get k = some data)
    (htgt : k.target = .memory id) : id ∈ edgeEnds t := by
  refine mem_toFinset.mpr (mem_filterMap.mpr ⟨(k, data), ?_, by simp only [htgt]⟩)
  rw [mem_append, Table.mem_entries_iff, Table.mem_entries_iff]
  exact h

lemma executePath_isSome (lib : PlanLib) (ctx : PlanContext) (plan : PathPlan) (trace : Bool)
    (expired : Nat → Bool) :
    ∃ enough, ∀ turns, enough < turns → (ctx.executePath lib plan trace expired turns).isSome := by
  unfold executePath
  split
  · exact ⟨0, fun _ _ => rfl⟩
  · exact ⟨0, fun _ _ => rfl⟩
  next starts goals _ _ =>
    unfold pathsBetween
    simp only
    split
    · exact ⟨0, fun _ _ => rfl⟩
    · simp only [Option.isSome_map]
      refine search_isSome (U := edgeEnds ctx.edges) _ expired ?_ ?_ _ _
      · intro id n hn
        obtain ⟨_, k, data, hget, _, htgt⟩ := mem_neighbours (lib.mem_byAlignment.mp hn)
        exact mem_edgeEnds (.inl hget) htgt
      · intro id n hn
        obtain ⟨_, k, data, hget, _, htgt⟩ := mem_neighbours hn
        exact mem_edgeEnds (.inr hget) htgt

end PlanContext
end BrainDb
