import BrainDb.Base.Run
import BrainDb.Handlers.Txn

namespace BrainDb

def activeTxnRouteCap : Nat := 1024

def terminatedTxnRouteWindow : Nat := 256

structure TxnShardRouter where
  active : Table TxnKey Nat
  activeOrder : List TxnKey
  terminated : Table TxnKey Nat
  terminatedOrder : List TxnKey

inductive TxnRouteOutcomeKind where
  | confirmedTerminal
  | beginRejected

namespace TxnShardRouter

def new : TxnShardRouter := ⟨.empty, [], .empty, []⟩

variable (r : TxnShardRouter) (txnId : TxnKey)

def begin (shard : Nat) : Option TxnShardRouter :=
  let known := (r.active.get txnId).isSome
  if !known && activeTxnRouteCap ≤ r.active.entries.length then none
  else
    let active := r.active.insert txnId shard
    let order := if known then r.activeOrder else r.activeOrder ++ [txnId]
    some { r with
      active
      activeOrder := if active.entries.length * 2 + activeTxnRouteCap < order.length then
        order.filter fun id => (active.get id).isSome else order }

def route : Option Nat := (r.active.get txnId).or (r.terminated.get txnId)

def pushTerminated (shard : Nat) : TxnShardRouter :=
  let terminated := r.terminated.insert txnId shard
  if (r.terminated.get txnId).isSome then { r with terminated }
  else
    let order := r.terminatedOrder ++ [txnId]
    let excess := order.length - terminatedTxnRouteWindow
    { r with
      terminated := (order.take excess).foldl Table.remove terminated
      terminatedOrder := order.drop excess }

def removeActive : TxnShardRouter := { r with active := r.active.remove txnId }

def confirmTerminated : TxnShardRouter :=
  match r.active.get txnId with
  | some shard => (r.removeActive txnId).pushTerminated txnId shard
  | none => r

def applyOutcome : TxnRouteOutcomeKind → TxnShardRouter
  | .confirmedTerminal => r.confirmTerminated txnId
  | .beginRejected => r.removeActive txnId

variable {r txnId}

lemma get_active_begin {shard : Nat} {r' : TxnShardRouter} (h : r.begin txnId shard = some r')
    (id : TxnKey) : r'.active.get id = if id = txnId then some shard else r.active.get id := by
  simp only [begin] at h
  split at h
  · cases h
  · cases h
    exact r.active.get_insert txnId id shard

lemma get_active_applyOutcome {id : TxnKey} (h : id ≠ txnId) (kind : TxnRouteOutcomeKind) :
    (r.applyOutcome txnId kind).active.get id = r.active.get id := by
  have hremove : (r.removeActive txnId).active.get id = r.active.get id := r.active.get_remove_ne h
  cases kind with
  | beginRejected => exact hremove
  | confirmedTerminal =>
    simp only [applyOutcome, confirmTerminated]
    split
    · unfold pushTerminated
      simp only
      split <;> exact hremove
    · rfl

open List

inductive RouterOp where
  | begin (txnId : TxnKey) (shard : Nat)
  | outcome (txnId : TxnKey) (kind : TxnRouteOutcomeKind)

def step (r : TxnShardRouter) : RouterOp → TxnShardRouter
  | .begin txnId shard => (r.begin txnId shard).getD r
  | .outcome txnId kind => r.applyOutcome txnId kind

def Fresh (r : TxnShardRouter) : RouterOp → Prop
  | .begin txnId _ => (r.active.get txnId).isSome = false → txnId ∉ r.activeOrder
  | .outcome .. => True

/-- The bounds of both tiers and their queues; the queues have every route, the one of the active
routes has it once. -/
structure Bounded (r : TxnShardRouter) : Prop where
  active : r.active.entries.length ≤ activeTxnRouteCap
  activeOrder : r.activeOrder.length ≤ 3 * activeTxnRouteCap
  live : ∀ id, (r.active.get id).isSome → id ∈ r.activeOrder
  apart : r.activeOrder.Nodup
  terminated : r.terminated.entries.length ≤ terminatedTxnRouteWindow
  terminatedOrder : r.terminatedOrder.length ≤ terminatedTxnRouteWindow
  parked : ∀ id, (r.terminated.get id).isSome → id ∈ r.terminatedOrder

variable {shard : Nat}

lemma Bounded.begin {r' : TxnShardRouter} (h : r.Bounded) (hfresh : r.Fresh (.begin txnId shard))
    (hbegin : r.begin txnId shard = some r') : r'.Bounded := by
  simp only [TxnShardRouter.begin] at hbegin
  split at hbegin
  · cases hbegin
  next hroom =>
    cases hbegin
    have hlen := r.active.length_insert_le txnId shard
    have hget := r.active.get_insert txnId
    have hact := h.active
    generalize hnew : r.active.insert txnId shard = active at *
    generalize horder : (if (r.active.get txnId).isSome then r.activeOrder
      else r.activeOrder ++ [txnId]) = order
    have hbound : active.entries.length ≤ activeTxnRouteCap := by grind
    have hsep : order.Nodup := by grind [Fresh, h.apart, nodup_append]
    have hlive : ∀ id, (active.get id).isSome → id ∈ order := by grind [h.live]
    refine { h with active := hbound, activeOrder := ?_, live := ?_, apart := ?_ }
    · have hkept := Table.le_length_of_keys (hsep.filter fun id => (active.get id).isSome)
        fun id hid => (mem_filter.mp hid).2
      simp only
      split <;> omega
    · intro id hid
      simp only
      split
      · exact mem_filter.mpr ⟨hlive id hid, hid⟩
      · exact hlive id hid
    · simp only
      split
      · exact hsep.filter _
      · exact hsep

lemma Bounded.removeActive (h : r.Bounded) (txnId : TxnKey) : (r.removeActive txnId).Bounded := by
  have hold : ∀ id, ((r.active.remove txnId).get id).isSome → (r.active.get id).isSome := by
    intro id hid
    rw [Table.get_remove] at hid
    split at hid
    · cases hid
    · exact hid
  refine { h with active := ?_, live := fun id hid => h.live id (hold id hid) }
  exact (length_filter_le ..).trans h.active

lemma Bounded.pushTerminated (h : r.Bounded) (txnId : TxnKey) (shard : Nat) :
    (r.pushTerminated txnId shard).Bounded := by
  have hget := r.terminated.get_insert txnId
  have hbound := h.terminatedOrder
  unfold TxnShardRouter.pushTerminated
  simp only
  split
  next hknown =>
    have hparked : ∀ id, ((r.terminated.insert txnId shard).get id).isSome →
        id ∈ r.terminatedOrder := by grind [h.parked]
    exact { h with terminated := (Table.length_le_of_keys hparked).trans hbound, parked := hparked }
  · generalize hn : (r.terminatedOrder ++ [txnId]).length - terminatedTxnRouteWindow = n
    have hparked : ∀ id, ((((r.terminatedOrder ++ [txnId]).take n).foldl Table.remove
        (r.terminated.insert txnId shard)).get id).isSome →
        id ∈ (r.terminatedOrder ++ [txnId]).drop n := by
      intro id hid
      have hremoved := Table.get_foldl_remove (fun id => id)
        ((r.terminatedOrder ++ [txnId]).take n) (r.terminated.insert txnId shard) id
      rw [map_id'] at hremoved
      have hcut := take_append_drop n (r.terminatedOrder ++ [txnId])
      grind [h.parked]
    have hshort : ((r.terminatedOrder ++ [txnId]).drop n).length ≤ terminatedTxnRouteWindow := by
      rw [length_drop]
      omega
    exact { h with
      terminated := (Table.length_le_of_keys hparked).trans hshort
      terminatedOrder := hshort
      parked := hparked }

lemma bounded_step (r : TxnShardRouter) (op : RouterOp) (h : r.Bounded) (hfresh : r.Fresh op) :
    (r.step op).Bounded := by
  cases op with
  | begin txnId shard =>
    cases hbegin : r.begin txnId shard with
    | none => simpa [step, hbegin] using h
    | some r' => simpa [step, hbegin] using h.begin hfresh hbegin
  | outcome txnId kind =>
    cases kind with
    | beginRejected => exact h.removeActive txnId
    | confirmedTerminal =>
      simp only [step, applyOutcome, confirmTerminated]
      split
      · exact (h.removeActive txnId).pushTerminated txnId _
      · exact h

/-- The routes of a connection stay within their bounds, and the queue has every active one, as
long as no id is begun again while the queue has it from before. -/
theorem routes_bounded {ops : List RouterOp} (hops : Run.EachStep step Fresh new ops) :
    Run.Always step Bounded new ops := by
  refine hops.always bounded_step ⟨?_, ?_, ?_, ?_, ?_, ?_, ?_⟩ <;> simp [new, Table.empty, Table.get]

instance (r : TxnShardRouter) : (op : RouterOp) → Decidable (r.Fresh op)
  | .begin .. => inferInstanceAs (Decidable (_ → _))
  | .outcome .. => isTrue trivial

def turnover : List RouterOp :=
  [.begin 5 0, .begin 6 1, .begin 7 0, .outcome 6 .beginRejected, .begin 8 1,
    .outcome 5 .confirmedTerminal, .begin 9 0, .outcome 7 .confirmedTerminal, .begin 10 1]

theorem turnover_bounded : Run.Always step Bounded new turnover ∧
    (turnover.foldl step new).activeOrder = [5, 6, 7, 8, 9, 10] ∧
    (turnover.foldl step new).terminatedOrder = [5, 7] :=
  ⟨routes_bounded (by decide +kernel), by decide +kernel, by decide +kernel⟩

def churn (n : Nat) : List RouterOp :=
  (replicate n [.begin 5 0, .outcome 5 .beginRejected]).flatten

lemma foldl_churn (n : Nat) : (churn n).foldl step new = ⟨.empty, replicate n 5, .empty, []⟩ := by
  induction n with
  | zero => rfl
  | succ n ih =>
    -- the compaction keeps the entries, as the id is active when it runs
    have hbegin : TxnShardRouter.begin ⟨.empty, replicate n 5, .empty, []⟩ 5 0 =
        some ⟨.insert .empty 5 0, replicate (n + 1) 5, .empty, []⟩ := by
      have hkept : (replicate (n + 1) 5).filter
          (fun id => ((Table.empty.insert 5 0 : Table TxnKey Nat).get id).isSome) =
            replicate (n + 1) 5 :=
        filter_eq_self.mpr fun id hid => by
          rw [eq_of_mem_replicate hid]
          rfl
      have hroom : ¬ activeTxnRouteCap ≤ (Table.empty : Table TxnKey Nat).entries.length := by decide
      simp [TxnShardRouter.begin, hroom, ← replicate_succ', hkept]
    rw [churn, replicate_succ', flatten_append, foldl_append, ← churn, ih]
    simp only [flatten_singleton, foldl_cons, foldl_nil, step, hbegin]
    rfl

/-- One id is begun and rejected over and over: the queue keeps all of its entries. -/
theorem churned_order_grows :
    ¬ ∃ bound, ∀ n, ((churn n).foldl step new).activeOrder.length ≤ bound := by
  rintro ⟨bound, h⟩
  have hle := h (bound + 1)
  rw [foldl_churn, length_replicate] at hle
  omega

end TxnShardRouter

inductive RouteError where
  | txnNotFound
  | txnExpired
  | overloaded
  | retrievalUnavailable
  | internalError
  | definitive
  deriving DecidableEq

inductive DispatchResult where
  | ok
  | op (code : RouteError)
  | shardDisconnected
  deriving DecidableEq

inductive TxnReqKind where
  | begin
  | commit
  | abort
  deriving DecidableEq

def isTransientDispatchError : DispatchResult → Bool
  | .shardDisconnected => true
  | .op code => code = .overloaded || code = .retrievalUnavailable || code = .internalError
  | .ok => false

def classifyTxnRouteOutcome : TxnReqKind → DispatchResult → Option TxnRouteOutcomeKind
  | .begin, result =>
    if result = .ok || isTransientDispatchError result then none else some .beginRejected
  | _, result =>
    if result = .ok || result = .op .txnNotFound || result = .op .txnExpired
    then some .confirmedTerminal else none

structure TxnOp where
  kind : TxnReqKind
  txnId : TxnKey
  shard : Nat

structure TxnConnection where
  router : TxnShardRouter
  held : Nat → TxnKey → Bool
  sent : List TxnOp
  outcomes : List (TxnKey × TxnRouteOutcomeKind)

/-- `answer` and `outcome` take any that is on its way; `holds` is whether the shard has the
transaction as Active afterwards. -/
inductive TxnStep where
  | frame (kind : TxnReqKind) (txnId : TxnKey)
  | answer (i : Nat) (result : DispatchResult) (holds : Bool)
  | outcome (i : Nat)
  | expire (shard : Nat) (txnId : TxnKey)

def TxnOp.mayLeave (kind : TxnReqKind) (result : DispatchResult) (held holds : Bool) : Bool :=
  match kind with
  | .begin => if classifyTxnRouteOutcome .begin result = none then !held || holds else held = holds
  | _ => (!holds || held) && (result ≠ .ok || !holds)

namespace TxnConnection

def new : TxnConnection := ⟨.new, fun _ _ => false, [], []⟩

variable (c : TxnConnection)

def setHeld (shard : Nat) (txnId : TxnKey) (holds : Bool) : TxnConnection :=
  { c with held := fun k id => if k = shard ∧ id = txnId then holds else c.held k id }

def step (home : TxnKey → Nat) (bound : Nat) (c : TxnConnection) : TxnStep → TxnConnection
  | .frame .begin id =>
    match c.router.begin id (home id) with
    | none => c
    | some router => { c with router, sent := c.sent ++ [⟨.begin, id, home id⟩] }
  | .frame kind id => { c with sent := c.sent ++ [⟨kind, id, (c.router.route id).getD bound⟩] }
  | .answer i result holds =>
    match c.sent[i]? with
    | none => c
    | some op =>
      if TxnOp.mayLeave op.kind result (c.held op.shard op.txnId) holds then
        { c.setHeld op.shard op.txnId holds with
          sent := c.sent.eraseIdx i
          outcomes := c.outcomes ++
            (classifyTxnRouteOutcome op.kind result).toList.map fun kind => (op.txnId, kind) }
      else c
  | .outcome i =>
    match c.outcomes[i]? with
    | none => c
    | some (id, kind) =>
      { c with router := c.router.applyOutcome id kind, outcomes := c.outcomes.eraseIdx i }
  | .expire shard id => c.setHeld shard id false

def Routed : Prop :=
  ∀ shard id, c.held shard id = true → c.router.route id = some shard

/-- An outcome reaches the router when its transaction is not open, nor about to be opened. -/
def Timely : TxnStep → Prop
  | .outcome i => ∀ o, c.outcomes[i]? = some o →
    (∀ shard, c.held shard o.1 = false) ∧ ∀ op ∈ c.sent, op.txnId = o.1 → op.kind ≠ .begin
  | _ => True

variable {home : TxnKey → Nat} {bound : Nat} {c : TxnConnection}

structure Pinned (home : TxnKey → Nat) (c : TxnConnection) : Prop where
  held : ∀ shard id, c.held shard id = true → shard = home id ∧ c.router.active.get id = some (home id)
  sent : ∀ op ∈ c.sent, op.kind = .begin →
    op.shard = home op.txnId ∧ c.router.active.get op.txnId = some (home op.txnId)

lemma Pinned.setHeld {shard : Nat} {id : TxnKey} {holds : Bool} (h : Pinned home c)
    (hholds : holds = true → shard = home id ∧ c.router.active.get id = some (home id)) :
    Pinned home (c.setHeld shard id holds) := by
  refine ⟨fun k id' hheld => ?_, h.sent⟩
  simp only [TxnConnection.setHeld] at hheld
  split at hheld
  next heq =>
    obtain ⟨rfl, rfl⟩ := heq
    exact hholds hheld
  · exact h.held k id' hheld

lemma pinned_step (c : TxnConnection) (a : TxnStep) (h : Pinned home c) (ha : c.Timely a) :
    Pinned home (c.step home bound a) := by
  cases a with
  | frame kind id =>
    have hsend : ∀ (kind : TxnReqKind) (shard : Nat), kind ≠ .begin →
        Pinned home { c with sent := c.sent ++ [⟨kind, id, shard⟩] } := by
      intro kind shard hkind
      refine ⟨h.held, fun op hop hbegin => ?_⟩
      rcases List.mem_append.mp hop with hop | hop
      · exact h.sent op hop hbegin
      · cases List.mem_singleton.mp hop
        exact absurd hbegin hkind
    cases kind with
    | commit => exact hsend .commit _ (by decide)
    | abort => exact hsend .abort _ (by decide)
    | begin =>
      simp only [step]
      split
      · exact h
      next router hbegin =>
        have hget := TxnShardRouter.get_active_begin hbegin
        have hkeep : ∀ id', c.router.active.get id' = some (home id') →
            router.active.get id' = some (home id') := by
          intro id' hact
          rw [hget]
          split
          next heq => rw [heq]
          · exact hact
        refine ⟨fun shard id' hheld => (h.held shard id' hheld).imp_right (hkeep id'),
          fun op hop hkind => ?_⟩
        rcases List.mem_append.mp hop with hop | hop
        · exact (h.sent op hop hkind).imp_right (hkeep op.txnId)
        · cases List.mem_singleton.mp hop
          exact ⟨rfl, by rw [hget, if_pos rfl]⟩
  | answer i result holds =>
    simp only [step]
    split
    · exact h
    next op hop =>
      split
      next hmay =>
        have hheld : Pinned home (c.setHeld op.shard op.txnId holds) := by
          refine h.setHeld fun hholds => ?_
          by_cases hkind : op.kind = .begin
          · exact h.sent op (List.mem_of_getElem? hop) hkind
          · refine h.held op.shard op.txnId ?_
            cases hk : op.kind <;> simp_all [TxnOp.mayLeave]
        exact ⟨hheld.held, fun op' hop' => hheld.sent op' (List.mem_of_mem_eraseIdx hop')⟩
      · exact h
  | outcome i =>
    simp only [step]
    split
    · exact h
    next id kind ho =>
      obtain ⟨hheld, hsent⟩ := ha _ ho
      refine ⟨fun shard id' hid' => ?_, fun op hop hkind => ?_⟩
      · have hne : id' ≠ id := by
          rintro rfl
          exact Bool.false_ne_true ((hheld shard).symm.trans hid')
        rw [TxnShardRouter.get_active_applyOutcome hne]
        exact h.held shard id' hid'
      · have hne : op.txnId ≠ id := fun heq => hsent op hop heq hkind
        rw [TxnShardRouter.get_active_applyOutcome hne]
        exact h.sent op hop hkind
  | expire shard id => exact h.setHeld fun hfalse => nomatch hfalse

/-- Along a run whose outcomes are all timely, every transaction that a shard has as Active is routed
to that shard. -/
theorem open_txns_routed_home (home : TxnKey → Nat) (bound : Nat) {steps : List TxnStep}
    (hrun : Run.EachStep (step home bound) Timely new steps) :
    Run.Always (step home bound) Routed new steps := by
  have hnew : Pinned home new := ⟨fun _ _ h => (nomatch h), fun _ h => (nomatch h)⟩
  refine (hrun.always pinned_step hnew).imp fun c h shard id hheld => ?_
  obtain ⟨rfl, hact⟩ := h.held shard id hheld
  rw [TxnShardRouter.route, hact]
  rfl

def committing : List TxnStep :=
  [.frame .begin 5, .answer 0 .ok true, .frame .begin 6, .answer 0 .ok true, .frame .commit 5,
    .answer 0 .ok false, .outcome 0]

lemma committing_timely : Run.EachStep (step (fun _ => 3) 0) Timely new committing := by
  refine ⟨trivial, trivial, trivial, trivial, trivial, trivial, ?_, trivial⟩
  intro o ho
  cases ho
  refine ⟨fun shard => ?_, by decide +kernel⟩
  change (if shard = 3 ∧ 5 = 5 then false else if shard = 3 ∧ 5 = 6 then true
    else if shard = 3 ∧ 5 = 5 then true else false) = false
  grind

theorem committed_txn_routed : Run.Always (step (fun _ => 3) 0) Routed new committing ∧
    (committing.foldl (step (fun _ => 3) 0) new).router.active.get 5 = none ∧
    (committing.foldl (step (fun _ => 3) 0) new).router.route 6 = some 3 :=
  ⟨open_txns_routed_home _ _ committing_timely, by decide +kernel, by decide +kernel⟩

/-- The begin is sent once more and refused: the transaction is open, and its route is gone. -/
theorem refused_begin_loses_route :
    let c := List.foldl (step (fun _ => 3) 0) new [.frame .begin 5, .answer 0 .ok true,
      .frame .begin 5, .answer 0 (.op .definitive) true, .outcome 0]
    c.held 3 5 = true ∧ c.router.route 5 = none := by
  decide +kernel

end TxnConnection
end BrainDb
