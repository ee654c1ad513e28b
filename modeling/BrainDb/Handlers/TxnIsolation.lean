import BrainDb.Handlers.TxnEntry
import BrainDb.Handlers.TxnOps

namespace BrainDb
open List (mem_cons_self mem_cons_of_mem mem_pair)
open Option Table Program TxnStore TxnCall Triple
variable {e : TxnEntry} {c : Nat} {id : TxnKey} {f g : TxnKey → Option TxnEntry} {now : Nanos}
  {R : Type}

namespace TxnStore

def own (c : Nat) (store : TxnStore) (id : TxnKey) : Option TxnEntry :=
  (store.get id).filter fun e => e.connectionId = c

def others (c : Nat) (store : TxnStore) (id : TxnKey) : Option TxnEntry :=
  (store.get id).filter fun e => e.connectionId ≠ c

variable {store : TxnStore}

lemma own_eq_some : store.own c id = some e ↔ store.get id = some e ∧ e.connectionId = c := by
  simp [own, filter_eq_some_iff]

lemma others_eq_some : store.others c id = some e ↔ store.get id = some e ∧ e.connectionId ≠ c := by
  simp [others, filter_eq_some_iff]

lemma get_eq_own (h : store.others c id = none) : store.get id = store.own c id := by
  cases hstore : store.get id with
  | none => simp [own, hstore]
  | some e =>
    have hc : e.connectionId = c := by
      by_contra hne
      rw [others_eq_some.mpr ⟨hstore, hne⟩] at h
      cases h
    exact (own_eq_some.mpr ⟨hstore, hc⟩).symm

lemma own_sweepExpired (now : Nanos) :
    (sweepExpired now store).own c id = (store.own c id).map (sweepEntry now) := by
  unfold own
  rw [get_sweepExpired, Option.filter_map]
  simp only [Function.comp_def, sweepEntry_connectionId]

lemma others_sweepExpired (now : Nanos) :
    (sweepExpired now store).others c id = (store.others c id).map (sweepEntry now) := by
  unfold others
  rw [get_sweepExpired, Option.filter_map]
  simp only [Function.comp_def, sweepEntry_connectionId]

lemma own_insert (h : e.connectionId = c) (k : TxnKey) :
    own c (store.insert id e) k = if k = id then some e else store.own c k := by
  unfold own
  rw [get_insert]
  split
  · simp [h]
  · rfl

lemma others_insert (h : e.connectionId = c) (hid : store.others c id = none) :
    others c (store.insert id e) = store.others c := by
  funext k
  unfold others at hid ⊢
  rw [get_insert]
  split
  next hk =>
    rw [hk, hid]
    simp [h]
  · rfl

end TxnStore

structure Beside (c : Nat) (f g : TxnKey → Option TxnEntry) (a b : TxnStore) : Prop where
  own : a.own c = b.own c
  left : a.others c = f
  right : b.others c = g

structure Quiet (now : Nanos) (id : TxnKey) (f : TxnKey → Option TxnEntry) : Prop where
  unexpired {k : TxnKey} {e : TxnEntry} : f k = some e → ¬ (e.state = .active ∧ e.expiresAt ≤ now)
  session {e : TxnEntry} : f id = some e → e.connectionId ≠ 0

lemma Quiet.sweepEntry (h : Quiet now id f) (k : TxnKey) :
    (f k).map (TxnStore.sweepEntry now) = f k := by
  cases hk : f k with
  | none => rfl
  | some e => rw [map_some, TxnStore.sweepEntry, if_neg (h.unexpired hk)]

namespace Beside
variable {now : Nat} {a b : TxnStore}

lemma sweepExpired (h : Beside c f g a b) (hf : Quiet now id f) (hg : Quiet now id g) :
    Beside c f g (sweepExpired now a) (sweepExpired now b) where
  own := funext fun k => by rw [own_sweepExpired, own_sweepExpired, h.own]
  left := funext fun k => by rw [others_sweepExpired, h.left, hf.sweepEntry]
  right := funext fun k => by rw [others_sweepExpired, h.right, hg.sweepEntry]

lemma insert (h : Beside c f g a b) (he : e.connectionId = c) (hf : f id = none)
    (hg : g id = none) : Beside c f g (a.insert id e) (b.insert id e) where
  own := funext fun k => by rw [own_insert he, own_insert he, h.own]
  left := by rw [others_insert he (by rw [h.left, hf]), h.left]
  right := by rw [others_insert he (by rw [h.right, hg]), h.right]

lemma others_none (h : Beside c f g a b) (he : a.own c id = some e) :
    f id = none ∧ g id = none := by
  have hb : b.own c id = some e := by rw [← h.own, he]
  obtain ⟨ha, hc⟩ := own_eq_some.mp he
  obtain ⟨hb, -⟩ := own_eq_some.mp hb
  rw [← h.left, ← h.right]
  simp [others, ha, hb, hc]

end Beside

section
variable {act : TxnEntry → Except OpError R × TxnEntry}

lemma ownedOp_of_own_none {store : TxnStore} (hown : (sweepExpired now store).own c id = none)
    (hsess : ∀ e, (sweepExpired now store).others c id = some e → e.connectionId ≠ 0) :
    ownedOp now id c act store = (.error .txnNotFound, sweepExpired now store) := by
  unfold ownedOp
  simp only
  split
  · rfl
  next e he =>
    have hc : e.connectionId ≠ c := by
      intro hc
      have := own_eq_some.mpr ⟨he, hc⟩
      rw [hown] at this
      cases this
    have hzero := hsess e (others_eq_some.mpr ⟨he, hc⟩)
    rw [if_neg (by simp [txnOwnedBy, hc, hzero])]

lemma ownedOp_of_own {store : TxnStore} (hown : (sweepExpired now store).own c id = some e) :
    ownedOp now id c act store = ((act e).1, (sweepExpired now store).insert id (act e).2) := by
  obtain ⟨he, hc⟩ := own_eq_some.mp hown
  simp [ownedOp, he, txnOwnedBy, hc]

lemma ownedOp_triple (hact : ∀ e, (act e).2.connectionId = e.connectionId) (hf : Quiet now id f)
    (hg : Quiet now id g) : Triple (Beside c f g) (ownedOp now id c act) fun r a b =>
      Beside c f g a b ∧ (r.isOk = true → (a.own c id).isSome = true) := by
  intro x y h
  have hs := h.sweepExpired hf hg
  cases hx : (sweepExpired now x).own c id with
  | none =>
    have hy : (sweepExpired now y).own c id = none := by rw [← hs.own, hx]
    have hxe : exec (ownedOp now id c act) x = _ :=
      ownedOp_of_own_none hx fun e he => hf.session (by rw [← hs.left, he])
    have hye : exec (ownedOp now id c act) y = _ :=
      ownedOp_of_own_none hy fun e he => hg.session (by rw [← hs.right, he])
    rw [hxe, hye]
    exact ⟨rfl, hs, fun hok => by cases hok⟩
  | some e =>
    have hy : (sweepExpired now y).own c id = some e := by rw [← hs.own, hx]
    have hxe : exec (ownedOp now id c act) x = _ := ownedOp_of_own hx
    have hye : exec (ownedOp now id c act) y = _ := ownedOp_of_own hy
    have hc : (act e).2.connectionId = c := (hact e).trans (own_eq_some.mp hx).2
    obtain ⟨hfn, hgn⟩ := hs.others_none hx
    rw [hxe, hye]
    refine ⟨rfl, hs.insert hc hfn hgn, fun _ => ?_⟩
    rw [own_insert hc, if_pos rfl]
    rfl

lemma ownedOp_keeps (hact : ∀ e, (act e).2.connectionId = e.connectionId) (hf : Quiet now id f)
    (hg : Quiet now id g) : Keeps (Beside c f g) (ownedOp now id c act) :=
  (ownedOp_triple hact hf hg).mono fun _ _ _ h => h.1
end

section

lemma triple_of_exec_eq {p q : TxnM R} {Q : Except OpError R → TxnStore → TxnStore → Prop}
    (heq : ∀ store, exec p store = exec q store) (h : Triple (Beside c f g) q Q) :
    Triple (Beside c f g) p Q := by
  intro x y hxy
  rw [heq x, heq y]
  exact h hxy

lemma validateActive_keeps (hf : Quiet now id f) (hg : Quiet now id g) :
    Keeps (Beside c f g) (validateActive now id c) :=
  triple_of_exec_eq (exec_validateActive now id c)
    (ownedOp_keeps (validateEntry_connectionId now) hf hg)

lemma withBuffer_keeps (op : TxnBuffer → Except OpError (R × TxnBuffer)) (hf : Quiet now id f)
    (hg : Quiet now id g) : Keeps (Beside c f g) (withBuffer now id c op) :=
  triple_of_exec_eq (fun s => exec_withBuffer now id c s op)
    (ownedOp_keeps (bufferEntry_connectionId now op) hf hg)

lemma handleTxnAbort_keeps (hf : Quiet now id f) (hg : Quiet now id g) :
    Keeps (Beside c f g) (handleTxnAbort now id c) :=
  triple_of_exec_eq (exec_handleTxnAbort now id c)
    (ownedOp_keeps (abortEntry_connectionId id) hf hg)

lemma takeBuffer_triple (hf : Quiet now id f) (hg : Quiet now id g) :
    Triple (Beside c f g) (takeBuffer now id c) fun r a b =>
      Beside c f g a b ∧ (r.isOk = true → (a.own c id).isSome = true) :=
  triple_of_exec_eq (exec_takeBuffer now id c)
    (ownedOp_triple takeEntry_connectionId hf hg)

lemma finish_triple (state : TxnState) (response : TxnFinalResponse) :
    Triple (fun a b => Beside c f g a b ∧ (a.own c id).isSome = true)
      (finish id state response) fun _ => Beside c f g := by
  rintro x y ⟨h, hsome⟩
  obtain ⟨e, he⟩ := isSome_iff_exists.mp hsome
  have hy : y.own c id = some e := by rw [← h.own, he]
  obtain ⟨hgetx, hc⟩ := own_eq_some.mp he
  obtain ⟨hgety, -⟩ := own_eq_some.mp hy
  obtain ⟨hfn, hgn⟩ := h.others_none he
  unfold finish
  simp only [exec_bind, exec_get, hgetx, hgety, exec_set]
  exact ⟨trivial, h.insert hc hfn hgn⟩

lemma handleTxnBegin_keeps (timeoutSeconds : Nat) (actAs : Bool) (caller : Caller)
    (hf : Quiet now id f) (hg : Quiet now id g) (hfn : f id = none) (hgn : g id = none) :
    Keeps (Beside c f g) (handleTxnBegin now id timeoutSeconds actAs caller c) := by
  intro x y h
  have hs := h.sweepExpired hf hg
  have hx := get_eq_own (hs.left ▸ hfn)
  have hy := get_eq_own (hs.right ▸ hgn)
  rw [← hs.own] at hy
  cases hown : (sweepExpired now x).own c id with
  | some e =>
    rw [exec_handleTxnBegin_of_some _ _ _ _ (hx.trans hown),
      exec_handleTxnBegin_of_some _ _ _ _ (hy.trans hown)]
    exact ⟨rfl, hs⟩
  | none =>
    rw [exec_handleTxnBegin_of_none _ _ _ _ (hx.trans hown),
      exec_handleTxnBegin_of_none _ _ _ _ (hy.trans hown)]
    exact ⟨rfl, hs.insert rfl hfn hgn⟩
end

structure Apart (c : Nat) (f g : TxnKey → Option TxnEntry) (x y : TxnServer) : Prop where
  server : x.server = y.server
  txns : Beside c f g x.txns y.txns

section

def Held (c : Nat) (id : TxnKey) (f g : TxnKey → Option TxnEntry) (x y : TxnServer) : Prop :=
  Apart c f g x y ∧ (x.txns.own c id).isSome = true

lemma liftTxn_keeps {p : TxnM R} (h : Keeps (Beside c f g) p) :
    Keeps (Apart c f g) (liftTxn p) := by
  rintro x y ⟨hsrv, htxns⟩
  obtain ⟨hans, hend⟩ := h htxns
  exact ⟨hans, hsrv, hend⟩

lemma buffer_keeps (hf : Quiet now id f) (hg : Quiet now id g)
    (op : TxnBuffer → Except OpError (R × TxnBuffer)) :
    Keeps (Apart c f g) (liftTxn (withBuffer now id c op)) :=
  liftTxn_keeps (withBuffer_keeps op hf hg)

lemma liftExcept_keeps (r : Except OpError R) : Keeps (Apart c f g) (liftM r : OpsM R) :=
  fun _ _ h => ⟨rfl, h⟩

lemma reserveMemoryId_keeps : Keeps (Apart c f g) reserveMemoryId := by
  rintro x y ⟨hsrv, htxns⟩
  refine ⟨?_, ?_, htxns⟩
  · show Except.ok (MemoryId.pack x.server.shardId x.server.nextSlot 1) = _
    rw [hsrv]
    rfl
  · show x.server.reserve = y.server.reserve
    rw [hsrv]

lemma readTables_keeps : Keeps (Apart c f g) readTables := by
  rintro x y ⟨hsrv, htxns⟩
  refine ⟨?_, hsrv, htxns⟩
  show Except.ok x.server.shard.db.tables = _
  rw [hsrv]
  rfl

lemma orFalse_keeps {p : OpsM Bool} (h : Keeps (Apart c f g) p) :
    Keeps (Apart c f g) (orFalse p) := by
  intro x y hxy
  obtain ⟨hans, hend⟩ := h hxy
  have horFalse : ∀ s, exec (orFalse p) s =
      match exec p s with
      | (.ok b, s') => (.ok b, s')
      | (.error _, s') => (.ok false, s') := fun _ => rfl
  rw [horFalse, horFalse]
  rcases hx : exec p x with ⟨rx, x'⟩
  rcases hy : exec p y with ⟨ry, y'⟩
  rw [hx, hy] at hans hend
  cases hans
  cases rx with
  | ok b => exact ⟨rfl, hend⟩
  | error e => exact ⟨rfl, hend⟩

variable (hashes : TxnHashes) (env : TxnEnv) {ctx : OpsContext} (hctx : ctx.connectionId = c)
  (hf : Quiet now id f) (hg : Quiet now id g)

include hctx hf hg

lemma handleEncodeInTxn_keeps (req : EncodeRequest) :
    Keeps (Apart c f g) (handleEncodeInTxn hashes env ctx now req id) := by
  subst hctx
  refine .bind (liftExcept_keeps _) fun _ => ?_
  refine .bind (liftTxn_keeps (validateActive_keeps hf hg)) fun _ => ?_
  refine .bind (buffer_keeps hf hg _) fun replay => ?_
  cases replay with
  | some memoryId => exact .pure _
  | none =>
    refine .bind (buffer_keeps hf hg _) fun _ => ?_
    refine .bind (liftExcept_keeps _) fun vector => ?_
    refine .bind reserveMemoryId_keeps fun memoryId => ?_
    exact .bind (buffer_keeps hf hg _) fun _ => .pure _

lemma handleForgetInTxn_keeps (req : ForgetRequest) (t : Memories) :
    Keeps (Beside c f g) (handleForgetInTxn hashes.toRequestHashes ctx now req id t) := by
  subst hctx
  refine .bind (fun _ _ h => ⟨rfl, h⟩) fun _ => ?_
  refine .bind (validateActive_keeps hf hg) fun _ => ?_
  refine .bind (withBuffer_keeps _ hf hg) fun cached => ?_
  cases cached with
  | some previous => exact .pure _
  | none =>
    refine .bind (withBuffer_keeps _ hf hg) fun _ => ?_
    refine .bind (withBuffer_keeps _ hf hg) fun outcome => ?_
    exact .bind (withBuffer_keeps _ hf hg) fun _ => .pure _

lemma forgetInTxn_keeps (req : ForgetRequest) :
    Keeps (Apart c f g) (forgetInTxn hashes ctx now req id) :=
  .bind readTables_keeps fun _ => liftTxn_keeps (handleForgetInTxn_keeps hashes hctx hf hg _ _)

lemma handleLinkInTxn_keeps (req : LinkRequest) :
    Keeps (Apart c f g) (handleLinkInTxn hashes env ctx now req id) := by
  subst hctx
  refine .bind (liftExcept_keeps _) fun _ => ?_
  refine .bind (liftTxn_keeps (validateActive_keeps hf hg)) fun _ => ?_
  refine .bind (buffer_keeps hf hg _) fun cached => ?_
  cases cached with
  | some response => exact .pure _
  | none =>
    refine .bind (buffer_keeps hf hg _) fun _ => ?_
    refine .bind readTables_keeps fun tables => ?_
    refine .bind (buffer_keeps hf hg _) fun found => ?_
    refine .bind (liftExcept_keeps _) fun _ => ?_
    refine .bind (orFalse_keeps (buffer_keeps hf hg _)) fun pending => ?_
    refine .bind (orFalse_keeps (buffer_keeps hf hg _)) fun unlinked => ?_
    exact .bind (buffer_keeps hf hg _) fun _ => .pure _

lemma handleUnlinkInTxn_keeps (req : UnlinkRequest) :
    Keeps (Apart c f g) (handleUnlinkInTxn hashes ctx now req id) := by
  subst hctx
  refine .bind (liftTxn_keeps (validateActive_keeps hf hg)) fun _ => ?_
  refine .bind (buffer_keeps hf hg _) fun cached => ?_
  cases cached with
  | some response => exact .pure _
  | none =>
    refine .bind (buffer_keeps hf hg _) fun _ => ?_
    refine .bind readTables_keeps fun tables => ?_
    refine .bind (buffer_keeps hf hg _) fun pending => ?_
    refine .bind (buffer_keeps hf hg _) fun unlinked => ?_
    exact .bind (buffer_keeps hf hg _) fun _ => .pure _

lemma handleTxnCommit_keeps : Keeps (Apart c f g) (handleTxnCommit hashes ctx now id) := by
  subst hctx
  have htake : Triple (Apart ctx.connectionId f g)
      (liftTxn (takeBuffer now id ctx.connectionId)) fun r x y =>
        if r.isOk then Held ctx.connectionId id f g x y else Apart ctx.connectionId f g x y := by
    rintro x y ⟨hsrv, htxns⟩
    obtain ⟨hans, hend, hown⟩ := takeBuffer_triple hf hg htxns
    refine ⟨hans, ?_⟩
    show if (exec (takeBuffer now id ctx.connectionId) x.txns).1.isOk then
      Held ctx.connectionId id f g _ _ else Apart ctx.connectionId f g _ _
    split
    next hok => exact ⟨⟨hsrv, hend⟩, hown hok⟩
    · exact ⟨hsrv, hend⟩
  have hfinish : ∀ state response, Triple (Held ctx.connectionId id f g)
      (liftTxn (finish id state response)) fun _ => Apart ctx.connectionId f g := by
    rintro state response x y ⟨⟨hsrv, htxns⟩, hown⟩
    obtain ⟨hans, hend⟩ := finish_triple state response ⟨htxns, hown⟩
    exact ⟨hans, hsrv, hend⟩
  have hsub : ∀ w, Keeps (Held ctx.connectionId id f g) (submitWrite now w) := by
    rintro w x y ⟨⟨hsrv, htxns⟩, hown⟩
    refine ⟨?_, ⟨?_, htxns⟩, hown⟩
    · show Except.ok (submit substrateEngine now w x.server.shard).1 = _
      rw [hsrv]
      rfl
    · show x.server.submit now w = y.server.submit now w
      rw [hsrv]
  unfold handleTxnCommit
  refine bind htake (fun taken => ?_) fun _ _ _ h => h
  change Triple (Held ctx.connectionId id f g) _ _
  rcases taken with ⟨committedAt, ops⟩ | ⟨buffer, delegated⟩
  · exact fun _ _ h => ⟨rfl, h.1⟩
  · -- the write of the commit, and its outcome on the entry
    simp only
    split
    · refine bind (hfinish _ _) (fun _ => ?_) fun _ _ _ h => h
      exact fun _ _ h => ⟨rfl, h⟩
    · refine bind (hsub _) (fun result => ?_) fun _ _ _ h => h.1
      cases result with
      | error e => exact bind (hfinish _ _) (fun _ => Keeps.throw _) fun _ _ _ h => h
      | ok ack => exact bind (hfinish _ _) (fun _ => Keeps.pure _) fun _ _ _ h => h
end

section
variable (hashes : TxnHashes) (env : TxnEnv) (c : Nat)

def runCalls : List TxnCall → TxnServer → List (Except OpError TxnResponse) × TxnServer
  | [], x => ([], x)
  | call :: calls, x =>
    let out := exec (call.handle hashes env c) x
    let rest := runCalls calls out.2
    (out.1 :: rest.1, rest.2)

def TxnServer.Usable (x : TxnServer) (id : TxnKey) : Prop :=
  ∃ e, x.txns.own c id = some e ∧ e.state = .active ∧ e.buffer.isSome = true

structure TxnCall.Blind (call : TxnCall) (x : TxnServer) : Prop where
  quiet : Quiet call.now call.txnId (x.txns.others c)
  unused {timeoutSeconds : Nat} {actAs : Bool} : call.request = .txnBegin timeoutSeconds actAs →
    x.txns.others c call.txnId = none
  unfinished {timeoutSeconds : Nat} {actAs : Bool} {e : TxnEntry} :
    call.request = .txnBegin timeoutSeconds actAs → x.txns.own c call.txnId = some e →
      e.state = .active ∧ call.now < e.expiresAt ∧ e.buffer.isSome = true

def BlindRun : List TxnCall → TxnServer → Prop
  | [], _ => True
  | call :: calls, x =>
    call.Blind c x ∧ BlindRun calls (exec (call.handle hashes env c) x).2

def BeginsUsable : List TxnCall → TxnServer → Prop
  | [], _ => True
  | call :: calls, x =>
    (∀ r, (exec (call.handle hashes env c) x).1 = .ok (.txnBegin r) →
      (exec (call.handle hashes env c) x).2.Usable c call.txnId) ∧
    BeginsUsable calls (exec (call.handle hashes env c) x).2

variable {hashes env c} {call : TxnCall} {r : TxnBeginResponse}

lemma TxnCall.handle_keeps (hf : Quiet call.now call.txnId f) (hg : Quiet call.now call.txnId g)
    (hbegin : ∀ timeoutSeconds actAs, call.request = .txnBegin timeoutSeconds actAs →
      f call.txnId = none ∧ g call.txnId = none) :
    Keeps (Apart c f g) (call.handle hashes env c) := by
  have hctx : (⟨call.caller, c, call.forgetWithinBudget⟩ : OpsContext).connectionId = c := rfl
  unfold handle
  split
  next timeoutSeconds actAs hreq =>
    obtain ⟨hfn, hgn⟩ := hbegin _ _ hreq
    exact .bind (liftTxn_keeps (handleTxnBegin_keeps _ _ _ hf hg hfn hgn)) fun _ => .pure _
  · exact .bind (handleEncodeInTxn_keeps hashes env hctx hf hg _) fun _ => .pure _
  · exact .bind (forgetInTxn_keeps hashes hctx hf hg _) fun _ => .pure _
  · exact .bind (handleLinkInTxn_keeps hashes env hctx hf hg _) fun _ => .pure _
  · exact .bind (handleUnlinkInTxn_keeps hashes hctx hf hg _) fun _ => .pure _
  · exact .bind (handleTxnCommit_keeps hashes hctx hf hg) fun _ => .pure _
  · exact .bind (liftTxn_keeps (handleTxnAbort_keeps hf hg)) fun _ => .pure _

lemma TxnCall.request_of_txnBegin {x : TxnServer}
    (hok : (exec (call.handle hashes env c) x).1 = .ok (.txnBegin r)) :
    ∃ timeoutSeconds actAs, call.request = .txnBegin timeoutSeconds actAs := by
  have hnot : ∀ {R : Type} {p : OpsM R} {k : R → TxnResponse}, (∀ a, k a ≠ .txnBegin r) →
      (exec (p >>= fun a => pure (k a)) x).1 ≠ .ok (.txnBegin r) := by
    intro R p k hk h
    rw [exec_bind_pure] at h
    obtain ⟨a, -, ha⟩ := ExceptLemmas.map_ok h
    exact hk a ha
  unfold handle at hok
  cases hreq : call.request with
  | txnBegin timeoutSeconds actAs => exact ⟨timeoutSeconds, actAs, rfl⟩
  | _ =>
    rw [hreq] at hok
    exact absurd hok (hnot fun _ => TxnResponse.noConfusion)

lemma TxnCall.Blind.begin_usable {x : TxnServer} (h : call.Blind c x)
    (hok : (exec (call.handle hashes env c) x).1 = .ok (.txnBegin r)) :
    (exec (call.handle hashes env c) x).2.Usable c call.txnId := by
  obtain ⟨timeoutSeconds, actAs, hreq⟩ := request_of_txnBegin hok
  have hothers : (sweepExpired call.now x.txns).others c call.txnId = none := by
    rw [others_sweepExpired, h.unused hreq]
    rfl
  have hget := get_eq_own hothers
  have hend : (exec (call.handle hashes env c) x).2.txns =
      (exec (handleTxnBegin call.now call.txnId timeoutSeconds actAs call.caller c) x.txns).2 := by
    unfold handle
    simp only [hreq, exec_bind_pure]
    rfl
  unfold TxnServer.Usable
  rw [hend]
  cases hown : (sweepExpired call.now x.txns).own c call.txnId with
  | none =>
    rw [exec_handleTxnBegin_of_none _ _ _ _ (hget.trans hown)]
    refine ⟨_, own_eq_some.mpr ⟨get_insert_self _ _ _, rfl⟩, rfl, rfl⟩
  | some e =>
    rw [exec_handleTxnBegin_of_some _ _ _ _ (hget.trans hown)]
    refine ⟨e, hown, ?_⟩
    rw [own_sweepExpired] at hown
    obtain ⟨e', he', rfl⟩ := map_eq_some_iff.mp hown
    obtain ⟨hactive, hexpires, hbuf⟩ := h.unfinished hreq he'
    have hsame : sweepEntry call.now e' = e' := if_neg fun hexp =>
      absurd hexp.2 (Nat.not_le.mpr hexpires)
    rw [hsame]
    exact ⟨hactive, hbuf⟩

lemma TxnCall.Blind.others_handle {x : TxnServer} (h : call.Blind c x) :
    (exec (call.handle hashes env c) x).2.txns.others c = x.txns.others c := by
  have hkeeps : Keeps (Apart c (x.txns.others c) (x.txns.others c)) (call.handle hashes env c) :=
    TxnCall.handle_keeps h.quiet h.quiet fun _ _ hreq => ⟨h.unused hreq, h.unused hreq⟩
  exact (hkeeps ⟨rfl, rfl, rfl, rfl⟩).2.txns.left

lemma BlindRun.of_quiet {x : TxnServer} {calls : List TxnCall}
    (h : ∀ call ∈ calls, Quiet call.now call.txnId (x.txns.others c) ∧
      ∀ timeoutSeconds actAs, call.request ≠ .txnBegin timeoutSeconds actAs) :
    BlindRun hashes env c calls x := by
  induction calls generalizing x with
  | nil => trivial
  | cons call calls ih =>
    obtain ⟨hquiet, hnot⟩ := h call mem_cons_self
    have hblind : call.Blind c x :=
      ⟨hquiet, fun hreq => absurd hreq (hnot _ _), fun hreq => absurd hreq (hnot _ _)⟩
    refine ⟨hblind, ih fun call' hmem => ?_⟩
    rw [hblind.others_handle]
    exact h call' (mem_cons_of_mem _ hmem)

/-- In a run of blind requests a connection gets the answers it would get beside any other
transactions of others, which it leaves as they are, and an acknowledged begin leaves it a
transaction it can use. -/
theorem txns_of_others_invisible {x y : TxnServer} {calls : List TxnCall}
    (hsrv : x.server = y.server) (hown : x.txns.own c = y.txns.own c)
    (hx : BlindRun hashes env c calls x) (hy : BlindRun hashes env c calls y) :
    (runCalls hashes env c calls x).1 = (runCalls hashes env c calls y).1 ∧
      (runCalls hashes env c calls x).2.txns.others c = x.txns.others c ∧
      (runCalls hashes env c calls y).2.txns.others c = y.txns.others c ∧
      BeginsUsable hashes env c calls x ∧ BeginsUsable hashes env c calls y := by
  induction calls generalizing x y with
  | nil => exact ⟨rfl, rfl, rfl, trivial, trivial⟩
  | cons call calls ih =>
    have hsep : Apart c (x.txns.others c) (y.txns.others c) x y := ⟨hsrv, hown, rfl, rfl⟩
    have hkeeps : Keeps (Apart c (x.txns.others c) (y.txns.others c)) (call.handle hashes env c) :=
      TxnCall.handle_keeps hx.1.quiet hy.1.quiet
        fun _ _ hreq => ⟨hx.1.unused hreq, hy.1.unused hreq⟩
    obtain ⟨hans, hend⟩ := hkeeps hsep
    obtain ⟨hrest, hleft, hright, husex, husey⟩ := ih hend.server hend.txns.own hx.2 hy.2
    rw [hend.txns.left] at hleft
    rw [hend.txns.right] at hright
    refine ⟨?_, hleft, hright, ⟨fun _ hok => hx.1.begin_usable hok, husex⟩,
      fun _ hok => hy.1.begin_usable hok, husey⟩
    simp only [runCalls, hans, hrest]
end

def sevenOpen : TxnServer :=
  ⟨Server.fresh 0, Table.empty.insert 5 (.opened 1 30 none 7)⟩

def noneOpen : TxnServer := ⟨Server.fresh 0, Table.empty⟩

def beginCall (txnId : TxnKey) : TxnCall :=
  { now := 2, caller := ⟨⟨1, 1⟩, ""⟩, forgetWithinBudget := fun _ => true, txnId
    request := .txnBegin 60 false }

lemma sevenOpen_get (h : sevenOpen.txns.get id = some e) : id = 5 ∧ e = .opened 1 30 none 7 := by
  by_cases hid : id = 5
  · subst hid
    exact ⟨rfl, (Option.some.inj h).symm⟩
  · rw [sevenOpen, get_insert_ne _ _ hid] at h
    cases h

lemma sevenOpen_own (id : TxnKey) : sevenOpen.txns.own 9 id = none := by
  cases h : sevenOpen.txns.own 9 id with
  | none => rfl
  | some e =>
    obtain ⟨hget, hc⟩ := own_eq_some.mp h
    rw [(sevenOpen_get hget).2] at hc
    exact absurd hc (by decide)

def wholeTxn : List TxnCall :=
  [beginCall 6, { beginCall 6 with now := 3, request := .encode ⟨"tea at noon", 0, 4, none, false⟩ },
    { beginCall 6 with now := 4, request := .txnCommit }]

lemma sevenOpen_quiet (hnow : now < 1000) (hid : id ≠ 5) : Quiet now id (sevenOpen.txns.others 9) := by
  refine ⟨fun hk => ?_, fun hoth => ?_⟩
  · rw [(sevenOpen_get (others_eq_some.mp hk).1).2]
    exact fun hexp => absurd (hexp.2.trans_lt hnow) (by decide)
  · exact absurd (sevenOpen_get (others_eq_some.mp hoth).1).1 hid

lemma noneOpen_quiet : Quiet now id (noneOpen.txns.others 9) :=
  ⟨fun h => (Option.some_ne_none _ h.symm).elim, fun h => (Option.some_ne_none _ h.symm).elim⟩

lemma wholeTxn_blind {x : TxnServer} (hunused : x.txns.others 9 6 = none)
    (hown : x.txns.own 9 6 = none)
    (hquiet : ∀ now < 1000, Quiet now 6 (x.txns.others 9)) :
    BlindRun noHashes zeroEnv 9 wholeTxn x := by
  have hbegin : (beginCall 6).Blind 9 x :=
    ⟨hquiet 2 (by decide), fun _ => hunused, fun _ he => absurd (hown.symm.trans he) (by simp)⟩
  refine ⟨hbegin, .of_quiet fun call hmem => ?_⟩
  rw [hbegin.others_handle]
  rcases mem_pair.mp hmem with rfl | rfl
  · exact ⟨hquiet 3 (by decide), fun _ _ => TxnRequest.noConfusion⟩
  · exact ⟨hquiet 4 (by decide), fun _ _ => TxnRequest.noConfusion⟩

theorem txn_beside_other : (runCalls noHashes zeroEnv 9 wholeTxn sevenOpen).1 =
        (runCalls noHashes zeroEnv 9 wholeTxn noneOpen).1 ∧
      (runCalls noHashes zeroEnv 9 wholeTxn sevenOpen).2.txns.others 9 =
        sevenOpen.txns.others 9 := by
  have hall := @txns_of_others_invisible noHashes zeroEnv 9 sevenOpen noneOpen wholeTxn rfl
    (funext sevenOpen_own)
    (wholeTxn_blind rfl (sevenOpen_own 6) fun _ hnow => sevenOpen_quiet hnow (by decide))
    (wholeTxn_blind rfl rfl fun _ _ => noneOpen_quiet)
  exact ⟨hall.1, hall.2.1⟩

example : (runCalls noHashes zeroEnv 9 wholeTxn noneOpen).1.map (fun r => r.toOption.isSome) =
    [true, true, true] := rfl

/-- Connection 9 begins transaction 5 as well: it is told the start and the timeout of the other
connection's transaction, and has none of its own. -/
theorem begin_answers_for_other :
    (sevenOpen.server = noneOpen.server ∧ sevenOpen.txns.own 9 = noneOpen.txns.own 9) ∧
      (runCalls noHashes zeroEnv 9 [beginCall 5] sevenOpen).1 = [.ok (.txnBegin ⟨5, 30, 1⟩)] ∧
      (runCalls noHashes zeroEnv 9 [beginCall 5] noneOpen).1 = [.ok (.txnBegin ⟨5, 60, 2⟩)] ∧
      (runCalls noHashes zeroEnv 9 [beginCall 5] sevenOpen).2.txns.own 9 5 = none :=
  ⟨⟨rfl, funext sevenOpen_own⟩, rfl, rfl, rfl⟩

end BrainDb
