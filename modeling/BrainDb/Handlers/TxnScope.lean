import BrainDb.Handlers.TxnEntry
import BrainDb.Handlers.TxnOps

namespace BrainDb
open TxnStore
open List Option Table
open Program TxnStore TxnBuffer Spec

inductive TxnEvent where
  | call (connectionId : Nat) (call : TxnCall)
  | shard (change : Server → Server)

variable (txnId : TxnKey)

def TxnCall.accepted (call : TxnCall) :
    Except OpError TxnResponse → List (MemoryId × RowScope)
  | .ok (.encode r) =>
    if call.txnId = txnId then [(r.memoryId, ⟨call.caller.scope.namespaceId, r.spaceId⟩)] else []
  | _ => []

def runEvents (hashes : TxnHashes) (env : TxnEnv) (txnId : TxnKey) :
    List TxnEvent → TxnServer → List (MemoryId × RowScope) × TxnServer
  | [], x => ([], x)
  | .call c call :: events, x =>
    let out := exec (call.handle hashes env c) x
    let rest := runEvents hashes env txnId events out.2
    (call.accepted txnId out.1 ++ rest.1, rest.2)
  | .shard change :: events, x =>
    runEvents hashes env txnId events { x with server := change x.server }

variable (b : TxnBuffer)

def TxnBuffer.encodedIds : List MemoryId := b.encodes.map BufferedEncode.memoryId

structure HoldsEncodes (delegated : Option Caller) (ids : List MemoryId) (e : TxnEntry) : Prop where
  identity : e.delegated = delegated
  buffered {b : TxnBuffer} {id : MemoryId} : e.buffer = some b → id ∈ ids → id ∈ b.encodedIds
  cached {b : TxnBuffer} {r : RequestId} {id : MemoryId} : e.buffer = some b →
    b.requestIdCache.get r = some (.encode id) → id ∈ b.encodedIds

def TxnBuffer.SameEncodes (b b' : TxnBuffer) : Prop :=
  b'.encodes = b.encodes ∧ ∀ r id, b'.requestIdCache.get r = some (.encode id) →
    b.requestIdCache.get r = some (.encode id)

lemma TxnBuffer.SameEncodes.refl : b.SameEncodes b := ⟨rfl, fun _ _ h => h⟩

variable {b : TxnBuffer} {requestId : RequestId} {b' : TxnBuffer}

lemma TxnBuffer.SameEncodes.remember {replay : BufferedReplay}
    (hrep : ∀ id, replay ≠ .encode id) (henc : b'.encodes = b.encodes)
    (hcache : b'.requestIdCache = b.requestIdCache.insert requestId replay) : b.SameEncodes b' := by
  refine ⟨henc, fun r id hr => ?_⟩
  rw [hcache, get_insert] at hr
  split at hr
  · exact absurd (Option.some.inj hr) (hrep id)
  · exact hr

namespace HoldsEncodes
variable {delegated : Option Caller} {ids : List MemoryId} {e : TxnEntry}

lemma dropBuffer (h : HoldsEncodes delegated ids e) {e' : TxnEntry} (hd : e'.delegated = e.delegated)
    (hb : e'.buffer = none) : HoldsEncodes delegated ids e' := by
  refine ⟨hd.trans h.identity, fun hb' _ => ?_, fun hb' _ => ?_⟩
  · rw [hb] at hb'
    cases hb'
  · rw [hb] at hb'
    cases hb'

lemma of_eq (h : HoldsEncodes delegated ids e) {e' : TxnEntry} (hd : e'.delegated = e.delegated)
    (hb : e'.buffer = e.buffer) : HoldsEncodes delegated ids e' :=
  ⟨hd.trans h.identity, fun hb' => h.buffered (hb ▸ hb'), fun hb' => h.cached (hb ▸ hb')⟩

lemma sweepEntry (h : HoldsEncodes delegated ids e) (now : Nanos) :
    HoldsEncodes delegated ids (TxnStore.sweepEntry now e) := by
  unfold TxnStore.sweepEntry
  split
  · exact h.dropBuffer rfl rfl
  · exact h

lemma mono (h : HoldsEncodes delegated ids e) {ids' : List MemoryId} (hsub : ∀ id ∈ ids', id ∈ ids) :
    HoldsEncodes delegated ids' e :=
  { h with buffered := fun hb hid => h.buffered hb (hsub _ hid) }

lemma withBuffer (h : HoldsEncodes delegated ids e) (hb : e.buffer = some b)
    (hsame : b.SameEncodes b') (expiresAt : Nanos) :
    HoldsEncodes delegated ids { e with buffer := some b', expiresAt } where
  identity := h.identity
  buffered hb' hid := by
    cases hb'
    rw [encodedIds, hsame.1]
    exact h.buffered hb hid
  cached hb' hr := by
    cases hb'
    rw [encodedIds, hsame.1]
    exact h.cached hb (hsame.2 _ _ hr)

lemma push (h : HoldsEncodes delegated ids e) (hb : e.buffer = some b) (requestId : RequestId)
    (requestHash : Digest) (encode : BufferedEncode) (expiresAt : Nanos) :
    HoldsEncodes delegated (encode.memoryId :: ids)
      { e with
        buffer := some { b.remember requestId requestHash (.encode encode.memoryId) with
          encodes := b.encodes ++ [encode] }
        expiresAt } where
  identity := h.identity
  buffered hb' hid := by
    cases hb'
    simp only [encodedIds, map_append, mem_append, map_cons, map_nil, mem_singleton]
    rcases mem_cons.mp hid with rfl | hid
    · exact .inr rfl
    · exact .inl (h.buffered hb hid)
  cached hb' hr := by
    cases hb'
    simp only [encodedIds, map_append, mem_append, map_cons, map_nil, mem_singleton]
    simp only [remember, get_insert] at hr
    split at hr
    · cases hr
      exact .inr rfl
    · exact .inl (h.cached hb hr)

lemma takeEntry (h : HoldsEncodes delegated ids e) :
    HoldsEncodes delegated ids (TxnStore.takeEntry e).2 := by
  unfold TxnStore.takeEntry
  split
  · exact h
  · split
    · exact h.dropBuffer rfl rfl
    · exact h

lemma abortEntry (h : HoldsEncodes delegated ids e) (id : TxnKey) :
    HoldsEncodes delegated ids (TxnStore.abortEntry id e).2 := by
  unfold TxnStore.abortEntry
  split
  · exact h
  · split
    · exact h.dropBuffer rfl rfl
    · exact h

end HoldsEncodes

def Holding (delegated : Option Caller) (ids : List MemoryId) (x : TxnServer) : Prop :=
  ∃ e, x.txns.get txnId = some e ∧ HoldsEncodes delegated ids e

def bufferedAfter {R : Type} (ids : List MemoryId) (added : R → List MemoryId) :
    Except OpError R → List MemoryId
  | .ok r => added r ++ ids
  | .error _ => ids

section
variable {txnId id : TxnKey} {c : Nat} {delegated : Option Caller} {ids : List MemoryId}
  {now : Nanos} {R : Type}

abbrev KeepsHeld (txnId : TxnKey) (delegated : Option Caller) (ids : List MemoryId) (p : OpsM R) :
    Prop :=
  Spec (Holding txnId delegated ids) p fun _ => Holding txnId delegated ids

lemma KeepsHeld.bind {T : Type} {p : OpsM R} {q : R → OpsM T} (hp : KeepsHeld txnId delegated ids p)
    (hq : ∀ a, KeepsHeld txnId delegated ids (q a)) : KeepsHeld txnId delegated ids (p >>= q) :=
  Spec.bind hp hq fun _ _ h => h

lemma keepsHeld_of_txns {p : OpsM R} (h : ∀ x, (exec p x).2.txns = x.txns) :
    KeepsHeld txnId delegated ids p := by
  rintro x ⟨e, he, htracks⟩
  exact ⟨e, by rw [h, he], htracks⟩

variable {p : TxnM R} {act : TxnEntry → Except OpError R × TxnEntry}
  {f : TxnBuffer → Except OpError (R × TxnBuffer)} {requestHash : Digest}

lemma ownedOp_spec (hp : ∀ store, exec p store = exec (ownedOp now id c act) store)
    {after : Except OpError R → List MemoryId} (hrefused : after (.error .txnNotFound) = ids)
    (hoth : id ≠ txnId → ∀ r, after r = ids)
    (hact : id = txnId → ∀ e, HoldsEncodes delegated ids e →
      HoldsEncodes delegated (after (act e).1) (act e).2) :
    Spec (Holding txnId delegated ids) (liftTxn p) fun r => Holding txnId delegated (after r) := by
  rintro x ⟨e, he, htracks⟩
  have hswept := htracks.sweepEntry now
  have hget : (sweepExpired now x.txns).get txnId = some (sweepEntry now e) := by
    rw [get_sweepExpired, he]
    rfl
  show Holding txnId delegated (after (exec p x.txns).1) { x with txns := (exec p x.txns).2 }
  rw [hp]
  show Holding txnId delegated (after (ownedOp now id c act x.txns).1)
    { x with txns := (ownedOp now id c act x.txns).2 }
  by_cases hid : id = txnId
  · subst hid
    unfold ownedOp
    simp only [hget]
    split
    · exact ⟨_, get_insert_self _ _ _, hact rfl _ hswept⟩
    · exact ⟨_, hget, by rwa [hrefused]⟩
  · rw [hoth hid]
    unfold ownedOp
    simp only
    split
    · exact ⟨_, hget, hswept⟩
    · split
      · exact ⟨_, (get_insert_ne _ _ (Ne.symm hid)).trans hget, hswept⟩
      · exact ⟨_, hget, hswept⟩

lemma ownedOp_keepsHeld (hp : ∀ store, exec p store = exec (ownedOp now id c act) store)
    (hact : ∀ e, HoldsEncodes delegated ids e → HoldsEncodes delegated ids (act e).2) :
    KeepsHeld txnId delegated ids (liftTxn p) :=
  @ownedOp_spec txnId id c delegated ids now R p act hp (fun _ => ids) rfl (fun _ _ => rfl)
    fun _ => hact

lemma validateActive_keepsHeld :
    KeepsHeld txnId delegated ids (liftTxn (validateActive now id c)) := by
  refine ownedOp_keepsHeld (exec_validateActive now id c) fun e h => ?_
  rcases validateEntry_cases now e with ⟨err, heq⟩ | ⟨t, heq⟩
  · rw [heq]
    exact h
  · rw [heq]
    exact h.of_eq rfl rfl

lemma withBuffer_spec {added : R → List MemoryId} (hoth : id ≠ txnId → ∀ r, added r = [])
    (hf : id = txnId → ∀ {e b r b'}, HoldsEncodes delegated ids e → e.buffer = some b →
      f b = .ok (r, b') → ∀ expiresAt,
        HoldsEncodes delegated (added r ++ ids) { e with buffer := some b', expiresAt }) :
    Spec (Holding txnId delegated ids) (liftTxn (withBuffer now id c f))
      fun r => Holding txnId delegated (bufferedAfter ids added r) := by
  refine ownedOp_spec (fun store => exec_withBuffer now id c store f) rfl
    (fun hne r => ?_) fun hid e h => ?_
  · cases r with
    | ok r => rw [bufferedAfter, hoth hne, nil_append]
    | error err => rfl
  · rcases bufferEntry_cases now f e with ⟨err, heq⟩ | ⟨b, r, b', t, hb, hfb, heq⟩
    · rw [heq]
      exact h
    · rw [heq]
      exact hf hid h hb hfb t

lemma withBuffer_keepsHeld (hf : ∀ {b r b'}, f b = .ok (r, b') → b.SameEncodes b') :
    KeepsHeld txnId delegated ids (liftTxn (withBuffer now id c f)) := by
  refine ownedOp_keepsHeld (fun store => exec_withBuffer now id c store f) fun e h => ?_
  rcases bufferEntry_cases now f e with ⟨err, heq⟩ | ⟨b, r, b', t, hb, hfb, heq⟩
  · rw [heq]
    exact h
  · rw [heq]
    exact h.withBuffer hb (hf hfb) t

lemma checkReplay_buffer {message : String} {cached : BufferedReplay → Option R} {r : Option R}
    (h : checkReplay requestId requestHash message cached b = .ok (r, b')) :
    b' = b ∧ (r = none ∨ r = (b.requestIdCache.get requestId).bind cached) := by
  unfold checkReplay at h
  split at h
  · split at h
    · cases h
    · cases h
      exact ⟨rfl, .inr rfl⟩
  · cases h
    exact ⟨rfl, .inl rfl⟩

lemma checkReplay_keepsHeld (requestId : RequestId) (requestHash : Digest) (message : String)
    (cached : BufferedReplay → Option R) :
    KeepsHeld txnId delegated ids (liftTxn (withBuffer now id c
      (checkReplay requestId requestHash message cached))) := by
  refine withBuffer_keepsHeld fun {b r b'} h => ?_
  rw [(checkReplay_buffer h).1]
  exact .refl b

lemma checkReplay_holding {message : String} {cached : BufferedReplay → Option MemoryId}
    (hcached : ∀ replay memoryId, cached replay = some memoryId → replay = .encode memoryId) :
    Spec (Holding txnId delegated ids)
      (liftTxn (withBuffer now id c (checkReplay requestId requestHash message cached)))
      fun r => Holding txnId delegated
        (bufferedAfter ids (fun replay => if id = txnId then replay.toList else []) r) := by
  refine withBuffer_spec (fun hne _ => if_neg hne) fun hid {e b r b'} h hb hcheck t => ?_
  obtain ⟨rfl, hr⟩ := checkReplay_buffer hcheck
  refine { h.withBuffer hb (.refl b') t with buffered := fun hb' hmem => ?_ }
  cases hb'
  rw [if_pos hid] at hmem
  rcases mem_append.mp hmem with hmem | hmem
  · rcases hr with rfl | hr
    · cases hmem
    · rw [mem_toList, hr] at hmem
      obtain ⟨replay, hrep, hmem⟩ := bind_eq_some_iff.mp hmem
      cases hcached _ _ hmem
      exact h.cached hb hrep
  · exact h.buffered hb hmem

lemma checkCapacity_keepsHeld :
    KeepsHeld txnId delegated ids (liftTxn (withBuffer now id c fun buffer =>
      buffer.checkCapacityForPush.map fun _ => ((), buffer))) := by
  refine withBuffer_keepsHeld fun {b r b'} h => ?_
  obtain ⟨_, -, heq⟩ := ExceptLemmas.map_ok h
  cases heq
  exact .refl b

lemma peek_keepsHeld (look : TxnBuffer → R) :
    KeepsHeld txnId delegated ids (liftTxn (withBuffer now id c fun buffer =>
      .ok (look buffer, buffer))) := by
  refine withBuffer_keepsHeld fun {b r b'} h => ?_
  cases h
  exact .refl b

lemma orFalse_keepsHeld {p : OpsM Bool} (h : KeepsHeld txnId delegated ids p) :
    KeepsHeld txnId delegated ids (orFalse p) := by
  intro x hx
  have hend := h hx
  have horFalse : exec (orFalse p) x =
      match exec p x with
      | (.ok b, x') => (.ok b, x')
      | (.error _, x') => (.ok false, x') := rfl
  rw [horFalse]
  rcases hp : exec p x with ⟨r, x'⟩
  rw [hp] at hend
  cases r with
  | ok b => exact hend
  | error e => exact hend

lemma liftExcept_keepsHeld (r : Except OpError R) :
    KeepsHeld txnId delegated ids (liftM r : OpsM R) :=
  keepsHeld_of_txns fun _ => rfl

lemma pure_keepsHeld (r : R) : KeepsHeld txnId delegated ids (pure r : OpsM R) := fun _ h => h

lemma readTables_keepsHeld : KeepsHeld txnId delegated ids readTables :=
  keepsHeld_of_txns fun _ => rfl

lemma liftTxn_bind_keepsHeld {T : Type} {q : R → TxnM T}
    (hp : KeepsHeld txnId delegated ids (liftTxn p))
    (hq : ∀ a, KeepsHeld txnId delegated ids (liftTxn (q a))) :
    KeepsHeld txnId delegated ids (liftTxn (p >>= q)) := by
  intro x hx
  have hend := hp hx
  change Holding txnId delegated ids { x with txns := (exec p x.txns).2 } at hend
  show Holding txnId delegated ids { x with txns := (exec (p >>= q) x.txns).2 }
  rw [exec_bind]
  rcases hp' : exec p x.txns with ⟨r, store⟩
  rw [hp'] at hend
  cases r with
  | ok a => exact hq a hend
  | error e => exact hend

variable (hashes : TxnHashes) (env : TxnEnv) (ctx : OpsContext)

lemma handleEncodeInTxn_spec (req : EncodeRequest) :
    Spec (Holding txnId delegated ids) (handleEncodeInTxn hashes env ctx now req id)
      fun r => Holding txnId delegated
        (bufferedAfter ids (fun response => if id = txnId then [response.memoryId] else []) r) := by
  refine bind (liftExcept_keepsHeld _) (fun _ => ?_) fun _ _ h => h
  refine bind validateActive_keepsHeld (fun _ => ?_) fun _ _ h => h
  refine bind (checkReplay_holding ?_) (fun replay => ?_) fun _ _ h => h
  · intro replay memoryId hcached
    cases replay with
    | encode id =>
      cases hcached
      rfl
    | _ => cases hcached
  cases replay with
  | some memoryId => exact fun _ h => h
  | none =>
    have hnone : bufferedAfter ids (fun replay : Option MemoryId =>
        if id = txnId then replay.toList else []) (.ok none) = ids := by
      simp [bufferedAfter]
    rw [hnone]
    refine bind checkCapacity_keepsHeld (fun _ => ?_) fun _ _ h => h
    refine bind (liftExcept_keepsHeld _) (fun vector => ?_) fun _ _ h => h
    have hreserve : KeepsHeld txnId delegated ids reserveMemoryId := keepsHeld_of_txns fun _ => rfl
    refine bind hreserve (fun memoryId => ?_) fun _ _ h => h
    have hpush : Spec (Holding txnId delegated ids)
        (liftTxn (withBuffer now id ctx.connectionId fun buffer =>
          .ok ((), { buffer.remember req.requestId (encodeRequestHash hashes env ctx req)
              (.encode memoryId) with
            encodes := buffer.encodes ++ [bufferedEncode hashes env ctx now req memoryId vector] })))
        fun r => Holding txnId delegated
          (bufferedAfter ids (fun _ => if id = txnId then [memoryId] else []) r) := by
      refine withBuffer_spec (fun hne _ => if_neg hne) fun hid {e b r b'} h hb hpushed t => ?_
      cases hpushed
      rw [if_pos hid]
      exact h.push hb _ _ (bufferedEncode hashes env ctx now req memoryId vector) t
    exact bind hpush (fun _ _ h => h) fun _ _ h => h

variable (req : ForgetRequest)

lemma handleForgetInTxn_keepsHeld (t : Memories) : KeepsHeld txnId delegated ids
      (liftTxn (handleForgetInTxn hashes.toRequestHashes ctx now req id t)) := by
  refine liftTxn_bind_keepsHeld (keepsHeld_of_txns fun _ => rfl) fun _ => ?_
  refine liftTxn_bind_keepsHeld validateActive_keepsHeld fun _ => ?_
  refine liftTxn_bind_keepsHeld (withBuffer_keepsHeld fun {b r b'} h => ?_) fun cached => ?_
  · split at h
    · split at h
      · cases h
      · split at h
        · cases h
          exact .refl b
        · cases h
          exact .refl b
    · cases h
      exact .refl b
  · cases cached with
    | some previous => exact pure_keepsHeld _
    | none =>
      refine liftTxn_bind_keepsHeld checkCapacity_keepsHeld fun _ => ?_
      refine liftTxn_bind_keepsHeld (peek_keepsHeld _) fun outcome => ?_
      refine liftTxn_bind_keepsHeld (withBuffer_keepsHeld fun {b r b'} h => ?_) fun _ =>
        pure_keepsHeld _
      cases h
      exact .remember (fun _ h => by cases h) rfl rfl

lemma forgetInTxn_keepsHeld : KeepsHeld txnId delegated ids (forgetInTxn hashes ctx now req id) :=
  readTables_keepsHeld.bind fun _ => handleForgetInTxn_keepsHeld hashes ctx _ _

lemma handleLinkInTxn_keepsHeld (req : LinkRequest) :
    KeepsHeld txnId delegated ids (handleLinkInTxn hashes env ctx now req id) := by
  refine (liftExcept_keepsHeld _).bind fun _ => ?_
  refine validateActive_keepsHeld.bind fun _ => ?_
  refine (checkReplay_keepsHeld _ _ _ _).bind fun cached => ?_
  cases cached with
  | some response => exact pure_keepsHeld _
  | none =>
    refine checkCapacity_keepsHeld.bind fun _ => ?_
    refine readTables_keepsHeld.bind fun tables => ?_
    refine (peek_keepsHeld _).bind fun found => ?_
    refine (liftExcept_keepsHeld _).bind fun _ => ?_
    refine (orFalse_keepsHeld (peek_keepsHeld _)).bind fun pending => ?_
    refine (orFalse_keepsHeld (peek_keepsHeld _)).bind fun unlinked => ?_
    refine KeepsHeld.bind (withBuffer_keepsHeld fun {b r b'} h => ?_) fun _ => pure_keepsHeld _
    cases h
    exact .remember (fun _ h => by cases h) rfl rfl

lemma handleUnlinkInTxn_keepsHeld (req : UnlinkRequest) :
    KeepsHeld txnId delegated ids (handleUnlinkInTxn hashes ctx now req id) := by
  refine validateActive_keepsHeld.bind fun _ => ?_
  refine (checkReplay_keepsHeld _ _ _ _).bind fun cached => ?_
  cases cached with
  | some response => exact pure_keepsHeld _
  | none =>
    refine checkCapacity_keepsHeld.bind fun _ => ?_
    refine readTables_keepsHeld.bind fun tables => ?_
    refine (peek_keepsHeld _).bind fun pending => ?_
    refine (peek_keepsHeld _).bind fun unlinked => ?_
    refine KeepsHeld.bind (withBuffer_keepsHeld fun {b r b'} h => ?_) fun _ => pure_keepsHeld _
    cases h
    exact .remember (fun _ h => by cases h) rfl rfl

lemma finish_keepsHeld (state : TxnState) (response : TxnFinalResponse) :
    KeepsHeld txnId delegated ids (liftTxn (finish id state response)) := by
  rintro x ⟨e, he, htracks⟩
  show Holding txnId delegated ids { x with txns := (exec (finish id state response) x.txns).2 }
  unfold finish
  rw [exec_bind, exec_get]
  simp only
  by_cases hid : id = txnId
  · subst hid
    simp only [he]
    exact ⟨_, get_insert_self _ _ _, htracks.of_eq rfl rfl⟩
  · split
    · exact ⟨e, he, htracks⟩
    next e' _ => exact ⟨e, (get_insert_ne _ _ (Ne.symm hid)).trans he, htracks⟩

lemma handleTxnCommit_keepsHeld :
    KeepsHeld txnId delegated ids (handleTxnCommit hashes ctx now id) := by
  refine KeepsHeld.bind (ownedOp_keepsHeld (exec_takeBuffer now id ctx.connectionId)
    fun e h => h.takeEntry) fun taken => ?_
  rcases taken with ⟨committedAt, ops⟩ | ⟨buffer, identity⟩
  · exact pure_keepsHeld _
  · have hthrow : ∀ (e : OpError) (q : PUnit → OpsM TxnCommitResponse),
        KeepsHeld txnId delegated ids (throw e >>= q) := fun _ _ _ h => h
    simp only
    split
    · exact (finish_keepsHeld _ _).bind fun _ => hthrow _ _
    · have hsubmit : ∀ w, KeepsHeld txnId delegated ids (submitWrite now w) :=
        fun _ => keepsHeld_of_txns fun _ => rfl
      refine (hsubmit _).bind fun result => ?_
      cases result with
      | error e => exact (finish_keepsHeld _ _).bind fun _ _ h => h
      | ok ack => exact (finish_keepsHeld _ _).bind fun _ => pure_keepsHeld _

lemma handleTxnBegin_keepsHeld (timeoutSeconds : Nat) (actAs : Bool) (caller : Caller) :
    KeepsHeld txnId delegated ids
      (liftTxn (handleTxnBegin now id timeoutSeconds actAs caller c)) := by
  rintro x ⟨e, he, htracks⟩
  have hget : (sweepExpired now x.txns).get txnId = some (sweepEntry now e) := by
    rw [get_sweepExpired, he]
    rfl
  have hheld : ∀ store : TxnStore, store.get txnId = some (sweepEntry now e) →
      Holding txnId delegated ids { x with txns := store } :=
    fun _ h => ⟨_, h, htracks.sweepEntry now⟩
  show Holding txnId delegated ids
    { x with txns := (exec (handleTxnBegin now id timeoutSeconds actAs caller c) x.txns).2 }
  cases hid : (sweepExpired now x.txns).get id with
  | some e' =>
    rw [exec_handleTxnBegin_of_some _ _ _ _ hid]
    exact hheld _ hget
  | none =>
    rw [exec_handleTxnBegin_of_none _ _ _ _ hid]
    have hne : txnId ≠ id := by
      rintro rfl
      rw [hget] at hid
      cases hid
    exact hheld _ ((get_insert_ne _ _ hne).trans hget)

lemma TxnCall.handle_holding (call : TxnCall) {x : TxnServer} (h : Holding txnId delegated ids x) :
    Holding txnId delegated
      ((call.accepted txnId (exec (call.handle hashes env c) x).1).map Prod.fst ++ ids)
      (exec (call.handle hashes env c) x).2 := by
  -- a request that is not an encode accepts nothing
  have hkeep : ∀ {T : Type} {p : OpsM T} {k : T → TxnResponse}, KeepsHeld txnId delegated ids p →
      (∀ a r, k a ≠ .encode r) →
      Holding txnId delegated
        ((call.accepted txnId (exec (p >>= fun a => pure (k a)) x).1).map Prod.fst ++ ids)
        (exec (p >>= fun a => pure (k a)) x).2 := by
    intro T p k hp hk
    have hend := hp h
    rw [exec_bind_pure]
    rcases hx : exec p x with ⟨r, x'⟩
    rw [hx] at hend
    have hnil : call.accepted txnId (r.map k) = [] := by
      cases r with
      | error e => rfl
      | ok a =>
        unfold TxnCall.accepted
        split
        next r hr => exact absurd (Except.ok.inj hr) (hk a r)
        · rfl
    simp only [hnil]
    exact hend
  unfold TxnCall.handle
  split
  · exact hkeep (handleTxnBegin_keepsHeld _ _ _) fun _ _ h => by cases h
  next req _ =>
    have hend := @handleEncodeInTxn_spec txnId call.txnId delegated ids call.now hashes env
      ⟨call.caller, c, call.forgetWithinBudget⟩ req x h
    rw [exec_bind_pure]
    rcases hx : exec (handleEncodeInTxn hashes env ⟨call.caller, c, call.forgetWithinBudget⟩
      call.now req call.txnId) x with ⟨r, x'⟩
    rw [hx] at hend
    cases r with
    | error e => exact hend
    | ok r =>
      simp only [Except.map, TxnCall.accepted]
      simp only [bufferedAfter] at hend
      split
      next hid => rwa [if_pos hid] at hend
      next hid => rwa [if_neg hid] at hend
  · exact hkeep (forgetInTxn_keepsHeld _ _ _) fun _ _ h => by cases h
  · exact hkeep (handleLinkInTxn_keepsHeld _ _ _ _) fun _ _ h => by cases h
  · exact hkeep (handleUnlinkInTxn_keepsHeld _ _ _) fun _ _ h => by cases h
  · exact hkeep (handleTxnCommit_keepsHeld _ _) fun _ _ h => by cases h
  · exact hkeep (ownedOp_keepsHeld (exec_handleTxnAbort _ _ _) fun e h => h.abortEntry _)
      fun _ _ h => by cases h

lemma runEvents_holding (events : List TxnEvent) {x : TxnServer}
    (h : Holding txnId delegated ids x) :
    Holding txnId delegated ((runEvents hashes env txnId events x).1.map Prod.fst ++ ids)
      (runEvents hashes env txnId events x).2 := by
  induction events generalizing x ids with
  | nil => exact h
  | cons event events ih =>
    cases event with
    | shard change => exact @ih _ { x with server := change x.server } h
    | call c call =>
      obtain ⟨e, he, htracks⟩ := ih (call.handle_holding hashes env h)
      refine ⟨e, he, htracks.mono fun id hid => ?_⟩
      simp only [runEvents, map_append, mem_append] at hid ⊢
      tauto
end

def TxnServer.pendingWrite (hashes : TxnHashes) (ctx : OpsContext) (txnId : TxnKey)
    (x : TxnServer) : Option (Write SubstratePhase) :=
  (x.txns.get txnId).bind fun e =>
    match e.finalResponse with
    | some (.commit _ _) => none
    | _ => e.buffer.map fun b => commitWrite hashes txnId b (e.delegated.getD ctx.caller)

section
variable {hashes : TxnHashes} {ctx : OpsContext} {now : Nanos} {txnId : TxnKey}

lemma takeEntry_sweepEntry_ok {e : TxnEntry} {taken : (Nanos × Nat) ⊕ (TxnBuffer × Option Caller)}
    (h : (takeEntry (sweepEntry now e)).1 = .ok taken) :
    (∃ committedAt ops, taken = .inl (committedAt, ops) ∧
        e.finalResponse = some (.commit committedAt ops)) ∨
      ∃ b, taken = .inr (b, e.delegated) ∧ e.buffer = some b ∧
        ∀ committedAt ops, e.finalResponse ≠ some (.commit committedAt ops) := by
  have hfinal : (sweepEntry now e).finalResponse = e.finalResponse := by
    unfold sweepEntry
    split <;> rfl
  unfold takeEntry at h
  split at h
  next committedAt ops hcomm =>
    cases h
    exact .inl ⟨committedAt, ops, rfl, hfinal ▸ hcomm⟩
  next hnot =>
    split at h
    next buffer hactive hbuf =>
      cases h
      -- an entry that was swept has no buffer to take
      unfold sweepEntry at hbuf hactive hnot ⊢
      split at hbuf
      · cases hbuf
      next hlive =>
        rw [if_neg hlive] at hnot ⊢
        exact .inr ⟨buffer, rfl, hbuf, hnot⟩
    · cases h

lemma takeBuffer_ok {x : TxnServer} {c : Nat} {taken : (Nanos × Nat) ⊕ (TxnBuffer × Option Caller)}
    (h : (exec (takeBuffer now txnId c) x.txns).1 = .ok taken) :
    (∃ committedAt ops, taken = .inl (committedAt, ops) ∧ x.pendingWrite hashes ctx txnId = none) ∨
      ∃ b delegated, taken = .inr (b, delegated) ∧ x.pendingWrite hashes ctx txnId =
        some (commitWrite hashes txnId b (delegated.getD ctx.caller)) := by
  rw [exec_takeBuffer] at h
  change (ownedOp now txnId c takeEntry x.txns).1 = .ok taken at h
  unfold ownedOp at h
  simp only [get_sweepExpired] at h
  cases hget : x.txns.get txnId with
  | none =>
    rw [hget] at h
    cases h
  | some e =>
    rw [hget] at h
    simp only [map_some] at h
    split at h
    · unfold TxnServer.pendingWrite
      rw [hget, bind_some]
      rcases takeEntry_sweepEntry_ok h with ⟨committedAt, ops, rfl, hfinal⟩ | ⟨b, rfl, hb, hnot⟩
      · rw [hfinal]
        exact .inl ⟨committedAt, ops, rfl, rfl⟩
      · refine .inr ⟨b, e.delegated, rfl, ?_⟩
        split
        next committedAt ops hfinal => exact absurd hfinal (hnot committedAt ops)
        · rw [hb, map_some]
    · cases h

lemma exec_liftTxn {R : Type} (p : TxnM R) (x : TxnServer) :
    exec (liftTxn p) x = ((exec p x.txns).1, { x with txns := (exec p x.txns).2 }) :=
  rfl

lemma exec_finish (state : TxnState) (response : TxnFinalResponse) (x : TxnServer) :
    ∃ txns, exec (liftTxn (finish txnId state response)) x = (.ok (), { x with txns }) := by
  rw [exec_liftTxn, finish, exec_bind, exec_get]
  simp only
  split
  · exact ⟨_, rfl⟩
  · exact ⟨_, rfl⟩

lemma handleTxnCommit_ok {x x' : TxnServer} {r : TxnCommitResponse}
    (h : exec (handleTxnCommit hashes ctx now txnId) x = (.ok r, x')) :
    (x.pendingWrite hashes ctx txnId = none ∧ x'.server = x.server) ∨
      ∃ w ack, x.pendingWrite hashes ctx txnId = some w ∧ x'.server = x.server.submit now w ∧
        (submit substrateEngine now w x.server.shard).1 = .ok ack := by
  unfold handleTxnCommit at h
  rw [exec_bind, exec_liftTxn] at h
  rcases hrun : exec (takeBuffer now txnId ctx.connectionId) x.txns with ⟨result, store⟩
  rw [hrun] at h
  cases result with
  | error e => cases h
  | ok taken =>
    have hpend := @takeBuffer_ok hashes ctx now txnId x ctx.connectionId taken (by rw [hrun])
    rcases hpend with ⟨committedAt, ops, rfl, hnone⟩ | ⟨b, delegated, rfl, hsome⟩
    · cases h
      exact .inl ⟨hnone, rfl⟩
    · simp only at h
      generalize commitWrite hashes txnId b (delegated.getD ctx.caller) = w at h hsome
      split at h
      · obtain ⟨txns, hfinish⟩ := @exec_finish txnId .aborted (.abort b.opsCount) ⟨x.server, store⟩
        rw [exec_bind, hfinish] at h
        cases h
      · have hsubmit : exec (submitWrite now w) { x with txns := store } =
          (.ok (submit substrateEngine now w x.server.shard).1,
            { server := x.server.submit now w, txns := store }) := rfl
        rw [exec_bind, hsubmit] at h
        cases hout : (submit substrateEngine now w x.server.shard).1 with
        | error e =>
          rw [hout] at h
          simp only [exec_bind] at h
          obtain ⟨txns, hfinish⟩ := @exec_finish txnId .aborted (.abort b.opsCount)
            ⟨x.server.submit now w, store⟩
          rw [hfinish] at h
          cases h
        | ok ack =>
          rw [hout] at h
          simp only [exec_bind] at h
          obtain ⟨txns, hfinish⟩ := @exec_finish txnId .committed (.commit now b.opsCount)
            ⟨x.server.submit now w, store⟩
          rw [hfinish] at h
          cases h
          exact .inr ⟨_, ack, hsome, rfl, hout⟩

variable {w : Write SubstratePhase}

lemma submit_creates {s : SubstrateShard} {id : MemoryId} {ack : WriteAck SubstrateAck}
    (hmiss : (s.lookupWithHash now w.writeId w.requestHash).1 = .miss)
    (hok : (submit substrateEngine now w s).1 = .ok ack)
    (hfree : s.db.tables.memory.memories.get id = none) (hid : id ∈ w.upserted) :
    ∃ row, (submit substrateEngine now w s).2.db.tables.memory.memories.get id = some row ∧
      row.scope = w.scope := by
  have hstatus := (substrateEngine_observes_status id).submit_ok hmiss (Prod.ext hok rfl)
  have hnone : s.db.tables.memory.status id = none := by rw [Memories.status, hfree]; rfl
  have howner := foldl_onStatus_owner w.toCaller w.phases id none
  rw [if_pos (show id ∈ w.phases.filterMap SubstratePhase.upserted? from hid), ← hnone, ← hstatus,
    Memories.status, Option.map_map] at howner
  exact map_eq_some_iff.mp howner

lemma mem_upserted_commitWrite {id : MemoryId} (h : id ∈ b.encodedIds) (identity : Caller) :
    id ∈ (commitWrite hashes txnId b identity).upserted := by
  obtain ⟨e, he, rfl⟩ := List.mem_map.mp h
  refine mem_filterMap.mpr ⟨.memory (.upsertMemory e.upsert), ?_, rfl⟩
  simp only [commitWrite, buildPhases, mem_append]
  exact .inl (.inl (.inl (mem_flatMap.mpr ⟨e, he, mem_cons_self⟩)))

lemma Holding.pendingWrite {delegated : Option Caller} {ids : List MemoryId} {x : TxnServer}
    (h : Holding txnId delegated ids x) (hw : x.pendingWrite hashes ctx txnId = some w) :
    w.scope = (delegated.getD ctx.caller).scope ∧ ∀ id ∈ ids, id ∈ w.upserted := by
  obtain ⟨e, he, htracks⟩ := h
  unfold TxnServer.pendingWrite at hw
  rw [he, bind_some] at hw
  split at hw
  · cases hw
  · obtain ⟨b, hb, rfl⟩ := map_eq_some_iff.mp hw
    refine ⟨?_, fun id hid => mem_upserted_commitWrite (htracks.buffered hb hid) _⟩
    rw [htracks.identity]
    rfl

lemma handleTxnBegin_holding {x : TxnServer} (hnew : x.txns.get txnId = none)
    (timeoutSeconds : Nat) (actAs : Bool) (caller : Caller) (c : Nat) :
    Holding txnId (if actAs then some caller else none) []
      (exec (liftTxn (handleTxnBegin now txnId timeoutSeconds actAs caller c)) x).2 := by
  have hswept : (sweepExpired now x.txns).get txnId = none := by
    rw [get_sweepExpired, hnew]
    rfl
  show Holding txnId _ []
    { x with txns := (exec (handleTxnBegin now txnId timeoutSeconds actAs caller c) x.txns).2 }
  rw [exec_handleTxnBegin_of_none _ _ _ _ hswept]
  refine ⟨_, get_insert_self _ _ _, rfl, fun _ hid => ?_, fun hb hr => ?_⟩
  · cases hid
  · cases hb
    cases hr

/-- The memories of an acknowledged commit are in the scopes their encodes were accepted in iff,
where it writes at all, those are the scope it writes in: the one frozen at a begin with `act_as`,
else that of the committing caller. -/
theorem encodes_land_where_accepted_iff {env : TxnEnv} {x₀ x₁ x x' : TxnServer}
    {beganAt : Nanos} {timeoutSeconds c : Nat} {actAs : Bool} {beginner : Caller}
    {events : List TxnEvent} {accepted : List (MemoryId × RowScope)} {r : TxnCommitResponse}
    (hnew : x₀.txns.get txnId = none)
    (hbegin : (exec (liftTxn (handleTxnBegin beganAt txnId timeoutSeconds actAs beginner c)) x₀).2 =
      x₁) (hevents : runEvents hashes env txnId events x₁ = (accepted, x))
    (hcomm : exec (handleTxnCommit hashes ctx now txnId) x = (.ok r, x')) :
    (∀ a ∈ accepted, x.server.memory.memories.get a.1 = none →
      ∀ row, x'.server.memory.memories.get a.1 = some row → row.scope = a.2) ↔
    ∀ w, x.pendingWrite hashes ctx txnId = some w →
      (x.server.shard.lookupWithHash now w.writeId w.requestHash).1 = .miss →
      ∀ a ∈ accepted, x.server.memory.memories.get a.1 = none →
        a.2 = (if actAs then beginner else ctx.caller).scope := by
  have hheld : Holding txnId (if actAs then some beginner else none) (accepted.map Prod.fst) x := by
    have hopen := @handleTxnBegin_holding beganAt txnId x₀ hnew timeoutSeconds actAs beginner c
    rw [hbegin] at hopen
    have hrun := runEvents_holding hashes env events hopen
    rw [hevents, append_nil] at hrun
    exact hrun
  rcases handleTxnCommit_ok hcomm with ⟨hnone, hsrv⟩ | ⟨w, ack, hsome, hsrv, hok⟩
  · -- nothing is written
    refine ⟨fun _ w hw => ?_, fun _ a _ hfree row hrow => ?_⟩
    · rw [hnone] at hw
      cases hw
    · rw [hsrv, hfree] at hrow
      cases hrow
  · obtain ⟨hsc, hupserts⟩ := hheld.pendingWrite hsome
    have hident : w.scope = (if actAs then beginner else ctx.caller).scope := by
      rw [hsc]
      cases actAs <;> rfl
    have haft : x'.server.memory =
        (submit substrateEngine now w x.server.shard).2.db.tables.memory := by
      rw [hsrv]
      rfl
    by_cases hmiss : (x.server.shard.lookupWithHash now w.writeId w.requestHash).1 = .miss
    · -- every memory that had no row gets one of the write
      have hmade : ∀ a ∈ accepted, x.server.memory.memories.get a.1 = none →
          ∃ row, x'.server.memory.memories.get a.1 = some row ∧ row.scope = w.scope := by
        intro a ha hfree
        rw [haft]
        exact submit_creates hmiss hok hfree (hupserts a.1 (List.mem_map_of_mem ha))
      refine ⟨fun hland w' hw' _ a ha hfree => ?_, fun hcond a ha hfree row hrow => ?_⟩
      · obtain ⟨row, hrow, hown⟩ := hmade a ha hfree
        rw [← hland a ha hfree row hrow, hown, hident]
      · obtain ⟨row', hrow', hown⟩ := hmade a ha hfree
        rw [hrow'] at hrow
        cases hrow
        rw [hown, hident, hcond w hsome hmiss a ha hfree]
    · -- the write is answered from the cache
      refine ⟨fun _ w' hw' hmiss' => ?_, fun _ a _ hfree row hrow => ?_⟩
      · rw [hsome] at hw'
        cases hw'
        exact absurd hmiss' hmiss
      · rw [haft, submit_db_of_ne_miss hmiss] at hrow
        rw [Server.memory] at hfree
        rw [hfree] at hrow
        cases hrow
end

variable (spaceId : SpaceId)

def spaceCaller : Caller := ⟨⟨1, spaceId⟩, ""⟩

def encodeFor : TxnEvent :=
  .call 7
    { now := 2, caller := spaceCaller spaceId, forgetWithinBudget := fun _ => true, txnId := 5
      request := .encode ⟨"a", 0, 1, none, false⟩ }

def freshTxns : TxnServer := ⟨Server.fresh 0, Table.empty⟩

def begun : TxnServer := (exec (liftTxn (handleTxnBegin 1 5 30 false (spaceCaller 1) 7)) freshTxns).2

def encodedIn : List (MemoryId × RowScope) × TxnServer :=
  runEvents noHashes zeroEnv 5 [encodeFor spaceId] begun

def committedIn : Except OpError TxnCommitResponse × TxnServer :=
  exec (handleTxnCommit noHashes ⟨spaceCaller 1, 7, fun _ => true⟩ 3 5) (encodedIn spaceId).2

theorem encode_lands_in_own_space :
    (encodedIn 1).1 = [(MemoryId.pack 0 1 1, ⟨1, 1⟩)] ∧ (committedIn 1).1 = .ok ⟨5, 3, 1⟩ ∧
      ∀ a ∈ (encodedIn 1).1, (encodedIn 1).2.server.memory.memories.get a.1 = none →
        ∀ row, (committedIn 1).2.server.memory.memories.get a.1 = some row → row.scope = a.2 := by
  have hok : (committedIn 1).1 = .ok ⟨5, 3, 1⟩ := by decide +kernel
  refine ⟨by decide +kernel, hok, ?_⟩
  have hiff := @encodes_land_where_accepted_iff noHashes ⟨spaceCaller 1, 7, fun _ => true⟩ 3 5 zeroEnv
    freshTxns begun (encodedIn 1).2 (committedIn 1).2 1 30 7 false (spaceCaller 1) [encodeFor 1]
    (encodedIn 1).1 ⟨5, 3, 1⟩ rfl rfl rfl (Prod.ext hok rfl)
  refine hiff.mpr ?_
  intro w _ _ a ha _
  have hall : ∀ a ∈ (encodedIn 1).1, a.2 = (spaceCaller 1).scope := by decide +kernel
  exact hall a ha

/-- The encode is for space 2, as delegated, and the commit is not: the memory was accepted and
reported in space 2, and is in space 1. -/
theorem delegated_encode_lands_in_other_space :
    (encodedIn 2).1 = [(MemoryId.pack 0 1 1, ⟨1, 2⟩)] ∧ (committedIn 2).1 = .ok ⟨5, 3, 1⟩ ∧
      (encodedIn 2).2.server.memory.memories.get (MemoryId.pack 0 1 1) = none ∧
      ((committedIn 2).2.server.memory.memories.get (MemoryId.pack 0 1 1)).map MemoryRow.scope =
        some ⟨1, 1⟩ := by
  decide +kernel

end BrainDb
