import BrainDb.Server.Boot

namespace BrainDb
open List Table
open SubstrateDb (replayEntry)

def LogPayload.requestKey? : LogPayload SubstratePayload → Option WriteId
  | .record p => p.request.map Prod.fst
  | _ => none

def ServerStep.Passes (id : WriteId) : ServerStep → Prop
  | .submit _ w => id ≠ w.writeId
  | .restart _ => False
  | _ => True

variable {e : SubstrateEntry} {id : WriteId}

lemma SubstrateDb.replayEntry_of_requestKey (hashOf : String → Digest) (db : SubstrateDb)
    (h : e.payload.requestKey? = some id) :
    ∃ row, (replayEntry hashOf db e).idempotency.get id = some row ∧ row.response = none := by
  unfold replayEntry Db.replayEntry
  unfold LogPayload.requestKey? at h
  split at h
  next p hp =>
    obtain ⟨⟨key, kind, m⟩, hreq, rfl⟩ := Option.map_eq_some_iff.mp h
    simp only [hp, hreq]
    exact ⟨_, get_insert_self _ _ _, rfl⟩
  · cases h

lemma SubstrateDb.replayEntry_of_requestKey_ne (hashOf : String → Digest) (db : SubstrateDb)
    (h : e.payload.requestKey? ≠ some id) :
    (replayEntry hashOf db e).idempotency.get id = db.idempotency.get id := by
  unfold replayEntry Db.replayEntry
  unfold LogPayload.requestKey? at h
  split at h
  next p hp =>
    simp only [hp]
    split
    next key kind m hreq =>
      rw [hreq] at h
      exact get_insert_ne _ _ fun hkey => h (by rw [hkey]; rfl)
    · rfl
  next hno =>
    split
    next p hp => exact absurd hp (hno p)
    · rfl

lemma SubstrateDb.replayEntry_idempotency (hashOf : String → Digest) (db : SubstrateDb)
    (e : SubstrateEntry) (id : WriteId) :
    (replayEntry hashOf db e).idempotency.get id = db.idempotency.get id ∨
      ∃ row, (replayEntry hashOf db e).idempotency.get id = some row ∧ row.response = none := by
  by_cases h : e.payload.requestKey? = some id
  · exact .inr (replayEntry_of_requestKey hashOf db h)
  · exact .inl (replayEntry_of_requestKey_ne hashOf db h)

namespace Server
variable (hashOf : String → Digest)

lemma recover_db (s : Server) : (s.recover hashOf).shard.db =
      (s.shard.log.above s.durableLsn).foldl (replayEntry hashOf) s.shard.db := by
  unfold recover
  generalize s.shard.log.above s.durableLsn = l
  induction l generalizing s with
  | nil => rfl
  | cons e l ih =>
    rw [foldl_cons, foldl_cons, ih]
    rfl

variable {l : List SubstrateEntry}

lemma foldl_replayEntry_of_requestKey_ne (h : ∀ e ∈ l, e.payload.requestKey? ≠ some id)
    (db : SubstrateDb) :
    (l.foldl (replayEntry hashOf) db).idempotency.get id = db.idempotency.get id := by
  refine List.foldlRecOn l _
    (motive := fun d : SubstrateDb => d.idempotency.get id = db.idempotency.get id) rfl ?_
  intro d hd e he
  rw [SubstrateDb.replayEntry_of_requestKey_ne hashOf d (h e he), hd]

lemma foldl_replayEntry_of_requestKey (he : e ∈ l) (hkey : e.payload.requestKey? = some id)
    (db : SubstrateDb) : ∃ row, (l.foldl (replayEntry hashOf) db).idempotency.get id = some row ∧
      row.response = none := by
  obtain ⟨pre, post, rfl⟩ := append_of_mem he
  rw [foldl_append, foldl_cons]
  refine List.foldlRecOn post _
    (motive := fun d : SubstrateDb => ∃ row, d.idempotency.get id = some row ∧ row.response = none)
    (SubstrateDb.replayEntry_of_requestKey hashOf _ hkey) ?_
  intro d hd r _
  rcases SubstrateDb.replayEntry_idempotency hashOf d r id with heq | hrow
  · rw [heq]
    exact hd
  · exact hrow

lemma restart_lookup (s : Server) (loads : Bool) (now : Nanos) (id : WriteId)
    (requestHash : Option Digest) :
    ((s.restart hashOf loads).shard.lookupWithHash now id requestHash).1 =
      match durableEntry (s.recover hashOf).shard.db.idempotency now id with
      | none => .miss
      | some e => classify e.requestHash requestHash e.ack := by
  have hcached : (s.restart hashOf loads).shard.cachedEntry now id =
      durableEntry (s.recover hashOf).shard.db.idempotency now id := rfl
  rw [Shard.lookupWithHash, hcached]
  cases durableEntry (s.recover hashOf).shard.db.idempotency now id with
  | none => rfl
  | some e =>
    rcases classify_cases e.requestHash requestHash e.ack with h | h <;> simp only [h]

lemma step_idempotency {st : ServerStep} (h : st.Passes id) (s : Server) :
    (s.step hashOf st).shard.db.idempotency.get id = s.shard.db.idempotency.get id := by
  cases st with
  | submit now w => exact submit_idempotency_ne substrateEngine now h s.shard
  | restart loads => exact h.elim
  | reserve => rfl
  | rebuild => rfl
  | checkpoint now => rfl

lemma run_idempotency {steps : List ServerStep} (h : ∀ st ∈ steps, st.Passes id) (s : Server) :
    (s.run hashOf steps).shard.db.idempotency.get id = s.shard.db.idempotency.get id := by
  refine List.foldlRecOn steps _
    (motive := fun r : Server => r.shard.db.idempotency.get id = s.shard.db.idempotency.get id)
    rfl ?_
  intro r hr st hst
  rw [step_idempotency hashOf (h st hst), hr]

/-- A committed request with hash `h` is answered after a restart as it was before, and any other
hash under its id is refused, iff its hash is not all zero, its row is not a day old and recovery
replays no record that was logged under its id. -/
theorem retry_after_restart_iff {s : Server} {now : Nanos} {w : Write SubstratePhase}
    {h : Digest} {ack : WriteAck SubstrateAck} {steps : List ServerStep}
    (hhash : w.requestHash = some h)
    (hmiss : (s.shard.lookupWithHash now w.writeId w.requestHash).1 = .miss)
    (hok : (BrainDb.submit substrateEngine now w s.shard).1 = .ok ack)
    (hsteps : ∀ st ∈ steps, st.Passes w.writeId) (loads : Bool) (now' : Nanos) :
    let before := (s.submit now w).run hashOf steps
    let after := (before.restart hashOf loads).shard
    ((after.lookupWithHash now' w.writeId (some h)).1 = .hit ack ∧
        ∀ h', h' ≠ h → (after.lookupWithHash now' w.writeId (some h')).1 = .conflict) ↔
      h ≠ 0 ∧ BrainDb.fresh now now' = true ∧
        ∀ e ∈ before.shard.log.above before.durableLsn, e.payload.requestKey? ≠ some w.writeId := by
  intro before after
  have hstor : before.shard.db.idempotency.get w.writeId =
      some (idempotencyEntryFor ack w.requestHash now) := by
    have hrun := run_idempotency hashOf hsteps (s.submit now w)
    exact hrun.trans (submit_idempotency_of_miss hmiss hok)
  have hlookup := fun hash : Digest =>
    restart_lookup hashOf before loads now' w.writeId (some hash)
  rw [recover_db] at hlookup
  by_cases hkeys : ∀ e ∈ before.shard.log.above before.durableLsn,
      e.payload.requestKey? ≠ some w.writeId
  · -- the row of the commit is still there
    have hget := foldl_replayEntry_of_requestKey_ne hashOf hkeys before.shard.db
    rw [hstor] at hget
    have hentry : durableEntry ((before.shard.log.above before.durableLsn).foldl
        (replayEntry hashOf) before.shard.db).idempotency now' w.writeId =
          if BrainDb.fresh now now' = true then some ⟨ack, (some h).filter (· ≠ 0), now⟩
          else none := by
      simp only [durableEntry, hget, idempotencyEntryFor, hhash, Option.map_some]
    simp only [hentry] at hlookup
    by_cases hnew : BrainDb.fresh now now' = true
    · simp only [hnew, if_true] at hlookup
      by_cases hzero : h = 0
      · -- an all-zero hash is stored as none, so no other hash conflicts with it
        refine iff_of_false (fun hall => ?_) (fun hall => hall.1 hzero)
        have hone := hall.2 1 (by rw [hzero]; exact Nat.one_ne_zero)
        rw [hlookup 1, hzero] at hone
        cases hone
      · have hfilter : (some h).filter (· ≠ 0) = some h := by simp [hzero]
        refine iff_of_true ⟨?_, fun h' hne => ?_⟩ ⟨hzero, hnew, hkeys⟩
        · rw [hlookup h, hfilter]
          simp [classify]
        · rw [hlookup h', hfilter]
          simp [classify, Ne.symm hne]
    · refine iff_of_false (fun hall => ?_) (fun hall => hnew hall.2.1)
      have hhit := hall.1
      rw [hlookup h, if_neg hnew] at hhit
      cases hhit
  · refine iff_of_false (fun hall => ?_) (fun hall => hkeys hall.2.2)
    obtain ⟨e, he, hkey⟩ : ∃ e ∈ before.shard.log.above before.durableLsn,
        e.payload.requestKey? = some w.writeId := by simpa using hkeys
    obtain ⟨row, hrow, hnone⟩ := foldl_replayEntry_of_requestKey hashOf he hkey before.shard.db
    have hhit := hall.1
    rw [hlookup h] at hhit
    simp [durableEntry, hrow, hnone] at hhit

def weighAndLink : Write SubstratePhase :=
  { plainWrite 2 (.memory (.updateSalience firstId 9)) with
    requestHash := some 5
    phases := [.memory (.updateSalience firstId 9),
      .link ⟨.memory firstId, .memory firstId, .builtin .supports, 0, 0, 0, 0, 1⟩] }

def weighedAndLinked : Server :=
  (encodedShard.submit 2 weighAndLink).run (fun _ => 0) [.checkpoint 3, .reserve]

theorem phases_retry_hits_after_restart :
    ((weighedAndLinked.restart (fun _ => 0) false).shard.lookupWithHash 4 2 (some 5)).1 =
        .hit ⟨2, 2, 2, 5, [.memory .salienceUpdated, .linked]⟩ ∧
      ∀ h', h' ≠ 5 → ((weighedAndLinked.restart (fun _ => 0) false).shard.lookupWithHash 4 2
        (some h')).1 = .conflict := by
  have hpasses : ∀ st ∈ [ServerStep.checkpoint 3, .reserve], st.Passes 2 := by
    intro st hst
    rcases mem_pair.mp hst with rfl | rfl <;> trivial
  have hiff := retry_after_restart_iff (fun _ => 0) (s := encodedShard) (w := weighAndLink) rfl
    (show (encodedShard.shard.lookupWithHash 2 2 (some 5)).1 = .miss from rfl)
    (show (BrainDb.submit substrateEngine 2 weighAndLink encodedShard.shard).1 =
      .ok ⟨2, 2, 2, 5, [.memory .salienceUpdated, .linked]⟩ from rfl) hpasses false 4
  exact hiff.mpr ⟨by decide, by decide, by decide⟩

def encodeRequest : Write SubstratePhase :=
  { plainWrite 1 (.memory (.upsertMemory firstMemory)) with requestHash := some 5 }

/-- The retry of an encode after a crash is not recognised. -/
theorem encode_retry_misses_after_restart :
    (((fresh 0).reserve.shard.lookupWithHash 1 1 (some 5)).1 = .miss ∧
      (BrainDb.submit substrateEngine 1 encodeRequest (fresh 0).reserve.shard).1 =
        .ok ⟨1, 1, 1, 1, [.memory (.upsertedMemory firstId)]⟩) ∧
      ((((fresh 0).reserve.submit 1 encodeRequest).restart (fun _ => 0) false).shard.lookupWithHash
        2 1 (some 5)).1 = .miss :=
  ⟨⟨rfl, rfl⟩, rfl⟩

-- no checkpoint spares the encode its first replay: the durable LSN moves with the end record
example : ((((fresh 0).reserve.submit 1 encodeRequest).run (fun _ => 0) [.checkpoint 2, .restart false,
    .restart false]).shard.lookupWithHash 3 1 (some 5)).1 = .miss := rfl

/-- Whatever is submitted in between, for a day an acknowledged id writes nothing more: it gets the
same acknowledgement again, or a conflict where the hash is another. -/
theorem acknowledged_id_writes_once {T Ph P A : Type} {eng : Engine T Ph P A} {s : Shard T P A}
    {now later : Nanos} {w again : Write Ph} {ack : WriteAck A} {l : List (Nanos × Write Ph)}
    (hmiss : (s.lookupWithHash now w.writeId w.requestHash).1 = .miss)
    (hok : (BrainDb.submit eng now w s).1 = .ok ack) (hl : ∀ q ∈ l, BrainDb.fresh now q.1 = true)
    (hlater : BrainDb.fresh now later = true) (hid : again.writeId = w.writeId) :
    let s' := l.foldl (fun s q => (BrainDb.submit eng q.1 q.2 s).2) (BrainDb.submit eng now w s).2
    ∃ hot, BrainDb.submit eng later again s' =
      (match classify w.requestHash again.requestHash ack with
        | .hit ack => .ok ack
        | _ => .error (.conflict w.writeId), { s' with hot }) := by
  intro s'
  have hhot : s'.hot.get w.writeId = some ⟨ack, w.requestHash, now⟩ := by
    refine List.foldlRecOn l _ (motive := fun s : Shard T P A => s.hot.get w.writeId =
      some ⟨ack, w.requestHash, now⟩) (submit_stamps hmiss hok).2 ?_
    intro r hr q hq
    by_cases hsame : q.2.writeId = w.writeId
    · rw [← hsame] at hr ⊢
      obtain ⟨hot, hget, heq⟩ := submit_of_hot eng hr (hl q hq)
      rw [heq]
      exact hget
    · exact (submit_hot_ne eng q.1 (Ne.symm hsame) r).trans hr
  rw [← hid] at hhot ⊢
  obtain ⟨hot, _, heq⟩ := submit_of_hot eng hhot hlater
  exact ⟨hot, heq⟩

def linkRequest : Write SubstratePhase :=
  { plainWrite 2 (.link ⟨.memory firstId, .memory firstId, .builtin .supports, 0, 0, 0, 0, 1⟩) with
    requestHash := some 5 }

theorem link_retry_writes_once : ∃ hot,
    let s := (BrainDb.submit substrateEngine 3 encodeRequest
      (BrainDb.submit substrateEngine 2 linkRequest encodedShard.shard).2).2
    BrainDb.submit substrateEngine 4 linkRequest s = (.ok ⟨2, 2, 2, 2, [.linked]⟩, { s with hot }) :=
  acknowledged_id_writes_once (l := [(3, encodeRequest)]) rfl rfl
    (fun _ hq => by cases mem_singleton.mp hq; rfl) (by decide) rfl

end Server
end BrainDb
