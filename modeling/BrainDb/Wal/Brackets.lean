import BrainDb.Wal.Recovery

namespace BrainDb
open List Option ExceptLemmas Replaying
variable {S P D E : Type}

structure OpenBracket where
  txnId : TxnId
  (expected members : Nat)

section
variable (env : ReplayEnv S P D E)

def bracketStep (b : Option OpenBracket) (r : WalRecord) : Option (Option OpenBracket) :=
  if r.isSubscribeEvent then some b
  else
    match env.typedPayload r with
    | .error _ => none
    | .ok p =>
      match b, env.role p with
      | none, .txnBegin txnId expected => some (some ⟨txnId, expected, 0⟩)
      | none, .member => some none
      | some o, .member =>
        if o.members < o.expected then some (some { o with members := o.members + 1 }) else none
      | some o, .txnCommit txnId =>
        if txnId = o.txnId ∧ o.members = o.expected then some none else none
      | _, _ => none

def bracketRun : Option OpenBracket → Records → Option (Option OpenBracket)
  | b, [] => some b
  | b, r :: rs =>
    match bracketStep env b r with
    | none => none
    | some b' => bracketRun b' rs

def entries (rs : Records) : List (WalRecord × P) :=
  rs.filterMap fun r =>
    if r.isSubscribeEvent then none else (env.typedPayload r).toOption.map (r, ·)
end

variable {env : ReplayEnv S P D E}

lemma bracketRun_append (b : Option OpenBracket) (rs ss : Records) :
    bracketRun env b (rs ++ ss) = (bracketRun env b rs).bind (bracketRun env · ss) := by
  induction rs generalizing b with
  | nil => rfl
  | cons r rs ih =>
    cases hr : bracketStep env b r with
    | none => simp [bracketRun, hr]
    | some b' => simp [bracketRun, hr, ih]

variable {b b' : Option OpenBracket} {st : Replaying S P}

lemma bracketRun_append_some {c : Option OpenBracket} {rs ss : Records}
    (h : bracketRun env b (rs ++ ss) = some c) :
    ∃ m, bracketRun env b rs = some m ∧ bracketRun env m ss = some c := by
  rw [bracketRun_append] at h
  exact bind_eq_some_iff.mp h

lemma entries_cons (r : WalRecord) (rs : Records) :
    entries env (r :: rs) = entries env [r] ++ entries env rs := by
  rw [entries, entries, entries, ← filterMap_append]
  rfl

variable {r : WalRecord}

lemma entries_event (h : r.isSubscribeEvent = true) : entries env [r] = [] := by
  simp [entries, h]

lemma entries_live {p : P} (h : r.isSubscribeEvent = false) (hp : env.typedPayload r = .ok p) :
    entries env [r] = [(r, p)] := by
  simp [entries, h, hp, Except.toOption]

lemma bracketStep_some (h : bracketStep env b r = some b') : (r.isSubscribeEvent = true ∧ b' = b) ∨
    (r.isSubscribeEvent = false ∧ ∃ p, env.typedPayload r = .ok p ∧
      ((∃ txnId expected, b = none ∧ env.role p = .txnBegin txnId expected ∧
          b' = some ⟨txnId, expected, 0⟩) ∨ (b = none ∧ env.role p = .member ∧ b' = none) ∨
        (∃ o, b = some o ∧ env.role p = .member ∧ o.members < o.expected ∧
          b' = some { o with members := o.members + 1 }) ∨
        (∃ o, b = some o ∧ env.role p = .txnCommit o.txnId ∧ o.members = o.expected ∧
          b' = none))) := by
  unfold bracketStep at h
  split at h
  next hev =>
    cases h
    exact .inl ⟨hev, rfl⟩
  next hev =>
    refine .inr ⟨by simpa using hev, ?_⟩
    cases hp : env.typedPayload r with
    | error e => simp [hp] at h
    | ok p =>
      refine ⟨p, rfl, ?_⟩
      cases b with
      | none =>
        cases hrole : env.role p with
        | txnBegin txnId expected =>
          simp only [hp, hrole, Option.some.injEq] at h
          exact .inl ⟨txnId, expected, rfl, rfl, h.symm⟩
        | member =>
          simp only [hp, hrole, Option.some.injEq] at h
          exact .inr (.inl ⟨rfl, rfl, h.symm⟩)
        | txnCommit txnId => simp [hp, hrole] at h
        | txnAbort txnId => simp [hp, hrole] at h
      | some o =>
        cases hrole : env.role p with
        | txnBegin txnId expected => simp [hp, hrole] at h
        | member =>
          simp only [hp, hrole, ite_none_right_eq_some, Option.some.injEq] at h
          exact .inr (.inr (.inl ⟨o, rfl, rfl, h.1, h.2.symm⟩))
        | txnCommit txnId =>
          simp only [hp, hrole, ite_none_right_eq_some, Option.some.injEq] at h
          obtain ⟨⟨rfl, hcnt⟩, rfl⟩ := h
          exact .inr (.inr (.inr ⟨o, rfl, rfl, hcnt, rfl⟩))
        | txnAbort txnId => simp [hp, hrole] at h

def OpenBracket.bufferLength : Option OpenBracket → Nat
  | none => 0
  | some o => o.members + 1

structure Replaying.InBracket (st : Replaying S P) (b : Option OpenBracket) : Prop where
  activeTxn : st.activeTxn = b.map fun o => (o.txnId, o.expected)
  buffered : st.txnBuffer.length = OpenBracket.bufferLength b

lemma Replaying.InBracket.buffer_nil (h : st.InBracket none) :
    st.txnBuffer = [] := length_eq_zero_iff.mp h.buffered

lemma replayRecord_bracketStep {y : Yielded} (hst : st.InBracket b)
    (hstep : bracketStep env b y.record = some b') (habv : 0 < y.record.lsn.toNat)
    {rest : List (WalRecord × P)} {s' : S}
    (hs : (st.txnBuffer ++ (entries env [y.record] ++ rest)).foldlM (applyRecord env) st.target =
      .ok s') : ∃ st', replayRecord env 0 st y = .ok st' ∧ st'.InBracket b' ∧
      (st'.txnBuffer ++ rest).foldlM (applyRecord env) st'.target = .ok s' ∧
      st'.recordsReplayed + st'.txnBuffer.length =
        st.recordsReplayed + st.txnBuffer.length + (entries env [y.record]).length := by
  rcases bracketStep_some hstep with ⟨hev, rfl⟩ | ⟨hev, p, hp, hcase⟩
  · rw [entries_event hev, nil_append] at hs
    rw [replayRecord_event habv hev, entries_event hev]
    refine ⟨_, rfl, ?_⟩
    split
    · exact ⟨⟨hst.activeTxn, hst.buffered⟩, hs, rfl⟩
    · exact ⟨⟨hst.activeTxn, hst.buffered⟩, hs, rfl⟩
  have hlive : LiveRecord env 0 y.record p := ⟨habv, hev, hp⟩
  rw [entries_live hev hp] at hs ⊢
  rcases hcase with ⟨txnId, expected, rfl, hrole, rfl⟩ | ⟨rfl, hrole, rfl⟩ |
    ⟨o, rfl, hrole, hlt, rfl⟩ | ⟨o, rfl, hrole, hcnt, rfl⟩
  · have hnil := hst.buffer_nil
    rw [hnil, nil_append] at hs
    refine ⟨_, replayRecord_begin hlive hst.activeTxn hrole, ⟨rfl, rfl⟩, hs, ?_⟩
    simp only [openTxn, hnil, length_singleton, length_nil]
  · have hnil := hst.buffer_nil
    rw [hnil, nil_append] at hs
    obtain ⟨target, happ, hrest⟩ := foldlM_append_ok.mp hs
    have happ' : applyRecord env st.target (y.record, p) = .ok target := by
      simpa using happ
    refine ⟨_, replayRecord_plain hlive hst.activeTxn hrole happ', ⟨hst.activeTxn, hst.buffered⟩, ?_, ?_⟩
    · simpa [advanceTail, hnil] using hrest
    · simp [advanceTail, hnil]
  · have hroom : ¬ st.txnBuffer.length > o.expected := by
      rw [hst.buffered, OpenBracket.bufferLength]
      omega
    rw [replayRecord_member hlive hst.activeTxn hrole, bufferMember, if_neg hroom]
    refine ⟨_, rfl, ⟨hst.activeTxn, ?_⟩, ?_, ?_⟩
    · simp only [length_append, hst.buffered, length_singleton, OpenBracket.bufferLength]
    · simpa only [append_assoc] using hs
    · simp only [length_append, length_singleton, Nat.add_assoc]
  · rw [← append_assoc] at hs
    obtain ⟨target, hfold, hrest⟩ := foldlM_append_ok.mp hs
    rw [replayRecord_commit hlive hst.activeTxn hrole, commitTxn]
    simp only [hfold]
    refine ⟨_, rfl, ⟨rfl, rfl⟩, ?_, ?_⟩
    · simpa [advanceTail] using hrest
    · simp [advanceTail, Nat.add_assoc]

lemma replayAll_bracketRun {ys : List Yielded} (hst : st.InBracket b)
    (hrun : bracketRun env b (ys.map Yielded.record) = some b')
    (habv : ∀ y ∈ ys, 0 < y.record.lsn.toNat) {s' : S}
    (hs : (st.txnBuffer ++ entries env (ys.map Yielded.record)).foldlM (applyRecord env) st.target =
      .ok s') : ∃ st', replayAll env 0 st ys = .ok st' ∧ st'.InBracket b' ∧
      st'.txnBuffer.foldlM (applyRecord env) st'.target = .ok s' ∧
      st'.recordsReplayed + st'.txnBuffer.length = st.recordsReplayed + st.txnBuffer.length +
        (entries env (ys.map Yielded.record)).length := by
  induction ys generalizing st b with
  | nil =>
    cases hrun
    exact ⟨st, rfl, hst, by simpa [entries] using hs, rfl⟩
  | cons y ys ih =>
    simp only [map_cons, bracketRun] at hrun
    split at hrun
    · cases hrun
    next m hm =>
      rw [map_cons, entries_cons y.record] at hs
      obtain ⟨mid, hmid, hin, hrest, hcnt⟩ :=
        replayRecord_bracketStep hst hm (habv y mem_cons_self) hs
      obtain ⟨st', hall, hin', hrest', hcnt'⟩ :=
        ih hin hrun (fun z hz => habv z (mem_cons_of_mem y hz)) hrest
      refine ⟨st', by simp only [replayAll, hmid, hall], hin', hrest', ?_⟩
      rw [hcnt', hcnt, map_cons, entries_cons y.record (ys.map Yielded.record), length_append]
      omega

lemma recover_of_bracketed {crc : Checksum} {uuid : ShardUuid} {seq n : Nat}
    {dir : WalDir} {chunks : List Records} (h : DirHolds crc uuid seq n dir chunks)
    (hn : 0 < n) (hlog : IsLog n chunks.flatten)
    (hrun : bracketRun env none chunks.flatten = some none) {s s' : S} (hdur : env.durableLsn s = 0)
    (hs : (entries env chunks.flatten).foldlM (applyRecord env) s = .ok s') :
    ∃ rep, recover env crc dir uuid s = .ok (rep, s') ∧
      rep.recordsReplayed = (entries env chunks.flatten).length := by
  obtain ⟨infos, hopen, hlen, _, hdr⟩ := h.readDir
  have hrecs := map_record_yieldsLog hlen
  have habv : ∀ y ∈ yieldsLog infos chunks, 0 < y.record.lsn.toNat := by
    intro y hy
    have hmem : y.record ∈ chunks.flatten := hrecs ▸ List.mem_map_of_mem hy
    have hbds := hlog.numbered.bounds y.record hmem
    omega
  rw [← hrecs] at hrun hs ⊢
  have hbeg : (replayStart s 0 : Replaying S P).InBracket none := ⟨rfl, rfl⟩
  obtain ⟨st, hall, hin, hrest, hcnt⟩ := replayAll_bracketRun hbeg hrun habv hs
  rw [hin.buffer_nil] at hrest hcnt
  cases hrest
  refine ⟨replayReport infos st, ?_, ?_⟩
  · simp only [recover, hopen, hdur, hdr, hall]
  · simpa [replayReport, replayStart] using hcnt

end BrainDb
