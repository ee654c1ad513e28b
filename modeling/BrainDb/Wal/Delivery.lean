import BrainDb.Base.Bracketing
import BrainDb.Wal.Resume

namespace BrainDb
open List ExceptLemmas Bracketing
variable {S P D E : Type}

def ReplayEnv.recording (env : ReplayEnv S P D E) : ReplayEnv (S × Records) P D E :=
  { typedPayload := env.typedPayload
    role := env.role
    durableLsn := fun t => env.durableLsn t.1
    apply := fun t r p =>
      match env.apply t.1 r p with
      | .error e => .error e
      | .ok s => .ok (s, t.2 ++ [r]) }

section
variable (env : ReplayEnv S P D E)

def recordMark (r : WalRecord) : Mark TxnId :=
  if r.isSubscribeEvent then .plain
  else
    match roleOf env r with
    | .txnBegin txnId _ => .opening txnId
    | .txnCommit txnId => .closing txnId
    | .txnAbort txnId => .dropping txnId
    | .member => .plain

variable (rs : Records)

def logMarks (i : Nat) : Mark TxnId :=
  match rs[i]? with
  | some r => recordMark env r
  | none => .plain

/-- The bracket opened at position `b` is closed by a commit of its id before another begin or
an abort of its id. -/
def Committed (b : Nat) (txnId : TxnId) : Prop :=
  ClosedBefore (logMarks env rs) b txnId rs.length

/-- The record at position `i` is to be applied: it is above the durable LSN, not an event, and
outside any bracket or in a committed one. -/
def Delivered (durableLsn i : Nat) : Prop :=
  ∃ r, rs[i]? = some r ∧ r.isSubscribeEvent = false ∧ durableLsn < r.lsn.toNat ∧
    ∀ b txnId, Within (logMarks env rs) b txnId i → Committed env rs b txnId

def Boundary (durableLsn i : Nat) : Prop :=
  ∃ r, rs[i]? = some r ∧
    (r.lsn.toNat ≤ durableLsn ∨
      (r.isSubscribeEvent = true ∧ ∀ b txnId, ¬ Within (logMarks env rs) b txnId i) ∨
      Delivered env rs durableLsn i ∨
      ∃ b txnId, Open (logMarks env rs) b txnId i ∧
        (recordMark env r = .closing txnId ∨ recordMark env r = .dropping txnId))

def CutsNoBracket (durableLsn : Nat) : Prop :=
  ∀ b txnId i first r, rs[b]? = some first → rs[i]? = some r →
    Within (logMarks env rs) b txnId i → first.lsn.toNat ≤ durableLsn →
    durableLsn < r.lsn.toNat → Committed env rs b txnId
end

variable {entry : WalRecord × P} {entries : List (WalRecord × P)} {durableLsn first : Nat}
  {rs : Records}

section
variable {env : ReplayEnv S P D E}

def Replaying.withCalls (st : Replaying S P) (calls : Records) :
    Replaying (S × Records) P :=
  { target := (st.target, calls)
    recordsReplayed := st.recordsReplayed
    recordsSkipped := st.recordsSkipped
    recordsDiscarded := st.recordsDiscarded
    lastGoodLsn := st.lastGoodLsn
    goodTail := st.goodTail
    activeTxn := st.activeTxn
    txnBuffer := st.txnBuffer }

variable (calls : Records)

lemma applyRecord_recording {s s' : S} (h : applyRecord env s entry = .ok s') :
    applyRecord env.recording (s, calls) entry = .ok (s', calls ++ [entry.1]) := by
  unfold applyRecord at h ⊢
  cases happ : env.apply s entry.1 entry.2 with
  | error e => simp [happ] at h
  | ok t =>
    simp only [happ, Except.ok.injEq] at h
    simp only [ReplayEnv.recording, happ, h]

lemma foldlM_recording {s s' : S} (h : entries.foldlM (applyRecord env) s = .ok s') :
    entries.foldlM (applyRecord env.recording) (s, calls) =
      .ok (s', calls ++ entries.map Prod.fst) := by
  induction entries generalizing s calls with
  | nil =>
    cases h
    simp [pure, Except.pure]
  | cons entry entries ih =>
    rw [foldlM_cons] at h ⊢
    obtain ⟨t, happ, hrest⟩ := bind_ok h
    rw [applyRecord_recording calls happ]
    have hrec := ih (calls ++ [entry.1]) hrest
    simpa [bind, Except.bind] using hrec

variable {st st' : Replaying S P}

lemma ReplayCase.replayRecord_eq {y : Yielded} (h : ReplayCase env durableLsn st y st') :
    replayRecord env durableLsn st y = .ok st' := by
  cases h with
  | durable hd => simp [replayRecord, hd]
  | idleEvent habv hev hact => simp [replayRecord_event habv hev, hact]
  | busyEvent habv hev hact => simp [replayRecord_event habv hev, hact]
  | @plain p target hlive hact hoth happ =>
    have hskip := Nat.not_le.mpr hlive.above
    cases hr : env.role p with
    | txnBegin txnId n => exact absurd hr (hoth txnId n)
    | _ => simp [replayRecord, hskip, hlive.notEvent, hlive.decodes, hact, hr, happ]
  | opens hlive hact hbegin => exact replayRecord_begin hlive hact hbegin
  | overwrites hlive hact hbegin =>
    simp [replayRecord, Nat.not_le.mpr hlive.above, hlive.notEvent, hlive.decodes, hact, hbegin]
  | @member p current expected hlive hact hbegin hcomm habort hroom =>
    have hskip := Nat.not_le.mpr hlive.above
    have hfull : ¬ st.txnBuffer.length > expected := Nat.not_lt.mpr hroom
    cases hr : env.role p with
    | txnBegin txnId n => exact absurd hr (hbegin txnId n)
    | txnCommit txnId =>
      have hne : txnId ≠ current := by
        rintro rfl
        exact hcomm hr
      simp [replayRecord, hskip, hlive.notEvent, hlive.decodes, hact, hr, hne, bufferMember, hroom]
    | txnAbort txnId =>
      have hne : txnId ≠ current := by
        rintro rfl
        exact habort hr
      simp [replayRecord, hskip, hlive.notEvent, hlive.decodes, hact, hr, hne, bufferMember, hroom]
    | member =>
      rw [replayRecord_member hlive hact hr, bufferMember, if_neg hfull]
  | commits hlive hact hcomm hfold =>
    rw [replayRecord_commit hlive hact hcomm, commitTxn]
    simp only [hfold]
  | aborts hlive hact habort =>
    simp [replayRecord, Nat.not_le.mpr hlive.above, hlive.notEvent, hlive.decodes, hact, habort]

lemma ReplayCase.recording {y : Yielded} (h : ReplayCase env durableLsn st y st')
    (calls : Records) :
    ∃ calls', ReplayCase env.recording durableLsn (st.withCalls calls) y (st'.withCalls calls') := by
  have hlive : ∀ {p : P}, LiveRecord env durableLsn y.record p →
      LiveRecord env.recording durableLsn y.record p :=
    fun hl => ⟨hl.above, hl.notEvent, hl.decodes⟩
  cases h with
  | durable hd => exact ⟨calls, .durable hd⟩
  | idleEvent habv hev hact => exact ⟨calls, .idleEvent habv hev hact⟩
  | busyEvent habv hev hact => exact ⟨calls, .busyEvent habv hev hact⟩
  | plain hl hact hoth happ =>
    exact ⟨_, .plain (hlive hl) hact hoth (applyRecord_recording calls happ)⟩
  | opens hl hact hbegin => exact ⟨calls, .opens (hlive hl) hact hbegin⟩
  | overwrites hl hact hbegin => exact ⟨calls, .overwrites (hlive hl) hact hbegin⟩
  | member hl hact hbegin hcomm habort hroom =>
    exact ⟨calls, .member (hlive hl) hact hbegin hcomm habort hroom⟩
  | commits hl hact hcomm hfold =>
    exact ⟨_, .commits (hlive hl) hact hcomm (foldlM_recording calls hfold)⟩
  | aborts hl hact habort => exact ⟨calls, .aborts (hlive hl) hact habort⟩

lemma replayAll_recording {ys : List Yielded} (h : replayAll env durableLsn st ys = .ok st')
    (calls : Records) : ∃ calls', replayAll env.recording durableLsn (st.withCalls calls) ys =
      .ok (st'.withCalls calls') := by
  induction ys generalizing st calls with
  | nil =>
    cases h
    exact ⟨calls, rfl⟩
  | cons y ys ih =>
    simp only [replayAll] at h
    split at h
    · cases h
    next mid hmid =>
      obtain ⟨calls', hcase⟩ := (replayRecord_cases hmid).recording calls
      obtain ⟨calls'', hrest⟩ := ih h calls'
      exact ⟨calls'', by simp only [replayAll, hcase.replayRecord_eq, hrest]⟩
end

section
variable {env : ReplayEnv S P D E}

def liveMarks (env : ReplayEnv S P D E) (durableLsn first : Nat) (rs : Records) :
    Nat → Mark TxnId :=
  hide (durableLsn + 1 - first) (logMarks env rs)

def kept (durableLsn : Nat) (rs : Records) (i : Nat) : Bool :=
  rs[i]?.any fun r => durableLsn < r.lsn.toNat && !r.isSubscribeEvent

structure Delivering (env : ReplayEnv S P D E) (durableLsn first : Nat) (rs : Records)
    (k : Nat) (st : Replaying (S × Records) P) (d : Delivery TxnId) : Prop where
  sound : d.Sound (liveMarks env durableLsn first rs) (kept durableLsn rs) k
  applied : st.target.2 = d.given.filterMap (rs[·]?)
  held : st.txnBuffer.map Prod.fst = d.held.filterMap (rs[·]?)
  active : st.activeTxn.map Prod.fst = d.active

variable {k : Nat} {r : WalRecord}

lemma lt_hidden_iff (hlog : IsLog first rs) (hr : rs[k]? = some r) :
    k < durableLsn + 1 - first ↔ r.lsn.toNat ≤ durableLsn := by
  have hlsn := hlog.numbered.getElem? hr
  omega

variable (env) in
lemma liveMarks_above (hlog : IsLog first rs) (hr : rs[k]? = some r)
    (hd : durableLsn < r.lsn.toNat) : liveMarks env durableLsn first rs k = recordMark env r := by
  have hle : durableLsn + 1 - first ≤ k := by
    by_contra hlt
    have hdur := (lt_hidden_iff hlog hr).mp (Nat.lt_of_not_le hlt)
    omega
  rw [liveMarks, hide_of_le hle, logMarks, hr]

lemma recordMark_event (h : r.isSubscribeEvent = true) : recordMark env r = .plain := by
  simp [recordMark, h]

def TxnRole.mark : TxnRole → Mark TxnId
  | .txnBegin txnId _ => .opening txnId
  | .txnCommit txnId => .closing txnId
  | .txnAbort txnId => .dropping txnId
  | .member => .plain

lemma recordMark_live {p : P} (h : LiveRecord env durableLsn r p) :
    recordMark env r = (env.role p).mark := by
  simp only [recordMark, h.notEvent, roleOf, h.decodes, Bool.false_eq_true, if_false]
  cases env.role p <;> rfl

lemma TxnRole.mark_ne_opening {role : TxnRole} (h : ∀ t n, role ≠ .txnBegin t n) (t : TxnId) :
    role.mark ≠ .opening t := by
  cases role with
  | txnBegin t n => exact absurd rfl (h t n)
  | _ =>
    intro hops
    cases hops

lemma TxnRole.not_ends_mark {role : TxnRole} {t : TxnId} (hbegin : ∀ t n, role ≠ .txnBegin t n)
    (hcomm : role ≠ .txnCommit t) (habort : role ≠ .txnAbort t) : ¬ Ends role.mark t := by
  rintro (⟨t', hends⟩ | hends | hends)
  · exact mark_ne_opening hbegin t' hends
  · cases role <;> cases hends
    exact hcomm rfl
  · cases role <;> cases hends
    exact habort rfl

lemma kept_of_getElem? (durableLsn : Nat) (hr : rs[k]? = some r) :
    kept durableLsn rs k = (decide (durableLsn < r.lsn.toNat) && !r.isSubscribeEvent) := by
  unfold kept
  rw [hr]
  rfl

section
variable {st : Replaying (S × Records) P} {d : Delivery TxnId} {t t' : S × Records}

lemma applyRecord_calls (h : applyRecord env.recording t entry = .ok t') :
    t'.2 = t.2 ++ [entry.1] := by
  unfold applyRecord at h
  cases happ : env.apply t.1 entry.1 entry.2 with
  | error e => simp [ReplayEnv.recording, happ] at h
  | ok s =>
    simp only [ReplayEnv.recording, happ, Except.ok.injEq] at h
    rw [← h]

lemma foldlM_calls (h : entries.foldlM (applyRecord env.recording) t = .ok t') :
    t'.2 = t.2 ++ entries.map Prod.fst := by
  induction entries generalizing t with
  | nil =>
    cases h
    simp
  | cons entry entries ih =>
    obtain ⟨mid, happ, hrest⟩ := bind_ok h
    rw [ih hrest, applyRecord_calls happ]
    simp

variable {st' : Replaying (S × Records) P} {y : Yielded}

lemma Delivering.step (h : Delivering env durableLsn first rs k st d) (hlog : IsLog first rs)
    (hr : rs[k]? = some y.record) (hs : replayRecord env.recording durableLsn st y = .ok st') :
    Delivering env durableLsn first rs (k + 1) st'
      (d.read (liveMarks env durableLsn first rs) (kept durableLsn rs) k) := by
  have hkept := kept_of_getElem? durableLsn hr
  have hnow : [k].filterMap (rs[·]?) = [y.record] := by simp [hr]
  have hsound := h.sound.read fun hskip => by
    by_cases habv : durableLsn < y.record.lsn.toNat
    · rw [liveMarks_above env hlog hr habv, recordMark_event (by simpa [hkept, habv] using hskip)]
    · exact hide_of_lt ((lt_hidden_iff hlog hr).mpr (Nat.le_of_not_lt habv))
  have hkeep : ∀ {p : P}, LiveRecord env.recording durableLsn y.record p →
      kept durableLsn rs k = true := fun hl => by simp [hkept, hl.above, hl.notEvent]
  have hmark : ∀ {p : P} {role : TxnRole}, LiveRecord env.recording durableLsn y.record p →
      env.recording.role p = role → liveMarks env durableLsn first rs k = role.mark := by
    rintro p role hl rfl
    rw [liveMarks_above env hlog hr hl.above]
    exact recordMark_live ⟨hl.above, hl.notEvent, hl.decodes⟩
  cases replayRecord_cases hs with
  | durable hd =>
    rw [d.read_skip (by simp [hkept, hd])] at hsound ⊢
    exact ⟨hsound, h.applied, h.held, h.active⟩
  | idleEvent habv hev _ =>
    rw [d.read_skip (by simp [hkept, hev])] at hsound ⊢
    exact ⟨hsound, h.applied, h.held, h.active⟩
  | busyEvent habv hev _ =>
    rw [d.read_skip (by simp [hkept, hev])] at hsound ⊢
    exact ⟨hsound, h.applied, h.held, h.active⟩
  | @plain p target hl hidle hoth happ =>
    have hact : d.active = none := by rw [← h.active, hidle]; rfl
    have hpl : ∀ t, liveMarks env durableLsn first rs k ≠ .opening t := by
      intro t
      rw [hmark hl rfl]
      exact TxnRole.mark_ne_opening hoth t
    rw [d.read_idle (hkeep hl) hact hpl] at hsound ⊢
    refine ⟨hsound, ?_, h.held, congrArg _ hidle⟩
    rw [filterMap_append, hnow, ← h.applied]
    exact applyRecord_calls happ
  | opens hl _ hbegin =>
    rw [d.read_opening (hkeep hl) (hmark hl hbegin)] at hsound ⊢
    exact ⟨hsound, h.applied, hnow.symm, rfl⟩
  | overwrites hl _ hbegin =>
    rw [d.read_opening (hkeep hl) (hmark hl hbegin)] at hsound ⊢
    exact ⟨hsound, h.applied, hnow.symm, rfl⟩
  | @member p current expected hl hbusy hbegin hcomm habort _ =>
    have hact : d.active = some current := by rw [← h.active, hbusy]; rfl
    have hruns : ¬ Ends (liveMarks env durableLsn first rs k) current := by
      rw [hmark hl rfl]
      exact TxnRole.not_ends_mark hbegin hcomm habort
    rw [d.read_member (hkeep hl) hact hruns] at hsound ⊢
    refine ⟨hsound, h.applied, ?_, congrArg _ hbusy⟩
    rw [filterMap_append, hnow, ← h.held, map_append]
    rfl
  | @commits p current expected target hl hbusy hcomm hfold =>
    have hact : d.active = some current := by rw [← h.active, hbusy]; rfl
    rw [d.read_closing (hkeep hl) hact (hmark hl hcomm)] at hsound ⊢
    refine ⟨hsound, ?_, rfl, rfl⟩
    rw [filterMap_append, filterMap_append, hnow, ← h.applied, ← h.held]
    exact (foldlM_calls hfold).trans (by rw [map_append]; rfl)
  | @aborts p current expected hl hbusy habort =>
    have hact : d.active = some current := by rw [← h.active, hbusy]; rfl
    rw [d.read_dropping (hkeep hl) hact (hmark hl habort)] at hsound ⊢
    exact ⟨hsound, h.applied, rfl, rfl⟩

lemma Delivering.open_iff (h : Delivering env durableLsn first rs k st d) (t : TxnId) :
    (∃ b, Open (liveMarks env durableLsn first rs) b t k) ↔ ∃ n, st.activeTxn = some (t, n) := by
  rw [← h.sound.active, ← h.active]
  simp

def GoodTail (env : ReplayEnv S P D E) (durableLsn first : Nat) (rs : Records) (k lsn : Nat) :
    Prop :=
  (lsn = durableLsn ∧
    ∀ j, j < k → ∃ b txnId, Open (liveMarks env durableLsn first rs) b txnId (j + 1)) ∨
  ∃ i, i < k ∧ lsn = first + i ∧
    (∀ b txnId, ¬ Open (liveMarks env durableLsn first rs) b txnId (i + 1)) ∧
    ∀ j, i < j → j < k → ∃ b txnId, Open (liveMarks env durableLsn first rs) b txnId (j + 1)

lemma GoodTail.step (h : GoodTail env durableLsn first rs k st.lastGoodLsn)
    (hd : Delivering env durableLsn first rs k st d) (hlog : IsLog first rs)
    (hr : rs[k]? = some y.record) (hs : replayRecord env.recording durableLsn st y = .ok st') :
    GoodTail env durableLsn first rs (k + 1) st'.lastGoodLsn := by
  have hnext := (hd.step hlog hr hs).open_iff
  have hquiet : st.activeTxn = none ∨ durableLsn < y.record.lsn.toNat := by
    by_contra hno
    obtain ⟨hact, hdur⟩ := not_or.mp hno
    obtain ⟨txn, htxn⟩ := Option.ne_none_iff_exists'.mp hact
    obtain ⟨b, hopen⟩ := (hd.open_iff txn.1).mpr ⟨txn.2, htxn⟩
    have hb := le_of_hide_opening hopen.opens
    have hlt := hopen.lt
    have hhidden := (lt_hidden_iff hlog hr).mpr (Nat.le_of_not_lt hdur)
    omega
  obtain ⟨_, hcl, hkept⟩ := replayRecord_tail hs hquiet
  cases hact : st'.activeTxn with
  | none =>
    have hlsn := hlog.numbered.getElem? hr
    refine .inr ⟨k, Nat.lt_succ_self k, (hcl hact).1.trans hlsn, ?_, ?_⟩
    · intro b t hopen
      obtain ⟨n, hsome⟩ := (hnext t).mp ⟨b, hopen⟩
      rw [hact] at hsome
      cases hsome
    · intro j hj hjk
      omega
  | some txn =>
    obtain ⟨b, hopen⟩ := (hnext txn.1).mpr ⟨txn.2, hact⟩
    rw [(hkept (by rw [hact]; exact Option.some_ne_none _)).1]
    have hall : ∀ {P : Nat → Prop}, (∀ j, P j → j < k →
          ∃ b txnId, Open (liveMarks env durableLsn first rs) b txnId (j + 1)) →
        ∀ j, P j → j < k + 1 →
          ∃ b txnId, Open (liveMarks env durableLsn first rs) b txnId (j + 1) := by
      intro P hold j hj hjk
      rcases Nat.lt_succ_iff_lt_or_eq.mp hjk with hlt | rfl
      · exact hold j hj hlt
      · exact ⟨b, txn.1, hopen⟩
    rcases h with ⟨hlsn, hold⟩ | ⟨i, hi, hlsn, hnone, hold⟩
    · exact .inl ⟨hlsn, fun j => hall (P := fun _ => True) (fun j _ => hold j) j trivial⟩
    · exact .inr ⟨i, by omega, hlsn, hnone, hall (P := (i < ·)) hold⟩
end

lemma replayAll_delivering {ys : List Yielded} {st st' : Replaying (S × Records) P}
    {d : Delivery TxnId} (hs : replayAll env.recording durableLsn st ys = .ok st')
    (hlog : IsLog first rs) (hrest : rs.drop k = ys.map Yielded.record) (hk : k ≤ rs.length)
    (h : Delivering env durableLsn first rs k st d)
    (hgood : GoodTail env durableLsn first rs k st.lastGoodLsn) :
    (∃ d', Delivering env durableLsn first rs rs.length st' d') ∧
      GoodTail env durableLsn first rs rs.length st'.lastGoodLsn := by
  induction ys generalizing k st d with
  | nil =>
    cases hs
    have hlen : rs.length = k := by
      have hl := drop_eq_nil_iff.mp hrest
      omega
    rw [hlen]
    exact ⟨⟨d, h⟩, hgood⟩
  | cons y ys ih =>
    simp only [replayAll] at hs
    split at hs
    · cases hs
    next mid hmid =>
      have hr : rs[k]? = some y.record := by
        have hhead := congrArg (·[0]?) hrest
        simpa using hhead
      have hlt : k < rs.length := (List.getElem?_eq_some_iff.mp hr).1
      have hrest' : rs.drop (k + 1) = ys.map Yielded.record := by
        have htail := congrArg List.tail hrest
        simpa using htail
      exact ih hs hrest' hlt (h.step hlog hr hmid) (hgood.step h hlog hr hmid)

lemma filterMap_getElem?_range (rs : Records) : (List.range rs.length).filterMap (rs[·]?) = rs := by
  induction rs with
  | nil => rfl
  | cons r rs ih =>
    rw [length_cons, range_succ_eq_map, filterMap_cons, filterMap_map]
    exact congrArg (r :: ·) ih
end

section
variable {env : ReplayEnv S P D E} {i : Nat}

lemma not_open_after_end {m : Nat → Mark TxnId} {b : Nat} {txnId : TxnId} (h : Open m b txnId i)
    (hend : m i = .closing txnId ∨ m i = .dropping txnId) : ∀ b' t, ¬ Open m b' t (i + 1) := by
  intro b' t ho
  rcases open_succ_iff.mp ho with ⟨rfl, hops⟩ | ⟨ho, hends⟩
  · rcases hend with hend | hend
    · rw [hend] at hops
      cases hops
    · rw [hend] at hops
      cases hops
  · obtain ⟨_, rfl⟩ := h.unique ho
    exact hends (.inr hend)

lemma Committed.later {b : Nat} {txnId : TxnId} (h : Committed env rs b txnId)
    (hopen : Open (logMarks env rs) b txnId (i + 1)) : ∃ c, i < c ∧ c < rs.length ∧
      ∀ b' t, ¬ Open (liveMarks env durableLsn first rs) b' t (c + 1) := by
  obtain ⟨c, hc, ho, hclose⟩ := h
  refine ⟨c, ?_, hc, ?_⟩
  · by_contra hle
    exact hopen.running c ho.lt (by omega) (.inr (.inl hclose))
  · intro b' t ho'
    exact not_open_after_end ho (.inl hclose) b' t (open_hide_iff.mp ho').2

variable (env) in
lemma logMarks_of_getElem? {r : WalRecord} (hr : rs[i]? = some r) :
    logMarks env rs i = recordMark env r := by
  simp only [logMarks, hr]

lemma Boundary.le_quiet (hlog : IsLog first rs) (h : Boundary env rs durableLsn i) :
    ∃ c, i ≤ c ∧ c < rs.length ∧
      ∀ b txnId, ¬ Open (liveMarks env durableLsn first rs) b txnId (c + 1) := by
  obtain ⟨r, hr, hcase⟩ := h
  have hi : i < rs.length := (List.getElem?_eq_some_iff.mp hr).1
  have hmark := logMarks_of_getElem? env hr
  rcases hcase with hd | ⟨hev, hout⟩ | ⟨s, hs, _, _, hall⟩ | ⟨b, txnId, hopen, hend⟩
  · refine ⟨i, Nat.le_refl i, hi, ?_⟩
    intro b t ho
    have hhidden := (lt_hidden_iff hlog hr).mpr hd
    have hb := le_of_hide_opening ho.opens
    have hlt := ho.lt
    omega
  · refine ⟨i, Nat.le_refl i, hi, ?_⟩
    intro b t ho
    have hopen := (open_hide_iff.mp ho).2
    exact hout b t (hopen.within (Nat.lt_succ_iff.mp hopen.lt) (Nat.lt_succ_self i))
  · by_cases hquiet : ∃ b t, Open (liveMarks env durableLsn first rs) b t (i + 1)
    · obtain ⟨b, t, ho⟩ := hquiet
      have hopen := (open_hide_iff.mp ho).2
      have hin := hopen.within (Nat.lt_succ_iff.mp hopen.lt) (Nat.lt_succ_self i)
      obtain ⟨c, hc, hlen, hnone⟩ := (hall b t hin).later hopen
      exact ⟨c, by omega, hlen, hnone⟩
    · exact ⟨i, Nat.le_refl i, hi, fun b t ho => hquiet ⟨b, t, ho⟩⟩
  · rw [← hmark] at hend
    refine ⟨i, Nat.le_refl i, hi, ?_⟩
    intro b' t ho
    exact not_open_after_end hopen hend b' t (open_hide_iff.mp ho).2

lemma boundary_of_last_quiet (hlog : IsLog first rs) (hcut : CutsNoBracket env rs durableLsn)
    {r : WalRecord} (hr : rs[i]? = some r)
    (hquiet : ∀ b txnId, ¬ Open (liveMarks env durableLsn first rs) b txnId (i + 1))
    (hlast : ∀ j, i < j → j < rs.length →
      ∃ b txnId, Open (liveMarks env durableLsn first rs) b txnId (j + 1)) :
    Boundary env rs durableLsn i := by
  have hmark := logMarks_of_getElem? env hr
  refine ⟨r, hr, ?_⟩
  by_cases habv : durableLsn < r.lsn.toNat
  swap
  · exact .inl (Nat.le_of_not_lt habv)
  -- a bracket that is open behind the record was begun among the durable records; it would be
  -- committed later, at a position that is quiet as well
  have hnoOpen : ∀ b t, ¬ Open (logMarks env rs) b t (i + 1) := by
    intro b t hopen
    by_cases hb : durableLsn + 1 - first ≤ b
    · exact hquiet b t (open_hide_iff.mpr ⟨hb, hopen⟩)
    · have hbi := hopen.lt
      have hlen : i < rs.length := (List.getElem?_eq_some_iff.mp hr).1
      obtain ⟨begins, hbegins⟩ : ∃ x, rs[b]? = some x := ⟨_, List.getElem?_eq_getElem (by omega)⟩
      have hd := (lt_hidden_iff hlog hbegins).mp (Nat.lt_of_not_le hb)
      have hin := hopen.within (Nat.lt_succ_iff.mp hbi) (Nat.lt_succ_self i)
      have hcommitted := hcut b t i begins r hbegins hr hin hd habv
      have hlater : ∃ c, i < c ∧ c < rs.length ∧
          ∀ b' t, ¬ Open (liveMarks env durableLsn first rs) b' t (c + 1) := hcommitted.later hopen
      obtain ⟨c, hc, hclen, hnone⟩ := hlater
      obtain ⟨b', t', ho⟩ := hlast c hc hclen
      exact hnone b' t' ho
  by_cases hev : r.isSubscribeEvent = true
  · refine .inr (.inl ⟨hev, ?_⟩)
    rintro b t (⟨rfl, hops⟩ | ⟨hopen, _⟩)
    · rw [hmark, recordMark_event hev] at hops
      cases hops
    · refine hnoOpen b t (open_succ_iff.mpr (.inr ⟨hopen, ?_⟩))
      rw [hmark, recordMark_event hev]
      exact not_ends_plain t
  · by_cases hends : ∃ b t, Open (logMarks env rs) b t i ∧
        (recordMark env r = .closing t ∨ recordMark env r = .dropping t)
    · exact .inr (.inr (.inr hends))
    · refine .inr (.inr (.inl ⟨r, hr, by simpa using hev, habv, ?_⟩))
      rintro b t (⟨rfl, hops⟩ | ⟨hopen, hpl⟩)
      · exact absurd (open_succ_iff.mpr (.inl ⟨rfl, hops⟩)) (hnoOpen b t)
      · refine absurd (open_succ_iff.mpr (.inr ⟨hopen, ?_⟩)) (hnoOpen b t)
        rintro (⟨t', ht⟩ | hend)
        · exact hpl t' ht
        · rw [hmark] at hend
          exact hends ⟨b, t, hopen, hend⟩
end

section
variable {env : ReplayEnv S P D E} {crc : Checksum} {dir : WalDir}
  {uuid : ShardUuid}

def dirRecords (crc : Checksum) (dir : WalDir) (uuid : ShardUuid) :
    Records :=
  (WalReader.readDir crc dir uuid).yielded.map Yielded.record

lemma recover_isLog {s s' : S} {rep : RecoveryReport}
    (h : recover env crc dir uuid s = .ok (rep, s')) :
    ∃ first, IsLog first (dirRecords crc dir uuid) := by
  obtain ⟨infos, _, hopen, _, herror, _, _⟩ := recover_ok h
  by_cases hne : infos = []
  · subst hne
    refine ⟨0, ?_⟩
    simp only [dirRecords, WalReader.readDir, hopen]
    exact IsLog.nil 0
  · obtain ⟨v⟩ := readableDir_of_drain hopen hne herror
    refine ⟨v.firstLsn, ?_⟩
    rw [dirRecords, v.readDir_records]
    exact v.records_isLog

def ResumesAfterLastBoundary (env : ReplayEnv S P D E) (rs : Records)
    (durableLsn nextLsn : Nat) : Prop :=
  ((∀ i, ¬ Boundary env rs durableLsn i) ∧ nextLsn = durableLsn + 1) ∨
  ∃ i r, rs[i]? = some r ∧ Boundary env rs durableLsn i ∧
    (∀ j, Boundary env rs durableLsn j → j ≤ i) ∧ nextLsn = r.lsn.toNat + 1

lemma GoodTail.resumes {lsn : Nat} (h : GoodTail env durableLsn first rs rs.length lsn)
    (hlog : IsLog first rs) (hcut : CutsNoBracket env rs durableLsn) :
    ResumesAfterLastBoundary env rs durableLsn (lsn + 1) := by
  rcases h with ⟨hlsn, hall⟩ | ⟨i, hi, hlsn, hquiet, hall⟩
  · refine .inl ⟨?_, by omega⟩
    intro j hj
    obtain ⟨c, _, hc, hnone⟩ := hj.le_quiet hlog
    obtain ⟨b, t, ho⟩ := hall c hc
    exact hnone b t ho
  · have hr : rs[i]? = some rs[i] := List.getElem?_eq_getElem hi
    refine .inr ⟨i, rs[i], hr, boundary_of_last_quiet hlog hcut hr hquiet hall, ?_, ?_⟩
    · intro j hj
      obtain ⟨c, hjc, hc, hnone⟩ := hj.le_quiet hlog
      by_contra hlt
      obtain ⟨b, t, ho⟩ := hall c (by omega) hc
      exact hnone b t ho
    · have hnumber := hlog.numbered.getElem? hr
      omega

/-- The arena and the sink receive, in log order and each once, exactly the records to be delivered,
and the log resumes after the last boundary. -/
theorem recover_delivers {s s' : S} {rep : RecoveryReport}
    (h : recover env crc dir uuid s = .ok (rep, s'))
    (hcut : CutsNoBracket env (dirRecords crc dir uuid) (env.durableLsn s)) :
    ∃ calls, recover env.recording crc dir uuid (s, []) = .ok (rep, (s', calls)) ∧
      calls.Sublist (dirRecords crc dir uuid) ∧ (∀ i r, (dirRecords crc dir uuid)[i]? = some r →
        (r ∈ calls ↔ Delivered env (dirRecords crc dir uuid) (env.durableLsn s) i)) ∧
      ResumesAfterLastBoundary env (dirRecords crc dir uuid) (env.durableLsn s) rep.nextLsn := by
  obtain ⟨first, hlog⟩ := recover_isLog h
  obtain ⟨infos, st, hopen, hrep, herror, hreport, htgt⟩ := recover_ok h
  have hrs : dirRecords crc dir uuid =
      (WalReader.drain crc infos).yielded.map Yielded.record := by
    simp only [dirRecords, WalReader.readDir, hopen]
  generalize hd : env.durableLsn s = durableLsn at *
  generalize dirRecords crc dir uuid = rs at *
  obtain ⟨calls, hcalls⟩ := replayAll_recording hrep []
  have hbeg : ((replayStart s durableLsn : Replaying S P).withCalls []) =
      replayStart (s, []) durableLsn := rfl
  rw [hbeg] at hcalls
  have hinit : Delivering env durableLsn first rs 0 (replayStart (s, []) durableLsn) ⟨[], [], none⟩ :=
    ⟨.start, rfl, rfl, rfl⟩
  have hgood : GoodTail env durableLsn first rs 0
      (replayStart (s, []) durableLsn : Replaying (S × Records) P).lastGoodLsn :=
    Or.inl ⟨rfl, fun j hj => absurd hj (Nat.not_lt_zero j)⟩
  obtain ⟨⟨d, hdone⟩, htail⟩ := replayAll_delivering hcalls hlog (by rw [drop_zero, hrs])
    (Nat.zero_le _) hinit hgood
  have happlied : calls = d.given.filterMap (rs[·]?) := hdone.applied
  refine ⟨calls, ?_, ?_, ?_, ?_⟩
  · have hdur : env.recording.durableLsn (s, []) = durableLsn := hd
    simp only [recover, hopen, hdur, hcalls, herror, hreport, htgt]
    rfl
  · have hsub := ((sublist_append_left _ _).trans hdone.sound.ordered).filterMap (rs[·]?)
    rwa [filterMap_getElem?_range, ← happlied] at hsub
  · intro i r hr
    have hi : i < rs.length := (List.getElem?_eq_some_iff.mp hr).1
    -- a record stands at one position
    have hmem : r ∈ calls ↔ i ∈ d.given := by
      rw [happlied, mem_filterMap]
      constructor
      · rintro ⟨j, hj, hjr⟩
        have hlsn := hlog.numbered.getElem? hr
        have hlsn' := hlog.numbered.getElem? hjr
        rwa [show i = j by omega]
      · intro hi
        exact ⟨i, hi, hr⟩
    rw [hmem, hdone.sound.mem_given, kept_of_getElem? durableLsn hr, Bool.and_eq_true_iff,
      Bool.not_eq_true', decide_eq_true_eq]
    constructor
    · rintro ⟨-, ⟨habv, hev⟩, hall⟩
      refine ⟨r, hr, hev, habv, ?_⟩
      intro b txnId hin
      by_cases hb : durableLsn + 1 - first ≤ b
      · have hvisible := hb.trans hin.le
        have hcl := hall b txnId ((within_hide_iff hvisible).mpr ⟨hb, hin⟩)
        exact (closedBefore_hide_iff.mp hcl).2
      · have hle := hin.le
        obtain ⟨begins, hbegins⟩ : ∃ x, rs[b]? = some x := ⟨_, List.getElem?_eq_getElem (by omega)⟩
        have hdur := (lt_hidden_iff hlog hbegins).mp (Nat.lt_of_not_le hb)
        exact hcut b txnId i begins r hbegins hr hin hdur habv
    · rintro ⟨s, hs, hev, habv, hall⟩
      rw [hr] at hs
      cases hs
      refine ⟨hi, ⟨habv, hev⟩, ?_⟩
      intro b txnId hin
      have hvisible : durableLsn + 1 - first ≤ i := by
        by_contra hlt
        have hle := (lt_hidden_iff hlog hr).mp (Nat.lt_of_not_le hlt)
        omega
      obtain ⟨hb, hwithin⟩ := (within_hide_iff hvisible).mp hin
      exact closedBefore_hide_iff.mpr ⟨hb, hall b txnId hwithin⟩
  · have hresumes := htail.resumes hlog hcut
    rw [hreport]
    exact hresumes
end

section

def feedRecordAt (lsn : UInt64) : WalRecord :=
  { recordAt lsn (.checkpointBegin 7 0) with flags := flagSubscribeEvent }

def danglingDir (r : WalRecord) : WalDir := [segmentOf 0 1 [recordAt 1 (.txnBegin txnZero 2), r]]

/-- Two logs with a dangling bracket. An event inside it is skipped, yet the log resumes before
the bracket; and with the bracket's begin durable, a record of the bracket reaches the sink. -/
theorem dangling_bracket_differs :
    (∃ rep, recover acceptingEnv zeroCrc (danglingDir (feedRecordAt 2)) zeroUuid () =
        .ok (rep, ()) ∧ rep.nextLsn = 1 ∧ rep.recordsSkipped = 1) ∧
    (∃ rep, recover durableEnv.recording zeroCrc
        (danglingDir (recordAt 2 (.checkpointBegin 7 0))) zeroUuid (1, []) =
          .ok (rep, (1, [recordAt 2 (.checkpointBegin 7 0)]))) ∧ Within (logMarks durableEnv
      [recordAt 1 (.txnBegin txnZero 2), recordAt 2 (.checkpointBegin 7 0)]) 0 txnZero 1 ∧
    ¬ Committed durableEnv
      [recordAt 1 (.txnBegin txnZero 2), recordAt 2 (.checkpointBegin 7 0)] 0 txnZero := by
  have hfst : logMarks durableEnv
      [recordAt 1 (.txnBegin txnZero 2), recordAt 2 (.checkpointBegin 7 0)] 0 = .opening txnZero := by
    decide +kernel
  have hsnd : logMarks durableEnv
      [recordAt 1 (.txnBegin txnZero 2), recordAt 2 (.checkpointBegin 7 0)] 1 = .plain := by
    decide +kernel
  refine ⟨?_, ?_, ?_, ?_⟩
  · have hrun : (recover acceptingEnv zeroCrc (danglingDir (feedRecordAt 2)) zeroUuid ()).map
        (fun p => (p.1.nextLsn, p.1.recordsSkipped)) = .ok (1, 1) := by decide +kernel
    obtain ⟨⟨rep, _⟩, hrecover, heq⟩ := map_ok hrun
    exact ⟨rep, hrecover, Prod.mk.inj heq⟩
  · obtain ⟨rep, hrecover, _⟩ : ∃ rep, recover durableEnv.recording zeroCrc
        (danglingDir (recordAt 2 (.checkpointBegin 7 0))) zeroUuid (1, []) =
          .ok (rep, (1, [recordAt 2 (.checkpointBegin 7 0)])) ∧ rep.nextLsn = 3 :=
      recover_of_eval (by decide +kernel)
    exact ⟨rep, hrecover⟩
  · refine Or.inr ⟨⟨hfst, Nat.zero_lt_one, fun j hj hj1 => by omega⟩, ?_⟩
    intro t hops
    cases hops
  · rintro ⟨c, hc, hopen, hclose⟩
    have hlt := hopen.lt
    have hc1 : c = 1 := by
      simp only [length_cons, length_nil] at hc
      omega
    rw [hc1, hsnd] at hclose
    cases hclose

theorem recover_dangling_begin :
    ∃ rep calls, recover acceptingEnv.recording zeroCrc danglingWithin zeroUuid ((), []) =
        .ok (rep, ((), calls)) ∧ calls.Sublist (dirRecords zeroCrc danglingWithin zeroUuid) ∧
      ResumesAfterLastBoundary acceptingEnv (dirRecords zeroCrc danglingWithin zeroUuid) 0
        rep.nextLsn := by
  have hlsns : (dirRecords zeroCrc danglingWithin zeroUuid).all (fun r => 0 < r.lsn.toNat) = true := by
    decide +kernel
  obtain ⟨rep, hrecover, _⟩ := recover_danglingWithin
  generalize danglingWithin = dir at hlsns hrecover ⊢
  have hcut : CutsNoBracket acceptingEnv (dirRecords zeroCrc dir zeroUuid) 0 := by
    intro b txnId i begins r hbegins _ _ hle _
    have hpos := List.all_eq_true.mp hlsns begins (mem_of_getElem? hbegins)
    simp only [decide_eq_true_eq] at hpos
    omega
  obtain ⟨calls, hcalls, hsub, _, hresumes⟩ := recover_delivers hrecover hcut
  exact ⟨_, calls, hcalls, hsub, hresumes⟩
end
end BrainDb
