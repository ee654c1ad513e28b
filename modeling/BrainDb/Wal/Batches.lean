import BrainDb.Wal.Brackets
import BrainDb.Wal.Interleave
import BrainDb.Wal.Reopen

namespace BrainDb
open ListSet
open List Option WalSystem Call

def HasRole {S P D E : Type} (env : ReplayEnv S P D E) (r : WalRecord) (role : TxnRole) : Prop :=
  r.isSubscribeEvent = false ∧ ∃ p, env.typedPayload r = .ok p ∧ env.role p = role

/-- The calls the writer makes: `append` of an event or of a record outside any bracket, and
`append_many` of a begin record with its member count, the members, and the commit. -/
inductive IsCall {S P D E : Type} (env : ReplayEnv S P D E) : Records → Prop
  | event {r : WalRecord} : r.isSubscribeEvent = true → IsCall env [r]
  | single {r : WalRecord} : HasRole env r .member → IsCall env [r]
  | batch {txnId : TxnId} {first last : WalRecord} {members : Records} :
      HasRole env first (.txnBegin txnId members.length) →
      (∀ r ∈ members, HasRole env r .member) → HasRole env last (.txnCommit txnId) →
      IsCall env (first :: (members ++ [last]))

variable {crc : Checksum} {S P D E : Type} {before submitted log : Records}
  {b : Option OpenBracket} {s : WalSystem} {seq n : Nat} {taken : Records}

section
variable {env : ReplayEnv S P D E}

lemma bracketRun_members (txnId : TxnId) {expected m : Nat} {members : Records}
    (h : ∀ r ∈ members, HasRole env r .member) (hle : m + members.length ≤ expected) :
    bracketRun env (some ⟨txnId, expected, m⟩) members =
      some (some ⟨txnId, expected, m + members.length⟩) := by
  induction members generalizing m with
  | nil => rfl
  | cons r rs ih =>
    simp only [length_cons] at hle
    obtain ⟨hev, p, hp, hrole⟩ := h r mem_cons_self
    have hstep : bracketStep env (some ⟨txnId, expected, m⟩) r =
        some (some ⟨txnId, expected, m + 1⟩) := by
      simp [bracketStep, hev, hp, hrole, show m < expected by omega]
    rw [bracketRun, hstep]
    simp only
    rw [ih (fun s hs => h s (mem_cons_of_mem r hs)) (by omega), length_cons,
      Nat.add_assoc, Nat.add_comm 1]

variable {rs : Records}

lemma IsCall.bracketRun (h : IsCall env rs) : bracketRun env none rs = some none := by
  cases h with
  | event hev => simp [BrainDb.bracketRun, bracketStep, hev]
  | single hr =>
    obtain ⟨hev, p, hp, hrole⟩ := hr
    simp [BrainDb.bracketRun, bracketStep, hev, hp, hrole]
  | @batch txnId first last members hfst hmembers hlast =>
    obtain ⟨hev, p, hp, hrole⟩ := hfst
    obtain ⟨hevent', p', hp', hrole'⟩ := hlast
    have hopen : bracketStep env none first = some (some ⟨txnId, members.length, 0⟩) := by
      simp [bracketStep, hev, hp, hrole]
    have hcl : bracketStep env (some ⟨txnId, members.length, members.length⟩) last =
        some none := by
      simp [bracketStep, hevent', hp', hrole']
    have hmid := bracketRun_members (m := 0) txnId hmembers (Nat.zero_add _).le
    rw [Nat.zero_add] at hmid
    simp only [BrainDb.bracketRun, hopen, bracketRun_append, hmid, bind_some, hcl]

lemma IsCall.of_event {r : WalRecord} (h : IsCall env (r :: rs))
    (hev : r.isSubscribeEvent = true) : rs = [] := by
  cases h with
  | event _ => rfl
  | single _ => rfl
  | batch hfst _ _ => simp [hfst.1] at hev

def unstamped (r : WalRecord) : WalRecord := { r with lsn := 0 }

lemma map_unstamped_stampFrom (m : Nat) (rs : Records) :
    (stampFrom m rs).map unstamped = rs.map unstamped := by
  induction rs generalizing m with
  | nil => rfl
  | cons r rs ih => simp only [stampFrom, map_cons, ih, unstamped]

def StampFree (env : ReplayEnv S P D E) : Prop :=
  ∀ r lsn, env.typedPayload { r with lsn := lsn } = env.typedPayload r

lemma bracketRun_stampFrom (hts : StampFree env) (b : Option OpenBracket) (m : Nat)
    (rs : Records) : bracketRun env b (stampFrom m rs) = bracketRun env b rs := by
  induction rs generalizing b m with
  | nil => rfl
  | cons r rs ih =>
    have hstep : bracketStep env b { r with lsn := UInt64.ofNat m } = bracketStep env b r := by
      have hp := hts r (UInt64.ofNat m)
      unfold bracketStep
      rw [hp]
      rfl
    simp only [stampFrom, BrainDb.bracketRun, hstep, ih]

def Call.midBatch (c : Call) : Prop := c.left ≠ [] ∧ c.left.length < c.submitted.length

structure Assembled (env : ReplayEnv S P D E) (before submitted : Records)
    (calls : List Call) (log : Records) (b : Option OpenBracket) : Prop where
  run : bracketRun env none log = some b
  isCall : ∀ {i : Nat} {c : Call}, calls[i]? = some c → IsCall env c.submitted
  suffix : ∀ {i : Nat} {c : Call}, calls[i]? = some c → c.left <:+ c.submitted
  mid : ∀ {i : Nat} {c : Call}, calls[i]? = some c → c.midBatch →
    bracketRun env b c.left = some none
  unique : ∀ {i j : Nat} {c d : Call}, calls[i]? = some c → calls[j]? = some d → c.midBatch →
    d.midBatch → i = j
  opened : b ≠ none → ∃ (i : Nat) (c : Call), calls[i]? = some c ∧ c.midBatch
  settled : ∀ {i : Nat} {c : Call}, calls[i]? = some c →
    c.state = .awaiting ∨ c.state = .returned → c.left = []
  contents : (log.map unstamped ++ (calls.flatMap left).map unstamped).Perm
    (before.map unstamped ++ submitted.map unstamped)

variable {calls : List Call} {i : Nat} {c c' : Call}

lemma Assembled.setCall (h : Assembled env before submitted calls log b)
    (hc : calls[i]? = some c) (hsub : c'.submitted = c.submitted) (hleft : c'.left = c.left)
    (hset : c'.state = .awaiting ∨ c'.state = .returned → c'.left = []) :
    Assembled env before submitted (calls.set i c') log b := by
  have hmid : c'.midBatch ↔ c.midBatch := by simp only [midBatch, hsub, hleft]
  -- every call of the new list has the records of the call it stands for
  have hold : ∀ {j : Nat} {d : Call}, (calls.set i c')[j]? = some d →
      ∃ e, calls[j]? = some e ∧ d.submitted = e.submitted ∧ d.left = e.left := by
    intro j d hd
    rcases getElem?_set_some hd with ⟨rfl, rfl⟩ | ⟨_, hd⟩
    · exact ⟨c, hc, hsub, hleft⟩
    · exact ⟨d, hd, rfl, rfl⟩
  refine ⟨h.run, ?_, ?_, ?_, ?_, ?_, ?_, ?_⟩
  · intro j d hd
    obtain ⟨e, he, hse, _⟩ := hold hd
    rw [hse]
    exact h.isCall he
  · intro j d hd
    obtain ⟨e, he, hse, hle⟩ := hold hd
    rw [hse, hle]
    exact h.suffix he
  · intro j d hd hm
    obtain ⟨e, he, hse, hle⟩ := hold hd
    rw [midBatch, hse, hle] at hm
    rw [hle]
    exact h.mid he hm
  · intro j k d e hd he hm hm'
    obtain ⟨d', hd', hsd, hld⟩ := hold hd
    obtain ⟨e', he', hse, hle⟩ := hold he
    rw [midBatch, hsd, hld] at hm
    rw [midBatch, hse, hle] at hm'
    exact h.unique hd' he' hm hm'
  · intro hb
    obtain ⟨j, d, hd, hm⟩ := h.opened hb
    by_cases hji : j = i
    · subst hji
      rw [hc] at hd
      cases hd
      exact ⟨j, c', ListSet.getElem?_set_self hc c', hmid.mpr hm⟩
    · exact ⟨j, d, ListSet.getElem?_set_other hji hd c', hm⟩
  · intro j d hd hs
    rcases getElem?_set_some hd with ⟨_, rfl⟩ | ⟨_, hd⟩
    · exact hset hs
    · exact h.settled hd hs
  · have hperm := flatMap_set_perm (f := left) (x := []) (a := c') hc
      (by rw [hleft, nil_append])
    exact ((hperm.symm.map unstamped).append_left _).trans h.contents

lemma Assembled.take (h : Assembled env before submitted calls log b) (hts : StampFree env)
    (hc : calls[i]? = some c) (hsub : c'.submitted = c.submitted)
    (hleft : c.left = taken ++ c'.left) (hne : taken ≠ [])
    (hset : c'.state = .awaiting ∨ c'.state = .returned → c'.left = []) (m : Nat)
    (hrun : bracketRun env b c.left = some none)
    (halone : ∀ {j : Nat} {d : Call}, calls[j]? = some d → d.midBatch → j = i) :
    ∃ b', Assembled env before submitted (calls.set i c') (log ++ stampFrom m taken) b' := by
  rw [hleft] at hrun
  obtain ⟨b', htk, hrest⟩ := bracketRun_append_some hrun
  have hsuffix := h.suffix hc
  rw [hleft] at hsuffix
  have hshort : c'.left.length < c'.submitted.length := by
    have hle := hsuffix.length_le
    have hpos : 0 < taken.length := length_pos_of_ne_nil hne
    rw [length_append] at hle
    rw [hsub]
    omega
  have hself : ∀ {j : Nat} {d : Call}, (calls.set i c')[j]? = some d → d.midBatch →
      j = i ∧ d = c' := by
    intro j d hd hm
    rcases getElem?_set_some hd with hself | ⟨hji, hd⟩
    · exact hself
    · exact absurd (halone hd hm) hji
  refine ⟨b', ?_, ?_, ?_, ?_, ?_, ?_, ?_, ?_⟩
  · rw [bracketRun_append, h.run, bind_some, bracketRun_stampFrom hts]
    exact htk
  · intro j d hd
    rcases getElem?_set_some hd with ⟨_, rfl⟩ | ⟨_, hd⟩
    · rw [hsub]
      exact h.isCall hc
    · exact h.isCall hd
  · intro j d hd
    rcases getElem?_set_some hd with ⟨_, rfl⟩ | ⟨_, hd⟩
    · rw [hsub]
      exact (suffix_append taken _).trans hsuffix
    · exact h.suffix hd
  · intro j d hd hm
    obtain ⟨_, rfl⟩ := hself hd hm
    exact hrest
  · intro j k d e hd he hm hm'
    rw [(hself hd hm).1, (hself he hm').1]
  · intro hb
    refine ⟨i, c', ListSet.getElem?_set_self hc c', ?_, hshort⟩
    intro hnil
    rw [hnil] at hrest
    exact hb (Option.some.inj hrest)
  · intro j d hd hs
    rcases getElem?_set_some hd with ⟨_, rfl⟩ | ⟨_, hd⟩
    · exact hset hs
    · exact h.settled hd hs
  · have hperm := (flatMap_set_perm (f := left) hc hleft).map unstamped
    rw [map_append] at hperm
    rw [map_append, map_unstamped_stampFrom, append_assoc]
    exact (hperm.symm.append_left _).trans h.contents

lemma Assembled.event (h : Assembled env before submitted calls log b) (hts : StampFree env)
    (hc : calls[i]? = some c) (hsub : c'.submitted = c.submitted) {r : WalRecord}
    (hleft : c.left = [r]) (hsubmitted : c.submitted = [r]) (hleft' : c'.left = [])
    (hev : r.isSubscribeEvent = true) (m : Nat) :
    Assembled env before submitted (calls.set i c') (log ++ stampFrom m [r]) b := by
  have hoth : ∀ {j : Nat} {d : Call}, (calls.set i c')[j]? = some d → d.midBatch →
      calls[j]? = some d := by
    intro j d hd hm
    rcases getElem?_set_some hd with ⟨_, rfl⟩ | ⟨_, hd⟩
    · exact absurd hleft' hm.1
    · exact hd
  refine ⟨?_, ?_, ?_, ?_, ?_, ?_, ?_, ?_⟩
  · rw [bracketRun_append, h.run, bind_some, bracketRun_stampFrom hts]
    simp [BrainDb.bracketRun, bracketStep, hev]
  · intro j d hd
    rcases getElem?_set_some hd with ⟨_, rfl⟩ | ⟨_, hd⟩
    · rw [hsub]
      exact h.isCall hc
    · exact h.isCall hd
  · intro j d hd
    rcases getElem?_set_some hd with ⟨_, rfl⟩ | ⟨_, hd⟩
    · rw [hleft']
      exact nil_suffix
    · exact h.suffix hd
  · intro j d hd hm
    exact h.mid (hoth hd hm) hm
  · intro j k d e hd he hm hm'
    exact h.unique (hoth hd hm) (hoth he hm') hm hm'
  · intro hb
    obtain ⟨j, d, hd, hm⟩ := h.opened hb
    have hji : j ≠ i := by
      rintro rfl
      rw [hc] at hd
      cases hd
      have hlt := hm.2
      rw [hleft, hsubmitted] at hlt
      exact Nat.lt_irrefl _ hlt
    exact ⟨j, d, ListSet.getElem?_set_other hji hd c', hm⟩
  · intro j d hd hs
    rcases getElem?_set_some hd with ⟨_, rfl⟩ | ⟨_, hd⟩
    · exact hleft'
    · exact h.settled hd hs
  · have hperm := (flatMap_set_perm (f := left) (x := [r]) (a := c') hc
      (by rw [hleft, hleft', append_nil])).map unstamped
    rw [map_append, map_unstamped_stampFrom, append_assoc]
    exact (hperm.symm.append_left _).trans h.contents
end

namespace WalSystem

def Enqueues (s : WalSystem) (a : WalStep) (i : Nat) (r : WalRecord) : Prop :=
  ∃ c, s.calls[i]? = some c ∧ c.left.head? = some r ∧
    (((a = .start i ∨ a = .acquire i) ∧ ∃ bytes, s.wal.admission r = .fits bytes) ∨
      ∃ t, a = .install i t)

def Undisturbed (s : WalSystem) (a : WalStep) : Prop :=
  ∀ i r, s.Enqueues a i r → r.isSubscribeEvent = false →
    ∀ (j : Nat) (d : Call), s.calls[j]? = some d → d.midBatch → j = i

def QuietRun (crc : Checksum) : WalSystem → List WalStep → Prop
  | _, [] => True
  | s, a :: as => s.Undisturbed a ∧ ∀ s', s.step crc a = some s' → QuietRun crc s' as

variable {env : ReplayEnv S P D E} {s' : WalSystem} {a : WalStep}

lemma assembled_loop (h : Assembled env before submitted s.calls log b) (hts : StampFree env)
    {i : Nat} {c c' : Call} (hc : s.calls[i]? = some c) {w w' : Wal}
    (hspec : LoopSpec w c w' c' taken)
    (hquiet : ∀ r rest, taken = r :: rest → r.isSubscribeEvent = false →
      ∀ (j : Nat) (d : Call), s.calls[j]? = some d → d.midBatch → j = i) :
    ∃ b', Assembled env before submitted (s.calls.set i c') (log ++ stampFrom w.nextLsn taken) b' := by
  have hset : c'.state = .awaiting ∨ c'.state = .returned → c'.left = [] := by
    intro hs
    rcases hspec.state with hf | ⟨hnil, _⟩ | ⟨_, hq | hq, _⟩
    · rw [hf] at hs
      simp at hs
    · exact hnil
    · rw [hq] at hs
      simp at hs
    · rw [hq] at hs
      simp at hs
  cases taken with
  | nil =>
    rw [stampFrom, append_nil]
    exact ⟨b, h.setCall hc hspec.submitted_eq hspec.left_eq.symm hset⟩
  | cons r rest =>
    have hne : c.left ≠ [] := by
      rw [hspec.left_eq]
      simp
    by_cases hmid : c.midBatch
    · exact h.take hts hc hspec.submitted_eq hspec.left_eq (cons_ne_nil r rest) hset _
        (h.mid hc hmid) fun hd hm => h.unique hd hc hm hmid
    have hnew : c.left = c.submitted := by
      have hsuffix := h.suffix hc
      refine hsuffix.eq_of_length_le ?_
      by_contra hlt
      exact hmid ⟨hne, Nat.lt_of_not_le hlt⟩
    by_cases hothers : ∃ (j : Nat) (d : Call), s.calls[j]? = some d ∧ d.midBatch
    · -- another batch is open, so the record is an event and the call is done with it
      obtain ⟨j, d, hd, hm⟩ := hothers
      have hji : j ≠ i := by
        rintro rfl
        rw [hc] at hd
        cases hd
        exact hmid hm
      have hev : r.isSubscribeEvent = true := by
        by_contra hne
        exact hji (hquiet r rest rfl (by simpa using hne) j d hd hm)
      have hcall := h.isCall hc
      rw [← hnew, hspec.left_eq, cons_append] at hcall
      have hnil := hcall.of_event hev
      obtain ⟨hrest, hleft'⟩ := append_eq_nil_iff.mp hnil
      subst hrest
      have hleft : c.left = [r] := by rw [hspec.left_eq, hleft', append_nil]
      exact ⟨b, h.event hts hc hspec.submitted_eq hleft (hnew ▸ hleft) hleft' hev _⟩
    · have hnone : b = none := by
        by_contra hb
        exact hothers (h.opened hb)
      refine h.take hts hc hspec.submitted_eq hspec.left_eq (cons_ne_nil r rest) hset _ ?_ ?_
      · rw [hnone, hnew]
        exact (h.isCall hc).bracketRun
      · intro j d hd hm
        exact absurd ⟨j, d, hd, hm⟩ hothers

structure Good (env : ReplayEnv S P D E) (crc : Checksum) (seq n : Nat)
    (before submitted : Records) (s : WalSystem) : Prop where
  permit : s.Permit
  kept : ∃ log b, s.Stored crc seq n log ∧ Assembled env before submitted s.calls log b

lemma Good.move (h : s.Good env crc seq n before submitted) (hts : StampFree env)
    (hquiet : s.Undisturbed a) (hm : Move crc s a s') (hlsn : s'.wal.nextLsn < 2 ^ 64)
    (hseq : s'.wal.activeSegmentSeq < 10 ^ 10) : s'.Good env crc seq n before submitted := by
  obtain ⟨log, b, hstor, hall⟩ := h.kept
  refine ⟨h.permit.move hm, ?_⟩
  cases hm with
  | @resume _ i c hc hst =>
    obtain ⟨taken, hspec⟩ := s.wal.runLoop_spec c
    obtain ⟨b', hb'⟩ := assembled_loop hall hts hc hspec (by
      intro r rest htk hev
      refine hquiet i r ⟨c, hc, ?_, .inl ⟨?_, hspec.admitted r rest htk⟩⟩ hev
      · rw [hspec.left_eq, htk]
        rfl
      · exact hst.imp And.left And.left)
    exact ⟨_, b', hstor.loop hc hspec hstor.holds rfl rfl rfl hlsn.le, hb'⟩
  | @install i q l t c hc hst hqueue =>
    obtain ⟨taken, hspec⟩ := (s.wal.installSegment crc q l t).runLoop_spec c
    obtain ⟨_, hq, hl⟩ := h.permit.rolling hc hst
    obtain ⟨hq', hl'⟩ := hspec.installed hlsn hseq
    have hinstall := hstor.holds.installSegment hqueue hq hl hq' (hl.trans_lt hl') t
    obtain ⟨b', hb'⟩ := assembled_loop hall hts hc hspec (by
      intro r rest htk hev
      refine hquiet i r ⟨c, hc, ?_, .inr ⟨t, rfl⟩⟩ hev
      rw [hspec.left_eq, htk]
      rfl)
    exact ⟨_, b', hstor.loop hc hspec hinstall rfl rfl rfl hlsn.le, hb'⟩
  | @flush k _ => exact ⟨log, b, hstor.flush k, hall⟩
  | @settle _ i c handles state hc hack hst =>
    refine ⟨log, b, hstor.settle hc hack, hall.setCall hc rfl rfl ?_⟩
    intro hs
    rcases hst with ⟨q, _, rfl⟩ | ⟨hawait, _⟩
    · simp at hs
    · have hleft : c.left = [] := hall.settled hc (.inl hawait)
      exact hleft
  | @rollover i q c hc hst _ _ _ =>
    refine ⟨log, b, hstor.rollover hc, hall.setCall hc rfl rfl ?_⟩
    intro hs
    simp at hs

lemma Good.run {as : List WalStep} (h : s.Good env crc seq n before submitted)
    (hts : StampFree env) (hrun : s.run crc as = some s') (hquiet : QuietRun crc s as)
    (hlsn : s'.wal.nextLsn < 2 ^ 64) (hseq : s'.wal.activeSegmentSeq < 10 ^ 10) :
    s'.Good env crc seq n before submitted ∨ s'.SomeFailed := by
  induction as generalizing s with
  | nil =>
    cases hrun
    exact .inl h
  | cons a as ih =>
    obtain ⟨mid, hstep, hrun⟩ := run_cons hrun
    obtain ⟨hfst, hrest⟩ := hquiet
    obtain ⟨hl, ha⟩ := run_mono (h.permit.step hstep) hrun
    rcases step_cases hstep with hmove | hfail
    · exact ih (h.move hts hfst hmove (hl.trans_lt hlsn) (ha.trans_lt hseq)) hrun
        (hrest mid hstep)
    · obtain ⟨_, _, hstor, _⟩ := h.kept
      exact .inr (run_invariant step_someFailed (hfail.someFailed hstor.owned) hrun)

end WalSystem

structure Wal.Fresh {S P D E : Type} (env : ReplayEnv S P D E) (crc : Checksum) (w : Wal)
    (seq n : Nat) (log : Records) : Prop where
  holds : w.HoldsLog crc seq n log
  queue_nil : w.queue = []
  acked_nil : w.acked = []
  bracketed : bracketRun env none log = some none

section
variable {env : ReplayEnv S P D E} {w : Wal} {calls : List Records}

lemma getElem?_launch {i : Nat} {c : Call} (h : (launch w calls).calls[i]? = some c) :
    c.submitted ∈ calls ∧ c.left = c.submitted ∧ c.state = .ready := by
  simp only [launch, List.getElem?_map, map_eq_some_iff] at h
  obtain ⟨rs, hrs, rfl⟩ := h
  exact ⟨mem_of_getElem? hrs, rfl, rfl⟩

lemma good_launch (hw : w.Fresh env crc seq n before) (hcalls : ∀ rs ∈ calls, IsCall env rs) :
    (launch w calls).Good env crc seq n before calls.flatten := by
  have hnotMid : ∀ {i : Nat} {c : Call}, (launch w calls).calls[i]? = some c →
      ¬ c.midBatch := by
    intro i c hc hmid
    have hlt := hmid.2
    rw [(getElem?_launch hc).2.1] at hlt
    exact Nat.lt_irrefl _ hlt
  refine ⟨⟨?_, ?_⟩, before, none, ⟨hw.holds, ?_, ?_⟩, hw.bracketed, ?_, ?_, ?_, ?_, ?_, ?_, ?_⟩
  · intro i q l c hc hs
    rw [(getElem?_launch hc).2.2] at hs
    cases hs
  · intro i j q l q' l' c d hc _ hs
    rw [(getElem?_launch hc).2.2] at hs
    cases hs
  · intro a ha
    simp [launch, hw.acked_nil] at ha
  · intro r hr
    simp [launch, hw.queue_nil] at hr
  · intro i c hc
    exact hcalls _ (getElem?_launch hc).1
  · intro i c hc
    exact ⟨[], (getElem?_launch hc).2.1⟩
  · intro i c hc hmid
    exact absurd hmid (hnotMid hc)
  · intro i j c d hc _ hmid
    exact absurd hmid (hnotMid hc)
  · intro hne
    exact absurd rfl hne
  · intro i c hc hs
    rw [(getElem?_launch hc).2.2] at hs
    simp at hs
  · have hflat : (calls.map start).flatMap left = calls.flatten := by
      rw [flatMap_map]
      exact flatMap_id'
    rw [launch, hflat]

lemma map_fst_entries {b' : Option OpenBracket} (h : bracketRun env b log = some b') :
    (entries env log).map Prod.fst = log.filter fun r => !r.isSubscribeEvent := by
  induction log generalizing b with
  | nil => rfl
  | cons r rs ih =>
    cases hstep : bracketStep env b r with
    | none => simp [bracketRun, hstep] at h
    | some m =>
      simp only [bracketRun, hstep] at h
      rw [entries_cons, map_append, ih h]
      rcases bracketStep_some hstep with ⟨hev, _⟩ | ⟨hev, p, hp, _⟩
      · simp [entries_event hev, hev]
      · simp [entries_live hev hp, hev]

lemma quiet_run_log (hts : StampFree env) (hw : w.Fresh env crc seq n before)
    (hcalls : ∀ rs ∈ calls, IsCall env rs) {as : List WalStep}
    (hrun : (launch w calls).run crc as = some s) (hquiet : QuietRun crc (launch w calls) as)
    (hok : ∀ c ∈ s.calls, c.state = .returned) (hlsn : s.wal.nextLsn < 2 ^ 64)
    (hseq : s.wal.activeSegmentSeq < 10 ^ 10) :
    ∃ log, s.wal.HoldsLog crc seq n log ∧ s.wal.queue = [] ∧ bracketRun env none log = some none ∧
      (log.map unstamped).Perm (before.map unstamped ++ calls.flatten.map unstamped) := by
  have hret : ∀ {i : Nat} {c : Call}, s.calls[i]? = some c → c.state = .returned :=
    fun hc => hok _ (mem_of_getElem? hc)
  rcases (good_launch hw hcalls).run hts hrun hquiet hlsn hseq with hgood | ⟨i, c, hc, hf⟩
  · obtain ⟨log, b, hstor, hall⟩ := hgood.kept
    have hleft : ∀ {i : Nat} {c : Call}, s.calls[i]? = some c → c.left = [] :=
      fun hc => hall.settled hc (.inr (hret hc))
    have hqueue : s.wal.queue = [] := by
      by_contra hne
      obtain ⟨r, hr⟩ := exists_mem_of_ne_nil _ hne
      obtain ⟨i, c, hc, _, hs⟩ := hstor.owned r hr
      exact hs (hret hc)
    have hb : b = none := by
      by_contra hne
      obtain ⟨i, c, hc, hmid⟩ := hall.opened hne
      exact hmid.1 (hleft hc)
    have hnil : s.calls.flatMap left = [] := by
      refine flatMap_eq_nil_iff.mpr ?_
      intro c hmem
      obtain ⟨i, hc⟩ := List.getElem?_of_mem hmem
      exact hleft hc
    have hperm := hall.contents
    rw [hnil, map_nil, append_nil] at hperm
    exact ⟨log, hstor.holds, hqueue, hb ▸ hall.run, hperm⟩
  · rw [hret hc] at hf
    cases hf
end

section

def clashStart : Wal := Wal.create zeroCrc zeroUuid (walSegmentHeaderLen + 120) 0

def clashBegin : WalRecord := recordAt 0 (.txnBegin txnZero 1)
def clashMember : WalRecord := recordAt 0 (.body .encode (List.replicate 24 0))
def clashCommit : WalRecord := recordAt 0 (.txnCommit txnZero)
def clashCheckpoint : WalRecord := recordAt 0 (.checkpointBegin 7 0)
def clashBatch : Records := [clashBegin, clashMember, clashCommit]

lemma clashStart_fresh : clashStart.Fresh acceptingEnv zeroCrc 0 1 [] :=
  ⟨(Wal.create_holdsChunks zeroCrc zeroUuid (walSegmentHeaderLen + 120) 0).holdsLog, rfl, rfl, rfl⟩

lemma clashBatch_isCall : IsCall acceptingEnv clashBatch := by
  have hmember : HasRole acceptingEnv clashMember .member :=
    ⟨by decide, .body .encode (List.replicate 24 0), by rfl, rfl⟩
  have hbegin : HasRole acceptingEnv clashBegin (.txnBegin txnZero [clashMember].length) :=
    ⟨by decide, .txnBegin txnZero 1, by rfl, rfl⟩
  have hcomm : HasRole acceptingEnv clashCommit (.txnCommit txnZero) :=
    ⟨by decide, .txnCommit txnZero, by rfl, rfl⟩
  refine IsCall.batch hbegin ?_ hcomm
  intro r hr
  rw [mem_singleton.mp hr]
  exact hmember

lemma clashCheckpoint_isCall : IsCall acceptingEnv [clashCheckpoint] :=
  IsCall.single ⟨by decide, .checkpointBegin 7 0, by rfl, rfl⟩
end

/-- When no foreign record falls into a bracket, recovery after any interleaving applies every
record of every acknowledged call, events apart, exactly once and in LSN order. -/
theorem quiet_batches_survive {S B E : Type}
    (parseBody : WalRecordKind → Bytes → Except WalPayloadError B) (durable : S → Nat)
    (apply : S → WalRecord → WalPayload B → Except E S) {crc : Bytes → UInt32} {w : Wal}
    {seq n : Nat} {before : Records} {calls : List Records} {as : List WalStep}
    {s : WalSystem} (hw : w.Fresh (driverEnv parseBody durable apply) crc seq n before)
    (hn : 0 < n) (hcalls : ∀ rs ∈ calls, IsCall (driverEnv parseBody durable apply) rs)
    (hrun : (launch w calls).run crc as = some s) (hquiet : QuietRun crc (launch w calls) as)
    (hok : ∀ c ∈ s.calls, c.state = .returned) (hlsn : s.wal.nextLsn < 2 ^ 64)
    (hseq : s.wal.activeSegmentSeq < 10 ^ 10) : ∃ log, IsLog n log ∧
      (log.map unstamped).Perm (before.map unstamped ++ calls.flatten.map unstamped) ∧
      (entries (driverEnv parseBody durable apply) log).map Prod.fst =
        log.filter (fun r => !r.isSubscribeEvent) ∧ ∀ t t', durable t = 0 →
        (entries (driverEnv parseBody durable apply) log).foldlM
          (applyRecord (driverEnv parseBody durable apply)) t = .ok t' →
        ∃ rep, recover (driverEnv parseBody durable apply) crc s.wal.dir s.wal.shardUuid t =
            .ok (rep, t') ∧
          rep.recordsReplayed = (entries (driverEnv parseBody durable apply) log).length := by
  obtain ⟨log, hholds, hqueue, hbracket, hperm⟩ :=
    quiet_run_log (fun _ _ => rfl) hw hcalls hrun hquiet hok hlsn hseq
  obtain ⟨chunks, hdir, hlog⟩ := hholds.stored
  rw [hqueue, append_nil] at hlog
  subst hlog
  refine ⟨_, hholds.isLog, hperm, map_fst_entries hbracket, ?_⟩
  intro t t' hdur hfold
  exact recover_of_bracketed hdir hn hholds.isLog hbracket hdur hfold

def mover : WalStep → Option Nat
  | .start i | .acquire i | .install i _ => some i
  | _ => none

def AloneRun (crc : Checksum) : WalSystem → List WalStep → Prop
  | _, [] => True
  | s, a :: as => (∀ i ∈ mover a, ∀ j < s.calls.length, ∀ d ∈ s.calls[j]?, d.midBatch → j = i) ∧
      ∀ s' ∈ s.step crc a, AloneRun crc s' as

instance (c : Call) : Decidable c.midBatch := inferInstanceAs (Decidable (_ ∧ _))

instance AloneRun.decidable (crc : Checksum) :
    ∀ (s : WalSystem) (as : List WalStep), Decidable (AloneRun crc s as)
  | _, [] => isTrue trivial
  | _, _ :: as =>
    have := fun s' => AloneRun.decidable crc s' as
    inferInstanceAs (Decidable (_ ∧ _))

lemma AloneRun.quietRun {as : List WalStep} (h : AloneRun crc s as) : QuietRun crc s as := by
  induction as generalizing s with
  | nil => trivial
  | cons a as ih =>
    refine ⟨?_, fun s' hs => ih (h.2 s' hs)⟩
    rintro i r ⟨c, hc, hleft, hstep⟩ _ j d hd hmid
    have hmover : mover a = some i := by
      rcases hstep with ⟨rfl | rfl, _⟩ | ⟨t, rfl⟩ <;> rfl
    exact h.1 i hmover j (List.getElem?_eq_some_iff.mp hd).1 d hd hmid

lemma foldlM_accepting (es : List (WalRecord × WalPayload Bytes)) :
    es.foldlM (applyRecord acceptingEnv) () = .ok () := by
  induction es with
  | nil => rfl
  | cons e es ih => exact ih

def quietSteps : List WalStep :=
  [.start 1, .start 0, .flush 2, .drained 0, .acquire 0, .install 0 0, .flush 2, .finish 0, .finish 1]

def quietEnd : Wal :=
  ((((((clashStart.enqueue clashCheckpoint 0).enqueue clashBegin 56).flush zeroCrc
    2).startRollover.installSegment zeroCrc 1 3 0).enqueue clashMember 0).enqueue clashCommit 64).flush
      zeroCrc 2

lemma quiet_run : (launch clashStart [clashBatch, [clashCheckpoint]]).run zeroCrc quietSteps =
    some ⟨quietEnd, [⟨clashBatch, [], [2, 3, 4], [3, 4], .returned⟩,
      ⟨[clashCheckpoint], [], [1], [1], .returned⟩]⟩ := rfl

lemma clash_calls : ∀ rs ∈ [clashBatch, [clashCheckpoint]], IsCall acceptingEnv rs := by
  intro rs hrs
  rcases mem_cons.mp hrs with rfl | hrs
  · exact clashBatch_isCall
  · rw [mem_singleton.mp hrs]
    exact clashCheckpoint_isCall

theorem rolled_batch_survives : ∃ (s : WalSystem) (log : Records) (rep : RecoveryReport),
      (launch clashStart [clashBatch, [clashCheckpoint]]).run zeroCrc quietSteps = some s ∧
        (log.map unstamped).Perm ((clashBatch ++ [clashCheckpoint]).map unstamped) ∧
        recover acceptingEnv zeroCrc s.wal.dir s.wal.shardUuid () = .ok (rep, ()) := by
  have hquiet : AloneRun zeroCrc (launch clashStart [clashBatch, [clashCheckpoint]]) quietSteps := by
    decide +kernel
  obtain ⟨log, _, hperm, _, hrec⟩ := quiet_batches_survive (fun _ bytes => .ok bytes)
    (fun _ : Unit => 0) (fun s _ _ => (.ok s : Except Empty Unit)) clashStart_fresh Nat.one_pos
    clash_calls quiet_run hquiet.quietRun (by decide) (by decide) (by decide)
  obtain ⟨rep, hreport, _⟩ := hrec () () rfl (foldlM_accepting _)
  exact ⟨_, log, rep, quiet_run, hperm, hreport⟩

section

def clashSteps : List WalStep :=
  [.start 0, .start 1, .flush 2, .drained 0, .acquire 0, .install 0 0, .flush 2, .finish 0,
    .finish 1]

def clashRolled : Wal :=
  (((clashStart.enqueue clashBegin 0).enqueue clashCheckpoint 60).flush zeroCrc
    2).startRollover.installSegment zeroCrc 1 3 0

def clashEnd : Wal := ((clashRolled.enqueue clashMember 0).enqueue clashCommit 64).flush zeroCrc 2

lemma clash_run : (launch clashStart [clashBatch, [clashCheckpoint]]).run zeroCrc clashSteps =
      some ⟨clashEnd, [⟨clashBatch, [], [1, 3, 4], [3, 4], .returned⟩,
        ⟨[clashCheckpoint], [], [2], [2], .returned⟩]⟩ := rfl

/-- Two calls of the writer that both return, on whose log recovery fails. -/
theorem interleaved_batch_overflows :
    (∀ rs ∈ [clashBatch, [clashCheckpoint]], IsCall acceptingEnv rs) ∧
      ∃ s, (launch clashStart [clashBatch, [clashCheckpoint]]).run zeroCrc clashSteps = some s ∧
        (∀ c ∈ s.calls, c.state = .returned) ∧
        recover acceptingEnv zeroCrc s.wal.dir s.wal.shardUuid () =
          .error (.txnBufferOverflow txnZero 2 1) := by
  refine ⟨clash_calls, _, clash_run, ?_, ?_⟩
  · decide
  · decide +kernel
end
end BrainDb
