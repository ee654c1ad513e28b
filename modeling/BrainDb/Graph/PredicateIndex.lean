import BrainDb.Base.OwnedIndex
import BrainDb.Graph.CascadeEffect

namespace BrainDb
open Run
open StatementMetadata (isLive)
open Option Table OwnedIndex Statements StatementMetadata Chronicle Lists
variable [Confidences] {k : ByPredicateKey} {memories : List MemoryId} {t : Statements}
  {row : StatementMetadata} {now : Nanos} {mint : OverflowMint}

namespace Statements

def PredicateIndexExact (t : Statements) : Prop :=
  ∀ k id, t.byPredicate.get k = some id ↔
    ∃ m, t.rows.get id = some m ∧ m.isLive = true ∧ k = m.predicateKey

abbrev Listed (t : Statements) (i : StatementId) (o : Option ByPredicateKey) : Prop :=
  Lists ByPredicateKey.statement t.byPredicate i o

def liveKey (m : StatementMetadata) : Option ByPredicateKey :=
  if m.isLive then some m.predicateKey else none

def ListedRight (t : Statements) (i : StatementId) : Prop :=
  t.Listed i ((t.rows.get i).bind liveKey)

variable {t' : Statements} {i : StatementId} {o : Option ByPredicateKey}
  {m old : StatementMetadata}

lemma liveKey_statement (h : k ∈ liveKey m) : k.statement = m.id := by
  unfold liveKey at h
  split at h
  · rw [← Option.some.inj h]; rfl
  · cases h

lemma liveKey_of_not_live (h : m.isLive = false) : liveKey m = none := by
  simp [liveKey, h]

lemma liveKey_of_live (h : m.isLive = true) : liveKey m = some m.predicateKey := by
  simp [liveKey, h]

lemma liveKey_eq_some_iff : liveKey m = some k ↔ m.isLive = true ∧ k = m.predicateKey := by
  unfold liveKey
  split
  next h => simp [h, eq_comm]
  next h => simp [h]

lemma predicateIndexExact_iff (hids : t.Keyed) : t.PredicateIndexExact ↔ ∀ i, t.ListedRight i := by
  constructor
  · intro h i k hk
    split
    next hsome =>
      obtain ⟨m, hm, hkey⟩ := bind_eq_some_iff.mp hsome
      obtain ⟨hlive, rfl⟩ := liveKey_eq_some_iff.mp hkey
      exact (h _ i).mpr ⟨m, hm, hlive, rfl⟩
    next hne =>
      refine eq_none_iff_forall_ne_some.mpr fun id hid => hne ?_
      obtain ⟨m, hm, hlive, rfl⟩ := (h k id).mp hid
      have hid : id = i := (hids id m hm).symm.trans hk
      subst hid
      exact bind_eq_some_iff.mpr ⟨m, hm, liveKey_of_live hlive⟩
  · intro h k id
    rw [h k.statement k rfl]
    constructor
    · intro hget
      split at hget
      next hsome =>
        obtain rfl := Option.some.inj hget
        obtain ⟨m, hm, hkey⟩ := bind_eq_some_iff.mp hsome
        obtain ⟨hlive, hk⟩ := liveKey_eq_some_iff.mp hkey
        exact ⟨m, hm, hlive, hk⟩
      · cases hget
    · rintro ⟨m, hm, hlive, rfl⟩
      have hid : m.predicateKey.statement = id := hids id m hm
      rw [hid, if_pos (bind_eq_some_iff.mpr ⟨m, hm, liveKey_of_live hlive⟩)]

lemma listedRight_iff (hids : t.Keyed) (h : t.Listed i o) (ho : ∀ k ∈ o, k.statement = i) :
    t.ListedRight i ↔ o = (t.rows.get i).bind liveKey := by
  constructor
  · intro hright
    refine h.unique hright ho ?_
    intro k hk
    obtain ⟨m, hm, hkey⟩ := bind_eq_some_iff.mp hk
    exact (liveKey_statement hkey).trans (hids i m hm)
  · rintro rfl
    exact h

lemma listedRight_congr (hrows : t'.rows.get i = t.rows.get i)
    (hlist : ∀ o, t'.Listed i o ↔ t.Listed i o) : t'.ListedRight i ↔ t.ListedRight i := by
  unfold ListedRight
  rw [hrows]
  exact hlist _

omit [Confidences] in
lemma listed_congr (h : ∀ k, k.statement = i → t'.byPredicate.get k = t.byPredicate.get k)
    (o : Option ByPredicateKey) : t'.Listed i o ↔ t.Listed i o := by
  constructor
  · intro hl k hk
    rw [← h k hk, hl k hk]
  · intro hl k hk
    rw [h k hk, hl k hk]

lemma get_byPredicate_place_other (hk : k.statement ≠ m.id) :
    (t.place m memories).byPredicate.get k = t.byPredicate.get k :=
  t.byPredicate.get_insert_ne _ fun heq => hk (congrArg ByPredicateKey.statement heq)

lemma get_byPredicate_withdraw_other (hk : k.statement ≠ old.id) :
    (t.withdraw old row).byPredicate.get k = t.byPredicate.get k := by
  have hne : k ≠ old.predicateKey := fun heq => hk (congrArg ByPredicateKey.statement heq)
  unfold withdraw removeFromPredicateIndex
  split
  · split
    · exact t.byPredicate.get_remove_ne hne
    · rfl
  · rfl

variable {b a : UInt32}

lemma get_byPredicate_rekey_other (hk : k.statement ≠ m.id) :
    (t.rekeyPredicateIndex m a b).byPredicate.get k = t.byPredicate.get k := by
  have hne : ∀ c, k ≠ m.predicateKeyAt c := fun c heq => hk (congrArg ByPredicateKey.statement heq)
  unfold rekeyPredicateIndex
  split
  · rfl
  · split
    · rw [get_insert_ne _ _ (hne b), get_remove_ne _ (hne a)]
    · exact t.byPredicate.get_insert_ne _ (hne b)

lemma Listed.place (h : t.Listed m.id none) (memories : List MemoryId) :
    (t.place m memories).Listed m.id (some m.predicateKey) :=
  insert h (.inl rfl)

lemma Listed.withdraw (h : t.Listed old.id o) (row : StatementMetadata)
    (ho : old.isCurrent = true → o = some old.predicateKey) :
    (t.withdraw old row).Listed old.id (if old.isCurrent then none else o) := by
  unfold Statements.withdraw removeFromPredicateIndex
  split
  next hcur =>
    obtain rfl := ho hcur
    have hget : ((t.setRow row).flipBySubjectToNoncurrent old).byPredicate.get old.predicateKey =
        some old.id := get h rfl
    rw [if_pos hget]
    exact remove h (.inr rfl)
  · exact h

lemma Listed.rekey (h : t.Listed m.id (some (m.predicateKeyAt a))) :
    (t.rekeyPredicateIndex m a b).Listed m.id (some (m.predicateKeyAt b)) := by
  unfold rekeyPredicateIndex
  split
  next hbucket =>
    have hkey : m.predicateKeyAt a = m.predicateKeyAt b := by
      simp only [predicateKeyAt, hbucket]
    rwa [← hkey]
  · have hget : t.byPredicate.get (m.predicateKeyAt a) = some m.id := get h rfl
    rw [if_pos hget]
    exact move h (.inr rfl)

lemma Listed.rekey_none (h : t.Listed m.id none) : (t.rekeyPredicateIndex m a b).Listed m.id
      (if Confidences.bucket a = Confidences.bucket b then none
        else some (m.predicateKeyAt b)) := by
  unfold rekeyPredicateIndex
  split
  · exact h
  · have hget : t.byPredicate.get (m.predicateKeyAt a) ≠ some m.id := by
      rw [get_none h rfl]
      simp
    rw [if_neg hget]
    exact insert h (.inl rfl)

def rekeyedKey (m : StatementMetadata) (a b : UInt32) : Option ByPredicateKey :=
  if m.isCurrent then some (m.predicateKeyAt b)
  else if Confidences.bucket a = Confidences.bucket b then none
  else some (m.predicateKeyAt b)

lemma Listed.rekeyed (h : t.Listed m.id (liveKey m)) (hm : m.tombstoned = false) :
    (t.rekeyPredicateIndex m m.confidence b).Listed m.id (rekeyedKey m m.confidence b) := by
  unfold rekeyedKey
  cases hcur : m.isCurrent with
  | true =>
    have hlive : m.isLive = true := by simp [isLive, hcur, hm]
    rw [liveKey_of_live hlive] at h
    simpa using Listed.rekey h
  | false =>
    have hlive : m.isLive = false := by simp [isLive, hcur]
    rw [liveKey_of_not_live hlive] at h
    simpa using Listed.rekey_none h

lemma listedRight_place (hids : t.Keyed) (hall : ∀ i, t.ListedRight i)
    (hunused : t.rows.get m.id = none) (memories : List MemoryId) :
    (∀ i, (t.place m memories).ListedRight i) ↔ m.isLive = true := by
  have hnone : t.Listed m.id none := by
    have h := hall m.id
    rwa [ListedRight, hunused] at h
  have hplaced := Listed.place hnone memories
  have hget : (t.place m memories).rows.get m.id = some m := t.rows.get_insert_self _ _
  have hself : (t.place m memories).ListedRight m.id ↔ m.isLive = true := by
    rw [listedRight_iff (hids.insert (m := m) rfl) hplaced (by rintro k ⟨⟩; rfl), hget]
    rw [bind_some, eq_comm, liveKey_eq_some_iff]
    exact and_iff_left rfl
  have hoth : ∀ i, i ≠ m.id → (t.place m memories).ListedRight i := by
    intro i hi
    refine (listedRight_congr (t.rows.get_insert_ne _ hi) (listed_congr ?_)).mpr (hall i)
    rintro k rfl
    exact get_byPredicate_place_other hi
  constructor
  · intro h
    exact hself.mp (h m.id)
  · intro h i
    by_cases hi : i = m.id
    · exact hi ▸ hself.mpr h
    · exact hoth i hi

lemma listedRight_withdraw (hall : ∀ i, t.ListedRight i)
    (hold : t.rows.get old.id = some old) (htomb : old.tombstoned = false)
    (row : StatementMetadata) (hid : row.id = old.id) (hrow : row.isLive = false)
    (i : StatementId) : (t.withdraw old row).ListedRight i := by
  by_cases hi : i = old.id
  · subst hi
    have hlist : t.Listed old.id (liveKey old) := by
      have h := hall old.id
      rwa [ListedRight, hold] at h
    have hcur : old.isCurrent = true → liveKey old = some old.predicateKey := by
      intro hcur
      exact liveKey_of_live (by simp [isLive, hcur, htomb])
    have haft := Listed.withdraw hlist row hcur
    have hget : (t.withdraw old row).rows.get old.id = some row := by
      rw [rows_withdraw, ← hid, get_insert_self]
    rw [ListedRight, hget, bind_some, liveKey_of_not_live hrow]
    cases hcase : old.isCurrent with
    | true => simpa [hcase] using haft
    | false =>
      have hdead : liveKey old = none := liveKey_of_not_live (by simp [isLive, hcase])
      simpa [hcase, hdead] using haft
  · refine (listedRight_congr ?_ (listed_congr ?_)).mpr (hall i)
    · rw [rows_withdraw, hid]
      exact t.rows.get_insert_ne _ hi
    · rintro k rfl
      exact get_byPredicate_withdraw_other hi

section
variable {memory : MemoryId} {threshold : UInt32} {cap : Nat} {a : AffectedStatement}

lemma get_byPredicate_buryAt_other {id : StatementId} (hids : t.Keyed) (hk : k.statement ≠ id) :
    (t.buryAt now id).byPredicate.get k = t.byPredicate.get k := by
  unfold buryAt
  split
  · rfl
  next row hrow =>
    split
    · rfl
    · exact get_byPredicate_withdraw_other (by rwa [hids id row hrow])

structure Shrunk (a : AffectedStatement) (now : Nanos)
    (mint : OverflowMint) (t : Statements) : Prop where
  keyed : t.Keyed
  row : t.rows.get a.row.id = some (a.shrunk now mint)
  listed : t.Listed a.row.id (rekeyedKey a.row a.row.confidence (a.newConfidence now))

lemma shrunk_shrinkAll (hids : t.Keyed) (hall : ∀ i, t.ListedRight i)
    (ha : a ∈ t.affected memory cap) :
    Shrunk a now mint (t.shrinkAll memory now mint (t.affected memory cap)) := by
  have hpair := affected_pairwise hids memory cap
  obtain ⟨hrow, htomb⟩ := affected_row hids ha
  have hlist : t.Listed a.row.id (liveKey a.row) := by
    have h := hall a.row.id
    rwa [ListedRight, hrow] at h
  refine ⟨keyed_shrinkAll now mint hids memory _,
    rows_get_shrinkAll_self now mint hpair ha memory t, ?_⟩
  have hbeg : (t.affected memory cap).foldl (fun t a => t.shrink memory now mint a) t
      |>.Listed a.row.id (liveKey a.row) := by
    rwa [Listed, (foldl_shrink_frame now mint memory _ t).2]
  refine foldl_at (fun a : AffectedStatement => a.row.id)
    (P := fun t' : Statements => t'.Listed a.row.id (liveKey a.row))
    (Q := fun t' : Statements => t'.Listed a.row.id
      (rekeyedKey a.row a.row.confidence (a.newConfidence now))) hpair ha ?_ ?_ ?_ hbeg
  · intro b t' hne h
    exact (listed_congr (fun k hk => get_byPredicate_rekey_other (hk ▸ hne.symm)) _).mpr h
  · intro b t' hne h
    exact (listed_congr (fun k hk => get_byPredicate_rekey_other (hk ▸ hne.symm)) _).mpr h
  · intro t' h
    exact Listed.rekeyed h htomb

def cascadedKey (a : AffectedStatement) (threshold : UInt32) (now : Nanos) :
    Option ByPredicateKey :=
  if a.dies threshold && a.row.isCurrent then none
  else rekeyedKey a.row a.row.confidence (a.newConfidence now)

lemma Shrunk.buryAt (h : Shrunk a now mint t) (htomb : a.row.tombstoned = false) :
    (t.buryAt now a.row.id).Listed a.row.id (if a.row.isCurrent then none
      else rekeyedKey a.row a.row.confidence (a.newConfidence now)) := by
  have hbury : t.buryAt now a.row.id = t.bury (a.shrunk now mint) .sourceMemoryForgotten now := by
    have hshrunk : (a.shrunk now mint).tombstoned = false := htomb
    simp [Statements.buryAt, h.row, hshrunk]
  have hlist : t.Listed (a.shrunk now mint).id _ := h.listed
  rw [hbury]
  refine Listed.withdraw hlist _ ?_
  intro hcur
  have hcur : a.row.isCurrent = true := hcur
  rw [rekeyedKey, if_pos hcur]
  rfl

lemma listed_cascaded_self (hids : t.Keyed) (hall : ∀ i, t.ListedRight i)
    (ha : a ∈ t.affected memory cap) : (cascaded t memory threshold cap now mint).Listed a.row.id
      (cascadedKey a threshold now) := by
  have hpair := affected_pairwise hids memory cap
  have hshrunk : Shrunk a now mint _ := shrunk_shrinkAll hids hall ha
  have hkeep : ∀ (id : StatementId) (t' : Statements), id ≠ a.row.id → Shrunk a now mint t' →
      Shrunk a now mint (t'.buryAt now id) := by
    intro id t' hne h
    refine ⟨keyed_buryAt h.keyed id, (rows_buryAt_other h.keyed hne.symm).trans h.row, ?_⟩
    refine (listed_congr ?_ _).mpr h.listed
    rintro k hk
    exact get_byPredicate_buryAt_other h.keyed (hk ▸ hne.symm)
  unfold cascadedKey
  cases hdies : a.dies threshold with
  | false =>
    refine (foldl_frame (P := Shrunk a now mint) ?_ hshrunk).listed
    intro id hid t' ht'
    refine hkeep id t' ?_ ht'
    rintro rfl
    rw [mem_dying hpair ha, hdies] at hid
    cases hid
  | true =>
    refine (foldl_at id (Q := fun t' : Statements => t'.Keyed ∧ t'.Listed a.row.id
        (if a.row.isCurrent then none
          else rekeyedKey a.row a.row.confidence (a.newConfidence now)))
      (dying_nodup hpair threshold) ((mem_dying hpair ha).mpr hdies) hkeep ?_ ?_
      hshrunk).2
    · intro id t' hne h
      refine ⟨keyed_buryAt h.1 id, (listed_congr ?_ _).mpr h.2⟩
      rintro k hk
      exact get_byPredicate_buryAt_other h.1 (hk ▸ hne.symm)
    · intro t' h
      exact ⟨keyed_buryAt h.keyed _, h.buryAt (affected_row hids ha).2⟩

lemma listedRight_cascaded_other (hids : t.Keyed) (hall : ∀ i, t.ListedRight i)
    (hi : ∀ a ∈ t.affected memory cap, a.row.id ≠ i) :
    (cascaded t memory threshold cap now mint).ListedRight i := by
  rw [ListedRight, rows_get_cascaded_other hids hi]
  have hshrunk : (t.shrinkAll memory now mint (t.affected memory cap)).Listed i
      ((t.rows.get i).bind liveKey) := by
    refine foldl_frame (P := fun t' : Statements =>
      t'.Listed i ((t.rows.get i).bind liveKey)) ?_ ?_
    · intro a ha t' h
      exact (listed_congr (fun k hk => get_byPredicate_rekey_other (hk ▸ (hi a ha).symm)) _).mpr h
    · rw [Listed, (foldl_shrink_frame now mint memory _ t).2]
      exact hall i
  refine (foldl_frame (P := fun t' : Statements => t'.Keyed ∧
    t'.Listed i ((t.rows.get i).bind liveKey)) ?_
    ⟨keyed_shrinkAll now mint hids memory _, hshrunk⟩).2
  intro id hid t' h
  obtain ⟨a, ha, rfl⟩ := List.mem_map.mp hid
  have hne := hi a (List.mem_of_mem_filter ha)
  exact ⟨keyed_buryAt h.1 _,
    (listed_congr (fun k hk => get_byPredicate_buryAt_other h.1 (hk ▸ hne.symm)) _).mpr h.2⟩

lemma listedRight_cascaded (hids : t.Keyed) (hall : ∀ i, t.ListedRight i) :
    (∀ i, (cascaded t memory threshold cap now mint).ListedRight i) ↔
      ∀ a ∈ t.affected memory cap, a.row.isCurrent = true ∨
        Confidences.bucket a.row.confidence = Confidences.bucket (a.newConfidence now) := by
  have hself : ∀ a ∈ t.affected memory cap,
      ((cascaded t memory threshold cap now mint).ListedRight a.row.id ↔
        (a.row.isCurrent = true ∨ Confidences.bucket a.row.confidence =
          Confidences.bucket (a.newConfidence now))) := by
    intro a ha
    have htomb := (affected_row hids ha).2
    rw [listedRight_iff (keyed_cascaded hids memory threshold cap now mint)
      (listed_cascaded_self hids hall ha), rows_get_cascaded_self hids ha,
      bind_some]
    · cases hcur : a.row.isCurrent <;> cases hdies : a.dies threshold <;>
        by_cases hbucket : Confidences.bucket a.row.confidence =
          Confidences.bucket (a.newConfidence now) <;>
        simp [cascadedKey, rekeyedKey, afterwards, liveKey, isLive,
          buried, AffectedStatement.shrunk, predicateKey,
          predicateKeyAt, hcur, hdies, hbucket, htomb]
    · intro k hk
      unfold cascadedKey rekeyedKey at hk
      split at hk
      · cases hk
      · split at hk
        · rw [← Option.some.inj hk]; rfl
        · split at hk
          · cases hk
          · rw [← Option.some.inj hk]; rfl
  constructor
  · intro h a ha
    exact (hself a ha).mp (h _)
  · intro h i
    by_cases hi : ∃ a ∈ t.affected memory cap, a.row.id = i
    · obtain ⟨a, ha, rfl⟩ := hi
      exact (hself a ha).mpr (h a ha)
    · refine listedRight_cascaded_other hids hall ?_
      intro a ha heq
      exact hi ⟨a, ha, heq⟩
end
end Statements

namespace Chronicle
variable {l : Chronicle}

def RevertListed (now : Nanos) (l : Chronicle) (e : UndoKey × ForgetUndoRecord) : Prop :=
  e.2.recordKind = .statement → ∀ row, l.graph.statements.rows.get e.1.dependent = some row →
    (forgotten row = true → e.2.priorIsCurrent = true) ∧
    (row.tombstoned = false → row.isCurrent = true ∨
      Confidences.bucket row.confidence =
        Confidences.bucket (restoredConfidence l.graph.statements row e.2 now))

section
variable {id : StatementId} {r : ForgetUndoRecord}

lemma get_byPredicate_revert_other (hids : t.Keyed) (hk : k.statement ≠ id) :
    (revertStatement t id r now mint).byPredicate.get k = t.byPredicate.get k := by
  cases hrow : t.rows.get id with
  | none => simp only [revertStatement, hrow]
  | some row =>
    have hk : k.statement ≠ row.id := by rwa [hids id row hrow]
    simp only [revertStatement, hrow]
    split
    · unfold reactivate
      split <;>
        exact t.byPredicate.get_insert_ne _ fun heq => hk (congrArg ByPredicateKey.statement heq)
    · split
      · rfl
      · exact get_byPredicate_rekey_other hk

def revertedKey (t : Statements) (row : StatementMetadata) (r : ForgetUndoRecord)
    (now : Nanos) : Option ByPredicateKey :=
  if forgotten row then some (row.predicateKeyAt (restoredConfidence t row r now))
  else if row.tombstoned then none
  else rekeyedKey row row.confidence (restoredConfidence t row r now)

lemma listed_revertStatement (hrow : t.rows.get row.id = some row) (h : t.ListedRight row.id) :
    (revertStatement t row.id r now mint).Listed row.id (revertedKey t row r now) := by
  have hlist : t.Listed row.id (liveKey row) := by rwa [ListedRight, hrow] at h
  have hdead : row.tombstoned = true → t.Listed row.id none := by
    intro htomb
    rwa [liveKey_of_not_live (by simp [isLive, htomb])] at hlist
  unfold revertedKey
  simp only [revertStatement, hrow]
  split
  next hforg =>
    have htomb : row.tombstoned = true := (Bool.and_eq_true_iff.mp hforg).1
    unfold reactivate
    split <;> exact insert (hdead htomb) (.inl rfl)
  · split
    next htomb => exact hdead htomb
    next htomb => exact Listed.rekeyed hlist (Bool.eq_false_iff.mpr htomb)
end

lemma listedRight_revertRecord_other (hids : l.graph.statements.Keyed)
    (e : UndoKey × ForgetUndoRecord) {i : StatementId} (hi : i ≠ e.1.dependent) :
    (revertRecord now mint l e).graph.statements.ListedRight i ↔
      l.graph.statements.ListedRight i := by
  unfold revertRecord
  cases e.2.recordKind with
  | statement =>
    refine listedRight_congr (rows_revertStatement_other e.2 now mint hids hi) (listed_congr ?_)
    rintro k rfl
    exact get_byPredicate_revert_other hids hi
  | relation =>
    simp only [revertRelation]
    split <;> exact Iff.rfl

lemma listedRight_revertRecord_self (hids : l.graph.statements.Keyed)
    (e : UndoKey × ForgetUndoRecord) (h : l.graph.statements.ListedRight e.1.dependent) :
    (revertRecord now mint l e).graph.statements.ListedRight e.1.dependent ↔
      RevertListed now l e := by
  unfold revertRecord RevertListed
  cases e.2.recordKind with
  | relation =>
    simp only [revertRelation, reduceCtorEq, false_implies, iff_true]
    split <;> exact h
  | statement =>
    cases hrow : l.graph.statements.rows.get e.1.dependent with
    | none =>
      simp only [revertStatement, hrow, reduceCtorEq, false_implies, implies_true, iff_true]
      exact h
    | some row =>
      have hid := hids _ _ hrow
      rw [← hid] at hrow h ⊢
      have hget := congrArg (·.get row.id) (rows_revertStatement e.2 now mint hrow)
      simp only [get_insert_self] at hget
      rw [listedRight_iff (keyed_revertStatement e.2 now mint hids)
        (listed_revertStatement hrow h), hget, bind_some]
      · cases hforg : forgotten row with
        | true =>
          have htomb : row.tombstoned = true := (Bool.and_eq_true_iff.mp hforg).1
          cases hpre : e.2.priorIsCurrent <;>
            simp [revertedKey, revertedRow, liveKey, isLive, hforg, hpre,
              htomb, predicateKey, predicateKeyAt]
        | false =>
          cases htomb : row.tombstoned <;> cases hcur : row.isCurrent <;>
            by_cases hbucket : Confidences.bucket row.confidence = Confidences.bucket
              (restoredConfidence l.graph.statements row e.2 now) <;>
            simp [revertedKey, rekeyedKey, revertedRow, liveKey, isLive,
              hforg, htomb, hcur, hbucket, predicateKey,
              predicateKeyAt]
      · intro k hk
        unfold revertedKey rekeyedKey at hk
        split at hk
        · rw [← Option.some.inj hk]; rfl
        · split at hk
          · cases hk
          · split at hk
            · rw [← Option.some.inj hk]; rfl
            · split at hk
              · cases hk
              · rw [← Option.some.inj hk]; rfl

def KeepsPredicateIndex (l : Chronicle) : StatementOp → Prop
  | .create scope session s now => (l.apply (.create scope session s now)).isOk →
    ∀ p, l.graph.creatable s = .ok p →
      match l.graph.placement scope s p with
      | .supersedes _ => s.tombstoned = false
      | .repeats _ => True
      | .fresh => s.tombstoned = false ∧ s.supersededBy = none
  | .supersede scope session old s now =>
    (l.apply (.supersede scope session old s now)).isOk → s.tombstoned = false
  | .tombstone _ _ _ => True
  | .forget _ memory _ cap now _ _ => ∀ a ∈ l.graph.statements.affected memory cap,
    a.row.isCurrent = true ∨
      Confidences.bucket a.row.confidence = Confidences.bucket (a.newConfidence now)
  | .revert memory cap now mint =>
    Run.EachStep (revertRecord now mint) (RevertListed now) l (l.undoRecords memory cap)

lemma listedRight_superseded {t' : Statements} (hids : t.Keyed)
    (hall : ∀ i, t.ListedRight i) {scope : RowScope} {session : SessionId} {oldId : StatementId}
    {s : Statement} {old : StatementMetadata} {confidence : UInt32}
    (h : Superseded t scope session oldId s now old confidence memories t') :
    (∀ i, t'.ListedRight i) ↔ s.tombstoned = false := by
  have hid := hids _ _ h.row
  have hold : t.rows.get old.id = some old := by rw [hid]; exact h.row
  have hwithdrawn := listedRight_withdraw hall hold h.allowed.tombstoned (old.superseded s now)
    rfl rfl
  have hunused : (t.withdraw old (old.superseded s now)).rows.get s.id = none := by
    rw [rows_withdraw]
    refine (t.rows.get_insert_ne _ ?_).trans h.unused
    intro heq
    have hsome := h.unused
    rw [heq] at hsome
    exact absurd (hold.symm.trans hsome) (by simp)
  rw [h.tables, listedRight_place (keyed_withdraw hids _ _) hwithdrawn hunused]
  simp [isLive, Statement.row, successor]

lemma listedRight_step (hids : l.graph.statements.Keyed)
    (hall : ∀ i, l.graph.statements.ListedRight i) (op : StatementOp) :
    (∀ i, (l.step op).graph.statements.ListedRight i) ↔ l.KeepsPredicateIndex op := by
  cases op with
  | create scope session s now =>
    refine step_create_iff (P := fun l => ∀ i, l.graph.statements.ListedRight i) hall
      fun hp hmade => ?_
    cases hmade with
    | superseding hpos hsup =>
      rw [hpos]
      exact listedRight_superseded hids hall hsup
    | repeated hpos =>
      rw [hpos]
      exact iff_of_true hall trivial
    | @placed confidence memories hpos =>
      have hunused := Graph.creatable_unused hp
      refine (listedRight_place (m := { s with confidence }.row scope session) hids hall
        hunused memories).trans ?_
      cases s.tombstoned <;> cases s.supersededBy <;>
        simp_all [isLive, Statement.row]
  | supersede scope session old s now =>
    exact step_supersede_iff (P := fun l => ∀ i, l.graph.statements.ListedRight i) hall
      (listedRight_superseded hids hall)
  | tombstone id reason now =>
    refine iff_of_true ?_ trivial
    cases happ : l.apply (.tombstone id reason now) with
    | error e => rwa [step_eq_of_error happ]
    | ok l' =>
      rw [step_eq_of_ok happ]
      obtain ⟨row, hrow, ⟨_, rfl⟩ | ⟨htomb, rfl⟩⟩ := apply_tombstone_ok happ
      · exact hall
      · have hid := hids _ _ hrow
        rw [← hid] at hrow
        exact listedRight_withdraw hall hrow htomb (row.buried reason now) rfl rfl
  | forget scope memory threshold cap now undo mint =>
    obtain ⟨l', happ, hsame⟩ := apply_forget hids scope memory threshold cap now undo mint
    rw [step_eq_of_ok happ, hsame.statements]
    exact listedRight_cascaded hids hall
  | revert memory cap now mint =>
    exact foldl_keeps_iff (fun e : UndoKey × ForgetUndoRecord => e.1.dependent)
      (I := fun l : Chronicle => l.graph.statements.Keyed)
      (P := fun i (l : Chronicle) => l.graph.statements.ListedRight i)
      (fun _ e h => keyed_revertRecord h e)
      (fun _ e _ h hi => listedRight_revertRecord_other h e hi)
      (fun _ e h hP => listedRight_revertRecord_self h e hP)
      (undoRecords_pairwise l memory cap) hids hall

/-- The predicate index holds exactly the live statements in every state of a run from empty tables,
exactly if every write of it keeps the index. -/
theorem predicateIndex_exact_iff (h : l.Blank) (ops : List StatementOp) :
    Run.Always step (fun l => l.graph.statements.PredicateIndexExact) l ops ↔
      Run.EachStep step KeepsPredicateIndex l ops := by
  have hblank : l.graph.statements.PredicateIndexExact := by
    refine (predicateIndexExact_iff h.keyed).mpr fun i => ?_
    rw [ListedRight, Listed, h.statements]
    exact lists_empty i
  refine always_iff_eachStep (I := fun l : Chronicle => l.graph.statements.Keyed)
    (fun _ op h => keyed_step h op) ?_ h.keyed hblank ops
  intro l op hids hexact
  rw [predicateIndexExact_iff (keyed_step hids op)]
  exact listedRight_step hids ((predicateIndexExact_iff hids).mp hexact) op

omit [Confidences] in
theorem residence_listed : Run.Always (@step flatConfidence)
      (fun l => @PredicateIndexExact flatConfidence l.graph.statements) household
      [moves 1 7 10, forgets 7 20] := by
  let _ := flatConfidence
  refine (predicateIndex_exact_iff household_blank _).mpr ⟨?_, ?_, trivial⟩
  · intro _ p hp
    cases hp
    exact ⟨rfl, rfl⟩
  · intro a ha
    obtain rfl := List.mem_singleton.mp ha
    exact .inl rfl

omit [Confidences] in
/-- The person moves on, and the memory of where they lived before is forgotten: the superseded
statement is listed again. -/
theorem superseded_relisted : ¬ Run.Always (@step flatConfidence)
      (fun l => @PredicateIndexExact flatConfidence l.graph.statements) household
      [moves 1 7 10, moves 2 8 20, forgets 7 30] := by
  intro h
  obtain ⟨m, hm, hlive, -⟩ := (h.last ⟨⟨1, 1⟩, 1, 3, 0, 1⟩ 1).mp (by decide +kernel)
  have hdead : ∀ m', ([moves 1 7 10, moves 2 8 20, forgets 7 30].foldl (@step flatConfidence)
      household).graph.statements.rows.get 1 = some m' → m'.isLive = false := by
    decide +kernel
  rw [hdead m hm] at hlive
  cases hlive

end Chronicle
end BrainDb
