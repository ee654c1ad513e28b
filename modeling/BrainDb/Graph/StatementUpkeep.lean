import BrainDb.Graph.CascadeEffect
import BrainDb.Graph.EntityFrame
import BrainDb.Graph.Reroute

namespace BrainDb
open Table ExceptLemmas StatementMetadata List
variable {now : Nanos} {session : SessionId} {confidence : UInt32}

namespace Statements

structure Sound (t : Statements) : Prop where
  mirrored : t.Mirrored
  keyed : t.Keyed
  resolved : t.Resolved

lemma sound_empty : Statements.empty.Sound := by
  refine ⟨mirrored_empty, ?_, ?_⟩ <;>
  · intro id m hm
    cases hm

variable [Confidences] {t t' : Statements} {m : StatementMetadata}

lemma Sound.place (h : t.Sound) (hunused : t.rows.get m.id = none)
    (hslot : t.chain.get m.chainKey = none) (hres : m.subject.isPending = false)
    (memories : List MemoryId) : (t.place m memories).Sound :=
  ⟨h.mirrored.place h.keyed hunused hslot memories, h.keyed.insert rfl,
    h.resolved.insert hres rfl⟩

lemma Sound.withdraw (h : t.Sound) {row : StatementMetadata} (hold : t.rows.get m.id = some m)
    (hrow : Retires m row) : (t.withdraw m row).Sound := by
  have hres := h.resolved _ m hold
  refine ⟨h.mirrored.withdraw h.keyed hold hres hrow, h.keyed.insert (rows_withdraw t m row),
    h.resolved.insert ?_ (rows_withdraw t m row)⟩
  rw [hrow.subject, hres]

lemma Sound.bury (h : t.Sound) (hold : t.rows.get m.id = some m) {reason : TombstoneReason} :
    (t.bury m reason now).Sound := by
  have hres := h.resolved _ m hold
  have hrows : (t.bury m reason now).rows =
      t.rows.insert (m.buried reason now).id (m.buried reason now) := rows_bury t m reason now
  exact ⟨h.mirrored.bury h.keyed hold hres, h.keyed.insert hrows,
    h.resolved.insert (m := m.buried reason now) hres hrows⟩

def SuccessorFree (t : Statements) (scope : RowScope) (oldId : StatementId)
    (s : Statement) : Prop :=
  ∀ old ∈ t.rows.get oldId,
    t.chain.get ⟨scope, (old.successor oldId s).chainRoot, (old.successor oldId s).version⟩ = none

instance (t : Statements) (scope : RowScope) (oldId : StatementId) (s : Statement) :
    Decidable (t.SuccessorFree scope oldId s) :=
  inferInstanceAs (Decidable (∀ old ∈ t.rows.get oldId, _))

def PlaceFree (t : Statements) (scope : RowScope) (s : Statement) : Placement → Prop
  | .supersedes prior => t.SuccessorFree scope prior s
  | .repeats _ => True
  | .fresh => t.chain.get ⟨scope, s.chainRoot, s.version⟩ = none

instance (t : Statements) (scope : RowScope) (s : Statement) :
    (placement : Placement) → Decidable (t.PlaceFree scope s placement)
  | .supersedes prior => inferInstanceAs (Decidable (t.SuccessorFree scope prior s))
  | .repeats _ => inferInstanceAs (Decidable True)
  | .fresh => inferInstanceAs (Decidable (_ = _))

lemma Sound.superseded (h : t.Sound) {scope : RowScope} {oldId : StatementId} {s : Statement}
    {old : StatementMetadata} {memories : List MemoryId}
    (hsup : Superseded t scope session oldId s now old confidence memories t')
    (hres : s.subject.isPending = false) (hfree : t.SuccessorFree scope oldId s) : t'.Sound := by
  have hid : old.id = oldId := h.keyed oldId old hsup.row
  have hold : t.rows.get old.id = some old := by rw [hid, hsup.row]
  have hne : s.id ≠ old.id := by
    intro heq
    have hunused := hsup.unused
    rw [heq, hold] at hunused
    cases hunused
  have hrow : Retires old (old.superseded s now) := ⟨rfl, rfl, rfl, rfl, rfl, rfl, rfl⟩
  rw [hsup.tables]
  refine (h.withdraw hold hrow).place ?_ ?_ hres memories
  · rw [rows_withdraw]
    exact (get_insert_ne _ _ hne).trans hsup.unused
  · rw [(t.withdraw_frame old (old.superseded s now)).2.2.1]
    exact hfree old hsup.row

variable {cutoff : Nanos} {acc : Statements × SweepSummary}

lemma get_rows_reclaimIfStill {id i : StatementId}
    (h : (reclaimIfStill cutoff acc id).1.rows.get i = some m) : acc.1.rows.get i = some m := by
  unfold reclaimIfStill at h
  split at h
  · exact h
  next n _ =>
    split at h
    · change (acc.1.rows.remove n.id).get i = some m at h
      rw [get_remove] at h
      split at h
      · cases h
      · exact h
    · exact h

lemma Sound.reclaimOne (h : t.Sound) (hm : t.rows.get m.id = some m)
    (htail : m.supersededBy = none) : (t.reclaimOne m).Sound := by
  have hrest : ∀ i n, (t.reclaimOne m).rows.get i = some n → t.rows.get i = some n := by
    intro i n hn
    change (t.rows.remove m.id).get i = some n at hn
    rw [get_remove] at hn
    split at hn
    · cases hn
    · exact hn
  exact ⟨h.mirrored.reclaimOne h.keyed hm (h.resolved _ m hm) htail,
    fun i n hn => h.keyed i n (hrest i n hn), fun i n hn => h.resolved i n (hrest i n hn)⟩

lemma Sound.reclaimAll {victims : List StatementId} (h : acc.1.Sound)
    (htail : ∀ id ∈ victims, ∀ m ∈ acc.1.rows.get id, m.supersededBy = none) :
    (victims.foldl (reclaimIfStill cutoff) acc).1.Sound := by
  induction victims generalizing acc with
  | nil => exact h
  | cons id victims ih =>
    refine ih ?_ fun i hi m hm =>
      htail i (mem_cons_of_mem id hi) m (get_rows_reclaimIfStill hm)
    unfold reclaimIfStill
    split
    · exact h
    next m hm =>
      split
      · have hget : acc.1.rows.get m.id = some m := by rw [h.keyed id m hm, hm]
        exact h.reclaimOne hget (htail id mem_cons_self m hm)
      · exact h

def ReclaimsTails (t : Statements) (grace : Nat) (now : Nanos) (cap : Nat) : Prop :=
  ∀ id ∈ (collectReclaimable (now - grace) cap t.rows.entries []).2, ∀ m ∈ t.rows.get id,
    m.supersededBy = none

omit [Confidences] in
instance (t : Statements) (grace : Nat) (now : Nanos) (cap : Nat) :
    Decidable (t.ReclaimsTails grace now cap) :=
  inferInstanceAs (Decidable (∀ id ∈ _, _))

lemma Sound.reclaimRetractedStatements (h : t.Sound) {grace : Nat} {cap : Nat} {dryRun : Bool}
    (htail : t.ReclaimsTails grace now cap) :
    (t.reclaimRetractedStatements grace now cap dryRun).1.Sound := by
  unfold Statements.reclaimRetractedStatements
  split
  · exact h
  · split
    · exact h
    · exact Sound.reclaimAll h htail

end Statements

inductive GraphWrite where
  | entity (c : EntityCall)
  | create (scope : RowScope) (session : SessionId) (s : Statement) (now : Nanos)
  | supersede (scope : RowScope) (session : SessionId) (old : StatementId) (s : Statement)
      (now : Nanos)
  | tombstone (id : StatementId) (reason : TombstoneReason) (now : Nanos)
  | reclaim (grace : Nat) (now : Nanos) (cap : Nat) (dryRun : Bool)

inductive GraphWriteError where
  | entity (e : EntityApplyError)
  | statement (e : StatementOpError)

namespace Graph
open Statements
section

lemma statements_rerouteRelations (g : Graph) (scope : RowScope) (merged survivor : EntityId)
    (now : Nanos) : (g.rerouteRelations scope merged survivor now).1.statements = g.statements ∧
      (g.rerouteRelations scope merged survivor now).1.mergeLog = g.mergeLog := by
  refine foldlRecOn (motive := fun (acc : Graph × List RelationReroute) =>
    acc.1.statements = g.statements ∧ acc.1.mergeLog = g.mergeLog) _ _ ⟨rfl, rfl⟩ ?_
  intro acc hacc e _
  exact hacc

lemma statements_reverseRelationReroutes (g : Graph) (records : List RelationReroute)
    (now : Nanos) : (g.reverseRelationReroutes records now).statements = g.statements ∧
      (g.reverseRelationReroutes records now).mergeLog = g.mergeLog := by
  refine foldlRecOn (motive := fun (acc : Graph) =>
    acc.statements = g.statements ∧ acc.mergeLog = g.mergeLog) _ _ ⟨rfl, rfl⟩ ?_
  intro acc hacc r _
  split
  · exact hacc
  · exact hacc

variable [TextFolding] (g : Graph) (mint : MergeId) (survivor merged : EntityId)
  (s m : EntityMetadata) (confidence : UInt32) (reason : String) (actor : MergeActor)
  (graceSeconds : Nat) (now : Nanos) (key : MergeLogKey) (audit : MergeRecord)

lemma statements_merged :
    (g.merged mint survivor merged s m confidence reason actor graceSeconds now).statements =
      (g.statements.reroute s.scope merged survivor).1 :=
  (statements_rerouteRelations _ _ _ _ _).1

lemma mergeLog_merged : ∃ audit : MergeRecord,
      audit.reroutedStatements = (g.statements.reroute s.scope merged survivor).2 ∧
      (g.merged mint survivor merged s m confidence reason actor graceSeconds now).mergeLog =
        g.mergeLog.insert ⟨now, mint⟩ audit := by
  refine ⟨_, ?_, congrArg (Table.insert · _ _) (statements_rerouteRelations _ _ _ _ _).2⟩
  rfl

lemma statements_unmerged : (g.unmerged survivor merged s m key audit actor now).statements =
    g.statements.reverseReroutes m.scope audit.reroutedStatements merged survivor :=
  (statements_reverseRelationReroutes _ _ _).1

lemma mergeLog_unmerged :
    (g.unmerged survivor merged s m key audit actor now).mergeLog = g.mergeLog.insert key
      { audit with unmergedAt := now, unmergedBy := actor, finalized := true } :=
  congrArg (Table.insert · _ _) (statements_reverseRelationReroutes _ _ _).2
end

structure Sound (g : Graph) : Prop where
  statements : g.statements.Sound
  recorded : ∀ key audit, g.mergeLog.get key = some audit →
    (audit.reroutedStatements.map (·.reversed)).Pairwise Apart

lemma sound_empty (catalog : Schema.Catalog) : (Graph.empty catalog).Sound :=
  ⟨Statements.sound_empty, fun _ _ h => by cases h⟩

variable [TextFolding] [Confidences]

def applyWrite (g : Graph) : GraphWrite → Except GraphWriteError Graph
  | .entity c => (g.call c).mapError .entity
  | .create scope session s now => do
    let created ← (g.statementCreate scope session s now).mapError .statement
    .ok created.2
  | .supersede scope session old s now => do
    let statements ← (g.statements.statementSupersede scope session old s now).mapError .statement
    .ok { g with statements }
  | .tombstone id reason now => do
    let statements ← (g.statements.statementTombstone id reason now).mapError .statement
    .ok { g with statements }
  | .reclaim grace now cap dryRun =>
    .ok { g with statements := (g.statements.reclaimRetractedStatements grace now cap dryRun).1 }

def step (g : Graph) (w : GraphWrite) : Graph :=
  match g.applyWrite w with
  | .ok g' => g'
  | .error _ => g

def KeepsMirror (g : Graph) : GraphWrite → Prop
  | .entity (.merge _ survivor merged _ _ _ _ _) =>
    ∀ s ∈ g.entities.entities.get survivor, g.statements.Shiftable s.scope merged
  | .entity (.unmerge merged _ _) =>
    ∀ m ∈ g.entities.entities.get merged, ∀ survivor ∈ m.mergedInto,
      ∀ audit ∈ g.findActiveAudit merged, ∀ r ∈ audit.2.reroutedStatements,
        ∀ row ∈ g.statements.rows.get r.statement,
          g.statements.Movable m.scope survivor r.reversed row
  | .entity _ => True
  | .create scope _ s _ => ∀ p ∈ (g.creatable s).toOption,
    g.statements.PlaceFree scope s (g.placement scope s p)
  | .supersede scope _ old s _ =>
    s.subject.isPending = false ∧ g.statements.SuccessorFree scope old s
  | .tombstone _ _ _ => True
  | .reclaim grace now cap _ => g.statements.ReclaimsTails grace now cap

instance (g : Graph) : (w : GraphWrite) → Decidable (g.KeepsMirror w)
  | .entity (.merge _ _ _ _ _ _ _ _) => inferInstanceAs (Decidable (∀ s ∈ _, _))
  | .entity (.unmerge _ _ _) => inferInstanceAs (Decidable (∀ m ∈ _, _))
  | .entity (.put _ _ _) | .entity (.update _ _) | .entity (.rename _ _ _)
  | .entity (.tombstone _ _) => inferInstanceAs (Decidable True)
  | .create _ _ _ _ => inferInstanceAs (Decidable (∀ p ∈ _, _))
  | .supersede _ _ _ _ _ => inferInstanceAs (Decidable (_ ∧ _))
  | .tombstone _ _ _ => inferInstanceAs (Decidable True)
  | .reclaim _ _ _ _ => inferInstanceAs (Decidable (Statements.ReclaimsTails _ _ _ _))

variable {g g' : Graph}

omit [TextFolding] [Confidences] in
lemma Sound.of_statements (h : g.Sound) {statements : Statements}
    (hs : statements.Sound) : { g with statements }.Sound :=
  ⟨hs, h.recorded⟩

variable {merged : EntityId} {actor : MergeActor}

omit [Confidences] in
lemma Sound.merge (h : g.Sound) {mint : MergeId} {survivor : EntityId} {reason : String}
    {graceSeconds : Nat}
    (hok : g.mergeEntity mint survivor merged confidence reason actor graceSeconds now = .ok g')
    (hshift : ∀ s ∈ g.entities.entities.get survivor, g.statements.Shiftable s.scope merged) :
    g'.Sound := by
  obtain ⟨s, m, -, hs, -, -, rfl⟩ := mergeEntity_ok hok
  have hstmts := h.statements
  have hreroute := hstmts.mirrored.reroute_eq hstmts.keyed s.scope merged survivor
  constructor
  · rw [statements_merged]
    refine ⟨hstmts.mirrored.reroute hstmts.keyed (hshift s hs), ?_, ?_⟩
    · rw [hreroute]
      exact hstmts.keyed.followAll
    · rw [hreroute]
      exact hstmts.resolved.followAll hstmts.keyed
  · obtain ⟨audit, haudit, hlog⟩ :=
      g.mergeLog_merged mint survivor merged s m confidence reason actor graceSeconds now
    intro key audit' hget
    rw [hlog, get_insert] at hget
    split at hget
    · rw [← Option.some.inj hget, haudit, hreroute]
      exact hstmts.mirrored.reroutesOf_reversed_apart hstmts.keyed merged
    · exact h.recorded key audit' hget

omit [Confidences] in
lemma Sound.unmerge (h : g.Sound) (hok : g.unmergeEntity merged actor now = .ok g')
    (hmove : ∀ m ∈ g.entities.entities.get merged, ∀ survivor ∈ m.mergedInto,
      ∀ audit ∈ g.findActiveAudit merged, ∀ r ∈ audit.2.reroutedStatements,
        ∀ row ∈ g.statements.rows.get r.statement,
          g.statements.Movable m.scope survivor r.reversed row) : g'.Sound := by
  obtain ⟨m, survivor, s, key, audit, hm, hinto, -, haudit, -, rfl⟩ := unmergeEntity_ok hok
  have hstmts := h.statements
  have hget := g.mergeLog.mem_entries_iff.mp (mem_of_find?_eq_some haudit)
  have hsep := h.recorded key audit hget
  constructor
  · rw [statements_unmerged, reverseReroutes_eq]
    refine ⟨hstmts.mirrored.followAll hstmts.keyed hsep ?_,
      hstmts.keyed.followAll, hstmts.resolved.followAll hstmts.keyed⟩
    intro r' hr' row hrow
    obtain ⟨r, hr, rfl⟩ := mem_map.mp hr'
    exact hmove m hm survivor hinto (key, audit) haudit r hr row hrow
  · intro key' audit' hget
    rw [mergeLog_unmerged, get_insert] at hget
    split at hget
    · exact Option.some.inj hget ▸ hsep
    · exact h.recorded key' audit' hget

omit [Confidences] in
lemma Sound.call (h : g.Sound) {c : EntityCall} (hok : g.call c = .ok g')
    (hkeeps : g.KeepsMirror (.entity c)) : g'.Sound := by
  cases c with
  | merge mint survivor merged confidence reason actor graceSeconds now =>
    exact h.merge (mapError_ok hok) hkeeps
  | unmerge merged actor now => exact h.unmerge (mapError_ok hok) hkeeps
  -- the other calls leave the statements and the merges alone
  | _ =>
    obtain ⟨_, _, hok⟩ := bind_ok (mapError_ok hok)
    cases hok
    exact ⟨h.statements, h.recorded⟩

omit [TextFolding] in
lemma Sound.create (h : g.Sound) {scope : RowScope} {s : Statement} {id : StatementId}
    (hok : g.statementCreate scope session s now = .ok (id, g'))
    (hkeeps : g.KeepsMirror (.create scope session s now)) : g'.Sound := by
  obtain ⟨p, t', hp, rfl, hmade⟩ := statementCreate_ok hok
  have hres : s.subject.isPending = false := creatable_resolved hp
  have hunused : g.statements.rows.get s.id = none := creatable_unused hp
  have hcond := hkeeps p (by rw [hp]; rfl)
  refine h.of_statements ?_
  cases hmade with
  | superseding hplacement hsup =>
    rw [hplacement] at hcond
    exact h.statements.superseded hsup hres hcond
  | repeated _ => exact h.statements
  | placed hplacement =>
    rw [hplacement] at hcond
    refine h.statements.place ?_ ?_ ?_ _
    · exact hunused
    · exact hcond
    · exact hres

lemma Sound.step (h : g.Sound) {w : GraphWrite} (hkeeps : g.KeepsMirror w) : (g.step w).Sound := by
  unfold Graph.step
  split
  next g' hok =>
    cases w with
    | entity c => exact h.call (mapError_ok hok) hkeeps
    | create scope session s now =>
      obtain ⟨⟨id, created⟩, hcreate, hok⟩ := bind_ok hok
      cases hok
      exact h.create (mapError_ok hcreate) hkeeps
    | supersede scope session old s now =>
      obtain ⟨t', hsup, hok⟩ := bind_ok hok
      cases hok
      obtain ⟨_, _, _, hsup⟩ := statementSupersede_ok (mapError_ok hsup)
      exact h.of_statements (h.statements.superseded hsup hkeeps.1 hkeeps.2)
    | tombstone id reason now =>
      obtain ⟨t', htomb, hok⟩ := bind_ok hok
      cases hok
      obtain ⟨row, hrow, ⟨-, rfl⟩ | ⟨-, rfl⟩⟩ := statementTombstone_ok (mapError_ok htomb)
      · exact h
      · have hget : g.statements.rows.get row.id = some row := by
          rw [h.statements.keyed id row hrow, hrow]
        exact h.of_statements (h.statements.bury hget)
    | reclaim grace now cap dryRun =>
      cases hok
      exact h.of_statements (h.statements.reclaimRetractedStatements hkeeps)
  · exact h

/-- From empty tables, the indexes mirror the rows in every state of a run whose writes are as
`KeepsMirror` says. -/
theorem mirrored_always {catalog : Schema.Catalog} {ws : List GraphWrite}
    (h : Run.EachStep step KeepsMirror (Graph.empty catalog) ws) :
    Run.Always step (fun g => g.statements.Mirrored) (Graph.empty catalog) ws :=
  (h.always (fun _ _ hg hw => hg.step hw) (sound_empty catalog)).imp
    fun _ hg => hg.statements.mirrored

def town : Graph :=
  Graph.empty { household.graph.catalog with entityTypes := directory.catalog.entityTypes }

def named (id : EntityId) (name : String) : GraphWrite :=
  .entity (.put ⟨1, 1⟩ 0 (UpsertEntity.entity ⟨id, 1, 0, name, name, [], [], 1⟩))

def settles (id : StatementId) (memory : MemoryId) (now : Nanos) : GraphWrite :=
  .create ⟨1, 1⟩ 0 (residence id memory now) now

def unites (mint : MergeId) (survivor merged : EntityId) (now : Nanos) : GraphWrite :=
  .entity (.merge mint survivor merged 0x3F800000 "" .system 60 now)

def parts (merged : EntityId) (now : Nanos) : GraphWrite :=
  .entity (.unmerge merged .system now)

omit [TextFolding] [Confidences] in
theorem parted_mirrored :
    Run.Always (@step asciiFolding flatConfidence) (fun g => g.statements.Mirrored) town
      [named 1 "ann", named 2 "bea", settles 1 7 10, settles 2 8 20, unites 5 2 1 30, parts 1 40,
        .tombstone 2 .retract 50, .reclaim 10 100 0 false] := by
  let _ := asciiFolding
  let _ := flatConfidence
  exact mirrored_always (by decide +kernel)

omit [TextFolding] [Confidences] in
/-- The survivor of a merge is itself merged, and the first merge is taken back: the statement is
listed under the second survivor, which it is not about. -/
theorem parted_early_listed_twice :
    ¬ Run.Always (@step asciiFolding flatConfidence) (fun g => g.statements.Mirrored) town
      [named 1 "ann", named 2 "bea", named 3 "cea", settles 1 7 10, unites 5 2 1 20,
        unites 6 3 2 30, parts 1 40] := by
  intro h
  have hlist : ([named 1 "ann", named 2 "bea", named 3 "cea", settles 1 7 10, unites 5 2 1 20,
      unites 6 3 2 30, parts 1 40].foldl (@step asciiFolding flatConfidence)
        town).statements.bySubject.get ⟨⟨1, 1⟩, 3, 3, 1, true, 1⟩ = some 1 := by decide +kernel
  have hrows : ∀ e ∈ ([named 1 "ann", named 2 "bea", named 3 "cea", settles 1 7 10,
      unites 5 2 1 20, unites 6 3 2 30, parts 1 40].foldl (@step asciiFolding flatConfidence)
        town).statements.rows.entries, e.2.subject = .entity 1 := by decide +kernel
  obtain ⟨i, m, hm, hkey, -⟩ := (h.last.bySubject _ _).mp hlist
  have hsubj : m.subject = .entity 1 := hrows _ ((mem_entries_iff _).mpr hm)
  simp [subjectEntry, subjectKey, subjectKeyAs, hsubj, SubjectRef.bytes,
    SubjectRef.isPending] at hkey

end Graph
end BrainDb
