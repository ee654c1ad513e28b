import BrainDb.Network.Subscription

namespace BrainDb

inductive FeedInput where
  | write (now : Nanos) (w : Write FeedPhase) (commit : Option (Nanos × MemoryRows))
  | notify (now : Nanos) (n : Notification)

def FeedInput.steps (s : Feed) : FeedInput → List FeedStep
  | .write now w none => [.submit now w]
  | .write now w (some (committedAt, rows)) =>
    [.submit now w, .publish s.pending.length committedAt rows]
  | .notify now n => [.notify now n, .publish s.pending.length now fun _ => none]

def EventEnvelope.content (env : EventEnvelope) : EventEnvelope :=
  { env with lsn := 0, timestamp := 0, vector := none }

open EventEnvelope (fromWalRecord blank content)
namespace Feed
variable (admits : EventEnvelope → Bool)

def take : Feed → List FeedInput → Option Feed
  | s, [] => some s
  | s, x :: xs =>
    match s.run admits (x.steps s) with
    | none => none
    | some s' => take s' xs

def liveHistory (s : Feed) : List EventEnvelope := (s.published.map Prod.snd).filter admits

def replayHistory (s : Feed) : List EventEnvelope :=
  (s.log.entries.filterMap fromWalRecord).filter admits

end Feed

section
variable (space : SpaceId)

def FeedPhase.mirrored (caller : Caller) (accepted : Bool) : FeedPhase → Bool
  | .substrate (.memory (.upsertMemory _)) => accepted || caller.scope.spaceId ≠ space
  -- the records of these carry no space, and the projection gives them the nil one
  | .substrate (.memory (.tombstoneMemory ..)) | .substrate (.link _) | .substrate (.unlink _) =>
    !accepted || caller.scope.spaceId ≠ space
  | .substrate (.memory _) => true
  | .graph record => (record.toEnvelope 0).all fun env => env.spaceId ≠ space

def Notification.mirrored : Notification → Bool
  | .graph _ spaceId _ => spaceId ≠ space
  | .stage env _ => env.spaceId ≠ space || { env.content with stage := none } =
      { blank .stageCompleted 0 env.spaceId with memoryId := env.memoryId }

def FeedInput.mirrored : FeedInput → Bool
  | .write _ w commit => w.phases.all (·.mirrored space w.toCaller commit.isSome)
  | .notify _ n => n.mirrored space
end

/-- A filter that names one space and does not read LSN, timestamp or vector. -/
structure Admits (admits : EventEnvelope → Bool) (space : SpaceId) : Prop where
  blind : ∀ env, admits env.content = admits env
  unseen : ∀ env, env.spaceId ≠ space → admits env = false

variable {admits : EventEnvelope → Bool} {space : SpaceId}

section
open List

def LogPayload.projected (p : LogPayload FeedPayload) : Option EventEnvelope :=
  (fromWalRecord ⟨0, 0, p⟩).map content

lemma content_fromWalRecord (e : FeedEntry) :
    (fromWalRecord e).map content = e.payload.projected := by
  obtain ⟨lsn, timestamp, payload⟩ := e
  cases payload with
  | record p =>
    cases p with
    | substrate p =>
      cases p with
      | memory p => cases p <;> rfl
      | _ => rfl
    | _ => rfl
  | _ => rfl

lemma content_publish (w : Write FeedPhase) (n busLsn : Nat) (committedAt : Nanos)
    (rows : MemoryRows) :
    ((PendingEvent.write w n).publish busLsn committedAt rows).1.map (fun e => content e.2) =
      w.phases.filterMap fun phase => (phase.toEnvelope w.toCaller committedAt rows).map content := by
  simp only [PendingEvent.publish, PendingEvent.events]
  induction w.phases generalizing n busLsn with
  | nil => rfl
  | cons phase phases ih =>
    rw [phaseEvents, filterMap_cons]
    cases phase.toEnvelope w.toCaller committedAt rows with
    | none => exact ih ..
    | some env => exact congrArg _ (ih ..)

lemma Admits.filter_content (ha : Admits admits space) (env : EventEnvelope)
    (h : env.spaceId ≠ space) : (some env.content).filter admits = none := by
  rw [Option.filter_some, ha.blind, ha.unseen env h]
  rfl

/-- One phase: the record and the event, if any, come through the filter alike. -/
lemma FeedPhase.projected_eq (ha : Admits admits space) (hnil : space ≠ defaultSpace)
    {caller : Caller} {commit : Option (Nanos × MemoryRows)} {phase : FeedPhase}
    (h : phase.mirrored space caller commit.isSome) (writeId : WriteId) :
    ((phase.walPayload writeId caller).bind fun p =>
        LogPayload.projected (.record p)).filter admits =
      ((commit.bind fun c => phase.toEnvelope caller c.1 c.2).map content).filter admits := by
  cases phase with
  | graph record =>
    rw [mirrored] at h
    have hrec : (LogPayload.projected (.record record)).filter admits = none := by
      change Option.filter admits (((record.toEnvelope 0).map _).map content) = none
      cases hr : record.toEnvelope 0 with
      | none => rfl
      | some env =>
        rw [hr, Option.all_some, decide_eq_true_eq] at h
        exact ha.filter_content { env with lsn := 0 } h
    cases commit <;> exact hrec
  | substrate p =>
    -- an event of the nil space is not seen
    have hblank : ∀ env : EventEnvelope, env.spaceId = defaultSpace →
        (some (content env)).filter admits = none :=
      fun env henv => ha.filter_content env (henv ▸ hnil.symm)
    cases p with
    | link l | unlink key =>
      refine (hblank _ rfl).trans ?_
      cases commit with
      | none => rfl
      | some c => exact (ha.filter_content _ (by simpa [mirrored, blank] using h)).symm
    | memory p =>
      cases p with
      | upsertMemory m =>
        cases commit with
        | none => exact ha.filter_content _ (by simpa [mirrored, blank] using h)
        | some c => rfl
      | tombstoneMemory id mode now =>
        refine (hblank _ rfl).trans ?_
        cases commit with
        | none => rfl
        | some c =>
          simp only [Option.bind_some, FeedPhase.toEnvelope]
          cases c.2 id <;> exact (ha.filter_content _ (by simpa [mirrored, blank] using h)).symm
      | _ => cases commit <;> rfl

lemma Notification.projected_eq (ha : Admits admits space) (hnil : space ≠ defaultSpace)
    {n : Notification} (h : n.mirrored space) (lsn : Nat) :
    (LogPayload.projected (.record n.payload)).filter admits =
      (some (content (n.envelope lsn))).filter admits := by
  cases n with
  | graph payload spaceId timestamp =>
    refine Eq.trans (ha.filter_content _ ?_) (ha.filter_content _ ?_).symm
    · exact hnil.symm
    · simpa [mirrored, envelope, blank] using h
  | stage env triple =>
    by_cases hsp : env.spaceId = space
    · have hblank : { env.content with stage := none } =
          { blank .stageCompleted 0 env.spaceId with memoryId := env.memoryId } := by
        simpa [mirrored, hsp] using h
      exact congrArg (fun e => (some { e with stage := some triple }).filter admits) hblank.symm
    · refine Eq.trans (ha.filter_content _ ?_) (ha.filter_content _ ?_).symm <;> exact hsp
end

namespace Feed
open List
variable {s s' : Feed}

def Mirrors (admits : EventEnvelope → Bool) (s : Feed) : Prop :=
  (s.replayHistory admits).map content = (s.liveHistory admits).map content

variable {batch : List (LogPayload FeedPayload)}

lemma Mirrors.extend (ha : Admits admits space) (hs : s.Mirrors admits) {timestamp : Nanos}
    {events : List (Nat × EventEnvelope)} (hlog : s'.log = s.log.append timestamp batch)
    (hpub : s'.published = s.published ++ events)
    (h : (batch.filterMap LogPayload.projected).filter admits =
      (events.map fun e => content e.2).filter admits) : s'.Mirrors admits := by
  have hcomm : ∀ envs : List EventEnvelope,
      (envs.filter admits).map content = (envs.map content).filter admits := by
    intro envs
    rw [filter_map, show admits ∘ content = admits from funext ha.blind]
  have hbatch : ((Journal.stamp timestamp s.log.nextLsn batch).filterMap fromWalRecord).map content =
      batch.filterMap LogPayload.projected := by
    rw [← congrArg (filterMap LogPayload.projected) (Journal.map_payload_stamp timestamp _ batch),
      map_filterMap, filterMap_map]
    simp only [content_fromWalRecord]
    rfl
  have hevents : (events.map Prod.snd).map content = events.map fun e => content e.2 := map_map
  simp only [Mirrors, replayHistory, liveHistory, hcomm] at hs ⊢
  rw [hlog, hpub, Journal.append, filterMap_append, map_append, filter_append, hs, hbatch, h,
    map_append, map_append, filter_append, hevents]

lemma run_publish_last {a : FeedStep} {now : Nanos} {p : PendingEvent}
    (h : s.step admits a = some (s.appendLog now batch [p])) (committedAt : Nanos)
    (rows : MemoryRows) :
    ∃ s', s.run admits [a, .publish s.pending.length committedAt rows] = some s' ∧
      s'.log = s.log.append now batch ∧
      s'.published = s.published ++ (p.publish s.busLsn committedAt rows).1 := by
  have hget : (s.appendLog now batch [p]).pending[s.pending.length]? = some p :=
    getElem?_concat_length
  rw [run, h]
  simp only [run, step, hget]
  exact ⟨_, rfl, rfl, rfl⟩

lemma Mirrors.input (ha : Admits admits space) (hnil : space ≠ defaultSpace) {x : FeedInput}
    (hx : x.mirrored space) (hs : s.Mirrors admits) :
    ∃ s', s.run admits (x.steps s) = some s' ∧ s'.Mirrors admits := by
  cases x with
  | notify now n =>
    obtain ⟨s', hrun, hlog, hpub⟩ := run_publish_last (s := s) (a := .notify now n) rfl now _
    refine ⟨s', hrun, hs.extend ha hlog hpub ?_⟩
    rw [filter_filterMap, filterMap_cons, filterMap_nil, n.projected_eq ha hnil hx s.log.nextLsn,
      Option.filter_some]
    change _ = filter admits [content (n.envelope s.log.nextLsn)]
    rw [filter_cons]
    cases admits (content (n.envelope s.log.nextLsn)) <;> rfl
  | write now w commit =>
    have hphases : ((w.walBatch feedEngine).filterMap LogPayload.projected).filter admits =
        (w.phases.filterMap fun phase => (commit.bind fun c =>
          phase.toEnvelope w.toCaller c.1 c.2).map content).filter admits := by
      rw [Write.filterMap_walBatch (fun _ _ => rfl) fun _ => rfl, filter_filterMap, filter_filterMap]
      refine filterMap_congr ?_
      intro phase hmem
      exact FeedPhase.projected_eq ha hnil (all_eq_true.mp hx phase hmem) w.writeId
    cases commit with
    | none =>
      refine ⟨_, rfl, hs.extend ha rfl (append_nil _).symm ?_⟩
      rw [hphases]
      simp
    | some c =>
      obtain ⟨s', hrun, hlog, hpub⟩ := run_publish_last (s := s) (a := .submit now w) rfl c.1 c.2
      refine ⟨s', hrun, hs.extend ha hlog hpub ?_⟩
      rw [hphases, content_publish]
      rfl

lemma Mirrors.take (ha : Admits admits space) (hnil : space ≠ defaultSpace)
    {xs : List FeedInput} (hxs : ∀ x ∈ xs, x.mirrored space) (hs : s.Mirrors admits) :
    ∃ s', s.take admits xs = some s' ∧ s'.Mirrors admits := by
  induction xs generalizing s with
  | nil => exact ⟨s, rfl, hs⟩
  | cons x xs ih =>
    obtain ⟨s', hrun, hs'⟩ := hs.input ha hnil (hxs x mem_cons_self)
    rw [Feed.take, hrun]
    exact ih (fun y hy => hxs y (mem_cons_of_mem x hy)) hs'

theorem replayed_history_eq_live (below : UInt32 → UInt32 → Bool)
    (similar : Embedding → SimilarityMatch → Bool) (f : ParsedFilter) (space : SpaceId)
    (hsp : f.spaces = some [space]) (hsimilar : f.similarTo = none)
    (hnil : space ≠ defaultSpace) (xs : List FeedInput) (hxs : ∀ x ∈ xs, x.mirrored space) :
    ∃ s, (start emptyLog 0).take (f.matches below similar) xs = some s ∧
      (s.replayHistory (f.matches below similar)).map content =
        (s.liveHistory (f.matches below similar)).map content := by
  suffices ha : Admits (f.matches below similar) space from Mirrors.take ha hnil hxs rfl
  refine ⟨fun env => ?_, fun env henv => ?_⟩
  · simp only [ParsedFilter.matches, hsimilar, Option.all_none]
    rfl
  · simp [ParsedFilter.matches, hsp, henv]

def committed : Option (Nanos × MemoryRows) := some (2, fun _ => none)

def feedForget : Write FeedPhase :=
  { feedEncode with writeId := 2, phases := [.substrate (.memory (.tombstoneMemory 1 .soft 2))] }

def encodesBesideOthers : List FeedInput :=
  [.write 1 feedEncode committed, .write 2 { feedEncode with scope := ⟨1, 8⟩, writeId := 2 } none,
    .write 3 { feedEncode with scope := ⟨1, 8⟩, writeId := 3 } committed,
    .write 4 { feedForget with scope := ⟨1, 8⟩, writeId := 4 } committed,
    .write 5 { feedEncode with writeId := 5 } committed]

theorem encoded_history_replayed :
    ∃ s, (start emptyLog 0).take spaceAdmits encodesBesideOthers = some s ∧
      (s.replayHistory spaceAdmits).map content = (s.liveHistory spaceAdmits).map content :=
  replayed_history_eq_live _ _ spaceFilter 7 rfl rfl (by decide) _ (by decide)

example : ((start emptyLog 0).take spaceAdmits encodesBesideOthers).map (fun s =>
    (s.liveHistory spaceAdmits).map EventEnvelope.eventType) = some [.encoded, .encoded] := rfl

/-- The record of a FORGET has no space, so the replayed history ends before it; a refused encode
is in the log and was never sent. -/
theorem forget_missing_from_replay : (∃ s, (start emptyLog 0).take spaceAdmits
        [.write 1 feedEncode committed, .write 2 feedForget committed] = some s ∧
      (s.liveHistory spaceAdmits).map EventEnvelope.eventType = [.encoded, .forgotten] ∧
      (s.replayHistory spaceAdmits).map EventEnvelope.eventType = [.encoded]) ∧
    ∃ s, (start emptyLog 0).take spaceAdmits [.write 1 feedEncode none] = some s ∧
      s.liveHistory spaceAdmits = [] ∧
      (s.replayHistory spaceAdmits).map EventEnvelope.eventType = [.encoded] :=
  ⟨⟨_, rfl, rfl, rfl⟩, _, rfl, rfl, rfl⟩

end Feed
end BrainDb
