import BrainDb.Base.ListSet
import BrainDb.Base.Run
import BrainDb.Base.Table

namespace BrainDb
open List

inductive SubscribeError where
  | streamIdInUse
  | streamLimitExceeded

structure SubscriptionTask where
  streamId : Nat
  (cancelled finished : Bool)
  deriving DecidableEq

def SubscriptionTask.running (t : SubscriptionTask) : Bool := !t.cancelled && !t.finished

structure SubscriptionRegistry where
  streams : Table Nat Nat
  tasks : List SubscriptionTask
  maxStreams : Nat

inductive RegistryOp where
  | start (streamId : Nat)
  | cancel (streamId : Nat)
  | exit (task : Nat)

namespace SubscriptionRegistry
variable (s : SubscriptionRegistry) (id k : Nat)

def start : Except SubscribeError SubscriptionRegistry :=
  if (s.streams.get id).isSome then .error .streamIdInUse
  else if s.maxStreams ≤ s.streams.entries.length then .error .streamLimitExceeded
  else .ok { s with
    streams := s.streams.insert id s.tasks.length, tasks := s.tasks ++ [⟨id, false, false⟩] }

def stop (t : SubscriptionTask) : SubscriptionRegistry :=
  { s with streams := s.streams.remove t.streamId, tasks := s.tasks.set k t }

def cancel : SubscriptionRegistry :=
  match s.streams.get id with
  | none => s
  | some k =>
    match s.tasks[k]? with
    | none => s
    | some t => s.stop k { t with cancelled := true }

def exit : SubscriptionRegistry :=
  match s.tasks[k]? with
  | none => s
  | some t => if t.finished then s else s.stop k { t with finished := true }

def step (s : SubscriptionRegistry) : RegistryOp → SubscriptionRegistry
  | .start id =>
    match s.start id with
    | .ok s' => s'
    | .error _ => s
  | .cancel id => s.cancel id
  | .exit k => s.exit k

def OwnExit : RegistryOp → Prop
  | .exit k => ∀ t ∈ s.tasks[k]?, t.finished = false → ∀ j ∈ s.streams.get t.streamId, j = k
  | _ => True

structure Tracks : Prop where
  registered : ∀ id k, s.streams.get id = some k ↔
    ∃ t, s.tasks[k]? = some t ∧ t.streamId = id ∧ t.running = true
  latest : ∀ {j k : Nat} {t u : SubscriptionTask}, s.tasks[k]? = some t → t.running = true →
    k < j → s.tasks[j]? = some u → u.streamId ≠ t.streamId
  bounded : s.tasks.countP SubscriptionTask.running ≤ s.maxStreams

variable {s id k} {t t' : SubscriptionTask}

lemma Tracks.entry (h : s.Tracks) (ht : s.tasks[k]? = some t) (hrun : t.running = true) :
    s.streams.get t.streamId = some k :=
  (h.registered _ _).mpr ⟨t, ht, rfl, hrun⟩

lemma Tracks.countP_le (h : s.Tracks) :
    s.tasks.countP SubscriptionTask.running ≤ s.streams.entries.length := by
  have hsep : s.tasks.Pairwise fun t u =>
      t.running = true → u.running = true → t.streamId ≠ u.streamId := by
    refine pairwise_iff_getElem.mpr fun i j hi hj hij ht _ heq => ?_
    exact h.latest (getElem?_eq_getElem hi) ht hij (getElem?_eq_getElem hj) heq.symm
  rw [countP_eq_length_filter, ← length_map SubscriptionTask.streamId]
  refine Table.le_length_of_keys (pairwise_map.mpr (pairwise_filter.mpr hsep)) fun id hid => ?_
  obtain ⟨t, ht, rfl⟩ := mem_map.mp hid
  obtain ⟨hmem, hrun⟩ := mem_filter.mp ht
  obtain ⟨k, hk⟩ := mem_iff_getElem?.mp hmem
  rw [h.entry hk hrun, Option.isSome_some]

lemma Tracks.start {s' : SubscriptionRegistry} (h : s.Tracks) (hbeg : s.start id = .ok s') :
    s'.Tracks := by
  unfold SubscriptionRegistry.start at hbeg
  split at hbeg
  · cases hbeg
  next hfree =>
    split at hbeg
    · cases hbeg
    next hroom =>
      cases hbeg
      have hcnt := h.countP_le
      have hoth : ∀ {k : Nat} {t}, s.tasks[k]? = some t → t.running = true → t.streamId ≠ id := by
        rintro k t ht hrun rfl
        simp [h.entry ht hrun] at hfree
      refine ⟨fun id' k => ?_, fun {j k t u} ht hrun hj hu => ?_, ?_⟩
      · rw [Table.get_insert]
        have hold := h.registered id' k
        have hlast : (s.tasks ++ [⟨id, false, false⟩])[s.tasks.length]? = _ := getElem?_concat_length
        grind [SubscriptionTask.running]
      · have hold := @h.latest j k t u
        grind
      · simp only [countP_append, countP_singleton]
        split <;> omega

/-- `cancel` and the guard: the entry is the task's own, or there is none. -/
lemma Tracks.stop (h : s.Tracks) (ht : s.tasks[k]? = some t) (hid : t'.streamId = t.streamId)
    (hstop : t'.running = false) (hown : ∀ j, s.streams.get t.streamId = some j → j = k) :
    (s.stop k t').Tracks := by
  refine ⟨fun id j => ?_, fun {i j u v} hu hrun hi hv => ?_, ?_⟩
  · rw [SubscriptionRegistry.stop, Table.get_remove, hid]
    have hold := h.registered id j
    grind
  · have hold := @h.latest i j u
    rw [SubscriptionRegistry.stop] at hu hv
    grind
  · obtain ⟨hk, rfl⟩ := List.getElem?_eq_some_iff.mp ht
    have hcnt := h.bounded
    simp only [SubscriptionRegistry.stop, countP_set hk, hstop]
    simp
    omega

lemma tracks_step (s : SubscriptionRegistry) (op : RegistryOp) (h : s.Tracks) :
    (s.step op).Tracks ↔ s.OwnExit op := by
  cases op with
  | start id =>
    refine iff_of_true ?_ trivial
    cases hbeg : s.start id with
    | error e => simpa only [step, hbeg] using h
    | ok s' => simpa only [step, hbeg] using h.start hbeg
  | cancel id =>
    refine iff_of_true ?_ trivial
    simp only [step, SubscriptionRegistry.cancel]
    split
    · exact h
    next k hk =>
      obtain ⟨t, ht, rfl, -⟩ := (h.registered id k).mp hk
      simp only [ht]
      exact h.stop ht rfl (by simp [SubscriptionTask.running]) (by simp [hk])
  | exit k =>
    simp only [step, SubscriptionRegistry.exit, OwnExit]
    cases ht : s.tasks[k]? with
    | none => simpa using h
    | some t =>
      cases hfin : t.finished with
      | true => simpa [hfin] using h
      | false =>
        simp only [hfin, Bool.false_eq_true, if_false]
        constructor
        · intro h' _ ht' _ j hj
          cases ht'
          by_contra hne
          obtain ⟨u, hu, hid, hrun⟩ := (h.registered _ j).mp hj
          have hentry := h'.entry (ListSet.getElem?_set_other hne hu _) hrun
          simp [SubscriptionRegistry.stop, hid] at hentry
        · intro hown
          exact h.stop ht rfl (by simp [SubscriptionTask.running]) (hown t rfl hfin)

/-- The registry tracks the running subscriptions as long as every task that exits finds no entry
but its own. -/
theorem registry_tracks_iff (maxStreams : Nat) (ops : List RegistryOp) :
    Run.Always step Tracks ⟨.empty, [], maxStreams⟩ ops ↔
      Run.EachStep step OwnExit ⟨.empty, [], maxStreams⟩ ops := by
  refine Run.always_iff_eachStep (I := fun _ => True) (fun _ _ _ => trivial)
    (fun s op _ => tracks_step s op) trivial ⟨?_, ?_, ?_⟩ ops <;> simp

/-- The exit of the cancelled task removes the entry of the task that has its id now, and the id
is given out once more. -/
theorem late_exit_unregisters :
    ([.start 5, .cancel 5, .start 5, .exit 0, .start 5].foldl step ⟨.empty, [], 1⟩).tasks =
      [⟨5, true, true⟩, ⟨5, false, false⟩, ⟨5, false, false⟩] := by
  decide

end SubscriptionRegistry
end BrainDb
