import BrainDb.Base.Table

namespace TwoSided
open List Option

structure Crumb (N L : Type) where
  parent : Option (N × L)
  depth : Nat

structure Side (N L : Type) [LinearOrder N] where
  visited : Table N (Crumb N L)
  queue : List N

structure Limits where
  (maxDepth maxBranches maxPaths : Nat)
  /-- A level is searched to its end, also past the last path that is taken. -/
  wholeLevel : Bool

inductive Status where
  | noPathFound
  | goalReached
  | timeout
  | budgetExhausted
  deriving DecidableEq

structure State (N L : Type) [LinearOrder N] where
  (fwd bwd : Side N L)
  explored : Nat
  meeting : List N
  status : Status

variable {N L : Type} [LinearOrder N]

namespace Side

def empty : Side N L := ⟨.empty, []⟩

def push (s : Side N L) (n : N) (c : Crumb N L) : Side N L :=
  ⟨s.visited.insert n c, s.queue ++ [n]⟩

def start (seeds : List N) : Side N L := seeds.foldl (fun s n => s.push n ⟨none, 0⟩) empty

end Side

variable (lim : Limits) (s : State N L)

namespace State

def start (starts goals : List N) : State N L :=
  ⟨.start starts, .start goals, starts.length + goals.length, [], .noPathFound⟩

def flip : State N L := { s with fwd := s.bwd, bwd := s.fwd }

def joins (n : N) (depth : Nat) : Bool :=
  (s.bwd.visited.get n).any fun c => depth + c.depth ≤ lim.maxDepth

def enter (n : N) (c : Crumb N L) : State N L :=
  { s with
    fwd := s.fwd.push n c
    explored := s.explored + 1
    meeting := if s.joins lim n c.depth ∧ s.meeting.length < lim.maxPaths then s.meeting ++ [n]
      else s.meeting }

def full : Bool :=
  !lim.wholeLevel && lim.maxPaths ≤ s.meeting.length

def visit (lim : Limits) (node : N) (depth : Nat) : List (N × L) → State N L → State N L
  | [], s => s
  | (next, label) :: rest, s =>
    if (s.fwd.visited.get next).isSome then visit lim node depth rest s
    else
      let s' := s.enter lim next ⟨some (node, label), depth + 1⟩
      if s.joins lim next (depth + 1) ∧ s'.full lim then s'
      else if lim.maxBranches ≤ s'.explored then { s' with status := .budgetExhausted }
      else visit lim node depth rest s'

def pop (rest : List N) : State N L := { s with fwd := { s.fwd with queue := rest } }

def level (lim : Limits) (neighbours : N → List (N × L)) : Nat → State N L → State N L
  | 0, s => s
  | n + 1, s =>
    match s.fwd.queue with
    | [] => s
    | node :: rest =>
      match s.fwd.visited.get node with
      | none => s.pop rest
      | some crumb =>
        if lim.maxDepth ≤ crumb.depth then level lim neighbours n (s.pop rest)
        else
          let s' := (s.pop rest).visit lim node crumb.depth (neighbours node)
          if s'.full lim ∨ s'.status ≠ .noPathFound then s' else level lim neighbours n s'

def expand (outgoing incoming : N → List (N × L)) (s : State N L) : State N L :=
  if s.fwd.queue.length ≤ s.bwd.queue.length then s.level lim outgoing s.fwd.queue.length
  else (s.flip.level lim incoming s.bwd.queue.length).flip

def loop (lim : Limits) (outgoing incoming : N → List (N × L)) (expired : Nat → Bool) :
    Nat → State N L → Option (State N L)
  | 0, _ => none
  | turns + 1, s =>
    if s.fwd.queue.isEmpty ∨ s.bwd.queue.isEmpty then some s
    else if expired turns then some { s with status := .timeout }
    else if lim.maxBranches ≤ s.explored then some { s with status := .budgetExhausted }
    else
      let s' := s.expand lim outgoing incoming
      if s'.meeting.isEmpty then s'.loop lim outgoing incoming expired turns
      else some { s' with status := .goalReached }

end State

open State

def trail (visited : Table N (Crumb N L)) (n : N) : List (N × L) :=
  go ((visited.get n).elim 0 Crumb.depth) n
where
  go : Nat → N → List (N × L)
    | 0, _ => []
    | k + 1, n =>
      match (visited.get n).bind Crumb.parent with
      | none => []
      | some e => e :: go k e.1

def State.reconstruct (n : N) : Option (List N × List L) :=
  let back := trail s.fwd.visited n
  let ahead := trail s.bwd.visited n
  let nodes := (back.map Prod.fst).reverse ++ n :: ahead.map Prod.fst
  if nodes.Nodup then some (nodes, (back.map Prod.snd).reverse ++ ahead.map Prod.snd) else none

def search (outgoing incoming : N → List (N × L)) (expired : Nat → Bool) (turns : Nat)
    (starts goals : List N) : Option (List (List N × List L) × Status) :=
  let trivial := starts.filter (· ∈ goals)
  if trivial ≠ [] then some (trivial.map fun n => ([n], []), .goalReached)
  else ((start starts goals).loop lim outgoing incoming expired turns).map fun s =>
    (s.meeting.filterMap s.reconstruct, s.status)

def Side.All (P : N → Prop) (s : Side N L) : Prop :=
  ∀ n c, s.visited.get n = some c → P n ∧ ∀ e ∈ c.parent, P e.1

structure State.All (P : N → Prop) (s : State N L) : Prop where
  fwd : s.fwd.All P
  bwd : s.bwd.All P
  meeting : ∀ n ∈ s.meeting, P n

variable {P : N → Prop}

namespace Side.All
variable {s : Side N L}

lemma push (h : s.All P) {n : N} {c : Crumb N L} (hn : P n) (hc : ∀ e ∈ c.parent, P e.1) :
    (s.push n c).All P := by
  intro m d hget
  change (s.visited.insert n c).get m = some d at hget
  rw [Table.get_insert] at hget
  split at hget
  next heq =>
    cases hget
    exact ⟨heq ▸ hn, hc⟩
  · exact h m d hget

lemma start {seeds : List N} (h : ∀ n ∈ seeds, P n) : (Side.start (L := L) seeds).All P := by
  refine List.foldlRecOn (motive := fun (s : Side N L) => s.All P) seeds _ ?_ ?_
  · intro n c hget
    cases hget
  · intro s hs n hn
    exact hs.push (h n hn) (by simp)

end Side.All

variable {outgoing incoming neighbours : N → List (N × L)} {expired : Nat → Bool} {turns : Nat}

namespace State.All
variable {s : State N L}

lemma flip (h : s.All P) : s.flip.All P := ⟨h.bwd, h.fwd, h.meeting⟩

lemma start {starts goals : List N} (hs : ∀ n ∈ starts, P n) (hg : ∀ n ∈ goals, P n) :
    (State.start (L := L) starts goals).All P :=
  ⟨.start hs, .start hg, by simp [State.start]⟩

lemma pop (h : s.All P) (rest : List N) : (s.pop rest).All P := ⟨h.fwd, h.bwd, h.meeting⟩

lemma enter (h : s.All P) (lim : Limits) {n : N} {c : Crumb N L} (hn : P n)
    (hc : ∀ e ∈ c.parent, P e.1) : (s.enter lim n c).All P := by
  refine ⟨h.fwd.push hn hc, h.bwd, ?_⟩
  intro m hm
  change m ∈ (if _ then s.meeting ++ [n] else s.meeting) at hm
  split at hm
  · rcases mem_append.mp hm with hold | hnew
    · exact h.meeting m hold
    · exact mem_singleton.mp hnew ▸ hn
  · exact h.meeting m hm

lemma visit (h : s.All P) (lim : Limits) {node : N} {depth : Nat} {neighbours : List (N × L)}
    (hnode : P node) (hnext : ∀ e ∈ neighbours, P e.1) :
    (s.visit lim node depth neighbours).All P := by
  induction neighbours generalizing s with
  | nil => exact h
  | cons e rest ih =>
    obtain ⟨next, label⟩ := e
    have hrest : ∀ e ∈ rest, P e.1 := fun e he => hnext e (mem_cons_of_mem _ he)
    have henter := h.enter lim (c := ⟨some (node, label), depth + 1⟩)
      (hnext _ mem_cons_self) (by simpa using hnode)
    unfold visit
    split
    · exact ih h hrest
    · simp only
      split
      · exact henter
      · split
        · exact ⟨henter.fwd, henter.bwd, henter.meeting⟩
        · exact ih henter hrest

lemma level (h : s.All P) (lim : Limits) (hcl : ∀ n, P n → ∀ e ∈ neighbours n, P e.1)
    (k : Nat) : (s.level lim neighbours k).All P := by
  induction k generalizing s with
  | zero => exact h
  | succ k ih =>
    unfold level
    split
    · exact h
    next node rest _ =>
      split
      · exact h.pop rest
      next crumb hcrumb =>
        have hnode := (h.fwd node crumb hcrumb).1
        split
        · exact ih (h.pop rest)
        · have hvisit : ((s.pop rest).visit lim node crumb.depth (neighbours node)).All P :=
            (h.pop rest).visit lim hnode (hcl node hnode)
          simp only
          split
          · exact hvisit
          · exact ih hvisit

lemma expand (h : s.All P) (lim : Limits) (hout : ∀ n, P n → ∀ e ∈ outgoing n, P e.1)
    (hin : ∀ n, P n → ∀ e ∈ incoming n, P e.1) : (s.expand lim outgoing incoming).All P := by
  unfold State.expand
  split
  · exact h.level lim hout _
  · exact (h.flip.level lim hin _).flip

lemma loop {s' : State N L} (h : s.All P) {lim : Limits}
    (hout : ∀ n, P n → ∀ e ∈ outgoing n, P e.1) (hin : ∀ n, P n → ∀ e ∈ incoming n, P e.1)
    (hloop : s.loop lim outgoing incoming expired turns = some s') : s'.All P := by
  induction turns generalizing s with
  | zero => cases hloop
  | succ turns ih =>
    unfold loop at hloop
    split at hloop
    · cases hloop
      exact h
    · split at hloop
      · cases hloop
        exact ⟨h.fwd, h.bwd, h.meeting⟩
      · split at hloop
        · cases hloop
          exact ⟨h.fwd, h.bwd, h.meeting⟩
        · have hnext := h.expand lim hout hin
          simp only at hloop
          split at hloop
          · exact ih hnext hloop
          · cases hloop
            exact ⟨hnext.fwd, hnext.bwd, hnext.meeting⟩

end State.All

lemma all_trail {s : Side N L} (h : s.All P) (n : N) : ∀ e ∈ trail s.visited n, P e.1 := by
  unfold trail
  generalize (s.visited.get n).elim 0 Crumb.depth = k
  induction k generalizing n with
  | zero => simp [trail.go]
  | succ k ih =>
    unfold trail.go
    split
    · simp
    next e he =>
      obtain ⟨c, hc, hparent⟩ := bind_eq_some_iff.mp he
      intro e' he'
      rcases mem_cons.mp he' with rfl | htail
      · exact (h n c hc).2 e' hparent
      · exact ih e.1 e' htail

lemma search_all {lim : Limits} {starts goals : List N} {paths : List (List N × List L)}
    {status : Status} (hstarts : ∀ n ∈ starts, P n) (hgoals : ∀ n ∈ goals, P n)
    (hout : ∀ n, P n → ∀ e ∈ outgoing n, P e.1) (hin : ∀ n, P n → ∀ e ∈ incoming n, P e.1)
    (h : search lim outgoing incoming expired turns starts goals = some (paths, status)) :
    ∀ path ∈ paths, ∀ n ∈ path.1, P n := by
  unfold search at h
  simp only at h
  split at h
  · cases h
    intro path hpath n hn
    obtain ⟨m, hm, rfl⟩ := List.mem_map.mp hpath
    rw [mem_singleton.mp hn]
    exact hstarts m (mem_filter.mp hm).1
  · obtain ⟨s, hloop, heq⟩ := map_eq_some_iff.mp h
    cases heq
    have hs := (All.start hstarts hgoals).loop hout hin hloop
    intro path hpath n hn
    obtain ⟨m, hm, hpath⟩ := mem_filterMap.mp hpath
    unfold reconstruct at hpath
    simp only at hpath
    split at hpath
    · cases hpath
      rcases mem_append.mp hn with hback | hrest
      · obtain ⟨e, he, rfl⟩ := List.mem_map.mp (mem_reverse.mp hback)
        exact all_trail hs.fwd m e he
      · rcases mem_cons.mp hrest with rfl | hahead
        · exact hs.meeting n hm
        · obtain ⟨e, he, rfl⟩ := List.mem_map.mp hahead
          exact all_trail hs.bwd m e he
    · cases hpath

section
variable {U : Finset N}

def Side.weight (U : Finset N) (s : Side N L) : Nat :=
  (U.filter fun n => s.visited.get n = none).card + s.queue.length

def State.weight (U : Finset N) (s : State N L) : Nat := s.fwd.weight U + s.bwd.weight U

lemma Side.weight_push {s : Side N L} {n : N} (hn : n ∈ U) (hnew : s.visited.get n = none)
    (c : Crumb N L) : (s.push n c).weight U = s.weight U := by
  have hunseen : (U.filter fun m => (s.visited.insert n c).get m = none) =
      (U.filter fun m => s.visited.get m = none).erase n := by
    ext m
    rw [Finset.mem_erase, Finset.mem_filter, Finset.mem_filter, Table.get_insert]
    split
    next heq => simp [heq]
    next hne => simp [hne]
  have hmem : n ∈ U.filter fun m => s.visited.get m = none := Finset.mem_filter.mpr ⟨hn, hnew⟩
  have hcard := Finset.card_erase_add_one hmem
  unfold Side.weight Side.push
  rw [hunseen, length_append, length_singleton]
  omega

namespace State
variable {s : State N L}

lemma weight_visit (node : N) (depth : Nat) {neighbours : List (N × L)}
    (hU : ∀ e ∈ neighbours, e.1 ∈ U) :
    (s.visit lim node depth neighbours).weight U = s.weight U := by
  induction neighbours generalizing s with
  | nil => rfl
  | cons e rest ih =>
    obtain ⟨next, label⟩ := e
    have hrest : ∀ e ∈ rest, e.1 ∈ U := fun e he => hU e (mem_cons_of_mem _ he)
    unfold visit
    split
    · exact ih hrest
    next hnew =>
      have hpush := Side.weight_push (hU _ mem_cons_self) (not_isSome_iff_eq_none.mp hnew)
        ⟨some (node, label), depth + 1⟩
      have henter : (s.enter lim next ⟨some (node, label), depth + 1⟩).weight U = s.weight U :=
        congrArg (· + s.bwd.weight U) hpush
      simp only
      split
      · exact henter
      · split
        · exact henter
        · exact (ih hrest).trans henter

lemma weight_level (hU : ∀ n, ∀ e ∈ neighbours n, e.1 ∈ U) (k : Nat) :
    (s.level lim neighbours k).weight U ≤ s.weight U ∧
      (0 < k → s.fwd.queue ≠ [] → (s.level lim neighbours k).weight U < s.weight U) := by
  induction k generalizing s with
  | zero => exact ⟨le_rfl, fun h => absurd h (Nat.lt_irrefl 0)⟩
  | succ k ih =>
    unfold level
    split
    next hq => exact ⟨le_rfl, fun _ hne => absurd hq hne⟩
    next node rest hq =>
      have hside : (s.pop rest).fwd.weight U + 1 = s.fwd.weight U := by
        unfold Side.weight
        rw [hq, length_cons]
        exact Nat.add_assoc _ _ _
      have hpop : (s.pop rest).weight U + 1 = s.weight U := by
        change (s.pop rest).fwd.weight U + s.bwd.weight U + 1 = s.fwd.weight U + s.bwd.weight U
        omega
      have hless : ∀ s' : State N L, s'.weight U ≤ (s.pop rest).weight U →
          s'.weight U ≤ s.weight U ∧ (0 < k + 1 → s.fwd.queue ≠ [] → s'.weight U < s.weight U) := by
        intro s' hs'
        exact ⟨by omega, fun _ _ => by omega⟩
      split
      · exact hless _ le_rfl
      next crumb _ =>
        split
        · exact hless _ ih.1
        · have hvisit : ((s.pop rest).visit lim node crumb.depth (neighbours node)).weight U =
              (s.pop rest).weight U := weight_visit lim node crumb.depth (hU node)
          simp only
          split
          · exact hless _ hvisit.le
          · exact hless _ (ih.1.trans hvisit.le)

lemma weight_flip (s : State N L) : s.flip.weight U = s.weight U := Nat.add_comm _ _

lemma weight_expand (hout : ∀ n, ∀ e ∈ outgoing n, e.1 ∈ U) (hin : ∀ n, ∀ e ∈ incoming n, e.1 ∈ U)
    (hfwd : s.fwd.queue ≠ []) (hbwd : s.bwd.queue ≠ []) :
    (s.expand lim outgoing incoming).weight U < s.weight U := by
  unfold expand
  split
  · exact (weight_level lim hout _).2 (length_pos_of_ne_nil hfwd) hfwd
  · rw [weight_flip, ← weight_flip s]
    exact (weight_level lim hin _).2 (length_pos_of_ne_nil hbwd) hbwd

lemma loop_isSome (expired : Nat → Bool) (hout : ∀ n, ∀ e ∈ outgoing n, e.1 ∈ U)
    (hin : ∀ n, ∀ e ∈ incoming n, e.1 ∈ U) (hturns : s.weight U < turns) :
    (s.loop lim outgoing incoming expired turns).isSome := by
  induction turns generalizing s with
  | zero => omega
  | succ turns ih =>
    unfold loop
    split
    · rfl
    next hopen =>
      split
      · rfl
      · split
        · rfl
        · rw [not_or, List.isEmpty_iff, List.isEmpty_iff] at hopen
          have hless := weight_expand lim hout hin hopen.1 hopen.2
          simp only
          split
          · exact ih (by omega)
          · rfl

end State

lemma search_isSome (expired : Nat → Bool) (hout : ∀ n, ∀ e ∈ outgoing n, e.1 ∈ U)
    (hin : ∀ n, ∀ e ∈ incoming n, e.1 ∈ U) (starts goals : List N) :
    ∃ enough, ∀ turns, enough < turns →
      (search lim outgoing incoming expired turns starts goals).isSome := by
  refine ⟨(start (L := L) starts goals).weight U, fun turns hturns => ?_⟩
  unfold search
  simp only
  split
  · rfl
  · rw [isSome_map]
    exact loop_isSome lim expired hout hin hturns
end
end TwoSided
