import Mathlib.Algebra.Order.Field.Rat
import Mathlib.Data.Finset.Card

namespace BrainDb
open List

def mmrWindow : Nat := 50

def rerankAlpha : ℚ := 1 / 2

def epsilon : ℚ := 1 / 2 ^ 52

structure FusedItem (Id : Type) where
  id : Id
  fusedScore : ℚ
  rerankScore : Option ℚ
  deriving DecidableEq

def jaccard (a b : Finset String) : ℚ :=
  if a = ∅ ∨ b = ∅ then 0
  else
    let inter := (a ∩ b).card
    inter / (a.card + b.card - inter : Nat)

def normalized (eps : ℚ) (all : List ℚ) (score : ℚ) : ℚ :=
  let lo := all.min?.getD 0
  max 0 (min 1 ((score - lo) / max (all.max?.getD 0 - lo) eps))

def nextPos (mmr : Nat → ℚ) (remaining : List Nat) : Nat :=
  (remaining.zipIdx.foldl (fun (best : Nat × Option ℚ) c =>
    if best.2.all (· < mmr c.1) then (c.2, some (mmr c.1)) else best) (0, none)).1

def pick (mmr : List Nat → Nat → ℚ) : Nat → List Nat → List Nat → List Nat
  | 0, selected, _ => selected
  | n + 1, selected, remaining =>
    let pos := nextPos (mmr selected) remaining
    pick mmr n (selected ++ remaining[pos]?.toList) (remaining.eraseIdx pos)

def firstPos (rel : List ℚ) : Nat :=
  (range rel.length).foldl (fun best i => if rel.getD i 0 < rel.getD best 0 then best else i) 0

lemma nextPos_lt (mmr : Nat → ℚ) {remaining : List Nat} (h : 0 < remaining.length) :
    nextPos mmr remaining < remaining.length := by
  refine foldlRecOn (motive := fun best : Nat × Option ℚ => best.1 < _) _ _ h fun best hbest c hc => ?_
  split
  · have hlt := (mem_zipIdx hc).2.1
    omega
  · exact hbest

lemma firstPos_lt {rel : List ℚ} (h : 0 < rel.length) : firstPos rel < rel.length := by
  refine foldlRecOn (motive := (· < _)) _ _ h fun best hbest i hi => ?_
  split
  · exact hbest
  · exact mem_range.mp hi

/-- The first pick is a maximum, and the last one of them. -/
lemma firstPos_max (rel : List ℚ) : ∀ j < rel.length, rel.getD j 0 ≤ rel.getD (firstPos rel) 0 ∧
    (firstPos rel < j → rel.getD j 0 < rel.getD (firstPos rel) 0) := by
  unfold firstPos
  generalize rel.length = n
  induction n with
  | zero => exact fun j hj => absurd hj (Nat.not_lt_zero j)
  | succ n ih =>
    rw [range_succ, foldl_append, foldl_cons, foldl_nil]
    intro j hj
    split
    next hless =>
      rcases Nat.lt_succ_iff_lt_or_eq.mp hj with hj | rfl
      · exact ih j hj
      · exact ⟨hless.le, fun _ => hless⟩
    next hless =>
      refine ⟨?_, fun hlt => absurd hj (by omega)⟩
      rcases Nat.lt_succ_iff_lt_or_eq.mp hj with hj | rfl
      · exact (ih j hj).1.trans (not_lt.mp hless)
      · exact le_rfl

lemma eq_firstPos {rel : List ℚ} {i : Nat} (hi : i < rel.length)
    (h : ∀ j < rel.length, rel.getD j 0 ≤ rel.getD i 0 ∧ (i < j → rel.getD j 0 < rel.getD i 0)) :
    i = firstPos rel := by
  have hlt := firstPos_lt (Nat.zero_lt_of_lt hi)
  rcases Nat.lt_trichotomy i (firstPos rel) with hless | heq | hless
  · exact absurd ((firstPos_max rel i hi).1) (not_le.mpr ((h _ hlt).2 hless))
  · exact heq
  · exact absurd ((h _ hlt).1) (not_le.mpr ((firstPos_max rel i hi).2 hless))

lemma pick_perm (mmr : List Nat → Nat → ℚ) {n : Nat} (selected : List Nat) {remaining : List Nat}
    (h : remaining.length = n) : (pick mmr n selected remaining).Perm (selected ++ remaining) := by
  induction n generalizing selected remaining with
  | zero => simp [pick, length_eq_zero_iff.mp h]
  | succ n ih =>
    have hpos : nextPos (mmr selected) remaining < remaining.length := nextPos_lt _ (by omega)
    refine (ih _ (by rw [length_eraseIdx_of_lt hpos]; omega)).trans ?_
    rw [getElem?_eq_getElem hpos, append_assoc]
    exact (getElem_cons_eraseIdx_perm hpos).append_left selected

lemma prefix_pick (mmr : List Nat → Nat → ℚ) (n : Nat) (selected remaining : List Nat) :
    selected <+: pick mmr n selected remaining := by
  induction n generalizing selected remaining with
  | zero => exact prefix_rfl
  | succ n ih => exact (prefix_append selected _).trans (ih _ _)

section
variable {Id : Type} (items : List (FusedItem Id)) (tokenSets : List (Finset String)) (lambda : ℚ)

def blended (it : FusedItem Id) : ℚ :=
  normalized epsilon (items.map (·.fusedScore)) it.fusedScore + rerankAlpha *
    (it.rerankScore.map (normalized (1 / 2 ^ 23) (items.filterMap (·.rerankScore)))).getD 0

def relevance : List ℚ :=
  let raw := (items.take mmrWindow).map (blended items)
  let lo := raw.min?.getD 0
  let span := raw.max?.getD 0 - lo
  raw.map fun r => if epsilon < span then (r - lo) / span else 1

def mmrOrder : List Nat :=
  let rel := relevance items
  let tokens := fun i => tokenSets.getD i ∅
  let mmr := fun selected cand => lambda * rel.getD cand 0 -
    (1 - lambda) * (selected.map fun s => jaccard (tokens cand) (tokens s)).foldl max 0
  let remaining := range rel.length
  pick mmr (rel.length - 1) [firstPos rel] (remaining.eraseIdx (firstPos rel))

def mmrReorder : List (FusedItem Id) :=
  let window := min items.length mmrWindow
  if window ≤ 2 ∨ lambda ≤ 0 then items
  else (mmrOrder items tokenSets lambda).filterMap (items[·]?) ++ items.drop window

def Foremost : Prop :=
  ∃ i < (relevance items).length, items[i]? = items[0]? ∧ ∀ j < (relevance items).length,
    (relevance items).getD j 0 ≤ (relevance items).getD i 0 ∧
      (i < j → (relevance items).getD j 0 < (relevance items).getD i 0)

lemma length_relevance : (relevance items).length = min items.length mmrWindow := by
  simp [relevance, Nat.min_comm]

lemma mmrOrder_perm (h : items ≠ []) :
    (mmrOrder items tokenSets lambda).Perm (range (min items.length mmrWindow)) := by
  have hpos : 0 < (relevance items).length := by
    have hlen := length_pos_iff.mpr h
    rw [length_relevance, mmrWindow]
    omega
  have hfst : firstPos (relevance items) < (range (relevance items).length).length := by
    rw [length_range]
    exact firstPos_lt hpos
  have hpicked := getElem_cons_eraseIdx_perm hfst
  rw [getElem_range] at hpicked
  rw [← length_relevance]
  refine (pick_perm _ _ ?_).trans hpicked
  rw [length_eraseIdx_of_lt hfst, length_range]

lemma filterMap_range (w : Nat) : (range w).filterMap (items[·]?) = items.take w := by
  induction w with
  | zero => rfl
  | succ w ih =>
    rw [range_succ, filterMap_append, ih, take_add_one, filterMap_cons, filterMap_nil]
    cases items[w]? <;> rfl

lemma foremost_iff (h : 0 < (relevance items).length) :
    Foremost items ↔ items[firstPos (relevance items)]? = items[0]? := by
  constructor
  · rintro ⟨i, hi, hitem, hmax⟩
    rwa [← eq_firstPos hi hmax]
  · exact fun hitem => ⟨_, firstPos_lt h, hitem, firstPos_max _⟩

/-- The result is the list in another order, with the items behind the window in their places; the
first item stays exactly if no other one that is as relevant comes after it in the window. -/
theorem diversity_keeps_iff : (mmrReorder items tokenSets lambda).Perm items ∧
      (mmrReorder items tokenSets lambda).drop mmrWindow = items.drop mmrWindow ∧
      ((mmrReorder items tokenSets lambda).head? = items.head? ↔
        items.length ≤ 2 ∨ lambda ≤ 0 ∨ Foremost items) := by
  have hwindow : min items.length mmrWindow ≤ 2 ↔ items.length ≤ 2 := by
    rw [mmrWindow]
    omega
  unfold mmrReorder
  simp only
  split
  next hsmall =>
    refine ⟨.refl _, rfl, iff_of_true rfl ?_⟩
    rw [hwindow] at hsmall
    exact hsmall.imp_right .inl
  next hlarge =>
    obtain ⟨hlong, hlambda⟩ := not_or.mp hlarge
    have hperm := (mmrOrder_perm items tokenSets lambda (ne_nil_of_length_pos (by omega))).filterMap
      (items[·]?)
    rw [filterMap_range] at hperm
    have hlen := hperm.length_eq
    rw [length_take] at hlen
    have hpos : 0 < (relevance items).length := by
      rw [length_relevance]
      omega
    refine ⟨?_, ?_, ?_⟩
    · exact (hperm.append_right _).trans (.of_eq (take_append_drop ..))
    · rw [drop_append, drop_eq_nil_of_le (by omega), nil_append, drop_drop]
      congr 1
      omega
    · have hfst : firstPos (relevance items) < items.length :=
        (firstPos_lt hpos).trans_le (by rw [length_relevance]; exact Nat.min_le_left ..)
      obtain ⟨rest, hrest⟩ := prefix_pick _ _ [firstPos (relevance items)] _
      rw [mmrOrder, ← hrest, ← hwindow, or_iff_right hlong, or_iff_right hlambda,
        foremost_iff items hpos, head?_eq_getElem? (l := items)]
      simp [getElem?_eq_getElem hfst]

/-- Three items of one score: the last one of them comes first. -/
theorem tied_first_moves :
    let items : List (FusedItem Nat) := [⟨1, 1, none⟩, ⟨2, 1, none⟩, ⟨3, 1, none⟩]
    items.Pairwise (fun a b => blended items b ≤ blended items a) ∧
      (mmrReorder items [] (1 / 2)).map (·.id) = [3, 1, 2] := by
  decide +kernel
end
end BrainDb
