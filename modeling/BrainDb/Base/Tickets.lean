import Mathlib.Data.List.Basic
import Mathlib.Order.Nat

namespace Tickets
open Function
open List

structure State where
  next : Nat
  drawn : Nat → List Nat
  current : Option Nat
  settled : Nat → Bool
  mark : Nat
  observed : List Nat

variable {s s' : State} {i j n d : Nat}

inductive Step (s : State) : State → Prop
  | skip {n : Nat} : s.next ≤ n → Step s { s with next := n }
  | take {i : Nat} : s.current = none → s.drawn i = [] → s.settled i = false →
      Step s { s with current := some i }
  | draw {i n : Nat} {new : List Nat} : s.current = some i → s.next ≤ n → new.Pairwise (· < ·) →
      (∀ x ∈ new, s.next ≤ x ∧ x < n) →
      Step s { s with next := n, drawn := Function.update s.drawn i (s.drawn i ++ new) }
  | release : Step s { s with current := none }
  | settle {i : Nat} : s.current ≠ some i →
      Step s { s with settled := Function.update s.settled i true }
  | commit {i last : Nat} : s.current ≠ some i → (s.drawn i).getLast? = some last →
      (∀ j, j ≠ i → ∀ x ∈ s.drawn j, x < last → s.settled j = true) →
      Step s { s with settled := Function.update s.settled i true, mark := max s.mark last }
  | observe : Step s { s with observed := s.mark :: s.observed }

abbrev Steps : State → State → Prop := Relation.ReflTransGen Step

def Covers (s : State) (d : Nat) : Prop :=
  ∀ i, (∀ x ∈ s.drawn i, x ≤ d → s.settled i = true) ∧
    ∀ x ∈ s.drawn i, x ≤ d → ∀ y ∈ s.drawn i, y ≤ d

structure Sound (s : State) : Prop where
  next_pos : 0 < s.next
  bounds : ∀ i, ∀ x ∈ s.drawn i, 0 < x ∧ x < s.next
  rising : ∀ i, (s.drawn i).Pairwise (· < ·)
  apart : ∀ i j, i ≠ j → (∀ x ∈ s.drawn i, ∀ y ∈ s.drawn j, x < y) ∨
    ∀ x ∈ s.drawn i, ∀ y ∈ s.drawn j, y < x
  newest : ∀ i, s.current = some i → s.settled i = false ∧
    ∀ j, j ≠ i → ∀ x ∈ s.drawn i, ∀ y ∈ s.drawn j, y < x
  marks : ∀ d ∈ s.mark :: s.observed, d < s.next ∧ Covers s d

lemma Covers.settle (h : Covers s d) (i : Nat) :
    Covers { s with settled := Function.update s.settled i true } d := by
  intro j
  refine ⟨?_, (h j).2⟩
  intro x hx hle
  by_cases hji : j = i
  · rw [hji]
    exact update_self ..
  · exact (update_of_ne hji ..).trans ((h j).1 x hx hle)

lemma le_of_getLast? {l : List Nat} {last : Nat} (h : l.Pairwise (· < ·))
    (hlast : l.getLast? = some last) : ∀ x ∈ l, x ≤ last := by
  obtain ⟨init, rfl⟩ := List.getLast?_eq_some_iff.mp hlast
  intro x hx
  rcases mem_append.mp hx with hx | hx
  · exact Nat.le_of_lt ((pairwise_append.mp h).2.2 x hx last mem_cons_self)
  · exact Nat.le_of_eq (mem_singleton.mp hx)

lemma Sound.draw (h : Sound s) {new : List Nat} (hcur : s.current = some i) (hn : s.next ≤ n)
    (hrising : new.Pairwise (· < ·)) (hnew : ∀ x ∈ new, s.next ≤ x ∧ x < n) :
    Sound { s with next := n, drawn := Function.update s.drawn i (s.drawn i ++ new) } := by
  obtain ⟨hopen, hnewest⟩ := h.newest i hcur
  have hself : Function.update s.drawn i (s.drawn i ++ new) i = s.drawn i ++ new := update_self ..
  have hoth : ∀ {j}, j ≠ i → Function.update s.drawn i (s.drawn i ++ new) j = s.drawn j :=
    fun hj => update_of_ne hj ..
  -- the current task has drawn the newest tickets, and draws only newer ones
  have haft : ∀ j, j ≠ i → ∀ x ∈ s.drawn i ++ new, ∀ y ∈ s.drawn j, y < x := by
    intro j hj x hx y hy
    rcases mem_append.mp hx with hx | hx
    · exact hnewest j hj x hx y hy
    · exact (h.bounds j y hy).2.trans_le (hnew x hx).1
  refine ⟨h.next_pos.trans_le hn, ?_, ?_, ?_, ?_, ?_⟩
  · intro j x hx
    by_cases hj : j = i
    · subst hj
      simp only [hself] at hx
      rcases mem_append.mp hx with hx | hx
      · exact ⟨(h.bounds j x hx).1, (h.bounds j x hx).2.trans_le hn⟩
      · exact ⟨h.next_pos.trans_le (hnew x hx).1, (hnew x hx).2⟩
    · simp only [hoth hj] at hx
      exact ⟨(h.bounds j x hx).1, (h.bounds j x hx).2.trans_le hn⟩
  · intro j
    by_cases hj : j = i
    · subst hj
      simp only [hself]
      refine pairwise_append.mpr ⟨h.rising j, hrising, ?_⟩
      intro x hx y hy
      exact (h.bounds j x hx).2.trans_le (hnew y hy).1
    · simp only [hoth hj]
      exact h.rising j
  · intro j k hjk
    by_cases hj : j = i
    · subst hj
      have hk : k ≠ j := fun hkj => hjk hkj.symm
      simp only [hself, hoth hk]
      exact .inr (haft k hk)
    · by_cases hk : k = i
      · subst hk
        simp only [hself, hoth hj]
        exact .inl fun x hx y hy => haft j hj y hy x hx
      · simp only [hoth hj, hoth hk]
        exact h.apart j k hjk
  · intro j hj
    have hji : i = j := Option.some.inj (hcur.symm.trans hj)
    subst hji
    refine ⟨hopen, ?_⟩
    intro k hk
    simp only [hself, hoth hk]
    exact haft k hk
  · intro d hd
    obtain ⟨hlt, hcovers⟩ := h.marks d hd
    refine ⟨hlt.trans_le hn, ?_⟩
    intro j
    by_cases hj : j = i
    · subst hj
      have hlate : ∀ x ∈ s.drawn j ++ new, d < x := by
        intro x hx
        rcases mem_append.mp hx with hx | hx
        · by_contra hle
          have hstl := (hcovers j).1 x hx (Nat.le_of_not_lt hle)
          rw [hopen] at hstl
          cases hstl
        · exact hlt.trans_le (hnew x hx).1
      simp only [hself]
      exact ⟨fun x hx hle => absurd hle (Nat.not_le_of_lt (hlate x hx)),
        fun x hx hle => absurd hle (Nat.not_le_of_lt (hlate x hx))⟩
    · simp only [hoth hj]
      exact hcovers j

lemma Sound.settle (h : Sound s) (hcur : s.current ≠ some i) :
    Sound { s with settled := Function.update s.settled i true } := by
  refine { h with newest := ?_, marks := fun d hd => ⟨(h.marks d hd).1, (h.marks d hd).2.settle i⟩ }
  intro j hj
  have hji : j ≠ i := fun hji => hcur (hji ▸ hj)
  exact ⟨(update_of_ne hji ..).trans (h.newest j hj).1, (h.newest j hj).2⟩

lemma Sound.commit (h : Sound s) {last : Nat} (hcur : s.current ≠ some i)
    (hlast : (s.drawn i).getLast? = some last)
    (horder : ∀ j, j ≠ i → ∀ x ∈ s.drawn j, x < last → s.settled j = true) :
    Sound { s with settled := Function.update s.settled i true, mark := max s.mark last } := by
  have hmem : last ∈ s.drawn i := mem_of_getLast? hlast
  have hcovers : Covers { s with settled := Function.update s.settled i true } last := by
    intro j
    by_cases hj : j = i
    · subst hj
      refine ⟨fun _ _ _ => update_self .., ?_⟩
      intro _ _ _ y hy
      exact le_of_getLast? (h.rising j) hlast y hy
    · refine ⟨?_, ?_⟩
      · intro x hx hle
        refine (update_of_ne hj ..).trans (horder j hj x hx ?_)
        rcases h.apart j i hj with hbef | hbehind
        · exact hbef x hx last hmem
        · exact absurd hle (Nat.not_le_of_lt (hbehind x hx last hmem))
      · intro x hx hle y hy
        rcases h.apart j i hj with hbef | hbehind
        · exact Nat.le_of_lt (hbef y hy last hmem)
        · exact absurd hle (Nat.not_le_of_lt (hbehind x hx last hmem))
  refine { h.settle hcur with marks := ?_ }
  · intro d hd
    rcases mem_cons.mp hd with rfl | hd
    · obtain ⟨hlt, hmark⟩ := h.marks s.mark mem_cons_self
      rcases Nat.le_total s.mark last with hle | hle
      · rw [Nat.max_eq_right hle]
        exact ⟨(h.bounds i last hmem).2, hcovers⟩
      · rw [Nat.max_eq_left hle]
        exact ⟨hlt, hmark.settle i⟩
    · obtain ⟨hlt, hold⟩ := h.marks d (mem_cons_of_mem s.mark hd)
      exact ⟨hlt, hold.settle i⟩

lemma Sound.step (h : Sound s) (hs : Step s s') : Sound s' := by
  cases hs with
  | skip hn =>
    refine ⟨h.next_pos.trans_le hn, ?_, h.rising, h.apart, h.newest, ?_⟩
    · intro i x hx
      exact ⟨(h.bounds i x hx).1, (h.bounds i x hx).2.trans_le hn⟩
    · intro d hd
      exact ⟨(h.marks d hd).1.trans_le hn, (h.marks d hd).2⟩
  | @take i _ hfresh hopen =>
    refine { h with newest := ?_ }
    intro j hj
    cases hj
    refine ⟨hopen, ?_⟩
    intro k _ x hx
    simp only [hfresh] at hx
    cases hx
  | draw hcur hn hrising hnew => exact h.draw hcur hn hrising hnew
  | release =>
    refine { h with newest := ?_ }
    intro j hj
    cases hj
  | settle hcur => exact h.settle hcur
  | commit hcur hlast horder => exact h.commit hcur hlast horder
  | observe =>
    refine { h with marks := ?_ }
    intro d hd
    rcases mem_cons.mp hd with rfl | hd
    · exact h.marks _ mem_cons_self
    · exact h.marks d hd

lemma Sound.steps (h : Sound s) (hs : Steps s s') : Sound s' := by
  induction hs with
  | refl => exact h
  | tail _ hstep ih => exact ih.step hstep

end Tickets
