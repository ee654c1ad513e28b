import Mathlib.Data.List.Basic

namespace Numbered
open List
variable {α : Type*} {f : α → Nat}

def From (f : α → Nat) : Nat → List α → Prop
  | _, [] => True
  | n, a :: l => f a = n ∧ From f (n + 1) l

variable {n : Nat} {l : List α}

@[simp] lemma from_nil (n : Nat) : From f n [] := trivial

@[simp] lemma from_cons {a : α} : From f n (a :: l) ↔ f a = n ∧ From f (n + 1) l := Iff.rfl

lemma from_append {m : List α} : From f n (l ++ m) ↔ From f n l ∧ From f (n + l.length) m := by
  induction l generalizing n with
  | nil => simp
  | cons a l ih =>
    have hn : n + 1 + l.length = n + (l.length + 1) := by omega
    simp only [cons_append, from_cons, ih, length_cons, hn, and_assoc]

lemma from_map {β : Type*} {g : β → α} {l : List β} :
    From f n (l.map g) ↔ From (fun b => f (g b)) n l := by
  induction l generalizing n with
  | nil => exact Iff.rfl
  | cons b l ih => exact and_congr_right fun _ => ih

lemma From.bounds (h : From f n l) : ∀ a ∈ l, n ≤ f a ∧ f a < n + l.length := by
  induction l generalizing n with
  | nil => simp
  | cons b l ih =>
    intro a ha
    rcases mem_cons.mp ha with rfl | ha
    · simp only [h.1, length_cons]
      omega
    · have hb := ih h.2 a ha
      simp only [length_cons]
      omega

lemma From.getElem? {k : Nat} (h : From f n l) {a : α} (ha : l[k]? = some a) : f a = n + k := by
  induction l generalizing n k with
  | nil => simp at ha
  | cons b l ih =>
    cases k with
    | zero =>
      have hb : b = a := by simpa using ha
      simpa [hb] using h.1
    | succ k =>
      have ht := ih h.2 (by simpa using ha)
      omega

lemma From.take (h : From f n l) (k : Nat) : From f n (l.take k) := by
  have hs := h
  rw [← take_append_drop k l, from_append] at hs
  exact hs.1

lemma From.getLast? (h : From f n l) {a : α} (ha : l.getLast? = some a) :
    f a + 1 = n + l.length := by
  obtain ⟨init, rfl⟩ := List.getLast?_eq_some_iff.mp ha
  have hl := (from_append.mp h).2.1
  simp only [length_append, length_singleton]
  omega

lemma From.filter_lt (h : From f n l) (m : Nat) : l.filter (fun a => f a < m) = l.take (m - n) := by
  induction l generalizing n with
  | nil => simp
  | cons a l ih =>
    have ht := ih h.2
    by_cases hm : f a < m
    · have hk : m - n = (m - (n + 1)) + 1 := by have := h.1; omega
      simp [hm, hk, ht]
    · have hk : m - n = 0 := by have := h.1; omega
      have hk' : m - (n + 1) = 0 := by omega
      simp [hm, hk, ht, hk']

lemma From.filter_gt (h : From f n l) (m : Nat) :
    l.filter (fun a => m < f a) = l.drop (m + 1 - n) := by
  induction l generalizing n with
  | nil => simp
  | cons a l ih =>
    have ha : f a = n := h.1
    have ht := ih h.2
    by_cases hlt : m < f a
    · have hzero : m + 1 - n = 0 := by omega
      have hzero' : m + 1 - (n + 1) = 0 := by omega
      rw [hzero', drop_zero] at ht
      rw [hzero, drop_zero, filter_cons_of_pos (by simpa using hlt), ht]
    · have hsucc : m + 1 - n = m + 1 - (n + 1) + 1 := by omega
      rw [hsucc, drop_succ_cons, filter_cons_of_neg (by simpa using hlt), ht]

end Numbered
