import Mathlib.Data.List.Basic

namespace ListSet
open List
variable {α β : Type*} {l : List α} {i j : Nat} {a b : α}

lemma getElem?_set_some (h : (l.set i a)[j]? = some b) :
    (j = i ∧ b = a) ∨ (j ≠ i ∧ l[j]? = some b) := by
  rw [getElem?_set] at h
  by_cases hij : i = j
  · subst hij
    rw [if_pos rfl] at h
    split at h
    · exact .inl ⟨rfl, (Option.some.inj h).symm⟩
    · cases h
  · rw [if_neg hij] at h
    exact .inr ⟨fun hji => hij hji.symm, h⟩

lemma getElem?_set_self (h : l[i]? = some b) (a : α) : (l.set i a)[i]? = some a := by
  obtain ⟨hlt, _⟩ := List.getElem?_eq_some_iff.mp h
  rw [getElem?_set, if_pos rfl, if_pos hlt]

lemma getElem?_set_other (hij : j ≠ i) (h : l[j]? = some b) (a : α) : (l.set i a)[j]? = some b := by
  rw [getElem?_set, if_neg (Ne.symm hij)]
  exact h

variable {f : α → List β}

lemma flatMap_set_exchange (h : l[i]? = some b) (a : α) :
    (f b ++ (l.set i a).flatMap f).Perm (f a ++ l.flatMap f) := by
  induction l generalizing i with
  | nil => simp at h
  | cons c l ih =>
    cases i with
    | zero =>
      have hcb : c = b := by simpa using h
      subst hcb
      exact perm_append_comm_assoc ..
    | succ i =>
      have hrest := (ih (by simpa using h)).append_left (f c)
      exact (perm_append_comm_assoc ..).trans (hrest.trans (perm_append_comm_assoc ..))

lemma flatMap_set_perm {x : List β} (h : l[i]? = some b) (hf : f b = x ++ f a) :
    (l.flatMap f).Perm (x ++ (l.set i a).flatMap f) := by
  have hset := flatMap_set_exchange h (f := f) a
  rw [hf, append_assoc] at hset
  exact (perm_append_left_iff (f a)).mp (hset.symm.trans (perm_append_comm_assoc ..))

lemma flatMap_set_gain {x : List β} (h : l[i]? = some b) (hf : f a = f b ++ x) :
    (l.flatMap f ++ x).Perm ((l.set i a).flatMap f) := by
  have hset := flatMap_set_exchange h (f := f) a
  rw [hf, append_assoc] at hset
  exact perm_append_comm.trans ((perm_append_left_iff (f b)).mp hset).symm

end ListSet
