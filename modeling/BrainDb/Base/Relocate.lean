import BrainDb.Base.Table

namespace Relocate
open List

lemma foldl_pair {A B C : Type} (f : A → C → A) (g : C → B) (l : List C) (a : A) (bs : List B) :
    l.foldl (fun acc c => (f acc.1 c, acc.2 ++ [g c])) (a, bs) = (l.foldl f a, bs ++ l.map g) := by
  induction l generalizing a bs with
  | nil => simp
  | cons c l ih => simp [ih]

lemma foldl_undo {S E : Type} {f b : S → E → S} {l : List E} {s : S}
    (hundo : ∀ e ∈ l, b (f s e) e = s)
    (hcomm : l.Pairwise fun e e' => ∀ s, b (f s e') e = f (b s e) e') :
    l.foldl b (l.foldl f s) = s := by
  induction l with
  | nil => rfl
  | cons e l ih =>
    obtain ⟨he, hcomm⟩ := pairwise_cons.mp hcomm
    -- the reversal of the first change is carried through the others
    have hpast : ∀ l' ⊆ l, ∀ s, b (l'.foldl f s) e = l'.foldl f (b s e) := by
      intro l'
      induction l' with
      | nil => intro _ s; rfl
      | cons e' l' ih =>
        intro hsub s
        rw [foldl_cons, ih (fun x hx => hsub (mem_cons_of_mem _ hx)), he e' (hsub mem_cons_self)]
        rfl
    rw [foldl_cons, foldl_cons, hpast l (List.Subset.refl l), hundo e mem_cons_self]
    exact ih (fun e' he' => hundo e' (mem_cons_of_mem e he')) hcomm

section
variable {S E K V : Type} [DecidableEq K] {step : S → E → S} {v : S → K → V} {key : E → K}
  {f : E → V → V} {I : S → Prop} (hkeep : ∀ s e, I s → I (step s e))
  (hstep : ∀ s e k, I s → v (step s e) k = if k = key e then f e (v s k) else v s k)

include hkeep hstep

lemma get_foldl_other {l : List E} {s : S} (hs : I s) {k : K} (hk : ∀ e ∈ l, k ≠ key e) :
    v (l.foldl step s) k = v s k := by
  induction l generalizing s with
  | nil => rfl
  | cons e l ih =>
    refine (ih (hkeep s e hs) fun e' he' => hk e' (mem_cons_of_mem e he')).trans ?_
    rw [hstep s e k hs, if_neg (hk e mem_cons_self)]

lemma get_foldl_touched {l : List E} {s : S} (hs : I s) (hl : l.Pairwise (key · ≠ key ·)) {e : E}
    (he : e ∈ l) : v (l.foldl step s) (key e) = f e (v s (key e)) := by
  induction l generalizing s with
  | nil => cases he
  | cons e' l ih =>
    obtain ⟨hfst, hl⟩ := pairwise_cons.mp hl
    rcases mem_cons.mp he with rfl | he
    · refine (get_foldl_other hkeep hstep (hkeep s e hs) hfst).trans ?_
      rw [hstep s e _ hs, if_pos rfl]
    · refine (ih (hkeep s e' hs) hl he).trans ?_
      rw [hstep s e' _ hs, if_neg (hfst e he).symm]
end

variable {K V E : Type} [LinearOrder K] (source target : E → K) (value : E → V) (t : Table K V)

def shift (e : E) : Table K V := (t.remove (source e)).insert (target e) (value e)

def shiftAll (l : List E) : Table K V := l.foldl (shift source target value) t

def Undoable (t : Table K V) : List E → Prop
  | [] => True
  | e :: l => (t.get (target e) = none ∨ ∃ e' ∈ l, source e' = target e) ∧ Undoable t l

instance Undoable.decidable (t : Table K V) [DecidableEq V] :
    (l : List E) → Decidable (Undoable source target t l)
  | [] => inferInstanceAs (Decidable True)
  | _ :: l =>
    have := Undoable.decidable t l
    inferInstanceAs (Decidable ((_ ∨ ∃ e' ∈ l, _) ∧ _))

variable {source target value} {t t' : Table K V} {l : List E} {k : K}

lemma get_shift (e : E) : (shift source target value t e).get k =
    if k = target e then some (value e) else if k = source e then none else t.get k := by
  rw [shift, Table.get_insert, Table.get_remove]

lemma get_shiftAll_other (hk : ∀ e ∈ l, k ≠ source e ∧ k ≠ target e) :
    (shiftAll source target value t l).get k = t.get k := by
  induction l generalizing t with
  | nil => rfl
  | cons e l ih =>
    obtain ⟨hs, ht⟩ := hk e mem_cons_self
    refine (ih fun e' he' => hk e' (mem_cons_of_mem e he')).trans ?_
    rw [get_shift, if_neg ht, if_neg hs]

lemma get_shiftAll_none (hk : t.get k = none) (hfree : ∀ e ∈ l, target e ≠ k) :
    (shiftAll source target value t l).get k = none := by
  induction l generalizing t with
  | nil => exact hk
  | cons e l ih =>
    refine ih ?_ fun e' he' => hfree e' (mem_cons_of_mem e he')
    rw [get_shift, if_neg (hfree e mem_cons_self).symm, hk, ite_self]

lemma shiftAll_back (hsrc : ∀ e ∈ l, t.get (source e) = some (value e))
    (hsame : ∀ k, (∀ e ∈ l, k ≠ source e ∧ k ≠ target e) → t'.get k = t.get k)
    (hundo : Undoable source target t l) : shiftAll target source value t' l = t := by
  induction l generalizing t' with
  | nil =>
    ext1 k
    exact hsame k (by simp)
  | cons e l ih =>
    obtain ⟨hpos, hundo⟩ := hundo
    refine ih (fun e' he' => hsrc e' (mem_cons_of_mem e he')) ?_ hundo
    intro k hk
    rw [get_shift]
    split
    next hks => rw [hks, hsrc e mem_cons_self]
    next hks =>
      split
      next hkt =>
        rcases hpos with hpos | ⟨e', he', hleft⟩
        · rw [hkt, hpos]
        · exact absurd (hkt.trans hleft.symm) (hk e' he').1
      next hkt => exact hsame k (forall_mem_cons.mpr ⟨⟨hks, hkt⟩, hk⟩)

lemma undoable_of_back (hne : ∀ e ∈ l, source e ≠ target e)
    (hback : shiftAll target source value t' l = t) : Undoable source target t l := by
  induction l generalizing t' with
  | nil => trivial
  | cons e l ih =>
    change shiftAll target source value (shift target source value t' e) l = t at hback
    refine ⟨?_, ih (fun e' he' => hne e' (mem_cons_of_mem e he')) hback⟩
    by_cases hleft : ∃ e' ∈ l, source e' = target e
    · exact .inr hleft
    · left
      rw [← hback]
      refine get_shiftAll_none ?_ fun e' he' heq => hleft ⟨e', he', heq⟩
      rw [get_shift, if_neg (hne e mem_cons_self).symm, if_pos rfl]

lemma shiftAll_undone_iff (hsrc : ∀ e ∈ l, t.get (source e) = some (value e))
    (hne : ∀ e ∈ l, source e ≠ target e) :
    shiftAll target source value (shiftAll source target value t l) l = t ↔
      Undoable source target t l :=
  ⟨undoable_of_back hne, shiftAll_back hsrc fun _ hk => get_shiftAll_other hk⟩

end Relocate
