import Mathlib.Data.List.Induction

namespace Override
open List
variable {X : Type*}

def run (fs : List (X → X)) (x : X) : X := fs.foldl (fun x f => f x) x

lemma run_append (fs gs : List (X → X)) (x : X) : run (fs ++ gs) x = run gs (run fs x) :=
  foldl_append

def Absorbs (f g : X → X) : Prop := ∀ x, f (g (f x)) = f (g x)

variable {gs fs : List (X → X)}

lemma absorbs_run {f : X → X} (hf : ∀ x, f (f x) = f x) (hgs : ∀ g ∈ gs, Absorbs f g) (x : X) :
    f (run gs (f x)) = f (run gs x) := by
  induction gs using List.reverseRecOn with
  | nil => exact hf x
  | append_singleton gs g ih =>
    have hg := hgs g (by simp)
    have hrest := ih fun g' hg' => hgs g' (mem_append_left _ hg')
    rw [run_append, run_append]
    -- a copy of the map goes in before the last one, and takes the first away
    calc f (g (run gs (f x))) = f (g (f (run gs (f x)))) := (hg _).symm
      _ = f (g (f (run gs x))) := by rw [hrest]
      _ = f (g (run gs x)) := hg _

lemma run_after (hsub : ∀ g ∈ gs, g ∈ fs) (hidem : ∀ f ∈ fs, ∀ x, f (f x) = f x)
    (h : ∀ f ∈ fs, ∀ g ∈ fs, Absorbs f g) (x : X) : run fs (run gs x) = run fs x := by
  induction gs using List.reverseRecOn with
  | nil => rfl
  | append_singleton gs g ih =>
    have hg : g ∈ fs := hsub g (by simp)
    obtain ⟨before, after, rfl⟩ := append_of_mem hg
    have hrest := ih fun g' hg' => hsub g' (mem_append_left _ hg')
    have habsorb := absorbs_run (hidem g hg)
      (fun g' (hg' : g' ∈ before) => h g hg g' (mem_append_left _ hg')) (run gs x)
    rw [run_append gs [g], run_append before]
    show run after (g (run before (g (run gs x)))) = _
    rw [habsorb, ← hrest, run_append before]
    rfl

end Override
