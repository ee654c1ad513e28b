import Mathlib.Data.List.Forall2

namespace ExceptLemmas
open List
variable {α β ε : Type*}

lemma mapM_ok_iff {f : α → Except ε β} {l : List α} {m : List β} :
    l.mapM f = .ok m ↔ List.Forall₂ (fun a b => f a = .ok b) l m := by
  induction l generalizing m with
  | nil =>
    constructor
    · intro h
      cases h
      exact List.Forall₂.nil
    · intro h
      cases h
      rfl
  | cons a l ih =>
    rw [mapM_cons]
    constructor
    · intro h
      cases ha : f a with
      | error e => simp [ha, bind, Except.bind] at h
      | ok b =>
        cases hl : l.mapM f with
        | error e => simp [ha, hl, bind, Except.bind] at h
        | ok bs =>
          simp only [ha, hl, bind, Except.bind, pure, Except.pure, Except.ok.injEq] at h
          subst h
          exact List.Forall₂.cons ha (ih.mp hl)
    · rintro (_ | ⟨ha, hl⟩)
      simp [ha, ih.mpr hl, bind, Except.bind, pure, Except.pure]

lemma exists_of_mem_mapM {f : α → Except ε β} {l : List α} {m : List β} (h : l.mapM f = .ok m)
    {b : β} (hb : b ∈ m) : ∃ a ∈ l, f a = .ok b := by
  induction mapM_ok_iff.mp h with
  | nil => cases hb
  | @cons a b' l m hab hrest ih =>
    rcases mem_cons.mp hb with rfl | hmem
    · exact ⟨a, mem_cons_self, hab⟩
    · obtain ⟨a', ha', hok⟩ := ih (mapM_ok_iff.mpr hrest) hmem
      exact ⟨a', mem_cons_of_mem a ha', hok⟩

lemma bind_ok {ε α β : Type} {x : Except ε α} {f : α → Except ε β} {b : β}
    (h : (x >>= f) = .ok b) : ∃ a, x = .ok a ∧ f a = .ok b := by
  cases x with
  | error e => cases h
  | ok a => exact ⟨a, rfl, h⟩

lemma map_ok {x : Except ε α} {f : α → β} {b : β} (h : x.map f = .ok b) :
    ∃ a, x = .ok a ∧ f a = b := by
  cases x with
  | error e => cases h
  | ok a => exact ⟨a, rfl, by simpa [Except.map] using h⟩

lemma mapError_ok {ε δ α : Type} {x : Except ε α} {f : ε → δ} {a : α}
    (h : x.mapError f = .ok a) : x = .ok a := by
  cases x with
  | error e => cases h
  | ok b => exact congrArg Except.ok (Except.ok.inj h)

lemma foldlM_append_ok {ε α β : Type} {f : β → α → Except ε β} {xs ys : List α} {b c : β} :
    (xs ++ ys).foldlM f b = .ok c ↔ ∃ m, xs.foldlM f b = .ok m ∧ ys.foldlM f m = .ok c := by
  rw [foldlM_append]
  cases xs.foldlM f b with
  | error e | ok m => simp [bind, Except.bind]

lemma foldlM_invariant {ε α β : Type} {f : β → α → Except ε β} {I : β → Prop} {l : List α}
    {b c : β} (hstep : ∀ a ∈ l, ∀ b b', f b a = .ok b' → I b → I b') (h : l.foldlM f b = .ok c)
    (hb : I b) : I c := by
  induction l generalizing b with
  | nil =>
    cases h
    exact hb
  | cons a l ih =>
    rw [foldlM_cons] at h
    cases ha : f b a with
    | error e => simp [ha, bind, Except.bind] at h
    | ok b' =>
      rw [ha] at h
      exact ih (fun x hx => hstep x (mem_cons_of_mem a hx)) h (hstep a mem_cons_self b b' ha hb)

end ExceptLemmas
