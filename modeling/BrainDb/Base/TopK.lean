import Mathlib.Data.List.Nodup
import Mathlib.Data.List.Perm.Subperm
import Mathlib.Order.Lattice

variable {K σ : Type} [LinearOrder σ] {k : Nat} {P Q : K × σ → Prop} {l hits : List (K × σ)}

/-- Each key is listed once, in descending order, and what is left out is beaten by `k` hits. -/
structure TopK (k : Nat) (P : K × σ → Prop) (l : List (K × σ)) : Prop where
  mem : ∀ h ∈ l, P h
  nodup : (l.map Prod.fst).Nodup
  sorted : l.Pairwise fun a b => b.2 ≤ a.2
  length_le : l.length ≤ k
  best : ∀ h, P h → h ∉ l → l.length = k ∧ ∀ r ∈ l, h.2 ≤ r.2

namespace TopK
open List
variable {sorted : List (K × σ)}

lemma of_sorted (hperm : sorted.Perm l) (hsort : sorted.Pairwise fun a b => b.2 ≤ a.2)
    (hnd : (l.map Prod.fst).Nodup) (k : Nat) : TopK k (· ∈ l) (sorted.take k) := by
  have hsub := take_sublist k sorted
  refine ⟨fun h hh => hperm.mem_iff.mp (hsub.subset hh),
    (hsub.map Prod.fst).nodup ((hperm.map Prod.fst).nodup_iff.mpr hnd), hsort.sublist hsub,
    length_take_le k sorted, fun h hh hnot => ?_⟩
  have hcut := take_append_drop k sorted
  have hdrop : h ∈ sorted.drop k := by
    rw [← hperm.mem_iff, ← hcut] at hh
    exact (mem_append.mp hh).resolve_left hnot
  have hlen := length_pos_of_mem hdrop
  rw [← hcut] at hsort
  refine ⟨?_, fun r hr => (pairwise_append.mp hsort).2.2 r hr h hdrop⟩
  rw [length_drop] at hlen
  rw [length_take]
  omega

lemma congr (h : TopK k P l) (hPQ : ∀ x, P x ↔ Q x) : TopK k Q l :=
  ⟨fun x hx => (hPQ x).mp (h.mem x hx), h.nodup, h.sorted, h.length_le,
    fun x hx => h.best x ((hPQ x).mpr hx)⟩

/-- Whatever `k` others beat or tie is beaten or tied by the whole list. -/
lemma beaten (h : TopK k P l) {x : K × σ} (hmem : ∀ r ∈ hits, P r)
    (hnd : hits.Nodup) (hlen : k ≤ hits.length) (hbeats : ∀ r ∈ hits, x.2 ≤ r.2) :
    l.length = k ∧ ∀ r ∈ l, x.2 ≤ r.2 := by
  have hle := h.length_le
  refine ⟨?_, fun r hr => ?_⟩
  · by_contra hshort
    have hsub : hits ⊆ l := fun y hy => by
      by_contra hnot
      exact hshort (h.best y (hmem y hy) hnot).1
    have := (subperm_of_subset hnd hsub).length_le
    omega
  · by_contra hworse
    -- otherwise every hit is listed, and `r` besides
    have hsub : r :: hits ⊆ l := by
      refine cons_subset.mpr ⟨hr, fun y hy => ?_⟩
      by_contra hnot
      exact hworse (le_trans (hbeats y hy) ((h.best y (hmem y hy) hnot).2 r hr))
    have hr_notMem : r ∉ hits := fun hmem => hworse (hbeats r hmem)
    have := (subperm_of_subset (nodup_cons.mpr ⟨hr_notMem, hnd⟩) hsub).length_le
    rw [length_cons] at this
    omega

/-- What `k` others beat is not listed. -/
lemma notMem_of_outdone (h : TopK k P l) {x : K × σ} (hmem : ∀ r ∈ hits, P r)
    (hnd : hits.Nodup) (hlen : k ≤ hits.length) (hbeats : ∀ r ∈ hits, x.2 < r.2) : x ∉ l := by
  intro hx
  by_cases hsub : hits ⊆ l
  · have hnot : x ∉ hits := fun hmem => lt_irrefl _ (hbeats x hmem)
    have := (subperm_of_subset (nodup_cons.mpr ⟨hnot, hnd⟩) (cons_subset.mpr ⟨hx, hsub⟩)).length_le
    have := h.length_le
    rw [length_cons] at *
    omega
  · obtain ⟨y, hy, hnot⟩ : ∃ y ∈ hits, y ∉ l := by simpa [subset_def] using hsub
    exact absurd ((h.best y (hmem y hy) hnot).2 x hx) (not_le.mpr (hbeats y hy))

end TopK

section
open List
variable [DecidableEq K] (k) (main pending : List (K × σ)) (x : K × σ)

def Crowded (l : List (K × σ)) : Prop := k ≤ (l.filter fun y => y.1 ≠ x.1 ∧ x.2 ≤ y.2).length

def Outdone (l : List (K × σ)) : Prop := k ≤ (l.filter fun y => x.2 < y.2).length

instance (l : List (K × σ)) : Decidable (Crowded k x l) := Nat.decLe ..

instance (l : List (K × σ)) : Decidable (Outdone k x l) := Nat.decLe ..

def unreplaced : List (K × σ) := main.filter fun y => y.1 ∉ pending.map Prod.fst

def sure : List (K × σ) :=
  pending ++ (unreplaced main pending).filter fun y => ¬ Crowded k y main

/-- No replaced score keeps a better key out of the first tier's best `k`, and none outlives the
cut of the second. -/
structure Undisplaced : Prop where
  found : ∀ x ∈ unreplaced main pending, Crowded k x main →
    (∃ m ∈ main, ∃ p ∈ pending, p.1 = m.1 ∧ p.2 < x.2 ∧ x.2 ≤ m.2) →
      k ≤ ((sure k main pending).filter fun y => x.2 ≤ y.2).length
  outlived : ∀ m ∈ main, ∀ p ∈ pending, p.1 = m.1 → p.2 < m.2 → Crowded k p pending →
    Outdone k m main ∨ Outdone k m (sure k main pending)

variable {k main pending x}

lemma TopK.crowded (h : TopK k (· ∈ l) hits) (hl : (l.map Prod.fst).Nodup) (hx : x ∈ l)
    (hnot : x ∉ hits) : Crowded k x l := by
  obtain ⟨hlen, hbeats⟩ := h.best x hx hnot
  have hsub : hits ⊆ l.filter fun y => y.1 ≠ x.1 ∧ x.2 ≤ y.2 := by
    refine fun y hy => mem_filter.mpr ⟨h.mem y hy, decide_eq_true ⟨fun hkey => hnot ?_, hbeats y hy⟩⟩
    exact inj_on_of_nodup_map hl (h.mem y hy) hx hkey ▸ hy
  exact hlen.ge.trans (subperm_of_subset (.of_map _ h.nodup) hsub).length_le

/-- Without ties a crowded key is not listed. -/
lemma TopK.notMem_of_crowded (h : TopK k (· ∈ l) hits) (hl : (l.map Prod.fst).Nodup)
    (huntied : ∀ y ∈ l, y.1 ≠ x.1 → y.2 ≠ x.2) (hx : Crowded k x l) : x ∉ hits := by
  refine h.notMem_of_outdone (fun y hy => mem_of_mem_filter hy) (.filter _ (.of_map _ hl)) hx
    fun y hy => ?_
  obtain ⟨hy, hy'⟩ := mem_filter.mp hy
  obtain ⟨hkey, hle⟩ := of_decide_eq_true hy'
  exact lt_of_le_of_ne hle (huntied y hy hkey).symm

structure Tiers (k : Nat) (main pending first second : List (K × σ)) : Prop where
  first : TopK k (· ∈ main) first
  second : TopK k (· ∈ pending) second
  main : (main.map Prod.fst).Nodup
  pending : (pending.map Prod.fst).Nodup

def Merged (first second : List (K × σ)) (x : K × σ) : Prop :=
  x ∈ first ∧ x.1 ∉ second.map Prod.fst ∨ x ∈ second

def Current (main pending : List (K × σ)) (x : K × σ) : Prop :=
  x ∈ unreplaced main pending ∨ x ∈ pending

omit [LinearOrder σ] in
lemma mem_unreplaced : x ∈ unreplaced main pending ↔ x ∈ main ∧ x.1 ∉ pending.map Prod.fst := by
  simp [unreplaced, mem_filter]

namespace Tiers
variable {first second sorted : List (K × σ)} (h : Tiers k main pending first second)
include h

lemma merged (hperm : sorted.Perm (first.filter (fun x => !second.any fun y => y.1 = x.1) ++ second))
    (hsort : sorted.Pairwise fun a b => b.2 ≤ a.2) :
    TopK k (Merged first second) (sorted.take k) := by
  have hkey : ∀ x : K × σ, (!second.any fun y => y.1 = x.1) = true ↔ x.1 ∉ second.map Prod.fst := by
    simp only [Bool.not_eq_true', any_eq_false, decide_eq_true_eq, List.mem_map, not_exists, not_and,
      implies_true]
  refine (TopK.of_sorted hperm hsort ?_ k).congr fun x => ?_
  · rw [map_append]
    refine ((filter_sublist.map _).nodup h.first.nodup).append h.second.nodup ?_
    simp only [disjoint_left, List.mem_map, mem_filter, hkey]
    rintro key ⟨x, ⟨_, hx⟩, rfl⟩ ⟨y, hy, heq⟩
    exact hx ⟨y, hy, heq⟩
  · rw [mem_append, mem_filter, hkey, Merged]

omit [DecidableEq K] in
lemma notMem_second (hx : x.1 ∉ pending.map Prod.fst) : x.1 ∉ second.map Prod.fst := by
  intro hmem
  obtain ⟨y, hy, hkey⟩ := List.mem_map.mp hmem
  exact hx (List.mem_map.mpr ⟨y, h.second.mem y hy, hkey⟩)

lemma merged_unreplaced (hx : x ∈ unreplaced main pending) : Merged first second x ↔ x ∈ first := by
  have hkey := (mem_unreplaced.mp hx).2
  refine ⟨?_, fun hfst => .inl ⟨hfst, h.notMem_second hkey⟩⟩
  rintro (hfst | hsnd)
  · exact hfst.1
  · exact absurd (mem_map_of_mem (h.second.mem x hsnd)) hkey

/-- Where `k` of the sure ones reach a score, `k` of the merged ones do. -/
lemma exists_merged (hsure : hits ⊆ sure k main pending) (hnd : hits.Nodup)
    (hlen : k ≤ hits.length) : ∃ found : List (K × σ), found.Nodup ∧ k ≤ found.length ∧
      ∀ y ∈ found, Merged first second y ∧ ∃ z ∈ hits, z.2 ≤ y.2 := by
  by_cases hall : ∀ y ∈ hits, Merged first second y
  · exact ⟨hits, hnd, hlen, fun y hy => ⟨hall y hy, y, hy, le_rfl⟩⟩
  · push Not at hall
    obtain ⟨y, hy, hnot⟩ := hall
    rcases mem_append.mp (hsure hy) with hpend | hkept
    · obtain ⟨hk, hbeats⟩ := h.second.best y hpend fun hmem => hnot (.inr hmem)
      exact ⟨second, .of_map _ h.second.nodup, hk.ge, fun r hr => ⟨.inr hr, y, hy, hbeats r hr⟩⟩
    · obtain ⟨hkept, hcrowded⟩ := mem_filter.mp hkept
      have hfst : y ∉ first := fun hmem => hnot ((h.merged_unreplaced hkept).mpr hmem)
      exact absurd (h.first.crowded h.main (mem_unreplaced.mp hkept).1 hfst)
        (of_decide_eq_true hcrowded)

lemma nodup_sure : (sure k main pending).Nodup := by
  refine (Nodup.of_map _ h.pending).append ((Nodup.of_map _ h.main).filter _ |>.filter _) ?_
  intro y hy hkept
  exact (mem_unreplaced.mp (mem_of_mem_filter hkept)).2 (mem_map_of_mem hy)

section
variable (hl : TopK k (Merged first second) l)
include hl

lemma current_of_mem (hu : Undisplaced k main pending) (hx : x ∈ l) : Current main pending x := by
  rcases hl.mem x hx with ⟨hfst, hkey⟩ | hsnd
  · by_cases hreplaced : x.1 ∈ pending.map Prod.fst
    · obtain ⟨p, hp, hkeys⟩ := List.mem_map.mp hreplaced
      have hpnot : p ∉ second := fun hmem => hkey (hkeys ▸ mem_map_of_mem hmem)
      obtain ⟨hk, hbeats⟩ := h.second.best p hp hpnot
      rcases lt_trichotomy p.2 x.2 with hlt | heq | hlt
      · -- the replaced score is higher: it would be cut in one tier or the other
        exfalso
        rcases hu.outlived x (h.first.mem x hfst) p hp hkeys hlt
          (h.second.crowded h.pending hp hpnot) with hout | hout
        · refine h.first.notMem_of_outdone (fun y hy => mem_of_mem_filter hy)
            (.filter _ (.of_map _ h.main)) hout (fun y hy => ?_) hfst
          exact of_decide_eq_true (mem_filter.mp hy).2
        · obtain ⟨found, hnd, hlen, hfound⟩ := h.exists_merged (filter_subset_self _)
            (h.nodup_sure.filter _) hout
          refine hl.notMem_of_outdone (fun y hy => (hfound y hy).1) hnd hlen (fun y hy => ?_) hx
          obtain ⟨z, hz, hle⟩ := (hfound y hy).2
          exact (of_decide_eq_true (mem_filter.mp hz).2).trans_le hle
      · exact .inr (Prod.ext hkeys heq ▸ hp)
      · refine absurd hx (hl.notMem_of_outdone (fun y hy => .inr hy) (.of_map _ h.second.nodup)
          hk.ge fun y hy => hlt.trans_le (hbeats y hy))
    · exact .inl (mem_unreplaced.mpr ⟨h.first.mem x hfst, hreplaced⟩)
  · exact .inr (h.second.mem x hsnd)

/-- Each hit of the first tier stands for a merged one that scores as high. -/
lemma beaten_of_stand (hmain : x ∈ main) (hfst : x ∉ first)
    (hnone : ¬ ∃ m ∈ main, ∃ p ∈ pending, p.1 = m.1 ∧ p.2 < x.2 ∧ x.2 ≤ m.2) :
    l.length = k ∧ ∀ r ∈ l, x.2 ≤ r.2 := by
  obtain ⟨hk, hbeats⟩ := h.first.best x hmain hfst
  have hstand : ∀ y ∈ first, ∃ r, Merged first second r ∧ r.1 = y.1 ∧ x.2 ≤ r.2 := by
    intro y hy
    by_cases hreplaced : y.1 ∈ second.map Prod.fst
    · obtain ⟨r, hr, hkeys⟩ := List.mem_map.mp hreplaced
      refine ⟨r, .inr hr, hkeys, not_lt.mp fun hlt => hnone ?_⟩
      exact ⟨y, h.first.mem y hy, r, h.second.mem r hr, hkeys, hlt, hbeats y hy⟩
    · exact ⟨y, .inl ⟨hy, hreplaced⟩, rfl, hbeats y hy⟩
  choose! stand hstand using hstand
  have hkeys : (first.map stand).map Prod.fst = first.map Prod.fst := by
    rw [List.map_map]
    exact map_congr_left fun y hy => (hstand y hy).2.1
  have hstd : ∀ r ∈ first.map stand, Merged first second r ∧ x.2 ≤ r.2 := by
    rintro _ hr
    obtain ⟨y, hy, rfl⟩ := List.mem_map.mp hr
    exact ⟨(hstand y hy).1, (hstand y hy).2.2⟩
  refine hl.beaten (fun r hr => (hstd r hr).1) (.of_map _ (hkeys ▸ h.first.nodup)) ?_
    fun r hr => (hstd r hr).2
  rw [length_map, hk]

/-- The merge lists the current scores of the best `k` where no replaced score is in the way. -/
lemma topK_of_undisplaced (hu : Undisplaced k main pending) : TopK k (Current main pending) l := by
  refine ⟨fun x hx => h.current_of_mem hl hu hx, hl.nodup, hl.sorted, hl.length_le, ?_⟩
  intro x hx hnot
  by_cases hmrg : Merged first second x
  · exact hl.best x hmrg hnot
  rcases hx with hkept | hpend
  · have hmain := (mem_unreplaced.mp hkept).1
    have hfst : x ∉ first := fun hmem => hmrg ((h.merged_unreplaced hkept).mpr hmem)
    by_cases hdisplaced : ∃ m ∈ main, ∃ p ∈ pending, p.1 = m.1 ∧ p.2 < x.2 ∧ x.2 ≤ m.2
    · obtain ⟨found, hnd, hlen, hfound⟩ := h.exists_merged (filter_subset_self _)
        (h.nodup_sure.filter _) (hu.found x hkept (h.first.crowded h.main hmain hfst) hdisplaced)
      refine hl.beaten (fun y hy => (hfound y hy).1) hnd hlen fun y hy => ?_
      obtain ⟨z, hz, hle⟩ := (hfound y hy).2
      exact (of_decide_eq_true (mem_filter.mp hz).2).trans hle
    · exact h.beaten_of_stand hl hmain hfst hdisplaced
  · obtain ⟨hk, hbeats⟩ := h.second.best x hpend fun hmem => hmrg (.inr hmem)
    exact hl.beaten (fun y hy => .inr hy) (.of_map _ h.second.nodup) hk.ge hbeats
end

/-- Where no two keys tie, the merge lists the current scores of the best `k` only if no replaced
score is in the way. -/
lemma undisplaced_of_topK (hl : TopK k (Merged first second) l)
    (huntied : ∀ y ∈ main ++ pending, ∀ z ∈ main ++ pending, y.1 ≠ z.1 → y.2 ≠ z.2)
    (hcur : TopK k (Current main pending) l) : Undisplaced k main pending := by
  have hmain : ∀ x ∈ main, ∀ y ∈ main, y.1 ≠ x.1 → y.2 ≠ x.2 := fun x hx y hy =>
    huntied y (mem_append_left _ hy) x (mem_append_left _ hx)
  have hsure : l ⊆ sure k main pending := by
    intro r hr
    rcases hcur.mem r hr with hkept | hpend
    · refine mem_append_right _ (mem_filter.mpr ⟨hkept, decide_eq_true fun hcrowded => ?_⟩)
      exact h.first.notMem_of_crowded h.main (hmain r (mem_unreplaced.mp hkept).1) hcrowded
        ((h.merged_unreplaced hkept).mp (hl.mem r hr))
    · exact mem_append_left _ hpend
  have hnd : l.Nodup := .of_map _ hl.nodup
  constructor
  · intro x hkept hcrowded _
    have hfst := h.first.notMem_of_crowded h.main (hmain x (mem_unreplaced.mp hkept).1) hcrowded
    obtain ⟨hk, hbeats⟩ := hcur.best x (.inl hkept) fun hx =>
      hfst ((h.merged_unreplaced hkept).mp (hl.mem x hx))
    refine hk.ge.trans (subperm_of_subset hnd fun r hr => ?_).length_le
    exact mem_filter.mpr ⟨hsure hr, decide_eq_true (hbeats r hr)⟩
  · intro m hm p hp hkey hlt hcrowded
    have hpnot : p ∉ second := h.second.notMem_of_crowded h.pending
      (fun y hy => huntied y (mem_append_right _ hy) p (mem_append_right _ hp)) hcrowded
    have hsole : ∀ r ∈ pending, r.1 = m.1 → r = p := fun r hr hkeys =>
      inj_on_of_nodup_map h.pending hr hp (hkeys.trans hkey.symm)
    by_cases hfst : m ∈ first
    · right
      have hmrg : Merged first second m := by
        refine .inl ⟨hfst, fun hmem => ?_⟩
        obtain ⟨r, hr, hkeys⟩ := List.mem_map.mp hmem
        exact hpnot (hsole r (h.second.mem r hr) hkeys ▸ hr)
      have hoth : ∀ r ∈ l, r.1 ≠ m.1 := by
        intro r hr hkeys
        have hr' : r = p := by
          rcases hcur.mem r hr with hkept | hpend
          · exact absurd (hkeys ▸ hkey ▸ mem_map_of_mem hp) (mem_unreplaced.mp hkept).2
          · exact hsole r hpend hkeys
        subst hr'
        rcases hl.mem r hr with ⟨hr, -⟩ | hr
        · exact hlt.ne (congrArg Prod.snd (inj_on_of_nodup_map h.main (h.first.mem r hr) hm hkeys))
        · exact hpnot hr
      obtain ⟨hk, hbeats⟩ := hl.best m hmrg fun hmem => hoth m hmem rfl
      refine hk.ge.trans (subperm_of_subset hnd fun r hr => ?_).length_le
      refine mem_filter.mpr ⟨hsure hr, decide_eq_true (lt_of_le_of_ne (hbeats r hr) ?_)⟩
      have hr' : r ∈ main ++ pending := by
        rcases hcur.mem r hr with hkept | hpend
        · exact mem_append_left _ (mem_unreplaced.mp hkept).1
        · exact mem_append_right _ hpend
      exact (huntied r hr' m (mem_append_left _ hm) (hoth r hr)).symm
    · left
      obtain ⟨hk, hbeats⟩ := h.first.best m hm hfst
      refine hk.ge.trans (subperm_of_subset (.of_map _ h.first.nodup) fun r hr => ?_).length_le
      refine mem_filter.mpr ⟨h.first.mem r hr, decide_eq_true (lt_of_le_of_ne (hbeats r hr) ?_)⟩
      refine (hmain m hm r (h.first.mem r hr) fun hkeys => hfst ?_).symm
      exact inj_on_of_nodup_map h.main (h.first.mem r hr) hm hkeys ▸ hr

end Tiers
end
