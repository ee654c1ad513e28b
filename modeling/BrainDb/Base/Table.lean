import Mathlib.Data.List.Pairwise
import Mathlib.Data.Fintype.EquivFin

structure Table (K V : Type) [LinearOrder K] where
  entries : List (K × V)
  sorted : entries.Pairwise fun a b => a.1 < b.1
deriving DecidableEq

namespace Table
open List Option
variable {K V : Type} [LinearOrder K]

def insertSorted (k : K) (v : V) : List (K × V) → List (K × V)
  | [] => [(k, v)]
  | e :: l => if k < e.1 then (k, v) :: e :: l else if k = e.1 then (k, v) :: l
    else e :: insertSorted k v l

variable {k : K} {v : V} {t : Table K V}

lemma mem_insertSorted {l : List (K × V)} {e : K × V} (h : l.Pairwise fun a b => a.1 < b.1) :
    e ∈ insertSorted k v l ↔ e = (k, v) ∨ (e ∈ l ∧ e.1 ≠ k) := by
  induction l with
  | nil => simp [insertSorted]
  | cons a l ih =>
    obtain ⟨ha, hl⟩ := pairwise_cons.mp h
    unfold insertSorted
    split
    next hlt =>
      have hne : ∀ b ∈ a :: l, b.1 ≠ k := by
        intro b hb
        rcases mem_cons.mp hb with rfl | hb
        · exact hlt.ne'
        · exact (hlt.trans (ha b hb)).ne'
      rw [mem_cons]
      exact or_congr_right ⟨fun he => ⟨he, hne e he⟩, fun he => he.1⟩
    next hge =>
      split
      next heq =>
        rw [mem_cons, mem_cons]
        refine or_congr_right ⟨fun he => ⟨.inr he, ?_⟩, fun he => ?_⟩
        · rw [heq]
          exact (ha e he).ne'
        · rcases he with ⟨rfl | he, hne⟩
          · exact absurd heq.symm hne
          · exact he
      next hne =>
        rw [mem_cons, ih hl, mem_cons]
        constructor
        · rintro (rfl | rfl | ⟨he, hk⟩)
          · exact .inr ⟨.inl rfl, fun hk => hne hk.symm⟩
          · exact .inl rfl
          · exact .inr ⟨.inr he, hk⟩
        · rintro (rfl | ⟨rfl | he, hk⟩)
          · exact .inr (.inl rfl)
          · exact .inl rfl
          · exact .inr (.inr ⟨he, hk⟩)

lemma insertSorted_sorted (k : K) (v : V) {l : List (K × V)} (h : l.Pairwise fun a b => a.1 < b.1) :
    (insertSorted k v l).Pairwise fun a b => a.1 < b.1 := by
  induction l with
  | nil => simp [insertSorted]
  | cons a l ih =>
    obtain ⟨ha, hl⟩ := pairwise_cons.mp h
    unfold insertSorted
    split
    next hlt =>
      refine pairwise_cons.mpr ⟨fun b hb => ?_, h⟩
      rcases mem_cons.mp hb with rfl | hb
      · exact hlt
      · exact hlt.trans (ha b hb)
    next hge =>
      split
      next heq => exact pairwise_cons.mpr ⟨fun b hb => heq ▸ ha b hb, hl⟩
      next hne =>
        refine pairwise_cons.mpr ⟨fun b hb => ?_, ih hl⟩
        rcases (mem_insertSorted hl).mp hb with rfl | ⟨hb, -⟩
        · exact lt_of_le_of_ne (not_lt.mp hge) (Ne.symm hne)
        · exact ha b hb

def empty : Table K V := ⟨[], List.Pairwise.nil⟩

def get (t : Table K V) (k : K) : Option V := (t.entries.find? fun e => e.1 = k).map Prod.snd

def insert (t : Table K V) (k : K) (v : V) : Table K V :=
  ⟨insertSorted k v t.entries, insertSorted_sorted k v t.sorted⟩

def remove (t : Table K V) (k : K) : Table K V :=
  ⟨t.entries.filter fun e => e.1 ≠ k, t.sorted.filter _⟩

def scan (t : Table K V) (p : K → Bool) : List (K × V) := t.entries.filter fun e => p e.1

def mapValues (f : V → V) (t : Table K V) : Table K V :=
  ⟨t.entries.map fun e => (e.1, f e.2), pairwise_map.mpr t.sorted⟩

lemma mem_entries_iff (t : Table K V) : (k, v) ∈ t.entries ↔ t.get k = some v := by
  obtain ⟨l, h⟩ := t
  unfold get
  induction l with
  | nil => simp
  | cons a l ih =>
    obtain ⟨ha, hl⟩ := pairwise_cons.mp h
    by_cases hk : a.1 = k
    · rw [List.find?_cons_of_pos (by simpa using hk)]
      constructor
      · intro hm
        rcases mem_cons.mp hm with rfl | hm
        · rfl
        · exact absurd hk (ha _ hm).ne
      · intro hv
        have hav : a = (k, v) := Prod.ext hk (Option.some.inj hv)
        exact hav ▸ mem_cons_self
    · rw [List.find?_cons_of_neg (by simpa using hk), ← ih hl, mem_cons]
      constructor
      · rintro (rfl | hm)
        · exact absurd rfl hk
        · exact hm
      · exact .inr

@[ext] lemma ext {s t : Table K V} (h : ∀ k, s.get k = t.get k) : s = t := by
  have hnd : ∀ u : Table K V, u.entries.Nodup := fun u =>
    u.sorted.imp fun hlt heq => hlt.ne (congrArg Prod.fst heq)
  have hperm : s.entries.Perm t.entries := by
    refine (perm_ext_iff_of_nodup (hnd s) (hnd t)).mpr fun e => ?_
    rw [show e = (e.1, e.2) from rfl, mem_entries_iff, mem_entries_iff, h]
  have hentries : s.entries = t.entries :=
    hperm.eq_of_pairwise (fun a b _ _ hab hba => absurd hba hab.asymm) s.sorted t.sorted
  obtain ⟨l, hl⟩ := s
  obtain ⟨m, hm⟩ := t
  subst hentries
  rfl

@[simp] lemma get_empty (k : K) : (empty : Table K V).get k = none := rfl

lemma get_insert (t : Table K V) (k k' : K) (v : V) :
    (t.insert k v).get k' = if k' = k then some v else t.get k' := by
  refine Option.ext fun w => ?_
  rw [← mem_entries_iff, insert, mem_insertSorted t.sorted]
  split
  next h => simp [h, eq_comm]
  next h => simp [h, mem_entries_iff]

@[simp] lemma get_insert_self (t : Table K V) (k : K) (v : V) :
    (t.insert k v).get k = some v := by
  rw [get_insert, if_pos rfl]

lemma get_insert_ne (t : Table K V) {k' : K} (v : V) (h : k' ≠ k) :
    (t.insert k v).get k' = t.get k' := by
  rw [get_insert, if_neg h]

lemma get_mapValues (t : Table K V) (f : V → V) (k : K) :
    (t.mapValues f).get k = (t.get k).map f := by
  refine Option.ext fun w => ?_
  rw [← mem_entries_iff, map_eq_some_iff]
  constructor
  · intro h
    obtain ⟨⟨k', v⟩, hmem, heq⟩ := mem_map.mp h
    obtain ⟨rfl, rfl⟩ := Prod.mk.inj heq
    exact ⟨v, t.mem_entries_iff.mp hmem, rfl⟩
  · rintro ⟨v, hv, rfl⟩
    exact mem_map.mpr ⟨(k, v), t.mem_entries_iff.mpr hv, rfl⟩

lemma mapValues_insert (t : Table K V) (f : V → V) (k : K) (v : V) :
    (t.insert k v).mapValues f = (t.mapValues f).insert k (f v) := by
  ext1 k'
  rw [get_mapValues, get_insert, get_insert, get_mapValues, apply_ite (Option.map f)]
  rfl

lemma get_remove (t : Table K V) (k k' : K) :
    (t.remove k).get k' = if k' = k then none else t.get k' := by
  refine Option.ext fun w => ?_
  rw [← mem_entries_iff, remove, mem_filter]
  split
  next h => simp [h]
  next h => simp [h, mem_entries_iff]

@[simp] lemma get_remove_self (t : Table K V) (k : K) : (t.remove k).get k = none := by
  rw [get_remove, if_pos rfl]

lemma get_remove_ne (t : Table K V) {k' : K} (h : k' ≠ k) : (t.remove k).get k' = t.get k' := by
  rw [get_remove, if_neg h]

lemma mem_scan (t : Table K V) {p : K → Bool} :
    (k, v) ∈ t.scan p ↔ t.get k = some v ∧ p k = true := by
  rw [scan, mem_filter, mem_entries_iff]

lemma le_of_getLast? (t : Table K V) {e l : K × V} (he : e ∈ t.entries)
    (hl : t.entries.getLast? = some l) : e.1 ≤ l.1 := by
  obtain ⟨init, hinit⟩ := List.getLast?_eq_some_iff.mp hl
  have hsort := t.sorted
  rw [hinit] at he hsort
  rcases mem_append.mp he with he | he
  · exact ((pairwise_append.mp hsort).2.2 e he l mem_cons_self).le
  · rw [mem_singleton.mp he]

lemma insert_of_get (h : t.get k = some v) : t.insert k v = t := by
  ext1 k'
  rw [get_insert]
  split
  next hk => rw [hk, h]
  · rfl

lemma insert_comm (t : Table K V) {k' : K} (h : k ≠ k') (v v' : V) :
    (t.insert k v).insert k' v' = (t.insert k' v').insert k v := by
  ext1 l
  simp only [get_insert]
  split
  next hl => rw [if_neg fun hk => h (hk.symm.trans hl)]
  · rfl

lemma remove_of_get_none (h : t.get k = none) : t.remove k = t := by
  ext1 k'
  rw [get_remove]
  split
  next hk => rw [hk, h]
  · rfl

lemma get_eq_none_of_notMem (h : k ∉ t.entries.map Prod.fst) : t.get k = none := by
  refine eq_none_iff_forall_ne_some.mpr fun v hv => h ?_
  exact List.mem_map_of_mem (f := Prod.fst) (t.mem_entries_iff.mpr hv)

lemma exists_get_none {W : Type} [Infinite K] (t : Table K V) (u : Table K W) :
    ∃ k, t.get k = none ∧ u.get k = none := by
  obtain ⟨k, hk⟩ := Infinite.exists_notMem_finset
    (t.entries.map Prod.fst ++ u.entries.map Prod.fst).toFinset
  rw [List.mem_toFinset, mem_append, not_or] at hk
  exact ⟨k, get_eq_none_of_notMem hk.1, get_eq_none_of_notMem hk.2⟩

lemma get_foldl_insert {A : Type} (key : A → K) (v : V) (l : List A) (t : Table K V) (k : K) :
    (l.foldl (fun t a => t.insert (key a) v) t).get k =
      if k ∈ l.map key then some v else t.get k := by
  induction l generalizing t with
  | nil => simp
  | cons a l ih =>
    rw [foldl_cons, ih, get_insert, map_cons]
    by_cases hk : k ∈ l.map key
    · rw [if_pos hk, if_pos (mem_cons_of_mem _ hk)]
    · rw [if_neg hk]
      by_cases ha : k = key a
      · rw [if_pos ha, if_pos (mem_cons.mpr (.inl ha))]
      · rw [if_neg ha, if_neg fun hmem => (mem_cons.mp hmem).elim ha hk]

lemma get_foldl_remove {A : Type} (key : A → K) (l : List A) (t : Table K V) (k : K) :
    (l.foldl (fun t a => t.remove (key a)) t).get k = if k ∈ l.map key then none else t.get k := by
  induction l generalizing t with
  | nil => simp
  | cons a l ih =>
    rw [foldl_cons, ih, get_remove]
    by_cases hk : k = key a <;> by_cases hl : k ∈ l.map key <;> simp_all

lemma mem_keys : k ∈ t.entries.map Prod.fst ↔ (t.get k).isSome := by
  simp [isSome_iff_exists, ← mem_entries_iff]

lemma length_le_of_keys {l : List K} (h : ∀ k, (t.get k).isSome → k ∈ l) :
    t.entries.length ≤ l.length := by
  have hkeys : (t.entries.map Prod.fst).Nodup := pairwise_map.mpr (t.sorted.imp fun h => h.ne)
  simpa using (hkeys.subperm fun k hk => h k (mem_keys.mp hk)).length_le

lemma le_length_of_keys {l : List K} (hl : l.Nodup) (h : ∀ k ∈ l, (t.get k).isSome) :
    l.length ≤ t.entries.length := by
  simpa using (hl.subperm fun k hk => mem_keys.mpr (h k hk)).length_le

lemma length_insert_le (t : Table K V) (k : K) (v : V) :
    (t.insert k v).entries.length ≤ t.entries.length + if (t.get k).isSome then 0 else 1 := by
  split
  next hsome =>
    refine (length_le_of_keys fun k' hk' => ?_).trans_eq (length_map Prod.fst)
    grind [mem_keys, get_insert]
  · refine (length_le_of_keys (l := k :: t.entries.map Prod.fst) fun k' hk' => ?_).trans_eq (by simp)
    grind [mem_keys, get_insert]

section
variable {W : Type}

def maxKey (t : Table Nat W) : Nat := (t.entries.map Prod.fst).foldl max 0

lemma maxKey_mapValues (t : Table Nat W) (f : W → W) : (t.mapValues f).maxKey = t.maxKey := by
  rw [maxKey, maxKey, mapValues, List.map_map]
  rfl

lemma foldl_max_init (l : List Nat) (m : Nat) : m ≤ l.foldl max m := by
  induction l generalizing m with
  | nil => exact Nat.le_refl m
  | cons a l ih => exact Nat.le_trans (Nat.le_max_left m a) (ih (max m a))

lemma le_foldl_max {l : List Nat} {a : Nat} (h : a ∈ l) (m : Nat) : a ≤ l.foldl max m := by
  induction l generalizing m with
  | nil => cases h
  | cons b l ih =>
    rcases mem_cons.mp h with h | h
    · subst h
      exact Nat.le_trans (Nat.le_max_right m a) (foldl_max_init l _)
    · exact ih h _

lemma le_maxKey {t : Table Nat W} {k : Nat} {w : W} (h : t.get k = some w) : k ≤ t.maxKey :=
  le_foldl_max (mem_keys.mpr (isSome_of_eq_some h)) 0

lemma get_of_maxKey_lt {t : Table Nat W} {k : Nat} (h : t.maxKey < k) : t.get k = none := by
  refine eq_none_iff_forall_ne_some.mpr fun w hw => ?_
  have hle := le_maxKey hw
  omega
end
end Table
