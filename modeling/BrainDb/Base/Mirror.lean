import BrainDb.Base.Table

namespace Mirror
open Table Option
variable {I M K V : Type} [LinearOrder I] [LinearOrder K] {has : M → K → Prop}
  {key : M → Option K} {val : I → V} {rows : Table I M} {index : Table K V} {i : I} {m w : M}
  {k : K}

def Reflects (has : M → K → Prop) (val : I → V) (rows : Table I M) (index : Table K V) : Prop :=
  ∀ k v, index.get k = some v ↔ ∃ i m, rows.get i = some m ∧ has m k ∧ val i = v

abbrev Mirrors (key : M → Option K) (val : I → V) (rows : Table I M) (index : Table K V) : Prop :=
  Reflects (fun m k => key m = some k) val rows index

def Own (has : M → K → Prop) (rows : Table I M) (i : I) (k : K) : Prop :=
  ∀ j m, rows.get j = some m → has m k → j = i

lemma reflects_empty : Reflects has val (Table.empty : Table I M) Table.empty := by
  intro k v
  simp

variable {index' : Table K V}

lemma Reflects.unique (h : Reflects has val rows index) (h' : Reflects has val rows index') :
    index = index' := by
  ext1 k
  exact ext fun v => (h k v).trans (h' k v).symm

lemma Reflects.get (h : Reflects has val rows index) (hi : rows.get i = some m)
    (hk : has m k) : index.get k = some (val i) :=
  (h k (val i)).mpr ⟨i, m, hi, hk, rfl⟩

omit [LinearOrder K] in
lemma own_of_owner (owner : K → I)
    (howner : ∀ j n k, rows.get j = some n → has n k → owner k = j) (hk : owner k = i) :
    Own has rows i k :=
  fun j n hj hn => (howner j n k hj hn).symm.trans hk

lemma Reflects.own_of_free (h : Reflects has val rows index) (hk : index.get k = none) :
    Own has rows i k := by
  intro j n hj hn
  rw [h.get hj hn] at hk
  cases hk

lemma Reflects.own {index : Table K I} (h : Reflects has id rows index)
    (hi : rows.get i = some m) (hk : has m k) : Own has rows i k := by
  intro j n hj hn
  exact some.inj ((h.get hj hn).symm.trans (h.get hi hk))

lemma Reflects.write (h : Reflects has val rows index)
    (hold : ∀ m k, rows.get i = some m → has m k → Own has rows i k)
    (hnew : ∀ k, has w k → Own has rows i k) (hhas : ∀ k, has w k → index'.get k = some (val i))
    (hhad : ∀ m k, rows.get i = some m → has m k → ¬ has w k → index'.get k = none)
    (hnever : ∀ k, ¬ has w k → (∀ m, rows.get i = some m → ¬ has m k) →
      index'.get k = index.get k) : Reflects has val (rows.insert i w) index' := by
  intro k v
  by_cases hk : has w k
  · rw [hhas k hk]
    constructor
    · intro hv
      exact ⟨i, w, rows.get_insert_self i w, hk, some.inj hv⟩
    · rintro ⟨j, n, hj, hn, rfl⟩
      rw [rows.get_insert] at hj
      split at hj
      next heq => rw [heq]
      · rw [hnew k hk j n hj hn]
  · by_cases hwas : ∃ m, rows.get i = some m ∧ has m k
    · obtain ⟨m, hm, hmk⟩ := hwas
      rw [hhad m k hm hmk hk]
      refine iff_of_false (by simp) ?_
      rintro ⟨j, n, hj, hn, -⟩
      rw [rows.get_insert] at hj
      split at hj
      · exact hk (some.inj hj ▸ hn)
      next hne => exact hne (hold m k hm hmk j n hj hn)
    · rw [hnever k hk fun m hm hmk => hwas ⟨m, hm, hmk⟩]
      refine (h k v).trans (exists₂_congr fun j n => ?_)
      by_cases hj : j = i
      · subst hj
        refine iff_of_false (fun ⟨hjn, hn, _⟩ => hwas ⟨n, hjn, hn⟩) (fun ⟨hjn, hn, _⟩ => hk ?_)
        rw [rows.get_insert_self] at hjn
        exact some.inj hjn ▸ hn
      · rw [rows.get_insert_ne w hj]

lemma Reflects.keep (h : Reflects has val rows index) (hi : rows.get i = some m)
    (hsame : ∀ k, has w k ↔ has m k) : Reflects has val (rows.insert i w) index := by
  intro k v
  refine (h k v).trans (exists_congr fun j => ?_)
  by_cases hj : j = i
  · subst hj
    simp [hi, hsame]
  · simp [rows.get_insert_ne w hj]

lemma Reflects.same (h : Mirrors key val rows index) (hi : rows.get i = some m)
    (hkey : key w = key m) : Mirrors key val (rows.insert i w) index :=
  h.keep hi fun k => by rw [hkey]

lemma Reflects.rewrite {index index' : Table K Unit} (h : Reflects has (fun _ => ()) rows index)
    (owner : K → I) (howner : ∀ j n k, rows.get j = some n → has n k → owner k = j)
    (hnew : ∀ k, has w k → owner k = i) (removed added : List K) (hidx : ∀ k, index'.get k =
      if k ∈ added then some () else if k ∈ removed then none else index.get k)
    (hothers : ∀ k ∈ removed, owner k = i)
    (hhas : ∀ k, has w k ↔ k ∈ added ∨ (∃ m, rows.get i = some m ∧ has m k) ∧ k ∉ removed) :
    Reflects has (fun _ => ()) (rows.insert i w) index' := by
  have hwas : ∀ k, owner k = i → (index.get k = some () ↔ ∃ m, rows.get i = some m ∧ has m k) := by
    intro k hk
    refine (h k ()).trans ⟨?_, fun ⟨m, hm, hmk⟩ => ⟨i, m, hm, hmk, rfl⟩⟩
    rintro ⟨j, n, hj, hn, -⟩
    have hji : j = i := (howner j n k hj hn).symm.trans hk
    exact ⟨n, hji ▸ hj, hn⟩
  refine h.write ?_ ?_ ?_ ?_ ?_
  · intro m k hm hmk
    exact own_of_owner owner howner (howner i m k hm hmk)
  · intro k hk
    exact own_of_owner owner howner (hnew k hk)
  · intro k hk
    rw [hidx]
    rcases (hhas k).mp hk with hadded | ⟨hhad, hremoved⟩
    · rw [if_pos hadded]
    · rw [if_neg hremoved, (hwas k (hnew k hk)).mpr hhad, ite_self]
  · intro m k hm hmk hk
    rw [hidx]
    split
    next hadded => exact absurd ((hhas k).mpr (.inl hadded)) hk
    · split
      · rfl
      next hremoved => exact absurd ((hhas k).mpr (.inr ⟨⟨m, hm, hmk⟩, hremoved⟩)) hk
  · intro k hk hnever
    rw [hidx]
    split
    next hadded => exact absurd ((hhas k).mpr (.inl hadded)) hk
    · split
      next hremoved =>
        refine (eq_none_iff_forall_ne_some.mpr fun _ hget => ?_).symm
        obtain ⟨m, hm, hmk⟩ := (hwas k (hothers k hremoved)).mp hget
        exact hnever m hm hmk
      · rfl

lemma Reflects.place (h : Mirrors key val rows index) (hi : rows.get i = none)
    (hnew : ∀ k, key w = some k → Own (fun m k => key m = some k) rows i k) :
    Mirrors key val (rows.insert i w) ((key w).elim index fun k => index.insert k (val i)) := by
  have hnone : ∀ m, rows.get i ≠ some m := fun m hm => by rw [hi] at hm; cases hm
  refine h.write (fun m k hm => absurd hm (hnone m)) hnew ?_ (fun m k hm => absurd hm (hnone m)) ?_
  · intro k hk
    rw [hk]
    exact index.get_insert_self k (val i)
  · intro k hk _
    cases hkey : key w with
    | none => rfl
    | some k' => exact index.get_insert_ne _ fun heq => hk (heq ▸ hkey)

lemma Reflects.move {k' : K} (h : Mirrors key val rows index) (hi : rows.get i = some m)
    (hk : key m = some k) (hk' : key w = some k') (hold : Own (fun m k => key m = some k) rows i k)
    (hnew : Own (fun m k => key m = some k) rows i k') :
    Mirrors key val (rows.insert i w) ((index.remove k).insert k' (val i)) := by
  refine h.write ?_ (fun l hl => some.inj (hk'.symm.trans hl) ▸ hnew) ?_ ?_ ?_
  · intro n l hn hl
    obtain rfl := some.inj (hi.symm.trans hn)
    exact some.inj (hk.symm.trans hl) ▸ hold
  · intro l hl
    rw [← some.inj (hk'.symm.trans hl), get_insert_self]
  · intro n l hn hl hl'
    obtain rfl := some.inj (hi.symm.trans hn)
    obtain rfl := some.inj (hk.symm.trans hl)
    have hne : k ≠ k' := fun heq => hl' (heq ▸ hk')
    rw [get_insert_ne _ _ hne, get_remove_self]
  · intro l hl' hl
    have hne' : l ≠ k' := fun heq => hl' (heq ▸ hk')
    have hne : l ≠ k := fun heq => hl m hi (heq ▸ hk)
    rw [get_insert_ne _ _ hne', get_remove_ne _ hne]

lemma Reflects.drop (h : Mirrors key val rows index) (hi : rows.get i = some m)
    (hk : key m = some k) (hk' : key w = none) (hold : Own (fun m k => key m = some k) rows i k) :
    Mirrors key val (rows.insert i w) (index.remove k) := by
  have hnone : ∀ l, key w ≠ some l := fun l hl => by rw [hk'] at hl; cases hl
  refine h.write ?_ (fun l hl => absurd hl (hnone l)) (fun l hl => absurd hl (hnone l)) ?_ ?_
  · intro n l hn hl
    obtain rfl := some.inj (hi.symm.trans hn)
    exact some.inj (hk.symm.trans hl) ▸ hold
  · intro n l hn hl _
    obtain rfl := some.inj (hi.symm.trans hn)
    rw [← some.inj (hk.symm.trans hl), get_remove_self]
  · intro l _ hl
    have hne : l ≠ k := fun heq => hl m hi (heq ▸ hk)
    exact get_remove_ne _ hne

lemma Reflects.gain (h : Mirrors key val rows index) (hi : rows.get i = some m)
    (hk : key m = none) (hk' : key w = some k) (hnew : Own (fun m k => key m = some k) rows i k) :
    Mirrors key val (rows.insert i w) (index.insert k (val i)) := by
  have hnone : ∀ n l, rows.get i = some n → key n ≠ some l := by
    intro n l hn hl
    obtain rfl := some.inj (hi.symm.trans hn)
    rw [hk] at hl
    cases hl
  refine h.write (fun n l hn hl => absurd hl (hnone n l hn)) ?_ ?_
    (fun n l hn hl => absurd hl (hnone n l hn)) ?_
  · exact fun l hl => some.inj (hk'.symm.trans hl) ▸ hnew
  · intro l hl
    rw [← some.inj (hk'.symm.trans hl), get_insert_self]
  · intro l hl _
    have hne : l ≠ k := fun heq => hl (heq ▸ hk')
    exact get_insert_ne _ _ hne

lemma Reflects.remove (h : Mirrors key val rows index) (hi : rows.get i = some m)
    (hold : ∀ k, key m = some k → Own (fun m k => key m = some k) rows i k) :
    Mirrors key val (rows.remove i) ((key m).elim index index.remove) := by
  have hget : ∀ k, ((key m).elim index index.remove).get k =
      if key m = some k then none else index.get k := by
    intro k
    cases key m with
    | none => simp
    | some k' => simp [get_remove, eq_comm]
  intro k v
  rw [hget]
  split
  next hk =>
    refine iff_of_false (by simp) ?_
    rintro ⟨j, n, hj, hn, -⟩
    rw [rows.get_remove] at hj
    split at hj
    · cases hj
    next hne => exact hne (hold k hk j n hj hn)
  next hk =>
    refine (h k v).trans (exists₂_congr fun j n => ?_)
    by_cases hj : j = i
    · subst hj
      refine iff_of_false (fun ⟨hjn, hn, _⟩ => hk ?_) (fun ⟨hjn, _, _⟩ => ?_)
      · exact some.inj (hi.symm.trans hjn) ▸ hn
      · rw [rows.get_remove_self] at hjn
        cases hjn
    · rw [rows.get_remove_ne hj]

end Mirror
