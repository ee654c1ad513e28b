import BrainDb.Base.Table

namespace OwnedIndex
variable {K I : Type} [LinearOrder K] {owner : K → I} {t : Table K I} {i j : I} {o : Option K}
  {k k' : K}

def Lists (owner : K → I) (t : Table K I) (i : I) (o : Option K) : Prop :=
  ∀ k, owner k = i → t.get k = if o = some k then some i else none

lemma lists_empty (i : I) : Lists owner (Table.empty : Table K I) i none := by
  intro k _
  simp

lemma Lists.get (h : Lists owner t i (some k)) (hk : owner k = i) : t.get k = some i := by
  rw [h k hk, if_pos rfl]

lemma Lists.get_none (h : Lists owner t i none) (hk : owner k = i) : t.get k = none := by
  rw [h k hk, if_neg (by simp)]

lemma Lists.get_ne (h : Lists owner t i o) (hk : owner k = i) (hne : o ≠ some k) :
    t.get k = none := by
  rw [h k hk, if_neg hne]

lemma Lists.unique (h : Lists owner t i o) {o' : Option K} (h' : Lists owner t i o')
    (ho : ∀ k ∈ o, owner k = i) (ho' : ∀ k ∈ o', owner k = i) : o = o' := by
  refine Option.ext fun k => ?_
  constructor
  · intro hk
    by_contra hne
    have hget := h'.get_ne (ho k hk) hne
    rw [h k (ho k hk), if_pos hk] at hget
    cases hget
  · intro hk
    by_contra hne
    have hget := h.get_ne (ho' k hk) hne
    rw [h' k (ho' k hk), if_pos hk] at hget
    cases hget

lemma Lists.insert (h : Lists owner t i o) (ho : o = none ∨ o = some k) :
    Lists owner (t.insert k i) i (some k) := by
  intro k' hk'
  rw [t.get_insert]
  split
  next heq => rw [if_pos (congrArg some heq.symm)]
  next hne =>
    rw [if_neg fun heq => hne (Option.some.inj heq).symm]
    refine h.get_ne hk' ?_
    rcases ho with rfl | rfl
    · simp
    · exact fun heq => hne (Option.some.inj heq).symm

lemma Lists.remove (h : Lists owner t i o) (ho : o = none ∨ o = some k) :
    Lists owner (t.remove k) i none := by
  intro k' hk'
  rw [t.get_remove, if_neg (by simp : ¬ (none : Option K) = some k')]
  split
  · rfl
  next hne =>
    refine h.get_ne hk' ?_
    rcases ho with rfl | rfl
    · simp
    · exact fun heq => hne (Option.some.inj heq).symm

lemma Lists.move (h : Lists owner t i o) (ho : o = none ∨ o = some k) :
    Lists owner ((t.remove k).insert k' i) i (some k') :=
  (h.remove ho).insert (.inl rfl)

end OwnedIndex
