import BrainDb.Store.Substrate

namespace BrainDb
open Table
namespace Edges
variable (t : Edges)

def pairAt (k : EdgeKey) : Option EdgeData × Option EdgeData :=
  (t.forward.get k, t.reverse.get k.flip)

lemma ext_pairAt {t t' : Edges} (h : ∀ k, t.pairAt k = t'.pairAt k) : t = t' := by
  obtain ⟨forward, reverse⟩ := t
  congr 1
  · ext1 k
    exact congrArg Prod.fst (h k)
  · ext1 k
    exact congrArg Prod.snd (h k.flip)

lemma pairAt_insertPair (k k' : EdgeKey) (data : EdgeData) :
    (t.insertPair k data).pairAt k' = if k' = k then (some data, some data) else t.pairAt k' := by
  unfold pairAt insertPair
  by_cases hk : k' = k
  · rw [if_pos hk, hk, get_insert_self, get_insert_self]
  · have hflip : k'.flip ≠ k.flip := fun heq => hk (congrArg EdgeKey.flip heq)
    rw [if_neg hk, get_insert_ne _ _ hk, get_insert_ne _ _ hflip]

lemma pairAt_removePair (k k' : EdgeKey) :
    (t.removePair k).pairAt k' = if k' = k then (none, none) else t.pairAt k' := by
  unfold pairAt removePair
  by_cases hk : k' = k
  · rw [if_pos hk, hk, get_remove_self, get_remove_self]
  · have hflip : k'.flip ≠ k.flip := fun heq => hk (congrArg EdgeKey.flip heq)
    rw [if_neg hk, get_remove_ne _ hk, get_remove_ne _ hflip]

end Edges
end BrainDb
