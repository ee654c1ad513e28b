import BrainDb.Base.Mirror
import BrainDb.Graph.EntityFrame

namespace BrainDb
open Mirror Option Entities

def Entity.isLive (e : Entity) : Bool := !e.tombstoned && e.mergedInto.isNone

structure PartIndex (P K : Type) where
  key : RowScope → EntityTypeId → P → EntityId → K
  owner : K → EntityId
  owner_key : ∀ scope ty p id, owner (key scope ty p id) = id
  key_inj : ∀ {scope ty p id scope' ty' p' id'}, key scope ty p id = key scope' ty' p' id' →
    (scope, ty) = (scope', ty') ∧ p = p'
  parts : Entity → List P

def aliasParts [TextFolding] : PartIndex String AliasKey where
  key := AliasKey.mk
  owner := AliasKey.entity
  owner_key := fun _ _ _ _ => rfl
  key_inj := fun h => by
    obtain ⟨rfl, rfl, rfl, rfl⟩ := AliasKey.mk.inj h
    exact ⟨rfl, rfl⟩
  parts := fun e => e.aliases.map normalizeName

def trigramParts [TextFolding] : PartIndex Trigram TrigramKey where
  key := TrigramKey.mk
  owner := TrigramKey.entity
  owner_key := fun _ _ _ _ => rfl
  key_inj := fun h => by
    obtain ⟨rfl, rfl, rfl, rfl⟩ := TrigramKey.mk.inj h
    exact ⟨rfl, rfl⟩
  parts := fun e => trigramsOfComponents e.canonicalName e.aliases

namespace PartIndex
variable {P K : Type} [LinearOrder K] (x : PartIndex P K) (t : Table K Unit)

def add (scope : RowScope) (ty : EntityTypeId) (id : EntityId) (l : List P) : Table K Unit :=
  l.foldl (fun t p => t.insert (x.key scope ty p id) ()) t

def drop (scope : RowScope) (ty : EntityTypeId) (id : EntityId) (l : List P) : Table K Unit :=
  l.foldl (fun t p => t.remove (x.key scope ty p id)) t

def Has (m : EntityMetadata) (k : K) : Prop :=
  m.isLive = true ∧ ∃ p ∈ x.parts m.toEntity, k = x.key m.scope m.entityType p m.id

def Exact (rows : Table EntityId EntityMetadata) (index : Table K Unit) : Prop :=
  Reflects x.Has (fun _ => ()) rows index

variable {x} {rows : Table EntityId EntityMetadata} {index : Table K Unit} {m w : EntityMetadata}
  {k : K} {i : EntityId}

omit [LinearOrder K] in
lemma Has.owner (h : x.Has m k) : x.owner k = m.id := by
  obtain ⟨_, p, _, rfl⟩ := h
  exact x.owner_key ..

omit [LinearOrder K] in
lemma not_has_of_dead (h : m.isLive = false) : ¬ x.Has m k :=
  fun hk => Bool.false_ne_true (h.symm.trans hk.1)

omit [LinearOrder K] in
lemma has_iff (h : m.isLive = true) :
    x.Has m k ↔ ∃ p ∈ x.parts m.toEntity, k = x.key m.scope m.entityType p m.id :=
  and_iff_right h

lemma Exact.rewrite (h : x.Exact rows index) (hids : KeyedRows rows) (hid : w.id = i)
    (scope : RowScope) (ty ty' : EntityTypeId) (removed added : List P)
    (hhas : ∀ k, x.Has w k ↔ (∃ p ∈ added, k = x.key scope ty' p i) ∨
      (∃ m, rows.get i = some m ∧ x.Has m k) ∧ ¬ ∃ p ∈ removed, k = x.key scope ty p i) :
    x.Exact (rows.insert i w) (x.add (x.drop index scope ty i removed) scope ty' i added) := by
  refine Reflects.rewrite h x.owner ?_ ?_ (removed.map (x.key scope ty · i))
    (added.map (x.key scope ty' · i)) ?_ ?_ ?_
  · exact fun j n k hj hk => hk.owner.trans (hids j n hj)
  · exact fun k hk => hk.owner.trans hid
  · intro k
    rw [add, drop, Table.get_foldl_insert, Table.get_foldl_remove]
  · intro k hk
    obtain ⟨p, _, rfl⟩ := List.mem_map.mp hk
    exact x.owner_key ..
  · intro k
    simpa [List.mem_map, eq_comm] using hhas k

variable (h : x.Exact rows index) (hids : KeyedRows rows) (hid : w.id = i)

include h hids hid

lemma Exact.enter (hbef : ∀ m ∈ rows.get i, m.isLive = false) (hlive : w.isLive = true) :
    x.Exact (rows.insert i w) (x.add index w.scope w.entityType i (x.parts w.toEntity)) := by
  refine h.rewrite hids hid w.scope w.entityType w.entityType [] _ fun k => ?_
  rw [has_iff hlive, hid]
  refine ⟨.inl, ?_⟩
  rintro (hk | ⟨⟨m, hm, hk⟩, -⟩)
  · exact hk
  · exact absurd hk (not_has_of_dead (hbef m hm))

lemma Exact.leave (hm : rows.get i = some m) (hdead : w.isLive = false) :
    x.Exact (rows.insert i w) (x.drop index m.scope m.entityType i (x.parts m.toEntity)) := by
  refine h.rewrite hids hid m.scope m.entityType m.entityType _ [] fun k => ?_
  refine iff_of_false (not_has_of_dead hdead) ?_
  rintro (⟨_, hp, -⟩ | ⟨⟨n, hn, -, p, hp, rfl⟩, hgone⟩)
  · cases hp
  · obtain rfl := some.inj (hm.symm.trans hn)
    exact hgone ⟨p, hp, by rw [hids i m hm]⟩

lemma Exact.revise [DecidableEq P] (hm : rows.get i = some m) (hlive : m.isLive = true)
    (hlive' : w.isLive = true) (hsc : w.scope = m.scope) (typeChanged : Bool)
    (htype : typeChanged = true ↔ m.entityType ≠ w.entityType) {lists : List P × List P}
    (hlists : lists = Entities.removedAndAdded typeChanged (x.parts m.toEntity)
      (x.parts w.toEntity)) : x.Exact (rows.insert i w)
      (x.add (x.drop index m.scope m.entityType m.id lists.1) m.scope w.entityType i lists.2) := by
  have hmi : m.id = i := hids i m hm
  rw [hmi]
  refine h.rewrite hids hid m.scope m.entityType w.entityType _ _ fun k => ?_
  have hwas : (∃ n, rows.get i = some n ∧ x.Has n k) ↔
      ∃ p ∈ x.parts m.toEntity, k = x.key m.scope m.entityType p i := by
    constructor
    · rintro ⟨n, hn, hk⟩
      obtain rfl := some.inj (hm.symm.trans hn)
      rwa [has_iff hlive, hmi] at hk
    · exact fun hk => ⟨m, hm, by rwa [has_iff hlive, hmi]⟩
  rw [has_iff hlive', hid, hsc, hwas, hlists, Entities.removedAndAdded]
  by_cases hty : m.entityType = w.entityType
  · rw [if_neg (by simp [htype, hty]), ← hty]
    simp only [List.mem_filter, decide_eq_true_eq]
    constructor
    · rintro ⟨p, hp, rfl⟩
      by_cases hold : p ∈ x.parts m.toEntity
      · refine .inr ⟨⟨p, hold, rfl⟩, ?_⟩
        rintro ⟨q, ⟨-, hq⟩, heq⟩
        exact hq ((x.key_inj heq).2 ▸ hp)
      · exact .inl ⟨p, ⟨hp, hold⟩, rfl⟩
    · rintro (⟨p, ⟨hp, -⟩, rfl⟩ | ⟨⟨p, hp, rfl⟩, hkept⟩)
      · exact ⟨p, hp, rfl⟩
      · by_cases hnew : p ∈ x.parts w.toEntity
        · exact ⟨p, hnew, rfl⟩
        · exact absurd ⟨p, ⟨hp, hnew⟩, rfl⟩ hkept
  · rw [if_pos (by simp [htype, hty])]
    exact ⟨.inl, fun hk => hk.elim id fun hk => absurd hk.1 hk.2⟩

lemma Exact.extend (hm : rows.get i = some m) (hlive : m.isLive = true)
    (hlive' : w.isLive = true) (hsc : w.scope = m.scope)
    (htype : w.entityType = m.entityType) (added : List P)
    (hparts : ∀ p, p ∈ x.parts w.toEntity ↔ p ∈ added ∨ p ∈ x.parts m.toEntity) :
    x.Exact (rows.insert i w) (x.add index m.scope m.entityType i added) := by
  have hmi : m.id = i := hids i m hm
  refine h.rewrite hids hid m.scope m.entityType m.entityType [] _ fun k => ?_
  rw [has_iff hlive', hid, hsc, htype]
  constructor
  · rintro ⟨p, hp, rfl⟩
    rcases (hparts p).mp hp with hp | hp
    · exact .inl ⟨p, hp, rfl⟩
    · exact .inr ⟨⟨m, hm, hlive, p, hp, by rw [hmi]⟩, by simp⟩
  · rintro (⟨p, hp, rfl⟩ | ⟨⟨n, hn, -, p, hp, rfl⟩, -⟩)
    · exact ⟨p, (hparts p).mpr (.inl hp), rfl⟩
    · obtain rfl := some.inj (hm.symm.trans hn)
      exact ⟨p, (hparts p).mpr (.inr hp), by rw [hmi]⟩

lemma Exact.strip (hm : rows.get i = some m) (hsame : w.isLive = m.isLive)
    (hsc : w.scope = m.scope) (htype : w.entityType = m.entityType) (scope : RowScope)
    (ty : EntityTypeId) (removed : List P) (hparts : m.isLive = true → ∀ p, p ∈ x.parts w.toEntity ↔
      p ∈ x.parts m.toEntity ∧ ¬ ((scope, ty) = (m.scope, m.entityType) ∧ p ∈ removed)) :
    x.Exact (rows.insert i w) (x.drop index scope ty i removed) := by
  have hmi : m.id = i := hids i m hm
  refine h.rewrite hids hid scope ty ty _ [] fun k => ?_
  cases hlive : m.isLive with
  | false =>
    refine iff_of_false (not_has_of_dead (hsame.trans hlive)) ?_
    rintro (⟨_, hp, -⟩ | ⟨⟨n, hn, hk⟩, -⟩)
    · cases hp
    · obtain rfl := some.inj (hm.symm.trans hn)
      exact not_has_of_dead hlive hk
  | true =>
    rw [has_iff (hsame.trans hlive), hid, hsc, htype]
    constructor
    · rintro ⟨p, hp, rfl⟩
      obtain ⟨hp, hkept⟩ := (hparts hlive p).mp hp
      refine .inr ⟨⟨m, hm, hlive, p, hp, by rw [hmi]⟩, ?_⟩
      rintro ⟨q, hq, heq⟩
      obtain ⟨hpos, rfl⟩ := x.key_inj heq
      exact hkept ⟨hpos.symm, hq⟩
    · rintro (⟨_, hp, -⟩ | ⟨⟨n, hn, -, p, hp, rfl⟩, hkept⟩)
      · cases hp
      · obtain rfl := some.inj (hm.symm.trans hn)
        refine ⟨p, (hparts hlive p).mpr ⟨hp, ?_⟩, by rw [hmi]⟩
        rintro ⟨hpos, hq⟩
        obtain ⟨rfl, rfl⟩ := Prod.mk.inj hpos
        exact hkept ⟨p, hq, by rw [hmi]⟩

omit h hids hid

variable (x index) in
def Lists (m : EntityMetadata) : Prop :=
  ∀ k, x.owner k = m.id → (index.get k = some () ↔ x.Has m k)

lemma Exact.lists (h : x.Exact rows index) (hids : KeyedRows rows) (hm : rows.get i = some m) :
    x.Lists index m := by
  intro k hk
  constructor
  · intro hget
    obtain ⟨j, n, hn, hhas, -⟩ := (h k ()).mp hget
    have hj : j = i := by rw [← hids j n hn, ← hhas.owner, hk, hids i m hm]
    rw [hj, hm] at hn
    exact some.inj hn ▸ hhas
  · exact fun hhas => (h k ()).mpr ⟨i, m, hm, hhas, rfl⟩

/-- Taking parts away from a live entity, and giving others to another one, leaves the rows of the
first in step with its parts just if those are gone that were taken. -/
lemma Lists.stripped_iff (h : x.Lists index m) (hlive : m.isLive = true) (hid : w.id = m.id)
    (hlive' : w.isLive = true) (hsc : w.scope = m.scope) (htype : w.entityType = m.entityType)
    (hsub : x.parts w.toEntity ⊆ x.parts m.toEntity) (hoth : i ≠ m.id) (scope : RowScope)
    (ty ty' : EntityTypeId) (removed added : List P) :
    x.Lists (x.add (x.drop index scope ty m.id removed) scope ty' i added) w ↔
      ∀ p ∈ x.parts m.toEntity, p ∈ x.parts w.toEntity ↔
        ¬ ((m.scope, m.entityType) = (scope, ty) ∧ p ∈ removed) := by
  have hget : ∀ k, x.owner k = m.id →
      ((x.add (x.drop index scope ty m.id removed) scope ty' i added).get k = some () ↔
        x.Has m k ∧ ¬ ∃ p ∈ removed, x.key scope ty p m.id = k) := by
    intro k hk
    have hnot : k ∉ added.map (x.key scope ty' · i) := by
      intro hmem
      obtain ⟨p, -, rfl⟩ := List.mem_map.mp hmem
      exact hoth ((x.owner_key ..).symm.trans hk)
    rw [add, drop, Table.get_foldl_insert, if_neg hnot, Table.get_foldl_remove, ← h k hk,
      ← List.mem_map (f := (x.key scope ty · m.id))]
    split <;> simp [*]
  have hkeys : ∀ p, (∃ q ∈ removed, x.key scope ty q m.id = x.key m.scope m.entityType p m.id) ↔
      (m.scope, m.entityType) = (scope, ty) ∧ p ∈ removed := by
    intro p
    constructor
    · rintro ⟨q, hq, heq⟩
      obtain ⟨hpos, rfl⟩ := x.key_inj heq
      exact ⟨hpos.symm, hq⟩
    · rintro ⟨hpos, hp⟩
      obtain ⟨rfl, rfl⟩ := Prod.mk.inj hpos
      exact ⟨p, hp, rfl⟩
  have hown : ∀ p, x.Has w (x.key m.scope m.entityType p m.id) ↔ p ∈ x.parts w.toEntity := by
    intro p
    rw [has_iff hlive', hid, hsc, htype]
    exact ⟨fun ⟨q, hq, heq⟩ => (x.key_inj heq).2 ▸ hq, fun hp => ⟨p, hp, rfl⟩⟩
  constructor
  · intro hlists p hp
    have hkey := x.owner_key m.scope m.entityType p m.id
    have hrow := hlists _ (hkey.trans hid.symm)
    rw [hget _ hkey, hown, hkeys, and_iff_right ⟨hlive, p, hp, rfl⟩] at hrow
    exact hrow.symm
  · intro hparts k hk
    rw [hget k (hk.trans hid)]
    constructor
    · rintro ⟨⟨-, p, hp, rfl⟩, hkept⟩
      rw [hown]
      exact (hparts p hp).mpr fun hgone => hkept ((hkeys p).mpr hgone)
    · rintro ⟨-, p, hp, rfl⟩
      rw [hid, hsc, htype, hkeys]
      exact ⟨⟨hlive, p, hsub hp, rfl⟩, (hparts p (hsub hp)).mp hp⟩

end PartIndex
end BrainDb
