import BrainDb.Graph.StatementMoves

namespace BrainDb
open List Option Table
variable {t : Statements} {scope : RowScope}

namespace Statements
open StatementMetadata Prod
variable {entity : EntityId} {id : StatementId} {row : (Bool × Bool) × StatementMetadata}

lemma Mirrored.mem_bySubject (h : t.Mirrored) :
    id ∈ (t.bySubject.scan fun k => k.scope = scope ∧ k.subject = entity).map snd ↔
      ∃ m ∈ t.rows.get id, m.hasSubject scope entity := by
  constructor
  · intro hid
    obtain ⟨⟨k, _⟩, hk, rfl⟩ := List.mem_map.mp hid
    obtain ⟨hget, hsubj⟩ := t.bySubject.mem_scan.mp hk
    obtain ⟨i, m, hm, hkey, rfl⟩ := (h.bySubject k _).mp hget
    refine ⟨m, hm, ?_⟩
    unfold subjectEntry at hkey
    split at hkey
    · cases hkey
    next hpend =>
      obtain rfl := Option.some.inj hkey
      have hsides : m.scope = scope ∧ m.subject.bytes = entity := of_decide_eq_true hsubj
      simpa [hasSubject, hpend] using hsides
  · rintro ⟨m, hm, hsubj⟩
    simp only [hasSubject, Bool.and_eq_true, Bool.not_eq_true', decide_eq_true_eq] at hsubj
    have hget := h.bySubject.get hm (subjectEntry_resolved hsubj.1.1)
    refine List.mem_map.mpr ⟨(m.subjectKey, id), t.bySubject.mem_scan.mpr ⟨hget, ?_⟩, rfl⟩
    simp [subjectKey, subjectKeyAs, hsubj]

lemma Mirrored.mem_byObject (h : t.Mirrored) :
    id ∈ (t.byObjectEntity.scan fun k => k.scope = scope ∧ k.object = entity).map snd ↔
      ∃ m ∈ t.rows.get id, m.hasObject scope entity := by
  constructor
  · intro hid
    obtain ⟨⟨k, _⟩, hk, rfl⟩ := List.mem_map.mp hid
    obtain ⟨hget, hobj⟩ := t.byObjectEntity.mem_scan.mp hk
    obtain ⟨i, m, hm, hkey, rfl⟩ := (h.byObject k _).mp hget
    refine ⟨m, hm, ?_⟩
    unfold objectKey at hkey
    split at hkey
    next e he =>
      obtain rfl := Option.some.inj hkey
      simpa [hasObject, he] using hobj
    · cases hkey
  · rintro ⟨m, hm, hobj⟩
    simp only [hasObject, Bool.and_eq_true, decide_eq_true_eq] at hobj
    have hkey : m.objectKey = some ⟨scope, entity, m.kind.asU8, m.id⟩ := by
      simp [objectKey, hobj]
    exact List.mem_map.mpr
      ⟨(_, id), t.byObjectEntity.mem_scan.mpr ⟨h.byObject.get hm hkey, by simp⟩, rfl⟩

lemma get_foldl_mark {K : Type} (l : List (K × StatementId))
    (sides : Table StatementId (Bool × Bool)) (id : StatementId) : (l.foldl (fun sides e =>
      sides.insert e.2 (((sides.get e.2).getD (false, false)).1, true)) sides).get id =
      if id ∈ l.map snd then some (((sides.get id).getD (false, false)).1, true)
      else sides.get id := by
  induction l generalizing sides with
  | nil => simp
  | cons e l ih =>
    rw [foldl_cons, ih, get_insert, map_cons]
    by_cases hid : id = e.2
    · subst hid
      simp
    · rw [if_neg hid]
      simp only [mem_cons, hid, false_or]

lemma Mirrored.get_sidesOf (h : t.Mirrored) (entity : EntityId) (id : StatementId) :
    (t.sidesOf scope entity).get id = (t.rows.get id).bind fun m =>
      if m.hasSubject scope entity || m.hasObject scope entity then
        some (m.hasSubject scope entity, m.hasObject scope entity) else none := by
  unfold sidesOf
  rw [get_foldl_mark, get_foldl_insert]
  simp only [h.mem_bySubject, h.mem_byObject, get_empty]
  cases hget : t.rows.get id with
  | none => simp
  | some m =>
    cases hs : m.hasSubject scope entity <;> cases ho : m.hasObject scope entity <;>
      simp [hs, ho]

def found (t : Statements) (scope : RowScope) (merged : EntityId) :
    List ((Bool × Bool) × StatementMetadata) :=
  (t.sidesOf scope merged).entries.filterMap fun e =>
    match t.rows.get e.1 with
    | some m => if m.scope = scope then some (e.2, m) else none
    | none => none

def shifted (t : Statements) (scope : RowScope) (m : StatementMetadata) : Nat :=
  saturatingAdd u32Max m.version (t.chainMax scope m.chainRoot)

def recordOf (t : Statements) (scope : RowScope) (row : (Bool × Bool) × StatementMetadata) :
    StatementReroute :=
  { statement := row.2.id, subjectChanged := row.1.1, objectChanged := row.1.2
    oldVersion := row.2.version
    newVersion := if row.1.1 then t.shifted scope row.2 else row.2.version
    chainRoot := row.2.chainRoot }

lemma newVersion_recordOf (h : row.1.1 = true) :
    (t.recordOf scope row).newVersion = t.shifted scope row.2 :=
  if_pos h

lemma Mirrored.mem_found (h : t.Mirrored) (hids : t.Keyed) :
    row ∈ t.found scope entity ↔ t.rows.get row.2.id = some row.2 ∧
      row.1 = (row.2.hasSubject scope entity, row.2.hasObject scope entity) ∧
      (row.2.hasSubject scope entity || row.2.hasObject scope entity) = true := by
  unfold found
  rw [mem_filterMap]
  constructor
  · rintro ⟨⟨id, sides⟩, he, hrow⟩
    rw [mem_entries_iff, h.get_sidesOf] at he
    obtain ⟨m, hm, hsides⟩ := bind_eq_some_iff.mp he
    simp only [hm] at hrow
    split at hrow
    · obtain rfl := Option.some.inj hrow
      split at hsides
      next hany => exact ⟨by rw [hids id m hm, hm], (Option.some.inj hsides).symm, hany⟩
      · cases hsides
    · cases hrow
  · rintro ⟨hm, hsides, hany⟩
    refine ⟨(row.2.id, row.1), ?_, ?_⟩
    · rw [mem_entries_iff, h.get_sidesOf, hm, bind_some, if_pos hany, hsides]
    · have hsc : row.2.scope = scope := by
        simp only [hasSubject, hasObject, Bool.or_eq_true, Bool.and_eq_true,
          decide_eq_true_eq] at hany
        rcases hany with hany | hany
        · exact hany.1.2
        · exact hany.1
      simp [hm, hsc]

lemma found_apart (hids : t.Keyed) (entity : EntityId) :
    (t.found scope entity).Pairwise fun a b => a.2.id ≠ b.2.id := by
  unfold found
  refine List.Pairwise.filterMap _ ?_ (t.sidesOf scope entity).sorted
  intro a b hlt
  have hid : ∀ e : StatementId × Bool × Bool, ∀ row, (match t.rows.get e.1 with
      | some m => if m.scope = scope then some (e.2, m) else none
      | none => none) = some row → row.2.id = e.1 := by
    intro e row hrow
    split at hrow
    next m hm =>
      split at hrow
      · exact Option.some.inj hrow ▸ hids e.1 m hm
      · cases hrow
    · cases hrow
  intro x hx y hy
  rw [hid a x hx, hid b y hy]
  exact hlt.ne

def reroutesOf (t : Statements) (scope : RowScope) (merged : EntityId) :
    List StatementReroute :=
  (t.found scope merged).map (t.recordOf scope)

def moveFound (t : Statements) (scope : RowScope) (merged survivor : EntityId)
    (cur : Statements) (row : (Bool × Bool) × StatementMetadata) : Statements :=
  cur.repoint scope merged survivor row.1.1 row.1.2 row.2.version
    (if row.1.1 then t.shifted scope row.2 else row.2.version) row.2.chainRoot row.2

lemma foldl_moveFound {l : List ((Bool × Bool) × StatementMetadata)} {cur : Statements}
    (merged survivor : EntityId) (hcur : cur.Keyed)
    (hrows : ∀ row ∈ l, cur.rows.get row.2.id = some row.2)
    (hsep : l.Pairwise fun a b => a.2.id ≠ b.2.id) :
    l.foldl (t.moveFound scope merged survivor) cur =
      cur.followAll scope merged survivor (l.map (t.recordOf scope)) := by
  induction l generalizing cur with
  | nil => rfl
  | cons row l ih =>
    obtain ⟨hrow, hsep⟩ := pairwise_cons.mp hsep
    have hstep : cur.follow scope merged survivor (t.recordOf scope row) =
        t.moveFound scope merged survivor cur row :=
      follow_of_get (hrows row mem_cons_self)
    rw [foldl_cons, ← hstep, map_cons]
    refine ih hcur.follow ?_ hsep
    intro row' hrow'
    have hne : row'.2.id ≠ (t.recordOf scope row).statement := (hrow row' hrow').symm
    rw [get_rows_follow hcur, if_neg hne]
    exact hrows row' (mem_cons_of_mem row hrow')

lemma Mirrored.reroute_eq (h : t.Mirrored) (hids : t.Keyed) (scope : RowScope)
    (merged survivor : EntityId) : t.reroute scope merged survivor =
      (t.followAll scope merged survivor (t.reroutesOf scope merged),
        t.reroutesOf scope merged) := by
  have hreroute : t.reroute scope merged survivor = (t.found scope merged).foldl (fun acc row =>
        (t.moveFound scope merged survivor acc.1 row, acc.2 ++ [t.recordOf scope row])) (t, []) := by
    refine foldl_ext _ _ _ fun acc row _ => ?_
    rfl
  rw [hreroute, Relocate.foldl_pair]
  refine Prod.ext ?_ rfl
  exact foldl_moveFound merged survivor hids
    (fun row hrow => ((h.mem_found hids).mp hrow).1) (found_apart hids merged)

def Shiftable (t : Statements) (scope : RowScope) (entity : EntityId) : Prop :=
  ∀ e ∈ t.rows.entries, e.2.hasSubject scope entity = true →
    0 < e.2.version ∧ e.2.version + t.chainMax scope e.2.chainRoot ≤ u32Max

instance (entity : EntityId) : Decidable (t.Shiftable scope entity) :=
  inferInstanceAs (Decidable (∀ e ∈ t.rows.entries, _))

lemma le_chainMax {root : StatementId} {version : Nat}
    (h : t.chain.get ⟨scope, root, version⟩ = some id) : version ≤ t.chainMax scope root := by
  unfold chainMax
  rw [← foldl_map (f := fun e : ChainKey × StatementId => e.1.version) (g := max)]
  have hmem := t.chain.mem_scan (p := fun k => k.scope = scope ∧ k.chainRoot = root).mpr
    ⟨h, by simp⟩
  exact le_foldl_max (List.mem_map_of_mem (f := fun e => e.1.version) hmem) 0

lemma Mirrored.reroutesOf_fits (h : t.Mirrored) (hids : t.Keyed) (scope : RowScope)
    (merged : EntityId) : ∀ r ∈ t.reroutesOf scope merged, ∃ m, t.rows.get r.statement = some m ∧
      Fits scope merged r m ∧ r.oldVersion = m.version ∧ r.chainRoot = m.chainRoot := by
  intro r hr
  obtain ⟨row, hrow, rfl⟩ := List.mem_map.mp hr
  obtain ⟨hget, hsides, hany⟩ := (h.mem_found hids).mp hrow
  refine ⟨row.2, hget, ⟨?_, fun ho => ?_, fun hs => ?_⟩, rfl, rfl⟩
  · simp only [hasSubject, hasObject, Bool.or_eq_true, Bool.and_eq_true, decide_eq_true_eq] at hany
    rcases hany with hany | hany
    · exact hany.1.2
    · exact hany.1
  · have hhas : row.2.hasObject scope merged = true := (congrArg snd hsides).symm.trans ho
    simp only [hasObject, Bool.and_eq_true, decide_eq_true_eq] at hhas
    exact hhas.2
  · have hhas : row.2.hasSubject scope merged = true := (congrArg fst hsides).symm.trans hs
    simp only [hasSubject, Bool.and_eq_true, Bool.not_eq_true', decide_eq_true_eq] at hhas
    exact ⟨hhas.1.1, hhas.2⟩

lemma reroutesOf_statements (hids : t.Keyed) (merged : EntityId) :
    (t.reroutesOf scope merged).Pairwise (·.statement ≠ ·.statement) :=
  pairwise_map.mpr (found_apart hids merged)

section
variable (h : t.Mirrored) (hids : t.Keyed) {merged : EntityId} (hshift : t.Shiftable scope merged)

include h hids hshift

lemma Mirrored.found_subject (hrow : row ∈ t.found scope merged) (hsubj : row.1.1 = true) :
    row.2.subject.isPending = false ∧ row.2.scope = scope ∧ row.2.subject.bytes = merged ∧
      0 < row.2.version ∧ row.2.version ≤ t.chainMax scope row.2.chainRoot ∧
      t.shifted scope row.2 = row.2.version + t.chainMax scope row.2.chainRoot := by
  obtain ⟨hget, hsides, -⟩ := (h.mem_found hids).mp hrow
  have hhas : row.2.hasSubject scope merged = true := (congrArg fst hsides).symm.trans hsubj
  obtain ⟨hpos, hroom⟩ := hshift _ (t.rows.mem_entries_iff.mpr hget) hhas
  simp only [hasSubject, Bool.and_eq_true, Bool.not_eq_true', decide_eq_true_eq] at hhas
  obtain ⟨⟨hpend, rfl⟩, hbs⟩ := hhas
  have hchain := h.chain.get hget rfl
  exact ⟨hpend, rfl, hbs, hpos, le_chainMax hchain, Nat.min_eq_left hroom⟩

lemma Mirrored.reroutesOf_apart : (t.reroutesOf scope merged).Pairwise Apart := by
  refine pairwise_map.mpr ((found_apart hids merged).imp_of_mem ?_)
  intro a b ha hb hne
  refine ⟨hne, fun hsa hsb heq => hne ?_⟩
  obtain ⟨-, hscopea, -, -, -, hshifta⟩ := h.found_subject hids hshift ha hsa
  obtain ⟨-, hscopeb, -, -, -, hshiftb⟩ := h.found_subject hids hshift hb hsb
  have hroot : a.2.chainRoot = b.2.chainRoot := congrArg fst heq
  have hver : t.shifted scope a.2 = t.shifted scope b.2 := by
    have hnew : (t.recordOf scope a).newVersion = (t.recordOf scope b).newVersion :=
      congrArg snd heq
    rwa [newVersion_recordOf hsa, newVersion_recordOf hsb] at hnew
  rw [hshifta, hshiftb, hroot] at hver
  have hkey : b.2.chainKey = a.2.chainKey := by
    unfold chainKey
    rw [hscopea, hscopeb, hroot, Nat.add_right_cancel hver]
  have hgeta := ((h.mem_found hids).mp ha).1
  have hgetb := ((h.mem_found hids).mp hb).1
  exact (h.chain.own hgeta rfl _ _ hgetb (congrArg some hkey)).symm

lemma Mirrored.reroutesOf_movable :
    ∀ r ∈ t.reroutesOf scope merged, ∀ m ∈ t.rows.get r.statement, t.Movable scope merged r m := by
  intro r hr m hm
  obtain ⟨m', hget, hfits, hver, hroot⟩ := h.reroutesOf_fits hids scope merged r hr
  obtain rfl : m' = m := Option.some.inj (hget.symm.trans hm)
  refine ⟨hfits.1, hfits.2.1, fun hs => ?_⟩
  obtain ⟨row, hrow, rfl⟩ := List.mem_map.mp hr
  obtain ⟨-, -, -, hpos, -, hshifted⟩ := h.found_subject hids hshift hrow hs
  refine ⟨(hfits.2.2 hs).1, (hfits.2.2 hs).2, ?_, fun _ => ?_⟩
  · rw [chainKey, hfits.1, hroot, hver]
  · refine eq_none_iff_forall_ne_some.mpr fun id hid => ?_
    have hslot := le_chainMax hid
    rw [newVersion_recordOf hs, hshifted] at hslot
    have hroot : (t.recordOf scope row).chainRoot = row.2.chainRoot := rfl
    rw [hroot] at hslot
    omega

lemma Mirrored.reroute {survivor : EntityId} : (t.reroute scope merged survivor).1.Mirrored := by
  rw [h.reroute_eq hids]
  exact h.followAll hids (h.reroutesOf_apart hids hshift) (h.reroutesOf_movable hids hshift)
end
end Statements

def StatementReroute.reversed (r : StatementReroute) : StatementReroute :=
  { r with oldVersion := r.newVersion, newVersion := r.oldVersion }

namespace Statements
open StatementMetadata

lemma reverseReroutes_eq (t : Statements) (scope : RowScope)
    (records : List StatementReroute) (merged survivor : EntityId) :
    t.reverseReroutes scope records merged survivor =
      t.followAll scope survivor merged (records.map (·.reversed)) := by
  rw [followAll, foldl_map]
  rfl

lemma Mirrored.reroutesOf_reversed_apart (h : t.Mirrored) (hids : t.Keyed) (merged : EntityId) :
    ((t.reroutesOf scope merged).map (·.reversed)).Pairwise Apart := by
  refine pairwise_map.mpr (pairwise_map.mpr ((found_apart hids merged).imp_of_mem ?_))
  intro a b ha hb hne
  refine ⟨hne, fun hsa hsb heq => hne ?_⟩
  obtain ⟨hgeta, hsidesa, -⟩ := (h.mem_found hids).mp ha
  obtain ⟨hgetb, hsidesb, -⟩ := (h.mem_found hids).mp hb
  have hsc : ∀ row : (Bool × Bool) × StatementMetadata, row.1.1 = true →
      row.1 = (row.2.hasSubject scope merged, row.2.hasObject scope merged) →
      row.2.scope = scope := by
    intro row hs hsides
    have hhas : row.2.hasSubject scope merged = true := (congrArg Prod.fst hsides).symm.trans hs
    simp only [hasSubject, Bool.and_eq_true, decide_eq_true_eq] at hhas
    exact hhas.1.2
  have hkey : b.2.chainKey = a.2.chainKey := by
    have hroot : a.2.chainRoot = b.2.chainRoot := congrArg Prod.fst heq
    have hver : a.2.version = b.2.version := congrArg Prod.snd heq
    unfold chainKey
    rw [hsc a hsa hsidesa, hsc b hsb hsidesb, hroot, hver]
  exact (h.chain.own hgeta rfl _ _ hgetb (congrArg some hkey)).symm

end Statements
end BrainDb
