import BrainDb.Graph.EntityReplay
import BrainDb.Graph.NameIndex

namespace BrainDb
open ExceptLemmas Option Entities

def mergeRedirectMaxHops : Nat := 16

inductive EntityResolveError where
  | mergeRedirectCycle (id : EntityId)
  deriving DecidableEq

abbrev EntityRows := Table EntityId EntityMetadata

namespace EntityRows

def walk (rows : EntityRows) :
    Nat → EntityId → List EntityId → Option (Option (Entity × List EntityId))
  | 0, _, _ => none
  | turns + 1, current, chain =>
    match rows.get current with
    | none => some none
    | some row =>
      match row.mergedInto with
      | none => some (some (row.toEntity, chain))
      | some next => walk rows turns next (chain ++ [current])

variable (rows : EntityRows)

def entityGetResolvedWithChain (id : EntityId) :
    Except EntityResolveError (Option (Entity × List EntityId)) :=
  match rows.walk (mergeRedirectMaxHops + 1) id [] with
  | some result => .ok result
  | none => .error (.mergeRedirectCycle id)

def Redirects (id next : EntityId) : Prop :=
  ∃ row, rows.get id = some row ∧ row.mergedInto = some next

inductive Leads (rows : EntityRows) : EntityId → List EntityId → Entity → Prop
  | here {id : EntityId} {row : EntityMetadata} : rows.get id = some row → row.mergedInto = none →
      Leads rows id [] row.toEntity
  | on {id next : EntityId} {row : EntityMetadata} {chain : List EntityId} {e : Entity} :
      rows.get id = some row → row.mergedInto = some next → Leads rows next chain e →
      Leads rows id (id :: chain) e

structure Resolvable (rows : EntityRows) : Prop where
  keyed : Entities.KeyedRows rows
  leads : ∀ id row, rows.get id = some row → ∃ chain e, Leads rows id chain e

variable {rows : EntityRows} {id next : EntityId} {chain : List EntityId} {e : Entity}

lemma Leads.unique (h : Leads rows id chain e) {chain' : List EntityId} {e' : Entity}
    (h' : Leads rows id chain' e') : chain' = chain ∧ e' = e := by
  induction h generalizing chain' with
  | here hrow hinto => cases h' <;> grind
  | on hrow hinto _ ih =>
    cases h' with
    | here hrow' hinto' => grind
    | on hrow' hinto' hrest =>
      obtain rfl := some.inj (hrow.symm.trans hrow')
      obtain rfl := some.inj (hinto.symm.trans hinto')
      grind

lemma Leads.walk (h : Leads rows id chain e) (turns : Nat) (walked : List EntityId) :
    rows.walk turns id walked =
      if chain.length < turns then some (some (e, walked ++ chain)) else none := by
  induction h generalizing turns walked with
  | here hrow hinto => cases turns <;> simp [EntityRows.walk, hrow, hinto]
  | on hrow hinto _ ih => cases turns <;> simp [EntityRows.walk, hrow, hinto, ih]

lemma Leads.resolved (h : Leads rows id chain e) : rows.entityGetResolvedWithChain id =
    if chain.length ≤ mergeRedirectMaxHops then .ok (some (e, chain))
    else .error (.mergeRedirectCycle id) := by
  rw [entityGetResolvedWithChain, h.walk]
  split <;> split <;> grind

lemma Leads.redirected (h : Leads rows id chain e)
    (hnext : Relation.TransGen rows.Redirects id next) :
    ∃ rest, Leads rows next rest e ∧ rest.length < chain.length := by
  have hstep : ∀ {i j chain}, Leads rows i chain e → rows.Redirects i j →
      ∃ rest, Leads rows j rest e ∧ rest.length < chain.length := by
    rintro i j chain h ⟨row, hrow, hinto⟩
    cases h with
    | here => grind
    | on hrow' hinto' hrest =>
      obtain rfl := some.inj (hrow.symm.trans hrow')
      obtain rfl := some.inj (hinto.symm.trans hinto')
      exact ⟨_, hrest, Nat.lt_succ_self _⟩
  induction hnext with
  | single hnext => exact hstep h hnext
  | tail _ hnext ih =>
    obtain ⟨rest, hrest, hlt⟩ := ih
    obtain ⟨rest', hrest', hlt'⟩ := hstep hrest hnext
    exact ⟨rest', hrest', by omega⟩

lemma Resolvable.acyclic (h : rows.Resolvable) (id : EntityId) :
    ¬ Relation.TransGen rows.Redirects id id := by
  intro hcycle
  obtain ⟨j, ⟨row, hrow, _⟩, _⟩ := Relation.TransGen.head'_iff.mp hcycle
  obtain ⟨chain, e, hleads⟩ := h.leads id row hrow
  obtain ⟨rest, hrest, hlt⟩ := hleads.redirected hcycle
  rw [(hleads.unique hrest).1] at hlt
  omega

lemma Resolvable.insert (h : rows.Resolvable) {row : EntityMetadata} (hid : row.id = id)
    (hinto : (∃ old, rows.get id = some old ∧ row.mergedInto = old.mergedInto) ∨
      row.mergedInto = none ∨ ∃ root s, row.mergedInto = some root ∧ root ≠ id ∧
        rows.get root = some s ∧ s.mergedInto = none) : Resolvable (rows.insert id row) := by
  have hself : (rows.insert id row).get id = some row := Table.get_insert_self _ _ _
  have hoth : ∀ i, i ≠ id → (rows.insert id row).get i = rows.get i :=
    fun i hi => Table.get_insert_ne _ _ hi
  have hnew : (∃ old, rows.get id = some old ∧ row.mergedInto = old.mergedInto) ∨
      ∃ chain e, Leads (rows.insert id row) id chain e := by
    rcases hinto with hsame | hnone | ⟨root, s, hroot, hne, hs, hends⟩
    · exact .inl hsame
    · exact .inr ⟨_, _, .here hself hnone⟩
    · exact .inr ⟨_, _, .on hself hroot (.here ((hoth root hne).trans hs) hends)⟩
  -- along the chain before the write, which is as it was or turns at the row that came in
  have hstays : ∀ {i chain e}, Leads rows i chain e →
      ∃ chain e, Leads (rows.insert id row) i chain e := by
    intro i chain e hleads
    induction hleads with
    | @here i r hr hnone =>
      by_cases hi : i = id
      · subst hi
        rcases hnew with ⟨old, hold, hsame⟩ | hnew
        · exact ⟨_, _, .here hself (by grind)⟩
        · exact hnew
      · exact ⟨_, _, .here ((hoth i hi).trans hr) hnone⟩
    | @on i next r chain e hr hnext _ ih =>
      obtain ⟨chain', e', hrest⟩ := ih
      by_cases hi : i = id
      · subst hi
        rcases hnew with ⟨old, hold, hsame⟩ | hnew
        · exact ⟨_, _, .on hself (by grind) hrest⟩
        · exact hnew
      · exact ⟨_, _, .on ((hoth i hi).trans hr) hnext hrest⟩
  refine ⟨keyedRows_insert h.keyed hid, fun i r hr => ?_⟩
  by_cases hi : i = id
  · subst hi
    rcases hnew with ⟨old, hold, _⟩ | hnew
    · obtain ⟨chain, e, hleads⟩ := h.leads i old hold
      exact hstays hleads
    · exact hnew
  · obtain ⟨chain, e, hleads⟩ := h.leads i r ((hoth i hi).symm.trans hr)
    exact hstays hleads

end EntityRows

namespace Graph
variable [TextFolding] {g g' : Graph}

open EntityRows

def entityStep (g : Graph) (w : EntityWrite) : Graph :=
  match g.applyEntity w.scope w.mint w.phase with
  | .ok g' => g'
  | .error _ => g

lemma resolvable_update (h : Resolvable g.entities.entities) {types : Schema.EntityTypes}
    {newState : Entity} {now : Nanos} {t : Entities}
    (hok : g.entities.update types newState now = .ok t)
    (hinto : ∀ current, g.entities.entities.get newState.id = some current →
      newState.mergedInto = current.mergedInto) : Resolvable t.entities := by
  obtain ⟨current, names, hcur, _, rfl⟩ := update_ok hok
  obtain ⟨hid, _, _, hmrg, _⟩ := revised_fields current newState now
  generalize revised current newState now = next at *
  refine h.insert rfl (.inl ⟨current, ?_, ?_⟩)
  · rw [hid]
    exact hcur
  · exact hmrg.trans (hinto current hcur)

lemma resolvable_apply (h : Resolvable g.entities.entities) {w : EntityWrite}
    (hok : g.applyEntity w.scope w.mint w.phase = .ok g') : Resolvable g'.entities.entities := by
  generalize w.phase = phase at hok
  cases phase with
  | upsert p =>
    obtain ⟨t, hput, hok⟩ := bind_ok (mapError_ok hok)
    cases hok
    obtain ⟨_, _, hput⟩ := bind_ok hput
    split at hput
    · cases hput
    · cases hput
      exact h.insert rfl (.inr (.inl rfl))
  | update b =>
    obtain ⟨current, hguard, hok⟩ := bind_ok hok
    obtain ⟨t, hupd, hok⟩ := bind_ok (mapError_ok hok)
    cases hok
    obtain ⟨hcur, _⟩ := entityScopeGuard_ok hguard
    refine resolvable_update h hupd fun old hold => ?_
    have hid : (b.newState current.toEntity).id = b.id := h.keyed _ _ hcur
    rw [hid, hcur] at hold
    exact congrArg (fun m => m.mergedInto) (some.inj hold)
  | rename b =>
    obtain ⟨_, _, hok⟩ := bind_ok hok
    obtain ⟨current, t, hcur, hupd, rfl⟩ := renameEntity_ok (mapError_ok hok)
    refine resolvable_update h hupd fun old hold => ?_
    have hid : current.id = b.id := h.keyed _ _ hcur
    have hold : g.entities.entities.get current.id = some old := hold
    rw [hid, hcur] at hold
    exact congrArg (fun m => m.mergedInto) (some.inj hold)
  | tombstone b =>
    obtain ⟨_, _, hok⟩ := bind_ok hok
    obtain ⟨t, htomb, hok⟩ := bind_ok (mapError_ok hok)
    cases hok
    obtain ⟨current, hcur, rfl⟩ := tombstone_ok htomb
    have hid := h.keyed _ _ hcur
    exact h.insert rfl (.inl ⟨current, by rw [hid]; exact hcur, rfl⟩)
  | merge b =>
    obtain ⟨_, _, hok⟩ := bind_ok hok
    obtain ⟨_, _, hok⟩ := bind_ok hok
    obtain ⟨s, m, hne, hs, hm, hmergeable, rfl⟩ := mergeEntity_ok (mapError_ok hok)
    obtain ⟨_, _, hsInto, _⟩ := mergeable_ok hmergeable
    have hsId := h.keyed _ _ hs
    have hmId := h.keyed _ _ hm
    rw [entities_merged]
    refine Resolvable.insert (h.insert ?_ (.inl ⟨s, by rwa [hsId], ?_⟩)) ?_ (.inr (.inr
      ⟨s.id, _, ?_, by rwa [hsId, hmId], Table.get_insert_self _ _ _, hsInto⟩))
    all_goals rfl
  | unmerge b =>
    obtain ⟨_, _, hok⟩ := bind_ok hok
    obtain ⟨m, survivor, s, key, audit, hm, _, hs, _, _, rfl⟩ := unmergeEntity_ok (mapError_ok hok)
    have hsId := h.keyed _ _ hs
    rw [entities_unmerged]
    refine Resolvable.insert (h.insert ?_ (.inl ⟨s, by rwa [hsId], ?_⟩)) ?_ (.inr (.inl ?_))
    all_goals rfl

/-- Whatever was written, the redirects have no cycle and every stored id leads to one entity, which
the lookup returns with its chain if that has at most sixteen redirects. -/
theorem merged_ids_lead_to_survivors (catalog : Schema.Catalog) (ws : List EntityWrite) :
    let rows := (ws.foldl entityStep (Graph.empty catalog)).entities.entities
    (∀ id, ¬ Relation.TransGen (Redirects rows) id id) ∧
      ∀ id row, rows.get id = some row → ∃ chain e, Leads rows id chain e ∧
        (∀ chain' e', Leads rows id chain' e' → chain' = chain ∧ e' = e) ∧
        entityGetResolvedWithChain rows id =
          if chain.length ≤ mergeRedirectMaxHops then .ok (some (e, chain))
          else .error (.mergeRedirectCycle id) := by
  have hall : Resolvable (ws.foldl entityStep (Graph.empty catalog)).entities.entities := by
    refine Run.invariant (I := fun g : Graph => Resolvable g.entities.entities) (fun g w h => ?_)
      ⟨fun id row hrow => (by cases hrow), fun id row hrow => (by cases hrow)⟩ ws
    unfold entityStep
    split
    next hok => exact resolvable_apply h hok
    · exact h
  refine ⟨hall.acyclic, fun id row hrow => ?_⟩
  obtain ⟨chain, e, hleads⟩ := hall.leads id row hrow
  exact ⟨chain, e, hleads, fun _ _ h' => hleads.unique h', hleads.resolved⟩

end Graph

namespace Graph

attribute [local instance] asciiFolding

def entered (id : EntityId) : EntityWrite :=
  ⟨⟨1, 1⟩, 0, .upsert ⟨id, 1, 0, toString id, toString id, [], [], 0⟩⟩

def mergedInto (source target : EntityId) : EntityWrite :=
  ⟨⟨1, 1⟩, source, .merge ⟨source, target, 0x3F800000, "", .system, 60, 0⟩⟩

/-- Eighteen persons, each merged into the one entered after it: the first no longer resolves. -/
theorem seventeenth_redirect_not_followed :
    let writes := (List.range 18).map entered ++ (List.range 17).map fun i => mergedInto i (i + 1)
    let rows := (writes.foldl entityStep directory).entities.entities
    EntityRows.entityGetResolvedWithChain rows 0 = .error (.mergeRedirectCycle 0) ∧
      (rows.get 17).map (·.mergedInto) = some none := by
  decide +kernel

end Graph
end BrainDb
