import Mathlib.Order.Basic

namespace Bracketing
open List

inductive Mark (T : Type*) where
  | opening (id : T)
  | closing (id : T)
  | dropping (id : T)
  | plain
  deriving DecidableEq

variable {T : Type*} {m : Nat → Mark T} {b b' i k : Nat} {t t' : T}

def Ends (mark : Mark T) (t : T) : Prop :=
  (∃ t', mark = .opening t') ∨ mark = .closing t ∨ mark = .dropping t

structure Open (m : Nat → Mark T) (b : Nat) (t : T) (k : Nat) : Prop where
  opens : m b = .opening t
  lt : b < k
  running : ∀ j, b < j → j < k → ¬ Ends (m j) t

def Within (m : Nat → Mark T) (b : Nat) (t : T) (i : Nat) : Prop :=
  (b = i ∧ m b = .opening t) ∨ (Open m b t i ∧ ∀ t', m i ≠ .opening t')

def ClosedBefore (m : Nat → Mark T) (b : Nat) (t : T) (k : Nat) : Prop :=
  ∃ c, c < k ∧ Open m b t c ∧ m c = .closing t

lemma open_succ_iff :
    Open m b t (k + 1) ↔ (b = k ∧ m b = .opening t) ∨ (Open m b t k ∧ ¬ Ends (m k) t) := by
  constructor
  · intro h
    by_cases hb : b = k
    · exact .inl ⟨hb, h.opens⟩
    · have hlt : b < k := by have := h.lt; omega
      exact .inr ⟨⟨h.opens, hlt, fun j hj hjk => h.running j hj (by omega)⟩,
        h.running k hlt (Nat.lt_succ_self k)⟩
  · rintro (⟨rfl, hops⟩ | ⟨h, hend⟩)
    · exact ⟨hops, Nat.lt_succ_self b, fun j hj hjb => by omega⟩
    · refine ⟨h.opens, by have := h.lt; omega, ?_⟩
      intro j hj hjk
      by_cases hjk' : j = k
      · rw [hjk']
        exact hend
      · exact h.running j hj (by omega)

lemma Open.unique (h : Open m b t k) (h' : Open m b' t' k) : b = b' ∧ t = t' := by
  have hb : b = b' := by
    rcases Nat.lt_trichotomy b b' with hlt | heq | hlt
    · exact absurd (.inl ⟨t', h'.opens⟩) (h.running b' hlt h'.lt)
    · exact heq
    · exact absurd (.inl ⟨t, h.opens⟩) (h'.running b hlt h.lt)
  subst hb
  refine ⟨rfl, ?_⟩
  have hops := h.opens
  rw [h'.opens] at hops
  cases hops
  rfl

lemma Within.unique (h : Within m b t i) (h' : Within m b' t' i) : b = b' ∧ t = t' := by
  rcases h with ⟨rfl, hops⟩ | ⟨hopen, hpl⟩
  · rcases h' with ⟨rfl, hopens'⟩ | ⟨_, hplain'⟩
    · rw [hops] at hopens'
      cases hopens'
      exact ⟨rfl, rfl⟩
    · exact absurd hops (hplain' t)
  · rcases h' with ⟨rfl, hopens'⟩ | ⟨hopen', _⟩
    · exact absurd hopens' (hpl t')
    · exact hopen.unique hopen'

lemma Within.le (h : Within m b t i) : b ≤ i := by
  rcases h with ⟨rfl, _⟩ | ⟨hopen, _⟩
  · exact Nat.le_refl b
  · exact Nat.le_of_lt hopen.lt

lemma Open.within (h : Open m b t k) (hb : b ≤ i) (hk : i < k) : Within m b t i := by
  rcases Nat.eq_or_lt_of_le hb with rfl | hlt
  · exact .inl ⟨rfl, h.opens⟩
  · refine .inr ⟨⟨h.opens, hlt, fun j hj hji => h.running j hj (by omega)⟩, ?_⟩
    intro t' hops
    exact h.running i hlt hk (.inl ⟨t', hops⟩)

lemma closedBefore_succ_iff :
    ClosedBefore m b t (k + 1) ↔ ClosedBefore m b t k ∨ (Open m b t k ∧ m k = .closing t) := by
  constructor
  · rintro ⟨c, hc, hopen, hclose⟩
    by_cases hck : c = k
    · subst hck
      exact .inr ⟨hopen, hclose⟩
    · exact .inl ⟨c, by omega, hopen, hclose⟩
  · rintro (⟨c, hc, hopen, hclose⟩ | ⟨hopen, hclose⟩)
    · exact ⟨c, by omega, hopen, hclose⟩
    · exact ⟨k, Nat.lt_succ_self k, hopen, hclose⟩

lemma ClosedBefore.not_open (h : ClosedBefore m b t k) : ¬ Open m b t k := by
  obtain ⟨c, hc, hopen, hclose⟩ := h
  intro hk
  exact hk.running c hopen.lt hc (.inr (.inl hclose))

lemma not_ends_plain (t : T) : ¬ Ends Mark.plain t := by
  rintro (⟨t, ht⟩ | ht | ht) <;> cases ht

def Released (m : Nat → Mark T) (k i : Nat) : Prop :=
  ∀ b t, Within m b t i → ClosedBefore m b t k

lemma released_succ_iff (hi : i < k) : Released m (k + 1) i ↔
    Released m k i ∨ ∃ b t, Open m b t k ∧ b ≤ i ∧ m k = .closing t := by
  constructor
  · intro h
    by_cases hnow : ∃ b t, Within m b t i ∧ Open m b t k ∧ m k = .closing t
    · obtain ⟨b, t, hin, hopen, hclose⟩ := hnow
      exact .inr ⟨b, t, hopen, hin.le, hclose⟩
    · refine .inl fun b t hin => (closedBefore_succ_iff.mp (h b t hin)).resolve_right ?_
      exact fun hclose => hnow ⟨b, t, hin, hclose⟩
  · rintro (h | ⟨b, t, hopen, hb, hclose⟩) b' t' hin
    · exact closedBefore_succ_iff.mpr (.inl (h b' t' hin))
    · obtain ⟨rfl, rfl⟩ := (hopen.within hb hi).unique hin
      exact closedBefore_succ_iff.mpr (.inr ⟨hopen, hclose⟩)

lemma released_self_iff : Released m (k + 1) k ↔
    (∀ t, m k ≠ .opening t) ∧ ∀ b t, Open m b t k → m k = .closing t := by
  constructor
  · intro h
    refine ⟨fun t hops => ?_, fun b t hopen => ?_⟩
    · obtain ⟨c, hc, hopen, -⟩ := h k t (.inl ⟨rfl, hops⟩)
      have hlt := hopen.lt
      omega
    · by_cases hops : ∃ t', m k = .opening t'
      · obtain ⟨t', hops⟩ := hops
        obtain ⟨c, hc, hopen', -⟩ := h k t' (.inl ⟨rfl, hops⟩)
        have hlt := hopen'.lt
        omega
      · have hcl := h b t (.inr ⟨hopen, fun t' ht => hops ⟨t', ht⟩⟩)
        rcases closedBefore_succ_iff.mp hcl with hcl | ⟨-, hclose⟩
        · exact absurd hopen hcl.not_open
        · exact hclose
  · rintro ⟨hpl, hclose⟩ b t (⟨rfl, hops⟩ | ⟨hopen, -⟩)
    · exact absurd hops (hpl t)
    · exact closedBefore_succ_iff.mpr (.inr ⟨hopen, hclose b t hopen⟩)

structure Delivery (T : Type*) where
  (given held : List Nat)
  active : Option T

open Delivery

def Delivery.read [DecidableEq T] (m : Nat → Mark T) (keep : Nat → Bool) (k : Nat)
    (s : Delivery T) : Delivery T :=
  if keep k then
    match s.active, m k with
    | _, .opening t => { s with held := [k], active := some t }
    | none, _ => { s with given := s.given ++ [k] }
    | some t, mark =>
      if mark = .closing t then ⟨s.given ++ (s.held ++ [k]), [], none⟩
      else if mark = .dropping t then ⟨s.given, [], none⟩
      else { s with held := s.held ++ [k] }
  else s

variable {keep : Nat → Bool}

section
variable [DecidableEq T] (s : Delivery T)

lemma Delivery.read_skip (hk : keep k = false) : s.read m keep k = s := by
  simp [read, hk]

variable (hk : keep k = true)

include hk

lemma Delivery.read_opening (hm : m k = .opening t) : s.read m keep k = ⟨s.given, [k], some t⟩ := by
  simp [read, hk, hm]

lemma Delivery.read_idle (ha : s.active = none) (hm : ∀ t, m k ≠ .opening t) :
    s.read m keep k = ⟨s.given ++ [k], s.held, none⟩ := by
  cases hmark : m k with
  | opening t => exact absurd hmark (hm t)
  | _ => simp [read, hk, ha, hmark]

lemma Delivery.read_closing (ha : s.active = some t) (hm : m k = .closing t) :
    s.read m keep k = ⟨s.given ++ (s.held ++ [k]), [], none⟩ := by
  simp [read, hk, ha, hm]

lemma Delivery.read_dropping (ha : s.active = some t) (hm : m k = .dropping t) :
    s.read m keep k = ⟨s.given, [], none⟩ := by
  simp [read, hk, ha, hm]

lemma Delivery.read_member (ha : s.active = some t) (hm : ¬ Ends (m k) t) :
    s.read m keep k = ⟨s.given, s.held ++ [k], some t⟩ := by
  cases hmark : m k with
  | opening t' => exact absurd (.inl ⟨t', hmark⟩) hm
  | _ =>
    simp only [Ends] at hm
    simp_all [read]
end

structure Delivery.Sound (m : Nat → Mark T) (keep : Nat → Bool) (k : Nat) (s : Delivery T) :
    Prop where
  ordered : (s.given ++ s.held).Sublist (List.range k)
  mem_given : ∀ i, i ∈ s.given ↔ i < k ∧ keep i = true ∧ Released m k i
  mem_held : ∀ i, i ∈ s.held ↔ i < k ∧ keep i = true ∧ ∃ b t, Open m b t k ∧ b ≤ i
  active : ∀ t, s.active = some t ↔ ∃ b, Open m b t k

namespace Delivery.Sound
variable {s : Delivery T}

lemma start : Sound m keep 0 ⟨[], [], none⟩ where
  ordered := List.Sublist.refl _
  mem_given := by simp
  mem_held := by simp
  active t := by
    refine iff_of_false (by simp) ?_
    rintro ⟨b, hopen⟩
    exact absurd hopen.lt (Nat.not_lt_zero b)

lemma given_succ_iff (h : s.Sound m keep k) : (i < k + 1 ∧ keep i = true ∧ Released m (k + 1) i) ↔
      i ∈ s.given ∨ (i ∈ s.held ∧ ∃ t, s.active = some t ∧ m k = .closing t) ∨
        i = k ∧ keep k = true ∧ (∀ t, m k ≠ .opening t) ∧
          ∀ t, s.active = some t → m k = .closing t := by
  rcases Nat.lt_or_ge i k with hi | hi
  · have hne : i ≠ k := Nat.ne_of_lt hi
    rw [released_succ_iff hi, h.mem_given, h.mem_held]
    simp only [h.active]
    constructor
    · rintro ⟨-, hkeep, hreleased | ⟨b, t, hopen, hb, hclose⟩⟩
      · exact .inl ⟨hi, hkeep, hreleased⟩
      · exact .inr (.inl ⟨⟨hi, hkeep, b, t, hopen, hb⟩, t, ⟨b, hopen⟩, hclose⟩)
    · rintro (⟨-, hkeep, hreleased⟩ | ⟨⟨-, hkeep, b, t, hopen, hb⟩, t', ⟨b', hopen'⟩, hclose⟩ |
        ⟨rfl, -⟩)
      · exact ⟨by omega, hkeep, .inl hreleased⟩
      · obtain ⟨rfl, rfl⟩ := hopen.unique hopen'
        exact ⟨by omega, hkeep, .inr ⟨b, t, hopen, hb, hclose⟩⟩
      · exact absurd rfl hne
  · have hold : i ∉ s.given ∧ i ∉ s.held := by
      rw [h.mem_given, h.mem_held]
      exact ⟨fun hlt => by omega, fun hlt => by omega⟩
    simp only [hold, false_and, false_or, h.active]
    constructor
    · rintro ⟨hlt, hkeep, hreleased⟩
      obtain rfl : i = k := by omega
      obtain ⟨hpl, hclose⟩ := released_self_iff.mp hreleased
      exact ⟨rfl, hkeep, hpl, fun t ⟨b, hopen⟩ => hclose b t hopen⟩
    · rintro ⟨rfl, hkeep, hpl, hclose⟩
      exact ⟨by omega, hkeep, released_self_iff.mpr ⟨hpl, fun b t hopen => hclose t ⟨b, hopen⟩⟩⟩

lemma active_succ_iff (h : s.Sound m keep k) :
    (∃ b, Open m b t (k + 1)) ↔ m k = .opening t ∨ s.active = some t ∧ ¬ Ends (m k) t := by
  rw [h.active]
  constructor
  · rintro ⟨b, hopen⟩
    rcases open_succ_iff.mp hopen with ⟨rfl, hops⟩ | ⟨hopen, hends⟩
    · exact .inl hops
    · exact .inr ⟨⟨b, hopen⟩, hends⟩
  · rintro (hops | ⟨⟨b, hopen⟩, hends⟩)
    · exact ⟨k, open_succ_iff.mpr (.inl ⟨rfl, hops⟩)⟩
    · exact ⟨b, open_succ_iff.mpr (.inr ⟨hopen, hends⟩)⟩

lemma held_succ_iff (h : s.Sound m keep k) :
    (i < k + 1 ∧ keep i = true ∧ ∃ b t, Open m b t (k + 1) ∧ b ≤ i) ↔
      (i ∈ s.held ∧ ∃ t, s.active = some t ∧ ¬ Ends (m k) t) ∨ i = k ∧ keep k = true ∧
          ((∃ t, m k = .opening t) ∨ ∃ t, s.active = some t ∧ ¬ Ends (m k) t) := by
  rw [h.mem_held]
  simp only [h.active, open_succ_iff]
  constructor
  · rintro ⟨hlt, hkeep, b, t, ⟨rfl, hops⟩ | ⟨hopen, hends⟩, hb⟩
    · obtain rfl : i = b := by omega
      exact .inr ⟨rfl, hkeep, .inl ⟨t, hops⟩⟩
    · rcases Nat.lt_succ_iff_lt_or_eq.mp hlt with hi | rfl
      · exact .inl ⟨⟨hi, hkeep, b, t, hopen, hb⟩, t, ⟨b, hopen⟩, hends⟩
      · exact .inr ⟨rfl, hkeep, .inr ⟨t, ⟨b, hopen⟩, hends⟩⟩
  · rintro (⟨⟨hi, hkeep, b, t, hopen, hb⟩, t', ⟨b', hopen'⟩, hends⟩ |
      ⟨rfl, hkeep, ⟨t, hops⟩ | ⟨t, ⟨b, hopen⟩, hends⟩⟩)
    · obtain ⟨rfl, rfl⟩ := hopen.unique hopen'
      exact ⟨by omega, hkeep, b, t, .inr ⟨hopen, hends⟩, hb⟩
    · exact ⟨by omega, hkeep, i, t, .inl ⟨rfl, hops⟩, Nat.le_refl i⟩
    · exact ⟨by omega, hkeep, b, t, .inr ⟨hopen, hends⟩, Nat.le_of_lt hopen.lt⟩

lemma held_of_idle (h : s.Sound m keep k) (hidle : s.active = none) : s.held = [] := by
  refine eq_nil_iff_forall_not_mem.mpr fun i hi => ?_
  obtain ⟨-, -, b, t, hopen, -⟩ := (h.mem_held i).mp hi
  rw [(h.active t).mpr ⟨b, hopen⟩] at hidle
  cases hidle

lemma next (h : s.Sound m keep k) {s' : Delivery T}
    (hordered : (s'.given ++ s'.held).Sublist (List.range k ++ [k])) (hgiven : ∀ i, i ∈ s'.given ↔
      i ∈ s.given ∨ (i ∈ s.held ∧ ∃ t, s.active = some t ∧ m k = .closing t) ∨
        i = k ∧ keep k = true ∧ (∀ t, m k ≠ .opening t) ∧ ∀ t, s.active = some t → m k = .closing t)
    (hheld : ∀ i, i ∈ s'.held ↔ (i ∈ s.held ∧ ∃ t, s.active = some t ∧ ¬ Ends (m k) t) ∨
      i = k ∧ keep k = true ∧ ((∃ t, m k = .opening t) ∨ ∃ t, s.active = some t ∧ ¬ Ends (m k) t))
    (hact : ∀ t, s'.active = some t ↔ m k = .opening t ∨ s.active = some t ∧ ¬ Ends (m k) t) :
    s'.Sound m keep (k + 1) :=
  ⟨range_succ ▸ hordered, fun i => (hgiven i).trans h.given_succ_iff.symm,
    fun i => (hheld i).trans h.held_succ_iff.symm, fun t => (hact t).trans h.active_succ_iff.symm⟩

lemma read [DecidableEq T] (h : s.Sound m keep k) (hpl : keep k = false → m k = .plain) :
    (s.read m keep k).Sound m keep (k + 1) := by
  have hbelow : s.given.Sublist (List.range k) := (sublist_append_left _ _).trans h.ordered
  have hnext : (s.given ++ (s.held ++ [k])).Sublist (List.range k ++ [k]) := by
    rw [← append_assoc]
    exact h.ordered.append (List.Sublist.refl _)
  unfold Delivery.read
  cases hkeep : keep k with
  | false =>
    refine h.next (h.ordered.trans (sublist_append_left _ _)) (fun i => ?_) (fun i => ?_)
      fun t => ?_
    · simp [hkeep, hpl hkeep]
    · have hbusy : i ∈ s.held → ∃ t, s.active = some t := by
        intro hi
        obtain ⟨-, -, b, t, hopen, -⟩ := (h.mem_held i).mp hi
        exact ⟨t, (h.active t).mpr ⟨b, hopen⟩⟩
      simpa [hkeep, hpl hkeep, not_ends_plain] using hbusy
    · simp [hpl hkeep, not_ends_plain]
  | true =>
    cases hact : s.active with
    | none =>
      have hnone := h.held_of_idle hact
      cases hmark : m k with
      | opening t =>
        refine h.next (hbelow.append (List.Sublist.refl _)) ?_ ?_ ?_ <;> simp [hkeep, hmark, hact]
      | _ =>
        refine h.next ?_ ?_ ?_ ?_
        · simpa [hnone] using hbelow
        all_goals simp [hkeep, hmark, hact, hnone]
    | some u =>
      cases hmark : m k with
      | opening t =>
        refine h.next (hbelow.append (List.Sublist.refl _)) ?_ ?_ ?_ <;>
          simp [hkeep, hmark, hact, Ends]
      | closing t =>
        by_cases ht : t = u
        all_goals
          refine h.next ?_ ?_ ?_ ?_
          · simpa [ht] using hnext
          all_goals simp [hkeep, hmark, hact, ht, Ends]
      | dropping t =>
        by_cases ht : t = u
        · refine h.next ?_ ?_ ?_ ?_
          · simpa [ht] using hbelow.trans (sublist_append_left _ [k])
          all_goals simp [hkeep, hmark, hact, ht, Ends]
        · refine h.next ?_ ?_ ?_ ?_
          · simpa [ht] using hnext
          all_goals simp [hkeep, hmark, hact, ht, Ends]
      | plain =>
        refine h.next ?_ ?_ ?_ ?_
        · simpa using hnext
        all_goals simp [hkeep, hmark, hact, Ends]

end Delivery.Sound

def hide (n : Nat) (m : Nat → Mark T) (i : Nat) : Mark T := if i < n then .plain else m i

variable {n : Nat}

lemma hide_of_lt (h : i < n) : hide n m i = .plain := if_pos h

lemma hide_of_le (h : n ≤ i) : hide n m i = m i := if_neg (Nat.not_lt.mpr h)

lemma le_of_hide_opening (h : hide n m b = .opening t) : n ≤ b := by
  by_contra hlt
  rw [hide_of_lt (Nat.lt_of_not_le hlt)] at h
  cases h

lemma open_hide_iff : Open (hide n m) b t k ↔ n ≤ b ∧ Open m b t k := by
  constructor
  · intro h
    have hb := le_of_hide_opening h.opens
    refine ⟨hb, ?_, h.lt, ?_⟩
    · have hops := h.opens
      rwa [hide_of_le hb] at hops
    · intro j hj hjk
      have hrun := h.running j hj hjk
      rwa [hide_of_le (by omega)] at hrun
  · rintro ⟨hb, h⟩
    refine ⟨?_, h.lt, ?_⟩
    · rw [hide_of_le hb]
      exact h.opens
    · intro j hj hjk
      rw [hide_of_le (by omega)]
      exact h.running j hj hjk

lemma within_hide_iff (hi : n ≤ i) : Within (hide n m) b t i ↔ n ≤ b ∧ Within m b t i := by
  simp only [Within, open_hide_iff, hide_of_le hi]
  constructor
  · rintro (⟨rfl, hops⟩ | ⟨⟨hb, hopen⟩, hpl⟩)
    · rw [hide_of_le hi] at hops
      exact ⟨hi, .inl ⟨rfl, hops⟩⟩
    · exact ⟨hb, .inr ⟨hopen, hpl⟩⟩
  · rintro ⟨hb, ⟨rfl, hops⟩ | ⟨hopen, hpl⟩⟩
    · rw [hide_of_le hb]
      exact .inl ⟨rfl, hops⟩
    · exact .inr ⟨⟨hb, hopen⟩, hpl⟩

lemma closedBefore_hide_iff : ClosedBefore (hide n m) b t k ↔ n ≤ b ∧ ClosedBefore m b t k := by
  constructor
  · rintro ⟨c, hc, hopen, hclose⟩
    obtain ⟨hb, hopen⟩ := open_hide_iff.mp hopen
    have hlt := hopen.lt
    rw [hide_of_le (by omega)] at hclose
    exact ⟨hb, c, hc, hopen, hclose⟩
  · rintro ⟨hb, c, hc, hopen, hclose⟩
    have hlt := hopen.lt
    exact ⟨c, hc, open_hide_iff.mpr ⟨hb, hopen⟩, by rw [hide_of_le (by omega)]; exact hclose⟩

end Bracketing
