import BrainDb.Base.Run
import Mathlib.Data.List.Infix

namespace RecordTime
open List

structure Period where
  opened : Nat
  closed : Option Nat
  stands : Bool

def Period.Believed (p : Period) (t : Nat) : Prop :=
  p.opened ≤ t ∧ (p.closed = none → p.stands = true) ∧ ∀ v ∈ p.closed, t < v

def Believed (o : Option Period) (t : Nat) : Prop := ∃ p ∈ o, p.Believed t

def Stands (o : Option Period) : Prop := ∃ p ∈ o, p.stands = true

def Settled (T : Nat) (o : Option Period) : Prop := ∀ t, T ≤ t + 1 → (Believed o t ↔ Stands o)

def Carries (T : Nat) (o o' : Option Period) : Prop :=
  (∀ t, t < T → (Believed o' t ↔ Believed o t)) ∧ ∀ t, T ≤ t → (Believed o' t ↔ Stands o')

variable {T : Nat} {p : Period} {o o' : Option Period} (t : Nat)

@[simp] lemma believed_none : ¬ Believed none t := by
  rintro ⟨p, hp, _⟩
  cases hp

@[simp] lemma believed_some : Believed (some p) t ↔ p.Believed t := by
  simp [Believed]

@[simp] lemma stands_none : ¬ Stands none := by
  rintro ⟨p, hp, _⟩
  cases hp

@[simp] lemma stands_some : Stands (some p) ↔ p.stands = true := by
  simp [Stands]

lemma Settled.carries (h : Settled T o) : Carries T o o :=
  ⟨fun _ _ => Iff.rfl, fun t ht => h t (by omega)⟩

lemma Settled.of_stands (h : Settled T (some p)) (hT : 0 < T) (hp : p.stands = true) :
    p.opened < T ∧ p.closed = none := by
  have hbel : ∀ t, T ≤ t + 1 → p.Believed t := by
    intro t ht
    exact (believed_some t).mp ((h t ht).mpr (stands_some.mpr hp))
  have hopen := (hbel (T - 1) (by omega)).1
  refine ⟨by omega, ?_⟩
  cases hcl : p.closed with
  | none => rfl
  | some v =>
    have hlt := (hbel (max v T) (by omega)).2.2 v hcl
    omega

lemma Settled.of_not_stands (h : Settled T (some p)) (hp : p.stands = false) {v : Nat}
    (hv : p.closed = some v) : v < T ∨ v ≤ p.opened := by
  by_contra hlate
  have hbel : p.Believed (max (T - 1) p.opened) := by
    refine ⟨by omega, fun hnone => ?_, fun v' hv' => ?_⟩
    · rw [hv] at hnone
      cases hnone
    · rw [hv] at hv'
      cases hv'
      omega
  have hstd := (h _ (by omega)).mp ((believed_some _).mpr hbel)
  rw [stands_some, hp] at hstd
  cases hstd

lemma Period.believed_opened {v : Nat} (hv : p.closed = some v) (hlt : p.opened < v) :
    p.Believed p.opened := by
  refine ⟨le_refl _, fun hnone => ?_, fun v' hv' => ?_⟩
  · rw [hv] at hnone
    cases hnone
  · rw [hv] at hv'
    cases hv'
    exact hlt

lemma Period.never_believed (hp : p.stands = false) (h : ∀ v ∈ p.closed, v ≤ p.opened)
    (t : Nat) : ¬ p.Believed t := by
  rintro ⟨hle, hfallen, hlt⟩
  cases hcl : p.closed with
  | none =>
    have hstd := hfallen hcl
    rw [hp] at hstd
    cases hstd
  | some v =>
    have hv := h v hcl
    have ht := hlt v hcl
    omega

def Period.Opens (T : Nat) (p : Period) : Prop :=
  if p.stands then p.opened = T ∧ p.closed = none else ∀ v ∈ p.closed, v ≤ p.opened

lemma carries_opened : Carries T none (some p) ↔ p.Opens T := by
  unfold Period.Opens
  cases hstd : p.stands with
  | true =>
    constructor
    · rintro ⟨hbef, haft⟩
      have hbel : ∀ t, T ≤ t → p.Believed t := by
        intro t ht
        exact (believed_some t).mp ((haft t ht).mpr (stands_some.mpr hstd))
      have hopen := (hbel T (le_refl T)).1
      have hcl : p.closed = none := by
        cases hcl : p.closed with
        | none => rfl
        | some v =>
          have hlt := (hbel (max v T) (by omega)).2.2 v hcl
          omega
      refine ⟨?_, hcl⟩
      by_contra hne
      have hlt : p.opened < T := by omega
      have hself : p.Believed p.opened := by
        refine ⟨le_refl _, fun _ => hstd, fun v hv => ?_⟩
        rw [hcl] at hv
        cases hv
      exact believed_none _ ((hbef p.opened hlt).mp ((believed_some _).mpr hself))
    · rintro ⟨hopen, hcl⟩
      refine ⟨fun t ht => ?_, fun t ht => ?_⟩
      · refine iff_of_false ?_ (believed_none t)
        rw [believed_some]
        rintro ⟨hle, _⟩
        omega
      · refine iff_of_true ?_ (stands_some.mpr hstd)
        refine (believed_some t).mpr ⟨by omega, fun _ => hstd, fun v hv => ?_⟩
        rw [hcl] at hv
        cases hv
  | false =>
    constructor
    · rintro ⟨hbef, haft⟩ v hv
      by_contra hlate
      have hself := (believed_some _).mpr (p.believed_opened hv (by omega))
      by_cases hlt : p.opened < T
      · exact believed_none _ ((hbef p.opened hlt).mp hself)
      · have hstands' := (haft p.opened (by omega)).mp hself
        rw [stands_some, hstd] at hstands'
        cases hstands'
    · intro hcl
      have hnot : ∀ t, ¬ Believed (some p) t := fun t h =>
        p.never_believed hstd hcl t ((believed_some t).mp h)
      refine ⟨fun t _ => iff_of_false (hnot t) (believed_none t), fun t _ => ?_⟩
      refine iff_of_false (hnot t) ?_
      rw [stands_some, hstd]
      exact Bool.false_ne_true

def Period.close (T : Nat) (p : Period) : Period := { p with closed := some T, stands := false }

lemma believed_close : (p.close T).Believed t ↔ p.opened ≤ t ∧ t < T := by
  simp [Period.Believed, Period.close]

lemma carries_closed (h : Settled T (some p)) (hT : 0 < T) :
    Carries T (some p) (some (p.close T)) ↔ (p.stands = true ∨ T ≤ p.opened) := by
  have haft : ∀ t, T ≤ t → (Believed (some (p.close T)) t ↔ Stands (some (p.close T))) := by
    intro t ht
    refine iff_of_false ?_ ?_
    · rw [believed_some, believed_close]
      omega
    · rw [stands_some]
      exact Bool.false_ne_true
  have hiff : Carries T (some p) (some (p.close T)) ↔
      ∀ t, t < T → (p.opened ≤ t ↔ p.Believed t) := by
    simp only [Carries, believed_some, believed_close]
    refine ⟨fun hc t ht => ?_, fun hc => ⟨fun t ht => ?_, ?_⟩⟩
    · rw [← hc.1 t ht]
      omega
    · rw [← hc t ht]
      omega
    · simpa only [believed_some, believed_close] using haft
  rw [hiff]
  cases hstd : p.stands with
  | true =>
    obtain ⟨_, hcl⟩ := h.of_stands hT hstd
    refine iff_of_true (fun t _ => ?_) (.inl rfl)
    simp [Period.Believed, hcl, hstd]
  | false =>
    simp only [Bool.false_eq_true, false_or]
    constructor
    · intro hc
      by_contra hlate
      cases hcl : p.closed with
      | none =>
        have hbel := (hc p.opened (by omega)).mp (le_refl _)
        have hstands' := hbel.2.1 hcl
        rw [hstd] at hstands'
        cases hstands'
      | some v =>
        have hv := h.of_not_stands hstd hcl
        have hbel := (hc (max v p.opened) (by omega)).mp (by omega)
        have hlt := hbel.2.2 v hcl
        omega
    · intro hlate t ht
      refine iff_of_false (by omega) ?_
      rintro ⟨hle, _⟩
      omega

def Period.reopen (stands : Bool) (p : Period) : Period := { p with closed := none, stands }

lemma carries_reopened (h : Settled T (some p)) (hp : p.stands = false)
    (b : Bool) : Carries T (some p) (some (p.reopen b)) ↔
      if b then p.opened = T else ∀ v ∈ p.closed, v ≤ p.opened := by
  cases b with
  | true =>
    have hbel : ∀ t, (p.reopen true).Believed t ↔ p.opened ≤ t := by
      intro t
      simp [Period.Believed, Period.reopen]
    have hstd : (p.reopen true).stands = true := rfl
    simp only [Carries, believed_some, hbel, stands_some, hstd, iff_true, if_true]
    constructor
    · rintro ⟨hbef, haft⟩
      have hopen := haft T (le_refl T)
      by_contra hne
      cases hcl : p.closed with
      | none =>
        have hb := (hbef p.opened (by omega)).mp (le_refl _)
        have hstd := hb.2.1 hcl
        rw [hp] at hstd
        cases hstd
      | some v =>
        have hv := h.of_not_stands hp hcl
        have hb := (hbef (max v p.opened) (by omega)).mp (by omega)
        have hlt := hb.2.2 v hcl
        omega
    · intro hopen
      refine ⟨fun t ht => iff_of_false (by omega) ?_, fun t ht => by omega⟩
      rintro ⟨hle, _⟩
      omega
  | false =>
    have hnever : ∀ t, ¬ (p.reopen false).Believed t := by
      rintro t ⟨_, hfallen, _⟩
      cases hfallen rfl
    have hstd : (p.reopen false).stands = false := rfl
    simp only [Carries, believed_some, hnever, stands_some, hstd, false_iff,
      Bool.false_eq_true, implies_true, and_true, if_false]
    constructor
    · intro hbef v hv
      by_contra hlate
      have hold := h.of_not_stands hp hv
      exact hbef p.opened (by omega) (p.believed_opened hv (by omega))
    · intro hcl t _
      exact p.never_believed hp hcl t

section
variable {S O K : Type} (step : S → O → S) (time : O → Nat) (view : S → K → Option Period) (s : S)

def stateAt (ops : List O) (t : Nat) : S := (ops.filter fun o => time o ≤ t).foldl step s

def Faithful (ops : List O) : Prop :=
  ∀ k t, Believed (view (ops.foldl step s) k) t ↔ Stands (view (stateAt step time s ops t) k)

variable {step time view s} {past ops : List O} {o : O}

lemma stateAt_of_le {t : Nat} (h : ∀ p ∈ past, time p ≤ t) :
    stateAt step time s past t = past.foldl step s := by
  unfold stateAt
  rw [filter_eq_self.mpr]
  intro p hp
  exact decide_eq_true (h p hp)

lemma stateAt_concat_of_lt {t : Nat} (h : t < time o) :
    stateAt step time s (past ++ [o]) t = stateAt step time s past t := by
  have hnot : ¬ time o ≤ t := by omega
  simp [stateAt, filter_append, hnot]

lemma Faithful.settled (h : Faithful step time view s past) (hlt : ∀ p ∈ past, time p < T)
    (k : K) : Settled T (view (past.foldl step s) k) := by
  intro t ht
  rw [h k t, stateAt_of_le]
  intro p hp
  have := hlt p hp
  omega

lemma faithful_concat_iff (h : Faithful step time view s past) (hlt : ∀ p ∈ past, time p < time o) :
    Faithful step time view s (past ++ [o]) ↔
      ∀ k, Carries (time o) (view (past.foldl step s) k) (view (step (past.foldl step s) o) k) := by
  have hfoldl : (past ++ [o]).foldl step s = step (past.foldl step s) o := by simp
  have hlast : ∀ t, time o ≤ t → stateAt step time s (past ++ [o]) t =
      step (past.foldl step s) o := by
    intro t ht
    rw [stateAt_of_le, hfoldl]
    intro p hp
    rcases mem_append.mp hp with hp | hp
    · have := hlt p hp
      omega
    · rw [mem_singleton.mp hp]
      exact ht
  constructor
  · intro hnext k
    refine ⟨fun t ht => ?_, fun t ht => ?_⟩
    · rw [← hfoldl, hnext k t, stateAt_concat_of_lt ht, ← h k t]
    · rw [← hfoldl, hnext k t, hlast t ht, hfoldl]
  · intro hcarries k t
    rw [hfoldl]
    rcases Nat.lt_or_ge t (time o) with ht | ht
    · rw [(hcarries k).1 t ht, stateAt_concat_of_lt ht, h k t]
    · rw [(hcarries k).2 t ht, hlast t ht]

lemma faithful_iff {I : S → Prop} {Q : S → O → Prop} (hblank : ∀ k, view s k = none) (hI : I s)
    (htimes : ops.Pairwise fun a b => time a < time b) (hkeep : ∀ s o, I s → I (step s o))
    (hstep : ∀ s', ∀ o ∈ ops, I s' → (∀ k, Settled (time o) (view s' k)) →
      (∀ k, view s' k = none) ∨ 0 < time o →
      ((∀ k, Carries (time o) (view s' k) (view (step s' o) k)) ↔ Q s' o)) :
    (∀ past, past <+: ops → Faithful step time view s past) ↔ Run.EachStep step Q s ops := by
  induction ops using List.reverseRecOn with
  | nil =>
    refine iff_of_true (fun past hpast => ?_) trivial
    obtain rfl := prefix_nil.mp hpast
    intro k t
    simp [stateAt, hblank]
  | append_singleton ops o ih =>
    obtain ⟨hops, -, hlast⟩ := pairwise_append.mp htimes
    have hlt : ∀ p ∈ ops, time p < time o := fun p hp => hlast p hp o mem_cons_self
    have ih := ih hops fun s' p hp => hstep s' p (mem_append_left _ hp)
    have hfst : (∀ k, view (ops.foldl step s) k = none) ∨ 0 < time o := by
      cases ops with
      | nil => exact .inl hblank
      | cons p ops => exact .inr (Nat.zero_lt_of_lt (hlt p mem_cons_self))
    have hnext : Faithful step time view s ops → (Faithful step time view s (ops ++ [o]) ↔
        Q (ops.foldl step s) o) := by
      intro h
      rw [faithful_concat_iff h hlt]
      exact hstep _ o (by simp) (Run.invariant hkeep hI ops) (fun k => h.settled hlt k) hfst
    rw [Run.eachStep_concat, ← ih]
    constructor
    · intro h
      have hall : ∀ past, past <+: ops → Faithful step time view s past :=
        fun past hpast => h past (hpast.trans (prefix_append ops [o]))
      exact ⟨hall, (hnext (hall ops (prefix_refl ops))).mp (h _ (prefix_refl _))⟩
    · rintro ⟨hall, hQ⟩ past hpast
      rcases prefix_concat_iff.mp hpast with rfl | hpast
      · exact (hnext (hall ops (prefix_refl ops))).mpr hQ
      · exact hall past hpast
end
end RecordTime
