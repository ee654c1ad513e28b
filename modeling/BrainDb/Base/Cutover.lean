import Mathlib.Data.List.Basic
import Mathlib.Order.Nat

namespace Cutover
open Function
open List Nat Relation

/-- Where the reader stands: `rx` is its place in the broadcast and `base` the last number it had
when it connected; a scan goes on to `tail` at least and keeps the last number it gave in `high`. -/
inductive Phase where
  | off
  | waiting (rx base : Nat)
  | scanning (rx base cursor tail high : Nat)
  | live (rx base high : Nat)

/-- The log has the numbers up to `top`; those in `owed` are still to be broadcast, those in `sent`
are on their way, the first `hub` of them have arrived. -/
structure State where
  top : Nat
  wanted : Nat → Bool
  (owed sent : List Nat)
  (hub last : Nat)
  delivered : List Nat
  phase : Phase

inductive Step (s : State) : State → Prop
  | append (wanted owed : Bool) : Step s { s with
      top := s.top + 1
      wanted := Function.update s.wanted (s.top + 1) wanted
      owed := if owed then s.owed ++ [s.top + 1] else s.owed }
  | send {n : Nat} {rest : List Nat} : s.owed = n :: rest →
      Step s { s with owed := rest, sent := s.sent ++ [n] }
  | forward : s.hub < s.sent.length → Step s { s with hub := s.hub + 1 }
  | connect : (∀ n ∈ s.sent.drop s.hub ++ s.owed, s.last < n) →
      Step s { s with phase := .waiting s.hub s.last }
  | openLog {rx base : Nat} : s.phase = .waiting rx base →
      Step s { s with phase := .scanning rx base (base + 1) (s.top + 1) 0 }
  | scan {rx base cursor tail high : Nat} : s.phase = .scanning rx base cursor tail high →
      cursor ≤ s.top → s.wanted cursor = true →
      Step s { s with
        last := cursor
        delivered := s.delivered ++ [cursor]
        phase := .scanning rx base (cursor + 1) tail cursor }
  | pass {rx base cursor tail high : Nat} : s.phase = .scanning rx base cursor tail high →
      cursor ≤ s.top → s.wanted cursor = false →
      Step s { s with phase := .scanning rx base (cursor + 1) tail high }
  | caughtUp {rx base cursor tail high : Nat} : s.phase = .scanning rx base cursor tail high →
      tail ≤ cursor → Step s { s with phase := .live rx base high }
  | receive {rx base high n : Nat} : s.phase = .live rx base high → rx < s.hub →
      s.sent[rx]? = some n → high < n → s.wanted n = true →
      Step s { s with
        last := n
        delivered := s.delivered ++ [n]
        phase := .live (rx + 1) base high }
  | ignore {rx base high n : Nat} : s.phase = .live rx base high → rx < s.hub →
      s.sent[rx]? = some n → n ≤ high ∨ s.wanted n = false →
      Step s { s with phase := .live (rx + 1) base high }
  | drop : Step s { s with phase := .off }

abbrev Steps : State → State → Prop := ReflTransGen Step

def PhaseSound (s : State) : Phase → Prop
  | .off => True
  | .waiting rx base => rx ≤ s.hub ∧ (∀ n ∈ s.sent.drop rx ++ s.owed, base < n) ∧ s.last = base
  | .scanning rx base cursor tail high => rx ≤ s.hub ∧
      (∀ n ∈ s.sent.drop rx ++ s.owed, base < n) ∧ base ≤ s.last ∧ s.last < cursor ∧
      cursor ≤ s.top + 1 ∧ (∀ n, s.wanted n = true → base < n → n < cursor → n ∈ s.delivered) ∧
      (s.last = high ∨ s.last = base ∧ high = 0) ∧ ∀ n ∈ s.sent.take rx, n < tail
  | .live rx base high => rx ≤ s.hub ∧ (∀ n ∈ s.sent.drop rx ++ s.owed, base < n) ∧
      base ≤ s.last ∧ (∀ n ∈ s.sent.take rx, s.wanted n = true → n ∈ s.delivered) ∧
      (∀ n, s.wanted n = true → base < n → n ≤ high → n ∈ s.delivered) ∧
      (∀ n ∈ s.sent.drop rx ++ s.owed, high < n → s.last < n) ∧ high ≤ s.top

structure Sound (s : State) : Prop where
  sorted : (s.sent ++ s.owed).Pairwise (· < ·)
  below : ∀ n ∈ s.sent ++ s.owed, n ≤ s.top
  last_le : s.last ≤ s.top
  rising : s.delivered.Pairwise (· < ·)
  delivered_le : ∀ n ∈ s.delivered, n ≤ s.last
  hub_le : s.hub ≤ s.sent.length
  settled : ∀ n ∈ s.sent ++ s.owed, s.wanted n = true → n ≤ s.last → n ∈ s.delivered
  phase : PhaseSound s s.phase

variable {s s' : State} {n rx base high : Nat}

lemma pairwise_concat {l : List Nat} (h : l.Pairwise (· < ·)) (hn : ∀ m ∈ l, m < n) :
    (l ++ [n]).Pairwise (· < ·) := by
  refine pairwise_append.mpr ⟨h, pairwise_singleton .., ?_⟩
  intro m hm k hk
  rw [mem_singleton.mp hk]
  exact hn m hm

lemma steps_append (k : Nat) {f : Nat → Bool} {new : List Nat}
    (hf : ∀ n, n ≤ s.top ∨ s.top + k < n → f n = s.wanted n) (hnew : new.Pairwise (· < ·))
    (hmem : ∀ n ∈ new, s.top < n ∧ n ≤ s.top + k) : Steps s
      { s with top := s.top + k, wanted := f, owed := s.owed ++ new } := by
  induction k generalizing f new with
  | zero =>
    have hempty : new = [] := by
      refine eq_nil_iff_forall_not_mem.mpr ?_
      intro n hn
      have hbds := hmem n hn
      omega
    have hsame : f = s.wanted := by
      funext n
      exact hf n (by omega)
    rw [hempty, hsame, append_nil]
    exact ReflTransGen.refl
  | succ k ih =>
    -- the last number, if it is to be broadcast, ends the list
    obtain ⟨before, owed, hbef, hcut⟩ : ∃ (before : List Nat) (owed : Bool),
        (∀ n ∈ before, n ≤ s.top + k) ∧
          new = if owed then before ++ [s.top + k + 1] else before := by
      rcases eq_nil_or_concat' new with rfl | ⟨before, n, rfl⟩
      · exact ⟨[], false, by simp, rfl⟩
      · have hn := hmem n (mem_append_right _ mem_cons_self)
        have hlt : ∀ m ∈ before, m < n := fun m hm =>
          (pairwise_append.mp hnew).2.2 m hm n mem_cons_self
        by_cases hlast : n = s.top + k + 1
        · refine ⟨before, true, fun m hm => ?_, by rw [hlast]; rfl⟩
          have hm := hlt m hm
          omega
        · refine ⟨before ++ [n], false, fun m hm => ?_, rfl⟩
          rcases mem_append.mp hm with hm | hm
          · have hm := hlt m hm
            omega
          · rw [mem_singleton.mp hm]
            omega
    have hsub : before.Sublist new := by
      rw [hcut]
      split
      · exact sublist_append_left ..
      · exact List.Sublist.refl _
    have hrun : Steps s { s with
        top := s.top + k
        wanted := Function.update f (s.top + k + 1) (s.wanted (s.top + k + 1))
        owed := s.owed ++ before } := by
      refine ih ?_ (hnew.sublist hsub) fun n hn => ⟨(hmem n (hsub.subset hn)).1, hbef n hn⟩
      intro n hn
      by_cases hk : n = s.top + k + 1
      · rw [hk, update_self]
      · rw [update_of_ne hk]
        exact hf n (by omega)
    have hstep := hrun.tail (Step.append (f (s.top + k + 1)) owed)
    cases owed <;> simpa [Steps, hcut, Nat.add_assoc] using hstep

lemma steps_send {new rest : List Nat} (howed : s.owed = new ++ rest) :
    Steps s { s with owed := rest, sent := s.sent ++ new } := by
  induction new generalizing s with
  | nil =>
    have hself : { s with owed := rest, sent := s.sent ++ [] } = s := by
      rw [append_nil, ← nil_append rest, ← howed]
    exact hself.symm ▸ ReflTransGen.refl
  | cons n new ih =>
    have hrun := ih (s := { s with owed := new ++ rest, sent := s.sent ++ [n] }) rfl
    rw [append_assoc, singleton_append] at hrun
    exact (ReflTransGen.single (Step.send howed)).trans hrun

lemma Sound.append (h : Sound s) (wanted owed : Bool) : Sound { s with
    top := s.top + 1
    wanted := Function.update s.wanted (s.top + 1) wanted
    owed := if owed then s.owed ++ [s.top + 1] else s.owed } := by
  have hlast := h.last_le
  -- the numbers that count so far, and at most the new one
  have hmem : ∀ {l : List Nat} {n : Nat},
      n ∈ l ++ (if owed then s.owed ++ [s.top + 1] else s.owed) →
        n ∈ l ++ s.owed ∨ n = s.top + 1 := by
    intro l n hn
    cases owed with
    | true =>
      rw [if_pos rfl, ← append_assoc, mem_append, mem_singleton] at hn
      exact hn
    | false => exact .inl hn
  have hold : ∀ {n : Nat}, n ≤ s.top →
      Function.update s.wanted (s.top + 1) wanted n = true → s.wanted n = true := by
    intro n hn hw
    rwa [update_of_ne (by omega)] at hw
  refine ⟨?_, ?_, le_succ_of_le hlast, h.rising, h.delivered_le, h.hub_le, ?_, ?_⟩
  · cases owed with
    | true =>
      rw [if_pos rfl, ← append_assoc]
      exact pairwise_concat h.sorted fun m hm => lt_succ_of_le (h.below m hm)
    | false => exact h.sorted
  · intro n hn
    rcases hmem hn with hn | rfl
    · exact le_succ_of_le (h.below n hn)
    · exact le_refl _
  · intro n hn hw hle
    have hle : n ≤ s.last := hle
    rcases hmem hn with hn | rfl
    · have hw := hold (h.below n hn) hw
      exact h.settled n hn hw hle
    · omega
  · have hph := h.phase
    -- a new number lies behind everything a phase speaks of
    cases hp : s.phase with
    | off => trivial
    | waiting rx base =>
      rw [hp] at hph
      obtain ⟨hrx, hbase, heq⟩ := hph
      refine ⟨hrx, ?_, heq⟩
      intro n hn
      rcases hmem hn with hn | rfl
      · exact hbase n hn
      · omega
    | scanning rx base cursor tail high =>
      rw [hp] at hph
      obtain ⟨hrx, hbase, hle, hlt, htop, hread, hhigh, htail⟩ := hph
      refine ⟨hrx, ?_, hle, hlt, le_succ_of_le htop, ?_, hhigh, htail⟩
      · intro n hn
        rcases hmem hn with hn | rfl
        · exact hbase n hn
        · omega
      · intro n hw hb hc
        have hw := hold (by omega) hw
        exact hread n hw hb hc
    | live rx base high =>
      rw [hp] at hph
      obtain ⟨hrx, hbase, hle, htk, hread, hnew, hhigh⟩ := hph
      refine ⟨hrx, ?_, hle, ?_, ?_, ?_, le_succ_of_le hhigh⟩
      · intro n hn
        rcases hmem hn with hn | rfl
        · exact hbase n hn
        · omega
      · intro n hn hw
        have hw := hold (h.below n (mem_append_left _ (mem_of_mem_take hn))) hw
        exact htk n hn hw
      · intro n hw hb hc
        have hw := hold (by omega) hw
        exact hread n hw hb hc
      · intro n hn hlt
        rcases hmem hn with hn | rfl
        · exact hnew n hn hlt
        · exact lt_succ_of_le hlast

lemma Sound.send (h : Sound s) {rest : List Nat} (howed : s.owed = n :: rest) :
    Sound { s with owed := rest, sent := s.sent ++ [n] } := by
  have hsame : (s.sent ++ [n]) ++ rest = s.sent ++ s.owed := by
    rw [howed, append_assoc, singleton_append]
  have hdrop : ∀ {rx : Nat}, rx ≤ s.hub →
      (s.sent ++ [n]).drop rx ++ rest = s.sent.drop rx ++ s.owed := by
    intro rx hrx
    have hlen := h.hub_le
    rw [drop_append_of_le_length (by omega), howed, append_assoc, singleton_append]
  have htake : ∀ {rx : Nat}, rx ≤ s.hub → (s.sent ++ [n]).take rx = s.sent.take rx := by
    intro rx hrx
    have hlen := h.hub_le
    exact take_append_of_le_length (by omega)
  refine ⟨?_, ?_, h.last_le, h.rising, h.delivered_le, ?_, ?_, ?_⟩
  · rw [hsame]
    exact h.sorted
  · rw [hsame]
    exact h.below
  · have hlen := h.hub_le
    simp only [length_append, length_singleton]
    omega
  · rw [hsame]
    exact h.settled
  · have hph := h.phase
    cases hp : s.phase with
    | off => trivial
    | waiting rx base =>
      rw [hp] at hph
      simp only [PhaseSound, hdrop hph.1]
      exact hph
    | scanning rx base cursor tail high | live rx base high =>
      rw [hp] at hph
      simp only [PhaseSound, hdrop hph.1, htake hph.1]
      exact hph

lemma Sound.forward (h : Sound s) (hlt : s.hub < s.sent.length) :
    Sound { s with hub := s.hub + 1 } := by
  refine { h with hub_le := hlt, phase := ?_ }
  have hph := h.phase
  cases hp : s.phase with
  | off => trivial
  | _ =>
    rw [hp] at hph
    exact ⟨le_succ_of_le hph.1, hph.2⟩

variable {cursor tail : Nat}

lemma Sound.scan (h : Sound s) (hph : s.phase = .scanning rx base cursor tail high)
    (htop : cursor ≤ s.top) : Sound { s with
      last := cursor
      delivered := s.delivered ++ [cursor]
      phase := .scanning rx base (cursor + 1) tail cursor } := by
  have hsnd := h.phase
  rw [hph] at hsnd
  obtain ⟨hrx, hbase, hle, hlt, _, hread, _, htail⟩ := hsnd
  refine ⟨h.sorted, h.below, htop, ?_, ?_, h.hub_le, ?_, hrx, hbase, by show base ≤ cursor; omega,
    lt_succ_self cursor, succ_le_succ htop, ?_, .inl rfl, htail⟩
  · exact pairwise_concat h.rising fun m hm => (h.delivered_le m hm).trans_lt hlt
  · intro n hn
    rcases mem_append.mp hn with hn | hn
    · exact le_of_lt ((h.delivered_le n hn).trans_lt hlt)
    · exact le_of_eq (mem_singleton.mp hn)
  · intro n hn hw hnc
    rcases lt_or_ge s.last n with hgt | hge
    · rcases lt_or_ge n cursor with hless | hmore
      · exact mem_append_left _ (hread n hw (by omega) hless)
      · rw [le_antisymm hnc hmore]
        exact mem_append_right _ mem_cons_self
    · exact mem_append_left _ (h.settled n hn hw hge)
  · intro n hw hb hn
    rcases lt_or_ge n cursor with hless | hmore
    · exact mem_append_left _ (hread n hw hb hless)
    · rw [show n = cursor by omega]
      exact mem_append_right _ mem_cons_self

lemma Sound.pass (h : Sound s) (hph : s.phase = .scanning rx base cursor tail high)
    (htop : cursor ≤ s.top) (hwanted : s.wanted cursor = false) :
    Sound { s with phase := .scanning rx base (cursor + 1) tail high } := by
  have hsnd := h.phase
  rw [hph] at hsnd
  obtain ⟨hrx, hbase, hle, hlt, _, hread, hhigh, htail⟩ := hsnd
  refine { h with phase := ⟨hrx, hbase, hle, lt_succ_of_lt hlt, succ_le_succ htop, ?_, hhigh,
    htail⟩ }
  intro n hw hb hn
  refine hread n hw hb ?_
  rcases lt_or_ge n cursor with hless | hmore
  · exact hless
  · rw [show n = cursor by omega, hwanted] at hw
    cases hw

lemma Sound.caughtUp (h : Sound s) (hph : s.phase = .scanning rx base cursor tail high)
    (htail : tail ≤ cursor) : Sound { s with phase := .live rx base high } := by
  have hsnd := h.phase
  rw [hph] at hsnd
  obtain ⟨hrx, hbase, hle, hlt, _, hread, hhigh, htk⟩ := hsnd
  refine { h with phase := ⟨hrx, hbase, hle, ?_, ?_, ?_, ?_⟩ }
  · intro n hn hw
    rcases lt_or_ge base n with hgt | hge
    · exact hread n hw hgt ((htk n hn).trans_le htail)
    · exact h.settled n (mem_append_left _ (mem_of_mem_take hn)) hw (hge.trans hle)
  · intro n hw hb hn
    refine hread n hw hb ?_
    rcases hhigh with hhigh | ⟨_, hhigh⟩ <;> omega
  · intro n hn hgt
    have hb := hbase n hn
    show s.last < n
    rcases hhigh with hhigh | ⟨hhigh, _⟩ <;> omega
  · show high ≤ s.top
    rcases hhigh with hhigh | ⟨_, hhigh⟩ <;> omega

lemma drop_eq_cons {l : List Nat} (h : l[rx]? = some n) :
    l.drop rx = n :: l.drop (rx + 1) ∧ l.take (rx + 1) = l.take rx ++ [n] := by
  obtain ⟨hlt, hget⟩ := List.getElem?_eq_some_iff.mp h
  refine ⟨?_, ?_⟩
  · rw [drop_eq_getElem_cons hlt, hget]
  · rw [take_add_one, h]
    rfl

lemma Sound.receive (h : Sound s) (hph : s.phase = .live rx base high) (hrx : rx < s.hub)
    (hn : s.sent[rx]? = some n) (hgt : high < n) (hwanted : s.wanted n = true) :
    Sound { s with
      last := n
      delivered := s.delivered ++ [n]
      phase := .live (rx + 1) base high } := by
  have hsnd := h.phase
  rw [hph] at hsnd
  obtain ⟨_, hbase, hle, htk, hread, hnew, hhigh⟩ := hsnd
  obtain ⟨hdrop, htake⟩ := drop_eq_cons hn
  have hmem : n ∈ s.sent.drop rx ++ s.owed := by
    rw [hdrop]
    exact mem_append_left _ mem_cons_self
  have hlast : s.last < n := hnew n hmem hgt
  have hbn : base < n := hbase n hmem
  -- what the broadcast brings later is behind `n`
  have hlater : ∀ m ∈ s.sent.drop (rx + 1) ++ s.owed, n < m := by
    have hsort : (s.sent.take rx ++ (s.sent.drop rx ++ s.owed)).Pairwise (· < ·) := by
      rw [← append_assoc, take_append_drop]
      exact h.sorted
    have htail := (pairwise_append.mp hsort).2.1
    rw [hdrop, cons_append] at htail
    exact fun m hm => rel_of_pairwise_cons htail hm
  refine ⟨h.sorted, h.below, ?_, ?_, ?_, h.hub_le, ?_, hrx, ?_, le_of_lt hbn, ?_, ?_, ?_, hhigh⟩
  · refine h.below n (mem_append_left _ (mem_of_getElem? hn))
  · exact pairwise_concat h.rising fun m hm => (h.delivered_le m hm).trans_lt hlast
  · intro m hm
    rcases mem_append.mp hm with hm | hm
    · exact le_of_lt ((h.delivered_le m hm).trans_lt hlast)
    · exact le_of_eq (mem_singleton.mp hm)
  · intro m hm hw hmn
    have hmn : m ≤ n := hmn
    have hpos : m ∈ s.sent.take rx ∨ m = n ∨ m ∈ s.sent.drop (rx + 1) ++ s.owed := by
      rw [← take_append_drop rx s.sent, hdrop, append_assoc, cons_append,
        mem_append, mem_cons] at hm
      exact hm
    rcases hpos with hm | rfl | hm
    · exact mem_append_left _ (htk m hm hw)
    · exact mem_append_right _ mem_cons_self
    · have hlt := hlater m hm
      omega
  · intro m hm
    exact hbn.trans (hlater m hm)
  · intro m hm hw
    rw [htake] at hm
    rcases mem_append.mp hm with hm | hm
    · exact mem_append_left _ (htk m hm hw)
    · exact mem_append_right _ hm
  · intro m hw hb hm
    exact mem_append_left _ (hread m hw hb hm)
  · intro m hm _
    exact hlater m hm

lemma Sound.ignore (h : Sound s) (hph : s.phase = .live rx base high) (hrx : rx < s.hub)
    (hn : s.sent[rx]? = some n) (hskip : n ≤ high ∨ s.wanted n = false) :
    Sound { s with phase := .live (rx + 1) base high } := by
  have hsnd := h.phase
  rw [hph] at hsnd
  obtain ⟨_, hbase, hle, htk, hread, hnew, hhigh⟩ := hsnd
  obtain ⟨hdrop, htake⟩ := drop_eq_cons hn
  have hsub : ∀ {m : Nat}, m ∈ s.sent.drop (rx + 1) ++ s.owed → m ∈ s.sent.drop rx ++ s.owed := by
    intro m hm
    rw [hdrop, cons_append]
    exact mem_cons_of_mem n hm
  refine { h with phase := ⟨hrx, fun m hm => hbase m (hsub hm), hle, ?_, hread,
    fun m hm => hnew m (hsub hm), hhigh⟩ }
  intro m hm hw
  rw [htake] at hm
  rcases mem_append.mp hm with hm | hm
  · exact htk m hm hw
  · rw [mem_singleton.mp hm] at hw ⊢
    rcases hskip with hskip | hskip
    · refine hread n hw (hbase n ?_) hskip
      rw [hdrop]
      exact mem_append_left _ mem_cons_self
    · rw [hskip] at hw
      cases hw

lemma Sound.step (h : Sound s) (hs : Step s s') : Sound s' := by
  cases hs with
  | append wanted owed => exact h.append wanted owed
  | send howed => exact h.send howed
  | forward hlt => exact h.forward hlt
  | connect hbehind =>
    exact { h with phase := ⟨le_refl _, hbehind, rfl⟩ }
  | @openLog rx base hph =>
    have hsnd := h.phase
    rw [hph] at hsnd
    obtain ⟨hrx, hbase, heq⟩ := hsnd
    have hlast := h.last_le
    refine { h with phase := ⟨hrx, hbase, le_of_eq heq.symm, ?_, ?_, ?_, .inr ⟨heq, rfl⟩, ?_⟩ }
    · show s.last < base + 1
      omega
    · show base + 1 ≤ s.top + 1
      omega
    · intro n _ hb hn
      omega
    · intro n hn
      exact lt_succ_of_le (h.below n (mem_append_left _ (mem_of_mem_take hn)))
  | scan hph htop _ => exact h.scan hph htop
  | pass hph htop hwanted => exact h.pass hph htop hwanted
  | caughtUp hph htail => exact h.caughtUp hph htail
  | receive hph hrx hn hgt hwanted => exact h.receive hph hrx hn hgt hwanted
  | ignore hph hrx hn hskip => exact h.ignore hph hrx hn hskip
  | drop =>
    exact { h with phase := trivial }

lemma Sound.steps (h : Sound s) (hs : Steps s s') : Sound s' := by
  induction hs with
  | refl => exact h
  | tail _ hstep ih => exact ih.step hstep

lemma Sound.complete (h : Sound s) (hph : s.phase = .live rx base high)
    (hrx : rx = s.sent.length) : ∀ n ∈ s.sent, s.wanted n = true → n ∈ s.delivered := by
  have hsnd := h.phase
  rw [hph] at hsnd
  obtain ⟨_, _, _, htk, _⟩ := hsnd
  rw [hrx, take_length] at htk
  exact htk

end Cutover
