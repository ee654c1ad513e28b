import BrainDb.Base.Numbered

structure Entry (P : Type) where
  (lsn timestamp : Nat)
  payload : P
deriving DecidableEq

structure Journal (P : Type) where
  first : Nat
  entries : List (Entry P)
  first_pos : 0 < first
  numbered : Numbered.From Entry.lsn first entries

namespace Journal
open List
variable {P D : Type} (j : Journal P)

def nextLsn : Nat := j.first + j.entries.length

def stamp (timestamp : Nat) : Nat → List P → List (Entry P)
  | _, [] => []
  | n, p :: ps => ⟨n, timestamp, p⟩ :: stamp timestamp (n + 1) ps

lemma stamp_numbered (timestamp n : Nat) (ps : List P) :
    Numbered.From Entry.lsn n (stamp timestamp n ps) := by
  induction ps generalizing n with
  | nil => trivial
  | cons p ps ih => exact ⟨rfl, ih (n + 1)⟩

variable (timestamp : Nat)

@[simp] lemma map_payload_stamp (timestamp n : Nat) (ps : List P) :
    (stamp timestamp n ps).map Entry.payload = ps := by
  induction ps generalizing n with
  | nil => rfl
  | cons p ps ih => rw [stamp, map_cons, ih]

def append (ps : List P) : Journal P where
  first := j.first
  entries := j.entries ++ stamp timestamp j.nextLsn ps
  first_pos := j.first_pos
  numbered := Numbered.from_append.mpr ⟨j.numbered, stamp_numbered timestamp j.nextLsn ps⟩

lemma nextLsn_append (ps : List P) : (j.append timestamp ps).nextLsn = j.nextLsn + ps.length := by
  have hlen := congrArg List.length (map_payload_stamp timestamp j.nextLsn ps)
  rw [length_map] at hlen
  simp only [nextLsn, append, length_append, Nat.add_assoc] at hlen ⊢
  rw [hlen]

def above (lsn : Nat) : List (Entry P) := j.entries.filter fun e => lsn < e.lsn

def replay (apply : D → Entry P → D) (j : Journal P) (lsn : Nat) (d : D) : D :=
  (j.above lsn).foldl apply d

lemma mem_of_mem_above {j : Journal P} {lsn : Nat} {e : Entry P} (h : e ∈ j.above lsn) :
    e ∈ j.entries ∧ lsn < e.lsn := by
  simpa [above] using h

lemma above_eq_drop (lsn : Nat) : j.above lsn = j.entries.drop (lsn + 1 - j.first) :=
  j.numbered.filter_gt lsn

lemma above_pred {j : Journal P} {pre post : List (Entry P)} {e : Entry P}
    (h : j.entries = pre ++ e :: post) : j.above (e.lsn - 1) = e :: post := by
  have hnum := j.numbered
  rw [h, Numbered.from_append] at hnum
  have hlsn : e.lsn = j.first + pre.length := hnum.2.1
  have hpos := j.first_pos
  rw [above_eq_drop, h, drop_append_of_le_length (by omega)]
  rw [drop_of_length_le (by omega), nil_append]

section
variable {apply : D → Entry P → D}

lemma foldl_simulation {M : Type} {monitor : M → Entry P → M} {R : M → D → Prop}
    {l : List (Entry P)} {m : M} {d : D}
    (hstep : ∀ e ∈ l, ∀ m d, R m d → R (monitor m e) (apply d e)) (h : R m d) :
    R (l.foldl monitor m) (l.foldl apply d) := by
  induction l generalizing m d with
  | nil => exact h
  | cons e l ih =>
    exact ih (fun r hr => hstep r (mem_cons_of_mem e hr)) (hstep e mem_cons_self m d h)
end
end Journal
