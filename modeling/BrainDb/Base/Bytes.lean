import Mathlib.Tactic.Ring

abbrev Bytes := List UInt8

abbrev Checksum := Bytes → UInt32

namespace Bytes
open List
variable (buf : Bytes)

def slice (i j : Nat) : Bytes := (buf.drop i).take (j - i)

def leBytes : Nat → Nat → Bytes
  | 0, _ => []
  | w + 1, v => UInt8.ofNat v :: leBytes w (v / 256)

def leNat : Bytes → Nat
  | [] => 0
  | b :: bs => b.toNat + 256 * leNat bs

@[simp] lemma length_leBytes (w v : Nat) : (leBytes w v).length = w := by
  induction w generalizing v with
  | zero => rfl
  | succ w ih => simp [leBytes, ih]

lemma leNat_leBytes {w v : Nat} (h : v < 256 ^ w) : leNat (leBytes w v) = v := by
  induction w generalizing v with
  | zero =>
    have hv : v = 0 := by simpa using h
    simp [leBytes, leNat, hv]
  | succ w ih =>
    have hq : v / 256 < 256 ^ w := by
      rw [Nat.div_lt_iff_lt_mul (by omega)]
      simpa [pow_succ] using h
    have hb : (UInt8.ofNat v).toNat = v % 256 := by simp
    simp only [leBytes, leNat, ih hq, hb]
    omega

variable (bs : Bytes)

lemma leNat_lt : leNat bs < 256 ^ bs.length := by
  induction bs with
  | nil => simp [leNat]
  | cons b bs ih =>
    have hb : b.toNat < 256 := b.toNat_lt
    simp only [leNat, length_cons, pow_succ]
    omega

lemma leBytes_leNat : leBytes bs.length (leNat bs) = bs := by
  induction bs with
  | nil => rfl
  | cons b bs ih =>
    have hb : b.toNat < 256 := b.toNat_lt
    have hlow : UInt8.ofNat (b.toNat + 256 * leNat bs) = b := by
      apply UInt8.toNat_inj.mp
      simp only [UInt8.toNat_ofNat']
      omega
    have hhigh : (b.toNat + 256 * leNat bs) / 256 = leNat bs := by omega
    simp only [length_cons, leBytes, leNat, hlow, hhigh, ih]

variable {bs : Bytes} {i j : Nat}

lemma leBytes_leNat_of_length {w : Nat} (h : bs.length = w) : leBytes w (leNat bs) = bs := by
  subst h
  exact leBytes_leNat bs

lemma leBytes_uint64 (h : bs.length = 8) : leBytes 8 (UInt64.ofNat (leNat bs)).toNat = bs := by
  have hlt : leNat bs < 2 ^ 64 := by simpa [h] using leNat_lt bs
  rw [UInt64.toNat_ofNat', Nat.mod_eq_of_lt hlt, leBytes_leNat_of_length h]

lemma leBytes_uint32 (h : bs.length = 4) : leBytes 4 (UInt32.ofNat (leNat bs)).toNat = bs := by
  have hlt : leNat bs < 2 ^ 32 := by simpa [h] using leNat_lt bs
  rw [UInt32.toNat_ofNat', Nat.mod_eq_of_lt hlt, leBytes_leNat_of_length h]

lemma leBytes_uint8 (h : bs.length = 1) : [UInt8.ofNat (leNat bs)] = bs := by
  simpa [leBytes] using leBytes_leNat_of_length h

lemma leNat_leBytes_uint64 (x : UInt64) : leNat (leBytes 8 x.toNat) = x.toNat :=
  leNat_leBytes (by simpa using x.toNat_lt)

lemma leNat_leBytes_uint32 (x : UInt32) : leNat (leBytes 4 x.toNat) = x.toNat :=
  leNat_leBytes (by simpa using x.toNat_lt)

lemma length_slice {buf : Bytes} (hj : j ≤ buf.length) : (slice buf i j).length = j - i := by
  simp only [slice, length_take, length_drop]
  omega

@[simp] lemma slice_zero (j : Nat) : slice buf 0 j = buf.take j := by
  simp [slice]

lemma slice_append_slice {buf : Bytes} {k : Nat} (hij : i ≤ j) (hjk : j ≤ k) :
    slice buf i j ++ slice buf j k = slice buf i k := by
  have hk : k - i = (j - i) + (k - j) := by omega
  have hj : buf.drop j = (buf.drop i).drop (j - i) := by
    rw [drop_drop]
    congr 1
    omega
  simp only [slice, hk, take_add, hj]

variable {a b : Bytes}

lemma slice_append_left (hj : j ≤ a.length) : slice (a ++ b) i j = slice a i j := by
  rcases Nat.le_total i j with hij | hij
  · have hi : i ≤ a.length := by omega
    simp only [slice, drop_append_of_le_length hi]
    exact take_append_of_le_length (by simp only [length_drop]; omega)
  · simp [slice, Nat.sub_eq_zero_of_le hij]

lemma slice_append_right {n : Nat} (hn : a.length = n) :
    slice (a ++ b) (n + i) (n + j) = slice b i j := by
  subst hn
  simp only [slice, ← drop_drop, drop_left, Nat.add_sub_add_left]

lemma slice_middle {c : Bytes} (hi : a.length = i) (hj : i + b.length = j) :
    slice (a ++ b ++ c) i j = b := by
  subst hi hj
  have hread := slice_append_right (a := a) (b := b ++ c) (i := 0) (j := b.length) rfl
  simpa [append_assoc] using hread

end Bytes
