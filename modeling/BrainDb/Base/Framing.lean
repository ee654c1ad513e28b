import Mathlib.Data.List.Basic
import BrainDb.Base.Bytes

namespace Framing
variable {α γ : Type}

def Delimited (P : α → Prop) (f : α → List γ) : Prop :=
  ∀ ⦃a b : α⦄, P a → P b → ∀ ⦃s t : List γ⦄, f a ++ s = f b ++ t → a = b ∧ s = t

structure Fixed (f : α → List γ) (n : Nat) : Prop where
  length : ∀ a, (f a).length = n
  inj : f.Injective

variable {f : α → List γ}

lemma Fixed.split {n : Nat} (hf : Fixed f n) {a b : α} {s t : List γ} (h : f a ++ s = f b ++ t) :
    a = b ∧ s = t := by
  have hlen : (f a).length = (f b).length := by rw [hf.length, hf.length]
  obtain ⟨hab, hst⟩ := List.append_inj h hlen
  exact ⟨hf.inj hab, hst⟩

lemma Fixed.flatMap_inj {n : Nat} (hf : Fixed f n) (hn : 0 < n) : (List.flatMap f).Injective := by
  intro l
  induction l with
  | nil =>
    intro l' h
    cases l' with
    | nil => rfl
    | cons a l' =>
      have hlen := congrArg List.length h
      simp only [List.flatMap_nil, List.flatMap_cons, List.length_nil, List.length_append,
        hf.length] at hlen
      omega
  | cons a l ih =>
    intro l' h
    cases l' with
    | nil =>
      have hlen := congrArg List.length h
      simp only [List.flatMap_nil, List.flatMap_cons, List.length_nil, List.length_append,
        hf.length] at hlen
      omega
    | cons b l' =>
      obtain ⟨hab, hrest⟩ := hf.split h
      rw [hab, ih hrest]

lemma split_terminated {z : γ} {x y s t : List γ} (hx : z ∉ x) (hy : z ∉ y)
    (h : x ++ z :: s = y ++ z :: t) : x = y ∧ s = t := by
  induction x generalizing y with
  | nil =>
    cases y with
    | nil => exact ⟨rfl, (List.cons.inj h).2⟩
    | cons b y =>
      have hb : z = b := (List.cons.inj h).1
      exact absurd (by simp [hb]) hy
  | cons a x ih =>
    cases y with
    | nil =>
      have ha : a = z := (List.cons.inj h).1
      exact absurd (by simp [ha]) hx
    | cons b y =>
      obtain ⟨hab, htail⟩ := List.cons.inj h
      have hx' : z ∉ x := fun hz => hx (List.mem_cons_of_mem a hz)
      have hy' : z ∉ y := fun hz => hy (List.mem_cons_of_mem b hz)
      obtain ⟨hxy, hst⟩ := ih hx' hy' htail
      exact ⟨by rw [hab, hxy], hst⟩

def items (f : α → List γ) (z : γ) (l : List α) : List γ := l.flatMap (fun a => f a ++ [z]) ++ [z]

lemma items_cons_append (f : α → List γ) (z : γ) (a : α) (l : List α) (s : List γ) :
    items f z (a :: l) ++ s = f a ++ z :: (items f z l ++ s) := by
  simp [items]

lemma items_delimited {z : γ} (hf : f.Injective) :
    Delimited (fun l => ∀ a ∈ l, z ∉ f a ∧ f a ≠ []) (items f z) := by
  -- an item that is read where the other list ends would start with `z`
  have hend : ∀ (a : α) (u v : List γ), z ∉ f a ∧ f a ≠ [] → f a ++ u ≠ z :: v := by
    rintro a u v ⟨hz, hne⟩ h
    obtain ⟨b, rest, hfa⟩ := List.exists_cons_of_ne_nil hne
    rw [hfa] at hz h
    exact hz (by simp [(List.cons.inj h).1])
  intro l
  induction l with
  | nil =>
    intro l' _ hl' s t h
    cases l' with
    | nil => exact ⟨rfl, by simpa [items] using h⟩
    | cons b l' =>
      rw [items_cons_append] at h
      exact absurd h.symm (hend b _ s (hl' b (by simp)))
  | cons a l ih =>
    intro l' hl hl' s t h
    cases l' with
    | nil =>
      rw [items_cons_append] at h
      exact absurd h (hend a _ t (hl a (by simp)))
    | cons b l' =>
      rw [items_cons_append, items_cons_append] at h
      obtain ⟨hab, hrest⟩ := split_terminated (hl a (by simp)).1 (hl' b (by simp)).1 h
      obtain ⟨hll, hst⟩ := ih (fun c hc => hl c (by simp [hc])) (fun c hc => hl' c (by simp [hc]))
        hrest
      exact ⟨by rw [hf hab, hll], hst⟩

end Framing

namespace Bytes
open Framing

def beBytes (w v : Nat) : Bytes := (leBytes w v).reverse

lemma uint32_fixed : Fixed (fun x : UInt32 => leBytes 4 x.toNat) 4 where
  length _ := length_leBytes _ _
  inj x y h := by
    have hnat := congrArg leNat h
    simp only [leNat_leBytes_uint32] at hnat
    exact UInt32.toNat_inj.mp hnat

lemma uint64_fixed : Fixed (fun x : UInt64 => leBytes 8 x.toNat) 8 where
  length _ := length_leBytes _ _
  inj x y h := by
    have hnat := congrArg leNat h
    simp only [leNat_leBytes_uint64] at hnat
    exact UInt64.toNat_inj.mp hnat

lemma vector_fixed (n : Nat) : Fixed (fun x : Vector UInt8 n => x.toList) n where
  length _ := Vector.length_toList
  inj _ _ h := Vector.toList_inj.mp h

lemma be128_fixed : Fixed (fun x : Fin (2 ^ 128) => beBytes 16 x.val) 16 where
  length _ := by simp [beBytes]
  inj x y h := by
    have hle : leBytes 16 x.val = leBytes 16 y.val := List.reverse_injective h
    have hnat := congrArg leNat hle
    have hx : x.val < 256 ^ 16 := x.isLt
    have hy : y.val < 256 ^ 16 := y.isLt
    rw [leNat_leBytes hx, leNat_leBytes hy] at hnat
    exact Fin.ext hnat

def counted (bs : Bytes) : Bytes := leBytes 4 bs.length ++ bs

lemma counted_delimited : Delimited (fun bs : Bytes => bs.length < 2 ^ 32) counted := by
  intro a b ha hb s t h
  simp only [counted, List.append_assoc] at h
  have hpref : (leBytes 4 a.length).length = (leBytes 4 b.length).length := by simp
  obtain ⟨hcnt, hrest⟩ := List.append_inj h hpref
  have hlen : a.length = b.length := by
    have ha' : a.length < 256 ^ 4 := ha
    have hb' : b.length < 256 ^ 4 := hb
    rw [← leNat_leBytes ha', ← leNat_leBytes hb', hcnt]
  exact List.append_inj hrest hlen

def utf8 (s : String) : Bytes := s.toUTF8.data.toList

lemma utf8_injective : utf8.Injective := by
  intro s t h
  have hdata : s.toByteArray.data = t.toByteArray.data := Array.toList_inj.mp h
  exact String.toByteArray_inj.mp (ByteArray.ext hdata)

end Bytes
