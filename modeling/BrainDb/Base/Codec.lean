import BrainDb.Base.Framing

namespace Codec
open List
open StateT (run_bind run_map)
open Bytes
variable {E α β : Type}

abbrev Reader (E α : Type) := StateT Bytes (Except E) α

def join : List (Option Bytes) → Option Bytes
  | [] => some []
  | put :: puts => put.bind fun a => (join puts).map (a ++ ·)

variable {put : Option Bytes} {puts : List (Option Bytes)} {bs : Bytes}
  {get : Reader E α} {k : α → Reader E β} {a : α} {P : Prop}

lemma join_cons (h : join (put :: puts) = some bs) :
    ∃ a b, put = some a ∧ join puts = some b ∧ bs = a ++ b := by
  obtain ⟨a, ha, hrest⟩ := Option.bind_eq_some_iff.mp h
  obtain ⟨b, hb, rfl⟩ := Option.map_eq_some_iff.mp hrest
  exact ⟨a, b, ha, hb, rfl⟩

lemma isSome_join : (join puts).isSome ↔ ∀ put ∈ puts, put.isSome := by
  induction puts with
  | nil => simp [join]
  | cons put puts ih =>
    cases put with
    | none => simp [join]
    | some a => simpa [join] using ih

lemma length_join (h : join puts = some bs) :
    bs.length = (puts.map fun put => (put.getD []).length).sum := by
  induction puts generalizing bs with
  | nil =>
    cases h
    rfl
  | cons put puts ih =>
    obtain ⟨a, b, ha, hb, rfl⟩ := join_cons h
    rw [map_cons, sum_cons, length_append, ih hb, ha]
    rfl

lemma le_length_join {w : Nat} {put : α → Option Bytes} {l : List α}
    (hw : ∀ a bs, put a = some bs → w ≤ bs.length) (h : join (l.map put) = some bs) :
    l.length * w ≤ bs.length := by
  induction l generalizing bs with
  | nil => simp
  | cons a l ih =>
    obtain ⟨x, y, hx, hy, rfl⟩ := join_cons h
    have hhead := hw a x hx
    have htail := ih hy
    rw [length_cons, length_append, Nat.succ_mul]
    omega

def Reads (get : Reader E α) (bs : Bytes) (a : α) : Prop :=
  ∀ rest, get.run (bs ++ rest) = .ok (a, rest)

def Refuses (get : Reader E α) (bs : Bytes) : Prop :=
  ∀ rest, ∃ e, get.run (bs ++ rest) = .error e

def Field (get : Reader E α) (put : Option Bytes) (a : α) : Prop :=
  ∀ bs, put = some bs → Reads get bs a

def Inverts (get : Reader E α) (put : Option Bytes) (a : α) (P : Prop) : Prop :=
  ∀ bs, put = some bs → (P → Reads get bs a) ∧ (¬P → Refuses get bs)

lemma Reads.bind {as : Bytes} {b : β} (hget : Reads get as a) (hk : Reads (k a) bs b) :
    Reads (get >>= k) (as ++ bs) b := by
  intro rest
  have hfst := hget (bs ++ rest)
  rw [append_assoc, run_bind, hfst]
  exact hk rest

lemma Reads.refuses_bind {as : Bytes} (hget : Reads get as a) (hk : Refuses (k a) bs) :
    Refuses (get >>= k) (as ++ bs) := by
  intro rest
  have hfst := hget (bs ++ rest)
  rw [append_assoc, run_bind, hfst]
  exact hk rest

lemma Refuses.bind {as : Bytes} (hget : Refuses get as) (k : α → Reader E β)
    (bs : Bytes) : Refuses (get >>= k) (as ++ bs) := by
  intro rest
  obtain ⟨e, he⟩ := hget (bs ++ rest)
  refine ⟨e, ?_⟩
  rw [append_assoc, run_bind, he]
  rfl

lemma Reads.run (h : Reads get bs a) : get.run bs = .ok (a, []) := by
  have hrest := h []
  rwa [append_nil] at hrest

lemma Refuses.run (h : Refuses get bs) : ∃ e, get.run bs = .error e := by
  have hrest := h []
  rwa [append_nil] at hrest

lemma Field.inverts (h : Field get put a) : Inverts get put a True :=
  fun bs hbs => ⟨fun _ => h bs hbs, fun hn => absurd trivial hn⟩

lemma Inverts.congr {Q : Prop} (h : Inverts get put a P) (hPQ : P ↔ Q) : Inverts get put a Q := by
  intro bs hbs
  rw [← hPQ]
  exact h bs hbs

lemma Inverts.pure (a : α) : Inverts (pure a : Reader E α) (join []) a True := by
  refine Field.inverts ?_
  intro bs hbs rest
  cases hbs
  rfl

lemma Inverts.seq {b : β} {Q : Prop} (hget : Inverts get put a P)
    (hk : Inverts (k a) (join puts) b Q) : Inverts (get >>= k) (join (put :: puts)) b (P ∧ Q) := by
  intro bs hbs
  obtain ⟨x, y, hx, hy, rfl⟩ := join_cons hbs
  obtain ⟨hreads, hrefuses⟩ := hget x hx
  obtain ⟨hreads', hrefuses'⟩ := hk y hy
  constructor
  · intro hPQ
    exact (hreads hPQ.1).bind (hreads' hPQ.2)
  · intro hn
    by_cases hP : P
    · exact (hreads hP).refuses_bind (hrefuses' fun hQ => hn ⟨hP, hQ⟩)
    · exact (hrefuses hP).bind k y

lemma Field.seq {b : β} {Q : Prop} (hget : Field get put a) (hk : Inverts (k a) (join puts) b Q) :
    Inverts (get >>= k) (join (put :: puts)) b Q :=
  (hget.inverts.seq hk).congr (iff_of_eq (true_and Q))

lemma join_singleton (put : Option Bytes) : join [put] = put := by
  cases put with
  | none => rfl
  | some a => exact congrArg some (append_nil a)

lemma Inverts.single (h : Inverts get (join [put]) a P) : Inverts get put a P := by
  rwa [join_singleton] at h

lemma Inverts.last (h : Inverts get put a P) : Inverts get (join [put]) a P := by
  rwa [join_singleton]

lemma Inverts.field (h : Inverts get put a True) : Field get put a :=
  fun bs hbs => (h bs hbs).1 trivial

lemma Inverts.parse {b : β} {f : α → Except E β} (h : Inverts get put a P) (hf : f a = .ok b) :
    Inverts (do let x ← get; (f x : Reader E β)) put b P := by
  refine Inverts.single (Inverts.congr (h.seq ?_) (and_iff_left trivial))
  rw [hf]
  exact .pure b

lemma Field.parse {b : β} {f : α → Except E β} (h : Field get put a) (hf : f a = .ok b) :
    Field (do let x ← get; (f x : Reader E β)) put b :=
  (h.inverts.parse hf).field

lemma Inverts.map (h : Inverts get put a P) (f : α → β) : Inverts (f <$> get) put (f a) P := by
  intro bs hbs
  obtain ⟨hreads, hrefuses⟩ := h bs hbs
  constructor
  · intro hP rest
    rw [run_map, hreads hP rest]
    rfl
  · intro hn rest
    obtain ⟨e, he⟩ := hrefuses hn rest
    refine ⟨e, ?_⟩
    rw [run_map, he]
    rfl

def require (n : Nat) (e : Nat → E) : Reader E Unit := fun bytes =>
  if bytes.length < n then .error (e bytes.length) else .ok ((), bytes)

lemma Inverts.require {k : Unit → Reader E α} {n : Nat} {e : Nat → E}
    (hn : ∀ bs, put = some bs → n ≤ bs.length) (h : Inverts (k ()) put a P) :
    Inverts (Codec.require n e >>= k) put a P := by
  intro bs hbs
  have hpass : ∀ rest, (Codec.require n e >>= k).run (bs ++ rest) = (k ()).run (bs ++ rest) := by
    intro rest
    have hlen := hn bs hbs
    have hroom : ¬ (bs ++ rest).length < n := by
      rw [length_append]
      omega
    rw [run_bind]
    simp only [Codec.require, StateT.run, if_neg hroom]
    rfl
  unfold Reads Refuses
  simp only [hpass]
  exact h bs hbs

def check (p : Prop) [Decidable p] (e : E) : Reader E Unit := fun bytes =>
  if p then .ok ((), bytes) else .error e

lemma Inverts.check {k : Unit → Reader E α} {p : Prop} [Decidable p] {e : E}
    (h : Inverts (k ()) put a P) : Inverts (Codec.check p e >>= k) put a (p ∧ P) := by
  intro bs hbs
  by_cases hp : p
  · have hpass : (Codec.check p e >>= k) = k () := by
      funext bytes
      simp only [bind, StateT.bind, Codec.check, if_pos hp]
      rfl
    rw [hpass, and_iff_right hp]
    exact h bs hbs
  · refine ⟨fun hboth => absurd hboth.1 hp, fun _ rest => ⟨e, ?_⟩⟩
    rw [run_bind]
    simp only [Codec.check, StateT.run, if_neg hp]
    rfl

def many (get : Reader E α) : Nat → Reader E (List α)
  | 0 => pure []
  | n + 1 => do
    let a ← get
    let as ← many get n
    return a :: as

lemma Field.many {put : α → Option Bytes} (h : ∀ a, Field get (put a) a) (l : List α) :
    Field (Codec.many get l.length) (join (l.map put)) l := by
  induction l with
  | nil => exact (Inverts.pure []).field
  | cons a l ih =>
    intro bs hbs
    obtain ⟨x, y, hx, hy, rfl⟩ := join_cons hbs
    have hrest : Reads (Codec.many get l.length >>= fun as => Pure.pure (a :: as)) (y ++ [])
        (a :: l) := (ih y hy).bind fun rest => rfl
    rw [append_nil] at hrest
    exact (h a x hx).bind hrest

def take (n : Nat) (e : Nat → E) : Reader E { bs : Bytes // bs.length = n } := fun bytes =>
  if h : bytes.length < n then .error (e bytes.length)
  else .ok (⟨bytes.take n, by rw [length_take]; omega⟩, bytes.drop n)

lemma Field.take {n : Nat} (e : Nat → E) (bs : { bs : Bytes // bs.length = n }) :
    Field (Codec.take n e) (some bs.1) bs := by
  intro code hcode rest
  cases hcode
  have hlen := bs.2
  have hroom : ¬ (bs.1 ++ rest).length < n := by
    rw [length_append]
    omega
  simp only [Codec.take, StateT.run, dif_neg hroom]
  congr 2
  · exact Subtype.ext (take_left' hlen)
  · exact drop_left' hlen

def putNat (w v : Nat) : Option Bytes := if v < 256 ^ w then some (leBytes w v) else none

variable (w : Nat)

def nat (e : Nat → E) : Reader E Nat := do
  let bs ← take w e
  return leNat bs.1

lemma run_nat (e : Nat → E) (bytes : Bytes) : (nat w e).run bytes =
    if bytes.length < w then .error (e bytes.length)
    else .ok (leNat (bytes.take w), bytes.drop w) := by
  unfold nat
  rw [run_bind]
  by_cases hroom : bytes.length < w
  · have htake : (take w e).run bytes = .error (e bytes.length) := dif_pos hroom
    rw [htake, if_pos hroom]
    rfl
  · have htake : (take w e).run bytes = .ok (⟨bytes.take w, _⟩, bytes.drop w) := dif_neg hroom
    rw [htake, if_neg hroom]
    rfl

lemma Field.nat (e : Nat → E) (v : Nat) : Field (Codec.nat w e) (putNat w v) v := by
  intro bs hbs
  unfold putNat at hbs
  split at hbs
  next hv =>
    cases hbs
    have htake := Field.take e ⟨leBytes w v, length_leBytes w v⟩ _ rfl
    have hread : Reads (Codec.nat w e) (leBytes w v ++ []) (leNat (leBytes w v)) :=
      htake.bind fun rest => rfl
    rwa [append_nil, leNat_leBytes hv] at hread
  · cases hbs

lemma isSome_putNat {w v : Nat} : (putNat w v).isSome ↔ v < 256 ^ w := by
  unfold putNat
  split <;> simp [*]

lemma length_putNat {w v : Nat} (h : putNat w v = some bs) : bs.length = w := by
  unfold putNat at h
  split at h
  · cases h
    exact length_leBytes w v
  · cases h

def Takes (get : Reader E α) (put : α → Option Bytes) (P : α → Prop) : Prop :=
  ∀ bytes a rest, get.run bytes = .ok (a, rest) → P a ∧ ∃ bs, put a = some bs ∧ bytes = bs ++ rest

section
variable {bytes rest : Bytes} {b : β} {put : α → Option Bytes} {P : α → Prop}

/-- The bytes of a row of fields, the first of them in front. -/
lemma exists_join {put : Option Bytes} (hput : put = some bs)
    (h : ∃ more, join puts = some more ∧ bytes = more ++ rest) :
    ∃ all, join (put :: puts) = some all ∧ bs ++ bytes = all ++ rest := by
  obtain ⟨more, hmore, rfl⟩ := h
  refine ⟨bs ++ more, ?_, (append_assoc ..).symm⟩
  simp [join, hput, hmore]

lemma run_bind_ok (h : (get >>= k).run bytes = .ok (b, rest)) :
    ∃ a mid, get.run bytes = .ok (a, mid) ∧ (k a).run mid = .ok (b, rest) := by
  rw [run_bind] at h
  cases hget : get.run bytes with
  | error e =>
    rw [hget] at h
    cases h
  | ok read =>
    rw [hget] at h
    exact ⟨read.1, read.2, rfl, h⟩

/-- A reader that goes on after a field: the bytes of the field, and what is left of the run. -/
lemma Takes.bind (hget : Takes get put P) (h : (get >>= k).run bytes = .ok (b, rest)) :
    ∃ a bs mid, P a ∧ put a = some bs ∧ bytes = bs ++ mid ∧ (k a).run mid = .ok (b, rest) := by
  obtain ⟨a, mid, hfst, hrest⟩ := run_bind_ok h
  obtain ⟨hP, bs, hbs, rfl⟩ := hget bytes a mid hfst
  exact ⟨a, bs, mid, hP, hbs, rfl, hrest⟩

lemma run_require {k : Unit → Reader E β} {n : Nat} {e : Nat → E}
    (h : (require n e >>= k).run bytes = .ok (b, rest)) : (k ()).run bytes = .ok (b, rest) := by
  obtain ⟨a, mid, hfst, hrest⟩ := run_bind_ok h
  change (if bytes.length < n then _ else _) = _ at hfst
  split at hfst <;> cases hfst
  exact hrest

lemma run_check {k : Unit → Reader E β} {p : Prop} [Decidable p] {e : E}
    (h : (check p e >>= k).run bytes = .ok (b, rest)) : p ∧ (k ()).run bytes = .ok (b, rest) := by
  obtain ⟨a, mid, hfst, hrest⟩ := run_bind_ok h
  change (if p then _ else _) = _ at hfst
  split at hfst
  next hp =>
    cases hfst
    exact ⟨hp, hrest⟩
  · cases hfst

lemma Takes.take (n : Nat) (e : Nat → E) :
    Takes (Codec.take n e) (fun bs => some bs.1) fun _ => True := by
  intro bytes a rest h
  change (dite (bytes.length < n) _ _) = _ at h
  split at h <;> cases h
  exact ⟨trivial, _, rfl, (take_append_drop n bytes).symm⟩

lemma Takes.parse {f : α → Except E β} {put' : β → Option Bytes} {Q : β → Prop}
    (hget : Takes get put P) (hf : ∀ a b, P a → f a = .ok b → Q b ∧ put' b = put a) :
    Takes (do let x ← get; (f x : Reader E β)) put' Q := by
  intro bytes b rest h
  obtain ⟨a, bs, mid, hP, hbs, rfl, hvalue⟩ := hget.bind h
  cases ha : f a with
  | error e =>
    rw [ha] at hvalue
    cases hvalue
  | ok c =>
    rw [ha] at hvalue
    cases hvalue
    obtain ⟨hQ, hput⟩ := hf a b hP ha
    exact ⟨hQ, bs, hput.trans hbs, rfl⟩

lemma Takes.map {f : α → β} {put' : β → Option Bytes} {Q : β → Prop}
    (hget : Takes get put P) (hf : ∀ a, P a → Q (f a) ∧ put' (f a) = put a) :
    Takes (get >>= fun a => pure (f a)) put' Q := by
  intro bytes b rest h
  obtain ⟨a, bs, mid, hP, hbs, rfl, hvalue⟩ := hget.bind h
  cases hvalue
  obtain ⟨hQ, hput⟩ := hf a hP
  exact ⟨hQ, bs, hput.trans hbs, rfl⟩

lemma Takes.nat (e : Nat → E) : Takes (Codec.nat w e) (putNat w) fun v => v < 256 ^ w := by
  refine (Takes.take w e).map fun bs _ => ?_
  have hlt := leNat_lt bs.1
  rw [bs.2] at hlt
  rw [putNat, if_pos hlt, leBytes_leNat_of_length bs.2]
  exact ⟨hlt, rfl⟩

lemma Takes.many (hget : Takes get put fun _ => True) (n : Nat) :
    Takes (Codec.many get n) (fun l => join (l.map put)) fun l => l.length = n := by
  induction n with
  | zero =>
    intro bytes l rest h
    cases h
    exact ⟨rfl, [], rfl, rfl⟩
  | succ n ih =>
    intro bytes l rest h
    obtain ⟨a, x, _, -, hx, rfl, htail⟩ := hget.bind h
    obtain ⟨as, y, _, hlength, hy, rfl, hlist⟩ := ih.bind htail
    cases hlist
    exact ⟨congrArg (· + 1) hlength, exists_join hx ⟨y, hy, rfl⟩⟩
end

end Codec
