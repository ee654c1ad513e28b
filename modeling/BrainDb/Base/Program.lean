import Mathlib.Logic.Basic

namespace Program
variable {E S A B : Type} (p : ExceptT E (StateM S) A)

def exec (s : S) : Except E A × S := p.run.run s

lemma exec_bind (q : A → ExceptT E (StateM S) B) (s : S) : exec (p >>= q) s =
      match exec p s with
      | (.ok a, s') => exec (q a) s'
      | (.error e, s') => (.error e, s') := by
  show (ExceptT.bindCont q (p.run.run s).1).run (p.run.run s).2 =
    match p.run.run s with
    | (.ok a, s') => exec (q a) s'
    | (.error e, s') => (.error e, s')
  rcases p.run.run s with ⟨_ | _, _⟩ <;> rfl

lemma exec_bind_pure (k : A → B) (s : S) :
    exec (p >>= fun a => pure (k a)) s = ((exec p s).1.map k, (exec p s).2) := by
  rw [exec_bind]
  rcases exec p s with ⟨_ | _, _⟩ <;> rfl

lemma exec_get (s : S) : exec (get : ExceptT E (StateM S) S) s = (.ok s, s) := rfl

lemma exec_set (s s' : S) : exec (set s' : ExceptT E (StateM S) PUnit) s = (.ok ⟨⟩, s') := rfl

def Spec (P : S → Prop) (p : ExceptT E (StateM S) A) (Q : Except E A → S → Prop) : Prop :=
  ∀ ⦃s : S⦄, P s → Q (exec p s).1 (exec p s).2

variable {p : ExceptT E (StateM S) A} {q : A → ExceptT E (StateM S) B}

lemma Spec.bind {P : S → Prop} {Q : Except E A → S → Prop} {T : Except E B → S → Prop}
    (hp : Spec P p Q) (hq : ∀ a, Spec (Q (.ok a)) (q a) T)
    (herr : ∀ ⦃e : E⦄ ⦃s : S⦄, Q (.error e) s → T (.error e) s) : Spec P (p >>= q) T := by
  intro s h
  have hend := hp h
  rw [exec_bind]
  rcases hs : exec p s with ⟨r, s'⟩
  rw [hs] at hend
  cases r with
  | ok a => exact hq a hend
  | error e => exact herr hend

variable (R : S → S → Prop)

def Triple (p : ExceptT E (StateM S) A) (Q : Except E A → S → S → Prop) : Prop :=
  ∀ ⦃x y : S⦄, R x y → (exec p x).1 = (exec p y).1 ∧ Q (exec p x).1 (exec p x).2 (exec p y).2

abbrev Keeps (p : ExceptT E (StateM S) A) : Prop := Triple R p fun _ => R

variable {R : S → S → Prop} {Q : Except E A → S → S → Prop}

lemma Triple.bind {T : Except E B → S → S → Prop} (hp : Triple R p Q)
    (hq : ∀ a, Triple (Q (.ok a)) (q a) T)
    (herr : ∀ ⦃e : E⦄ ⦃x y : S⦄, Q (.error e) x y → T (.error e) x y) : Triple R (p >>= q) T := by
  intro x y h
  obtain ⟨hans, hend⟩ := hp h
  rw [exec_bind, exec_bind]
  rcases hx : exec p x with ⟨rx, x'⟩
  rcases hy : exec p y with ⟨ry, y'⟩
  rw [hx, hy] at hans hend
  cases hans
  cases rx with
  | ok a => exact hq a hend
  | error e => exact ⟨rfl, herr hend⟩

lemma Triple.mono {Q' : Except E A → S → S → Prop} (hp : Triple R p Q)
    (himp : ∀ ⦃r : Except E A⦄ ⦃x y : S⦄, Q r x y → Q' r x y) : Triple R p Q' :=
  fun _ _ h => ⟨(hp h).1, himp (hp h).2⟩

lemma Keeps.pure (a : A) : Keeps R (pure a : ExceptT E (StateM S) A) := fun _ _ h => ⟨rfl, h⟩

lemma Keeps.throw (e : E) : Keeps R (throw e : ExceptT E (StateM S) A) := fun _ _ h => ⟨rfl, h⟩

lemma Keeps.bind (hp : Keeps R p) (hq : ∀ a, Keeps R (q a)) : Keeps R (p >>= q) :=
  Triple.bind hp hq fun _ _ _ h => h

end Program
