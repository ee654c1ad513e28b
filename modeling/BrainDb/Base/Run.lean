import Mathlib.Logic.Basic

namespace Run
open List
variable {S O : Type} {step : S → O → S}

def Always (step : S → O → S) (P : S → Prop) : S → List O → Prop
  | s, [] => P s
  | s, o :: ops => P s ∧ Always step P (step s o) ops

instance Always.decidable {P : S → Prop} [DecidablePred P] :
    ∀ (s : S) (ops : List O), Decidable (Always step P s ops)
  | s, [] => inferInstanceAs (Decidable (P s))
  | s, o :: ops =>
    have : Decidable (Always step P (step s o) ops) := Always.decidable (step s o) ops
    inferInstanceAs (Decidable (P s ∧ Always step P (step s o) ops))

lemma Always.last {P : S → Prop} {s : S} {ops : List O} (h : Always step P s ops) :
    P (ops.foldl step s) := by
  induction ops generalizing s with
  | nil => exact h
  | cons o ops ih => exact ih h.2

def EachStep (step : S → O → S) (Q : S → O → Prop) : S → List O → Prop
  | _, [] => True
  | s, o :: ops => Q s o ∧ EachStep step Q (step s o) ops

instance EachStep.decidable {Q : S → O → Prop} [∀ s o, Decidable (Q s o)] :
    ∀ (s : S) (ops : List O), Decidable (EachStep step Q s ops)
  | _, [] => inferInstanceAs (Decidable True)
  | s, o :: ops =>
    have : Decidable (EachStep step Q (step s o) ops) := EachStep.decidable (step s o) ops
    inferInstanceAs (Decidable (Q s o ∧ EachStep step Q (step s o) ops))

lemma eachStep_congr {Q R : S → O → Prop} (h : ∀ s o, Q s o ↔ R s o) (s : S) (ops : List O) :
    EachStep step Q s ops ↔ EachStep step R s ops := by
  induction ops generalizing s with
  | nil => exact Iff.rfl
  | cons o ops ih => exact and_congr (h s o) (ih (step s o))

lemma EachStep.always {I : S → Prop} {Q : S → O → Prop}
    (hstep : ∀ s o, I s → Q s o → I (step s o)) {s : S} {ops : List O}
    (h : EachStep step Q s ops) (hs : I s) : Always step I s ops := by
  induction ops generalizing s with
  | nil => exact hs
  | cons o ops ih => exact ⟨hs, ih h.2 (hstep s o hs h.1)⟩

lemma Always.imp {P R : S → Prop} (himp : ∀ s, P s → R s) {s : S} {ops : List O}
    (h : Always step P s ops) : Always step R s ops := by
  induction ops generalizing s with
  | nil => exact himp s h
  | cons o ops ih => exact ⟨himp s h.1, ih h.2⟩

lemma eachStep_concat {Q : S → O → Prop} (s : S) (ops : List O) (o : O) :
    EachStep step Q s (ops ++ [o]) ↔ EachStep step Q s ops ∧ Q (ops.foldl step s) o := by
  induction ops generalizing s with
  | nil => exact ⟨fun h => ⟨trivial, h.1⟩, fun h => ⟨h.2, trivial⟩⟩
  | cons a ops ih => exact (and_congr_right fun _ => ih (step s a)).trans and_assoc.symm

lemma invariant {I : S → Prop} (hstep : ∀ s o, I s → I (step s o)) {s : S} (h : I s)
    (ops : List O) : I (ops.foldl step s) := by
  induction ops generalizing s with
  | nil => exact h
  | cons o ops ih => exact ih (hstep s o h)

lemma foldl_frame {P : S → Prop} {ops : List O} (h : ∀ o ∈ ops, ∀ s, P s → P (step s o)) {s : S}
    (hs : P s) : P (ops.foldl step s) := by
  induction ops generalizing s with
  | nil => exact hs
  | cons o ops ih =>
    exact ih (fun o' ho' => h o' (mem_cons_of_mem o ho')) (h o mem_cons_self s hs)

lemma foldl_at {K : Type} (key : O → K) {P Q : S → Prop} {o : O} {ops : List O}
    (hkeys : ops.Pairwise fun a b => key a ≠ key b) (ho : o ∈ ops)
    (hP : ∀ o' s, key o' ≠ key o → P s → P (step s o'))
    (hQ : ∀ o' s, key o' ≠ key o → Q s → Q (step s o')) (hstep : ∀ s, P s → Q (step s o))
    {s : S} (hs : P s) : Q (ops.foldl step s) := by
  induction ops generalizing s with
  | nil => cases ho
  | cons a ops ih =>
    obtain ⟨ha, hops⟩ := pairwise_cons.mp hkeys
    rcases mem_cons.mp ho with rfl | ho
    · exact foldl_frame (fun b hb s => hQ b s (ha b hb).symm) (hstep s hs)
    · exact ih hops ho (hP a s (ha o ho) hs)

lemma foldl_keeps_iff {K : Type} (key : O → K) {I : S → Prop} {P : K → S → Prop}
    {Q : S → O → Prop} (hI : ∀ s o, I s → I (step s o))
    (hoth : ∀ s o i, I s → i ≠ key o → (P i (step s o) ↔ P i s))
    (hown : ∀ s o, I s → P (key o) s → (P (key o) (step s o) ↔ Q s o)) {ops : List O}
    (hkeys : ops.Pairwise fun a b => key a ≠ key b) {s : S} (hs : I s) (hP : ∀ i, P i s) :
    (∀ i, P i (ops.foldl step s)) ↔ EachStep step Q s ops := by
  have hframe : ∀ (ops : List O) (s : S) (i : K), I s → (∀ o ∈ ops, i ≠ key o) →
      (P i (ops.foldl step s) ↔ P i s) := by
    intro ops
    induction ops with
    | nil => exact fun _ _ _ _ => Iff.rfl
    | cons o ops ih =>
      intro s i hs hne
      refine (ih (step s o) i (hI s o hs) fun o' ho' => hne o' (mem_cons_of_mem o ho')).trans
        (hoth s o i hs (hne o mem_cons_self))
  induction ops generalizing s with
  | nil => exact iff_of_true hP trivial
  | cons o ops ih =>
    obtain ⟨ho, hops⟩ := pairwise_cons.mp hkeys
    have hrest : P (key o) (step s o) → ∀ i, P i (step s o) := by
      intro hkey i
      by_cases hi : i = key o
      · exact hi ▸ hkey
      · exact (hoth s o i hs hi).mpr (hP i)
    constructor
    · intro h
      have hkey := (hframe ops (step s o) (key o) (hI s o hs) ho).mp (h (key o))
      exact ⟨(hown s o hs (hP _)).mp hkey, (ih hops (hI s o hs) (hrest hkey)).mp h⟩
    · intro h
      have hkey := (hown s o hs (hP _)).mpr h.1
      exact (ih hops (hI s o hs) (hrest hkey)).mpr h.2

lemma always_iff_eachStep_of {I : S → List O → Prop} {P : S → Prop} {Q : S → O → Prop}
    (hkeep : ∀ s o ops, I s (o :: ops) → I (step s o) ops)
    (hstep : ∀ s o ops, I s (o :: ops) → P s → (P (step s o) ↔ Q s o)) {s : S} {ops : List O}
    (hI : I s ops) (hP : P s) : Always step P s ops ↔ EachStep step Q s ops := by
  induction ops generalizing s with
  | nil => exact iff_of_true hP trivial
  | cons o ops ih =>
    constructor
    · intro h
      have hnext : P (step s o) := by
        cases ops with
        | nil => exact h.2
        | cons o' ops => exact h.2.1
      exact ⟨(hstep s o ops hI hP).mp hnext, (ih (hkeep s o ops hI) hnext).mp h.2⟩
    · intro h
      have hnext := (hstep s o ops hI hP).mpr h.1
      exact ⟨hP, (ih (hkeep s o ops hI) hnext).mpr h.2⟩

lemma always_iff_eachStep {I P : S → Prop} {Q : S → O → Prop}
    (hkeep : ∀ s o, I s → I (step s o)) (hstep : ∀ s o, I s → P s → (P (step s o) ↔ Q s o))
    {s : S} (hI : I s) (hP : P s) (ops : List O) : Always step P s ops ↔ EachStep step Q s ops :=
  always_iff_eachStep_of (I := fun s _ => I s) (fun s o _ => hkeep s o) (fun s o _ => hstep s o) hI hP

lemma foldlM_settled {R E V : Type} (view : S → V) (Settled : S → R → Prop)
    (Before : R → R → Prop) {apply : S → R → Except E S}
    (hstep : ∀ s r, Settled s r → ∃ s', apply s r = .ok s' ∧ view s' = view s ∧
      ∀ r', Before r r' → Settled s r' → Settled s' r')
    {l : List R} {s : S} (hl : l.Pairwise Before) (hs : ∀ r ∈ l, Settled s r) :
    ∃ s', l.foldlM apply s = .ok s' ∧ view s' = view s := by
  induction l generalizing s with
  | nil => exact ⟨s, rfl, rfl⟩
  | cons r l ih =>
    obtain ⟨hr, hl⟩ := pairwise_cons.mp hl
    obtain ⟨s₁, happ, hview, hkeep⟩ := hstep s r (hs r mem_cons_self)
    have hs₁ : ∀ r' ∈ l, Settled s₁ r' := by
      intro r' hmem
      exact hkeep r' (hr r' hmem) (hs r' (mem_cons_of_mem r hmem))
    obtain ⟨s', hfold, hview'⟩ := ih hl hs₁
    refine ⟨s', ?_, hview'.trans hview⟩
    rw [foldlM_cons, happ]
    exact hfold

end Run
