import BrainDb.Graph.Names

namespace BrainDb
open List Schema.Unicode TextFolding
section
variable {p : Char → Bool} {l w : List Char} {ws : List (List Char)}

lemma eq_false_of_mem_splitOnP {c : Char} (hw : w ∈ l.splitOnP p) (hc : c ∈ w) : p c = false := by
  induction l generalizing w with
  | nil =>
    rw [splitOnP_nil, mem_singleton] at hw
    rw [hw] at hc
    cases hc
  | cons a l ih =>
    rw [splitOnP_cons_eq_if_modifyHead] at hw
    split at hw
    · rcases mem_cons.mp hw with rfl | hw
      · cases hc
      · exact ih hw hc
    next ha =>
      obtain ⟨first, rest, hcut⟩ := exists_cons_of_ne_nil (splitOnP_ne_nil p l)
      rw [hcut, modifyHead_cons] at hw
      rw [hcut] at ih
      rcases mem_cons.mp hw with rfl | hw
      · rcases mem_cons.mp hc with rfl | hc
        · simpa using ha
        · exact ih mem_cons_self hc
      · exact ih (mem_cons_of_mem first hw) hc

def Separate (p : Char → Bool) (ws : List (List Char)) : Prop :=
  ∀ w ∈ ws, w ≠ [] ∧ ∀ c ∈ w, p c = false

lemma splitOnP_intercalate (hsp : p ' ' = true) (h : Separate p ws) :
    (([' '].intercalate ws).splitOnP p).filter (· ≠ []) = ws := by
  induction ws with
  | nil => rfl
  | cons w ws ih =>
    obtain ⟨⟨hne, hw⟩, h⟩ := forall_mem_cons.mp h
    cases ws with
    | nil => simp [splitOnP_eq_singleton hw, hne]
    | cons v ws =>
      have hjoin : [' '].intercalate (w :: v :: ws) = w ++ ' ' :: [' '].intercalate (v :: ws) :=
        by simp
      rw [hjoin, splitOnP_append_cons_of_forall_mem hw _ hsp, filter_cons_of_pos (by simpa), ih h]
end

def determiners : List (List Char) := articles.map dropLast

def stripWords : List (List Char) → List (List Char)
  | d :: w :: ws => if d ∈ determiners then w :: ws else d :: w :: ws
  | ws => ws

def twiceDetermined : List (List Char) → Bool
  | d :: e :: _ :: _ => d ∈ determiners && e ∈ determiners
  | _ => false

variable {ws : List (List Char)}

lemma stripWords_stripWords_iff :
    stripWords (stripWords ws) = stripWords ws ↔ twiceDetermined ws = false := by
  rcases ws with _ | ⟨d, _ | ⟨e, _ | ⟨w, ws⟩⟩⟩
  · simp [stripWords, twiceDetermined]
  · simp [stripWords, twiceDetermined]
  · by_cases hd : d ∈ determiners <;> simp [stripWords, twiceDetermined, hd]
  · by_cases hd : d ∈ determiners
    · by_cases he : e ∈ determiners <;> simp [stripWords, twiceDetermined, hd, he]
    · simp [stripWords, twiceDetermined, hd]

/-- A list that loses its determiner gets shorter. -/
lemma stripWords_eq_of_length (h : (stripWords ws).length = ws.length) : stripWords ws = ws := by
  unfold stripWords at h ⊢
  split
  · split
    next hd => simp [hd] at h
    · rfl
  · rfl

lemma mem_of_mem_stripWords {w : List Char} (h : w ∈ stripWords ws) : w ∈ ws := by
  unfold stripWords at h
  split at h
  · split at h
    · exact mem_cons_of_mem _ h
    · exact h
  · exact h

lemma append_space_inj {a d r s : List Char} (ha : ' ' ∉ a) (hd : ' ' ∉ d)
    (h : a ++ ' ' :: r = d ++ ' ' :: s) : a = d ∧ r = s := by
  induction a generalizing d with
  | nil => cases d <;> grind
  | cons c a ih => cases d <;> grind

lemma findSome?_article {s : List Char} {d r : List Char} (hd : ' ' ∉ d) (hr : r ≠ [])
    (hs : s = d ++ ' ' :: r) :
    articles.findSome? (fun art => (art.isPrefixOf? s).filter fun rest => rest ≠ []) =
      if d ∈ determiners then some r else none := by
  have hsp : ∀ a ∈ determiners, ' ' ∉ a := by decide
  rw [show articles = determiners.map (· ++ [' ']) from rfl, findSome?_map]
  generalize determiners = l at hsp ⊢
  induction l with
  | nil => rfl
  | cons a l ih =>
    obtain ⟨ha, hl⟩ := forall_mem_cons.mp hsp
    rw [findSome?_cons, ih hl]
    by_cases had : a = d
    · subst had
      have hbeg : (a ++ [' ']).isPrefixOf? s = some r :=
        isPrefixOf?_eq_some_iff_append_eq.mpr (by simp [hs])
      simp [hbeg, Option.filter, hr]
    · have hbeg : (a ++ [' ']).isPrefixOf? s = none := by
        refine Option.eq_none_iff_forall_ne_some.mpr fun rest hrest => had ?_
        have happ := isPrefixOf?_eq_some_iff_append_eq.mp hrest
        rw [hs, append_assoc] at happ
        exact (append_space_inj ha hd happ).1
      simp [hbeg, Ne.symm had]

lemma stripLeadingDeterminer_intercalate (h : Separate (fun c => c = ' ') ws) :
    stripLeadingDeterminer ([' '].intercalate ws) = [' '].intercalate (stripWords ws) := by
  have hno : ∀ w ∈ ws, ' ' ∉ w := fun w hw hmem => by simpa using (h w hw).2 ' ' hmem
  rcases ws with _ | ⟨d, _ | ⟨w, ws⟩⟩
  · rfl
  · -- every article has a space and a word has none
    have hnone : articles.findSome? (fun art => (art.isPrefixOf? d).filter fun rest => rest ≠ []) =
        none := by
      refine findSome?_eq_none_iff.mpr fun art hart => ?_
      have hsp : ∀ a ∈ articles, ' ' ∈ a := by decide
      rw [Option.filter_eq_none_iff]
      intro rest hrest
      have happ := isPrefixOf?_eq_some_iff_append_eq.mp hrest
      exact absurd (happ ▸ mem_append_left rest (hsp art hart)) (hno d mem_cons_self)
    simp only [stripWords, intercalate_singleton, stripLeadingDeterminer, hnone, Option.getD_none]
  · have hjoin : [' '].intercalate (d :: w :: ws) = d ++ ' ' :: [' '].intercalate (w :: ws) := by simp
    have hne : [' '].intercalate (w :: ws) ≠ [] := by
      have hw := (h w (by simp)).1
      cases ws <;> simp [hw]
    unfold stripLeadingDeterminer
    simp only [findSome?_article (hno d mem_cons_self) hne hjoin, stripWords]
    split <;> rfl

class LawfulFolding [TextFolding] : Prop where
  space : isWhitespace ' ' = true
  words_nfc : ∀ s, splitWhitespace (nfc s) = (splitWhitespace s).map nfc
  words_toLowercase : ∀ s, splitWhitespace (toLowercase s) = (splitWhitespace s).map toLowercase

open LawfulFolding
section
variable [TextFolding]

def foldWord (w : List Char) : List Char := toLowercase (nfc w)

def foldedWords (s : String) : List (List Char) := (splitWhitespace s.toList).map foldWord

lemma splitWhitespace_trim (s : List Char) : splitWhitespace (trim s) = splitWhitespace s := by
  have hleft : ∀ l, splitWhitespace (l.dropWhile isWhitespace) = splitWhitespace l := by
    intro l
    induction l with
    | nil => rfl
    | cons c l ih =>
      rw [dropWhile_cons]
      split
      next hc => rw [ih]; simp [splitWhitespace, splitOnP_cons_eq_if_modifyHead, hc]
      · rfl
  rw [trim, ← hleft s]
  generalize s.dropWhile isWhitespace = l
  induction l using reverseRecOn with
  | nil => rfl
  | append_singleton l c ih =>
    rw [rdropWhile_concat]
    split
    next hc => rw [ih]; simp [splitWhitespace, splitOnP_append_cons l [] hc]
    · rfl

lemma separate_splitWhitespace (s : List Char) : Separate isWhitespace (splitWhitespace s) := by
  intro w hw
  obtain ⟨hw, hne⟩ := mem_filter.mp hw
  exact ⟨by simpa using hne, fun c hc => eq_false_of_mem_splitOnP hw hc⟩

variable [LawfulFolding]

lemma foldedWords_eq (s : String) :
    splitWhitespace (toLowercase (trim (nfc s.toList))) = foldedWords s := by
  rw [words_toLowercase, splitWhitespace_trim, words_nfc, map_map]
  rfl

lemma separate_foldedWords (s : String) : Separate isWhitespace (foldedWords s) :=
  foldedWords_eq s ▸ separate_splitWhitespace _

lemma normalizeName_eq (s : String) :
    normalizeName s = String.ofList ([' '].intercalate (stripWords (foldedWords s))) := by
  have h : Separate (fun c => c = ' ') (foldedWords s) := by
    intro w hw
    obtain ⟨hne, hw⟩ := separate_foldedWords s w hw
    refine ⟨hne, fun c hc => decide_eq_false ?_⟩
    rintro rfl
    exact absurd (hw ' ' hc) (by simp [space])
  rw [normalizeName, foldedWords_eq, stripLeadingDeterminer_intercalate h]

/-- A normalized name is its own normal form exactly if folding changes none of its words and it
does not go on after two determiners. -/
theorem normalizeName_idempotent_iff (s : String) :
    normalizeName (normalizeName s) = normalizeName s ↔
      (∀ w ∈ stripWords (foldedWords s), foldWord w = w) ∧
        twiceDetermined (foldedWords s) = false := by
  have hsep : Separate isWhitespace (stripWords (foldedWords s)) :=
    fun w hw => separate_foldedWords s w (mem_of_mem_stripWords hw)
  have hwords : splitWhitespace (normalizeName s).toList = stripWords (foldedWords s) := by
    rw [normalizeName_eq, String.toList_ofList]
    exact splitOnP_intercalate space hsep
  have hagain : foldedWords (normalizeName s) = (stripWords (foldedWords s)).map foldWord := by
    rw [foldedWords, hwords]
  have hsep' : Separate isWhitespace (stripWords (foldedWords (normalizeName s))) :=
    fun w hw => separate_foldedWords _ w (mem_of_mem_stripWords hw)
  rw [← stripWords_stripWords_iff]
  constructor
  · intro h
    -- the words of both names, the second of which has been folded once more
    have hsame : stripWords ((stripWords (foldedWords s)).map foldWord) =
        stripWords (foldedWords s) := by
      rw [normalizeName_eq (normalizeName s), normalizeName_eq s, String.ofList_inj,
        ← normalizeName_eq] at h
      have hcut := congrArg (fun l => (l.splitOnP isWhitespace).filter (· ≠ [])) h
      rwa [splitOnP_intercalate space hsep', splitOnP_intercalate space hsep, hagain]
        at hcut
    have hkept := stripWords_eq_of_length (by rw [hsame, length_map])
    have hfixed := hkept.symm.trans hsame
    refine ⟨fun w hw => ?_, hfixed ▸ hkept⟩
    exact map_inj_left.mp (hfixed.trans (map_id _).symm) w hw
  · rintro ⟨hfolded, hstripped⟩
    have hfixed : (stripWords (foldedWords s)).map foldWord = stripWords (foldedWords s) :=
      (map_congr_left hfolded).trans (map_id _)
    rw [normalizeName_eq, hagain, hfixed, hstripped, ← normalizeName_eq]
end

@[reducible] def plainFolding : TextFolding := { asciiFolding with toLowercase := id }

lemma plainFolding_lawful : @LawfulFolding plainFolding :=
  letI := plainFolding
  ⟨rfl, fun _ => (map_id _).symm, fun _ => (map_id _).symm⟩

theorem team_normalized_once :
    @normalizeName plainFolding (@normalizeName plainFolding "the  team") =
      @normalizeName plainFolding "the  team" :=
  (@normalizeName_idempotent_iff plainFolding plainFolding_lawful "the  team").mpr
    ⟨fun _ _ => rfl, by decide +kernel⟩

/-- The second article goes when the name is normalized once more. -/
theorem a_the_team_normalized_twice :
    @LawfulFolding plainFolding ∧ @normalizeName plainFolding "a the team" = "the team" ∧
      @normalizeName plainFolding (@normalizeName plainFolding "a the team") = "team" :=
  ⟨plainFolding_lawful, by decide +kernel, by decide +kernel⟩

end BrainDb
