import Mathlib.Data.List.Infix
import Provenance.Text.Like

/-!
What a text pattern matches, said without an algorithm (`Text.Matches`). The matcher keeps what may
be left of the text after each sign of the pattern, and its answer is that of the description
(`like_eq_true_iff`), since everything that may be left is an end of the longest that may be: after
`%` the ends of that one are all there is. Every text matches itself, the wild cards that occur in
it included (`matches_self`), and `%` alone matches every text (`matches_percent`).
-/

set_option autoImplicit false
set_option relaxedAutoImplicit false

namespace Provenance.Text

/-- The pattern matches the text: `%` stands for any run of characters, `_` for exactly one, and
every other sign for itself, an ASCII letter also for its other case. -/
inductive Matches : List Char → List Char → Prop
  | nil : Matches [] []
  | run (taken : List Char) {pattern text : List Char} (h : Matches pattern text) :
      Matches ('%' :: pattern) (taken ++ text)
  | one (c : Char) {pattern text : List Char} (h : Matches pattern text) :
      Matches ('_' :: pattern) (c :: text)
  | letter {sign c : Char} {pattern text : List Char} (hrun : sign ≠ '%') (hone : sign ≠ '_')
      (hsame : sign.toLower = c.toLower) (h : Matches pattern text) :
      Matches (sign :: pattern) (c :: text)

variable {sign : Char} {pattern text rest : List Char} {left : List (List Char)}

/-! ### One sign -/

theorem matches_nil_iff : Matches [] text ↔ text = [] := by
  constructor
  · rintro ⟨⟩
    rfl
  · rintro rfl
    exact .nil

theorem matches_run_iff :
    Matches ('%' :: pattern) text ↔ ∃ rest, rest <:+ text ∧ Matches pattern rest := by
  constructor
  · intro h
    cases h with
    | run taken h => exact ⟨_, List.suffix_append _ _, h⟩
    | letter hrun => exact absurd rfl hrun
  · rintro ⟨rest, ⟨taken, rfl⟩, h⟩
    exact .run taken h

theorem matches_one_iff :
    Matches ('_' :: pattern) text ↔ ∃ rest, text.tail? = some rest ∧ Matches pattern rest := by
  constructor
  · intro h
    cases h with
    | one c h => exact ⟨_, rfl, h⟩
    | letter _ hone => exact absurd rfl hone
  · rintro ⟨rest, htail, h⟩
    cases text with
    | nil => cases htail
    | cons c text =>
      obtain rfl : text = rest := Option.some.inj htail
      exact .one c h

theorem afterLetter?_eq_some_iff :
    afterLetter? sign text = some rest ↔ ∃ c, text = c :: rest ∧ sign.toLower = c.toLower := by
  cases text with
  | nil => simp [afterLetter?]
  | cons c text =>
    simp only [afterLetter?, beq_iff_eq, Option.ite_none_right_eq_some, Option.some_inj,
      List.cons.injEq]
    constructor
    · rintro ⟨hsame, rfl⟩
      exact ⟨c, ⟨rfl, rfl⟩, hsame⟩
    · rintro ⟨c', ⟨rfl, rfl⟩, hsame⟩
      exact ⟨hsame, rfl⟩

theorem matches_letter_iff (hrun : sign ≠ '%') (hone : sign ≠ '_') :
    Matches (sign :: pattern) text ↔
      ∃ rest, afterLetter? sign text = some rest ∧ Matches pattern rest := by
  constructor
  · intro h
    cases h with
    | run => exact absurd rfl hrun
    | one => exact absurd rfl hone
    | letter _ _ hsame h => exact ⟨_, afterLetter?_eq_some_iff.mpr ⟨_, rfl, hsame⟩, h⟩
  · rintro ⟨rest, hleft, h⟩
    obtain ⟨c, rfl, hsame⟩ := afterLetter?_eq_some_iff.mp hleft
    exact .letter hrun hone hsame h

/-! ### What may be left -/

theorem mem_ends : rest ∈ ends text ↔ rest <:+ text := by
  induction text with
  | nil => rw [ends, List.mem_singleton, List.suffix_nil]
  | cons c text ih => rw [ends, List.mem_cons, ih, List.suffix_cons_iff]

/-- Each of the lists is an end of those before it. -/
def Nested (left : List (List Char)) : Prop := left.Pairwise fun longer shorter ↦ shorter <:+ longer

theorem nested_ends (text : List Char) : Nested (ends text) := by
  induction text with
  | nil => exact List.pairwise_singleton _ _
  | cons c text ih =>
    refine List.pairwise_cons.mpr ⟨fun rest hrest ↦ ?_, ih⟩
    exact (mem_ends.mp hrest).trans (List.suffix_cons c text)

/-- Taking a first character from each of them, where it is of some sort, leaves them nested. -/
theorem Nested.filterMap (h : Nested left) {step : List Char → Option (List Char)}
    (hstep : ∀ {text rest}, step text = some rest → ∃ c, text = c :: rest) :
    Nested (left.filterMap step) := by
  refine List.pairwise_filterMap.mpr ?_
  refine h.imp fun {longer shorter} hend taken htaken other hother ↦ ?_
  obtain ⟨c, rfl⟩ := hstep htaken
  obtain ⟨c', rfl⟩ := hstep hother
  rcases List.suffix_cons_iff.mp hend with hsame | hshorter
  · rw [(List.cons.inj hsame).2]
  · exact (List.suffix_cons c' other).trans hshorter

theorem Nested.afterSign (h : Nested left) (sign : Char) : Nested (afterSign sign left) := by
  unfold Text.afterSign
  by_cases hrun : sign = '%'
  · rw [if_pos hrun]
    cases left with
    | nil => exact .nil
    | cons longest others => exact nested_ends longest
  rw [if_neg hrun]
  by_cases hone : sign = '_'
  · rw [if_pos hone]
    refine h.filterMap fun {text rest} htail ↦ ?_
    cases text with
    | nil => cases htail
    | cons c text => exact ⟨c, by rw [Option.some.inj htail]⟩
  · rw [if_neg hone]
    refine h.filterMap fun {text rest} hleft ↦ ?_
    obtain ⟨c, htext, -⟩ := afterLetter?_eq_some_iff.mp hleft
    exact ⟨c, htext⟩

/-- One more sign matches a part of one of the lists if what may be left after it matches. -/
theorem exists_matches_afterSign (h : Nested left) :
    (∃ rest ∈ afterSign sign left, Matches pattern rest) ↔
      ∃ text ∈ left, Matches (sign :: pattern) text := by
  have hstep : ∀ step : List Char → Option (List Char),
      (∀ text, Matches (sign :: pattern) text ↔
        ∃ rest, step text = some rest ∧ Matches pattern rest) →
      ((∃ rest ∈ left.filterMap step, Matches pattern rest) ↔
        ∃ text ∈ left, Matches (sign :: pattern) text) := by
    intro step hmatches
    simp only [List.mem_filterMap, hmatches]
    constructor
    · rintro ⟨rest, ⟨text, htext, hrest⟩, hmatch⟩
      exact ⟨text, htext, rest, hrest, hmatch⟩
    · rintro ⟨text, htext, rest, hrest, hmatch⟩
      exact ⟨rest, ⟨text, htext, hrest⟩, hmatch⟩
  unfold afterSign
  by_cases hrun : sign = '%'
  · subst hrun
    rw [if_pos rfl]
    simp only [matches_run_iff]
    cases left with
    | nil => simp
    | cons longest others =>
      constructor
      · rintro ⟨rest, hrest, hmatch⟩
        exact ⟨longest, List.mem_cons_self, rest, mem_ends.mp hrest, hmatch⟩
      · rintro ⟨text, htext, rest, hrest, hmatch⟩
        -- Whatever it is an end of is an end of the longest.
        have hlongest : text <:+ longest := by
          rcases List.mem_cons.mp htext with rfl | htext
          · exact List.suffix_rfl
          · exact (List.pairwise_cons.mp h).1 text htext
        exact ⟨rest, mem_ends.mpr (hrest.trans hlongest), hmatch⟩
  rw [if_neg hrun]
  by_cases hone : sign = '_'
  · subst hone
    rw [if_pos rfl]
    exact hstep _ fun text ↦ matches_one_iff
  · rw [if_neg hone]
    exact hstep _ fun text ↦ matches_letter_iff hrun hone

/-- After the whole pattern nothing may be left exactly if it matches one of the lists. -/
theorem nil_mem_foldl_afterSign (h : Nested left) :
    [] ∈ pattern.foldl (fun left sign ↦ afterSign sign left) left ↔
      ∃ text ∈ left, Matches pattern text := by
  induction pattern generalizing left with
  | nil => simp [matches_nil_iff]
  | cons sign pattern ih => rw [List.foldl_cons, ih (h.afterSign sign), exists_matches_afterSign h]

/-- The matcher tells what the pattern matches. -/
theorem like_eq_true_iff : like pattern text = true ↔ Matches pattern text := by
  rw [like, List.contains_iff_mem, nil_mem_foldl_afterSign (List.pairwise_singleton _ _)]
  simp only [List.mem_singleton, exists_eq_left]

/-! ### Texts as patterns -/

/-- A text matches itself, whatever signs occur in it. -/
theorem matches_self (text : List Char) : Matches text text := by
  induction text with
  | nil => exact .nil
  | cons c text ih =>
    by_cases hrun : c = '%'
    · subst hrun
      exact .run ['%'] ih
    by_cases hone : c = '_'
    · subst hone
      exact .one '_' ih
    · exact .letter hrun hone rfl ih

theorem matches_percent (text : List Char) : Matches ['%'] text := by
  have h := Matches.run text .nil
  rwa [List.append_nil] at h

/-- A wild card in the middle, one for a single character, and a letter in its other case. -/
example : Matches "a%_c".toList "AxyzC".toList := by
  rw [← like_eq_true_iff]
  decide

end Provenance.Text
