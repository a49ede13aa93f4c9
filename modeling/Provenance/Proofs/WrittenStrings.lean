import Provenance.Proofs.PairPattern

/-!
Connection strings that are written are read back. A key in good form is found as it stands, since
it ends at the equals sign (`seek_of_isKey`), and a value in braces ends at the first closing brace
that is not one of two, whatever it holds (`braced?_doubleBraces`). So both `parse` and the pattern
of a pair give back the pairs that `write` was given, in their order (`parse_write`).
-/

set_option autoImplicit false
set_option relaxedAutoImplicit false

namespace Provenance

namespace Text

variable {text : List Char}

/-- Neither end of the text is blank. -/
def IsTrimmed (text : List Char) : Prop :=
  (∀ c ∈ text.head?, isBlank c = false) ∧ ∀ c ∈ text.getLast?, isBlank c = false

theorem skipBlanks_of_head (h : ∀ c ∈ text.head?, isBlank c = false) : skipBlanks text = text := by
  cases text with
  | nil => rfl
  | cons c rest => exact skipBlanks_of_not_blank (h c rfl)

theorem IsTrimmed.trim_eq (h : IsTrimmed text) : trim text = text := by
  have hreverse : skipBlanks text.reverse = text.reverse := by
    refine skipBlanks_of_head fun c hc ↦ h.2 c ?_
    rwa [List.head?_reverse] at hc
  rw [trim, skipBlanks_of_head h.1, hreverse, List.reverse_reverse]

end Text

namespace ConnectionString

variable {key value rest : List Char}

/-! ### Keys -/

/-- The key is not empty, has neither an equals sign nor a semicolon in it, and neither end of it
is blank. -/
structure IsKey (key : List Char) : Prop where
  ne_nil : key ≠ []
  chars : ∀ c ∈ key, c ≠ '=' ∧ c ≠ ';'
  trimmed : Text.IsTrimmed key

theorem IsKey.isKeyChar (h : IsKey key) : ∀ c ∈ key, isKeyChar c = true := by
  intro c hc
  obtain ⟨hequals, hsemicolon⟩ := h.chars c hc
  simp [ConnectionString.isKeyChar, hequals, hsemicolon]

/-- A key that starts the text is found, and what follows its equals sign. -/
theorem seek_of_isKey (h : IsKey key) (rest : List Char) :
    seek (key ++ '=' :: rest) = ([], some (key, rest)) := by
  have hrun : (key ++ '=' :: rest).takeWhile isKeyChar = key := by
    rw [List.takeWhile_append_of_pos h.isKeyChar]
    exact List.append_nil key
  have hafter : (key ++ '=' :: rest).dropWhile isKeyChar = '=' :: rest := by
    rw [List.dropWhile_append_of_pos h.isKeyChar]
    rfl
  cases key with
  | nil => exact absurd rfl h.ne_nil
  | cons c key =>
    have hfirst := h.isKeyChar c List.mem_cons_self
    rw [List.cons_append] at hrun hafter ⊢
    unfold seek
    simp only [hrun, hafter, hfirst]

/-! ### Values -/

theorem braced?_of_ne {c : Char} (h : c ≠ '}') (text : List Char) :
    braced? (c :: text) = (braced? text).map fun (value, after) ↦ (c :: value, after) := by
  rw [braced?] <;> simp [h]

/-- A value in braces ends where it was closed. -/
theorem braced?_doubleBraces (value rest : List Char) :
    braced? (doubleBraces value ++ '}' :: ';' :: rest) = some (value, rest) := by
  induction value with
  | nil => rfl
  | cons c value ih =>
    rw [doubleBraces]
    by_cases hbrace : c = '}'
    · rw [if_pos hbrace, List.cons_append, List.cons_append, braced?, ih, hbrace]
      rfl
    · rw [if_neg hbrace, List.cons_append, braced?_of_ne hbrace, ih]
      rfl

theorem value_doubleBraces (value rest : List Char) :
    ConnectionString.value ('{' :: doubleBraces value ++ '}' :: ';' :: rest) = (value, rest) := by
  change (braced? (doubleBraces value ++ '}' :: ';' :: rest)).getD _ = _
  rw [braced?_doubleBraces, Option.getD_some]

/-! ### Pairs -/

/-- A pair that starts the text is read, and then those of the text that follows. -/
theorem pairsOf_writePair {pair : String × String} (h : IsKey pair.1.toList) (fuel : Nat)
    (rest : List Char) :
    pairsOf (fuel + 1) (writePair pair ++ rest) = (pairsOf fuel rest).map (pair :: ·) := by
  have htext : writePair pair ++ rest =
      pair.1.toList ++ '=' :: ('{' :: doubleBraces pair.2.toList ++ '}' :: ';' :: rest) := by
    simp [writePair]
  rw [htext, pairsOf, seek_of_isKey h]
  simp only [value_doubleBraces, h.trimmed.trim_eq, String.ofList_toList]
  cases pairsOf fuel rest <;> rfl

theorem pairsOf_flatMap_writePair {pairs : List (String × String)}
    (h : ∀ pair ∈ pairs, IsKey pair.1.toList) {fuel : Nat} (hfuel : pairs.length ≤ fuel) :
    pairsOf fuel (pairs.flatMap writePair) = .ok pairs := by
  induction pairs generalizing fuel with
  | nil => cases fuel <;> rfl
  | cons pair pairs ih =>
    obtain ⟨hpair, hpairs⟩ := List.forall_mem_cons.mp h
    obtain ⟨fuel, rfl⟩ : ∃ less, fuel = less + 1 := Nat.exists_eq_add_one.mpr (by
      exact Nat.lt_of_lt_of_le (Nat.succ_pos _) hfuel)
    rw [List.flatMap_cons, pairsOf_writePair hpair, ih hpairs (Nat.le_of_succ_le_succ hfuel)]
    rfl

theorem length_le_length_flatMap_writePair (pairs : List (String × String)) :
    pairs.length ≤ (pairs.flatMap writePair).length := by
  induction pairs with
  | nil => exact Nat.le_refl 0
  | cons pair pairs ih =>
    have hpair : 0 < (writePair pair).length := by
      rw [writePair, List.length_append, List.length_cons]
      omega
    rw [List.flatMap_cons, List.length_append, List.length_cons]
    omega

/-- Whatever the values hold, the pairs of a connection string are read as they were written if
their keys are in good form, and they are the pairs that the pattern finds in it. -/
theorem parse_write (c : ConnectionString) (h : ∀ pair ∈ c.pairs, IsKey pair.1.toList) :
    parse c.write = .ok c ∧
      matchedPairs c.write.toList.length c.write.toList = .ok c.pairs := by
  have hread : pairsOf c.write.toList.length c.write.toList = .ok c.pairs := by
    rw [write, String.toList_ofList]
    exact pairsOf_flatMap_writePair h (length_le_length_flatMap_writePair c.pairs)
  constructor
  · rw [parse, hread]
  · rw [matchedPairs_eq, hread]

/-- Separators, braces and blanks at the ends of values, and a blank within a key. -/
theorem parse_write_awkward :
    parse (write ⟨[("PWD", " a;b=c\x7d\x7d \n"), ("data source", "\x7b\x7d;x=\x7d")]⟩) =
      .ok ⟨[("PWD", " a;b=c\x7d\x7d \n"), ("data source", "\x7b\x7d;x=\x7d")]⟩ := by
  refine (parse_write _ (List.forall_mem_cons.mpr ⟨?_, List.forall_mem_singleton.mpr ?_⟩)).1
  · exact ⟨by decide, by simp, by simp [Text.IsTrimmed]; decide⟩
  · exact ⟨by decide, by simp, by simp [Text.IsTrimmed]; decide⟩

end ConnectionString

end Provenance
