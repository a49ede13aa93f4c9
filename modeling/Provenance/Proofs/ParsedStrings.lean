import Mathlib.Data.List.DropRight
import Provenance.Proofs.WrittenStrings

/-!
What a text has to be for `parse` to accept it, and which pairs can be written back. `Splits` reads
a text as pairs without looking for them: before an equals sign stands a run of key characters, as
long as it goes, and before the run nothing but blanks and semicolons, the last of them a semicolon.
`parse` accepts the texts that split so and no others, with the pairs they split into
(`parse_eq_ok_iff`). A run is never empty, yet it may be all blank, and then its key is the empty
text; such a pair cannot be read back from the braced form, in which nothing stands before its
equals sign (`accepted_written_back`).
-/

set_option autoImplicit false
set_option relaxedAutoImplicit false

namespace Provenance

namespace Text

variable {text : List Char} {c : Char}

theorem trim_eq_rdropWhile (text : List Char) :
    trim text = (text.dropWhile isBlank).rdropWhile isBlank :=
  rfl

theorem mem_of_mem_trim (h : c ∈ trim text) : c ∈ text :=
  List.dropWhile_subset _ ((List.rdropWhile_prefix isBlank _).subset h)

theorem isTrimmed_trim (text : List Char) : IsTrimmed (trim text) := by
  constructor
  · intro c hc
    obtain ⟨rest, hrest⟩ : trim text <+: text.dropWhile isBlank :=
      List.rdropWhile_prefix isBlank _
    obtain ⟨kept, hkept⟩ := List.head?_eq_some_iff.mp (Option.mem_def.mp hc)
    have hhead : (text.dropWhile isBlank).head? = some c := by
      rw [← hrest, hkept]
      rfl
    have hstop := List.head?_dropWhile_not isBlank text
    rw [hhead] at hstop
    exact hstop
  · intro c hc
    have hne : trim text ≠ [] := by
      rintro hnil
      rw [hnil] at hc
      exact absurd hc (Option.not_mem_none c)
    have hlast : ¬isBlank ((trim text).getLast hne) = true :=
      List.rdropWhile_last_not isBlank (text.dropWhile isBlank) hne
    rw [List.getLast?_eq_some_getLast hne, Option.mem_some_iff] at hc
    rw [← hc]
    exact Bool.eq_false_iff.mpr hlast

theorem trim_eq_nil_iff : trim text = [] ↔ ∀ c ∈ text, isBlank c = true := by
  rw [trim_eq_rdropWhile, List.rdropWhile_eq_nil_iff]
  constructor
  · intro h c hc
    rw [← List.takeWhile_append_dropWhile (p := isBlank) (l := text)] at hc
    rcases List.mem_append.mp hc with hc | hc
    · exact List.mem_takeWhile_imp hc
    · exact h c hc
  · exact fun h c hc ↦ h c (List.dropWhile_subset _ hc)

end Text

namespace ConnectionString

variable {text gap run rest : List Char} {c : Char}

/-! ### Texts that split into pairs -/

/-- A pair as it stands in a text: all that is before its equals sign, and its value as it is
read. -/
structure Part where
  run : List Char
  value : List Char

def Part.pair (part : Part) : String × String :=
  (String.ofList (Text.trim part.run), String.ofList part.value)

/-- Semicolons and blanks, a semicolon the last of them, or nothing. -/
structure IsBreak (gap : List Char) : Prop where
  isGap : isGap gap = true
  closed : ∀ c ∈ gap.getLast?, c = ';'

/-- The text is made of the parts, with gaps before and after them. -/
inductive Splits : List Char → List Part → Prop
  | done {text : List Char} (hgap : isGap text = true) : Splits text []
  | pair {gap run rest : List Char} {parts : List Part} (hgap : IsBreak gap) (hne : run ≠ [])
      (hrun : ∀ c ∈ run, isKeyChar c = true) (hrest : Splits (value rest).2 parts) :
      Splits (gap ++ (run ++ '=' :: rest)) (⟨run, (value rest).1⟩ :: parts)

/-! ### What is sought -/

theorem takeWhile_run (hrun : ∀ c ∈ run, isKeyChar c = true) (rest : List Char) :
    (run ++ '=' :: rest).takeWhile isKeyChar = run := by
  rw [List.takeWhile_append_of_pos hrun]
  exact List.append_nil run

theorem dropWhile_run (hrun : ∀ c ∈ run, isKeyChar c = true) (rest : List Char) :
    (run ++ '=' :: rest).dropWhile isKeyChar = '=' :: rest := by
  rw [List.dropWhile_append_of_pos hrun]
  rfl

theorem seek_cons_of_dropWhile_ne (h : ∀ value, isKeyChar c = true →
      (c :: text).dropWhile isKeyChar ≠ '=' :: value) :
    seek (c :: text) = (c :: (seek text).1, (seek text).2) := by
  rw [seek]
  split
  · rename_i value hc hafter
    exact absurd hafter (h value hc)
  · rfl

/-- What is sought is the first run of key characters that goes on to an equals sign. -/
theorem seek_cases (text : List Char) :
    seek text = (text, none) ∨
      ∃ gap run rest, seek text = (gap, some (run, rest)) ∧ text = gap ++ (run ++ '=' :: rest) ∧
        run ≠ [] ∧ (∀ c ∈ run, isKeyChar c = true) ∧ ∀ c ∈ gap.getLast?, isKeyChar c = false := by
  induction text with
  | nil => exact .inl rfl
  | cons c text ih =>
    by_cases hfound : ∃ value, isKeyChar c = true ∧ (c :: text).dropWhile isKeyChar = '=' :: value
    · obtain ⟨value, hc, hafter⟩ := hfound
      refine .inr ⟨[], (c :: text).takeWhile isKeyChar, value, ?_, ?_, ?_, ?_, by simp⟩
      · rw [seek, hafter, hc]
        rfl
      · rw [← hafter, List.takeWhile_append_dropWhile]
        rfl
      · rw [List.takeWhile_cons_of_pos hc]
        exact List.cons_ne_nil _ _
      · exact fun c hc ↦ List.mem_takeWhile_imp hc
    · rw [seek_cons_of_dropWhile_ne fun value hc hafter ↦ hfound ⟨value, hc, hafter⟩]
      rcases ih with hnone | ⟨gap, run, rest, hseek, rfl, hne, hrun, hlast⟩
      · exact .inl (by rw [hnone])
      · refine .inr ⟨c :: gap, run, rest, by rw [hseek], rfl, hne, hrun, ?_⟩
        cases gap with
        | nil =>
          -- A key character right before the run would be part of it.
          intro b hb
          obtain rfl : c = b := Option.mem_some_iff.mp hb
          by_contra hc
          have hc : isKeyChar c = true := Bool.of_not_eq_false hc
          exact hfound ⟨rest, hc, dropWhile_run (List.forall_mem_cons.mpr ⟨hc, hrun⟩) rest⟩
        | cons first gap => exact fun c hc ↦ hlast c (by simpa using hc)

theorem ne_equals_of_isGap (hgap : isGap gap = true) : ∀ c ∈ gap, c ≠ '=' := by
  rintro c hc rfl
  exact Bool.false_ne_true (List.all_eq_true.mp hgap _ hc)

theorem eq_semicolon_of_isGap (hgap : isGap gap = true) (hmem : c ∈ gap)
    (hkey : isKeyChar c = false) : c = ';' := by
  have hc : c = ';' ∨ Text.isBlank c = true := by
    simpa using List.all_eq_true.mp hgap c hmem
  refine hc.resolve_right fun hblank ↦ ?_
  rw [isKeyChar_of_blank hblank] at hkey
  exact Bool.false_ne_true hkey.symm

/-- There is no pair in a gap. -/
theorem seek_of_isGap (hgap : isGap text = true) : seek text = (text, none) := by
  rcases seek_cases text with hnone | ⟨gap, run, rest, -, rfl, -⟩
  · exact hnone
  · exact absurd rfl (ne_equals_of_isGap hgap '=' (by simp))

/-- After a gap that is closed the run of key characters up to an equals sign is found. -/
theorem seek_of_isBreak (hgap : IsBreak gap) (hne : run ≠ [])
    (hrun : ∀ c ∈ run, isKeyChar c = true) (rest : List Char) :
    seek (gap ++ (run ++ '=' :: rest)) = (gap, some (run, rest)) := by
  obtain ⟨hgap, hlast⟩ := hgap
  induction gap with
  | nil =>
    cases run with
    | nil => exact absurd rfl hne
    | cons c run =>
      have hc := hrun c List.mem_cons_self
      have htake := takeWhile_run hrun rest
      have hdrop := dropWhile_run hrun rest
      rw [List.cons_append] at htake hdrop
      rw [List.nil_append, List.cons_append, seek, htake, hdrop, hc]
      rfl
  | cons c gap ih =>
    obtain ⟨hc, hlater⟩ : _ ∧ isGap gap = true := by simpa [isGap] using hgap
    have hends : ∀ value, isKeyChar c = true →
        (c :: (gap ++ (run ++ '=' :: rest))).dropWhile isKeyChar ≠ '=' :: value := by
      intro value hkey hafter
      -- The semicolon at the end of the gap ends the run before the equals sign does.
      have hsemicolon : ';' ∈ c :: gap := by
        rw [← hlast _ (List.getLast?_eq_some_getLast (List.cons_ne_nil c gap))]
        exact List.getLast_mem _
      have hleft : (c :: gap).dropWhile isKeyChar ≠ [] := by
        rw [Ne, List.dropWhile_eq_nil_iff]
        exact fun hall ↦ Bool.false_ne_true (hall ';' hsemicolon)
      obtain ⟨b, left, hb⟩ := List.exists_cons_of_ne_nil hleft
      rw [← List.cons_append, List.dropWhile_append, hb, List.isEmpty_cons,
        if_neg Bool.false_ne_true, List.cons_append] at hafter
      obtain ⟨rfl, -⟩ := List.cons.inj hafter
      have hmem : '=' ∈ (c :: gap).dropWhile isKeyChar := hb ▸ List.mem_cons_self
      exact ne_equals_of_isGap hgap '=' (List.dropWhile_subset isKeyChar hmem) rfl
    rw [List.cons_append, seek_cons_of_dropWhile_ne hends]
    have hlastLater : ∀ b ∈ gap.getLast?, b = ';' := by
      intro b hb
      refine hlast b ?_
      cases gap with
      | nil => exact absurd hb (Option.not_mem_none b)
      | cons first gap => simpa using hb
    rw [ih hlater hlastLater]

/-! ### What is accepted -/

theorem pairEnd?_length {after : List Char} (h : pairEnd? text = some after) :
    after.length ≤ text.length := by
  rw [pairEnd?_eq, Option.ite_none_right_eq_some, Option.some_inj] at h
  rw [← h.2, List.length_drop]
  exact Nat.le_trans (Nat.sub_le _ 1) (List.dropWhile_suffix _).length_le

theorem braced?_length {found : List Char × List Char} (h : braced? text = some found) :
    found.2.length ≤ text.length := by
  fun_induction braced? text generalizing found with
  | case1 => exact absurd h (Option.some_ne_none _).symm
  | case2 rest ih =>
    obtain ⟨inner, hinner, rfl⟩ := Option.map_eq_some_iff.mp h
    have hlength := ih hinner
    exact Nat.le_trans hlength (Nat.le_add_right _ 2)
  | case3 rest _ =>
    obtain ⟨after, hafter, rfl⟩ := Option.map_eq_some_iff.mp h
    exact Nat.le_succ_of_le (pairEnd?_length hafter)
  | case4 c rest _ _ ih =>
    obtain ⟨inner, hinner, rfl⟩ := Option.map_eq_some_iff.mp h
    have hlength := ih hinner
    exact Nat.le_succ_of_le hlength

theorem plain_length (text : List Char) : (plain text).2.length ≤ text.length := by
  rw [plain, List.length_drop]
  exact Nat.le_trans (Nat.sub_le _ 1) (List.dropWhile_suffix _).length_le

theorem value_length (text : List Char) : (value text).2.length ≤ text.length := by
  by_cases hbrace : ∃ inner, Text.skipBlanks text = '{' :: inner
  · obtain ⟨inner, hinner⟩ := hbrace
    have hskip : inner.length + 1 ≤ text.length := by
      rw [← List.length_cons (a := '{'), ← hinner]
      exact (List.dropWhile_suffix Text.isBlank).length_le
    rw [value_of_brace hinner]
    cases hbraced : braced? inner with
    | none => exact plain_length text
    | some found =>
      have hfound := braced?_length hbraced
      rw [Option.getD_some]
      omega
  · rw [value_of_ne (not_exists.mp hbrace)]
    exact plain_length text

theorem pairsOf_of_none (h : seek text = (gap, none)) (fuel : Nat) :
    pairsOf fuel text = if isGap gap then .ok [] else .error (strayText gap) := by
  rw [pairsOf.eq_def]
  dsimp only
  rw [h]

/-- What stands before a pair, or before the end, has to be a gap. -/
theorem pairsOf_of_not_isGap (h : isGap (seek text).1 = false) (fuel : Nat) :
    pairsOf fuel text = .error (strayText (seek text).1) := by
  rw [pairsOf.eq_def]
  dsimp only
  rcases hseek : seek text with ⟨gap, _ | ⟨run, rest⟩⟩ <;> rw [hseek] at h
  · exact if_neg (Bool.eq_false_iff.mp h)
  · exact if_pos (by rw [h]; rfl)

theorem pairsOf_of_some (h : seek text = (gap, some (run, rest))) (hgap : isGap gap = true)
    (fuel : Nat) :
    pairsOf (fuel + 1) text =
      (pairsOf fuel (value rest).2).map (Part.pair ⟨run, (value rest).1⟩ :: ·) := by
  rw [pairsOf.eq_def]
  dsimp only
  rw [h]
  dsimp only
  rw [if_neg (by rw [hgap]; exact Bool.false_ne_true)]
  cases pairsOf fuel (value rest).2 <;> rfl

theorem Splits.pairsOf {parts : List Part} (h : Splits text parts) {fuel : Nat}
    (hfuel : text.length ≤ fuel) :
    ConnectionString.pairsOf fuel text = .ok (parts.map Part.pair) := by
  induction h generalizing fuel with
  | done hgap => rw [pairsOf_of_none (seek_of_isGap hgap), if_pos hgap, List.map_nil]
  | @pair gap run rest parts hgap hne hrun _ ih =>
    simp only [List.length_append, List.length_cons] at hfuel
    obtain ⟨fuel, rfl⟩ : ∃ less, fuel = less + 1 := Nat.exists_eq_add_one.mpr (by omega)
    have hrest : (value rest).2.length ≤ fuel := Nat.le_trans (value_length rest) (by omega)
    rw [pairsOf_of_some (seek_of_isBreak hgap hne hrun rest) hgap.isGap, ih hrest]
    rfl

theorem splits_of_pairsOf {fuel : Nat} {pairs : List (String × String)}
    (hfuel : text.length ≤ fuel) (h : pairsOf fuel text = .ok pairs) :
    ∃ parts, Splits text parts ∧ pairs = parts.map Part.pair := by
  induction fuel generalizing text pairs with
  | zero =>
    obtain rfl := List.eq_nil_of_length_eq_zero (Nat.le_zero.mp hfuel)
    exact ⟨[], .done rfl, (Except.ok.inj h).symm⟩
  | succ fuel ih =>
    rcases seek_cases text with hnone | ⟨gap, run, rest, hseek, rfl, hne, hrun, hlast⟩
    · rw [pairsOf_of_none hnone] at h
      by_cases hgap : isGap text = true
      · rw [if_pos hgap] at h
        exact ⟨[], .done hgap, (Except.ok.inj h).symm⟩
      · rw [if_neg hgap] at h
        cases h
    · by_cases hgap : isGap gap = true
      · rw [pairsOf_of_some hseek hgap] at h
        simp only [List.length_append, List.length_cons] at hfuel
        have hrest : (value rest).2.length ≤ fuel := Nat.le_trans (value_length rest) (by omega)
        cases hlater : pairsOf fuel (value rest).2 with
        | error err =>
          rw [hlater] at h
          cases h
        | ok later =>
          rw [hlater] at h
          obtain ⟨parts, hparts, rfl⟩ := ih hrest hlater
          have hbreak : IsBreak gap := ⟨hgap, fun c hc ↦
            eq_semicolon_of_isGap hgap (List.mem_of_getLast? hc) (hlast c hc)⟩
          exact ⟨_ :: parts, .pair hbreak hne hrun hparts, (Except.ok.inj h).symm⟩
      · rw [pairsOf_of_not_isGap (by rw [hseek]; exact Bool.eq_false_iff.mpr hgap)] at h
        cases h

/-- A text is accepted if it splits into pairs, and it is then read as those. -/
theorem parse_eq_ok_iff {text : String} {c : ConnectionString} :
    parse text = .ok c ↔ ∃ parts, Splits text.toList parts ∧ c.pairs = parts.map Part.pair := by
  constructor
  · intro h
    rw [parse] at h
    cases hpairs : pairsOf text.toList.length text.toList with
    | error err =>
      rw [hpairs] at h
      cases h
    | ok pairs =>
      rw [hpairs] at h
      obtain rfl := Except.ok.inj h
      exact splits_of_pairsOf (Nat.le_refl _) hpairs
  · rintro ⟨parts, hsplits, hpairs⟩
    rw [parse, hsplits.pairsOf (Nat.le_refl _), ← hpairs]

/-! ### What can be written back -/

theorem Splits.runs {parts : List Part} (h : Splits text parts) :
    ∀ part ∈ parts, part.run ≠ [] ∧ ∀ c ∈ part.run, isKeyChar c = true := by
  induction h with
  | done _ => simp
  | pair _ hne hrun _ ih => exact List.forall_mem_cons.mpr ⟨⟨hne, hrun⟩, ih⟩

theorem Part.pair_fst_eq_empty_iff {part : Part} :
    part.pair.1 = "" ↔ ∀ c ∈ part.run, Text.isBlank c = true := by
  rw [← Text.trim_eq_nil_iff, ← String.toList_eq_nil_iff, pair, String.toList_ofList]

theorem Part.isKey {part : Part} (hrun : ∀ c ∈ part.run, isKeyChar c = true)
    (hne : part.pair.1 ≠ "") : IsKey part.pair.1.toList := by
  have hkey : part.pair.1.toList = Text.trim part.run := String.toList_ofList
  refine ⟨fun hnil ↦ hne (String.toList_eq_nil_iff.mp hnil), fun c hc ↦ ?_, ?_⟩
  · rw [hkey] at hc
    simpa [ConnectionString.isKeyChar] using hrun c (Text.mem_of_mem_trim hc)
  · rw [hkey]
    exact Text.isTrimmed_trim part.run

/-- A pair without a key is not read back. -/
theorem pairsOf_flatMap_writePair_nameless {pairs : List (String × String)}
    (h : ∀ pair ∈ pairs, pair.1 = "" ∨ IsKey pair.1.toList)
    (hnameless : ∃ pair ∈ pairs, pair.1 = "") {fuel : Nat} (hfuel : pairs.length ≤ fuel) :
    ∃ gap, pairsOf fuel (pairs.flatMap writePair) = .error (strayText ('=' :: gap)) := by
  induction pairs generalizing fuel with
  | nil => simp at hnameless
  | cons pair pairs ih =>
    obtain ⟨fuel, rfl⟩ : ∃ less, fuel = less + 1 := Nat.exists_eq_add_one.mpr (by
      exact Nat.lt_of_lt_of_le (Nat.succ_pos _) hfuel)
    obtain ⟨hpair, hpairs⟩ := List.forall_mem_cons.mp h
    by_cases hempty : pair.1 = ""
    · have hequals : ∃ gap, (seek ((pair :: pairs).flatMap writePair)).1 = '=' :: gap := by
        have hnot : ¬isKeyChar '=' = true := by decide
        rw [List.flatMap_cons, writePair, hempty, String.toList_empty, List.nil_append,
          List.cons_append, List.cons_append,
          seek_cons_of_dropWhile_ne fun _ hkey ↦ absurd hkey hnot]
        exact ⟨_, rfl⟩
      obtain ⟨gap, hgap⟩ := hequals
      exact ⟨gap, by rw [pairsOf_of_not_isGap (by rw [hgap]; rfl), hgap]⟩
    · rw [List.flatMap_cons, pairsOf_writePair (hpair.resolve_left hempty)]
      obtain ⟨gap, hgap⟩ := ih hpairs (by simpa [hempty] using hnameless)
        (Nat.le_of_succ_le_succ hfuel)
      exact ⟨gap, by rw [hgap]; rfl⟩

theorem Splits.keys {parts : List Part} (h : Splits text parts) :
    ∀ pair ∈ parts.map Part.pair, pair.1 = "" ∨ IsKey pair.1.toList := by
  rintro _ hpair
  obtain ⟨part, hpart, rfl⟩ := List.mem_map.mp hpair
  by_cases hempty : part.pair.1 = ""
  · exact .inl hempty
  · exact .inr (part.isKey (h.runs part hpart).2 hempty)

/-- The keys that `parse` gives are trimmed and have no equals sign and no semicolon in them; a key
is the empty text where all of its run is blank. Written in braces the pairs are read back as they
are if each of them has a key, and refused otherwise. -/
theorem accepted_written_back {text : String} {c : ConnectionString} (h : parse text = .ok c) :
    (∃ parts, Splits text.toList parts ∧ c.pairs = parts.map Part.pair ∧
        ∀ part ∈ parts, part.run ≠ [] ∧
          (part.pair.1 = "" ↔ ∀ ch ∈ part.run, Text.isBlank ch = true)) ∧
      (∀ pair ∈ c.pairs, (∀ ch ∈ pair.1.toList, ch ≠ '=' ∧ ch ≠ ';') ∧
        Text.IsTrimmed pair.1.toList) ∧
      ((∀ pair ∈ c.pairs, pair.1 ≠ "") → parse c.write = .ok c) ∧
      ((∃ pair ∈ c.pairs, pair.1 = "") →
        ∃ gap, parse c.write = .error (strayText ('=' :: gap))) := by
  obtain ⟨parts, hsplits, hpairs⟩ := parse_eq_ok_iff.mp h
  have hkeys : ∀ pair ∈ c.pairs, pair.1 = "" ∨ IsKey pair.1.toList := hpairs ▸ hsplits.keys
  refine ⟨⟨parts, hsplits, hpairs, fun part hpart ↦ ⟨(hsplits.runs part hpart).1, ?_⟩⟩, ?_, ?_, ?_⟩
  · rw [Part.pair_fst_eq_empty_iff]
  · intro pair hpair
    rcases hkeys pair hpair with hempty | hkey
    · rw [hempty]
      exact ⟨by simp, by simp [Text.IsTrimmed]⟩
    · exact ⟨hkey.chars, hkey.trimmed⟩
  · intro hnamed
    exact (parse_write c fun pair hpair ↦ (hkeys pair hpair).resolve_left (hnamed pair hpair)).1
  · intro hnameless
    obtain ⟨gap, hgap⟩ := pairsOf_flatMap_writePair_nameless hkeys hnameless
      (length_le_length_flatMap_writePair c.pairs)
    exact ⟨gap, by rw [parse, write, String.toList_ofList, hgap]⟩

/-- Blanks around keys, values and separators, and a semicolon in braces. -/
theorem accepted_with_blanks_written_back :
    parse " user = \x7ba;b\x7d ;; mode=rw" = .ok ⟨[("user", "a;b"), ("mode", "rw")]⟩ ∧
      parse (write ⟨[("user", "a;b"), ("mode", "rw")]⟩) =
        .ok ⟨[("user", "a;b"), ("mode", "rw")]⟩ := by
  have hparse : parse " user = \x7ba;b\x7d ;; mode=rw" =
      .ok ⟨[("user", "a;b"), ("mode", "rw")]⟩ := by decide +kernel
  exact ⟨hparse, (accepted_written_back hparse).2.2.1 (by decide)⟩

/-- A blank before an equals sign makes a pair without a key; without the blank, and so in the
braced form, the same text is refused. -/
theorem nameless_accepted :
    parse " =x" = .ok ⟨[("", "x")]⟩ ∧ parse "=x" = .error (strayText ['=', 'x']) ∧
      parse (write ⟨[("", "x")]⟩) = .error (strayText "=\x7bx\x7d;".toList) := by
  decide +kernel

end ConnectionString

end Provenance
