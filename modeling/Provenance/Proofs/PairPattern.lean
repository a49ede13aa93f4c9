import Mathlib.Data.List.TakeWhile
import Provenance.ConnectionString

/-!
The pattern of a pair. A `Pattern` is matched as a backtracking matcher does it: what comes first in
it is tried first, and the first way to match all of it is taken. The pattern of a pair leaves many
ways to match, but they differ in blanks only, except that a value in braces is preferred. So
wherever the pattern is found, `seek` finds a key, the same one but for blanks, and `value` the same
value and the same rest (`find_pairPattern`), and the pairs of a text are those that the pattern
finds one after another (`matchedPairs_eq`).
-/

set_option autoImplicit false
set_option relaxedAutoImplicit false

namespace Provenance

/-! ### Patterns -/

/-- A pattern whose parts are tried in order. -/
inductive Pattern where
  /-- One character that passes the test. -/
  | one (test : Char → Bool)
  /-- The end of the text. -/
  | finish
  | both (first second : Pattern)
  /-- The second is tried if the first leads to no match. -/
  | either (first second : Pattern)
  /-- Any number in a row, from the greatest down or from zero up. -/
  | many (greedy : Bool) (each : Pattern)
  /-- What is matched is kept under the number. -/
  | group (number : Nat) (inner : Pattern)

namespace Pattern

/-- The texts of the groups, the last one first. -/
abbrev Captures := List (Nat × List Char)

/-- Matches the start of a text; `next` says whether the rest of it can be matched. -/
def run {R : Type} : Pattern → List Char → Captures → (List Char → Captures → Option R) → Option R
  | one _, [], _, _ => none
  | one test, c :: rest, captures, next => if test c then next rest captures else none
  | finish, text, captures, next => if text.isEmpty then next text captures else none
  | both first second, text, captures, next =>
    first.run text captures fun rest captures ↦ second.run rest captures next
  | either first second, text, captures, next =>
    (first.run text captures next).or (second.run text captures next)
  | many greedy each, text, captures, next =>
    let more := each.run text captures fun rest captures ↦
      if rest.length < text.length then (many greedy each).run rest captures next else none
    if greedy then more.or (next text captures) else (next text captures).or more
  | group number inner, text, captures, next =>
    inner.run text captures fun rest captures ↦
      next rest ((number, text.take (text.length - rest.length)) :: captures)
termination_by pattern text => (pattern, text.length)

/-- The groups of the match at the start of a text, and the rest. -/
def atStart (pattern : Pattern) (text : List Char) : Option (Captures × List Char) :=
  pattern.run text [] fun rest captures ↦ some (captures, rest)

/-- The text before the first place where the pattern matches, the groups and the text after. -/
def find (pattern : Pattern) : List Char → Option (List Char × Captures × List Char)
  | [] => (pattern.atStart []).map fun found ↦ ([], found)
  | c :: text =>
    match pattern.atStart (c :: text) with
    | some found => some ([], found)
    | none => (pattern.find text).map fun (gap, found) ↦ (c :: gap, found)

section Steps

variable {R : Type} {test : Char → Bool} {c : Char} {text rest : List Char} {captures : Captures}
  {next : List Char → Captures → Option R}

theorem or_eq_left {o o' : Option R} (h : o ≠ none) : o.or o' = o := by
  obtain ⟨r, rfl⟩ := Option.ne_none_iff_exists'.mp h
  rfl

theorem run_one_cons :
    (one test).run (c :: rest) captures next = if test c then next rest captures else none := by
  rw [run]

theorem run_one_nil : (one test).run [] captures next = none := by
  rw [run]

theorem run_finish : finish.run text captures next =
    if text.isEmpty then next text captures else none := by
  rw [run]

theorem run_both (first second : Pattern) : (both first second).run text captures next =
    first.run text captures fun rest captures ↦ second.run rest captures next := by
  rw [run]

theorem run_either (first second : Pattern) : (either first second).run text captures next =
    (first.run text captures next).or (second.run text captures next) := by
  rw [run]

theorem run_group (number : Nat) (inner : Pattern) : (group number inner).run text captures next =
    inner.run text captures fun rest captures ↦
      next rest ((number, text.take (text.length - rest.length)) :: captures) := by
  rw [run]

theorem run_many_nil (greedy : Bool) :
    (many greedy (one test)).run [] captures next = next [] captures := by
  rw [run, run_one_nil]
  cases greedy <;> simp

theorem run_many_cons (greedy : Bool) : (many greedy (one test)).run (c :: rest) captures next =
    if test c then
      if greedy then
        ((many greedy (one test)).run rest captures next).or (next (c :: rest) captures)
      else (next (c :: rest) captures).or ((many greedy (one test)).run rest captures next)
    else next (c :: rest) captures := by
  rw [run, run_one_cons]
  by_cases htest : test c = true <;> cases greedy <;> simp [htest]

/-- Characters in a row are matched up to some place from where the rest can be matched, or there is
no such place. -/
theorem run_many_cases (test : Char → Bool) (greedy : Bool) (text : List Char) (captures : Captures)
    (next : List Char → Captures → Option R) :
    (∃ kept rest, text = kept ++ rest ∧ (∀ c ∈ kept, test c = true) ∧
        (many greedy (one test)).run text captures next = next rest captures ∧
        next rest captures ≠ none) ∨
      (many greedy (one test)).run text captures next = none ∧
        ∀ kept rest, text = kept ++ rest → (∀ c ∈ kept, test c = true) →
          next rest captures = none := by
  induction text with
  | nil =>
    rw [run_many_nil]
    by_cases hend : next [] captures = none
    · refine .inr ⟨hend, fun kept rest htext _ ↦ ?_⟩
      rw [(List.append_eq_nil_iff.mp htext.symm).2, hend]
    · exact .inl ⟨[], [], rfl, by simp, rfl, hend⟩
  | cons c text ih =>
    rw [run_many_cons]
    by_cases htest : test c = true
    · rw [if_pos htest]
      rcases ih with ⟨kept, rest, rfl, hkept, hrun, hrest⟩ | ⟨hrun, hnone⟩
      · have hlater : ∀ c' ∈ c :: kept, test c' = true := List.forall_mem_cons.mpr ⟨htest, hkept⟩
        by_cases hhere : next (c :: (kept ++ rest)) captures = none
        · refine .inl ⟨c :: kept, rest, rfl, hlater, ?_, hrest⟩
          rw [hhere, hrun, Option.or_none, Option.none_or, ite_self]
        · cases greedy with
          | true =>
            refine .inl ⟨c :: kept, rest, rfl, hlater, ?_, hrest⟩
            rw [hrun, if_pos rfl, or_eq_left hrest]
          | false =>
            refine .inl ⟨[], _, rfl, by simp, ?_, hhere⟩
            rw [if_neg Bool.false_ne_true, or_eq_left hhere]
      · rw [hrun, Option.none_or, Option.or_none, ite_self]
        by_cases hhere : next (c :: text) captures = none
        · refine .inr ⟨hhere, fun kept rest htext hkept ↦ ?_⟩
          cases kept with
          | nil => rw [← List.nil_append rest, ← htext, hhere]
          | cons first kept =>
            obtain ⟨-, rfl⟩ := List.cons.inj htext
            exact hnone kept rest rfl (List.forall_mem_cons.mp hkept).2
        · exact .inl ⟨[], _, rfl, by simp, rfl, hhere⟩
    · rw [if_neg htest]
      by_cases hhere : next (c :: text) captures = none
      · refine .inr ⟨hhere, fun kept rest htext hkept ↦ ?_⟩
        cases kept with
        | nil => rw [← List.nil_append rest, ← htext, hhere]
        | cons first kept =>
          obtain ⟨rfl, -⟩ := List.cons.inj htext
          exact absurd (List.forall_mem_cons.mp hkept).1 htest
      · exact .inl ⟨[], _, rfl, by simp, rfl, hhere⟩

/-- If the rest can be matched after all characters that pass the test, they are all taken. -/
theorem run_greedy (h : next (text.dropWhile test) captures ≠ none) :
    (many true (one test)).run text captures next = next (text.dropWhile test) captures := by
  induction text with
  | nil => exact run_many_nil true
  | cons c text ih =>
    rw [run_many_cons]
    by_cases htest : test c = true
    · rw [List.dropWhile_cons_of_pos htest] at h ⊢
      rw [if_pos htest, if_pos rfl, ih h, or_eq_left h]
    · rw [List.dropWhile_cons_of_neg htest, if_neg htest]

end Steps

end Pattern

namespace Text

variable {text gap : List Char} {c : Char}

theorem skipBlanks_of_blank (h : isBlank c = true) : skipBlanks (c :: text) = skipBlanks text :=
  List.dropWhile_cons_of_pos h

theorem skipBlanks_of_not_blank (h : isBlank c = false) : skipBlanks (c :: text) = c :: text :=
  List.dropWhile_cons_of_neg (by rw [h]; exact Bool.false_ne_true)

theorem trim_append_left (h : ∀ c ∈ gap, isBlank c = true) : trim (gap ++ text) = trim text := by
  have hskip : skipBlanks (gap ++ text) = skipBlanks text := List.dropWhile_append_of_pos h
  rw [trim, hskip]
  rfl

theorem trim_append_right (h : ∀ c ∈ gap, isBlank c = true) : trim (text ++ gap) = trim text := by
  have hgap : gap.dropWhile isBlank = [] := List.dropWhile_eq_nil_iff.mpr h
  have hreverse : ∀ c ∈ gap.reverse, isBlank c = true := fun c hc ↦ h c (List.mem_reverse.mp hc)
  rw [trim, trim, skipBlanks, skipBlanks, skipBlanks, skipBlanks, List.dropWhile_append]
  cases text.dropWhile isBlank with
  | nil => simp [hgap]
  | cons c left =>
    rw [List.isEmpty_cons, if_neg Bool.false_ne_true, List.reverse_append,
      List.dropWhile_append_of_pos hreverse]

end Text

namespace ConnectionString

open Pattern

/-! ### The pattern of a pair -/

def blanks : Pattern := many true (one Text.isBlank)

/-- Blanks, and then a semicolon or the end. -/
def pairEnd : Pattern := both blanks (either (one (· == ';')) finish)

/-- Any characters but closing braces, or two of those together. -/
def braceBody : Pattern :=
  many true (either (one (· != '}')) (both (one (· == '}')) (one (· == '}'))))

def bracedValue : Pattern := both (one (· == '{')) (both (group 2 braceBody) (one (· == '}')))

def plainValue : Pattern := group 3 (many false (one (· != ';')))

def keyName : Pattern := group 1 (both (one isKeyChar) (many false (one isKeyChar)))

/-- What follows a key: an equals sign and a value, with blanks allowed around each. -/
def assignment : Pattern :=
  both blanks (both (one (· == '=')) (both blanks (both (either bracedValue plainValue) pairEnd)))

def pairPattern : Pattern := both blanks (both keyName assignment)

section Parts

variable {R : Type} {c : Char} {text rest : List Char} {captures : Captures}
  {next : List Char → Captures → Option R}

/-! ### Blanks and the end of a pair -/

/-- If what comes after blanks does not start with a blank itself, all of them are taken. -/
theorem run_blanks
    (h : ∀ c rest captures, Text.isBlank c = true → next (c :: rest) captures = none) :
    blanks.run text captures next = next (Text.skipBlanks text) captures := by
  induction text with
  | nil => exact run_many_nil true
  | cons c text ih =>
    rw [blanks, run_many_cons]
    by_cases hblank : Text.isBlank c = true
    · rw [if_pos hblank, if_pos rfl, h c text captures hblank, Option.or_none,
        Text.skipBlanks_of_blank hblank]
      exact ih
    · rw [if_neg hblank, Text.skipBlanks_of_not_blank (Bool.not_eq_true _ ▸ hblank)]

theorem run_pairEnd : pairEnd.run text captures next =
    (pairEnd? text).bind fun rest ↦ next rest captures := by
  have hend : ∀ c rest captures, (either (one (· == ';')) finish).run (c :: rest) captures next =
      if c = ';' then next rest captures else none := by
    intro c rest captures
    rw [run_either, run_one_cons, run_finish]
    simp
  rw [pairEnd, run_both, run_blanks]
  · rw [pairEnd?]
    cases Text.skipBlanks text with
    | nil =>
      rw [run_either, run_one_nil, run_finish]
      rfl
    | cons c rest =>
      rw [hend]
      by_cases hc : c = ';'
      · rw [if_pos hc, hc]
        rfl
      · rw [if_neg hc]
        simp [hc]
  · intro c rest captures hblank
    rw [hend, if_neg]
    rintro rfl
    exact Bool.false_ne_true hblank

/-- A pair ends where all is blank up to the next semicolon. -/
theorem pairEnd?_eq (text : List Char) :
    pairEnd? text = if (text.takeWhile (· != ';')).all Text.isBlank then
      some ((text.dropWhile (· != ';')).drop 1) else none := by
  induction text with
  | nil => rfl
  | cons c text ih =>
    by_cases hc : c = ';'
    · rw [hc]
      rfl
    · have htest : (c != ';') = true := bne_iff_ne.mpr hc
      rw [List.takeWhile_cons, List.dropWhile_cons, if_pos htest, if_pos htest, List.all_cons]
      cases hblank : Text.isBlank c with
      | true =>
        rw [Bool.true_and, ← ih, pairEnd?, Text.skipBlanks_of_blank hblank]
        rfl
      | false =>
        rw [Bool.false_and, pairEnd?, Text.skipBlanks_of_not_blank hblank]
        simp [hc]

/-! ### Values in braces -/

/-- The text up to the first closing brace that is not one of two, and the text from there. -/
def body : List Char → List Char × List Char
  | '}' :: '}' :: rest => ('}' :: '}' :: (body rest).1, (body rest).2)
  | '}' :: rest => ([], '}' :: rest)
  | c :: rest => (c :: (body rest).1, (body rest).2)
  | [] => ([], [])

/-- A text with one closing brace for every two. -/
def halveBraces : List Char → List Char
  | '}' :: '}' :: rest => '}' :: halveBraces rest
  | c :: rest => c :: halveBraces rest
  | [] => []

theorem body_append (text : List Char) : (body text).1 ++ (body text).2 = text := by
  fun_induction body text <;> simp_all

/-- A value in braces is what stands before the first closing brace that is not one of two. -/
theorem braced?_eq (text : List Char) :
    braced? text =
      match (body text).2 with
      | '}' :: rest => (pairEnd? rest).map fun after ↦ (halveBraces (body text).1, after)
      | _ => none := by
  fun_induction body text with
  | case1 rest ih =>
    rw [braced?, ih]
    dsimp only
    split
    · rw [Option.map_map]
      rfl
    · rfl
  | case2 rest hsingle =>
    rw [braced?]
    · rfl
    · exact hsingle
  | case3 c rest hpair hbrace ih =>
    rw [braced?, ih]
    dsimp only
    split
    · rw [Option.map_map, halveBraces]
      · rfl
      · exact fun _ hc _ ↦ hbrace hc
    · rfl
    · exact hpair
    · exact hbrace
  | case4 => rfl

theorem run_braceBody (hpair : ∀ rest captures, next ('}' :: '}' :: rest) captures = none)
    (hother : ∀ c rest captures, c ≠ '}' → next (c :: rest) captures = none) :
    braceBody.run text captures next = next (body text).2 captures := by
  fun_induction body text with
  | case1 rest ih =>
    rw [braceBody, run, run_either, run_one_cons, run_both, run_one_cons, run_one_cons, hpair]
    have hless : rest.length < rest.length + 1 + 1 := by omega
    simpa [braceBody, hless] using ih
  | case2 rest hsingle =>
    rw [braceBody, run, run_either, run_one_cons, run_both, run_one_cons]
    cases rest with
    | nil => simp [run_one_nil]
    | cons c rest =>
      have hc : c ≠ '}' := fun hc ↦ hsingle rest (by rw [hc])
      simp [run_one_cons, hc]
  | case3 c rest hpaired hbrace ih =>
    have hc : c ≠ '}' := hbrace
    rw [braceBody, run, run_either, run_one_cons, run_both, run_one_cons, hother c rest captures hc]
    simpa [hc, braceBody] using ih
  | case4 =>
    rw [braceBody, run, run_either, run_one_nil, run_both, run_one_nil]
    simp

/-- What a group holds that is followed by this rest. -/
theorem take_length_sub (kept rest : List Char) :
    (kept ++ rest).take ((kept ++ rest).length - rest.length) = kept := by
  rw [List.length_append, Nat.add_sub_cancel, List.take_left]

theorem braced?_value {found : List Char × List Char} (h : braced? text = some found) :
    found.1 = halveBraces (body text).1 := by
  rw [braced?_eq] at h
  split at h
  · obtain ⟨after, -, rfl⟩ := Option.map_eq_some_iff.mp h
    rfl
  · cases h

theorem run_bracedValue (inner : List Char) :
    (both bracedValue pairEnd).run ('{' :: inner) captures next =
      (braced? inner).bind fun found ↦ next found.2 ((2, (body inner).1) :: captures) := by
  rw [run_both, bracedValue, run_both, run_one_cons, if_pos (by rfl), run_both, run_group,
    run_braceBody, braced?_eq]
  · have hheld : inner.take (inner.length - (body inner).2.length) = (body inner).1 := by
      have htake := take_length_sub (body inner).1 (body inner).2
      rwa [body_append] at htake
    rw [hheld]
    cases (body inner).2 with
    | nil => exact run_one_nil
    | cons c rest =>
      rw [run_one_cons]
      by_cases hc : c = '}'
      · rw [if_pos (by simp [hc]), run_pairEnd, hc]
        change (pairEnd? rest).bind _ = ((pairEnd? rest).map _).bind _
        rw [Option.bind_map]
        rfl
      · rw [if_neg (by simp [hc])]
        simp [hc]
  · intro rest captures
    rw [run_one_cons, if_pos (by rfl), run_pairEnd]
    rfl
  · intro c rest captures hc
    rw [run_one_cons, if_neg (by simp [hc])]

theorem run_bracedValue_of_ne (h : ∀ inner, text ≠ '{' :: inner) :
    (both bracedValue pairEnd).run text captures next = none := by
  rw [run_both, bracedValue, run_both]
  cases text with
  | nil => exact run_one_nil
  | cons c rest =>
    have hc : c ≠ '{' := fun hc ↦ h rest (by rw [hc])
    rw [run_one_cons, if_neg (by simp [hc])]

/-! ### Plain values -/

theorem takeWhile_dropWhile (test : Char → Bool) (text : List Char) :
    (text.dropWhile test).takeWhile test = [] :=
  List.takeWhile_eq_nil_iff.mpr fun h ↦ List.dropWhile_get_zero_not test text h

/-- A plain value is kept without some of the blanks at its end. -/
theorem run_plainValue (hnext : ∀ rest captures, next rest captures ≠ none) (text : List Char)
    (captures : Captures) :
    ∃ kept, Text.trim kept = (plain text).1 ∧
      (both plainValue pairEnd).run text captures next =
        next (plain text).2 ((3, kept) :: captures) := by
  rw [run_both, plainValue, run_group]
  rcases run_many_cases (· != ';') false text captures fun rest captures ↦
      pairEnd.run rest ((3, text.take (text.length - rest.length)) :: captures) next with
    ⟨kept, rest, rfl, hkept, hrun, hrest⟩ | ⟨-, hnone⟩
  · rw [run_pairEnd, pairEnd?_eq] at hrest hrun
    by_cases hblank : (rest.takeWhile (· != ';')).all Text.isBlank = true
    · refine ⟨kept, ?_, ?_⟩
      · rw [plain, List.takeWhile_append_of_pos hkept]
        exact (Text.trim_append_right (List.all_eq_true.mp hblank)).symm
      · rw [hrun, if_pos hblank, take_length_sub, plain, List.dropWhile_append_of_pos hkept]
        rfl
    · rw [if_neg hblank] at hrest
      exact absurd rfl hrest
  · have hlast := hnone _ _ List.takeWhile_append_dropWhile.symm fun c hc ↦
      List.mem_takeWhile_imp (p := fun c ↦ c != ';') hc
    rw [run_pairEnd, pairEnd?_eq, takeWhile_dropWhile] at hlast
    exact absurd hlast (hnext _ _)

theorem plain_skipBlanks (text : List Char) : plain (Text.skipBlanks text) = plain text := by
  induction text with
  | nil => rfl
  | cons c text ih =>
    cases hblank : Text.isBlank c with
    | true =>
      have hc : (c != ';') = true := by
        rw [bne_iff_ne]
        rintro rfl
        exact Bool.false_ne_true hblank
      have htrim : Text.trim ([c] ++ text.takeWhile (· != ';')) =
          Text.trim (text.takeWhile (· != ';')) :=
        Text.trim_append_left (List.forall_mem_singleton.mpr hblank)
      rw [Text.skipBlanks_of_blank hblank, ih, plain, plain, List.takeWhile_cons,
        List.dropWhile_cons, if_pos hc, if_pos hc]
      exact congrArg (Prod.mk · _) htrim.symm
    | false => rw [Text.skipBlanks_of_not_blank hblank]

theorem value_of_brace {inner : List Char} (h : Text.skipBlanks text = '{' :: inner) :
    value text = (braced? inner).getD (plain text) := by
  rw [value, h]
  rfl

theorem value_of_ne (h : ∀ inner, Text.skipBlanks text ≠ '{' :: inner) :
    value text = plain text := by
  rw [value]
  split
  · exact absurd ‹_› (h _)
  · rfl

/-! ### What follows a key -/

/-- The key and the value that the groups of a match hold. -/
def readGroups (captures : Captures) : List Char × List Char :=
  (Text.trim ((captures.lookup 1).getD []),
    match captures.lookup 2, captures.lookup 3 with
    | some braced, _ => halveBraces braced
    | none, some plain => Text.trim plain
    | none, none => [])

/-- After an equals sign a value always follows, and that in braces is preferred. -/
theorem run_value (hnext : ∀ rest captures, next rest captures ≠ none) (text key : List Char) :
    ∃ captures, readGroups captures = (Text.trim key, (value text).1) ∧
      (both blanks (both (either bracedValue plainValue) pairEnd)).run text [(1, key)] next =
        next (value text).2 captures := by
  have heither : ∀ text, (both (either bracedValue plainValue) pairEnd).run text [(1, key)] next =
      ((both bracedValue pairEnd).run text [(1, key)] next).or
        ((both plainValue pairEnd).run text [(1, key)] next) := by
    intro text
    rw [run_both, run_either, run_both, run_both]
  have hvalue : ∃ captures, readGroups captures = (Text.trim key, (value text).1) ∧
      (both (either bracedValue plainValue) pairEnd).run (Text.skipBlanks text) [(1, key)] next =
        next (value text).2 captures := by
    obtain ⟨kept, hkept, hplain⟩ := run_plainValue hnext (Text.skipBlanks text) [(1, key)]
    rw [plain_skipBlanks] at hkept hplain
    rw [heither, hplain]
    by_cases hbrace : ∃ inner, Text.skipBlanks text = '{' :: inner
    · obtain ⟨inner, hinner⟩ := hbrace
      rw [value_of_brace hinner, hinner, run_bracedValue]
      cases hbraced : braced? inner with
      | none => exact ⟨_, congrArg (Prod.mk _) hkept, rfl⟩
      | some found =>
        exact ⟨[(2, (body inner).1), (1, key)],
          congrArg (Prod.mk _) (braced?_value hbraced).symm, or_eq_left (hnext _ _)⟩
    · have hne : ∀ inner, Text.skipBlanks text ≠ '{' :: inner := not_exists.mp hbrace
      rw [run_bracedValue_of_ne hne, Option.none_or, value_of_ne hne]
      exact ⟨_, congrArg (Prod.mk _) hkept, rfl⟩
  obtain ⟨captures, hgroups, hrun⟩ := hvalue
  refine ⟨captures, hgroups, ?_⟩
  rw [run_both, blanks, run_greedy]
  · exact hrun
  · exact hrun ▸ hnext _ _

/-- A key is followed by blanks and an equals sign, or no pair starts with it. -/
theorem run_assignment : assignment.run text captures next =
    match Text.skipBlanks text with
    | '=' :: rest =>
      (both blanks (both (either bracedValue plainValue) pairEnd)).run rest captures next
    | _ => none := by
  rw [assignment, run_both, run_blanks]
  · cases Text.skipBlanks text with
    | nil => rw [run_both, run_one_nil]
    | cons c rest =>
      rw [run_both, run_one_cons]
      by_cases hc : c = '='
      · rw [if_pos (by simp [hc]), hc]
        rfl
      · rw [if_neg (by simp [hc])]
        simp [hc]
  · intro c rest captures hblank
    rw [run_both, run_one_cons, if_neg]
    rw [beq_iff_eq]
    rintro rfl
    exact Bool.false_ne_true hblank

/-! ### Pairs -/

theorem isKeyChar_of_blank (h : Text.isBlank c = true) : isKeyChar c = true := by
  have hequals : c ≠ '=' := by
    rintro rfl
    exact Bool.false_ne_true h
  have hsemicolon : c ≠ ';' := by
    rintro rfl
    exact Bool.false_ne_true h
  simp [isKeyChar, hequals, hsemicolon]

theorem run_key_nil : (both keyName assignment).run [] captures next = none := by
  rw [run_both, keyName, run_group, run_both, run_one_nil]

theorem run_key_cons : (both keyName assignment).run (c :: rest) captures next =
    if isKeyChar c then
      (many false (one isKeyChar)).run rest captures fun left captures ↦
        assignment.run left
          ((1, (c :: rest).take ((c :: rest).length - left.length)) :: captures) next
    else none := by
  rw [run_both, keyName, run_group, run_both, run_one_cons]

/-- Where a key is found the text goes on with key characters up to an equals sign. -/
theorem run_key (hnext : ∀ rest captures, next rest captures ≠ none)
    (h : (both keyName assignment).run text [] next ≠ none) :
    ∃ key gap rest captures, text = key ++ gap ++ '=' :: rest ∧ key ≠ [] ∧
      (∀ c ∈ key, isKeyChar c = true) ∧ (∀ c ∈ gap, Text.isBlank c = true) ∧
      readGroups captures = (Text.trim key, (value rest).1) ∧
      (both keyName assignment).run text [] next = next (value rest).2 captures := by
  cases text with
  | nil => exact absurd run_key_nil h
  | cons c text =>
    rw [run_key_cons] at h ⊢
    by_cases hc : isKeyChar c = true
    · rw [if_pos hc] at h ⊢
      rcases run_many_cases isKeyChar false text [] fun left captures ↦ assignment.run left
          ((1, (c :: text).take ((c :: text).length - left.length)) :: captures) next with
        ⟨kept, left, rfl, hkept, hrun, hleft⟩ | ⟨hrun, -⟩
      · have hheld : (c :: (kept ++ left)).take ((c :: (kept ++ left)).length - left.length) =
            c :: kept := take_length_sub (c :: kept) left
        rw [hrun, hheld]
        rw [hheld] at hleft
        rw [run_assignment] at hleft ⊢
        have hsplit : left = left.takeWhile Text.isBlank ++ Text.skipBlanks left :=
          List.takeWhile_append_dropWhile.symm
        split at hleft
        · rename_i rest hrest
          obtain ⟨captures, hgroups, hvalue⟩ := run_value hnext rest (c :: kept)
          refine ⟨c :: kept, left.takeWhile Text.isBlank, rest, captures, ?_, List.cons_ne_nil _ _,
            List.forall_mem_cons.mpr ⟨hc, hkept⟩, fun c hc ↦ List.mem_takeWhile_imp hc, hgroups,
            ?_⟩
          · rw [hrest] at hsplit
            rw [List.append_assoc, ← hsplit]
            rfl
          · exact hvalue
        · exact absurd rfl hleft
      · exact absurd hrun h
    · rw [if_neg hc] at h
      exact absurd rfl h

/-- A key can start where blanks and key characters lead to an equals sign, and nowhere else. -/
theorem atStart_cases (text : List Char) :
    (∃ rest captures, text.takeWhile isKeyChar ≠ [] ∧ text.dropWhile isKeyChar = '=' :: rest ∧
        pairPattern.atStart text = some (captures, (value rest).2) ∧
        readGroups captures = (Text.trim (text.takeWhile isKeyChar), (value rest).1)) ∨
      pairPattern.atStart text = none ∧
        ∀ rest, text.takeWhile isKeyChar ≠ [] → text.dropWhile isKeyChar ≠ '=' :: rest := by
  let last : List Char → Captures → Option (Captures × List Char) :=
    fun rest captures ↦ some (captures, rest)
  have hlast : ∀ rest captures, last rest captures ≠ none := fun _ _ ↦ Option.some_ne_none _
  have hatStart : pairPattern.atStart text =
      (many true (one Text.isBlank)).run text [] fun rest captures ↦
        (both keyName assignment).run rest captures last := by
    rw [atStart, pairPattern, run_both, blanks]
  rw [hatStart]
  rcases run_many_cases Text.isBlank true text [] fun rest captures ↦
      (both keyName assignment).run rest captures last with
    ⟨before, start, rfl, hbefore, hrun, hstart⟩ | ⟨hrun, hnone⟩
  · obtain ⟨key, gap, rest, captures, rfl, hne, hkey, hgap, hgroups, hfound⟩ :=
      run_key hlast hstart
    have hall : ∀ c ∈ before ++ (key ++ gap), isKeyChar c = true := by
      intro c hc
      rcases List.mem_append.mp hc with hc | hc
      · exact isKeyChar_of_blank (hbefore c hc)
      · rcases List.mem_append.mp hc with hc | hc
        · exact hkey c hc
        · exact isKeyChar_of_blank (hgap c hc)
    have hrunOf : (before ++ (key ++ gap ++ '=' :: rest)).takeWhile isKeyChar =
        before ++ (key ++ gap) := by
      rw [← List.append_assoc, List.takeWhile_append_of_pos hall]
      exact List.append_nil _
    refine .inl ⟨rest, captures, ?_, ?_, hrun.trans hfound, ?_⟩
    · rw [hrunOf]
      simp [hne]
    · rw [← List.append_assoc, List.dropWhile_append_of_pos hall]
      rfl
    · rw [hgroups, hrunOf, Text.trim_append_left hbefore, Text.trim_append_right hgap]
  · refine .inr ⟨hrun, fun rest hne hrest ↦ ?_⟩
    -- Without blanks before it and after it the whole run of key characters would do for a key.
    have hstart := hnone [] text rfl (by simp)
    obtain ⟨c, kept, hkept⟩ := List.exists_cons_of_ne_nil hne
    have hchars : ∀ c' ∈ c :: kept, isKeyChar c' = true :=
      hkept ▸ fun c' hc' ↦ List.mem_takeWhile_imp hc'
    have htext : text = c :: (kept ++ '=' :: rest) := by
      rw [← List.cons_append, ← hkept, ← hrest, List.takeWhile_append_dropWhile]
    rw [htext, run_key_cons, if_pos (hchars c List.mem_cons_self)] at hstart
    rcases run_many_cases isKeyChar false (kept ++ '=' :: rest) [] fun left captures ↦
        assignment.run left ((1, (c :: (kept ++ '=' :: rest)).take
          ((c :: (kept ++ '=' :: rest)).length - left.length)) :: captures) last with
      ⟨_, _, -, -, hsome, hleft⟩ | ⟨-, hall⟩
    · exact hleft (hsome.symm.trans hstart)
    · have hafter := hall kept ('=' :: rest) rfl (List.forall_mem_cons.mp hchars).2
      rw [run_assignment] at hafter
      obtain ⟨captures, -, hvalue⟩ := run_value hlast rest _
      exact hlast _ _ (hvalue.symm.trans hafter)

/-- What the pattern finds is what is sought: after the same gap, the same key but for blanks and
the same value, with the same rest. -/
theorem find_pairPattern (text : List Char) :
    match seek text with
    | (gap, none) => gap = text ∧ pairPattern.find text = none
    | (gap, some (key, rest)) => ∃ captures,
      pairPattern.find text = some (gap, captures, (value rest).2) ∧
        readGroups captures = (Text.trim key, (value rest).1) := by
  induction text with
  | nil =>
    refine ⟨rfl, ?_⟩
    rw [find, atStart, pairPattern, run_both, blanks, run_many_nil, run_key_nil]
    rfl
  | cons c text ih =>
    rcases atStart_cases (c :: text) with
      ⟨rest, captures, hrun, hafter, hstart, hgroups⟩ | ⟨hstart, hnone⟩
    · have hc : isKeyChar c = true := by
        by_contra hc
        exact hrun (by rw [List.takeWhile_cons, if_neg hc])
      have hseek : seek (c :: text) = ([], some ((c :: text).takeWhile isKeyChar, rest)) := by
        rw [seek, hafter, hc]
        rfl
      rw [hseek]
      exact ⟨captures, by rw [find, hstart], hgroups⟩
    · have hseek : seek (c :: text) = (c :: (seek text).1, (seek text).2) := by
        rw [seek]
        split
        · rename_i rest hc hafter
          have hrun : (c :: text).takeWhile isKeyChar ≠ [] := by
            rw [List.takeWhile_cons, if_pos hc]
            exact List.cons_ne_nil _ _
          exact absurd hafter (hnone rest hrun)
        · rfl
      have hfind : pairPattern.find (c :: text) =
          (pairPattern.find text).map fun found ↦ (c :: found.1, found.2) := by
        rw [find, hstart]
      rw [hseek, hfind]
      rcases hlater : seek text with ⟨gap, _ | ⟨key, rest⟩⟩
      · rw [hlater] at ih
        obtain ⟨rfl, hnone⟩ := ih
        exact ⟨rfl, by rw [hnone]; rfl⟩
      · rw [hlater] at ih
        obtain ⟨captures, hfound, hgroups⟩ := ih
        exact ⟨captures, by rw [hfound]; rfl, hgroups⟩

end Parts

/-! ### The pairs of a text -/

/-- The pairs of a text as the pattern finds them one after another. -/
def matchedPairs : (fuel : Nat) → List Char → Except Error (List (String × String))
  | fuel, text =>
    match pairPattern.find text with
    | none => if isGap text then .ok [] else .error (strayText text)
    | some (gap, captures, rest) =>
      if !isGap gap then .error (strayText gap)
      else
        match fuel with
        | 0 => .ok []
        | fuel + 1 =>
          match matchedPairs fuel rest with
          | .ok pairs =>
            .ok ((String.ofList (readGroups captures).1, String.ofList (readGroups captures).2) ::
              pairs)
          | .error err => .error err

/-- The pattern finds the pairs that are read. -/
theorem matchedPairs_eq (fuel : Nat) (text : List Char) :
    matchedPairs fuel text = pairsOf fuel text := by
  induction fuel generalizing text with
  | zero =>
    have hfind := find_pairPattern text
    rw [matchedPairs, pairsOf]
    rcases hseek : seek text with ⟨gap, _ | ⟨key, rest⟩⟩ <;> rw [hseek] at hfind
    · rw [hfind.2, hfind.1]
    · obtain ⟨captures, hfound, -⟩ := hfind
      rw [hfound]
  | succ fuel ih =>
    have hfind := find_pairPattern text
    rw [matchedPairs, pairsOf]
    rcases hseek : seek text with ⟨gap, _ | ⟨key, rest⟩⟩ <;> rw [hseek] at hfind
    · rw [hfind.2, hfind.1]
    · obtain ⟨captures, hfound, hgroups⟩ := hfind
      rw [hfound]
      have hrest := ih (value rest).2
      cases hpairs : pairsOf fuel (value rest).2 <;>
        simp only [hrest.trans hpairs, hpairs, hgroups]

end ConnectionString

end Provenance
