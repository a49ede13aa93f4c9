import Mathlib.Data.List.DropRight
import Provenance.Json.Text

/-!
The grammar of JSON texts, and the reader on the texts that it derives.

`JsonPiece.Written` says how a part of a string may be written, as itself or as an escape, and
`JsonPiece.Denote` which text the parts stand for; `Numeral.Written` says how a number may be
written, and `Json.Written` is the grammar itself, with one phrase for each of its rules. What is
written of a string is read up to its closing quote (`readString_written`). A number has no such
end: it is read as it was written if nothing after it could go on with it (`readNumber_written`,
`Ends`), which a blank, a comma or a bracket never does (`ends_cons`).

The rest is an induction on the derivation (`Written.read`), with one lemma for each rule. Its
invariant says for each phrase how the reader leaves it (`Phrase.Read`): a value up to its last
character, an element up to blanks that the reader skips when it looks for what comes next, items
and fields up to and with their closing bracket. A derivation takes at most two calls for a
character, so the fuel suffices, and a text that is derived for a value is read as that value
(`read_of_written`).

At the end the writer is seen to keep to the grammar, for integers (`written_ofInt`), for texts with
nothing to escape (`written_ofText`) and for objects (`written_fieldChars`).
-/

set_option autoImplicit false
set_option relaxedAutoImplicit false

namespace Provenance

/-! ### Strings -/

namespace JsonPiece

/-- A hexadecimal digit of a value, as a small letter or a large one. -/
def HexDigit (value : Nat) (c : Char) : Prop :=
  value < 16 ∧ (c = Nat.digitChar value ∨ c = (Nat.digitChar value).toUpper)

theorem HexDigit.hexValue? {value : Nat} {c : Char} (h : HexDigit value c) :
    Text.hexValue? c = some value := by
  have hall : ∀ value < 16, Text.hexValue? (Nat.digitChar value) = some value ∧
      Text.hexValue? (Nat.digitChar value).toUpper = some value := by decide
  obtain ⟨hvalue, rfl | rfl⟩ := h
  · exact (hall value hvalue).1
  · exact (hall value hvalue).2

/-- The letters that may follow a backslash, with the characters that they stand for there. -/
def escapes : List (Char × Char) :=
  [('"', '"'), ('\\', '\\'), ('/', '/'), ('b', '\x08'), ('f', '\x0c'), ('n', '\n'), ('r', '\r'),
    ('t', '\t')]

/-- How a part of a string may be written. -/
inductive Written : JsonPiece → List Char → Prop
  | plain (c : Char) (hcontrol : 0x20 ≤ c.toNat) (hquote : c ≠ '"') (hbackslash : c ≠ '\\') :
      Written (.char c) [c]
  | escaped {letter c : Char} (h : (letter, c) ∈ escapes) : Written (.char c) ['\\', letter]
  | unit {a b c d : Nat} {first second third fourth : Char} (ha : HexDigit a first)
      (hb : HexDigit b second) (hc : HexDigit c third) (hd : HexDigit d fourth) :
      Written (.unit (((a * 16 + b) * 16 + c) * 16 + d)) ['\\', 'u', first, second, third, fourth]

/-- How the parts of a string may be written between its quotes. -/
inductive AllWritten : List JsonPiece → List Char → Prop
  | nil : AllWritten [] []
  | cons {piece : JsonPiece} {pieces : List JsonPiece} {chars rest : List Char}
      (h : piece.Written chars) (hrest : AllWritten pieces rest) :
      AllWritten (piece :: pieces) (chars ++ rest)

/-- The text that the parts of a string stand for. A unit stands for a character of its own, or two
do together that are the halves of one. -/
inductive Denote : List JsonPiece → List Char → Prop
  | nil : Denote [] []
  | char {pieces : List JsonPiece} {text : List Char} (c : Char) (h : Denote pieces text) :
      Denote (.char c :: pieces) (c :: text)
  | unit {pieces : List JsonPiece} {text : List Char} {value : Nat}
      (hvalue : value < 0xD800 ∨ 0xDFFF < value) (h : Denote pieces text) :
      Denote (.unit value :: pieces) (Char.ofNat value :: text)
  | halves {pieces : List JsonPiece} {text : List Char} {high low : Nat} (hhigh : high < 0x400)
      (hlow : low < 0x400) (h : Denote pieces text) :
      Denote (.unit (0xD800 + high) :: .unit (0xDC00 + low) :: pieces)
        (Char.ofNat (0x10000 + high * 0x400 + low) :: text)

theorem Denote.text? {pieces : List JsonPiece} {text : List Char} (h : Denote pieces text) :
    JsonPiece.text? pieces = some text := by
  induction h with
  | nil => rfl
  | char c _ ih => rw [JsonPiece.text?, ih, Option.map_some]
  | unit hvalue _ ih =>
    rw [JsonPiece.text?.eq_def]
    simp only [if_pos hvalue, ih, Option.map_some]
  | @halves pieces text high low hhigh hlow _ ih =>
    have hpair : 0xDC00 ≤ 0xDC00 + low ∧ 0xDC00 + low ≤ 0xDFFF := by omega
    rw [JsonPiece.text?, if_neg (by omega), if_neg (by omega), if_pos hpair, ih, Option.map_some,
      Nat.add_sub_cancel_left, Nat.add_sub_cancel_left]

end JsonPiece

namespace Json

open JsonPiece (AllWritten)

/-- A part of a string is read as it was written. -/
theorem readString_piece {piece : JsonPiece} {chars : List Char} (h : piece.Written chars)
    (rest : List Char) :
    readString (chars ++ rest) =
      (readString rest).map fun read ↦ (piece :: read.1, read.2) := by
  cases h with
  | plain c hcontrol hquote hbackslash =>
    have hplain : ¬ (c.toNat < 0x20 ∨ c = '\\') := by
      rintro (hlow | hsame)
      · omega
      · exact hbackslash hsame
    change readString (c :: rest) = _
    rw [readString, if_neg hplain]
    · cases readString rest <;> rfl
    · exact hquote
    · exact fun _ _ _ _ _ hsame _ ↦ hbackslash hsame
    · exact fun _ _ hsame _ ↦ hbackslash hsame
  | @escaped letter c hletter =>
    have hescaped : escaped? letter = some c ∧ letter ≠ 'u' := by
      revert hletter
      simp only [JsonPiece.escapes, List.mem_cons, Prod.mk.injEq, List.not_mem_nil, or_false]
      rintro (⟨rfl, rfl⟩ | ⟨rfl, rfl⟩ | ⟨rfl, rfl⟩ | ⟨rfl, rfl⟩ | ⟨rfl, rfl⟩ | ⟨rfl, rfl⟩ |
        ⟨rfl, rfl⟩ | ⟨rfl, rfl⟩) <;> exact ⟨rfl, by decide⟩
    change readString ('\\' :: letter :: rest) = _
    rw [readString, hescaped.1]
    · cases readString rest <;> rfl
    · exact fun _ _ _ _ _ hsame _ ↦ hescaped.2 hsame
  | unit ha hb hc hd =>
    change readString ('\\' :: 'u' :: _ :: _ :: _ :: _ :: rest) = _
    rw [readString, unit?, ha.hexValue?, hb.hexValue?, hc.hexValue?, hd.hexValue?]
    cases readString rest <;> rfl

/-- A string is read as it was written, up to its closing quote. -/
theorem readString_written {pieces : List JsonPiece} {chars : List Char}
    (h : AllWritten pieces chars) (rest : List Char) :
    readString (chars ++ '"' :: rest) = some (pieces, rest) := by
  induction h with
  | nil => rfl
  | cons hpiece _ ih => rw [List.append_assoc, readString_piece hpiece, ih, Option.map_some]

end Json

/-! ### Numbers -/

namespace Numeral

/-- Digits with no superfluous zero before them. -/
structure IsWhole (digits : List Char) : Prop where
  isDigit : ∀ c ∈ digits, c.isDigit = true
  plain : digits = ['0'] ∨ ∃ first rest, digits = first :: rest ∧ first ≠ '0'

/-- Digits, and at least one of them. -/
structure IsRun (digits : List Char) : Prop where
  isDigit : ∀ c ∈ digits, c.isDigit = true
  nonempty : digits ≠ []

/-- How the digits after a point may be written, with the point. -/
inductive FractionWritten : Option (List Char) → List Char → Prop
  | absent : FractionWritten none []
  | digits {digits : List Char} (h : IsRun digits) : FractionWritten (some digits) ('.' :: digits)

/-- How the sign of a power of ten may be written. -/
inductive SignWritten : Bool → List Char → Prop
  | absent : SignWritten false []
  | plus : SignWritten false ['+']
  | minus : SignWritten true ['-']

/-- How a power of ten may be written, with the letter before it. -/
inductive ExponentWritten : Option Int → List Char → Prop
  | absent : ExponentWritten none []
  | power {mark : Char} {negative : Bool} {signChars digits : List Char}
      (hmark : mark = 'e' ∨ mark = 'E') (hsign : SignWritten negative signChars)
      (h : IsRun digits) :
      ExponentWritten (some (if negative then -(natOf digits : Int) else natOf digits))
        (mark :: (signChars ++ digits))

/-- How a number may be written. -/
inductive Written : Numeral → List Char → Prop
  | mk {whole fractionChars exponentChars : List Char} {fraction : Option (List Char)}
      {exponent : Option Int} (negative : Bool) (hwhole : IsWhole whole)
      (hfraction : FractionWritten fraction fractionChars)
      (hexponent : ExponentWritten exponent exponentChars) :
      Written ⟨negative, whole, fraction, exponent⟩
        ((if negative then ['-'] else []) ++ whole ++ fractionChars ++ exponentChars)

/-- Nothing at the start of a text could go on with a number. -/
structure Ends (rest : List Char) : Prop where
  digit : ∀ c more, rest = c :: more → c.isDigit = false
  point : ∀ more, rest ≠ '.' :: more
  mark : ∀ c more, rest = c :: more → ¬ (c = 'e' ∨ c = 'E')

variable {digits rest : List Char}

theorem takeWhile_digits (h : ∀ c ∈ digits, c.isDigit = true)
    (hrest : ∀ c more, rest = c :: more → c.isDigit = false) :
    (digits ++ rest).takeWhile Char.isDigit = digits := by
  rw [List.takeWhile_append_of_pos h]
  cases rest with
  | nil => rw [List.takeWhile_nil, List.append_nil]
  | cons c more => rw [List.takeWhile_cons, hrest c more rfl]; exact List.append_nil _

theorem dropWhile_digits (h : ∀ c ∈ digits, c.isDigit = true)
    (hrest : ∀ c more, rest = c :: more → c.isDigit = false) :
    (digits ++ rest).dropWhile Char.isDigit = rest := by
  rw [List.dropWhile_append_of_pos h]
  cases rest with
  | nil => rfl
  | cons c more => rw [List.dropWhile_cons, hrest c more rfl]; rfl

/-- The sign of a power of ten is read as it was written. -/
theorem sign_written {negative : Bool} {signChars : List Char}
    (h : SignWritten negative signChars) (hdigits : IsRun digits) (rest : List Char) :
    sign (signChars ++ digits ++ rest) = (negative, digits ++ rest) := by
  obtain ⟨c, more, rfl⟩ := List.exists_cons_of_ne_nil hdigits.nonempty
  have hdigit := hdigits.isDigit c List.mem_cons_self
  cases h with
  | absent =>
    change sign (c :: (more ++ rest)) = (false, c :: (more ++ rest))
    unfold sign
    split <;> first
      | (rename_i hsame; obtain ⟨rfl, -⟩ := List.cons.inj hsame; cases hdigit)
      | rfl
  | plus => rfl
  | minus => rfl

/-- A power of ten is read as it was written. -/
theorem scanExponent_written {exponent : Option Int} {chars : List Char}
    (h : ExponentWritten exponent chars) (hrest : Ends rest) :
    scanExponent (chars ++ rest) = (exponent, rest) := by
  cases h with
  | absent =>
    cases rest with
    | nil => rfl
    | cons c more =>
      change scanExponent (c :: more) = _
      rw [scanExponent, if_neg (hrest.mark c more rfl)]
  | @power mark negative signChars digits hmark hsign hdigits =>
    change scanExponent (mark :: (signChars ++ digits ++ rest)) = _
    have htake := takeWhile_digits hdigits.isDigit hrest.digit
    have hdrop := dropWhile_digits hdigits.isDigit hrest.digit
    obtain ⟨c, more, rfl⟩ := List.exists_cons_of_ne_nil hdigits.nonempty
    simp only [scanExponent, if_pos hmark, sign_written hsign hdigits, htake, hdrop]

/-- What is written of a power of ten goes on with no digits and is no point. -/
theorem ends_exponent {exponent : Option Int} {chars : List Char}
    (h : ExponentWritten exponent chars) (hrest : Ends rest) :
    (∀ c more, chars ++ rest = c :: more → c.isDigit = false) ∧
      ∀ more, chars ++ rest ≠ '.' :: more := by
  cases h with
  | absent => exact ⟨hrest.digit, hrest.point⟩
  | power hmark hsign hdigits =>
    constructor
    · intro c more hsame
      obtain ⟨rfl, -⟩ := List.cons.inj hsame
      rcases hmark with rfl | rfl <;> rfl
    · intro more hsame
      obtain ⟨rfl, -⟩ := List.cons.inj hsame
      rcases hmark with hmark | hmark <;> cases hmark

/-- What is written of a fraction goes on with no digits. -/
theorem ends_fraction {fraction : Option (List Char)} {chars : List Char}
    (h : FractionWritten fraction chars) (hrest : ∀ c more, rest = c :: more → c.isDigit = false) :
    ∀ c more, chars ++ rest = c :: more → c.isDigit = false := by
  cases h with
  | absent => exact hrest
  | digits hdigits =>
    intro c more hsame
    obtain ⟨rfl, -⟩ := List.cons.inj hsame
    rfl

theorem IsWhole.exists_cons (h : IsWhole digits) :
    ∃ c more, digits = c :: more ∧ c.isDigit = true := by
  rcases h.plain with rfl | ⟨first, more, rfl, -⟩
  · exact ⟨'0', [], rfl, rfl⟩
  · exact ⟨first, more, rfl, h.isDigit first List.mem_cons_self⟩

end Numeral

namespace Json

open Numeral (Ends FractionWritten takeWhile_digits dropWhile_digits)

/-- The minus at the start of a number, if there is one, and what follows. -/
def minus : List Char → Bool × List Char
  | '-' :: rest => (true, rest)
  | rest => (false, rest)

/-- The digits after a point, if there is one, and what follows. -/
def fraction : List Char → Option (List Char) × List Char
  | '.' :: rest => (some (rest.takeWhile Char.isDigit), rest.dropWhile Char.isDigit)
  | rest => (none, rest)

/-- What comes of a number once its power of ten has been looked for. The letter of a power with
no power after it is refused. -/
def withPower (n : Option Int → Numeral) : Option Int × List Char → Option (Numeral × List Char)
  | (some exponent, rest) => some (n (some exponent), rest)
  | (none, rest) =>
    match rest with
    | 'e' :: _ | 'E' :: _ => none
    | rest => some (n none, rest)

/-- A number is read part by part. -/
theorem readNumber_eq (text : List Char) :
    readNumber text =
      let whole := (minus text).2.takeWhile Char.isDigit
      let places := fraction ((minus text).2.dropWhile Char.isDigit)
      if whole.isEmpty || (whole.head? == some '0' && whole.length != 1) then none
      else if places.1 == some [] then none
      else withPower (⟨(minus text).1, whole, places.1, ·⟩) (Numeral.scanExponent places.2) :=
  rfl

theorem minus_digit {c : Char} (h : c.isDigit = true) (rest : List Char) :
    minus (c :: rest) = (false, c :: rest) := by
  unfold minus
  split
  case h_1 more hsame =>
    obtain ⟨rfl, -⟩ := List.cons.inj hsame
    cases h
  case h_2 => rfl

/-- The digits after a point are read as they were written. -/
theorem fraction_written {places : Option (List Char)} {chars rest : List Char}
    (h : FractionWritten places chars) (hdigit : ∀ c more, rest = c :: more → c.isDigit = false)
    (hpoint : ∀ more, rest ≠ '.' :: more) :
    fraction (chars ++ rest) = (places, rest) ∧ (places == some []) = false := by
  cases h with
  | absent =>
    refine ⟨?_, rfl⟩
    change fraction rest = _
    unfold fraction
    split
    · exact absurd rfl (hpoint _)
    · rfl
  | @digits digits hdigits =>
    obtain ⟨c, more, rfl⟩ := List.exists_cons_of_ne_nil hdigits.nonempty
    refine ⟨?_, rfl⟩
    change (some (((c :: more) ++ rest).takeWhile _), ((c :: more) ++ rest).dropWhile _) = _
    rw [takeWhile_digits hdigits.isDigit hdigit, dropWhile_digits hdigits.isDigit hdigit]

/-- What may come after a number has no letter of a power of ten. -/
theorem withPower_of_ends {rest : List Char} (h : Ends rest) (n : Option Int → Numeral)
    (exponent : Option Int) : withPower n (exponent, rest) = some (n exponent, rest) := by
  cases exponent with
  | some exponent => rfl
  | none =>
    unfold withPower
    dsimp only
    split
    · exact absurd (Or.inl rfl) (h.mark _ _ rfl)
    · exact absurd (Or.inr rfl) (h.mark _ _ rfl)
    · rfl

/-- A number is read as it was written, if nothing after it could go on with it. -/
theorem readNumber_written {n : Numeral} {chars rest : List Char} (h : n.Written chars)
    (hrest : Ends rest) : readNumber (chars ++ rest) = some (n, rest) := by
  cases h with
  | @mk whole fractionChars exponentChars places exponent negative hwhole hfraction hexponent =>
  obtain ⟨hdigit, hpoint⟩ := Numeral.ends_exponent hexponent hrest
  have hscan := Numeral.scanExponent_written hexponent hrest
  have hplaces := fraction_written hfraction hdigit hpoint
  have hafter := Numeral.ends_fraction hfraction hdigit
  have htake := takeWhile_digits hwhole.isDigit hafter
  have hdrop := dropWhile_digits hwhole.isDigit hafter
  have hminus : minus ((if negative then ['-'] else []) ++
      (whole ++ (fractionChars ++ (exponentChars ++ rest)))) =
        (negative, whole ++ (fractionChars ++ (exponentChars ++ rest))) := by
    obtain ⟨c, more, rfl, hc⟩ := hwhole.exists_cons
    cases negative with
    | true => rfl
    | false => exact minus_digit hc _
  have hzero : (whole.isEmpty || (whole.head? == some '0' && whole.length != 1)) = false := by
    rcases hwhole.plain with rfl | ⟨first, more, rfl, hfirst⟩
    · rfl
    · simp [hfirst]
  simp only [List.append_assoc, readNumber_eq, hminus, htake, hdrop, hzero, hplaces, hscan,
    withPower_of_ends hrest, Bool.false_eq_true, if_false]

end Json

/-! ### Values -/

namespace Json

open JsonPiece (AllWritten)
open Numeral (Ends)

/-- Blanks, as they may stand around a value. -/
def Spaces (chars : List Char) : Prop := ∀ c ∈ chars, c ∈ [' ', '\t', '\n', '\r']

/-- What is written in a part of a text. An element is a value with the blanks around it. -/
inductive Phrase where
  | value (json : Json)
  | element (json : Json)
  | elements (items : List Json)
  | member (key : List JsonPiece) (json : Json)
  | members (fields : List (List JsonPiece × Json))

/-- The grammar: what may be written for each phrase. -/
inductive Written : Phrase → List Char → Prop
  | null : Written (.value .null) ['n', 'u', 'l', 'l']
  | yes : Written (.value (.bool true)) ['t', 'r', 'u', 'e']
  | no : Written (.value (.bool false)) ['f', 'a', 'l', 's', 'e']
  | number {n : Numeral} {chars : List Char} (h : n.Written chars) :
      Written (.value (.number n)) chars
  | string {pieces : List JsonPiece} {chars : List Char} (h : AllWritten pieces chars) :
      Written (.value (.string pieces)) ('"' :: chars ++ ['"'])
  | noItems {spaces : List Char} (h : Spaces spaces) :
      Written (.value (.array [])) ('[' :: spaces ++ [']'])
  | array {items : List Json} {chars : List Char} (h : Written (.elements items) chars) :
      Written (.value (.array items)) ('[' :: chars ++ [']'])
  | noFields {spaces : List Char} (h : Spaces spaces) :
      Written (.value (.object [])) ('{' :: spaces ++ ['}'])
  | object {fields : List (List JsonPiece × Json)} {chars : List Char}
      (h : Written (.members fields) chars) :
      Written (.value (.object fields)) ('{' :: chars ++ ['}'])
  | element {json : Json} {before chars after : List Char} (hbefore : Spaces before)
      (h : Written (.value json) chars) (hafter : Spaces after) :
      Written (.element json) (before ++ chars ++ after)
  | item {json : Json} {chars : List Char} (h : Written (.element json) chars) :
      Written (.elements [json]) chars
  | items {json : Json} {items : List Json} {chars more : List Char}
      (h : Written (.element json) chars) (hmore : Written (.elements items) more) :
      Written (.elements (json :: items)) (chars ++ ',' :: more)
  | member {key : List JsonPiece} {json : Json} {before keyChars after chars : List Char}
      (hbefore : Spaces before) (hkey : AllWritten key keyChars) (hafter : Spaces after)
      (h : Written (.element json) chars) :
      Written (.member key json) (before ++ '"' :: keyChars ++ '"' :: after ++ ':' :: chars)
  | field {key : List JsonPiece} {json : Json} {chars : List Char}
      (h : Written (.member key json) chars) : Written (.members [(key, json)]) chars
  | fields {key : List JsonPiece} {json : Json} {fields : List (List JsonPiece × Json)}
      {chars more : List Char} (h : Written (.member key json) chars)
      (hmore : Written (.members fields) more) :
      Written (.members ((key, json) :: fields)) (chars ++ ',' :: more)

/-! ### Blanks -/

theorem spaces_nil : Spaces [] := fun _ hc ↦ absurd hc List.not_mem_nil

theorem Spaces.isSpace {spaces : List Char} (h : Spaces spaces) :
    ∀ c ∈ spaces, isSpace c = true := by
  intro c hc
  have hmem := h c hc
  simp only [List.mem_cons, List.not_mem_nil, or_false] at hmem
  rcases hmem with rfl | rfl | rfl | rfl <;> rfl

theorem skipSpaces_spaces {spaces : List Char} (h : Spaces spaces) (rest : List Char) :
    skipSpaces (spaces ++ rest) = skipSpaces rest :=
  List.dropWhile_append_of_pos h.isSpace

theorem skipSpaces_cons {c : Char} (h : isSpace c = false) (rest : List Char) :
    skipSpaces (c :: rest) = c :: rest := by
  rw [skipSpaces, List.dropWhile_cons, h]
  rfl

theorem skipSpaces_skipSpaces (text : List Char) :
    skipSpaces (skipSpaces text) = skipSpaces text :=
  List.dropWhile_idempotent _ text

theorem readValue_skipSpaces (fuel : Nat) (text : List Char) :
    readValue fuel (skipSpaces text) = readValue fuel text := by
  cases fuel with
  | zero => simp only [readValue]
  | succ fuel => simp only [readValue, skipSpaces_skipSpaces]

theorem readItems_skipSpaces (fuel : Nat) (text : List Char) :
    readItems fuel (skipSpaces text) = readItems fuel text := by
  cases fuel with
  | zero => simp only [readItems]
  | succ fuel => simp only [readItems, readValue_skipSpaces]

theorem readFields_skipSpaces (fuel : Nat) (text : List Char) :
    readFields fuel (skipSpaces text) = readFields fuel text := by
  cases fuel with
  | zero => simp only [readFields]
  | succ fuel => simp only [readFields, skipSpaces_skipSpaces]

/-! ### First characters -/

/-- A character that a value or a key may start with. -/
structure Opens (c : Char) : Prop where
  space : isSpace c = false
  bracket : c ≠ ']'
  brace : c ≠ '}'

theorem Opens.of_isDigit {c : Char} (h : c.isDigit = true) : Opens c := by
  constructor
  · by_contra hspace
    simp only [isSpace, Bool.not_eq_false, Bool.or_eq_true, beq_iff_eq] at hspace
    rcases hspace with ((rfl | rfl) | rfl) | rfl <;> cases h
  · rintro rfl
    cases h
  · rintro rfl
    cases h

/-- A number starts with a minus or a digit. -/
theorem exists_cons_of_number {n : Numeral} {chars : List Char} (h : n.Written chars) :
    ∃ c more, chars = c :: more ∧ (c = '-' ∨ c.isDigit = true) := by
  cases h with
  | mk negative hwhole hfraction hexponent =>
    obtain ⟨c, more, rfl, hc⟩ := hwhole.exists_cons
    cases negative with
    | true => exact ⟨'-', _, rfl, .inl rfl⟩
    | false => exact ⟨c, _, rfl, .inr hc⟩

/-- Whatever is written for a phrase starts with a character that opens a value or a key, after
blanks. -/
theorem Written.opens {phrase : Phrase} {chars : List Char} (h : Written phrase chars) :
    ∃ before c more, Spaces before ∧ Opens c ∧ chars = before ++ c :: more := by
  have hopens : ∀ c ∈ ['n', 't', 'f', '"', '[', '{', '-'], Opens c := by
    intro c hc
    simp only [List.mem_cons, List.not_mem_nil, or_false] at hc
    rcases hc with rfl | rfl | rfl | rfl | rfl | rfl | rfl <;> exact ⟨rfl, by decide, by decide⟩
  have hplain : ∀ c ∈ ['n', 't', 'f', '"', '[', '{', '-'], ∀ more,
      ∃ before first rest, Spaces before ∧ Opens first ∧ c :: more = before ++ first :: rest :=
    fun c hc more ↦ ⟨[], c, more, spaces_nil, hopens c hc, rfl⟩
  induction h with
  | null | yes | no | string _ | noItems _ | array _ _ | noFields _ | object _ _ =>
    exact hplain _ (by decide) _
  | number h =>
    obtain ⟨c, more, rfl, rfl | hc⟩ := exists_cons_of_number h
    · exact hplain _ (by decide) _
    · exact ⟨[], c, more, spaces_nil, .of_isDigit hc, rfl⟩
  | @element json before chars after hbefore h hafter ih =>
    obtain ⟨spaces, c, more, hspaces, hc, rfl⟩ := ih
    refine ⟨before ++ spaces, c, more ++ after, ?_, hc, by simp⟩
    intro c hc
    exact (List.mem_append.mp hc).elim (hbefore c) (hspaces c)
  | item _ ih | field _ ih => exact ih
  | items _ _ ih _ | fields _ _ ih _ =>
    obtain ⟨before, c, more, hbefore, hc, rfl⟩ := ih
    exact ⟨before, c, _, hbefore, hc, List.append_assoc _ _ _⟩
  | @member key json before keyChars after chars hbefore hkey hafter h ih =>
    exact ⟨before, '"', keyChars ++ '"' :: after ++ ':' :: chars, hbefore,
      hopens _ (by decide), by simp⟩

/-- So a text that goes on with a phrase has such a character at its start, once the blanks are
skipped. -/
theorem Written.skipSpaces_eq {phrase : Phrase} {chars : List Char} (h : Written phrase chars)
    (rest : List Char) : ∃ c more, Opens c ∧ skipSpaces (chars ++ rest) = c :: more := by
  obtain ⟨before, c, more, hbefore, hc, rfl⟩ := h.opens
  refine ⟨c, more ++ rest, hc, ?_⟩
  rw [List.append_assoc, skipSpaces_spaces hbefore]
  exact skipSpaces_cons hc.space _

/-! ### What ends a number -/

theorem ends_nil : Ends [] :=
  ⟨fun _ _ h ↦ (nomatch h), fun _ h ↦ (nomatch h), fun _ _ h ↦ (nomatch h)⟩

theorem ends_cons {c : Char} (h : c ∈ [' ', '\t', '\n', '\r', ',', ']', '}'])
    (rest : List Char) : Ends (c :: rest) := by
  simp only [List.mem_cons, List.not_mem_nil, or_false] at h
  constructor
  · rintro c more hsame
    obtain ⟨rfl, -⟩ := List.cons.inj hsame
    rcases h with rfl | rfl | rfl | rfl | rfl | rfl | rfl <;> rfl
  · rintro more hsame
    obtain ⟨rfl, -⟩ := List.cons.inj hsame
    revert h
    decide
  · rintro c more hsame
    obtain ⟨rfl, -⟩ := List.cons.inj hsame
    rcases h with rfl | rfl | rfl | rfl | rfl | rfl | rfl <;> decide

theorem ends_spaces {spaces rest : List Char} (h : Spaces spaces) (hrest : Ends rest) :
    Ends (spaces ++ rest) := by
  cases spaces with
  | nil => exact hrest
  | cons c more =>
    refine ends_cons ?_ _
    have hmem := h c List.mem_cons_self
    simp only [List.mem_cons, List.not_mem_nil, or_false] at hmem ⊢
    tauto

/-! ### Values, items and fields -/

/-- What it is that a part of a text is read as a phrase, with fuel for two calls per character.
What comes after a value must end a number. Blanks after an element may be left for later. Items and
fields are read with the bracket after them, and a member is the last of its fields or has more of
them after it. -/
def Phrase.Read (chars : List Char) : Phrase → Prop
  | value json => ∀ fuel rest, 2 * chars.length < fuel → Ends rest →
      readValue fuel (chars ++ rest) = some (json, rest)
  | element json => ∀ fuel rest, 2 * chars.length < fuel → Ends rest →
      ∃ after, readValue fuel (chars ++ rest) = some (json, after) ∧
        skipSpaces after = skipSpaces rest
  | elements items => ∀ fuel rest, 2 * chars.length + 1 < fuel →
      readItems fuel (chars ++ ']' :: rest) = some (items, rest)
  | member key json => ∀ fuel rest, 2 * chars.length < fuel →
      readFields (fuel + 1) (chars ++ '}' :: rest) = some ([(key, json)], rest) ∧
        ∀ fields after, readFields fuel rest = some (fields, after) →
          readFields (fuel + 1) (chars ++ ',' :: rest) = some ((key, json) :: fields, after)
  | members fields => ∀ fuel rest, 2 * chars.length + 1 < fuel →
      readFields fuel (chars ++ '}' :: rest) = some (fields, rest)

section Step

variable (fuel : Nat) (rest : List Char)

theorem readValue_digit {c : Char} (hc : c = '-' ∨ c.isDigit = true) :
    readValue (fuel + 1) (c :: rest) =
      (readNumber (c :: rest)).map fun (numeral, rest) ↦ (.number numeral, rest) := by
  have hspace : isSpace c = false := by
    rcases hc with rfl | hdigit
    · rfl
    · exact (Opens.of_isDigit hdigit).space
  have hother : ∀ d ∈ ['n', 't', 'f', '"', '[', '{'], c ≠ d := by
    rcases hc with rfl | hdigit
    · simp
    · rintro d hd rfl
      simp only [List.mem_cons, List.not_mem_nil, or_false] at hd
      rcases hd with rfl | rfl | rfl | rfl | rfl | rfl <;> cases hdigit
  rw [readValue, skipSpaces_cons hspace]
  split
  case h_7 => rfl
  all_goals
    rename_i hsame
    exact absurd (List.cons.inj hsame).1 (hother _ (by decide))

theorem readValue_quote :
    readValue (fuel + 1) ('"' :: rest) =
      (readString rest).map fun (pieces, rest) ↦ (.string pieces, rest) := by
  simp only [readValue, skipSpaces_cons (c := '"') rfl]

/-- An array with no items is read as one. -/
theorem readValue_noItems {spaces : List Char} (h : Spaces spaces) :
    readValue (fuel + 1) ('[' :: (spaces ++ ']' :: rest)) = some (.array [], rest) := by
  have hskip : skipSpaces (spaces ++ ']' :: rest) = ']' :: rest := by
    rw [skipSpaces_spaces h, skipSpaces_cons rfl]
  simp only [readValue, skipSpaces_cons (c := '[') rfl, hskip]

/-- The items of an array are read after its bracket, unless a bracket follows. -/
theorem readValue_items {c : Char} {text more : List Char} (hc : c ≠ ']')
    (h : skipSpaces text = c :: more) :
    readValue (fuel + 1) ('[' :: text) =
      (readItems fuel text).map fun (items, rest) ↦ (.array items, rest) := by
  simp only [readValue, skipSpaces_cons (c := '[') rfl]
  split
  · rename_i hsame
    exact absurd (List.cons.inj (h.symm.trans hsame)).1 hc
  · rw [readItems_skipSpaces]

/-- An object with no fields is read as one. -/
theorem readValue_noFields {spaces : List Char} (h : Spaces spaces) :
    readValue (fuel + 1) ('{' :: (spaces ++ '}' :: rest)) = some (.object [], rest) := by
  have hskip : skipSpaces (spaces ++ '}' :: rest) = '}' :: rest := by
    rw [skipSpaces_spaces h, skipSpaces_cons rfl]
  simp only [readValue, skipSpaces_cons (c := '{') rfl, hskip]

/-- The fields of an object are read after its brace, unless a brace follows. -/
theorem readValue_fields {c : Char} {text more : List Char} (hc : c ≠ '}')
    (h : skipSpaces text = c :: more) :
    readValue (fuel + 1) ('{' :: text) =
      (readFields fuel text).map fun (fields, rest) ↦ (.object fields, rest) := by
  simp only [readValue, skipSpaces_cons (c := '{') rfl]
  split
  · rename_i hsame
    exact absurd (List.cons.inj (h.symm.trans hsame)).1 hc
  · rw [readFields_skipSpaces]

end Step

/-! ### The rules of the grammar -/

section Rules

variable {json : Json} {items : List Json} {key : List JsonPiece}
  {fields : List (List JsonPiece × Json)} {before chars after more : List Char}

theorem read_number {n : Numeral} (h : n.Written chars) :
    (Phrase.value (.number n)).Read chars := by
  intro fuel rest hfuel hrest
  obtain ⟨fuel, rfl⟩ := Nat.exists_eq_add_one_of_ne_zero (Nat.ne_zero_of_lt hfuel)
  obtain ⟨c, more, rfl, hc⟩ := exists_cons_of_number h
  refine (readValue_digit fuel (more ++ rest) hc).trans ?_
  rw [← List.cons_append, readNumber_written h hrest]
  rfl

theorem read_string (h : AllWritten key chars) :
    (Phrase.value (.string key)).Read ('"' :: chars ++ ['"']) := by
  intro fuel rest hfuel hrest
  obtain ⟨fuel, rfl⟩ := Nat.exists_eq_add_one_of_ne_zero (Nat.ne_zero_of_lt hfuel)
  have htext : '"' :: chars ++ ['"'] ++ rest = '"' :: (chars ++ '"' :: rest) := by simp
  rw [htext, readValue_quote, readString_written h]
  rfl

theorem read_noItems (h : Spaces chars) :
    (Phrase.value (.array [])).Read ('[' :: chars ++ [']']) := by
  intro fuel rest hfuel hrest
  obtain ⟨fuel, rfl⟩ := Nat.exists_eq_add_one_of_ne_zero (Nat.ne_zero_of_lt hfuel)
  have htext : '[' :: chars ++ [']'] ++ rest = '[' :: (chars ++ ']' :: rest) := by simp
  rw [htext, readValue_noItems fuel rest h]

theorem read_array (h : Written (.elements items) chars) (ih : (Phrase.elements items).Read chars) :
    (Phrase.value (.array items)).Read ('[' :: chars ++ [']']) := by
  intro fuel rest hfuel hrest
  obtain ⟨fuel, rfl⟩ := Nat.exists_eq_add_one_of_ne_zero (Nat.ne_zero_of_lt hfuel)
  have htext : '[' :: chars ++ [']'] ++ rest = '[' :: (chars ++ ']' :: rest) := by simp
  obtain ⟨c, more, hc, hskip⟩ := h.skipSpaces_eq (']' :: rest)
  have hitems : 2 * chars.length + 1 < fuel := by
    simp only [List.length_append, List.length_cons, List.length_nil] at hfuel
    omega
  rw [htext, readValue_items fuel hc.bracket hskip, ih fuel rest hitems]
  rfl

theorem read_noFields (h : Spaces chars) :
    (Phrase.value (.object [])).Read ('{' :: chars ++ ['}']) := by
  intro fuel rest hfuel hrest
  obtain ⟨fuel, rfl⟩ := Nat.exists_eq_add_one_of_ne_zero (Nat.ne_zero_of_lt hfuel)
  have htext : '{' :: chars ++ ['}'] ++ rest = '{' :: (chars ++ '}' :: rest) := by simp
  rw [htext, readValue_noFields fuel rest h]

theorem read_object (h : Written (.members fields) chars)
    (ih : (Phrase.members fields).Read chars) :
    (Phrase.value (.object fields)).Read ('{' :: chars ++ ['}']) := by
  intro fuel rest hfuel hrest
  obtain ⟨fuel, rfl⟩ := Nat.exists_eq_add_one_of_ne_zero (Nat.ne_zero_of_lt hfuel)
  have htext : '{' :: chars ++ ['}'] ++ rest = '{' :: (chars ++ '}' :: rest) := by simp
  obtain ⟨c, more, hc, hskip⟩ := h.skipSpaces_eq ('}' :: rest)
  have hfields : 2 * chars.length + 1 < fuel := by
    simp only [List.length_append, List.length_cons, List.length_nil] at hfuel
    omega
  rw [htext, readValue_fields fuel hc.brace hskip, ih fuel rest hfields]
  rfl

theorem read_element (hbefore : Spaces before) (hafter : Spaces after)
    (ih : (Phrase.value json).Read chars) :
    (Phrase.element json).Read (before ++ chars ++ after) := by
  intro fuel rest hfuel hrest
  have hvalue : 2 * chars.length < fuel := by
    simp only [List.length_append] at hfuel
    omega
  refine ⟨after ++ rest, ?_, skipSpaces_spaces hafter rest⟩
  rw [← readValue_skipSpaces, List.append_assoc, List.append_assoc, skipSpaces_spaces hbefore,
    readValue_skipSpaces]
  exact ih fuel (after ++ rest) hvalue (ends_spaces hafter hrest)

theorem read_item (ih : (Phrase.element json).Read chars) :
    (Phrase.elements [json]).Read chars := by
  intro fuel rest hfuel
  obtain ⟨fuel, rfl⟩ := Nat.exists_eq_add_one_of_ne_zero (Nat.ne_zero_of_lt hfuel)
  obtain ⟨left, hread, hskip⟩ := ih fuel (']' :: rest) (by omega) (ends_cons (by decide) rest)
  rw [skipSpaces_cons rfl] at hskip
  simp only [readItems, hread, hskip]

theorem read_items (ih : (Phrase.element json).Read chars)
    (ihmore : (Phrase.elements items).Read more) :
    (Phrase.elements (json :: items)).Read (chars ++ ',' :: more) := by
  intro fuel rest hfuel
  obtain ⟨fuel, rfl⟩ := Nat.exists_eq_add_one_of_ne_zero (Nat.ne_zero_of_lt hfuel)
  simp only [List.length_append, List.length_cons] at hfuel
  obtain ⟨left, hread, hskip⟩ :=
    ih fuel (',' :: (more ++ ']' :: rest)) (by omega) (ends_cons (by decide) _)
  rw [skipSpaces_cons rfl] at hskip
  simp only [List.append_assoc, List.cons_append, readItems, hread, hskip,
    ihmore fuel rest (by omega), Option.map_some]

theorem read_member {keyChars : List Char} (hbefore : Spaces before)
    (hkey : AllWritten key keyChars) (hafter : Spaces after)
    (ih : (Phrase.element json).Read chars) :
    (Phrase.member key json).Read
      (before ++ '"' :: keyChars ++ '"' :: after ++ ':' :: chars) := by
  intro fuel rest hfuel
  simp only [List.length_append, List.length_cons] at hfuel
  have htext : ∀ left, before ++ '"' :: keyChars ++ '"' :: after ++ ':' :: chars ++ left =
      before ++ '"' :: (keyChars ++ '"' :: (after ++ ':' :: (chars ++ left))) := by simp
  have hkeyText : ∀ left, skipSpaces (before ++ '"' :: left) = '"' :: left := fun left ↦ by
    rw [skipSpaces_spaces hbefore, skipSpaces_cons rfl]
  have hcolon : ∀ left, skipSpaces (after ++ ':' :: left) = ':' :: left := fun left ↦ by
    rw [skipSpaces_spaces hafter, skipSpaces_cons rfl]
  constructor
  · obtain ⟨left, hread, hskip⟩ := ih fuel ('}' :: rest) (by omega) (ends_cons (by decide) rest)
    rw [skipSpaces_cons rfl] at hskip
    simp only [htext, readFields, hkeyText, readString_written hkey, hcolon, hread, hskip]
  · intro fields last hfields
    obtain ⟨left, hread, hskip⟩ := ih fuel (',' :: rest) (by omega) (ends_cons (by decide) rest)
    rw [skipSpaces_cons rfl] at hskip
    simp only [htext, readFields, hkeyText, readString_written hkey, hcolon, hread, hskip,
      hfields, Option.map_some]

theorem read_field (ih : (Phrase.member key json).Read chars) :
    (Phrase.members [(key, json)]).Read chars := by
  intro fuel rest hfuel
  obtain ⟨fuel, rfl⟩ := Nat.exists_eq_add_one_of_ne_zero (Nat.ne_zero_of_lt hfuel)
  exact (ih fuel rest (by omega)).1

theorem read_fields (ih : (Phrase.member key json).Read chars)
    (ihmore : (Phrase.members fields).Read more) :
    (Phrase.members ((key, json) :: fields)).Read (chars ++ ',' :: more) := by
  intro fuel rest hfuel
  obtain ⟨fuel, rfl⟩ := Nat.exists_eq_add_one_of_ne_zero (Nat.ne_zero_of_lt hfuel)
  simp only [List.length_append, List.length_cons] at hfuel
  rw [List.append_assoc, List.cons_append]
  exact (ih fuel (more ++ '}' :: rest) (by omega)).2 fields rest (ihmore fuel rest (by omega))

end Rules

/-- Whatever the grammar derives is read as what it was written for. -/
theorem Written.read {phrase : Phrase} {chars : List Char} (h : Written phrase chars) :
    phrase.Read chars := by
  induction h with
  | null | yes | no =>
    intro fuel rest hfuel hrest
    obtain ⟨fuel, rfl⟩ := Nat.exists_eq_add_one_of_ne_zero (Nat.ne_zero_of_lt hfuel)
    simp only [readValue]
    rfl
  | number h => exact read_number h
  | string h => exact read_string h
  | noItems h => exact read_noItems h
  | array h ih => exact read_array h ih
  | noFields h => exact read_noFields h
  | object h ih => exact read_object h ih
  | element hbefore _ hafter ih => exact read_element hbefore hafter ih
  | item _ ih => exact read_item ih
  | items _ _ ih ihmore => exact read_items ih ihmore
  | member hbefore hkey hafter _ ih => exact read_member hbefore hkey hafter ih
  | field _ ih => exact read_field ih
  | fields _ _ ih ihmore => exact read_fields ih ihmore

/-- A text that the grammar derives for a value is read as that value. -/
theorem read_of_written {json : Json} {text : String}
    (h : Written (.element json) text.toList) : Json.read text = some json := by
  obtain ⟨after, hread, hskip⟩ :=
    h.read (2 * text.toList.length + 2) [] (by omega) ends_nil
  rw [List.append_nil] at hread
  rw [Json.read]
  simp only [hread, hskip]
  rfl

/-! ### Texts without blanks -/

/-- The digits of a positive number start with no zero. -/
theorem exists_cons_toDigits {n : Nat} (hn : 0 < n) :
    ∃ first rest, Nat.toDigits 10 n = first :: rest ∧ first ≠ '0' := by
  induction n using Nat.strongRecOn with
  | ind n ih =>
    by_cases hsmall : n < 10
    · have hdigit : ∀ n < 10, 0 < n → Nat.digitChar n ≠ '0' := by decide
      exact ⟨Nat.digitChar n, [], Nat.toDigits_of_lt_base hsmall, hdigit n hsmall hn⟩
    · obtain ⟨first, rest, hdigits, hfirst⟩ := ih (n / 10) (by omega) (by omega)
      refine ⟨first, rest ++ [Nat.digitChar (n % 10)], ?_, hfirst⟩
      rw [Nat.toDigits_of_base_le (by omega) (by omega), hdigits, List.cons_append]

/-- The digits of a natural number have no superfluous zero. -/
theorem isWhole_toString (n : Nat) : Numeral.IsWhole (toString n).toList := by
  rw [Nat.toString_eq_ofList_toDigits, String.toList_ofList]
  constructor
  · exact fun c hc ↦ Nat.isDigit_of_mem_toDigits (by omega) (by omega) hc
  · obtain rfl | hn := Nat.eq_zero_or_pos n
    · exact .inl rfl
    · exact .inr (exists_cons_toDigits hn)

/-- An integer is written in decimal. -/
theorem written_ofInt (i : Int) : Written (.value (ofInt i)) (ofInt i).chars := by
  rw [ofInt, chars]
  exact .number (.mk _ (isWhole_toString _) .absent .absent)

/-- Whether a text stands in a string as it is, with nothing to escape. -/
def Plain (text : String) : Prop := ∀ c ∈ text.toList, 0x20 ≤ c.toNat ∧ c ≠ '"' ∧ c ≠ '\\'

theorem allWritten_piecesOf {text : String} (h : Plain text) :
    AllWritten (piecesOf text) ((piecesOf text).flatMap JsonPiece.chars) := by
  rw [Plain] at h
  rw [piecesOf]
  generalize text.toList = chars at h ⊢
  induction chars with
  | nil => exact .nil
  | cons c rest ih =>
    obtain ⟨⟨hcontrol, hquote, hbackslash⟩, hrest⟩ := List.forall_mem_cons.mp h
    have hchars : JsonPiece.chars (.char c) = [c] := by
      rw [JsonPiece.chars, if_neg (not_or.mpr ⟨hquote, hbackslash⟩), if_neg (by omega)]
    rw [List.map_cons, List.flatMap_cons, hchars]
    exact .cons (.plain c hcontrol hquote hbackslash) (ih hrest)

theorem denote_piecesOf (text : String) : JsonPiece.Denote (piecesOf text) text.toList := by
  rw [piecesOf]
  induction text.toList with
  | nil => exact .nil
  | cons c rest ih => exact .char c ih

theorem written_ofText {text : String} (h : Plain text) :
    Written (.value (ofText text)) (ofText text).chars := by
  rw [ofText, chars, quoted]
  exact .string (allWritten_piecesOf h)

/-- Fields are written with commas between them. -/
theorem written_fieldChars {fields : List (List JsonPiece × Json)} (hfields : fields ≠ [])
    (h : ∀ field ∈ fields, AllWritten field.1 (field.1.flatMap JsonPiece.chars) ∧
      Written (.value field.2) field.2.chars) :
    Written (.members fields) (fieldChars fields) := by
  have hmember : ∀ field ∈ fields,
      Written (.member field.1 field.2) (quoted field.1 ++ ':' :: field.2.chars) := by
    intro field hfield
    obtain ⟨hkey, hvalue⟩ := h field hfield
    have helement := Written.element spaces_nil hvalue spaces_nil
    have htext := Written.member spaces_nil hkey spaces_nil helement
    simpa [quoted] using htext
  induction fields with
  | nil => exact absurd rfl hfields
  | cons field rest ih =>
    obtain ⟨key, value⟩ := field
    have hfirst := hmember (key, value) List.mem_cons_self
    cases rest with
    | nil =>
      rw [fieldChars]
      exact .field hfirst
    | cons next more =>
      rw [fieldChars]
      · exact .fields hfirst (ih (List.cons_ne_nil _ _)
          (fun field hfield ↦ h field (List.mem_cons_of_mem _ hfield))
          fun field hfield ↦ hmember field (List.mem_cons_of_mem _ hfield))
      · exact fun hnil ↦ nomatch hnil

end Json

end Provenance
