import Mathlib.Data.List.Forall2
import Mathlib.Tactic.Choose
import Provenance.Json.Options
import Provenance.Proofs.JsonGrammar

/-!
Options from a JSON text.

A setting is a field of options with the value that a text asks for, and options are four settings,
one for each field (`Options.settings`). Reading them from an object takes each field by itself: it
keeps its default if its name is not among those of the object, takes the value if it is there once,
and fails otherwise (`ofJson?_object`, `Setting.taken_eq_some_iff`). A value that asks for a setting
gives that very setting if the type of the field can hold it (`Setting.Asked.read_eq_some_iff`); the
pool of no handles that the type allows is refused afterwards.

So options are read from every text whose fields are given at most once and validly
(`exists_read`), and from no text that repeats a field or asks for an invalid setting
(`once_of_read`, `valid_of_read`), whatever the order of the fields, the blanks and the fields of
other names (`fields_override`). A name in which half of a pair stands alone is well formed, but it
stands for no text, and a text with such a field is refused (`read_of_unpaired`). Options are read
back from what they are reported as (`read_toJson`).
-/

set_option autoImplicit false
set_option relaxedAutoImplicit false

namespace Provenance

open JsonPiece (Denote)

/-! ### Integers and names -/

namespace Json

theorem natOf_toString (n : Nat) : Numeral.natOf (toString n).toList = n := by
  rw [Nat.toString_eq_ofList_toDigits, String.toList_ofList]
  exact Nat.ofDigitChars_ten_toDigits

theorem int?_ofInt (i : Int) : (ofInt i).int? = some i := by
  have hvalue : Numeral.toInt ⟨decide (i < 0), (toString i.natAbs).toList, none, none⟩ = i := by
    simp only [Numeral.toInt, natOf_toString, decide_eq_true_eq]
    split <;> omega
  have hwhole : (!(decide (i < 0) && i == 0)) = true := by
    by_cases hsign : i < 0
    · have hzero : (i == 0) = false := beq_eq_false_iff_ne.mpr (by omega)
      rw [hzero, Bool.and_false, Bool.not_false]
    · rw [decide_eq_false hsign, Bool.false_and, Bool.not_false]
  simp only [ofInt, int?, hvalue, hwhole, Bool.and_true]
  rfl

theorem natBelow?_ofInt_eq_some_iff {bound n : Nat} {i : Int} :
    natBelow? bound (ofInt i) = some n ↔ i = n ∧ n < bound := by
  simp only [natBelow?, int?_ofInt, Option.bind_some, Option.ite_none_right_eq_some,
    Option.some.injEq]
  omega

/-- Fields with their names spelled out. -/
def Named (fields : List (List JsonPiece × Json)) (named : List (String × Json)) : Prop :=
  List.Forall₂ (fun field name ↦ Denote field.1 name.1.toList ∧ field.2 = name.2) fields named

theorem text?_string {pieces : List JsonPiece} {text : String} (h : Denote pieces text.toList) :
    (string pieces).text? = some text := by
  rw [text?, h.text?, Option.map_some, String.ofList_toList]

theorem Named.mapM {fields : List (List JsonPiece × Json)} {named : List (String × Json)}
    (h : Named fields named) :
    (fields.mapM fun (key, value) ↦ (string key).text?.map fun name ↦ (name, value)) =
      some named := by
  induction h with
  | nil => rfl
  | @cons field name fields named hfield _ ih =>
    obtain ⟨key, value⟩ := field
    obtain ⟨name, json⟩ := name
    obtain ⟨hkey, rfl⟩ : Denote key name.toList ∧ value = json := hfield
    simp only [List.mapM_cons, text?_string hkey, ih, Option.map_some, Option.bind_eq_bind,
      Option.bind_some, Option.pure_def]

/-- The value of a field that is given once, if it is given at all. -/
def once? : List Json → Option (Option Json)
  | [] => some none
  | [value] => some (some value)
  | _ => none

theorem once?_eq_some_iff {values : List Json} {slot : Option Json} :
    once? values = some slot ↔ values = slot.toList := by
  rcases values with _ | ⟨value, _ | ⟨next, rest⟩⟩ <;> cases slot <;>
    simp [once?, eq_comm]

theorem mem_valuesOf {name : String} {named : List (String × Json)} {json : Json} :
    json ∈ valuesOf name named ↔ (name, json) ∈ named := by
  simp [valuesOf]

theorem length_valuesOf (name : String) (named : List (String × Json)) :
    (valuesOf name named).length = (named.map (·.1)).count name := by
  rw [valuesOf, List.length_map, List.count, List.countP_map, List.countP_eq_length_filter]
  rfl

theorem fields?_object {fields : List (List JsonPiece × Json)} {named : List (String × Json)}
    (h : Named fields named) (names : List String) :
    (object fields).fields? names = names.mapM fun name ↦ once? (valuesOf name named) := by
  rw [fields?, h.mapM]
  rfl

/-- No field of an object is found if the name of one of them stands for no text. -/
theorem fields?_object_eq_none {fields : List (List JsonPiece × Json)}
    (h : ∃ field ∈ fields, JsonPiece.text? field.1 = none) (names : List String) :
    (object fields).fields? names = none := by
  have hnone : (fields.mapM fun (key, value) ↦
      (string key).text?.map fun name ↦ (name, value)) = none := by
    induction fields with
    | nil =>
      obtain ⟨field, hmem, -⟩ := h
      cases hmem
    | cons field rest ih =>
      obtain ⟨key, value⟩ := field
      rw [List.mapM_cons]
      cases hkey : JsonPiece.text? key with
      | none => simp only [text?, hkey, Option.map_none, Option.bind_eq_bind, Option.bind_none]
      | some name =>
        have hrest : ∃ field ∈ rest, JsonPiece.text? field.1 = none := by
          obtain ⟨field, hmem, hunpaired⟩ := h
          rcases List.mem_cons.mp hmem with rfl | hmem
          · cases hkey.symm.trans hunpaired
          · exact ⟨field, hmem, hunpaired⟩
        rw [ih hrest]
        exact Option.bind_fun_none _
  rw [fields?, hnone]
  rfl

end Json

theorem StoreKind.ofJson?_string {pieces : List JsonPiece} {kind : StoreKind}
    (h : Denote pieces kind.key.toList) : ofJson? (.string pieces) = some kind := by
  change (Json.string pieces).text?.bind ofKey? = some kind
  rw [Json.text?_string h, Option.bind_some]
  cases kind <;> decide

namespace Options

/-! ### Settings -/

/-- A field of options with the value that a text asks for. -/
inductive Setting where
  | poolSize (value : Int)
  | maxRetries (value : Int)
  | maxStringLength (value : Int)
  | kind (value : StoreKind)

/-- Options, one setting for each field. -/
def settings (options : Options) : List Setting :=
  [.poolSize options.poolSize, .maxRetries options.maxRetries,
    .maxStringLength options.maxStringLength, .kind options.kind]

namespace Setting

def name : Setting → String
  | poolSize _ => "pool_size"
  | maxRetries _ => "max_retries"
  | maxStringLength _ => "max_string_len"
  | kind _ => "db_type"

/-- Which values a field may have. A pool has at least one handle. -/
def Valid : Setting → Prop
  | poolSize value => 1 ≤ value ∧ value < Word.count64
  | maxRetries value => 0 ≤ value ∧ value < Word.count32
  | maxStringLength value => 0 ≤ value ∧ value < Word.count64
  | kind _ => True

/-- How JSON asks for a setting: by an integer, or by the name of a kind. -/
inductive Asked : Setting → Json → Prop
  | poolSize (value : Int) : Asked (.poolSize value) (.ofInt value)
  | maxRetries (value : Int) : Asked (.maxRetries value) (.ofInt value)
  | maxStringLength (value : Int) : Asked (.maxStringLength value) (.ofInt value)
  | kind {kind : StoreKind} {pieces : List JsonPiece} (h : Denote pieces kind.key.toList) :
      Asked (.kind kind) (.string pieces)

/-- What a JSON value makes of a field. -/
def read (json : Json) : Setting → Option Setting
  | poolSize _ => (json.natBelow? Word.count64).map fun n : Nat ↦ .poolSize n
  | maxRetries _ => (json.natBelow? Word.count32).map fun n : Nat ↦ .maxRetries n
  | maxStringLength _ => (json.natBelow? Word.count64).map fun n : Nat ↦ .maxStringLength n
  | kind _ => (StoreKind.ofJson? json).map .kind

/-- What a field is once an object may have given it a value. -/
def readOr (old : Setting) : Option Json → Option Setting
  | some json => old.read json
  | none => some old

/-- What a field is after the fields of an object, each given at most once. -/
def taken (named : List (String × Json)) (old : Setting) : Option Setting :=
  (Json.once? (Json.valuesOf old.name named)).bind old.readOr

theorem taken_eq_some_iff {named : List (String × Json)} {old new : Setting} :
    taken named old = some new ↔
      (Json.valuesOf old.name named = [] ∧ new = old) ∨
        ∃ json, Json.valuesOf old.name named = [json] ∧ old.read json = some new := by
  simp only [taken, Option.bind_eq_some_iff, Json.once?_eq_some_iff]
  constructor
  · rintro ⟨_ | json, hvalues, hread⟩
    · exact .inl ⟨hvalues, (Option.some.inj hread).symm⟩
    · exact .inr ⟨json, hvalues, hread⟩
  · rintro (⟨hvalues, rfl⟩ | ⟨json, hvalues, hread⟩)
    · exact ⟨none, hvalues, rfl⟩
    · exact ⟨some json, hvalues, hread⟩

variable (slot : Option Json)

theorem readOr_poolSize (n : Nat) :
    (poolSize n).readOr slot =
      (fieldOr n (Json.natBelow? Word.count64) slot).map fun n : Nat ↦ poolSize n := by
  cases slot <;> rfl

theorem readOr_maxRetries (n : Nat) :
    (maxRetries n).readOr slot =
      (fieldOr n (Json.natBelow? Word.count32) slot).map fun n : Nat ↦ maxRetries n := by
  cases slot <;> rfl

theorem readOr_maxStringLength (n : Nat) :
    (maxStringLength n).readOr slot =
      (fieldOr n (Json.natBelow? Word.count64) slot).map fun n : Nat ↦ maxStringLength n := by
  cases slot <;> rfl

theorem readOr_kind (old : StoreKind) :
    (kind old).readOr slot = (fieldOr old StoreKind.ofJson? slot).map kind := by
  cases slot <;> rfl

end Setting

/-- Options are read field by field. -/
theorem ofJson?_object {fields : List (List JsonPiece × Json)} {named : List (String × Json)}
    (h : Json.Named fields named) (options : Options) :
    ofJson? (.object fields) = some options ↔
      ({} : Options).settings.map (Setting.taken named) = options.settings.map some := by
  simp only [ofJson?, Json.fields?_object h, List.mapM_cons, List.mapM_nil, Option.bind_eq_bind,
    Option.pure_def, settings, List.map_cons, List.map_nil, List.cons.injEq, and_true,
    Setting.taken, Setting.name]
  cases Json.once? (Json.valuesOf "pool_size" named) with
  | none => simp
  | some poolSize =>
  cases Json.once? (Json.valuesOf "max_retries" named) with
  | none => simp
  | some maxRetries =>
  cases Json.once? (Json.valuesOf "max_string_len" named) with
  | none => simp
  | some maxStringLength =>
  cases Json.once? (Json.valuesOf "db_type" named) with
  | none => simp
  | some kind =>
  simp only [Option.bind_some, Setting.readOr_poolSize, Setting.readOr_maxRetries,
    Setting.readOr_maxStringLength, Setting.readOr_kind, Option.bind_eq_some_iff,
    Option.map_eq_some_iff, Option.some.injEq, Setting.poolSize.injEq, Setting.maxRetries.injEq,
    Setting.maxStringLength.injEq, Setting.kind.injEq, Int.natCast_inj, exists_eq_right]
  constructor
  · rintro ⟨_, hpool, _, hretries, _, hlength, _, hkind, rfl⟩
    exact ⟨hpool, hretries, hlength, hkind⟩
  · rintro ⟨hpool, hretries, hlength, hkind⟩
    exact ⟨_, hpool, _, hretries, _, hlength, _, hkind, rfl⟩

/-! ### One field -/

namespace Setting

/-- The names of the fields. -/
def names : List String := ["pool_size", "max_retries", "max_string_len", "db_type"]

/-- Whether an object asks for a setting. -/
def Given (named : List (String × Json)) (setting : Setting) : Prop :=
  ∃ json, (setting.name, json) ∈ named ∧ setting.Asked json

/-- Whether an object gives each field of options at most once. -/
def Once (named : List (String × Json)) : Prop :=
  ∀ name ∈ names, (named.map (·.1)).count name ≤ 1

/-- Whether an object gives the fields of options valid values only. -/
def AllValid (named : List (String × Json)) : Prop :=
  ∀ name json, (name, json) ∈ named → name ∈ names →
    ∃ setting : Setting, setting.name = name ∧ setting.Asked json ∧ setting.Valid

variable {named : List (String × Json)} {old new setting : Setting} {json : Json}

theorem name_mem (setting : Setting) : setting.name ∈ names := by
  cases setting <;> simp [name, names]

theorem eq_poolSize_of_name (h : setting.name = "pool_size") :
    ∃ value, setting = poolSize value := by
  cases setting <;> simp [name] at h ⊢

theorem eq_maxRetries_of_name (h : setting.name = "max_retries") :
    ∃ value, setting = maxRetries value := by
  cases setting <;> simp [name] at h ⊢

theorem eq_maxStringLength_of_name (h : setting.name = "max_string_len") :
    ∃ value, setting = maxStringLength value := by
  cases setting <;> simp [name] at h ⊢

theorem eq_kind_of_name (h : setting.name = "db_type") : ∃ value, setting = kind value := by
  cases setting <;> simp [name] at h ⊢

theorem exists_default (setting : Setting) :
    ∃ old ∈ ({} : Options).settings, old.name = setting.name := by
  cases setting <;> simp [settings, name]

theorem valid_default (h : old ∈ ({} : Options).settings) : old.Valid := by
  simp only [settings, List.mem_cons, List.not_mem_nil, or_false] at h
  rcases h with rfl | rfl | rfl | rfl <;> simp [Valid, Word.count64, Word.count32]

theorem map_natBelow?_eq_some_iff {bound : Nat} {value : Int} {make : Int → Setting} :
    (((Json.ofInt value).natBelow? bound).map fun n : Nat ↦ make n) = some new ↔
      new = make value ∧ 0 ≤ value ∧ value < bound := by
  rw [Option.map_eq_some_iff]
  constructor
  · rintro ⟨n, hn, rfl⟩
    obtain ⟨rfl, hn⟩ := Json.natBelow?_ofInt_eq_some_iff.mp hn
    exact ⟨rfl, by omega⟩
  · rintro ⟨rfl, hvalue⟩
    obtain ⟨n, rfl⟩ := Int.eq_ofNat_of_zero_le hvalue.1
    exact ⟨n, Json.natBelow?_ofInt_eq_some_iff.mpr ⟨rfl, by omega⟩, rfl⟩

/-- A field takes a value that is asked for if its type can hold it, zero handles included. -/
theorem Asked.read_eq_some_iff (h : setting.Asked json) (hname : old.name = setting.name) :
    old.read json = some new ↔ new = setting ∧ (setting.Valid ∨ setting = .poolSize 0) := by
  cases h with
  | poolSize value =>
    obtain ⟨size, rfl⟩ := eq_poolSize_of_name hname
    rw [read, map_natBelow?_eq_some_iff]
    have hcount : 0 < Word.count64 := by decide
    simp only [Valid, poolSize.injEq]
    exact and_congr_right fun _ ↦ by omega
  | maxRetries value =>
    obtain ⟨count, rfl⟩ := eq_maxRetries_of_name hname
    rw [read, map_natBelow?_eq_some_iff]
    simp only [Valid, reduceCtorEq, or_false]
  | maxStringLength value =>
    obtain ⟨length, rfl⟩ := eq_maxStringLength_of_name hname
    rw [read, map_natBelow?_eq_some_iff]
    simp only [Valid, reduceCtorEq, or_false]
  | @kind asked pieces hkey =>
    obtain ⟨kind, rfl⟩ := eq_kind_of_name hname
    simp only [read, StoreKind.ofJson?_string hkey, Option.map_some, Option.some.injEq, Valid,
      true_or, and_true, eq_comm]

/-- A field that is given at most once has one value, if it has any. -/
theorem Once.valuesOf_eq (h : Once named) (setting : Setting) :
    Json.valuesOf setting.name named = [] ∨
      ∃ json, Json.valuesOf setting.name named = [json] := by
  have hlength := (Json.length_valuesOf setting.name named).trans_le (h _ setting.name_mem)
  rcases hvalues : Json.valuesOf setting.name named with _ | ⟨json, _ | ⟨next, rest⟩⟩
  · exact .inl rfl
  · exact .inr ⟨json, rfl⟩
  · rw [hvalues] at hlength
    simp at hlength

theorem eq_of_valuesOf {other : Json} (h : Json.valuesOf setting.name named = [json])
    (hother : (setting.name, other) ∈ named) : other = json :=
  List.mem_singleton.mp (h ▸ Json.mem_valuesOf.mpr hother)

theorem not_mem_of_valuesOf (h : Json.valuesOf setting.name named = []) :
    (setting.name, json) ∉ named :=
  fun hmem ↦ List.not_mem_nil (h ▸ Json.mem_valuesOf.mpr hmem)

theorem Once.eq_of_mem (h : Once named) (setting : Setting) {other : Json}
    (hjson : (setting.name, json) ∈ named) (hother : (setting.name, other) ∈ named) :
    json = other := by
  obtain hnone | ⟨value, hvalue⟩ := h.valuesOf_eq setting
  · exact absurd hjson (not_mem_of_valuesOf hnone)
  · exact (eq_of_valuesOf hvalue hjson).trans (eq_of_valuesOf hvalue hother).symm

/-- What becomes of a field that is given at most once, and validly if it is: it has the setting
that it is given, and its default otherwise. -/
structure Becomes (named : List (String × Json)) (old new : Setting) : Prop where
  taken : taken named old = some new
  name : new.name = old.name
  valid : new.Valid
  given : ∀ setting : Setting, setting.name = old.name → setting.Given named → setting = new
  default : old.name ∉ named.map (·.1) → new = old

theorem exists_becomes (honce : Once named) (hvalid : AllValid named)
    (hold : old ∈ ({} : Options).settings) : ∃ new, Becomes named old new := by
  obtain hvalues | ⟨json, hvalues⟩ := honce.valuesOf_eq old
  · refine ⟨old, taken_eq_some_iff.mpr (.inl ⟨hvalues, rfl⟩), rfl, valid_default hold, ?_,
      fun _ ↦ rfl⟩
    rintro setting hname ⟨json, hmem, -⟩
    rw [hname] at hmem
    exact absurd hmem (not_mem_of_valuesOf hvalues)
  · have hmem : (old.name, json) ∈ named :=
      Json.mem_valuesOf.mp (hvalues ▸ List.mem_singleton_self json)
    obtain ⟨new, hname, hasked, hnew⟩ := hvalid old.name json hmem old.name_mem
    have hread : old.read json = some new :=
      (hasked.read_eq_some_iff hname.symm).mpr ⟨rfl, .inl hnew⟩
    refine ⟨new, taken_eq_some_iff.mpr (.inr ⟨json, hvalues, hread⟩), hname, hnew, ?_, ?_⟩
    · rintro setting hsame ⟨other, hother, hothers⟩
      rw [hsame] at hother
      obtain rfl := eq_of_valuesOf hvalues hother
      exact ((hothers.read_eq_some_iff hsame.symm).mp hread).1.symm
    · intro habsent
      exact absurd (List.mem_map_of_mem (f := Prod.fst) hmem) habsent

/-- Settings with the names of the fields, in their order, are those of some options. -/
theorem exists_options {f : Setting → Setting}
    (h : ∀ old ∈ ({} : Options).settings, (f old).name = old.name ∧ (f old).Valid) :
    ∃ options : Options, ({} : Options).settings.map f = options.settings ∧
      options.poolSize ≠ 0 := by
  simp only [settings, List.forall_mem_cons, List.not_mem_nil, false_implies, implies_true,
    and_true, List.map_cons, List.map_nil] at h ⊢
  obtain ⟨⟨hpool, hsize⟩, ⟨hretries, hcount⟩, ⟨hlength, hlongest⟩, hkind, -⟩ := h
  obtain ⟨size, hpool⟩ := eq_poolSize_of_name hpool
  obtain ⟨count, hretries⟩ := eq_maxRetries_of_name hretries
  obtain ⟨longest, hlength⟩ := eq_maxStringLength_of_name hlength
  obtain ⟨kind, hkind⟩ := eq_kind_of_name hkind
  rw [hpool] at hsize
  rw [hretries] at hcount
  rw [hlength] at hlongest
  simp only [Valid] at hsize hcount hlongest
  refine ⟨⟨size.toNat, count.toNat, longest.toNat, kind⟩, ?_, ?_⟩
  · rw [hpool, hretries, hlength, hkind, Int.toNat_of_nonneg (by omega),
      Int.toNat_of_nonneg hcount.1, Int.toNat_of_nonneg hlongest.1]
  · change size.toNat ≠ 0
    omega

end Setting

/-! ### Whole texts -/

/-- Whether a text writes an object with these fields. -/
def Writes (text : String) (named : List (String × Json)) : Prop :=
  ∃ fields, Json.Named fields named ∧ Json.Written (.element (.object fields)) text.toList

variable {text : String} {named : List (String × Json)} {options : Options}

theorem read_eq_ok_iff (h : Writes text named) :
    read text = .ok options ↔
      ({} : Options).settings.map (Setting.taken named) = options.settings.map some ∧
        options.poolSize ≠ 0 := by
  obtain ⟨fields, hnamed, hwritten⟩ := h
  rw [read, Json.read_of_written hwritten, Option.bind_some, ← ofJson?_object hnamed]
  cases hread : ofJson? (.object fields) with
  | none => simp
  | some found =>
    simp only [Option.some.injEq]
    by_cases hzero : found.poolSize = 0
    · simp only [if_pos hzero, reduceCtorEq, false_iff, not_and, not_not]
      rintro rfl
      exact hzero
    · simp only [if_neg hzero, Except.ok.injEq]
      constructor
      · rintro rfl
        exact ⟨rfl, hzero⟩
      · exact And.left

/-- A text that no options are read from is an argument that is refused. -/
theorem read_refused (h : ∀ options, read text ≠ .ok options) :
    ∃ message, read text = .error (.invalidArgument message) := by
  revert h
  unfold read
  split
  · exact fun _ ↦ ⟨_, rfl⟩
  · split
    · exact fun _ ↦ ⟨_, rfl⟩
    · exact fun h ↦ absurd rfl (h _)

theorem eq_of_settings {other : Options}
    (h : ∀ setting ∈ options.settings, setting ∈ other.settings) : other = options := by
  obtain ⟨size, count, longest, kind⟩ := options
  obtain ⟨size', count', longest', kind'⟩ := other
  simpa [settings, Int.natCast_inj, eq_comm] using h

open Setting (Once AllValid)

/-- If options are read, each field takes what it is given or keeps its default. -/
theorem exists_taken_of_read (h : Writes text named) (hread : read text = .ok options)
    {old : Setting} (hold : old ∈ ({} : Options).settings) :
    ∃ new ∈ options.settings, Setting.taken named old = some new := by
  have hmem := List.mem_map_of_mem (f := Setting.taken named) hold
  rw [((read_eq_ok_iff h).mp hread).1] at hmem
  obtain ⟨new, hnew, hsame⟩ := List.mem_map.mp hmem
  exact ⟨new, hnew, hsame.symm⟩

/-- If options are read, each field is given at most once. -/
theorem once_of_read (h : Writes text named) (hread : read text = .ok options) : Once named := by
  intro name hname
  obtain ⟨old, hold, rfl⟩ :=
    List.mem_map.mp (show name ∈ ({} : Options).settings.map Setting.name from hname)
  obtain ⟨new, -, htaken⟩ := exists_taken_of_read h hread hold
  rw [← Json.length_valuesOf]
  obtain ⟨hvalues, -⟩ | ⟨json, hvalues, -⟩ := Setting.taken_eq_some_iff.mp htaken
  · simp [hvalues]
  · simp [hvalues]

/-- If options are read, every setting that is asked for is valid. -/
theorem valid_of_read (h : Writes text named) (hread : read text = .ok options)
    {setting : Setting} (hgiven : setting.Given named) : setting.Valid := by
  obtain ⟨json, hmem, hasked⟩ := hgiven
  obtain ⟨old, hold, hname⟩ := setting.exists_default
  obtain ⟨new, hnew, htaken⟩ := exists_taken_of_read h hread hold
  rw [← hname] at hmem
  obtain ⟨hvalues, -⟩ | ⟨found, hvalues, hfound⟩ := Setting.taken_eq_some_iff.mp htaken
  · exact absurd hmem (Setting.not_mem_of_valuesOf hvalues)
  · obtain rfl := Setting.eq_of_valuesOf hvalues hmem
    obtain ⟨rfl, hvalid | rfl⟩ := (hasked.read_eq_some_iff hname).mp hfound
    · exact hvalid
    · have hzero : options.poolSize = 0 := by
        simpa [settings, eq_comm, Int.natCast_eq_zero] using hnew
      exact absurd hzero ((read_eq_ok_iff h).mp hread).2

/-- Options that a text gives, each field at most once and validly, are read; fields that it does
not give have their defaults. -/
theorem exists_read (h : Writes text named) (honce : Once named) (hvalid : AllValid named) :
    ∃ options : Options, read text = .ok options ∧
      (∀ setting : Setting, setting.Given named → setting ∈ options.settings) ∧
      ∀ old ∈ ({} : Options).settings, old.name ∉ named.map (·.1) → old ∈ options.settings := by
  have hexists := fun (old : Setting) (hold : old ∈ ({} : Options).settings) ↦
    Setting.exists_becomes honce hvalid hold
  choose! f hf using hexists
  obtain ⟨options, hoptions, hpositive⟩ :=
    Setting.exists_options fun old hold ↦ ⟨(hf old hold).name, (hf old hold).valid⟩
  have hread : read text = .ok options := by
    refine (read_eq_ok_iff h).mpr ⟨?_, hpositive⟩
    rw [← hoptions, List.map_map]
    exact List.map_congr_left fun old hold ↦ (hf old hold).taken
  refine ⟨options, hread, ?_, ?_⟩
  · intro setting hgiven
    obtain ⟨old, hold, hname⟩ := setting.exists_default
    rw [(hf old hold).given setting hname.symm hgiven, ← hoptions]
    exact List.mem_map_of_mem hold
  · intro old hold habsent
    rw [← (hf old hold).default habsent, ← hoptions]
    exact List.mem_map_of_mem hold

/-- Options that a text gives in full are read back. -/
theorem read_of_given (h : Writes text named) (honce : Once named)
    (hgiven : ∀ setting ∈ options.settings, setting.Given named ∧ setting.Valid) :
    read text = .ok options := by
  have hvalid : AllValid named := by
    intro name json hmem hname
    obtain ⟨setting, hsetting, rfl⟩ :=
      List.mem_map.mp (show name ∈ options.settings.map Setting.name from hname)
    obtain ⟨⟨other, hother, hasked⟩, hvalid⟩ := hgiven setting hsetting
    obtain rfl := honce.eq_of_mem setting hother hmem
    exact ⟨setting, rfl, hasked, hvalid⟩
  obtain ⟨found, hread, hfound, -⟩ := exists_read h honce hvalid
  rw [hread, eq_of_settings fun setting hsetting ↦ hfound setting (hgiven setting hsetting).1]

theorem named_piecesOf (named : List (String × Json)) :
    Json.Named (named.map fun (key, value) ↦ (Json.piecesOf key, value)) named := by
  rw [Json.Named, List.forall₂_map_left_iff, List.forall₂_same]
  exact fun field _ ↦ ⟨Json.denote_piecesOf field.1, rfl⟩

/-- An object without blanks writes its fields. -/
theorem writes_ofFields (hnamed : named ≠ [])
    (h : ∀ field ∈ named, Json.Plain field.1 ∧ Json.Written (.value field.2) field.2.chars) :
    Writes (Json.ofFields named).text named := by
  have hfields : Json.Written (.members (named.map fun (key, value) ↦ (Json.piecesOf key, value)))
      (Json.fieldChars (named.map fun (key, value) ↦ (Json.piecesOf key, value))) := by
    refine Json.written_fieldChars (by simpa using hnamed) fun field hfield ↦ ?_
    obtain ⟨⟨key, value⟩, hmem, rfl⟩ := List.mem_map.mp hfield
    exact ⟨Json.allWritten_piecesOf (h _ hmem).1, (h _ hmem).2⟩
  refine ⟨_, named_piecesOf named, ?_⟩
  rw [Json.text, String.toList_ofList, Json.ofFields, Json.chars]
  simpa using Json.Written.element Json.spaces_nil (.object hfields) Json.spaces_nil

/-- The fields that options are reported with. -/
def reported (options : Options) : List (String × Json) :=
  [("db_type", options.kind.toJson), ("max_retries", .ofNat options.maxRetries),
    ("max_string_len", .ofNat options.maxStringLength), ("pool_size", .ofNat options.poolSize)]

theorem writes_reported (options : Options) : Writes options.toJson.text options.reported := by
  have hplain : ∀ name ∈ Setting.names ++ StoreKind.all.map StoreKind.key, Json.Plain name := by
    simp [Json.Plain, Setting.names, StoreKind.all, StoreKind.key]
  have hkind : options.kind.key ∈ StoreKind.all.map StoreKind.key := by
    cases options.kind <;> decide
  refine writes_ofFields (List.cons_ne_nil _ _) ?_
  simp only [List.forall_mem_cons, List.not_mem_nil, false_implies, implies_true, and_true]
  exact ⟨⟨hplain _ (by decide), Json.written_ofText (hplain _ (List.mem_append_right _ hkind))⟩,
    ⟨hplain _ (by decide), Json.written_ofInt _⟩, ⟨hplain _ (by decide), Json.written_ofInt _⟩,
    hplain _ (by decide), Json.written_ofInt _⟩

theorem once_reported (options : Options) : Once options.reported := by
  simp [Once, Setting.names, reported]

theorem given_reported {setting : Setting} (h : setting ∈ options.settings) :
    setting.Given options.reported := by
  simp only [settings, List.mem_cons, List.not_mem_nil, or_false] at h
  rcases h with rfl | rfl | rfl | rfl
  · exact ⟨.ofNat options.poolSize, by simp [Setting.name, reported], .poolSize _⟩
  · exact ⟨.ofNat options.maxRetries, by simp [Setting.name, reported], .maxRetries _⟩
  · exact ⟨.ofNat options.maxStringLength, by simp [Setting.name, reported], .maxStringLength _⟩
  · exact ⟨options.kind.toJson, by simp [Setting.name, reported], .kind (Json.denote_piecesOf _)⟩

/-- Options are read back from the text that they are reported as. -/
theorem read_toJson (h : ∀ setting ∈ options.settings, setting.Valid) :
    read options.toJson.text = .ok options :=
  read_of_given (writes_reported options) (once_reported options)
    fun setting hsetting ↦ ⟨given_reported hsetting, h setting hsetting⟩

/-- Options from a text override the defaults field by field. The text is an object with its
fields in any order, with blanks between them and with fields of other names among them. If it
gives each field of options at most once and validly, options are read, with the fields that it
gives and with defaults for the others. If it repeats a field, or asks for no handles or for an
integer out of range, it is refused as an invalid argument. In particular options that it gives in
full are read back. -/
theorem fields_override (h : Writes text named) :
    (Once named → AllValid named →
      ∃ options : Options, read text = .ok options ∧
        (∀ setting : Setting, setting.Given named → setting ∈ options.settings) ∧
        ∀ old ∈ ({} : Options).settings, old.name ∉ named.map (·.1) → old ∈ options.settings) ∧
      ((¬ Once named ∨ ∃ setting : Setting, setting.Given named ∧ ¬ setting.Valid) →
        ∃ message, read text = .error (.invalidArgument message)) ∧
      ∀ options : Options, Once named →
        (∀ setting ∈ options.settings, setting.Given named ∧ setting.Valid) →
          read text = .ok options := by
  refine ⟨exists_read h, ?_, fun options ↦ read_of_given h⟩
  rintro (hrepeated | ⟨setting, hgiven, hinvalid⟩)
  · exact read_refused fun options hread ↦ hrepeated (once_of_read h hread)
  · exact read_refused fun options hread ↦ hinvalid (valid_of_read h hread hgiven)

/-- A text is refused if it writes a field whose name stands for no text. -/
theorem read_of_unpaired {fields : List (List JsonPiece × Json)}
    (hwritten : Json.Written (.element (.object fields)) text.toList)
    (h : ∃ field ∈ fields, JsonPiece.text? field.1 = none) :
    ∃ message, read text = .error (.invalidArgument message) := by
  refine read_refused fun options hread ↦ ?_
  have hnone : ofJson? (.object fields) = none := by
    rw [ofJson?, Json.fields?_object_eq_none h]
    rfl
  rw [read, Json.read_of_written hwritten, Option.bind_some, hnone] at hread
  cases hread

/-- Half of a pair as the name of a field. -/
def unpairedName : List JsonPiece := [.unit 0xD800]

/-- A text whose only field has this name. -/
def unpairedText : String := "\x7b\"\\ud800\":1\x7d"

/-- Half of a pair is a well-formed name, and stands for no text, so for no name of a field of
options; but the text is refused. -/
theorem unpaired_name_refused :
    Json.Written (.element (.object [(unpairedName, .ofInt 1)])) unpairedText.toList ∧
      (∀ chars, ¬ Denote unpairedName chars) ∧
      ∃ message, read unpairedText = .error (.invalidArgument message) := by
  have hhalf : JsonPiece.text? unpairedName = none := rfl
  have hname : JsonPiece.AllWritten unpairedName ['\\', 'u', 'd', '8', '0', '0'] :=
    .cons (.unit (a := 13) (b := 8) (c := 0) (d := 0) ⟨by decide, by decide⟩ ⟨by decide, by decide⟩
      ⟨by decide, by decide⟩ ⟨by decide, by decide⟩) .nil
  have hmember := Json.Written.member Json.spaces_nil hname Json.spaces_nil
    (.element Json.spaces_nil (Json.written_ofInt 1) Json.spaces_nil)
  have hwritten : Json.Written (.element (.object [(unpairedName, .ofInt 1)]))
      unpairedText.toList :=
    Json.Written.element Json.spaces_nil (.object (.field hmember)) Json.spaces_nil
  refine ⟨hwritten, fun chars hchars ↦ ?_,
    read_of_unpaired hwritten ⟨_, List.mem_singleton_self _, hhalf⟩⟩
  cases hhalf.symm.trans hchars.text?

/-- A size and a kind, after a field of another name. -/
def someFields : List (String × Json) :=
  [("note", .array [.null, .object []]), ("db_type", .ofText "sqlite"), ("pool_size", .ofInt 2)]

/-- These fields with some blanks. -/
def someText : String :=
  "\x7b \"note\":[null, \x7b\x7d],\n\"db_type\" : \"sqlite\",\t\"pool_size\": 2 \x7d "

theorem writes_someText : Writes someText someFields := by
  have hspace : Json.Spaces [' '] := by simp [Json.Spaces]
  have hline : Json.Spaces ['\n'] := by simp [Json.Spaces]
  have htab : Json.Spaces ['\t'] := by simp [Json.Spaces]
  have hkey : ∀ name ∈ ["note", "db_type", "pool_size", "sqlite"], Json.Plain name := by
    simp [Json.Plain]
  have hitems := Json.Written.items (.element Json.spaces_nil .null Json.spaces_nil)
    (.item (.element hspace (.noFields Json.spaces_nil) Json.spaces_nil))
  have hnote := Json.Written.member hspace (Json.allWritten_piecesOf (hkey "note" (by decide)))
    Json.spaces_nil (.element Json.spaces_nil (.array hitems) Json.spaces_nil)
  have hkind := Json.Written.member hline (Json.allWritten_piecesOf (hkey "db_type" (by decide)))
    hspace (.element hspace (Json.written_ofText (hkey "sqlite" (by decide))) Json.spaces_nil)
  have hpool := Json.Written.member htab (Json.allWritten_piecesOf (hkey "pool_size" (by decide)))
    Json.spaces_nil (.element hspace (Json.written_ofInt 2) hspace)
  exact ⟨_, named_piecesOf someFields, Json.Written.element Json.spaces_nil
    (.object (.fields hnote (.fields hkind (.field hpool)))) hspace⟩

/-- At three texts: some fields are given, a size is repeated, or all fields are given. -/
theorem fields_override_sqlite :
    read someText = .ok ⟨2, 3, 4095, .sqlite⟩ ∧
      (∃ message, read (Json.ofFields [("pool_size", .ofInt 2), ("pool_size", .ofInt 2)]).text =
        .error (.invalidArgument message)) ∧
      read ({} : Options).toJson.text = .ok {} := by
  have honce : Once someFields := by
    unfold Once
    decide
  have hvalid : AllValid someFields := by
    intro name json hmem hname
    simp only [someFields, List.mem_cons, Prod.mk.injEq, List.not_mem_nil, or_false] at hmem
    rcases hmem with ⟨rfl, rfl⟩ | ⟨rfl, rfl⟩ | ⟨rfl, rfl⟩
    · exact absurd hname (by decide)
    · exact ⟨.kind .sqlite, rfl, .kind (Json.denote_piecesOf _), trivial⟩
    · exact ⟨.poolSize 2, rfl, .poolSize 2, by decide, by decide⟩
  have hplain : Json.Plain "pool_size" := by simp [Json.Plain]
  refine ⟨?_, ?_, ?_⟩
  · obtain ⟨options, hread, hgiven, hdefault⟩ :=
      (fields_override writes_someText).1 honce hvalid
    have hsettings : ∀ setting ∈ Options.settings ⟨2, 3, 4095, .sqlite⟩,
        setting ∈ options.settings := by
      simp only [settings, List.forall_mem_cons, List.not_mem_nil, false_implies, implies_true,
        and_true]
      exact ⟨hgiven _ ⟨.ofInt 2, by simp [someFields, Setting.name], .poolSize 2⟩,
        hdefault _ (by simp [settings]) (by decide), hdefault _ (by simp [settings]) (by decide),
        hgiven _ ⟨.ofText "sqlite", by simp [someFields, Setting.name],
          .kind (Json.denote_piecesOf _)⟩⟩
    rw [hread, eq_of_settings hsettings]
  · refine (fields_override (writes_ofFields (List.cons_ne_nil _ _) ?_)).2.1 (.inl ?_)
    · simp only [List.forall_mem_cons, List.not_mem_nil, false_implies, implies_true, and_true]
      exact ⟨⟨hplain, Json.written_ofInt 2⟩, hplain, Json.written_ofInt 2⟩
    · exact fun honce ↦ absurd (honce "pool_size" (by decide)) (by decide)
  · refine (fields_override (writes_reported {})).2.2 {} (once_reported {}) ?_
    exact fun setting hsetting ↦ ⟨given_reported hsetting, Setting.valid_default hsetting⟩

end Options

end Provenance
