import Provenance.Backend
import Provenance.Driver.Relational
import Provenance.Proofs.ParsedStrings

/-!
Where a named data source leads. A name is accepted if nothing in it ends a pair or opens a value in
braces (`ofSource_eq_ok_iff`), so the connection string made from it holds one pair whose value is a
plain one; a plain value is trimmed, and the source looked up is the name without the blanks at its
ends (`parse_ofSource`, `target_ofSource`). The path of the name itself is reached from every
registry exactly if there are no such blanks (`source_reached`).
-/

set_option autoImplicit false
set_option relaxedAutoImplicit false

namespace Provenance

namespace Relational

/-- The path that is registered under a name. -/
def Config.path? (config : Config) (name : String) : Option String :=
  (config.sources.find? fun entry ↦ entry.1 == name).map (·.2)

/-- What a data source leads to: its path, if there is one. -/
def Config.resolve (config : Config) (name : String) : Except DriverError String :=
  match config.path? name with
  | some path => .ok path
  | none => .error (.single "IM002" 0 ("data source name not found: " ++ name))

/-- A connection string that names a source leads where that source does. -/
theorem target_of_source {config : Config} {text name : String} {parsed : ConnectionString}
    (hparse : ConnectionString.parse text = .ok parsed) (hsource : parsed.source? = some name) :
    target config text = config.resolve name := by
  rw [target, hparse]
  dsimp only
  rw [hsource, Config.resolve, Config.path?]
  dsimp only
  cases config.sources.find? fun entry ↦ entry.1 == name <;> rfl

theorem target_of_database {config : Config} {text path : String} {parsed : ConnectionString}
    (hparse : ConnectionString.parse text = .ok parsed) (hsource : parsed.source? = none)
    (hdatabase : parsed.database? = some path) : target config text = .ok path := by
  rw [target, hparse]
  dsimp only
  rw [hsource]
  dsimp only
  rw [hdatabase]

/-- Two connection strings that lead to one target open the same database. -/
theorem connect_of_target {config : Config} {text other : String}
    (h : target config text = target config other) (w : World) :
    connect config text w = connect config other w := by
  rw [connect, connect, h]

end Relational

namespace ConnectionString

open Relational (Config World)

variable {source text : String}

/-- The name without the blanks at its ends. -/
def bareName (source : String) : String := String.ofList (Text.trim source.toList)

theorem bareName_eq_self_iff : bareName source = source ↔ Text.IsTrimmed source.toList := by
  constructor
  · intro h
    rw [← h, bareName, String.toList_ofList]
    exact Text.isTrimmed_trim _
  · intro h
    rw [bareName, h.trim_eq, String.ofList_toList]

/-- The names that are accepted, and what is made of them. -/
theorem ofSource_eq_ok_iff : ofSource source = .ok text ↔
    source ≠ "" ∧ (∀ c ∈ source.toList, c ≠ ';' ∧ c ≠ '{' ∧ c ≠ '}') ∧
      text = "DSN=" ++ source ++ ";" := by
  have hany : (source.toList.any fun c ↦ c == ';' || c == '{' || c == '}') = false ↔
      ∀ c ∈ source.toList, c ≠ ';' ∧ c ≠ '{' ∧ c ≠ '}' := by
    simp [and_assoc]
  rw [ofSource, ← hany]
  by_cases hempty : source = ""
  · simp [hempty]
  · rw [if_neg (mt String.isEmpty_iff.mp hempty)]
    cases source.toList.any fun c ↦ c == ';' || c == '{' || c == '}' with
    | true => simp
    | false => simp [hempty, eq_comm]

theorem isKey_dsn : IsKey "DSN".toList :=
  ⟨by decide, by simp, by simp [Text.IsTrimmed]; decide⟩

/-- A value that starts with no brace, after blanks, goes on to the next semicolon. -/
theorem value_plain {value : List Char} (h : ∀ c ∈ value, c ≠ ';' ∧ c ≠ '{') :
    ConnectionString.value (value ++ [';']) = (Text.trim value, []) := by
  have hbrace : ∀ inner, Text.skipBlanks (value ++ [';']) ≠ '{' :: inner := by
    intro inner hinner
    have hskip : '{' ∈ Text.skipBlanks (value ++ [';']) := hinner ▸ List.mem_cons_self
    have hmem : '{' ∈ value ++ [';'] := List.dropWhile_subset Text.isBlank hskip
    rcases List.mem_append.mp hmem with hmem | hmem
    · exact (h _ hmem).2 rfl
    · exact absurd (List.mem_singleton.mp hmem) (by decide)
  have hvalue : ∀ c ∈ value, (c != ';') = true := fun c hc ↦ bne_iff_ne.mpr (h c hc).1
  rw [value_of_ne hbrace, plain, List.takeWhile_append_of_pos hvalue,
    List.dropWhile_append_of_pos hvalue]
  simp

/-- The connection string of a name has one pair, for the name without the blanks at its ends. -/
theorem parse_ofSource (h : ofSource source = .ok text) :
    parse text = .ok ⟨[("DSN", bareName source)]⟩ := by
  obtain ⟨-, hchars, rfl⟩ := ofSource_eq_ok_iff.mp h
  have htext : ("DSN=" ++ source ++ ";").toList =
      [] ++ ("DSN".toList ++ '=' :: (source.toList ++ [';'])) := by
    simp
  have hvalue := value_plain fun c hc ↦ ⟨(hchars c hc).1, (hchars c hc).2.1⟩
  have hsplits : Splits ("DSN=" ++ source ++ ";").toList
      [⟨"DSN".toList, (value (source.toList ++ [';'])).1⟩] := by
    rw [htext]
    refine .pair ⟨rfl, by simp⟩ isKey_dsn.ne_nil isKey_dsn.isKeyChar ?_
    rw [hvalue]
    exact .done rfl
  refine parse_eq_ok_iff.mpr ⟨_, hsplits, ?_⟩
  rw [hvalue, List.map_singleton, Part.pair, isKey_dsn.trimmed.trim_eq, String.ofList_toList,
    bareName]

theorem get?_singleton (key value : String) (keys : List String) :
    get? ⟨[(key, value)]⟩ keys = if keys.any (sameKey key) then some value else none := by
  rw [get?, List.find?_singleton]
  exact apply_ite (Option.map _) _ _ _

theorem target_ofSource (h : ofSource source = .ok text) (config : Config) :
    Relational.target config text = config.resolve (bareName source) :=
  Relational.target_of_source (parse_ofSource h) (by
    rw [source?, get?_singleton, if_pos (by decide)])

theorem target_write_database (config : Config) (path : String) :
    Relational.target config (write ⟨[("Database", path)]⟩) = .ok path := by
  have hkey : IsKey "Database".toList :=
    ⟨by decide, by simp, by simp [Text.IsTrimmed]; decide⟩
  have hparse := (parse_write ⟨[("Database", path)]⟩ (by simpa using hkey)).1
  exact Relational.target_of_database hparse (by rw [source?, get?_singleton, if_neg (by decide)])
    (by rw [database?, get?_singleton, if_pos (by decide)])

/-- The connection string made from a name that is accepted has one pair, and leads every registry
to the path of the name without the blanks at its ends, which is opened as if it were given itself.
It is the path of the name that was accepted, whatever else is registered, if and only if there are
no such blanks. -/
theorem source_reached (h : ofSource source = .ok text) :
    parse text = .ok ⟨[("DSN", bareName source)]⟩ ∧
      (∀ (W H : Type) (driver : Driver W H) (kind : StoreKind) (zone : Zone) (world : W),
        Backend.startSource driver source kind zone world =
          Backend.start driver text { kind } zone world) ∧
      (∀ config : Config, Relational.target config text = config.resolve (bareName source)) ∧
      (∀ (config : Config) (path : String) (w : World), config.path? (bareName source) = some path →
        Relational.connect config text w =
          Relational.connect config (write ⟨[("Database", path)]⟩) w) ∧
      ((∀ (config : Config) (path : String), config.path? source = some path →
          Relational.target config text = .ok path) ↔ Text.IsTrimmed source.toList) := by
  have htarget := target_ofSource h
  refine ⟨parse_ofSource h, fun W H driver kind zone world ↦ ?_, htarget,
    fun config path w hpath ↦ ?_, fun hreached ↦ ?_, fun htrimmed config path hpath ↦ ?_⟩
  · rw [Backend.startSource, h]
  · refine Relational.connect_of_target ?_ w
    rw [htarget, target_write_database, Config.resolve, hpath]
  · rw [← bareName_eq_self_iff]
    by_contra hne
    -- A registry in which the bare name has another path tells the two apart.
    let config : Config := ⟨[(source, "own"), (bareName source, "other")], false⟩
    have hown : config.path? source = some "own" := by simp [config, Config.path?]
    have hother : config.path? (bareName source) = some "other" := by
      simp [config, Config.path?, Ne.symm hne]
    have hok := hreached config "own" hown
    rw [htarget, Config.resolve, hother] at hok
    exact absurd (Except.ok.inj hok) (by decide)
  · rw [htarget, bareName_eq_self_iff.mpr htrimmed, Config.resolve, hpath]

/-- A name with a blank, equals signs and a quote in it. -/
theorem awkward_source_reached :
    ofSource "my db='a'" = .ok "DSN=my db='a';" ∧
      ∀ (config : Config) (path : String), config.path? "my db='a'" = some path →
        Relational.target config "DSN=my db='a';" = .ok path := by
  have haccepted : ofSource "my db='a'" = .ok "DSN=my db='a';" := by decide +kernel
  refine ⟨haccepted, (source_reached haccepted).2.2.2.2.mpr ?_⟩
  rw [← bareName_eq_self_iff]
  decide +kernel

/-- Two sources whose names differ by a blank: the one leads to the path of the other. -/
theorem other_source_reached :
    ofSource " prov" = .ok "DSN= prov;" ∧
      parse "DSN= prov;" = .ok ⟨[("DSN", "prov")]⟩ ∧
      Config.path? ⟨[(" prov", ":memory:"), ("prov", "/nonexistent/other.db")], true⟩ " prov" =
        some ":memory:" ∧
      Relational.target ⟨[(" prov", ":memory:"), ("prov", "/nonexistent/other.db")], true⟩
        "DSN= prov;" = .ok "/nonexistent/other.db" := by
  decide +kernel

end ConnectionString

end Provenance
