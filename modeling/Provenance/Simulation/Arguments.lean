import Provenance.Simulation.Duration

/-!
Command line arguments of the simulator. Options are long and take a value after a blank or an
equals sign; a value that starts with a dash needs the equals sign. A value that follows a blank is
looked at when the next option begins or the arguments end.
-/

set_option autoImplicit false
set_option relaxedAutoImplicit false

namespace Provenance.Simulation

inductive Setting where
  | duration
  | iterations
  | seed
  | poolSize
  | workers
  | linkFailureRate
  | fetchFailureRate
  | reconnectRate
  | deleteRate
  | db
  | log
  | quick
  | stress
  | help
  | version
deriving DecidableEq, Repr

namespace Setting

def all : List Setting :=
  [duration, iterations, seed, poolSize, workers, linkFailureRate, fetchFailureRate,
    reconnectRate, deleteRate, db, log, quick, stress, help, version]

def name : Setting → String
  | duration => "duration"
  | iterations => "iterations"
  | seed => "seed"
  | poolSize => "pool-size"
  | workers => "workers"
  | linkFailureRate => "link-failure-rate"
  | fetchFailureRate => "fetch-failure-rate"
  | reconnectRate => "reconnect-rate"
  | deleteRate => "delete-rate"
  | db => "db"
  | log => "log"
  | quick => "quick"
  | stress => "stress"
  | help => "help"
  | version => "version"

def ofName? (name : String) : Option Setting := all.find? fun setting ↦ setting.name == name

/-- The settings that have a short form. -/
def ofLetter? : Char → Option Setting
  | 'h' => some help
  | 'V' => some version
  | _ => none

def takesValue : Setting → Bool
  | quick | stress | help | version => false
  | _ => true

end Setting

/-- Why arguments were not accepted, or what was asked for instead of a run. -/
inductive ArgumentError where
  | unknownArgument
  | invalidValue
  | valueValidation
  | tooManyValues
  | argumentConflict
  | displayHelp
  | displayVersion
deriving DecidableEq, Repr

def ArgumentError.name : ArgumentError → String
  | unknownArgument => "UnknownArgument"
  | invalidValue => "InvalidValue"
  | valueValidation => "ValueValidation"
  | tooManyValues => "TooManyValues"
  | argumentConflict => "ArgumentConflict"
  | displayHelp => "DisplayHelp"
  | displayVersion => "DisplayVersion"

/-- The arguments as given. -/
structure Arguments where
  duration : Option Duration := none
  iterations : Option Nat := none
  seed : Option Nat := none
  poolSize : Nat := 4
  workers : Nat := 8
  linkFailureRate : Binary64 := .ofDecimal false 2 (-2)
  fetchFailureRate : Binary64 := .ofDecimal false 1 (-2)
  reconnectRate : Binary64 := .ofDecimal false 2 (-3)
  deleteRate : Binary64 := .ofDecimal false 2 (-2)
  db : Option String := none
  log : Option String := none
  quick : Bool := false
  stress : Bool := false
deriving DecidableEq, Repr

namespace Arguments

/-- A number of 64 bits, with or without a plus sign. -/
def word? (text : String) : Option Nat :=
  let digits := match text.toList with
    | '+' :: digits => digits
    | digits => digits
  if digits.isEmpty || !digits.all Char.isDigit then none
  else Word.ofNat? (Numeral.natOf digits)

def valid {α : Type} (value : Option α) : Except ArgumentError α :=
  match value with
  | some a => .ok a
  | none => .error .valueValidation

def path (text : String) : Except ArgumentError String :=
  if text.isEmpty then .error .invalidValue else .ok text

/-- The arguments with one more setting. A value is only looked at where one is taken. -/
def set (a : Arguments) (setting : Setting) (value : String) : Except ArgumentError Arguments := do
  match setting with
  | .duration => return { a with duration := some (← valid (Duration.ofText? value)) }
  | .iterations => return { a with iterations := some (← valid (word? value)) }
  | .seed => return { a with seed := some (← valid (word? value)) }
  | .poolSize => return { a with poolSize := ← valid (word? value) }
  | .workers => return { a with workers := ← valid (word? value) }
  | .linkFailureRate => return { a with linkFailureRate := ← valid (Binary64.ofText? value) }
  | .fetchFailureRate => return { a with fetchFailureRate := ← valid (Binary64.ofText? value) }
  | .reconnectRate => return { a with reconnectRate := ← valid (Binary64.ofText? value) }
  | .deleteRate => return { a with deleteRate := ← valid (Binary64.ofText? value) }
  | .db => return { a with db := some (← path value) }
  | .log => return { a with log := some (← path value) }
  | .quick => return { a with quick := true }
  | .stress => return { a with stress := true }
  | .help => throw .displayHelp
  | .version => throw .displayVersion

/-- Arguments while they are read. -/
structure Progress where
  arguments : Arguments
  given : List Setting
  /-- An option whose value, if it has come, has not been looked at. -/
  pending : Option (Setting × Option String)
  /-- Two dashes have ended the options. -/
  ended : Bool

namespace Progress

/-- A setting occurs, with its value if it has one. -/
def occur (p : Progress) (setting : Setting) (value : Option String) :
    Except ArgumentError Progress :=
  if setting.takesValue && value.isNone then .error .invalidValue
  else if p.given.contains setting then .error .argumentConflict
  else do
    let arguments ← p.arguments.set setting (value.getD "")
    return { p with arguments, given := setting :: p.given }

/-- Looks at the option that is pending. -/
def settle (p : Progress) : Except ArgumentError Progress :=
  match p.pending with
  | some (setting, value) => { p with pending := none }.occur setting value
  | none => .ok p

/-- A long option, with the value after its equals sign if there is one. -/
def long (p : Progress) (name : String) (value : Option String) : Except ArgumentError Progress :=
  match Setting.ofName? name with
  | none => .error .unknownArgument
  | some setting =>
    if setting.takesValue then do
      let p ← p.settle
      match value with
      | some _ => p.occur setting value
      | none => return { p with pending := some (setting, none) }
    else if value.isSome then .error .tooManyValues
    else do
      let p ← p.settle
      p.occur setting none

/-- A group of short options. -/
def short (p : Progress) : List Char → Except ArgumentError Progress
  | [] => .ok p
  | c :: rest =>
    match Setting.ofLetter? c with
    | none => .error .unknownArgument
    | some setting => do
      let p ← p.settle
      let p ← p.occur setting none
      short p rest

/-- The next argument. -/
def step (p : Progress) (argument : String) : Except ArgumentError Progress :=
  if p.ended then .error .unknownArgument
  else
    match argument.toList with
    | ['-', '-'] => .ok { p with ended := true }
    | '-' :: '-' :: text =>
      let name := String.ofList (text.takeWhile (· != '='))
      match text.dropWhile (· != '=') with
      | [] => p.long name none
      | _ :: value => p.long name (some (String.ofList value))
    | '-' :: c :: rest => p.short (c :: rest)
    | _ =>
      match p.pending with
      | some (setting, none) => .ok { p with pending := some (setting, some argument) }
      | _ => .error .unknownArgument

end Progress

/-- Reads the arguments after the name of the program. -/
def read (arguments : List String) : Except ArgumentError Arguments := do
  let start : Progress := ⟨{}, [], none, false⟩
  let p ← arguments.foldlM Progress.step start
  let p ← p.settle
  return p.arguments

end Arguments

end Provenance.Simulation
