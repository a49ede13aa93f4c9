import Provenance.Driver
import Provenance.Event

/-!
Reading the rows of an executed statement. A `Reading` is a finite program of cursor calls; running
it against a driver logs what fails, closes the cursor after a failure and reports the statement as
failed.
-/

set_option autoImplicit false
set_option relaxedAutoImplicit false

namespace Provenance

/-- The outcome of reading one value. -/
inductive Fetched (α : Type) where
  | value (a : α)
  /-- There was no row. -/
  | notFound
  /-- There was a row and its column held nothing. -/
  | null
deriving DecidableEq, Repr

namespace Fetched

variable {α β : Type}

def toExcept : Fetched α → Except Error α
  | value a => .ok a
  | notFound => .error .notFound
  | null => .error .nullValue

def toOption : Fetched α → Option α
  | value a => some a
  | notFound | null => none

def map (f : α → β) : Fetched α → Fetched β
  | value a => value (f a)
  | notFound => notFound
  | null => null

def debug (text : α → String) : Fetched α → String
  | value a => "Value(" ++ text a ++ ")"
  | notFound => "NotFound"
  | null => "Null"

end Fetched

/-- How a single value is read. -/
structure FetchOptions where
  /-- Go to the next row first. -/
  advance : Bool
  /-- Close the cursor once the value is read. -/
  closeAfter : Bool
  /-- Tell an empty column from a missing row. -/
  nullIsDistinct : Bool
deriving DecidableEq, Repr

namespace FetchOptions

def standard : FetchOptions := ⟨true, true, false⟩

def keepCursor (options : FetchOptions) : FetchOptions := { options with closeAfter := false }

def currentRow (options : FetchOptions) : FetchOptions := { options with advance := false }

def nullDistinct (options : FetchOptions) : FetchOptions := { options with nullIsDistinct := true }

end FetchOptions

/-- A program of calls on an open cursor. -/
inductive Reading (α : Type) where
  | stop (result : Except Error α)
  | fetch (next : Bool → Reading α)
  | column (index : Nat) (next : Value → Reading α)
  | close (next : Reading α)

namespace Reading

variable {α β : Type}

/-- Continues with the result unless it is a failure. -/
def andThen : Reading α → (α → Reading β) → Reading β
  | stop (.ok a), k => k a
  | stop (.error err), _ => stop (.error err)
  | fetch next, k => fetch fun more ↦ (next more).andThen k
  | column index next, k => column index fun value ↦ (next value).andThen k
  | close next, k => close (next.andThen k)

instance : Monad Reading where
  pure a := stop (.ok a)
  bind := andThen

theorem andThen_pure (reading : Reading α) : reading.andThen pure = reading := by
  induction reading with
  | stop result => cases result <;> rfl
  | fetch next ih => exact congrArg fetch (funext ih)
  | column index next ih => exact congrArg (column index) (funext ih)
  | close next ih => exact congrArg close ih

theorem andThen_assoc {γ : Type} (reading : Reading α) (f : α → Reading β) (g : β → Reading γ) :
    (reading.andThen f).andThen g = reading.andThen fun a ↦ (f a).andThen g := by
  induction reading with
  | stop result => cases result <;> rfl
  | fetch next ih => exact congrArg fetch (funext ih)
  | column index next ih => exact congrArg (column index) (funext ih)
  | close next ih => exact congrArg close ih

instance : LawfulMonad Reading :=
  LawfulMonad.mk' _ andThen_pure (fun _ _ ↦ rfl) andThen_assoc

/-- A column that may not be empty. -/
def required (index : Nat) (convert : Value → Except Error α) : Reading α :=
  column index fun value ↦ stop (if value.isNull then .error .nullValue else convert value)

/-- A column that may be empty. -/
def optional (index : Nat) (convert : Value → Except Error α) : Reading (Option α) :=
  column index fun value ↦ stop (if value.isNull then .ok none else (convert value).map some)

def closeIf (condition : Bool) (next : Reading α) : Reading α :=
  if condition then close next else next

/-- One value of one row. Without a row the cursor is closed; a value of the wrong type is an error
and leaves it open. -/
def single (index : Nat) (convert : Value → Except Error α) (options : FetchOptions) :
    Reading (Fetched α) :=
  let read : Reading (Fetched α) := column index fun value ↦
    if value.isNull then
      closeIf options.closeAfter
        (stop (.ok (if options.nullIsDistinct then .null else .notFound)))
    else
      match convert value with
      | .ok a => closeIf options.closeAfter (stop (.ok (.value a)))
      | .error err => stop (.error err)
  if options.advance then
    fetch fun more ↦ if more then read else close (stop (.ok .notFound))
  else read

/-- Every row, read by the same program, then a close. `bound` exceeds the number of rows. -/
def rows (row : Reading α) : Nat → Reading (List α)
  | 0 => stop (.ok [])
  | bound + 1 =>
    fetch fun more ↦
      if more then row.andThen fun a ↦ (rows row bound).andThen fun rest ↦ stop (.ok (a :: rest))
      else close (stop (.ok []))

end Reading

/-- An executed statement while it is read: its handle, the world and what has been logged. -/
structure Opened (W H : Type) where
  handle : H
  world : W
  log : List Event

namespace Opened

variable {W H : Type}

/-- Closes the cursor; a failure to do so is only reported. -/
def closeQuietly (driver : Driver W H) (query : Query) (opened : Opened W H) : Opened W H :=
  match driver.close opened.handle opened.world with
  | (.ok (), handle, world) => ⟨handle, world, opened.log⟩
  | (.error err, handle, world) => ⟨handle, world, opened.log ++ [.closeFailed query.name err]⟩

/-- After a failed read: logs the records, then closes the cursor. -/
def abandon (driver : Driver W H) (query : Query) (err : DriverError) (opened : Opened W H) :
    Opened W H :=
  closeQuietly driver query { opened with log := opened.log ++ Event.ofError query.name err }

end Opened

/-- Runs a reading of an executed query. -/
def Reading.run {W H α : Type} (driver : Driver W H) (query : Query) :
    Reading α → Opened W H → Except Error α × Opened W H
  | stop result, opened => (result, opened)
  | fetch next, opened =>
    match driver.fetch opened.handle opened.world with
    | (.ok more, handle, world) => (next more).run driver query ⟨handle, world, opened.log⟩
    | (.error err, handle, world) =>
      (.error (.statement query.name),
        Opened.abandon driver query err ⟨handle, world, opened.log⟩)
  | column index next, opened =>
    match driver.column index opened.handle opened.world with
    | (.ok value, handle, world) => (next value).run driver query ⟨handle, world, opened.log⟩
    | (.error err, handle, world) =>
      (.error (.statement query.name),
        Opened.abandon driver query err ⟨handle, world, opened.log⟩)
  | close next, opened => next.run driver query (opened.closeQuietly driver query)

end Provenance
