import Provenance.Json.Text
import Provenance.Options
import Provenance.Word

/-!
Options as JSON. Fields that are left out keep their defaults.
-/

set_option autoImplicit false
set_option relaxedAutoImplicit false

namespace Provenance

/-- The kind of store that a JSON value names. -/
def StoreKind.ofJson? : Json → Option StoreKind := Json.variant? ofKey?

def StoreKind.toJson (kind : StoreKind) : Json := .ofText kind.key

namespace Options

/-- The value of a field, or its default. -/
def fieldOr {α : Type} (default : α) (convert : Json → Option α) : Option Json → Option α
  | some json => convert json
  | none => some default

/-- Options with the fields that a JSON value gives. -/
def ofJson? (json : Json) : Option Options := do
  let standard : Options := {}
  match ← json.fields? ["pool_size", "max_retries", "max_string_len", "db_type"] with
  | [poolSize, maxRetries, maxStringLength, kind] =>
    let poolSize ← fieldOr standard.poolSize (Json.natBelow? Word.count64) poolSize
    let maxRetries ← fieldOr standard.maxRetries (Json.natBelow? Word.count32) maxRetries
    let maxStringLength ←
      fieldOr standard.maxStringLength (Json.natBelow? Word.count64) maxStringLength
    let kind ← fieldOr standard.kind StoreKind.ofJson? kind
    return ⟨poolSize, maxRetries, maxStringLength, kind⟩
  | _ => none

def toJson (options : Options) : Json :=
  .ofFields [("db_type", options.kind.toJson), ("max_retries", .ofNat options.maxRetries),
    ("max_string_len", .ofNat options.maxStringLength), ("pool_size", .ofNat options.poolSize)]

/-- Reads options from a JSON text. A pool needs at least one handle. -/
def read (text : String) : Except Error Options :=
  match (Json.read text).bind ofJson? with
  | none => .error (.invalidArgument "backend options: not a record of options")
  | some options =>
    if options.poolSize = 0 then .error (.invalidArgument "pool size must be at least 1")
    else .ok options

end Options

end Provenance
