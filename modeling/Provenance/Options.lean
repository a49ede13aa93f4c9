import Provenance.Model

/-!
How a backend is tuned: pool size, retries, the longest text it reads back, and the kind of store
behind the connection string.
-/

set_option autoImplicit false
set_option relaxedAutoImplicit false

namespace Provenance

/-- Recorded and reported only; the statements do not depend on it. -/
inductive StoreKind where
  | generic
  | mysql
  | postgres
  | sqlite
deriving DecidableEq, Repr

namespace StoreKind

def all : List StoreKind := [generic, mysql, postgres, sqlite]

def name : StoreKind → String
  | generic => "Generic"
  | mysql => "Mysql"
  | postgres => "Postgres"
  | sqlite => "Sqlite"

/-- The name in small letters, by which it is chosen. -/
def key : StoreKind → String
  | generic => "generic"
  | mysql => "mysql"
  | postgres => "postgres"
  | sqlite => "sqlite"

def code : StoreKind → Int
  | generic => 0
  | mysql => 1
  | postgres => 2
  | sqlite => 3

def ofCode? (code : Int) : Option StoreKind := all.find? fun kind ↦ kind.code == code

def ofKey? (key : String) : Option StoreKind := all.find? fun kind ↦ kind.key == key

/-- As `ofKey?`, with ASCII letters in either case. -/
def ofKeyAnyCase? (key : String) : Option StoreKind :=
  ofKey? (String.ofList (key.toList.map Char.toLower))

end StoreKind

structure Options where
  /-- Handles per query. -/
  poolSize : Nat := 4
  /-- Retries after the first attempt of one statement. -/
  maxRetries : Nat := 3
  /-- The longest text, in bytes, that is read back. -/
  maxStringLength : Nat := 4095
  kind : StoreKind := .generic
deriving DecidableEq, Repr

def Options.debug (options : Options) : String :=
  "BackendOptions \x7b pool_size: " ++ toString options.poolSize ++ ", max_retries: " ++
    toString options.maxRetries ++ ", max_string_len: " ++ toString options.maxStringLength ++
    ", db_type: " ++ options.kind.name ++ " \x7d"

end Provenance
