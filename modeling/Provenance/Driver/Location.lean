import Provenance.Error
import Provenance.Text.Hexadecimal

/-!
Where a database is. A target is a path, or a `file:` location with percent escapes and options;
the empty path and `:memory:` stand for a database that only lives as long as its connection.
-/

set_option autoImplicit false
set_option relaxedAutoImplicit false

namespace Provenance

/-- What a connection may do with a file. -/
inductive Access where
  | readOnly
  /-- Read and write a file that exists. -/
  | existing
  /-- Read and write, and make the file if it is not there. -/
  | create
deriving DecidableEq, Repr

structure Location where
  /-- No path for a database in memory. -/
  path : Option String
  access : Access
deriving DecidableEq, Repr

namespace Location

/-- The bytes of a text in which a percent sign and two hexadecimal digits stand for one byte. -/
def unescape : List Char → List UInt8
  | '%' :: high :: low :: rest =>
    match Text.hexValue? high, Text.hexValue? low with
    | some high, some low => UInt8.ofNat (16 * high + low) :: unescape rest
    | _, _ => '%'.toUInt8 :: unescape (high :: low :: rest)
  | c :: rest => String.utf8EncodeChar c ++ unescape rest
  | [] => []

def unescaped (text : List Char) : String :=
  (String.fromUTF8? (ByteArray.mk (unescape text).toArray)).getD ""

/-- A text cut at each occurrence of a character. -/
def pieces (mark : Char) : List Char → List (List Char)
  | [] => [[]]
  | c :: rest =>
    if c = mark then [] :: pieces mark rest
    else
      match pieces mark rest with
      | [] => [[c]]
      | piece :: more => (c :: piece) :: more

/-- The options after a question mark, names and values. -/
def options (text : List Char) : List (String × String) :=
  (pieces '&' text).map fun piece ↦
    (unescaped (piece.takeWhile (· != '=')), unescaped ((piece.dropWhile (· != '=')).drop 1))

def refused (message : String) : DriverError := .single "HY000" 1 message

/-- Applies one option to a location. -/
def withOption (location : Location) : String × String → Except DriverError Location
  | ("mode", "ro") => .ok { location with access := .readOnly }
  | ("mode", "rw") => .ok { location with access := .existing }
  | ("mode", "rwc") => .ok { location with access := .create }
  | ("mode", "memory") => .ok { location with path := none }
  | ("mode", mode) => .error (refused ("no such access mode: " ++ mode))
  | ("cache", cache) =>
    if cache == "shared" || cache == "private" then .ok location
    else .error (refused ("no such cache mode: " ++ cache))
  | _ => .ok location

/-- The location that a path names. -/
def ofPath (path : String) : Location :=
  ⟨if path.isEmpty || path == ":memory:" then none else some path, .create⟩

/-- The text after two slashes without the host, which may only be the local one. -/
def withoutHost (text : List Char) : Except DriverError (List Char) :=
  match text with
  | '/' :: '/' :: rest =>
    let host := String.ofList (rest.takeWhile (· != '/'))
    if host.isEmpty || host == "localhost" then .ok (rest.dropWhile (· != '/'))
    else .error (refused ("invalid uri authority: " ++ host))
  | text => .ok text

def ofTarget (target : String) : Except DriverError Location :=
  match target.toList with
  | 'f' :: 'i' :: 'l' :: 'e' :: ':' :: rest => do
    let text ← withoutHost rest
    let text := text.takeWhile (· != '#')
    let query := text.dropWhile (· != '?')
    (options (query.drop 1)).foldlM withOption (ofPath (unescaped (text.takeWhile (· != '?'))))
  | _ => .ok (ofPath target)

end Location

end Provenance
