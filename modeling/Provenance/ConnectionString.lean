import Provenance.Error
import Provenance.Text.Blank
import Provenance.Text.Quoted

/-!
Connection strings, `key=value;` pairs with blanks allowed around every part. A value in braces may
hold any text, a closing brace in it written twice; if what follows the closing brace is not the end
of the pair, the braces are part of a plain value. `parse` reads pairs and refuses text that belongs
to none; `write` gives every value its braces.
-/

set_option autoImplicit false
set_option relaxedAutoImplicit false

namespace Provenance

structure ConnectionString where
  pairs : List (String × String)
deriving DecidableEq, Repr

namespace ConnectionString

/-- A character that may stand in a key. -/
def isKeyChar (c : Char) : Bool := c != '=' && c != ';'

/-- The text before the first pair, then the key and what follows its equals sign, if there is a
pair. A key is the longest run of characters that ends at an equals sign. -/
def seek : List Char → List Char × Option (List Char × List Char)
  | [] => ([], none)
  | c :: rest =>
    let run := (c :: rest).takeWhile isKeyChar
    let after := (c :: rest).dropWhile isKeyChar
    match isKeyChar c, after with
    | true, '=' :: value => ([], some (run, value))
    | _, _ =>
      let (gap, found) := seek rest
      (c :: gap, found)

/-- What follows a pair whose value has ended: blanks, then a semicolon or the end. -/
def pairEnd? (text : List Char) : Option (List Char) :=
  match Text.skipBlanks text with
  | [] => some []
  | ';' :: rest => some rest
  | _ => none

/-- The value after an opening brace, and what follows the pair. -/
def braced? : List Char → Option (List Char × List Char)
  | [] => none
  | '}' :: '}' :: rest => (braced? rest).map fun (value, after) ↦ ('}' :: value, after)
  | '}' :: rest => (pairEnd? rest).map fun after ↦ ([], after)
  | c :: rest => (braced? rest).map fun (value, after) ↦ (c :: value, after)

/-- A value up to the next semicolon, and what follows the pair. -/
def plain (text : List Char) : List Char × List Char :=
  (Text.trim (text.takeWhile (· != ';')), (text.dropWhile (· != ';')).drop 1)

/-- The value after an equals sign, and what follows the pair. -/
def value (text : List Char) : List Char × List Char :=
  match Text.skipBlanks text with
  | '{' :: inner => (braced? inner).getD (plain text)
  | _ => plain text

def isGap (text : List Char) : Bool := text.all fun c ↦ c == ';' || Text.isBlank c

def strayText (gap : List Char) : Error :=
  .invalidArgument ("unexpected text in connection string: " ++ Text.quoted (String.ofList gap))

/-- The pairs of a text; every pair has at least two characters, so `fuel` is its length. -/
def pairsOf : (fuel : Nat) → List Char → Except Error (List (String × String))
  | fuel, text =>
    match seek text with
    | (gap, none) => if isGap gap then .ok [] else .error (strayText gap)
    | (gap, some (key, rest)) =>
      if !isGap gap then .error (strayText gap)
      else
        let (value, rest) := value rest
        match fuel with
        | 0 => .ok []
        | fuel + 1 =>
          match pairsOf fuel rest with
          | .ok pairs =>
            .ok ((String.ofList (Text.trim key), String.ofList value) :: pairs)
          | .error err => .error err

def parse (text : String) : Except Error ConnectionString :=
  match pairsOf text.toList.length text.toList with
  | .ok pairs => .ok ⟨pairs⟩
  | .error err => .error err

def sameKey (a b : String) : Bool :=
  a.toList.map Char.toLower == b.toList.map Char.toLower

/-- The value of the first pair with one of the keys, ASCII letters in either case. -/
def get? (c : ConnectionString) (keys : List String) : Option String :=
  (c.pairs.find? fun pair ↦ keys.any (sameKey pair.1)).map (·.2)

/-- The named data source. -/
def source? (c : ConnectionString) : Option String := c.get? ["DSN"]

def database? (c : ConnectionString) : Option String := c.get? ["Database", "DB", "DBQ"]

/-- A value with each closing brace written twice. -/
def doubleBraces : List Char → List Char
  | [] => []
  | c :: rest => if c = '}' then '}' :: '}' :: doubleBraces rest else c :: doubleBraces rest

def writePair (pair : String × String) : List Char :=
  pair.1.toList ++ '=' :: '{' :: doubleBraces pair.2.toList ++ ['}', ';']

/-- Every pair with its value in braces. -/
def write (c : ConnectionString) : String := String.ofList (c.pairs.flatMap writePair)

/-- The connection string of a named data source. -/
def ofSource (source : String) : Except Error String :=
  if source.isEmpty then .error (.invalidArgument "empty DSN")
  else if source.toList.any fun c ↦ c == ';' || c == '{' || c == '}' then
    .error (.invalidArgument ("DSN may not contain ';', '\x7b' or '\x7d': " ++ source))
  else .ok ("DSN=" ++ source ++ ";")

end ConnectionString

end Provenance
