import KeyMidi.Decimal.Text
/-!
# Data documents

The program reports its results as data documents: nulls, booleans, integers, doubles, strings,
lists and records with named fields. `Doc.render` writes one as a line of JSON; a double that is
not a number is written as its name in a string, since JSON has no such numbers.
-/

namespace KeyMidi

/-- A data document. -/
inductive Doc where
  | null
  | bool (b : Bool)
  | int (i : Int)
  | float (x : Float)
  | text (s : String)
  | list (items : List Doc)
  | record (fields : List (String × Doc))
  deriving Inhabited

namespace Doc

/-- The four hexadecimal digits of a code unit. -/
def hex4 (n : Nat) : String :=
  let ds := Nat.toDigits 16 n
  String.ofList (List.replicate (4 - ds.length) '0' ++ ds)

/-- A string as a JSON string: quotes, backslashes and control characters escaped. -/
def quote (s : String) : String :=
  let body := s.foldl (fun acc c =>
    if c = '"' then acc ++ "\\\"" else if c = '\\' then acc ++ "\\\\"
    else if c = '\n' then acc ++ "\\n" else if c.toNat < 32 then acc ++ "\\u" ++ hex4 c.toNat
    else acc.push c) ""
  "\"" ++ body ++ "\""

mutual

/-- A document as one line of JSON. -/
def render : Doc → String
  | .null => "null"
  | .bool b => toString b
  | .int i => toString i
  | .float x =>
    if Decimal.isNumber x then Decimal.Layout.data.write x else quote (Decimal.Layout.data.write x)
  | .text s => quote s
  | .list items => "[" ++ renderItems items ++ "]"
  | .record fields => "\x7b" ++ renderFields fields ++ "\x7d"

/-- Items separated by commas. -/
def renderItems : List Doc → String
  | [] => ""
  | [d] => render d
  | d :: ds => render d ++ "," ++ renderItems ds

/-- Fields separated by commas. -/
def renderFields : List (String × Doc) → String
  | [] => ""
  | [(k, d)] => quote k ++ ":" ++ render d
  | (k, d) :: fs => quote k ++ ":" ++ render d ++ "," ++ renderFields fs

end

/-- A byte as an integer. -/
def byte (b : UInt8) : Doc := .int b.toNat

/-- A natural number. -/
def nat (n : Nat) : Doc := .int n

end Doc

end KeyMidi
