import KeyMidi.Text.Blank
import KeyMidi.Text.Letter
/-!
# Environment variables and `.env` files

The environment is a list of variables. A `.env` file adds variables to it, without replacing one
that is already set; it is read line by line and reading stops at the first line that cannot be
read, keeping what came before.

A byte order mark at the start of the file is dropped. A line is `KEY=value`, optionally
preceded by `export`, with the white space at its end dropped; blank lines and lines starting
with `#` are skipped. A key starts with a letter or underscore and goes on with letters, digits,
underscores and dots. In a value, single quotes keep text as it is, double quotes allow the
escapes `\\`, `\'`, `\"`, `\$`, `\ ` and `\n`, and outside quotes the same escapes work and
a blank ends the value, after which only blanks and a comment may follow. `$NAME` and `${NAME}`
are replaced by the variable's value (a name outside braces is a run of letters and digits of
any script) (from the environment, else from earlier lines, else
nothing), outside single quotes. A quote left open takes in the following lines.
-/

namespace KeyMidi

/-- Environment variables, in the order they were set. -/
structure Environment where
  vars : List (String × String) := []
  deriving Repr, Inhabited

namespace Environment

/-- The value of a variable. -/
def get? (e : Environment) (key : String) : Option String := (e.vars.find? (·.1 == key)).map (·.2)

/-- Sets a variable, replacing its value. -/
def set (e : Environment) (key value : String) : Environment :=
  if e.vars.any (·.1 == key) then ⟨e.vars.map fun (k, v) => if k == key then (k, value) else (k, v)⟩
  else ⟨e.vars ++ [(key, value)]⟩

/-- Sets a variable unless it is set already. -/
def setDefault (e : Environment) (key value : String) : Environment :=
  if (e.get? key).isSome then e else e.set key value

end Environment

namespace DotEnv

/-- Where the scan of a line's end is: whether a quote or escape is open, or a comment began. -/
inductive LineState where
  | complete
  | blank
  | escape
  | weakOpen
  | weakEscape
  | strongOpen
  deriving Repr, DecidableEq, Inhabited

/-- Scans a physical line from a state: the state at its end, or the position of a comment that
cuts it. -/
def scan : LineState → List Char → Nat → LineState ⊕ Nat
  | st, [], _ => .inl st
  | st, c :: rest, pos =>
    let next : Option LineState := match st with
      | .blank => if c == '#' then none
        else some (match c with
          | '\\' => .escape
          | '"' => .weakOpen
          | '\'' => .strongOpen
          | _ => .complete)
      | .escape => some .complete
      | .complete => some (if Text.isWhite c && c != '\n' && c != '\r' then .blank
        else match c with
          | '\\' => .escape
          | '"' => .weakOpen
          | '\'' => .strongOpen
          | _ => .complete)
      | .weakOpen => some (match c with
          | '\\' => .weakEscape
          | '"' => .complete
          | _ => .weakOpen)
      | .weakEscape => some .weakOpen
      | .strongOpen => some (if c == '\'' then .complete else .strongOpen)
    match next with
    | none => .inr pos
    | some st => scan st rest (pos + 1)

/-- Drops a final line break. -/
def chomp (cs : List Char) : List Char :=
  match cs.reverse with
  | '\n' :: '\r' :: rest => rest.reverse
  | '\n' :: rest => rest.reverse
  | _ => cs

/-- Groups physical lines (each with its line break) into logical lines; an open quote at the
end gives an error. -/
def logical : List (List Char) → List Char → LineState → List (Except Unit String)
  | [], buf, st => if st == .complete || buf.isEmpty then [] else [.error ()]
  | l :: rest, buf, st =>
    let buf' := buf ++ l
    if (buf'.dropWhile Text.isWhite).head? == some '#' then .ok "" :: logical rest [] .complete
    else match scan st l 0 with
      | .inr pos => .ok (String.ofList (buf ++ l.take pos)) :: logical rest [] .complete
      | .inl .complete => .ok (String.ofList (chomp buf')) :: logical rest [] .complete
      | .inl st' => logical rest buf' st'

/-- Splits text into physical lines, each keeping its line break. -/
def physical (cs : List Char) : List (List Char) :=
  let parts := (String.ofList cs).splitOn "\n"
  let n := parts.length
  (parts.zipIdx.filterMap fun (p, i) =>
    if i + 1 < n then some (p.toList ++ ['\n']) else if p.isEmpty then none else some p.toList)

/-- How a substitution is being read. -/
inductive Substitution where
  | none
  | name
  | braced
  deriving Repr, DecidableEq, Inhabited

/-- The state of reading a value. -/
structure ValueState where
  strong : Bool := false
  weak : Bool := false
  escaped : Bool := false
  expectingEnd : Bool := false
  mode : Substitution := .none
  name : String := ""
  out : String := ""
  deriving Inhabited

/-- Reads a value: `lookup` gives the value of a variable named in it. -/
def readValue (lookup : String → String) (input : List Char) : Except Unit String :=
  let rec go : List Char → ValueState → Except Unit ValueState
    | [], s => .ok s
    | c :: rest, s =>
      if s.expectingEnd then
        if c == ' ' || c == '\t' then go rest s
        else if c == '#' then .ok s
        else .error ()
      else if s.escaped then
        match c with
        | '\\' | '\'' | '"' | '$' | ' ' => go rest { s with out := s.out.push c, escaped := false }
        | 'n' => go rest { s with out := s.out.push '\n', escaped := false }
        | _ => .error ()
      else if s.strong then
        if c == '\'' then go rest { s with strong := false } else go rest { s with out := s.out.push c }
      else if s.mode != .none then
        if Text.isAlphanumeric c then go rest { s with name := s.name.push c }
        else match s.mode with
          | .braced =>
            if c == '}' then go rest { s with mode := .none, out := s.out ++ lookup s.name, name := "" }
            else go rest { s with name := s.name.push c }
          | _ =>
            if c == '{' && s.name.isEmpty then go rest { s with mode := .braced }
            else
              let s := { s with out := s.out ++ lookup s.name, name := "" }
              if c == '$' then go rest { s with mode := .name }
              else go rest { s with mode := .none, out := s.out.push c }
      else if c == '$' then go rest { s with mode := .name }
      else if s.weak then
        if c == '"' then go rest { s with weak := false }
        else if c == '\\' then go rest { s with escaped := true }
        else go rest { s with out := s.out.push c }
      else if c == '\'' then go rest { s with strong := true }
      else if c == '"' then go rest { s with weak := true }
      else if c == '\\' then go rest { s with escaped := true }
      else if c == ' ' || c == '\t' then go rest { s with expectingEnd := true }
      else go rest { s with out := s.out.push c }
  match go input {} with
  | .error () => .error ()
  | .ok s =>
    if s.mode == .braced || s.strong || s.weak then .error ()
    else .ok (s.out ++ (if s.mode == .name then lookup s.name else ""))

/-- Reads a key at the start of the text. -/
def readKey (cs : List Char) : Except Unit (String × List Char) :=
  match cs with
  | c :: _ =>
    if c.isAlpha && c.toNat < 128 || c == '_' then
      let key := cs.takeWhile fun c => (c.isAlphanum && c.toNat < 128) || c == '_' || c == '.'
      .ok (String.ofList key, cs.drop key.length)
    else .error ()
  | [] => .error ()

/-- Reads a logical line: a variable, or none for a blank or comment line. -/
def readLine (lookup : String → String) (line : String) :
    Except Unit (Option (String × Option String)) := do
  let cs := ((line.toList.reverse.dropWhile Text.isWhite).reverse).dropWhile Text.isWhite
  if cs.isEmpty || cs.head? == some '#' then return none
  let (key, rest) ← readKey cs
  let rest := rest.dropWhile Text.isWhite
  let (key, rest) ← if key == "export" && rest.head? != some '=' then do
      let (k, r) ← readKey rest
      pure (k, r.dropWhile Text.isWhite)
    else pure (key, rest)
  let rest ← match rest with
    | '=' :: r => pure (r.dropWhile Text.isWhite)
    | _ => throw ()
  if rest.isEmpty || rest.head? == some '#' then return some (key, none)
  return some (key, some (← readValue lookup rest))

end DotEnv

/-- Adds the variables of a `.env` file to the environment. -/
def Environment.loadDotEnv (env : Environment) (text : String) : Environment :=
  let cs := match text.toList with
    | '\uFEFF' :: rest => rest
    | cs => cs
  let lines := DotEnv.logical (DotEnv.physical cs) [] .complete
  let step (acc : Environment × List (String × Option String) × Bool) (l : Except Unit String) :=
    let (env, seen, stopped) := acc
    if stopped then acc
    else match l with
      | .error () => (env, seen, true)
      | .ok line =>
        let lookup (name : String) : String :=
          match env.get? name with
          | some v => v
          | none => ((seen.find? (·.1 == name)).bind (·.2)).getD ""
        match DotEnv.readLine lookup line with
        | .error () => (env, seen, true)
        | .ok none => (env, seen, false)
        | .ok (some (key, value)) =>
          (env.setDefault key (value.getD ""), (key, value) :: seen, false)
  (lines.foldl step (env, [], false)).1

end KeyMidi
