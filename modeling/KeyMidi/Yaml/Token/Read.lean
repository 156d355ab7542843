import KeyMidi.Yaml.Token
/-!
# Reading tokens from YAML text

The token reader works on demand: the event reader asks for the next token, and the token
reader reads just as far as it must to be sure what that token is. It must sometimes look
ahead, because a scalar followed on the same line by `:` is a mapping key, and a key in block
context opens an indented mapping; such a *possible key* is remembered with the position in the
token queue where a `KEY` token (and perhaps a `BLOCK-MAPPING-START`) will be inserted, and the
head of the queue is handed out only once no possible key can still claim its place.

Block structure comes from indentation: a column deeper than the current indentation opens a
collection, and returning to a shallower column closes the open ones with `BLOCK-END` tokens.

A problem is reported as soon as it is met; since reading is on demand, what was read before it
has already been handed out. Every loop is bounded by the length of the text.
-/

namespace KeyMidi.Yaml

/-- A place where a mapping key may begin. -/
structure SimpleKey where
  possible : Bool := false
  required : Bool := false
  tokenNumber : Nat := 0
  mark : Mark := {}
  deriving Repr, Inhabited

/-- The state of the token reader. -/
structure Scanner where
  text : Array Char
  mark : Mark := {}
  /-- Tokens read but not yet handed out, in order. -/
  queue : List Token := []
  /-- Tokens handed out so far. -/
  taken : Nat := 0
  started : Bool := false
  /-- The head of the queue is settled and may be handed out. -/
  available : Bool := false
  indent : Int := -1
  indents : List Int := []
  keyAllowed : Bool := false
  /-- Possible keys, one per flow level, innermost first. -/
  keys : List SimpleKey := []
  flowLevel : Nat := 0
  deriving Inhabited

/-- Token reading: a state and a syntax problem. -/
abbrev ScanM := StateT Scanner (Except Problem)

section Chars

/-- A space or a tab. -/
def isBlank (c : Option Char) : Bool := c == some ' ' || c == some '\t'

/-- A line break: CR, LF, NEL, LS or PS. -/
def isBreak (c : Option Char) : Bool :=
  c == some '\r' || c == some '\n' || c == some '\u0085' || c == some '\u2028' || c == some '\u2029'

/-- The end of the text. -/
def isEnd (c : Option Char) : Bool := c.isNone

/-- A blank, a line break or the end. -/
def isBlankEnd (c : Option Char) : Bool := isBlank c || isBreak c || isEnd c

/-- A line break or the end. -/
def isBreakEnd (c : Option Char) : Bool := isBreak c || isEnd c

/-- A character of anchor names: letters, digits, `_` and `-`. -/
def isNameChar (c : Option Char) : Bool :=
  match c with
  | some ch => ch.isAlphanum || ch == '_' || ch == '-'
  | none => false

/-- A hexadecimal digit. -/
def isHexChar (c : Option Char) : Bool :=
  match c with
  | some ch => ch.isDigit || ('a' ≤ ch && ch ≤ 'f') || ('A' ≤ ch && ch ≤ 'F')
  | none => false

/-- The value of a hexadecimal digit. -/
def hexValue (ch : Char) : Nat :=
  if ch.isDigit then ch.toNat - 48
  else if 'a' ≤ ch && ch ≤ 'f' then ch.toNat - 87
  else ch.toNat - 55

/-- The character is one of those in `set`. -/
def isOneOf (c : Option Char) (set : String) : Bool :=
  match c with
  | some ch => set.toList.contains ch
  | none => false

end Chars

namespace Scanner

/-- The character `k` places ahead. -/
def at? (s : Scanner) (k : Nat) : Option Char := s.text[s.mark.index + k]?

/-- The bound for loops that read one character per round. -/
def bound (s : Scanner) : Nat := s.text.size + 2

end Scanner

/-- The character `k` places ahead. -/
def ahead (k : Nat) : ScanM (Option Char) := do return (← get).at? k

/-- The current mark. -/
def here : ScanM Mark := do return (← get).mark

/-- Stops with a problem at the current mark. -/
def failHere {α : Type} (context : Option (String × Mark)) (problem : String) : ScanM α := do
  throw { problem, mark := (← get).mark, context }

/-- The size in bytes of the character `k` places ahead. -/
def Scanner.widthAt (s : Scanner) (k : Nat) : Nat := ((s.at? k).map Char.utf8Size).getD 1

/-- Moves past one character on the same line. -/
def advance : ScanM Unit :=
  modify fun s => { s with mark := ⟨s.mark.index + 1, s.mark.line, s.mark.column + 1,
    s.mark.byte + s.widthAt 0⟩ }

/-- Moves past `n` characters on the same line. -/
def advanceBy : Nat → ScanM Unit
  | 0 => pure ()
  | n + 1 => do advance; advanceBy n

/-- Moves past a line break; CR LF is one break of two characters. -/
def advanceLine : ScanM Unit := do
  let s ← get
  if s.at? 0 == some '\r' && s.at? 1 == some '\n' then
    set { s with mark := ⟨s.mark.index + 2, s.mark.line + 1, 0, s.mark.byte + 2⟩ }
  else if isBreak (s.at? 0) then
    set { s with mark := ⟨s.mark.index + 1, s.mark.line + 1, 0, s.mark.byte + s.widthAt 0⟩ }

/-- Appends the current character to `buf` and moves past it. -/
def take (buf : String) : ScanM String := do
  match ← ahead 0 with
  | some c => advance; return buf.push c
  | none => return buf

/-- Appends the current line break to `buf`, written as LF unless it is LS or PS. -/
def takeLine (buf : String) : ScanM String := do
  let c ← ahead 0
  if c == some '\u2028' || c == some '\u2029' then
    advanceLine
    return buf.push (c.getD ' ')
  else if isBreak c then
    advanceLine
    return buf.push '\n'
  else return buf

/-- Adds a token at the end of the queue. -/
def enqueue (kind : TokenKind) (start stop : Mark) : ScanM Unit :=
  modify fun s => { s with queue := s.queue ++ [⟨kind, start, stop⟩] }

section Keys

/-- Forgets the possible key of the current flow level; a required one is a problem. -/
def removeSimpleKey : ScanM Unit := do
  let s ← get
  match s.keys with
  | k :: rest =>
    if k.possible && k.required then
      throw { problem := "could not find expected ':'", mark := s.mark,
              context := some ("while scanning a simple key", k.mark) }
    set { s with keys := { k with possible := false } :: rest }
  | [] => pure ()

/-- Remembers that a key may begin here, if keys are allowed here. -/
def saveSimpleKey : ScanM Unit := do
  let s ← get
  let required := s.flowLevel == 0 && s.indent == (s.mark.column : Int)
  if s.keyAllowed then
    let key : SimpleKey := ⟨true, required, s.taken + s.queue.length, s.mark⟩
    removeSimpleKey
    modify fun s => { s with keys := match s.keys with
      | _ :: rest => key :: rest
      | [] => [key] }

/-- Possible keys not on the current line, or more than 1024 bytes back, are dropped; a
required one is a problem. -/
def staleSimpleKeys : ScanM Unit := do
  let s ← get
  let keys ← s.keys.mapM fun k => do
    if k.possible && (k.mark.line < s.mark.line || k.mark.byte + 1024 < s.mark.byte) then
      if k.required then
        throw { problem := "could not find expected ':'", mark := s.mark,
                context := some ("while scanning a simple key", k.mark) }
      return { k with possible := false }
    return k
  set { s with keys }

/-- Enters a flow collection. -/
def increaseFlowLevel : ScanM Unit :=
  modify fun s => { s with keys := {} :: s.keys, flowLevel := s.flowLevel + 1 }

/-- Leaves a flow collection. -/
def decreaseFlowLevel : ScanM Unit :=
  modify fun s =>
    if s.flowLevel > 0 then { s with flowLevel := s.flowLevel - 1, keys := s.keys.drop 1 } else s

end Keys

section Indentation

/-- In block context, a column deeper than the indentation opens a collection: its start token
goes at the end of the queue, or at the given token number. -/
def rollIndent (column : Nat) (number : Option Nat) (kind : TokenKind) (mark : Mark) :
    ScanM Unit := do
  let s ← get
  if s.flowLevel == 0 && s.indent < (column : Int) then
    let tok : Token := ⟨kind, mark, mark⟩
    let queue := match number with
      | none => s.queue ++ [tok]
      | some n => s.queue.insertIdx (n - s.taken) tok
    set { s with indents := s.indent :: s.indents, indent := column, queue }

/-- Closes the block collections indented deeper than `column`. -/
def unrollIndentWith : Nat → Int → ScanM Unit
  | 0, _ => pure ()
  | fuel + 1, column => do
    let s ← get
    if s.flowLevel == 0 && s.indent > column then
      let (top, rest) := match s.indents with
        | i :: r => (i, r)
        | [] => (-1, [])
      set { s with queue := s.queue ++ [Token.mk .blockEnd s.mark s.mark], indent := top, indents := rest }
      unrollIndentWith fuel column

/-- Closes the block collections indented deeper than `column`. -/
def unrollIndent (column : Int) : ScanM Unit := do
  unrollIndentWith ((← get).indents.length + 1) column

end Indentation

section Whitespace

/-- Skips spaces (and tabs where they are allowed) and a comment; `true` if something was
skipped up to a line end. -/
def skipSpacesWith : Nat → ScanM Unit
  | 0 => pure ()
  | fuel + 1 => do
    let s ← get
    let c := s.at? 0
    if c == some ' ' || ((s.flowLevel > 0 || !s.keyAllowed) && c == some '\t') then
      advance
      skipSpacesWith fuel

/-- Skips up to the end of the line. -/
def skipToLineEndWith : Nat → ScanM Unit
  | 0 => pure ()
  | fuel + 1 => do
    if !isBreakEnd (← ahead 0) then
      advance
      skipToLineEndWith fuel

/-- Skips blanks, comments and line breaks up to the next token. A line break in block
context allows a key again. -/
def scanToNextTokenWith : Nat → ScanM Unit
  | 0 => pure ()
  | fuel + 1 => do
    let s ← get
    if s.mark.column == 0 && s.at? 0 == some '\uFEFF' then advance
    skipSpacesWith (← get).bound
    if (← ahead 0) == some '#' then skipToLineEndWith (← get).bound
    if isBreak (← ahead 0) then
      advanceLine
      modify fun s => if s.flowLevel == 0 then { s with keyAllowed := true } else s
      scanToNextTokenWith fuel

/-- Skips to the next token. -/
def scanToNextToken : ScanM Unit := do scanToNextTokenWith (← get).bound

end Whitespace

section Simple

/-- The start of the stream. -/
def fetchStreamStart : ScanM Unit := do
  let m ← here
  modify fun s => { s with indent := -1, keys := [{}], keyAllowed := true, started := true }
  enqueue .streamStart m m

/-- The end of the stream, on a line of its own. -/
def fetchStreamEnd : ScanM Unit := do
  modify fun s =>
    if s.mark.column != 0 then { s with mark := { s.mark with line := s.mark.line + 1, column := 0 } }
    else s
  unrollIndent (-1)
  removeSimpleKey
  modify fun s => { s with keyAllowed := false }
  let m ← here
  enqueue .streamEnd m m

/-- `---` or `...` at the start of a line. -/
def fetchDocumentIndicator (kind : TokenKind) : ScanM Unit := do
  unrollIndent (-1)
  removeSimpleKey
  modify fun s => { s with keyAllowed := false }
  let start ← here
  advance; advance; advance
  enqueue kind start (← here)

/-- `[` or `{`. -/
def fetchFlowCollectionStart (kind : TokenKind) : ScanM Unit := do
  saveSimpleKey
  increaseFlowLevel
  modify fun s => { s with keyAllowed := true }
  let start ← here
  advance
  enqueue kind start (← here)

/-- `]` or `}`. -/
def fetchFlowCollectionEnd (kind : TokenKind) : ScanM Unit := do
  removeSimpleKey
  decreaseFlowLevel
  modify fun s => { s with keyAllowed := false }
  let start ← here
  advance
  enqueue kind start (← here)

/-- `,` in a flow collection. -/
def fetchFlowEntry : ScanM Unit := do
  removeSimpleKey
  modify fun s => { s with keyAllowed := true }
  let start ← here
  advance
  enqueue .flowEntry start (← here)

/-- `-` starting a sequence entry. -/
def fetchBlockEntry : ScanM Unit := do
  let s ← get
  if s.flowLevel == 0 then
    if !s.keyAllowed then failHere none "block sequence entries are not allowed in this context"
    rollIndent s.mark.column none .blockSequenceStart s.mark
  removeSimpleKey
  modify fun s => { s with keyAllowed := true }
  let start ← here
  advance
  enqueue .blockEntry start (← here)

/-- `?` starting a complex key. -/
def fetchKey : ScanM Unit := do
  let s ← get
  if s.flowLevel == 0 then
    if !s.keyAllowed then failHere none "mapping keys are not allowed in this context"
    rollIndent s.mark.column none .blockMappingStart s.mark
  removeSimpleKey
  modify fun s => { s with keyAllowed := s.flowLevel == 0 }
  let start ← here
  advance
  enqueue .key start (← here)

/-- `:` after a key: a possible key becomes a real one, with its `KEY` token inserted where
it began (and the mapping opened there in block context). -/
def fetchValue : ScanM Unit := do
  let s ← get
  match s.keys with
  | k :: rest =>
    if k.possible then
      let tok : Token := ⟨.key, k.mark, k.mark⟩
      set { s with queue := s.queue.insertIdx (k.tokenNumber - s.taken) tok,
                   keys := { k with possible := false } :: rest }
      rollIndent k.mark.column (some k.tokenNumber) .blockMappingStart k.mark
      modify fun s => { s with keyAllowed := false }
    else
      if s.flowLevel == 0 then
        if !s.keyAllowed then failHere none "mapping values are not allowed in this context"
        rollIndent s.mark.column none .blockMappingStart s.mark
      modify fun s => { s with keyAllowed := s.flowLevel == 0 }
  | [] => pure ()
  let start ← here
  advance
  enqueue .value start (← here)

end Simple

section Names

/-- Reads name characters. -/
def takeNameWith : Nat → String → ScanM String
  | 0, buf => pure buf
  | fuel + 1, buf => do
    if isNameChar (← ahead 0) then takeNameWith fuel (← take buf) else pure buf

/-- `&name` or `*name`. -/
def fetchAnchor (isAlias : Bool) : ScanM Unit := do
  saveSimpleKey
  modify fun s => { s with keyAllowed := false }
  let start ← here
  advance
  let name ← takeNameWith (← get).bound ""
  let stop ← here
  let c ← ahead 0
  if name.isEmpty || !(isBlankEnd c || isOneOf c "?:,]\x7d%@`") then
    throw { problem := "did not find expected alphabetic or numeric character", mark := ← here,
            context := some (if isAlias then "while scanning an alias" else "while scanning an anchor",
              start) }
  enqueue (if isAlias then .alias name else .anchor name) start stop

/-- A character of tag text: name characters and the other characters of URIs; commas and
brackets only in verbatim tags and directive prefixes. -/
def isUriChar (verbatim : Bool) (c : Option Char) : Bool :=
  isNameChar c || isOneOf c ";/?:@&=+$.%!~*'()" || (verbatim && isOneOf c ",[]")

/-- What was being read when a tag went wrong. -/
def tagContext (directive : Bool) : String :=
  if directive then "while parsing a %TAG directive" else "while parsing a tag"

/-- The length of the UTF-8 sequence a leading byte starts, or 0 if it starts none. -/
def utf8Width (b : Nat) : Nat :=
  if b / 128 == 0 then 1 else if b / 32 == 6 then 2 else if b / 16 == 14 then 3
  else if b / 8 == 30 then 4 else 0

/-- Reads `%XX` escapes spelling one UTF-8 sequence; `left` is how many bytes of it are still to
come, 0 before its leading byte. -/
def uriEscapesWith (directive : Bool) (start : Mark) : Nat → Nat → List UInt8 → ScanM (List UInt8)
  | 0, _, acc => pure acc
  | fuel + 1, left, acc => do
    let s ← get
    let fail {α : Type} (problem : String) : ScanM α :=
      throw { problem, mark := s.mark, context := some (tagContext directive, start) }
    if !(s.at? 0 == some '%' && isHexChar (s.at? 1) && isHexChar (s.at? 2)) then
      fail "did not find URI escaped octet"
    let octet := hexValue ((s.at? 1).getD '0') * 16 + hexValue ((s.at? 2).getD '0')
    let left ← if left == 0 then
        match utf8Width octet with
        | 0 => fail "found an incorrect leading UTF-8 octet"
        | w => pure w
      else if octet / 64 != 2 then fail "found an incorrect trailing UTF-8 octet"
      else pure left
    advanceBy 3
    if left == 1 then pure (acc ++ [octet.toUInt8])
    else uriEscapesWith directive start fuel (left - 1) (acc ++ [octet.toUInt8])

/-- Reads the characters of a tag or directive prefix, decoding escapes; `count` is how many
characters the tag already has. -/
def tagUriWith (verbatim directive : Bool) (start : Mark) : Nat → Nat → List UInt8 →
    ScanM (Nat × List UInt8)
  | 0, count, acc => pure (count, acc)
  | fuel + 1, count, acc => do
    let c ← ahead 0
    if !isUriChar verbatim c then return (count, acc)
    if c == some '%' then
      let bytes ← uriEscapesWith directive start ((← get).bound) 0 []
      tagUriWith verbatim directive start fuel (count + 1) (acc ++ bytes)
    else
      advance
      tagUriWith verbatim directive start fuel (count + 1)
        (acc ++ (String.singleton (c.getD ' ')).toUTF8.toList)

/-- Reads the rest of a tag after `head` (a handle that was not one, or nothing); an empty tag
is a problem. -/
def scanTagUri (verbatim directive : Bool) (head : String) (start : Mark) : ScanM (List UInt8) := do
  let (count, bytes) ← tagUriWith verbatim directive start ((← get).bound) head.length
    ((head.drop 1).toString.toUTF8.toList)
  if count == 0 then
    throw { problem := "did not find expected tag URI", mark := ← here,
            context := some (tagContext directive, start) }
  return bytes

/-- Reads a tag handle: `!`, then name characters, then `!` if one follows. In a directive the
handle must end with `!` unless it is `!` alone. -/
def scanTagHandle (directive : Bool) (start : Mark) : ScanM String := do
  if (← ahead 0) != some '!' then
    throw { problem := "did not find expected '!'", mark := ← here,
            context := some (if directive then "while scanning a tag directive"
              else "while scanning a tag", start) }
  advance
  let handle ← takeNameWith (← get).bound "!"
  if (← ahead 0) == some '!' then take handle
  else if directive && handle != "!" then
    throw { problem := "did not find expected '!'", mark := ← here,
            context := some ("while parsing a tag directive", start) }
  else pure handle

/-- `!suffix`, `!!suffix`, `!handle!suffix`, `!` or `!<verbatim>`. -/
def fetchTag : ScanM Unit := do
  saveSimpleKey
  modify fun s => { s with keyAllowed := false }
  let start ← here
  let ctx := some ("while scanning a tag", start)
  let (handle, suffix) ← do
    if (← ahead 1) == some '<' then
      advance; advance
      let suffix ← scanTagUri true false "" start
      if (← ahead 0) != some '>' then
        throw { problem := "did not find the expected '>'", mark := ← here, context := ctx }
      advance
      pure ("", suffix)
    else
      let handle ← scanTagHandle false start
      if handle.length ≥ 2 && handle.endsWith "!" then
        pure (handle, ← scanTagUri false false "" start)
      else
        let suffix ← scanTagUri false false handle start
        -- `!` alone is the non-specific tag
        if suffix.isEmpty then pure ("", [33]) else pure ("!", suffix)
  let s ← get
  let c := s.at? 0
  if !isBlankEnd c && !(s.flowLevel > 0 && c == some ',') then
    throw { problem := "did not find expected whitespace or line break", mark := s.mark, context := ctx }
  enqueue (.tag handle suffix) start (← here)

end Names

section Directives

/-- Skips spaces and tabs. -/
def skipBlanksWith : Nat → ScanM Unit
  | 0 => pure ()
  | fuel + 1 => do if isBlank (← ahead 0) then advance; skipBlanksWith fuel

/-- Reads the digits of a version number, at most nine. -/
def versionDigitsWith (start : Mark) : Nat → Nat → Nat → ScanM Nat
  | 0, _, value => pure value
  | fuel + 1, length, value => do
    let c ← ahead 0
    let ctx := some ("while scanning a %YAML directive", start)
    if c.any Char.isDigit then
      if length + 1 > 9 then
        throw { problem := "found extremely long version number", mark := ← here, context := ctx }
      advance
      versionDigitsWith start fuel (length + 1) (value * 10 + ((c.getD '0').toNat - 48))
    else if length == 0 then
      throw { problem := "did not find expected version number", mark := ← here, context := ctx }
    else pure value

/-- The `major.minor` of a `%YAML` directive. -/
def scanVersion (start : Mark) : ScanM TokenKind := do
  skipBlanksWith (← get).bound
  let major ← versionDigitsWith start (← get).bound 0 0
  if (← ahead 0) != some '.' then
    throw { problem := "did not find expected digit or '.' character", mark := ← here,
            context := some ("while scanning a %YAML directive", start) }
  advance
  let minor ← versionDigitsWith start (← get).bound 0 0
  return .versionDirective major minor

/-- The handle and prefix of a `%TAG` directive. -/
def scanTagDirective (start : Mark) : ScanM TokenKind := do
  let ctx := some ("while scanning a %TAG directive", start)
  skipBlanksWith (← get).bound
  let handle ← scanTagHandle true start
  if !isBlank (← ahead 0) then
    throw { problem := "did not find expected whitespace", mark := ← here, context := ctx }
  skipBlanksWith (← get).bound
  let pfx ← scanTagUri true true "" start
  if !isBlankEnd (← ahead 0) then
    throw { problem := "did not find expected whitespace or line break", mark := ← here, context := ctx }
  return .tagDirective handle pfx

/-- A `%YAML` or `%TAG` line; other directives are a problem. The line ends with blanks and a
comment at most, and its line break is taken with it. -/
def fetchDirective : ScanM Unit := do
  unrollIndent (-1)
  removeSimpleKey
  modify fun s => { s with keyAllowed := false }
  let start ← here
  let ctx := some ("while scanning a directive", start)
  advance
  let name ← takeNameWith (← get).bound ""
  if name.isEmpty then
    throw { problem := "could not find expected directive name", mark := ← here, context := ctx }
  if !isBlankEnd (← ahead 0) then
    throw { problem := "found unexpected non-alphabetical character", mark := ← here, context := ctx }
  let kind ← if name == "YAML" then scanVersion start
    else if name == "TAG" then scanTagDirective start
    else throw { problem := "found unknown directive name", mark := ← here, context := ctx }
  let stop ← here
  skipBlanksWith (← get).bound
  if (← ahead 0) == some '#' then skipToLineEndWith (← get).bound
  if !isBreakEnd (← ahead 0) then
    throw { problem := "did not find expected comment or line break", mark := ← here, context := ctx }
  advanceLine
  enqueue kind start stop

end Directives

section Quoted

/-- The character written by a one-letter escape. -/
def escapeChar (c : Char) : Option Char :=
  match c with
  | '0' => some '\x00' | 'a' => some '\x07' | 'b' => some '\x08' | 't' => some '\t'
  | '\t' => some '\t' | 'n' => some '\n' | 'v' => some '\x0b' | 'f' => some '\x0c'
  | 'r' => some '\r' | 'e' => some '\x1b' | ' ' => some ' ' | '"' => some '"'
  | '/' => some '/' | '\'' => some '\'' | '\\' => some '\\' | 'N' => some '\u0085'
  | '_' => some '\u00A0' | 'L' => some '\u2028' | 'P' => some '\u2029'
  | _ => none

/-- The value of the `n` hexadecimal digits ahead, none if one of them is not a digit. -/
def Scanner.hexAhead (s : Scanner) (n : Nat) : Option Nat :=
  (List.range n).foldl (fun acc k => acc.bind fun a =>
    let c := s.at? k
    if isHexChar c then some (a * 16 + hexValue (c.getD '0')) else none) (some 0)

/-- The document markers `---` and `...` at the start of a line, followed by a blank. -/
def atDocumentMarker : ScanM Bool := do
  let s ← get
  let three (c : Char) := s.at? 0 == some c && s.at? 1 == some c && s.at? 2 == some c
  return s.mark.column == 0 && (three '-' || three '.') && isBlankEnd (s.at? 3)

/-- Reads the non-blank characters of a quoted scalar, up to a blank, a break or the closing
quote; `true` when an escaped line break ended the run. -/
def quotedRunWith (single : Bool) (start : Mark) : Nat → String → ScanM (String × Bool)
  | 0, buf => pure (buf, false)
  | fuel + 1, buf => do
    let c ← ahead 0
    let c1 ← ahead 1
    if isBlankEnd c then return (buf, false)
    if single && c == some '\'' && c1 == some '\'' then
      advance; advance
      quotedRunWith single start fuel (buf.push '\'')
    else if c == some (if single then '\'' else '"') then return (buf, false)
    else if !single && c == some '\\' && isBreak c1 then
      advance
      advanceLine
      return (buf, true)
    else if !single && c == some '\\' then
      -- past the end of the text there is no escape character at all
      let e := c1.getD '\x00'
      let width := if e == 'x' then 2 else if e == 'u' then 4 else if e == 'U' then 8 else 0
      if width == 0 then
        match (c1.bind escapeChar) with
        | some ch =>
          advance; advance
          quotedRunWith single start fuel (buf.push ch)
        | none =>
          throw { problem := "found unknown escape character", mark := ← here,
                  context := some ("while parsing a quoted scalar", start) }
      else
        advance; advance
        -- the digits are all checked, and the code too, before any of them is passed
        let ctx := some ("while parsing a quoted scalar", start)
        let code ← match (← get).hexAhead width with
          | some code => pure code
          | none => throw { problem := "did not find expected hexadecimal number", mark := ← here,
                            context := ctx }
        if (0xD800 ≤ code && code ≤ 0xDFFF) || code > 0x10FFFF then
          throw { problem := "found invalid Unicode character escape code", mark := ← here,
                  context := ctx }
        advanceBy width
        quotedRunWith single start fuel (buf.push (Char.ofNat code))
    else
      quotedRunWith single start fuel (← take buf)

/-- Whitespace between runs of a scalar: blanks before the first break, the first break, and
the breaks after it. -/
structure Gap where
  blanks : String := ""
  leading : String := ""
  trailing : String := ""
  broken : Bool := false

/-- Reads blanks and breaks inside a quoted scalar. -/
def quotedGapWith : Nat → Gap → ScanM Gap
  | 0, g => pure g
  | fuel + 1, g => do
    let c ← ahead 0
    if isBlank c then
      if g.broken then advance; quotedGapWith fuel g
      else quotedGapWith fuel { g with blanks := ← take g.blanks }
    else if isBreak c then
      if g.broken then quotedGapWith fuel { g with trailing := ← takeLine g.trailing }
      else quotedGapWith fuel { g with blanks := "", leading := ← takeLine "", broken := true }
    else pure g

/-- Joins a gap into a scalar: one break folds to a space, more breaks keep all but the first;
breaks other than LF are kept. -/
def Gap.fold (g : Gap) (buf : String) : String :=
  if g.broken then
    if g.leading.startsWith "\n" then
      if g.trailing.isEmpty then buf.push ' ' else buf ++ g.trailing
    else buf ++ g.leading ++ g.trailing
  else buf ++ g.blanks

/-- The body of a quoted scalar after its opening quote. -/
def quotedBodyWith (single : Bool) (start : Mark) : Nat → String → ScanM String
  | 0, buf => pure buf
  | fuel + 1, buf => do
    let ctx := some ("while scanning a quoted scalar", start)
    if ← atDocumentMarker then
      throw { problem := "found unexpected document indicator", mark := ← here, context := ctx }
    if isEnd (← ahead 0) then
      throw { problem := "found unexpected end of stream", mark := ← here, context := ctx }
    let (buf, escapedBreak) ← quotedRunWith single start (← get).bound buf
    if (← ahead 0) == some (if single then '\'' else '"') then return buf
    let g ← quotedGapWith (← get).bound { broken := escapedBreak }
    quotedBodyWith single start fuel (g.fold buf)

/-- A single- or double-quoted scalar. -/
def fetchFlowScalar (single : Bool) : ScanM Unit := do
  saveSimpleKey
  modify fun s => { s with keyAllowed := false }
  let start ← here
  advance
  let text ← quotedBodyWith single start (← get).bound ""
  advance
  enqueue (.scalar text (if single then .singleQuoted else .doubleQuoted)) start (← here)

end Quoted

section Plain

/-- Reads the non-blank characters of a plain scalar, joining the gap before them. -/
def plainRunWith (start : Mark) : Nat → String → Gap → Mark → ScanM (String × Gap × Mark)
  | 0, buf, g, stop => pure (buf, g, stop)
  | fuel + 1, buf, g, stop => do
    let s ← get
    let c := s.at? 0
    let c1 := s.at? 1
    if isBlankEnd c then return (buf, g, stop)
    if s.flowLevel > 0 && c == some ':' && isOneOf c1 ",?[]\x7b\x7d" then
      throw { problem := "found unexpected ':'", mark := s.mark,
              context := some ("while scanning a plain scalar", start) }
    if (c == some ':' && isBlankEnd c1) || (s.flowLevel > 0 && isOneOf c ",[]\x7b\x7d") then
      return (buf, g, stop)
    let buf := if g.broken || !g.blanks.isEmpty then g.fold buf else buf
    let buf ← take buf
    plainRunWith start fuel buf {} (← here)

/-- Reads blanks and breaks inside a plain scalar; a tab in the indentation of a continuation
line is a problem. -/
def plainGapWith (start : Mark) (indent : Int) : Nat → Gap → ScanM Gap
  | 0, g => pure g
  | fuel + 1, g => do
    let c ← ahead 0
    if isBlank c then
      if g.broken && ((← here).column : Int) < indent && c == some '\t' then
        throw { problem := "found a tab character that violates indentation", mark := ← here,
                context := some ("while scanning a plain scalar", start) }
      if g.broken then advance; plainGapWith start indent fuel g
      else plainGapWith start indent fuel { g with blanks := ← take g.blanks }
    else if isBreak c then
      if g.broken then plainGapWith start indent fuel { g with trailing := ← takeLine g.trailing }
      else plainGapWith start indent fuel { g with blanks := "", leading := ← takeLine "", broken := true }
    else pure g

/-- The lines of a plain scalar. -/
def plainBodyWith (start : Mark) (indent : Int) : Nat → String → Gap → Mark →
    ScanM (String × Gap × Mark)
  | 0, buf, g, stop => pure (buf, g, stop)
  | fuel + 1, buf, g, stop => do
    if ← atDocumentMarker then return (buf, g, stop)
    if (← ahead 0) == some '#' then return (buf, g, stop)
    let (buf, g, stop) ← plainRunWith start (← get).bound buf g stop
    let c ← ahead 0
    if !(isBlank c || isBreak c) then return (buf, g, stop)
    let g ← plainGapWith start indent (← get).bound g
    let s ← get
    if s.flowLevel == 0 && (s.mark.column : Int) < indent then return (buf, g, stop)
    plainBodyWith start indent fuel buf g stop

/-- A plain scalar. After one that ended at a line break, a key is allowed again. -/
def fetchPlainScalar : ScanM Unit := do
  saveSimpleKey
  modify fun s => { s with keyAllowed := false }
  let start ← here
  let indent := (← get).indent + 1
  let (text, g, stop) ← plainBodyWith start indent (← get).bound "" {} start
  enqueue (.scalar text .plain) start stop
  if g.broken then modify fun s => { s with keyAllowed := true }

end Plain

section Block

/-- Reads indentation and empty lines before a line of a block scalar; fixes the indentation
from the first non-empty line when no indicator gave it. -/
def blockBreaksWith (start : Mark) : Nat → Nat → String → Nat → Mark → ScanM (Nat × String × Mark)
  | 0, indent, breaks, _, stop => pure (indent, breaks, stop)
  | fuel + 1, indent, breaks, maxIndent, stop => do
    let rec spaces : Nat → ScanM Unit
      | 0 => pure ()
      | n + 1 => do
        let s ← get
        if (indent == 0 || s.mark.column < indent) && s.at? 0 == some ' ' then
          advance; spaces n
    spaces (← get).bound
    let s ← get
    let maxIndent := max maxIndent s.mark.column
    if (indent == 0 || s.mark.column < indent) && s.at? 0 == some '\t' then
      throw { problem := "found a tab character where an indentation space is expected",
              mark := s.mark, context := some ("while scanning a block scalar", start) }
    if !isBreak (s.at? 0) then
      let indent := if indent == 0 then max 1 (max maxIndent ((s.indent + 1).toNat)) else indent
      return (indent, breaks, stop)
    let breaks ← takeLine breaks
    blockBreaksWith start fuel indent breaks maxIndent (← here)

/-- Reads the rest of a line. -/
def takeToLineEndWith : Nat → String → ScanM String
  | 0, buf => pure buf
  | fuel + 1, buf => do
    if isBreakEnd (← ahead 0) then pure buf else takeToLineEndWith fuel (← take buf)

/-- The lines of a block scalar at its indentation. -/
def blockLinesWith (start : Mark) (literal : Bool) (indent : Nat) :
    Nat → String → String → String → Bool → Mark → ScanM (String × String × String × Mark)
  | 0, buf, leading, trailing, _, stop => pure (buf, leading, trailing, stop)
  | fuel + 1, buf, leading, trailing, leadingBlank, stop => do
    let s ← get
    if s.mark.column != indent || isEnd (s.at? 0) then return (buf, leading, trailing, stop)
    let trailingBlank := isBlank (s.at? 0)
    let buf :=
      if !literal && leading.startsWith "\n" && !leadingBlank && !trailingBlank then
        if trailing.isEmpty then buf.push ' ' else buf
      else buf ++ leading
    let buf := buf ++ trailing
    let leadingBlank := isBlank (s.at? 0)
    let buf ← takeToLineEndWith (← get).bound buf
    let leading ← takeLine ""
    let (_, trailing, stop) ← blockBreaksWith start (← get).bound indent "" 0 (← here)
    blockLinesWith start literal indent fuel buf leading trailing leadingBlank stop

/-- A literal (`|`) or folded (`>`) block scalar, with its chomping and indentation indicators. -/
def fetchBlockScalar (literal : Bool) : ScanM Unit := do
  removeSimpleKey
  modify fun s => { s with keyAllowed := true }
  let start ← here
  let ctx := some ("while scanning a block scalar", start)
  advance
  let mut chomping : Int := 0
  let mut increment : Nat := 0
  let c ← ahead 0
  if c == some '+' || c == some '-' then
    chomping := if c == some '+' then 1 else -1
    advance
    let d ← ahead 0
    if d.any Char.isDigit then
      if d == some '0' then
        throw { problem := "found an indentation indicator equal to 0", mark := ← here, context := ctx }
      increment := (d.getD '0').toNat - 48
      advance
  else if c.any Char.isDigit then
    if c == some '0' then
      throw { problem := "found an indentation indicator equal to 0", mark := ← here, context := ctx }
    increment := (c.getD '0').toNat - 48
    advance
    let d ← ahead 0
    if d == some '+' || d == some '-' then
      chomping := if d == some '+' then 1 else -1
      advance
  let rec blanks : Nat → ScanM Unit
    | 0 => pure ()
    | n + 1 => do if isBlank (← ahead 0) then advance; blanks n
  blanks (← get).bound
  if (← ahead 0) == some '#' then skipToLineEndWith (← get).bound
  if !isBreakEnd (← ahead 0) then
    throw { problem := "did not find expected comment or line break", mark := ← here, context := ctx }
  if isBreak (← ahead 0) then advanceLine
  let s ← get
  let indent : Nat :=
    if increment == 0 then 0
    else if s.indent ≥ 0 then (s.indent + increment).toNat else increment
  let (indent, trailing, stop) ← blockBreaksWith start (← get).bound indent "" 0 (← here)
  let (buf, leading, trailing, stop) ←
    blockLinesWith start literal indent (← get).bound "" "" trailing false stop
  let buf := if chomping != -1 then buf ++ leading else buf
  let buf := if chomping == 1 then buf ++ trailing else buf
  enqueue (.scalar buf (if literal then .literal else .folded)) start stop

end Block

/-- Reads the next token into the queue. -/
def fetchNextToken : ScanM Unit := do
  if !(← get).started then
    fetchStreamStart
    return
  scanToNextToken
  staleSimpleKeys
  unrollIndent (← get).mark.column
  let s ← get
  let c := s.at? 0
  let c1 := s.at? 1
  let three (ch : Char) := s.at? 0 == some ch && s.at? 1 == some ch && s.at? 2 == some ch
  if isEnd c then fetchStreamEnd
  else if s.mark.column == 0 && c == some '%' then fetchDirective
  else if s.mark.column == 0 && three '-' && isBlankEnd (s.at? 3) then
    fetchDocumentIndicator .documentStart
  else if s.mark.column == 0 && three '.' && isBlankEnd (s.at? 3) then
    fetchDocumentIndicator .documentEnd
  else if c == some '[' then fetchFlowCollectionStart .flowSequenceStart
  else if c == some '{' then fetchFlowCollectionStart .flowMappingStart
  else if c == some ']' then fetchFlowCollectionEnd .flowSequenceEnd
  else if c == some '}' then fetchFlowCollectionEnd .flowMappingEnd
  else if c == some ',' then fetchFlowEntry
  else if c == some '-' && isBlankEnd c1 then fetchBlockEntry
  else if c == some '?' && (s.flowLevel > 0 || isBlankEnd c1) then fetchKey
  else if c == some ':' && (s.flowLevel > 0 || isBlankEnd c1) then fetchValue
  else if c == some '*' then fetchAnchor true
  else if c == some '&' then fetchAnchor false
  else if c == some '!' then fetchTag
  else if c == some '|' && s.flowLevel == 0 then fetchBlockScalar true
  else if c == some '>' && s.flowLevel == 0 then fetchBlockScalar false
  else if c == some '\'' then fetchFlowScalar true
  else if c == some '"' then fetchFlowScalar false
  else if !(isBlankEnd c || isOneOf c "-?:,[]\x7b\x7d#&*!|>'\"%@`") || (c == some '-' && !isBlank c1) ||
      (s.flowLevel == 0 && (c == some '?' || c == some ':') && !isBlankEnd c1) then
    fetchPlainScalar
  else
    failHere (some ("while scanning for the next token", s.mark))
      "found character that cannot start any token"

/-- Reads tokens until the head of the queue is settled: the queue is not empty and no possible
key can still put a token before its head. -/
def fetchMoreTokensWith : Nat → ScanM Unit
  | 0 => pure ()
  | fuel + 1 => do
    let s ← get
    let need ← if s.queue.isEmpty then pure true else do
      staleSimpleKeys
      let s ← get
      pure (s.keys.any fun k => k.possible && k.tokenNumber == s.taken)
    if need then
      fetchNextToken
      fetchMoreTokensWith fuel

/-- The next token, without taking it. -/
def peekToken : ScanM Token := do
  let s ← get
  if !s.available then
    fetchMoreTokensWith (s.bound + 4)
    modify fun s => { s with available := true }
  match (← get).queue with
  | t :: _ => pure t
  | [] => pure ⟨.streamEnd, (← get).mark, (← get).mark⟩

/-- Takes the head token. -/
def skipToken : ScanM Unit :=
  modify fun s => { s with queue := s.queue.drop 1, taken := s.taken + 1, available := false }

end KeyMidi.Yaml
