import KeyMidi.Yaml.Event
import KeyMidi.Yaml.Token.Read
/-!
# Reading events from tokens

The event reader is a state machine over the token stream. Its state says what the grammar
expects next (a node, a sequence entry, a mapping key or value, in block or flow context); a
stack remembers where to return after a nested node, and a second stack the marks where open
collections began, for problem reports.

`Yaml.events` runs it over a whole text and returns the events read before the end of the
stream or before the first problem, together with that problem.
-/

namespace KeyMidi.Yaml

/-- What the grammar expects next. -/
inductive Expect where
  | streamStart
  | implicitDocumentStart
  | documentStart
  | documentContent
  | documentEnd
  | blockNode
  | blockNodeOrIndentlessSequence
  | flowNode
  | blockSequenceFirstEntry
  | blockSequenceEntry
  | indentlessSequenceEntry
  | blockMappingFirstKey
  | blockMappingKey
  | blockMappingValue
  | flowSequenceFirstEntry
  | flowSequenceEntry
  | flowSequenceEntryMappingKey
  | flowSequenceEntryMappingValue
  | flowSequenceEntryMappingEnd
  | flowMappingFirstKey
  | flowMappingKey
  | flowMappingValue
  | flowMappingEmptyValue
  | finished
  deriving Repr, DecidableEq, Inhabited

/-- The state of the event reader. -/
structure Reader where
  scanner : Scanner
  expect : Expect := .streamStart
  returns : List Expect := []
  marks : List Mark := []
  /-- The tag handles of the document and the prefixes they stand for. -/
  handles : List (String × List UInt8) := []
  deriving Inhabited

/-- Event reading: a state and a syntax problem. -/
abbrev ReadM := StateT Reader (Except Problem)

/-- Runs a token-reader step on the reader's scanner. -/
def liftScan {α : Type} (m : ScanM α) : ReadM α := do
  let r ← get
  match m.run r.scanner with
  | .ok (a, sc) => set { r with scanner := sc }; pure a
  | .error e => throw e

/-- The next token. -/
def peek : ReadM Token := liftScan peekToken

/-- Takes the next token. -/
def skip : ReadM Unit := liftScan skipToken

/-- Continues with `e`. -/
def expecting (e : Expect) : ReadM Unit := modify fun r => { r with expect := e }

/-- Remembers where to return after a nested node. -/
def pushReturn (e : Expect) : ReadM Unit := modify fun r => { r with returns := e :: r.returns }

/-- Returns to the state remembered last. -/
def popReturn : ReadM Unit :=
  modify fun r => match r.returns with
    | e :: rest => { r with expect := e, returns := rest }
    | [] => { r with expect := .finished }

/-- Remembers where a collection began. -/
def pushMark (m : Mark) : ReadM Unit := modify fun r => { r with marks := m :: r.marks }

/-- Forgets the mark of the innermost collection and returns it. -/
def popMark : ReadM Mark := do
  let r ← get
  match r.marks with
  | m :: rest => set { r with marks := rest }; pure m
  | [] => pure {}

/-- A syntax problem with its context. -/
def failAt {α : Type} (context : String) (contextMark : Mark) (problem : String) (mark : Mark) :
    ReadM α :=
  throw { problem, mark, context := some (context, contextMark) }

/-- An empty plain scalar at a mark. -/
def emptyScalar (m : Mark) : Event := ⟨.scalar none none "" .plain, m⟩

/-- Bytes up to the first zero byte, where a tag's text ends. -/
def untilZero (bytes : List UInt8) : List UInt8 := bytes.takeWhile (· != 0)

/-- The tag a handle and suffix stand for: the prefix of the handle followed by the suffix. -/
def resolveTag (handle : String) (suffix : List UInt8) (start tagMark : Mark) : ReadM Tag := do
  if handle.isEmpty then return ⟨untilZero suffix⟩
  match (← get).handles.lookup handle with
  | some pfx => return ⟨untilZero pfx ++ untilZero suffix⟩
  | none => failAt "while parsing a node" start "found undefined tag handle" tagMark

/-- Reads a node: an alias, or a scalar or collection with its properties. -/
def parseNode (block indentlessSequence : Bool) : ReadM Event := do
  let tok ← peek
  match tok.kind with
  | .alias name =>
    popReturn
    skip
    return ⟨.alias name, tok.start⟩
  | _ =>
    let mut start := tok.start
    let mut anchor : Option String := none
    let mut tag : Option (String × List UInt8 × Mark) := none
    let mut tok := tok
    match tok.kind with
    | .anchor name =>
      anchor := some name
      skip
      tok ← peek
      if let .tag h s := tok.kind then
        tag := some (h, s, tok.start)
        skip
        tok ← peek
    | .tag h s =>
      tag := some (h, s, tok.start)
      skip
      tok ← peek
      if let .anchor name := tok.kind then
        anchor := some name
        skip
        tok ← peek
    | _ => pure ()
    let tagName ← match tag with
      | some (h, s, m) => do pure (some (← resolveTag h s start m))
      | none => pure none
    if indentlessSequence && tok.kind == .blockEntry then
      expecting .indentlessSequenceEntry
      return ⟨.sequenceStart anchor tagName false, start⟩
    match tok.kind with
    | .scalar text style =>
      popReturn
      skip
      return ⟨.scalar anchor tagName text style, start⟩
    | .flowSequenceStart =>
      expecting .flowSequenceFirstEntry
      return ⟨.sequenceStart anchor tagName true, start⟩
    | .flowMappingStart =>
      expecting .flowMappingFirstKey
      return ⟨.mappingStart anchor tagName true, start⟩
    | .blockSequenceStart =>
      if block then
        expecting .blockSequenceFirstEntry
        return ⟨.sequenceStart anchor tagName false, start⟩
    | .blockMappingStart =>
      if block then
        expecting .blockMappingFirstKey
        return ⟨.mappingStart anchor tagName false, start⟩
    | _ => pure ()
    if anchor.isSome || tagName.isSome then
      popReturn
      return ⟨.scalar anchor tagName "" .plain, start⟩
    failAt (if block then "while parsing a block node" else "while parsing a flow node") start
      "did not find expected node content" tok.start

/-- Reads the `%YAML` and `%TAG` directives of a document: one version at most, of YAML 1.1 or
1.2, and each handle once. -/
def directivesWith : Nat → Bool → ReadM Unit
  | 0, _ => pure ()
  | fuel + 1, versionSeen => do
    let tok ← peek
    match tok.kind with
    | .versionDirective major minor =>
      if versionSeen then throw { problem := "found duplicate %YAML directive", mark := tok.start }
      if major != 1 || (minor != 1 && minor != 2) then
        throw { problem := "found incompatible YAML document", mark := tok.start }
      skip
      directivesWith fuel true
    | .tagDirective handle pfx =>
      if ((← get).handles.lookup handle).isSome then
        throw { problem := "found duplicate %TAG directive", mark := tok.start }
      modify fun r => { r with handles := r.handles ++ [(handle, pfx)] }
      skip
      directivesWith fuel versionSeen
    | _ => pure ()

/-- Reads the directives of a document, then adds the handles every document has, `!` and `!!`,
unless the directives gave them. -/
def processDirectives : ReadM Unit := do
  directivesWith ((← get).scanner.bound) false
  for (handle, pfx) in [("!", "!"), ("!!", "tag:yaml.org,2002:")] do
    if ((← get).handles.lookup handle).isNone then
      modify fun r => { r with handles := r.handles ++ [(handle, pfx.toUTF8.toList)] }

/-- Starts a document, implicitly or at `---`, or ends the stream. -/
def parseDocumentStart (implicit : Bool) : ReadM Event := do
  if !implicit then
    let rec extraEnds : Nat → ReadM Unit
      | 0 => pure ()
      | n + 1 => do
        if (← peek).kind == .documentEnd then skip; extraEnds n
    extraEnds ((← get).scanner.bound)
  let tok ← peek
  let isDirective := match tok.kind with
    | .versionDirective _ _ | .tagDirective _ _ => true
    | _ => false
  if implicit && !isDirective && tok.kind != .documentStart && tok.kind != .streamEnd then
    processDirectives
    pushReturn .documentEnd
    expecting .blockNode
    return ⟨.documentStart true, tok.start⟩
  else if tok.kind != .streamEnd then
    let start := tok.start
    processDirectives
    let tok ← peek
    if tok.kind != .documentStart then
      throw { problem := "did not find expected <document start>", mark := tok.start }
    pushReturn .documentEnd
    expecting .documentContent
    skip
    return ⟨.documentStart false, start⟩
  else
    expecting .finished
    skip
    return ⟨.streamEnd, tok.start⟩

/-- The next event. -/
def nextEvent : ReadM Event := do
  match (← get).expect with
  | .streamStart =>
    let tok ← peek
    expecting .implicitDocumentStart
    skip
    return ⟨.streamStart, tok.start⟩
  | .implicitDocumentStart => parseDocumentStart true
  | .documentStart => parseDocumentStart false
  | .documentContent =>
    let tok ← peek
    match tok.kind with
    | .versionDirective _ _ | .tagDirective _ _ | .documentStart | .documentEnd | .streamEnd =>
      popReturn
      return emptyScalar tok.start
    | _ => parseNode true false
  | .documentEnd =>
    let tok ← peek
    if tok.kind == .documentEnd then skip
    modify fun r => { r with handles := [] }
    expecting .documentStart
    return ⟨.documentEnd, tok.start⟩
  | .blockNode => parseNode true false
  | .blockNodeOrIndentlessSequence => parseNode true true
  | .flowNode => parseNode false false
  | .blockSequenceFirstEntry =>
    pushMark (← peek).start
    skip
    blockSequenceEntry
  | .blockSequenceEntry => blockSequenceEntry
  | .indentlessSequenceEntry =>
    let tok ← peek
    if tok.kind == .blockEntry then
      let m := tok.stop
      skip
      let tok ← peek
      match tok.kind with
      | .blockEntry | .key | .value | .blockEnd =>
        expecting .indentlessSequenceEntry
        return emptyScalar m
      | _ =>
        pushReturn .indentlessSequenceEntry
        parseNode true false
    else
      popReturn
      return ⟨.sequenceEnd, tok.start⟩
  | .blockMappingFirstKey =>
    pushMark (← peek).start
    skip
    blockMappingKey
  | .blockMappingKey => blockMappingKey
  | .blockMappingValue =>
    let tok ← peek
    if tok.kind == .value then
      let m := tok.stop
      skip
      let tok ← peek
      match tok.kind with
      | .key | .value | .blockEnd =>
        expecting .blockMappingKey
        return emptyScalar m
      | _ =>
        pushReturn .blockMappingKey
        parseNode true true
    else
      expecting .blockMappingKey
      return emptyScalar tok.start
  | .flowSequenceFirstEntry =>
    pushMark (← peek).start
    skip
    flowSequenceEntry true
  | .flowSequenceEntry => flowSequenceEntry false
  | .flowSequenceEntryMappingKey =>
    let tok ← peek
    match tok.kind with
    | .value | .flowEntry | .flowSequenceEnd =>
      -- the token that shows the key is empty is taken along with it
      skip
      expecting .flowSequenceEntryMappingValue
      return emptyScalar tok.stop
    | _ =>
      pushReturn .flowSequenceEntryMappingValue
      parseNode false false
  | .flowSequenceEntryMappingValue =>
    let tok ← peek
    if tok.kind == .value then
      skip
      let tok ← peek
      match tok.kind with
      | .flowEntry | .flowSequenceEnd =>
        expecting .flowSequenceEntryMappingEnd
        return emptyScalar tok.start
      | _ =>
        pushReturn .flowSequenceEntryMappingEnd
        parseNode false false
    else
      expecting .flowSequenceEntryMappingEnd
      return emptyScalar tok.start
  | .flowSequenceEntryMappingEnd =>
    let tok ← peek
    expecting .flowSequenceEntry
    return ⟨.mappingEnd, tok.start⟩
  | .flowMappingFirstKey =>
    pushMark (← peek).start
    skip
    flowMappingKey true
  | .flowMappingKey => flowMappingKey false
  | .flowMappingValue => flowMappingValue false
  | .flowMappingEmptyValue => flowMappingValue true
  | .finished => return ⟨.streamEnd, (← get).scanner.mark⟩
where
  /-- An entry of a block sequence, or its end. -/
  blockSequenceEntry : ReadM Event := do
    let tok ← peek
    match tok.kind with
    | .blockEntry =>
      let m := tok.stop
      skip
      let tok ← peek
      match tok.kind with
      | .blockEntry | .blockEnd =>
        expecting .blockSequenceEntry
        return emptyScalar m
      | _ =>
        pushReturn .blockSequenceEntry
        parseNode true false
    | .blockEnd =>
      popReturn
      let _ ← popMark
      skip
      return ⟨.sequenceEnd, tok.start⟩
    | _ =>
      failAt "while parsing a block collection" (← popMark) "did not find expected '-' indicator"
        tok.start
  /-- A key of a block mapping, or its end. -/
  blockMappingKey : ReadM Event := do
    let tok ← peek
    match tok.kind with
    | .key =>
      let m := tok.stop
      skip
      let tok ← peek
      match tok.kind with
      | .key | .value | .blockEnd =>
        expecting .blockMappingValue
        return emptyScalar m
      | _ =>
        pushReturn .blockMappingValue
        parseNode true true
    | .blockEnd =>
      popReturn
      let _ ← popMark
      skip
      return ⟨.mappingEnd, tok.start⟩
    | _ =>
      failAt "while parsing a block mapping" (← popMark) "did not find expected key" tok.start
  /-- An entry of a flow sequence, or its end. -/
  flowSequenceEntry (first : Bool) : ReadM Event := do
    let mut tok ← peek
    if tok.kind != .flowSequenceEnd then
      if !first then
        if tok.kind == .flowEntry then
          skip
          tok ← peek
        else
          failAt "while parsing a flow sequence" (← popMark) "did not find expected ',' or ']'"
            tok.start
      if tok.kind == .key then
        expecting .flowSequenceEntryMappingKey
        skip
        return ⟨.mappingStart none none true, tok.start⟩
      else if tok.kind != .flowSequenceEnd then
        pushReturn .flowSequenceEntry
        return ← parseNode false false
    popReturn
    let _ ← popMark
    skip
    return ⟨.sequenceEnd, tok.start⟩
  /-- A key of a flow mapping, or its end. -/
  flowMappingKey (first : Bool) : ReadM Event := do
    let mut tok ← peek
    if tok.kind != .flowMappingEnd then
      if !first then
        if tok.kind == .flowEntry then
          skip
          tok ← peek
        else
          failAt "while parsing a flow mapping" (← popMark) "did not find expected ',' or '\x7d'"
            tok.start
      if tok.kind == .key then
        skip
        let next ← peek
        match next.kind with
        | .value | .flowEntry | .flowMappingEnd =>
          expecting .flowMappingValue
          return emptyScalar next.start
        | _ =>
          pushReturn .flowMappingValue
          return ← parseNode false false
      else if tok.kind != .flowMappingEnd then
        pushReturn .flowMappingEmptyValue
        return ← parseNode false false
    popReturn
    let _ ← popMark
    skip
    return ⟨.mappingEnd, tok.start⟩
  /-- A value of a flow mapping. -/
  flowMappingValue (empty : Bool) : ReadM Event := do
    let tok ← peek
    if empty then
      expecting .flowMappingKey
      return emptyScalar tok.start
    if tok.kind == .value then
      skip
      let tok ← peek
      match tok.kind with
      | .flowEntry | .flowMappingEnd =>
        expecting .flowMappingKey
        return emptyScalar tok.start
      | _ =>
        pushReturn .flowMappingKey
        return ← parseNode false false
    expecting .flowMappingKey
    return emptyScalar tok.start

/-- Reads events up to the end of the stream or the first problem. -/
def eventsWith : Nat → Reader → List Event → List Event × Option Problem
  | 0, _, acc => (acc.reverse, none)
  | fuel + 1, r, acc =>
    match nextEvent.run r with
    | .error e => (acc.reverse, some e)
    | .ok (ev, r') =>
      if ev.kind == .streamEnd then ((ev :: acc).reverse, none)
      else eventsWith fuel r' (ev :: acc)

/-- The characters YAML text may hold: tab, line breaks, printable ASCII, next-line, and the
non-control characters beyond, but for the two non-characters at the end of the basic plane. -/
def isAllowedChar (c : Char) : Bool :=
  let v := c.toNat
  v == 0x09 || v == 0x0A || v == 0x0D || (0x20 ≤ v && v ≤ 0x7E) || v == 0x85 ||
    (0xA0 ≤ v && v ≤ 0xD7FF) || (0xE000 ≤ v && v ≤ 0xFFFD) || 0x10000 ≤ v

/-- The byte offset of the first character that YAML text may not hold, if any. -/
def firstForbidden (text : String) : Option Nat :=
  let step (acc : Nat × Option Nat) (c : Char) : Nat × Option Nat :=
    match acc with
    | (_, some at_) => (0, some at_)
    | (off, none) => if isAllowedChar c then (off + c.utf8Size, none) else (off, some off)
  (text.toList.foldl step (0, none)).2

/-- The events of a text, and the problem that stopped reading, if any. The whole text is decoded
before anything is read, so a forbidden character anywhere stops reading at once. -/
def events (text : String) : List Event × Option Problem :=
  match firstForbidden text with
  | some off => ([], some { problem := "control characters are not allowed", mark := {}, offset := off })
  | none =>
    let chars := text.toList.toArray
    eventsWith (4 * chars.size + 16) { scanner := { text := chars } } []

end KeyMidi.Yaml
