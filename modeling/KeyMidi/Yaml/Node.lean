import KeyMidi.Yaml.Event.Read
/-!
# Documents as node trees

The events of the first document are gathered into a tree of nodes. Aliases stay in the tree,
and the document keeps the nodes their anchors name. Reading stops at the first syntax problem, so a tree may be cut short:
a collection cut short records the fault met where its next entry should have been, and a node
that never came is itself a fault. Whoever reads the tree meets the fault exactly when it asks
for data that lies past the problem, and not before.
-/

namespace KeyMidi.Yaml

/-- What stops data from being read out of a document. -/
inductive Fault where
  /-- A syntax problem of the text. -/
  | malformed (p : Problem)
  /-- An alias to an anchor that was not defined before it. -/
  | unknownAnchor (mark : Mark)
  /-- The document ended where a value was expected. -/
  | endOfStream
  /-- The text holds more than one document. -/
  | moreDocuments
  /-- Collections nested too deep, at the one that is one too many. -/
  | recursionLimit (mark : Mark)
  /-- Aliases followed too often for the size of the document. -/
  | repetitionLimit
  /-- Data of the wrong shape, with the mark and path of the value concerned. -/
  | message (text : String) (pos : Option (Mark × String))
  deriving Repr, Inhabited

/-- A text followed by its mark, unless the mark is the start of the text. -/
def withMark (text : String) (m : Mark) : String :=
  if m.isStart then text else text ++ " at " ++ m.describe

/-- The text of a fault: a message is preceded by its path (unless it is the root) and
followed by its mark (unless at the start of the text). -/
def Fault.describe : Fault → String
  | .malformed p => p.describe
  | .unknownAnchor m => withMark "unknown anchor" m
  | .endOfStream => "EOF while parsing a value"
  | .moreDocuments => "deserializing from YAML containing more than one document is not supported"
  | .recursionLimit m => withMark "recursion limit exceeded" m
  | .repetitionLimit => "repetition limit exceeded"
  | .message text none => text
  | .message text (some (m, path)) => withMark (if path == "." then text else path ++ ": " ++ text) m

/-- A node of a document. -/
inductive Node where
  | scalar (text : String) (style : ScalarStyle) (tag : Option Tag) (mark : Mark)
  /-- A sequence; `stop` is the fault met in place of its end, if any. -/
  | seq (items : List Node) (stop : Option Fault) (tag : Option Tag) (mark : Mark)
  /-- A mapping; `stop` is the fault met in place of its next key, if any. -/
  | map (entries : List (Node × Node)) (stop : Option Fault) (tag : Option Tag) (mark : Mark)
  /-- An alias, by the number its anchor was given. -/
  | alias (id : Nat) (mark : Mark)
  /-- The document was empty. -/
  | void (mark : Mark)
  /-- A node that could not be read. -/
  | fault (f : Fault)
  deriving Repr, Inhabited

/-- Where a node starts. -/
def Node.mark : Node → Mark
  | .scalar _ _ _ m => m
  | .seq _ _ _ m => m
  | .map _ _ _ m => m
  | .alias _ m => m
  | .void m => m
  | .fault _ => {}

/-! ## Anchors

An anchor is given a number when it is defined: the number of distinct anchor names defined
before it. A name defined again keeps its place among the names, so its new number is the one
the next new name will also get, and the node of that number is the last one defined with it.
An alias keeps the number its name had when the alias was read, and means the node of that
number once the whole document has been read. -/

/-- The state of tree building: the events left, how many were taken, the numbers of the anchor
names, and the fault that running out of events means. Each anchored node is counted as it
begins; `starts` gives each number the count of the node that took it (the latest first), and
`nodes` the node of each count, once complete. -/
structure Builder where
  rest : List Event
  taken : Nat := 0
  names : List (String × Nat) := []
  counted : Nat := 0
  starts : List (Nat × Nat) := []
  nodes : List (Nat × Node) := []
  cut : Fault

/-- Takes the next event. -/
def Builder.next (b : Builder) (rest : List Event) : Builder := { b with rest, taken := b.taken + 1 }

/-- Gives an anchor name its number as the node that carries it begins, and counts the node. -/
def Builder.name (b : Builder) (anchor : Option String) : Builder × Option Nat :=
  match anchor with
  | some a =>
    let id := b.names.length
    let names := if b.names.any (·.1 == a) then b.names.map fun e => if e.1 == a then (a, id) else e
      else b.names ++ [(a, id)]
    ({ b with names, counted := b.counted + 1, starts := (id, b.counted) :: b.starts },
      some b.counted)
  | none => (b, none)

/-- Records a counted node, once it is complete. -/
def Builder.define (b : Builder) (count : Option Nat) (n : Node) : Builder :=
  match count with
  | some c => { b with nodes := (c, n) :: b.nodes }
  | none => b

/-- The node each anchor number stands for: the last node that took the number. -/
def Builder.anchors (b : Builder) : List (Nat × Node) :=
  b.starts.filterMap fun (id, c) => (b.nodes.lookup c).map fun n => (id, n)

mutual

/-- Builds one node from the events. -/
def Builder.node : Nat → Builder → Node × Builder
  | 0, b => (.fault b.cut, b)
  | fuel + 1, b =>
    match b.rest with
    | [] => (.fault b.cut, b)
    | e :: rest =>
      match e.kind with
      | .alias name =>
        match b.names.lookup name with
        | some id => (.alias id e.start, b.next rest)
        | none =>
          let f := Fault.unknownAnchor e.start
          (.fault f, { b with rest := [], cut := f })
      | .scalar anchor tag text style =>
        let (b, id) := (b.next rest).name anchor
        let n := Node.scalar text style tag e.start
        (n, b.define id n)
      | .sequenceStart anchor tag _ =>
        let (b, id) := (b.next rest).name anchor
        let (items, stop, b) := Builder.items fuel b []
        let n := Node.seq items stop tag e.start
        (n, b.define id n)
      | .mappingStart anchor tag _ =>
        let (b, id) := (b.next rest).name anchor
        let (entries, stop, b) := Builder.entries fuel b []
        let n := Node.map entries stop tag e.start
        (n, b.define id n)
      | _ => (.fault b.cut, { b with rest := [] })

/-- Builds the items of a sequence up to its end. -/
def Builder.items : Nat → Builder → List Node → List Node × Option Fault × Builder
  | 0, b, acc => (acc.reverse, some b.cut, b)
  | fuel + 1, b, acc =>
    match b.rest with
    | [] => (acc.reverse, some b.cut, b)
    | e :: rest =>
      if e.kind == .sequenceEnd then (acc.reverse, none, b.next rest)
      else
        let (n, b) := Builder.node fuel b
        Builder.items fuel b (n :: acc)

/-- Builds the entries of a mapping up to its end. -/
def Builder.entries : Nat → Builder → List (Node × Node) → List (Node × Node) × Option Fault × Builder
  | 0, b, acc => (acc.reverse, some b.cut, b)
  | fuel + 1, b, acc =>
    match b.rest with
    | [] => (acc.reverse, some b.cut, b)
    | e :: rest =>
      if e.kind == .mappingEnd then (acc.reverse, none, b.next rest)
      else
        let (k, b) := Builder.node fuel b
        match k with
        | .fault f => (acc.reverse, some f, b)
        | _ =>
          let (v, b) := Builder.node fuel b
          Builder.entries fuel b ((k, v) :: acc)

end

/-- The first document of a text: its root node, the nodes its anchors stand for, how many
events it has, the fault met after the root inside the document, if any, and whether another
document follows. -/
structure Document where
  root : Node
  anchors : List (Nat × Node) := []
  eventCount : Nat := 1
  trailing : Option Fault
  more : Bool
  deriving Inhabited

/-- Reads the first document of a text. An empty stream is an empty document. -/
def Document.read (text : String) : Document :=
  let (evs, problem) := events text
  let cut : Fault := match problem with
    | some p => .malformed p
    | none => .endOfStream
  let evs := evs.drop 1
  match evs with
  | [] => { root := .fault cut, trailing := none, more := false }
  | e :: rest =>
    match e.kind with
    | .streamEnd => { root := .void e.start, trailing := none, more := false }
    | _ =>
      let b : Builder := { rest, cut }
      let (root, b) := Builder.node (evs.length + 1) b
      let doc : Document := { root, anchors := b.anchors, eventCount := b.taken, trailing := none,
                              more := false }
      match b.rest with
      | [] => { doc with trailing := some b.cut }
      | d :: after =>
        if d.kind == .documentEnd then
          match after with
          | [] => { doc with more := true }
          | n :: _ => { doc with more := n.kind != .streamEnd }
        else { doc with more := true }

end KeyMidi.Yaml
