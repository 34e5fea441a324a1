import CryptoSurvey.Yaml.Token

namespace CryptoSurvey.Yaml

inductive Node where
  | scalar (text : String) (style : ScalarStyle) (tag : Option String)
  | sequence (items : List Node)
  | mapping (pairs : List (Node × Node))
  | alias (number : Nat)
  deriving Inhabited

def Node.absent : Node :=
  .scalar "" .plain none

mutual

/-- The number of steps in which a node is written: one for a scalar or an alias, and two more than its
content for a collection. -/
def Node.steps : Node → Nat
  | .scalar _ _ _ => 1
  | .sequence items => 2 + Node.stepsOfItems items
  | .mapping pairs => 2 + Node.stepsOfPairs pairs
  | .alias _ => 1

def Node.stepsOfItems : List Node → Nat
  | [] => 0
  | n :: rest => n.steps + Node.stepsOfItems rest

def Node.stepsOfPairs : List (Node × Node) → Nat
  | [] => 0
  | (key, value) :: rest => key.steps + value.steps + Node.stepsOfPairs rest

end

structure Document where
  root : Node
  /-- Numbers of anchored nodes, the node that starts last first; that one has the number. -/
  anchored : List (Nat × Node) := []

structure Builder where
  tokens : List Token
  /-- The handles of tags that directives declare. -/
  handles : List (String × String)
  /-- The number that each name of an anchor has at present. -/
  names : List (String × Nat) := []
  /-- The anchored nodes so far, the one that starts last first; an open node has no value yet. -/
  anchored : List (Nat × Option Node) := []

namespace Builder

def peek (b : Builder) : Token :=
  b.tokens.head?.getD .streamEnd

def drop (b : Builder) : Builder :=
  { b with tokens := b.tokens.drop 1 }

/-- Notes an anchor before its node is read. Its number is how many names there are before it, so that
a name used again gives a number that may be taken. -/
def openAnchor (b : Builder) : Option String → Builder
  | none => b
  | some name =>
    let number := b.names.length
    { b with
      names := (name, number) :: b.names.filter (·.1 != name)
      anchored := (number, none) :: b.anchored }

/-- Gives the anchor that was noted when there were `count` before it its node. -/
def closeAnchor (b : Builder) (count : Nat) : Option String → Node → Builder
  | none, _ => b
  | some _, node =>
    { b with
      anchored := b.anchored.modify (b.anchored.length - 1 - count) fun a => (a.1, some node) }

def tagOf? (b : Builder) (handle suffix : String) : Option String :=
  if handle.isEmpty then some suffix
  else
    ((b.handles ++ [("!", "!"), ("!!", "tag:yaml.org,2002:")]).lookup handle).map (· ++ suffix)

structure Properties where
  anchor? : Option String := none
  tag? : Option String := none

def properties? (b : Builder) : Option (Properties × Builder) :=
  match b.tokens with
  | .anchor a :: .tag h s :: rest => do
    return ({ anchor? := some a, tag? := some (← b.tagOf? h s) }, { b with tokens := rest })
  | .anchor a :: rest => some ({ anchor? := some a }, { b with tokens := rest })
  | .tag h s :: .anchor a :: rest => do
    return ({ anchor? := some a, tag? := some (← b.tagOf? h s) }, { b with tokens := rest })
  | .tag h s :: rest => do
    return ({ tag? := some (← b.tagOf? h s) }, { b with tokens := rest })
  | _ => some ({}, b)

def bare? (b : Builder) (ps : Properties) : Option (Node × Builder) :=
  if ps.anchor?.isSome || ps.tag?.isSome then some (.scalar "" .plain ps.tag?, b) else none

end Builder

/-- Where a node stands, which decides what it can be: in a block collection, as the key or value of
a block mapping, or in a flow collection. -/
inductive Context where
  | block
  | blockPair
  | flow
  deriving DecidableEq

mutual

/-- Reads a node; every step of reading takes at least one token or ends a collection. -/
def nodeFrom : Nat → Context → Builder → Option (Node × Builder)
  | 0, _, _ => none
  | fuel + 1, context, b =>
    match b.tokens with
    | .alias name :: rest => do
      return (.alias (← b.names.lookup name), { b with tokens := rest })
    | _ => do
      let (ps, b) ← b.properties?
      let count := b.anchored.length
      let b := b.openAnchor ps.anchor?
      let (node, b) ← contentFrom fuel context ps b
      return (node, b.closeAnchor count ps.anchor? node)

def contentFrom : Nat → Context → Builder.Properties → Builder → Option (Node × Builder)
  | 0, _, _, _ => none
  | fuel + 1, context, ps, b =>
    let block := context != .flow
    match b.peek with
    | .scalar text style =>
      -- A lone exclamation mark says as much as no tag.
      some (.scalar text style (ps.tag?.filter (· != "!")), b.drop)
    | .flowSequenceStart => do
      let (items, b) ← flowItemsFrom fuel true b.drop
      return (.sequence items, b)
    | .flowMappingStart => do
      let (pairs, b) ← flowPairsFrom fuel true b.drop
      return (.mapping pairs, b)
    | .entry =>
      if context == .blockPair then do
        let (items, b) ← looseItemsFrom fuel b
        return (.sequence items, b)
      else b.bare? ps
    | .sequenceStart =>
      if block then do
        let (items, b) ← itemsFrom fuel b.drop
        return (.sequence items, b)
      else b.bare? ps
    | .mappingStart =>
      if block then do
        let (pairs, b) ← pairsFrom fuel b.drop
        return (.mapping pairs, b)
      else b.bare? ps
    | _ => b.bare? ps

def itemsFrom : Nat → Builder → Option (List Node × Builder)
  | 0, _ => none
  | fuel + 1, b =>
    match b.peek with
    | .entry => do
      let b := b.drop
      let (node, b) ← match b.peek with
        | .entry | .blockEnd => some (.absent, b)
        | _ => nodeFrom fuel .block b
      let (nodes, b) ← itemsFrom fuel b
      return (node :: nodes, b)
    | .blockEnd => some ([], b.drop)
    | _ => none

/-- Reads the entries of a block sequence that is indented as little as the mapping around it. -/
def looseItemsFrom : Nat → Builder → Option (List Node × Builder)
  | 0, _ => none
  | fuel + 1, b =>
    match b.peek with
    | .entry => do
      let b := b.drop
      let (node, b) ← match b.peek with
        | .entry | .key | .value | .blockEnd => some (.absent, b)
        | _ => nodeFrom fuel .block b
      let (nodes, b) ← looseItemsFrom fuel b
      return (node :: nodes, b)
    | _ => some ([], b)

def pairsFrom : Nat → Builder → Option (List (Node × Node) × Builder)
  | 0, _ => none
  | fuel + 1, b =>
    match b.peek with
    | .key => do
      let (key, b) ← pairPartFrom fuel b.drop
      let (value, b) ← match b.peek with
        | .value => pairPartFrom fuel b.drop
        | _ => some (.absent, b)
      let (pairs, b) ← pairsFrom fuel b
      return ((key, value) :: pairs, b)
    | .blockEnd => some ([], b.drop)
    | _ => none

/-- Reads the key or the value of a block mapping, which may be left out. -/
def pairPartFrom : Nat → Builder → Option (Node × Builder)
  | 0, _ => none
  | fuel + 1, b =>
    match b.peek with
    | .key | .value | .blockEnd => some (.absent, b)
    | _ => nodeFrom fuel .blockPair b

/-- Reads the items of a flow sequence up to its end; a pair among them is a mapping of its own. -/
def flowItemsFrom : Nat → Bool → Builder → Option (List Node × Builder)
  | 0, _, _ => none
  | fuel + 1, first, b => do
    if b.peek == .flowSequenceEnd then return ([], b.drop)
    if !first && b.peek != .flowEntry then none
    let b := if first then b else b.drop
    match b.peek with
    | .flowSequenceEnd => return ([], b.drop)
    | .key => do
      let (pair, b) ← flowPairFrom fuel b.drop
      let (nodes, b) ← flowItemsFrom fuel false b
      return (.mapping [pair] :: nodes, b)
    | _ => do
      let (node, b) ← nodeFrom fuel .flow b
      let (nodes, b) ← flowItemsFrom fuel false b
      return (node :: nodes, b)

/-- Reads a pair that stands in a flow sequence. The token after a key that is left out is passed
over. -/
def flowPairFrom : Nat → Builder → Option ((Node × Node) × Builder)
  | 0, _ => none
  | fuel + 1, b => do
    let (key, b) ← match b.peek with
      | .value | .flowEntry | .flowSequenceEnd => some (.absent, b.drop)
      | _ => nodeFrom fuel .flow b
    let (value, b) ← match b.peek with
      | .value =>
        match b.drop.peek with
        | .flowEntry | .flowSequenceEnd => some (.absent, b.drop)
        | _ => nodeFrom fuel .flow b.drop
      | _ => some (.absent, b)
    return ((key, value), b)

def flowPairsFrom : Nat → Bool → Builder → Option (List (Node × Node) × Builder)
  | 0, _, _ => none
  | fuel + 1, first, b => do
    if b.peek == .flowMappingEnd then return ([], b.drop)
    if !first && b.peek != .flowEntry then none
    let b := if first then b else b.drop
    match b.peek with
    | .flowMappingEnd => return ([], b.drop)
    | .key => do
      let b := b.drop
      let (key, b) ← match b.peek with
        | .value | .flowEntry | .flowMappingEnd => some (.absent, b)
        | _ => nodeFrom fuel .flow b
      let (value, b) ← match b.peek with
        | .value =>
          match b.drop.peek with
          | .flowEntry | .flowMappingEnd => some (.absent, b.drop)
          | _ => nodeFrom fuel .flow b.drop
        | _ => some (.absent, b)
      let (pairs, b) ← flowPairsFrom fuel false b
      return ((key, value) :: pairs, b)
    | _ => do
      let (key, b) ← nodeFrom fuel .flow b
      let (pairs, b) ← flowPairsFrom fuel false b
      return ((key, .absent) :: pairs, b)

end

namespace Document

/-- Reads the directives before a document: one version at most, and no tag handle twice. -/
def directives? (version : Bool) (handles : List (String × String)) :
    List Token → Option (List (String × String) × List Token)
  | .version major minor :: rest =>
    if version || major != 1 || !(minor == 1 || minor == 2) then none
    else directives? true handles rest
  | .tagDirective handle meaning :: rest =>
    if (handles.lookup handle).isSome then none
    else directives? version ((handle, meaning) :: handles) rest
  | tokens => some (handles, tokens)

def endsStream (tokens : List Token) : Bool :=
  tokens.dropWhile (· == .documentEnd) == [.streamEnd]

/-- The only document of a list of tokens; there may be none. -/
def ofTokens? (tokens : List Token) : Option (Option Document) := do
  if tokens == [.streamEnd] then return none
  let (handles, tokens) ← match tokens with
    | .version _ _ :: _ | .tagDirective _ _ :: _ | .documentStart :: _ => do
      let (handles, tokens) ← directives? false [] tokens
      match tokens with
      | .documentStart :: rest => pure (handles, Sum.inl rest)
      | _ => none
    | _ => pure ([], Sum.inr tokens)
  let fuel := 4 * (tokens.elim List.length List.length + 1)
  let (node, b) ← match tokens with
    | .inl rest =>
      match rest.head? with
      | some (.version _ _) | some (.tagDirective _ _) | some .documentStart | some .documentEnd
      | some .streamEnd => some (.absent, { tokens := rest, handles })
      | _ => nodeFrom fuel .block { tokens := rest, handles }
    | .inr rest => nodeFrom fuel .block { tokens := rest, handles }
  let anchored := b.anchored.filterMap fun a => a.2.map (a.1, ·)
  if endsStream b.tokens then return some { root := node, anchored } else none

def parse? (text : String) : Option (Option Document) := do
  ofTokens? (← Token.ofText? text)

end Document

end CryptoSurvey.Yaml
