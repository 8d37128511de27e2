import Highlighter.Yaml.Token

namespace Highlighter.Yaml

/-- What may stand in front of a node. -/
structure Properties where
  anchor : Option String := none
  tag : Option String := none
deriving DecidableEq, Repr

inductive Tree where
  | scalar (properties : Properties) (plain : Bool) (text : String)
  | sequence (properties : Properties) (items : List Tree)
  | mapping (properties : Properties) (entries : List (Tree × Tree))
  | alias (name : String)

namespace Tree

/-- What stands where nothing is written. -/
def absent : Tree := .scalar {} true ""

/-- What a tag is short for. -/
def expandTag (handles : List (String × String)) (handle suffix : String) : Except Problem String :=
  if handle.isEmpty then .ok suffix
  else
    match handles.lookup handle with
    | some expansion => .ok (expansion ++ suffix)
    | none => .error .tagHandle

def properties (handles : List (String × String)) : List Token → Except Problem (Properties × List Token)
  | .anchor name :: .tag handle suffix :: rest | .tag handle suffix :: .anchor name :: rest => do
    return (⟨some name, some (← expandTag handles handle suffix)⟩, rest)
  | .anchor name :: rest => .ok (⟨some name, none⟩, rest)
  | .tag handle suffix :: rest => do return (⟨none, some (← expandTag handles handle suffix)⟩, rest)
  | rest => .ok ({}, rest)

/-- Whether the next token is one of those given. -/
def nextIs (tokens : List Token) (rest : List Token) : Bool := rest.head?.any tokens.contains

mutual

/-- A node. Blocks may begin where `inBlock` holds; where `indentless` does, a block sequence that stands no deeper
than the key it belongs to. -/
def node (handles : List (String × String)) : Nat → (inBlock indentless : Bool) → List Token →
    Except Problem (Tree × List Token)
  | 0, _, _, _ => .error .contentExpected
  | _ + 1, _, _, .alias name :: rest => .ok (.alias name, rest)
  | fuel + 1, inBlock, indentless, tokens => do
    let (properties, rest) ← properties handles tokens
    if indentless && nextIs [.blockEntry] rest then
      let (items, rest) ← indentlessItems handles fuel rest
      return (.sequence properties items, rest)
    else
      match rest with
      | .scalar plain text :: rest =>
        let tag := if properties.tag = some "!" then none else properties.tag
        return (.scalar { properties with tag } plain text, rest)
      | .flowSequence :: rest =>
        let (items, rest) ← flowItems handles fuel true rest
        return (.sequence properties items, rest)
      | .flowMapping :: rest =>
        let (entries, rest) ← flowEntries handles fuel true rest
        return (.mapping properties entries, rest)
      | .blockSequence :: rest =>
        if inBlock then
          let (items, rest) ← blockItems handles fuel rest
          return (.sequence properties items, rest)
        else empty properties (.blockSequence :: rest)
      | .blockMapping :: rest =>
        if inBlock then
          let (entries, rest) ← blockEntries handles fuel rest
          return (.mapping properties entries, rest)
        else empty properties (.blockMapping :: rest)
      | rest => empty properties rest
where
  /-- Properties may stand alone, in front of nothing. -/
  empty (properties : Properties) (rest : List Token) : Except Problem (Tree × List Token) :=
    if properties = {} then .error .contentExpected else .ok (.scalar properties true "", rest)

/-- A node, unless one of some tokens comes next. -/
def nodeUnless (handles : List (String × String)) : Nat → (stop : List Token) → (inBlock indentless : Bool) →
    List Token → Except Problem (Tree × List Token)
  | 0, _, _, _, _ => .error .contentExpected
  | fuel + 1, stop, inBlock, indentless, tokens =>
    if nextIs stop tokens then .ok (absent, tokens) else node handles fuel inBlock indentless tokens

/-- The value of an entry, if there is one. -/
def entryValue (handles : List (String × String)) : Nat → (stop : List Token) → (inBlock : Bool) → List Token →
    Except Problem (Tree × List Token)
  | fuel + 1, stop, inBlock, .value :: rest => nodeUnless handles fuel stop inBlock inBlock rest
  | _, _, _, tokens => .ok (absent, tokens)

def blockItems (handles : List (String × String)) : Nat → List Token → Except Problem (List Tree × List Token)
  | fuel + 1, .blockEntry :: rest => do
    let (item, rest) ← nodeUnless handles fuel [.blockEntry, .blockEnd] true false rest
    let (items, rest) ← blockItems handles fuel rest
    return (item :: items, rest)
  | _, .blockEnd :: rest => .ok ([], rest)
  | _, _ => .error .entryExpected

def indentlessItems (handles : List (String × String)) : Nat → List Token → Except Problem (List Tree × List Token)
  | fuel + 1, .blockEntry :: rest => do
    let (item, rest) ← nodeUnless handles fuel [.blockEntry, .key, .value, .blockEnd] true false rest
    let (items, rest) ← indentlessItems handles fuel rest
    return (item :: items, rest)
  | _, rest => .ok ([], rest)

def blockEntries (handles : List (String × String)) : Nat → List Token →
    Except Problem (List (Tree × Tree) × List Token)
  | fuel + 1, .key :: rest => do
    let (key, rest) ← nodeUnless handles fuel [.key, .value, .blockEnd] true true rest
    let (value, rest) ← entryValue handles fuel [.key, .value, .blockEnd] true rest
    let (entries, rest) ← blockEntries handles fuel rest
    return ((key, value) :: entries, rest)
  | _, .blockEnd :: rest => .ok ([], rest)
  | _, _ => .error .keyExpected

/-- The items of a sequence in brackets. An entry with a key is a mapping of its own. Where the key is left out, the
token after its mark is passed over. -/
def flowItems (handles : List (String × String)) : Nat → (first : Bool) → List Token →
    Except Problem (List Tree × List Token)
  | 0, _, _ => .error .flowEndExpected
  | _ + 1, _, .flowSequenceEnd :: rest => .ok ([], rest)
  | fuel + 1, first, tokens => do
    let rest ← if first then pure tokens else
      match tokens with
      | .flowEntry :: rest => pure rest
      | _ => throw .flowEndExpected
    match rest with
    | .flowSequenceEnd :: rest => return ([], rest)
    | .key :: rest =>
      let (key, rest) ←
        if nextIs [.value, .flowEntry, .flowSequenceEnd] rest then pure (absent, rest.drop 1)
        else node handles fuel false false rest
      let (value, rest) ← entryValue handles fuel [.flowEntry, .flowSequenceEnd] false rest
      let (items, rest) ← flowItems handles fuel false rest
      return (.mapping {} [(key, value)] :: items, rest)
    | rest =>
      let (item, rest) ← node handles fuel false false rest
      let (items, rest) ← flowItems handles fuel false rest
      return (item :: items, rest)

def flowEntries (handles : List (String × String)) : Nat → (first : Bool) → List Token →
    Except Problem (List (Tree × Tree) × List Token)
  | 0, _, _ => .error .flowEndExpected
  | _ + 1, _, .flowMappingEnd :: rest => .ok ([], rest)
  | fuel + 1, first, tokens => do
    let rest ← if first then pure tokens else
      match tokens with
      | .flowEntry :: rest => pure rest
      | _ => throw .flowEndExpected
    match rest with
    | .flowMappingEnd :: rest => return ([], rest)
    | .key :: rest =>
      let (key, rest) ← nodeUnless handles fuel [.value, .flowEntry, .flowMappingEnd] false false rest
      let (value, rest) ← entryValue handles fuel [.flowEntry, .flowMappingEnd] false rest
      let (entries, rest) ← flowEntries handles fuel false rest
      return ((key, value) :: entries, rest)
    | rest =>
      let (key, rest) ← node handles fuel false false rest
      let (entries, rest) ← flowEntries handles fuel false rest
      return ((key, absent) :: entries, rest)

end

/-- Directives in front of a document: the tag handles that they declare, each once, and at most one version. -/
def directives (handles : List (String × String)) (versioned : Bool) :
    List Token → Except Problem (List (String × String) × List Token)
  | .version major minor :: rest =>
    if versioned || major ≠ 1 || !(minor = 1 || minor = 2) then .error .directive
    else directives handles true rest
  | .tagHandle handle expansion :: rest =>
    if (handles.lookup handle).isSome then .error .directive
    else directives (handles ++ [(handle, expansion)]) versioned rest
  | rest => .ok (handles, rest)

/-- The handles that need no directive. -/
def knownHandles : List (String × String) := [("!", "!"), ("!!", "tag:yaml.org,2002:")]

/-- The root of a document, unless the text holds none. -/
def root (tokens : List Token) : Except Problem (Option Tree × List Token) := do
  let fuel := 4 * tokens.length + 4
  match tokens with
  | [] => return (none, [])
  | .version .. :: _ | .tagHandle .. :: _ | .documentStart :: _ =>
    let (handles, rest) ← directives [] false tokens
    match rest with
    | .documentStart :: rest =>
      let absentRoot : Bool := match rest with
        | [] | .version .. :: _ | .tagHandle .. :: _ | .documentStart :: _ | .documentEnd :: _ => true
        | _ => false
      if absentRoot then return (some absent, rest)
      else
        let (tree, rest) ← node (handles ++ knownHandles) fuel true false rest
        return (some tree, rest)
    | _ => throw .documentStartExpected
  | tokens =>
    let (tree, rest) ← node knownHandles fuel true false tokens
    return (some tree, rest)

/-- The only document of some tokens. -/
def ofTokens (tokens : List Token) : Except Problem (Option Tree) := do
  let (tree, rest) ← root tokens
  match rest.dropWhile (· = .documentEnd) with
  | [] => return tree
  | .version .. :: _ | .tagHandle .. :: _ | .documentStart :: _ => throw .severalDocuments
  | _ => throw .documentStartExpected

end Tree

/-- A node whose aliases are numbered. -/
inductive Node where
  | scalar (tag : Option String) (plain : Bool) (text : String)
  | sequence (items : List Node)
  | mapping (entries : List (Node × Node))
  | alias (anchor : Nat)

/-- The numbers of the anchors met so far, by name. -/
abbrev Anchors := List (String × Nat)

/-- Numbers an anchor by how many names are known before it. A name used again moves on to that number. -/
def Anchors.add (anchors : Anchors) (name : String) : Anchors :=
  (name, anchors.length) :: anchors.filter (·.1 ≠ name)

/-- A node, what is anchored in it in the order of the text, and the anchors after it. -/
structure Bound (α : Type) where
  value : α
  anchored : List (Nat × Node)
  anchors : Anchors

namespace Tree

/-- Adds the anchor of a node to what is known in front of the node. -/
def Properties.declare (p : Properties) (anchors : Anchors) : Anchors := (p.anchor.map anchors.add).getD anchors

/-- Binds a node that was built from its parts. -/
def Properties.bind {α : Type} (p : Properties) (before : Anchors) (make : α → Node) (parts : Bound α) : Bound Node :=
  let node := make parts.value
  { value := node
    anchored := (p.anchor.toList.map fun _ => (before.length, node)) ++ parts.anchored
    anchors := parts.anchors }

mutual

def bind (anchors : Anchors) : Tree → Except Problem (Bound Node)
  | .scalar p plain text =>
    .ok (Properties.bind p anchors (fun _ => Node.scalar p.tag plain text) ⟨(), [], Properties.declare p anchors⟩)
  | .sequence p items => do
    return Properties.bind p anchors .sequence (← bindItems (Properties.declare p anchors) items)
  | .mapping p entries => do
    return Properties.bind p anchors .mapping (← bindEntries (Properties.declare p anchors) entries)
  | .alias name =>
    match anchors.lookup name with
    | some number => .ok ⟨.alias number, [], anchors⟩
    | none => .error .unknownAlias

def bindItems (anchors : Anchors) : List Tree → Except Problem (Bound (List Node))
  | [] => .ok ⟨[], [], anchors⟩
  | item :: items => do
    let item ← bind anchors item
    let items ← bindItems item.anchors items
    return ⟨item.value :: items.value, item.anchored ++ items.anchored, items.anchors⟩

def bindEntries (anchors : Anchors) : List (Tree × Tree) → Except Problem (Bound (List (Node × Node)))
  | [] => .ok ⟨[], [], anchors⟩
  | (key, value) :: entries => do
    let key ← bind anchors key
    let value ← bind key.anchors value
    let entries ← bindEntries value.anchors entries
    return ⟨(key.value, value.value) :: entries.value, key.anchored ++ value.anchored ++ entries.anchored,
      entries.anchors⟩

end

end Tree

/-- A document that has been read. An empty text has no root. -/
structure Document where
  root : Option Node
  anchored : List (Nat × Node)

/-- Reads the only document of a text. -/
def Document.read (text : String) : Except Problem Document := do
  match ← Tree.ofTokens (← Token.read text) with
  | none => return ⟨none, []⟩
  | some tree =>
    let root ← tree.bind []
    return ⟨some root.value, root.anchored⟩

/-- The node that an alias stands for: of several with its number, the last in the text. -/
def Document.target? (document : Document) (number : Nat) : Option Node :=
  (document.anchored.reverse.lookup number)

end Highlighter.Yaml
