import AggregateNaming.Markup.Token

/-!
# Drafts

The tree of a marked-up text with its aliases not yet replaced, read from tokens by the grammar of
nodes and documents; and the tree with every alias replaced by the node that it stands for.

- `Draft` : the tree with aliases.
- `Parser` : readers of tokens.
- `Draft.resolve` : the tree without aliases.
- `readText?` : the tree of a whole text.
-/

namespace AggregateNaming.Markup

/-! ## §1 Trees with aliases -/

/-- A node of a tree with aliases. -/
inductive Draft where
  | scalar (s : Scalar)
  | sequence (tag : Option String) (items : List Draft)
  | mapping (tag : Option String) (entries : List (Draft × Draft))
  /-- Stands for the node with an anchor of that number. -/
  | alias (number : Nat)
  deriving Inhabited

namespace Draft

/-- The node where nothing is written. -/
def empty : Draft := scalar { text := "" }

mutual
/-- Replaces aliases by what `target` gives for their numbers. -/
def resolveWith (target : Nat → Option Node) : Draft → Option Node
  | .scalar s => some (.scalar s)
  | .sequence tag items => (resolveItems target items).map (.sequence tag)
  | .mapping tag entries => (resolveEntries target entries).map (.mapping tag)
  | .alias number => target number

/-- Replaces aliases in a list of nodes. -/
def resolveItems (target : Nat → Option Node) : List Draft → Option (List Node)
  | [] => some []
  | d :: ds => do return (← resolveWith target d) :: (← resolveItems target ds)

/-- Replaces aliases in a list of keys and values. -/
def resolveEntries (target : Nat → Option Node) :
    List (Draft × Draft) → Option (List (Node × Node))
  | [] => some []
  | (k, v) :: es => do
    return (← resolveWith target k, ← resolveWith target v) :: (← resolveEntries target es)
end

/-- Replaces aliases by the nodes of a table, and those within them too, up to a number of times one
within another. Where each stands for a node outside of itself, as many times as the table has nodes
are enough. -/
def resolve (table : List (Nat × Draft)) : (times : Nat) → Draft → Option Node
  | 0 => resolveWith fun _ => none
  | times + 1 => resolveWith fun number => (table.lookup number).bind (resolve table times)

end Draft

/-! ## §2 Reading tokens -/

/-- A node with an anchor. -/
structure Anchored where
  /-- How many nodes with anchors began before. -/
  order : Nat
  number : Nat
  node : Draft

/-- How far the reading of nodes has come. -/
structure Parse where
  /-- The tokens that are left. -/
  tokens : List Token
  /-- What the handles of tags stand for. -/
  handles : List (String × String) := [("!", "!"), ("!!", "tag:yaml.org,2002:")]
  /-- The names of anchors with their numbers. -/
  names : List (String × Nat) := []
  /-- How many nodes with anchors have begun. -/
  begun : Nat := 0
  /-- The nodes with anchors that have been read. -/
  anchored : List Anchored := []

/-- A reader of tokens. -/
abbrev Parser := StateT Parse Option

namespace Parser

/-- The next token. -/
def peek : Parser (Option Token) := return (← get).tokens.head?

/-- Skips the next token, which must be there. -/
def skip : Parser Unit := do
  match (← get).tokens with
  | [] => failure
  | _ :: rest => modify fun s => { s with tokens := rest }

/-- Skips the next token, if it is the one given. -/
def skipIf (t : Token) : Parser Bool := do
  if (← peek) == some t then
    skip
    return true
  else return false

/-- The number for an anchor: how many different names anchors have had before. -/
def beginAnchor (name : String) : Parser Nat := do
  let number := (← get).names.length
  modify fun s => { s with
    names := (name, number) :: s.names.filter (·.1 != name), begun := s.begun + 1 }
  return number

/-- The anchor and the tag before a node, in either order. -/
def properties : Parser (Option String × Option (String × String)) := do
  match ← peek with
  | some (.anchor name) =>
    skip
    match ← peek with
    | some (.tag handle suffix) =>
      skip
      return (some name, some (handle, suffix))
    | _ => return (some name, none)
  | some (.tag handle suffix) =>
    skip
    match ← peek with
    | some (.anchor name) =>
      skip
      return (some name, some (handle, suffix))
    | _ => return (none, some (handle, suffix))
  | _ => return (none, none)

/-- The tag that is written as a handle and a suffix. -/
def expandTag : Option (String × String) → Parser (Option String)
  | none => return none
  | some (handle, suffix) =>
    if handle.isEmpty then return some suffix
    else do
      match (← get).handles.lookup handle with
      | some start => return some (start ++ suffix)
      | none => failure

mutual
/-- Reads a node. Outside of brackets, it may be indented; as a key or value, it may be a sequence
that is not. -/
def node (inBlock indentless : Bool) : (fuel : Nat) → Parser Draft
  | 0 => failure
  | fuel + 1 => do
    match ← peek with
    | some (.alias name) =>
      skip
      match (← get).names.lookup name with
      | some number => return .alias number
      | none => failure
    | _ =>
      let (anchor, written) ← properties
      let tag ← expandTag written
      match anchor with
      | none => content inBlock indentless tag written.isSome fuel
      | some name =>
        let order := (← get).begun
        let number ← beginAnchor name
        let node ← content inBlock indentless tag true fuel
        modify fun s => { s with anchored := ⟨order, number, node⟩ :: s.anchored }
        return node

/-- Reads a node after its anchor and tag. Only with one of these may nothing be written. -/
def content (inBlock indentless : Bool) (tag : Option String) (mayBeEmpty : Bool) :
    (fuel : Nat) → Parser Draft
  | 0 => failure
  | fuel + 1 => do
    match ← peek with
    | some (.scalar style text) =>
      skip
      return .scalar ⟨tag.filter (· != "!"), style, text⟩
    | some .flowSequenceStart =>
      skip
      return .sequence tag (← flowItems true fuel)
    | some .flowMappingStart =>
      skip
      return .mapping tag (← flowEntries true fuel)
    | some .blockSequenceStart =>
      if inBlock then
        skip
        return .sequence tag (← blockItems fuel)
      else if mayBeEmpty then return .scalar { tag, text := "" }
      else failure
    | some .blockMappingStart =>
      if inBlock then
        skip
        return .mapping tag (← blockEntries fuel)
      else if mayBeEmpty then return .scalar { tag, text := "" }
      else failure
    | some .blockEntry =>
      if indentless then return .sequence tag (← indentlessItems fuel)
      else if mayBeEmpty then return .scalar { tag, text := "" }
      else failure
    | _ => if mayBeEmpty then return .scalar { tag, text := "" } else failure

/-- Reads a node, or nothing before one of some tokens. -/
def nodeUnless (stops : List Token) (inBlock indentless : Bool) : (fuel : Nat) → Parser Draft
  | 0 => failure
  | fuel + 1 => do
    match ← peek with
    | some t => if stops.contains t then return .empty else node inBlock indentless fuel
    | none => node inBlock indentless fuel

/-- Reads the items of an indented sequence up to and past its end. -/
def blockItems : (fuel : Nat) → Parser (List Draft)
  | 0 => failure
  | fuel + 1 => do
    if ← skipIf .blockEntry then
      let item ← nodeUnless [.blockEntry, .blockEnd] true false fuel
      return item :: (← blockItems fuel)
    else if ← skipIf .blockEnd then return []
    else failure

/-- Reads the items of a sequence that is not indented under its key. -/
def indentlessItems : (fuel : Nat) → Parser (List Draft)
  | 0 => failure
  | fuel + 1 => do
    if ← skipIf .blockEntry then
      let item ← nodeUnless [.blockEntry, .key, .value, .blockEnd] true false fuel
      return item :: (← indentlessItems fuel)
    else return []

/-- Reads the entries of an indented mapping up to and past its end. -/
def blockEntries : (fuel : Nat) → Parser (List (Draft × Draft))
  | 0 => failure
  | fuel + 1 => do
    if ← skipIf .key then
      let key ← nodeUnless [.key, .value, .blockEnd] true true fuel
      if ← skipIf .value then
        let value ← nodeUnless [.key, .value, .blockEnd] true true fuel
        return (key, value) :: (← blockEntries fuel)
      else return (key, .empty) :: (← blockEntries fuel)
    else if ← skipIf .blockEnd then return []
    else failure

/-- Reads the items of a sequence in brackets up to and past its end. -/
def flowItems (first : Bool) : (fuel : Nat) → Parser (List Draft)
  | 0 => failure
  | fuel + 1 => do
    if ← skipIf .flowSequenceEnd then return []
    else
      if !first then
        if !(← skipIf .flowEntry) then failure
      if ← skipIf .key then
        let entry ← flowPair fuel
        return .mapping none [entry] :: (← flowItems false fuel)
      else if ← skipIf .flowSequenceEnd then return []
      else
        let item ← node false false fuel
        return item :: (← flowItems false fuel)

/-- Reads a pair that stands in a sequence in brackets without braces of its own. A key that is left
out takes the token in its place with it. -/
def flowPair : (fuel : Nat) → Parser (Draft × Draft)
  | 0 => failure
  | fuel + 1 => do
    let key ← (do
      match ← peek with
      | some t =>
        if [Token.value, .flowEntry, .flowSequenceEnd].contains t then
          skip
          return .empty
        else node false false fuel
      | none => failure : Parser Draft)
    if ← skipIf .value then
      return (key, ← nodeUnless [.flowEntry, .flowSequenceEnd] false false fuel)
    else return (key, .empty)

/-- Reads the entries of a mapping in braces up to and past its end. -/
def flowEntries (first : Bool) : (fuel : Nat) → Parser (List (Draft × Draft))
  | 0 => failure
  | fuel + 1 => do
    if ← skipIf .flowMappingEnd then return []
    else
      if !first then
        if !(← skipIf .flowEntry) then failure
      if ← skipIf .key then
        let key ← nodeUnless [.value, .flowEntry, .flowMappingEnd] false false fuel
        if ← skipIf .value then
          let value ← nodeUnless [.flowEntry, .flowMappingEnd] false false fuel
          return (key, value) :: (← flowEntries false fuel)
        else return (key, .empty) :: (← flowEntries false fuel)
      else if ← skipIf .flowMappingEnd then return []
      else
        let key ← node false false fuel
        return (key, .empty) :: (← flowEntries false fuel)
end

/-! ## §3 Documents -/

/-- Reads directives. There may be one for the version, which must be one that is known, and one for
each handle of tags. `found` says that the version has been given. -/
def directives : (fuel : Nat) → (found : Bool) → (handles : List (String × String)) →
    Parser (List (String × String))
  | 0, _, _ => failure
  | fuel + 1, found, handles => do
    match ← peek with
    | some (.versionDirective major minor) =>
      if found || major != 1 || !(minor == 1 || minor == 2) then failure
      else
        skip
        directives fuel true handles
    | some (.tagDirective handle start) =>
      if (handles.lookup handle).isSome then failure
      else
        skip
        directives fuel found ((handle, start) :: handles)
    | _ => return handles

/-- Whether the next token ends a document, or begins one. -/
def atDocumentEdge : Parser Bool := do
  match ← peek with
  | none => return true
  | some .documentStart => return true
  | some .documentEnd => return true
  | some (.versionDirective _ _) => return true
  | some (.tagDirective _ _) => return true
  | _ => return false

/-- Reads a document, if there is one. -/
def document (fuel : Nat) : Parser (Option Draft) := do
  match ← peek with
  | none => return none
  | _ =>
    if (← atDocumentEdge) && (← peek) != some .documentEnd then
      let handles ← directives fuel false []
      modify fun s => { s with handles := handles ++ s.handles }
      if ← skipIf .documentStart then
        if ← atDocumentEdge then return some .empty
        else return some (← node true false fuel)
      else failure
    else return some (← node true false fuel)

/-- Skips the marks at the end of a document; then nothing may be left. -/
def finish : (fuel : Nat) → Parser Unit
  | 0 => failure
  | fuel + 1 => do
    if ← skipIf .documentEnd then finish fuel
    else if (← peek).isSome then failure

end Parser

/-- The nodes with anchors by number; of several with a number, the last to begin counts. -/
def anchorTable (anchored : List Anchored) : List (Nat × Draft) :=
  (anchored.mergeSort fun a b => b.order ≤ a.order).map fun a => (a.number, a.node)

/-- The tree of a text, which must hold at most one document. Nothing at all stands for a text
without one. -/
def readText? (cs : List Char) : Option (Option Node) := do
  let tokens ← Token.ofText? cs
  -- every reader but `content` and `nodeUnless` uses up a token, and these two call one that does
  let fuel := 4 * tokens.length + 4
  let (draft, s) ← (do
    let draft ← Parser.document fuel
    Parser.finish fuel
    return draft : Parser (Option Draft)).run { tokens }
  match draft with
  | none => return none
  | some draft => some <$> draft.resolve (anchorTable s.anchored) s.anchored.length

end AggregateNaming.Markup
