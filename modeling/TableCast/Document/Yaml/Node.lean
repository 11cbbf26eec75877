import TableCast.Document.Yaml.Scalar

/-!
# YAML nodes

The tokens of a text read as nested nodes, and the documents that nodes stand for.

- `Node`: scalars, sequences and mappings with their tags.
- `readNode`: a node at the start of the tokens.
- `Levels`: the faults of nested values, level by level.
- `Node.document`: the document of a node.
- `Document.ofYaml`: the document of a text.
-/

namespace TableCast
namespace Yaml

/-- A node. -/
inductive Node where
  | scalar (tag : Option String) (style : Style) (text : String)
  | sequence (tag : Option String) (items : List Node)
  | mapping (tag : Option String) (entries : List (Node × Node))
deriving Repr, Inhabited

/-- The node that stands where nothing is written. -/
def Node.empty : Node := .scalar none .plain ""

/-- The anchored nodes, with nothing for one that is still being read. -/
abbrev Anchors := List (String × Option Node)

/-- The properties in front of a node. -/
structure Properties where
  anchor : Option String := none
  tag : Option String := none
deriving Repr, Inhabited

/-- The properties at the start of the tokens, and the rest. -/
def readProperties : List Token → Properties × List Token
  | .anchor a :: .tag _ tag :: rest => ({ anchor := some a, tag := some tag }, rest)
  | .tag _ tag :: .anchor a :: rest => ({ anchor := some a, tag := some tag }, rest)
  | .anchor a :: rest => ({ anchor := some a }, rest)
  | .tag _ tag :: rest => ({ tag := some tag }, rest)
  | rest => ({}, rest)

/-- The anchored nodes with one more. -/
def anchored (p : Properties) (node : Option Node) (anchors : Anchors) : Anchors :=
  match p.anchor with
  | some a => (a, node) :: anchors
  | none => anchors

/-- Where a node stands. -/
inductive Place where
  | flow
  | block
  /-- As a key or a value of a block mapping, where the entries of a sequence need no
  indentation. -/
  | entry
deriving Repr, DecidableEq

/-- Whether the value of an entry is missing in front of a token. -/
def endsEntry (place : Place) : Token → Bool
  | .key => place != .flow
  | .value => true
  | .blockEnd => place != .flow
  | .flowEntry => place == .flow
  | .flowSequenceEnd => place == .flow
  | .flowMappingEnd => place == .flow
  | _ => false

mutual

/-- A node at the start of the tokens, the anchors, and the rest. -/
def readNode : Nat → Place → Anchors → List Token → Except Fault (Node × Anchors × List Token)
  | 0, _, _, _ => .error .grammar
  | fuel + 1, place, anchors, ts => match ts with
    | .reference name :: rest => match anchors.find? (·.1 == name) with
      | some (_, some node) => .ok (node, anchors, rest)
      | _ => .error .anchor
    | _ => do
      let (p, rest) := readProperties ts
      if (p.anchor.map fun a => anchors.any (·.1 == a)).getD false then throw .anchor
      let anchors := anchored p none anchors
      let (node, anchors, rest) ← match rest with
        | .scalar style text :: rest => pure (Node.scalar p.tag style text, anchors, rest)
        | .flowSequenceStart :: rest => do
          let (items, anchors, rest) ← readFlowItems fuel true anchors rest
          pure (Node.sequence p.tag items, anchors, rest)
        | .flowMappingStart :: rest => do
          let (entries, anchors, rest) ← readFlowEntries fuel true anchors rest
          pure (Node.mapping p.tag entries, anchors, rest)
        | .blockEntry :: _ =>
          if place == .entry then do
            let (items, anchors, rest) ← readPlainItems fuel anchors rest
            pure (Node.sequence p.tag items, anchors, rest)
          else if p.anchor.isSome || p.tag.isSome then
            pure (Node.scalar p.tag .plain "", anchors, rest)
          else throw .grammar
        | .blockSequenceStart :: inner =>
          if place == .flow then throw .grammar
          else do
            let (items, anchors, rest) ← readBlockItems fuel anchors inner
            pure (Node.sequence p.tag items, anchors, rest)
        | .blockMappingStart :: inner =>
          if place == .flow then throw .grammar
          else do
            let (entries, anchors, rest) ← readBlockEntries fuel anchors inner
            pure (Node.mapping p.tag entries, anchors, rest)
        | _ =>
          if p.anchor.isSome || p.tag.isSome then
            pure (Node.scalar p.tag .plain "", anchors, rest)
          else throw .grammar
      return (node, anchored p (some node) anchors, rest)

/-- The items of a block sequence up to its end. -/
def readBlockItems : Nat → Anchors → List Token → Except Fault (List Node × Anchors × List Token)
  | 0, _, _ => .error .grammar
  | fuel + 1, anchors, ts => match ts with
    | .blockEnd :: rest => .ok ([], anchors, rest)
    | .blockEntry :: rest => do
      let (item, anchors, rest) ← match rest with
        | .blockEntry :: _ => pure (Node.empty, anchors, rest)
        | .blockEnd :: _ => pure (Node.empty, anchors, rest)
        | _ => readNode fuel .block anchors rest
      let (items, anchors, rest) ← readBlockItems fuel anchors rest
      return (item :: items, anchors, rest)
    | _ => .error .grammar

/-- The items of a sequence without indentation of its own. -/
def readPlainItems : Nat → Anchors → List Token → Except Fault (List Node × Anchors × List Token)
  | 0, _, _ => .error .grammar
  | fuel + 1, anchors, ts => match ts with
    | .blockEntry :: rest => do
      let missing := match rest with
        | .blockEntry :: _ => true
        | .key :: _ => true
        | .value :: _ => true
        | .blockEnd :: _ => true
        | _ => false
      let (item, anchors, rest) ← if missing then pure (Node.empty, anchors, rest)
        else readNode fuel .block anchors rest
      let (items, anchors, rest) ← readPlainItems fuel anchors rest
      return (item :: items, anchors, rest)
    | _ => .ok ([], anchors, ts)

/-- A key or a value that may be missing. -/
def readSide : Nat → Place → Anchors → List Token → Except Fault (Node × Anchors × List Token)
  | 0, _, _, _ => .error .grammar
  | fuel + 1, place, anchors, ts => match ts with
    | t :: _ => if endsEntry place t then .ok (Node.empty, anchors, ts)
      else readNode fuel place anchors ts
    | [] => .error .grammar

/-- The value behind a key; without a mark for it there is none. -/
def readValue : Nat → Place → Anchors → List Token → Except Fault (Node × Anchors × List Token)
  | 0, _, _, _ => .error .grammar
  | fuel + 1, place, anchors, ts => match ts with
    | .value :: rest => readSide fuel place anchors rest
    | _ => .ok (Node.empty, anchors, ts)

/-- The entries of a block mapping up to its end. -/
def readBlockEntries : Nat → Anchors → List Token →
    Except Fault (List (Node × Node) × Anchors × List Token)
  | 0, _, _ => .error .grammar
  | fuel + 1, anchors, ts => match ts with
    | .blockEnd :: rest => .ok ([], anchors, rest)
    | .key :: rest => do
      let (key, anchors, rest) ← readSide fuel .entry anchors rest
      let (value, anchors, rest) ← readValue fuel .entry anchors rest
      let (entries, anchors, rest) ← readBlockEntries fuel anchors rest
      return ((key, value) :: entries, anchors, rest)
    | _ => .error .grammar

/-- The items of a flow sequence up to its end; an entry with a key is a mapping of its
own. -/
def readFlowItems : Nat → Bool → Anchors → List Token →
    Except Fault (List Node × Anchors × List Token)
  | 0, _, _, _ => .error .grammar
  | fuel + 1, first, anchors, ts => match ts with
    | .flowSequenceEnd :: rest => .ok ([], anchors, rest)
    | _ => do
      let ts ← if first then pure ts else match ts with
        | .flowEntry :: rest => pure rest
        | _ => throw .grammar
      match ts with
      | .flowSequenceEnd :: rest => return ([], anchors, rest)
      | .key :: rest =>
        let (key, anchors, rest) ← readSide fuel .flow anchors rest
        let (value, anchors, rest) ← readValue fuel .flow anchors rest
        let (items, anchors, rest) ← readFlowItems fuel false anchors rest
        return (.mapping none [(key, value)] :: items, anchors, rest)
      | _ =>
        let (item, anchors, rest) ← readNode fuel .flow anchors ts
        let (items, anchors, rest) ← readFlowItems fuel false anchors rest
        return (item :: items, anchors, rest)

/-- The entries of a flow mapping up to its end. -/
def readFlowEntries : Nat → Bool → Anchors → List Token →
    Except Fault (List (Node × Node) × Anchors × List Token)
  | 0, _, _, _ => .error .grammar
  | fuel + 1, first, anchors, ts => match ts with
    | .flowMappingEnd :: rest => .ok ([], anchors, rest)
    | _ => do
      let ts ← if first then pure ts else match ts with
        | .flowEntry :: rest => pure rest
        | _ => throw .grammar
      match ts with
      | .flowMappingEnd :: rest => return ([], anchors, rest)
      | .key :: rest =>
        let (key, anchors, rest) ← readSide fuel .flow anchors rest
        let (value, anchors, rest) ← readValue fuel .flow anchors rest
        let (entries, anchors, rest) ← readFlowEntries fuel false anchors rest
        return ((key, value) :: entries, anchors, rest)
      | _ =>
        let (key, anchors, rest) ← readNode fuel .flow anchors ts
        let (entries, anchors, rest) ← readFlowEntries fuel false anchors rest
        return ((key, .empty) :: entries, anchors, rest)

end

/-- What the handles of tags stand for. -/
abbrev Handles := List (String × String)

/-- What the handles of tags stand for unless a directive says something else. -/
def usualHandles : Handles := [("!", "!"), ("!!", coreTag)]

/-- The handles that the directives at the start of the tokens explain, and the rest; one
version may be given, of the first edition. -/
def readDirectives (versioned : Bool) (handles : Handles) :
    List Token → Except Fault (Handles × List Token)
  | .directive (.version major) :: rest =>
    if versioned || major != 1 then .error .property else readDirectives true handles rest
  | .directive (.handle name meaning) :: rest =>
    if handles.any (·.1 == name) then .error .property
    else readDirectives versioned ((name, meaning) :: handles) rest
  | .directive .other :: rest => readDirectives versioned handles rest
  | rest => .ok (handles, rest)

/-- A token with the handle of a tag replaced by what it stands for. -/
def explained (handles : Handles) : Token → Except Fault Token
  | .tag (some name) suffix => match handles.lookup name with
    | some meaning => .ok (.tag none (meaning ++ suffix))
    | none => .error .property
  | t => .ok t

/-- Whether a document is empty in front of a token. -/
def endsDocument : Token → Bool
  | .directive _ | .documentStart | .documentEnd | .streamEnd => true
  | _ => false

/-- The only node of a text, if it has one. -/
def readOnly (ts : List Token) : Except Fault (Option Node) := do
  let (handles, rest) ← readDirectives false [] ts
  let directed := rest.length < ts.length
  let body ← match rest with
    | .documentStart :: rest => pure rest
    | .streamEnd :: _ => if directed then throw .grammar else return none
    | _ => if directed then throw .grammar else pure rest
  let body ← body.mapM (explained (handles ++ usualHandles))
  let opened := body.length < rest.length
  let (node, rest) ← match body with
    | t :: _ =>
      if opened && endsDocument t then pure (Node.empty, body)
      else do
        let (node, _, rest) ← readNode (4 * ts.length + 4) .block [] body
        pure (node, rest)
    | [] => throw .grammar
  match rest.dropWhile (· == .documentEnd) with
  | .streamEnd :: _ => return some node
  | _ => throw .grammar

/-- Whether two keys are the same. -/
def sameKey : Document → Document → Bool
  | .null, .null => true
  | .bool a, .bool b => a == b
  | .int a, .int b => a == b
  | .float a, .float b => a == b
  | .str a, .str b => a == b
  | .date a, .date b => a == b
  | .timestamp a, .timestamp b => a == b
  | .bytes a, .bytes b => a == b
  | .bool a, .int b => (if a then 1 else 0) == b
  | .int a, .bool b => a == (if b then 1 else 0)
  | .int a, .float b => Float.ofInt a == b
  | .float a, .int b => a == Float.ofInt b
  | _, _ => false

/-- Whether a value can be a key. -/
def isKey : Document → Bool
  | .list _ | .map _ | .set _ => false
  | _ => true

/-- An entry put into a mapping, in the place of an earlier one. -/
def putEntry (key value : Document) : List (Document × Document) → List (Document × Document)
  | [] => [(key, value)]
  | (k, v) :: rest =>
    if sameKey k key then (k, value) :: rest else (k, v) :: putEntry key value rest

/-- Whether a node is a scalar with a tag, or one that is written plainly as a sign that
stands for it. -/
def Node.isSign (tag sign : String) : Node → Bool
  | .scalar none .plain text => text == sign
  | .scalar (some "!") _ text => text == sign
  | .scalar (some given) _ _ => given == tag
  | _ => false

/-- Whether a node is the key under which other mappings are merged. -/
def Node.isMergeKey : Node → Bool := Node.isSign mergeTag "<<"

/-- Whether a node is the key under which a mapping keeps its value as a scalar. -/
def Node.isValueKey : Node → Bool := Node.isSign valueTag "="

/-- The text of a node that is a scalar. -/
def Node.text? : Node → Option String
  | .scalar _ _ text => some text
  | _ => none

/-- Whether a node is a mapping. -/
def Node.isMapping : Node → Bool
  | .mapping _ _ => true
  | _ => false

/-- Whether a node is a mapping with one entry. -/
def Node.isSingle : Node → Bool
  | .mapping _ [_] => true
  | _ => false

/-- Whether a node stands for entries that can be merged. -/
def Node.isMergeable : Node → Bool
  | .mapping _ _ => true
  | .sequence _ items => items.all Node.isMapping
  | .scalar _ _ _ => false

/-- The faults of nested values by level, those of the outermost value first.  Values are
made level by level, so the first of them is the one that counts. -/
abbrev Levels := List (List Fault)

/-- The faults of two values side by side. -/
def Levels.beside : Levels → Levels → Levels
  | [], ys => ys
  | xs, [] => xs
  | x :: xs, y :: ys => (x ++ y) :: beside xs ys

/-- The fault that counts. -/
def Levels.first (levels : Levels) : Fault := levels.flatten.headD .value

/-- A value, or its faults by level. -/
abbrev Made (α : Type) := Except Levels α

/-- The faults of a made value. -/
def Made.levels {α : Type} : Made α → Levels
  | .ok _ => []
  | .error levels => levels

/-- Two made values, or the faults of both. -/
def Made.beside {α β : Type} (a : Made α) (b : Made β) : Made (α × β) :=
  match a, b with
  | .ok a, .ok b => .ok (a, b)
  | a, b => .error (a.levels.beside b.levels)

/-- A value made one level further in. -/
def Made.deeper {α : Type} (a : Made α) : Made α := a.mapError ([] :: ·)

/-- A fault of the value itself. -/
def Made.here {α : Type} (fault : Fault) : Made α := .error [[fault]]

/-- The entries of the mappings that a value of a merge stands for; earlier mappings count
before later ones. -/
def mergedEntries : Document → List (Document × Document)
  | .map entries => entries
  | .set items => items.map (·, .null)
  | .list items => items.reverse.flatMap (·.entries)
  | _ => []

/-- What a tag says that a collection is. -/
inductive CollectionKind where
  | sequence
  | pairs
  | mapping
  | set
  | scalar (kind : ScalarKind)
deriving Repr, DecidableEq, Inhabited

/-- What a collection is that would be of another kind without a tag. -/
def collectionKind? (untagged : CollectionKind) : Option String → Option CollectionKind
  | none => some untagged
  | some "!" => some untagged
  | some tag =>
    let named := [("seq", CollectionKind.sequence), ("omap", .pairs), ("pairs", .pairs),
      ("map", .mapping), ("set", .set)]
    match named.find? fun (name, _) => tag == coreTag ++ name with
    | some (_, kind) => some kind
    | none => (kindOfTag? tag).map .scalar

/-- A pair of the only entry of a mapping. -/
def pairDocument (d : Document) : Document :=
  match d with
  | .map ((key, value) :: _) => .list [key, value]
  | other => other

/-- The document of a sequence with a tag. -/
def sequenceDocument (tag : Option String) (nodes : List Node) (items : Made (List Document)) :
    Made Document :=
  match collectionKind? .sequence tag with
  | some .sequence => items.deeper.map .list
  | some .pairs =>
    if nodes.all Node.isSingle then items.deeper.map fun ds => .list (ds.map pairDocument)
    else (Made.here .value : Made Document).deeper
  | some .mapping | some .set => (Made.here .value : Made Document).deeper
  | _ => .here .value

/-- The mapping of distinct entries; of two with the same key the later value counts. -/
def distinctEntries (entries : List (Document × Document)) : List (Document × Document) :=
  entries.foldl (fun out (k, v) => putEntry k v out) []

/-- The document of a mapping with a tag; merged entries come first. -/
def mappingDocument (tag : Option String) (nodes : List (Node × Node))
    (entries : Made (List (Document × Document) × List (Document × Document))) : Made Document :=
  let made : Made (List (Document × Document)) :=
    if nodes.any fun (key, value) => key.isMergeKey && !value.isMergeable then .here .value
    else entries.map fun (merged, rest) => distinctEntries (merged ++ rest)
  match collectionKind? .mapping tag with
  | some .mapping => made.deeper.map .map
  | some .set => made.deeper.map fun entries => .set (entries.map (·.1))
  | some (.scalar kind) =>
    match (nodes.find? fun (key, _) => key.isValueKey).bind fun (_, value) => value.text? with
    | some text => (kind.read text).mapError fun fault => [[fault]]
    | none => .here .value
  | some .sequence | some .pairs => (Made.here .value : Made Document).deeper
  | none => .here .value

/-- A key, which must not be a collection. -/
def keyDocument (node : Node) (made : Made Document) : Made Document :=
  if node.isValueKey then .ok (.str (node.text?.getD ""))
  else match made with
  | .ok key => if isKey key then .ok key else .here .value
  | .error levels => .error levels

mutual

/-- The document of a node. -/
def Node.document : Node → Made Document
  | .scalar (some tag) style text =>
    if ["seq", "omap", "pairs", "map", "set"].any fun name => tag == coreTag ++ name then
      (Made.here .value : Made Document).deeper
    else (scalarDocument (some tag) style text).mapError fun fault => [[fault]]
  | .scalar none style text => (scalarDocument none style text).mapError fun fault => [[fault]]
  | .sequence tag items => sequenceDocument tag items (documents items)
  | .mapping tag entries => mappingDocument tag entries (entryDocuments entries)

/-- The documents of several nodes. -/
def documents : List Node → Made (List Document)
  | [] => .ok []
  | node :: nodes => (node.document.beside (documents nodes)).map fun (d, ds) => d :: ds

/-- The merged entries and the other entries of a mapping. -/
def entryDocuments : List (Node × Node) →
    Made (List (Document × Document) × List (Document × Document))
  | [] => .ok ([], [])
  | (key, value) :: entries =>
    let rest := entryDocuments entries
    let made := value.document
    if key.isMergeKey then
      let merged := made.mapError (·.drop (if value.isMapping then 1 else 2))
      (Made.beside merged rest).map fun (v, merged, rest) => (mergedEntries v ++ merged, rest)
    else
      (((keyDocument key key.document).beside made).beside rest).map
        fun (entry, merged, rest) => (merged, entry :: rest)

end

end Yaml

/-- The document of a YAML text, nothing for an empty one. -/
def Document.ofYaml (text : String) : Except Yaml.Fault Document := do
  match ← Yaml.readOnly (← Yaml.tokens text) with
  | none => return .null
  | some node => node.document.mapError (·.first)

end TableCast
