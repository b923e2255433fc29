import PackageRisk.Yaml.Token.Lexer

/-!
# Nodes of YAML documents

A node is a scalar, a collection of nodes, or an alias of a node with an anchor. A text holds at
most one document, and a document is one node; a node that is left out is an empty plain scalar.
-/

namespace PackageRisk.Yaml

/-- A node, where `α` is the type of what aliases and anchors refer by. -/
inductive Node (α : Type)
  | alias (target : α)
  | scalar (anchor : Option α) (tag : Option Tag) (style : Style) (text : List Char)
  | sequence (anchor : Option α) (tag : Option Tag) (items : List (Node α))
  | mapping (anchor : Option α) (tag : Option Tag) (entries : List (Node α × Node α))

/-- A node as it is written, with names for anchors. -/
abbrev NamedNode := Node (List Char)

/-- The node that stands where none is written. -/
def NamedNode.empty : NamedNode := .scalar none none .plain []

/-- Where a node stands, which decides what it may be. -/
inductive Place
  /-- Inside brackets or braces, where no block may begin. -/
  | flow
  | block
  /-- The key or the value of a block mapping, where dashes need no indentation. -/
  | member
  deriving DecidableEq, Repr

/-- Reads a node from the head of a list of tokens, and gives the tokens after it. -/
abbrev NodeReader := List Token → Option (NamedNode × List Token)

/-- Reads a node unless it is left out: unless one of the tokens `next` follows. -/
def readUnless (next : List Token) (read : NodeReader) : NodeReader := fun tokens ↦
  if tokens.head?.any next.contains then some (.empty, tokens) else read tokens

/-- Reads the node after a value's colon; one without colon is left out. -/
def readValueUnless (next : List Token) (read : NodeReader) : NodeReader
  | .value :: rest => readUnless next read rest
  | tokens => some (.empty, tokens)

/-- Reads the entries of a block sequence to its end. -/
def readEntries (read : NodeReader) : Nat → List Token → Option (List NamedNode × List Token)
  | limit + 1, .entry :: rest => do
    let (node, rest) ← readUnless [.entry, .blockEnd] read rest
    let (nodes, rest) ← readEntries read limit rest
    return (node :: nodes, rest)
  | _, .blockEnd :: rest => some ([], rest)
  | _, _ => none

/-- Reads the entries of a sequence without indentation of its own. -/
def readBareEntries (read : NodeReader) : Nat → List Token → Option (List NamedNode × List Token)
  | 0, _ => none
  | limit + 1, .entry :: rest => do
    let (node, rest) ← readUnless [.entry, .key, .value, .blockEnd] read rest
    let (nodes, rest) ← readBareEntries read limit rest
    return (node :: nodes, rest)
  | _, tokens => some ([], tokens)

/-- Reads the members of a block mapping to its end. -/
def readMembers (read : NodeReader) :
    Nat → List Token → Option (List (NamedNode × NamedNode) × List Token)
  | limit + 1, .key :: rest => do
    let (key, rest) ← readUnless [.key, .value, .blockEnd] read rest
    let (value, rest) ← readValueUnless [.key, .value, .blockEnd] read rest
    let (members, rest) ← readMembers read limit rest
    return ((key, value) :: members, rest)
  | _, .blockEnd :: rest => some ([], rest)
  | _, _ => none

/-- The tokens after the comma that has to stand before all items but the first. -/
def skipComma (isFirst : Bool) : List Token → Option (List Token)
  | .comma :: rest => if isFirst then none else some rest
  | tokens => if isFirst then some tokens else none

/-- Reads a mapping of one pair that stands in brackets without braces, after its question mark.
If the key is left out, the token after the question mark is passed over. -/
def readPair (read : NodeReader) : NodeReader := fun tokens ↦ do
  let (key, rest) ←
    if tokens.head?.any [.value, .comma, .closeBracket].contains then
      some (NamedNode.empty, tokens.tail)
    else read tokens
  let (value, rest) ← readValueUnless [.comma, .closeBracket] read rest
  return (.mapping none none [(key, value)], rest)

/-- Reads the items between brackets to the closing one. -/
def readBracketed (read : NodeReader) :
    Nat → Bool → List Token → Option (List NamedNode × List Token)
  | 0, _, _ => none
  | _, _, .closeBracket :: rest => some ([], rest)
  | limit + 1, isFirst, tokens => do
    match ← skipComma isFirst tokens with
    | .closeBracket :: rest => some ([], rest)
    | .key :: rest => do
      let (item, rest) ← readPair read rest
      let (items, rest) ← readBracketed read limit false rest
      return (item :: items, rest)
    | tokens => do
      let (item, rest) ← read tokens
      let (items, rest) ← readBracketed read limit false rest
      return (item :: items, rest)

/-- Reads the members between braces to the closing one. A node without question mark or colon is
a key without value. -/
def readBraced (read : NodeReader) :
    Nat → Bool → List Token → Option (List (NamedNode × NamedNode) × List Token)
  | 0, _, _ => none
  | _, _, .closeBrace :: rest => some ([], rest)
  | limit + 1, isFirst, tokens => do
    match ← skipComma isFirst tokens with
    | .closeBrace :: rest => some ([], rest)
    | .key :: rest => do
      let (key, rest) ← readUnless [.value, .comma, .closeBrace] read rest
      let (value, rest) ← readValueUnless [.comma, .closeBrace] read rest
      let (members, rest) ← readBraced read limit false rest
      return ((key, value) :: members, rest)
    | tokens => do
      let (key, rest) ← read tokens
      let (members, rest) ← readBraced read limit false rest
      return ((key, .empty) :: members, rest)

/-- What may stand in front of a node. -/
structure Properties where
  anchor : Option (List Char)
  tag : Option WrittenTag

/-- Takes an anchor and a tag, in either order, from the head of a list of tokens. -/
def takeProperties : List Token → Properties × List Token
  | .anchor anchor :: .tag tag :: rest => (⟨some anchor, some tag⟩, rest)
  | .tag tag :: .anchor anchor :: rest => (⟨some anchor, some tag⟩, rest)
  | .anchor anchor :: rest => (⟨some anchor, none⟩, rest)
  | .tag tag :: rest => (⟨none, some tag⟩, rest)
  | tokens => (⟨none, none⟩, tokens)

/-- The tag that is meant; none if its handle stands for nothing. -/
def Properties.resolveTag (properties : Properties) (handles : Handles) : Option (Option Tag) :=
  match properties.tag with
  | none => some none
  | some written => (written.resolve handles).map some

/-- Reads a node that is no alias, after its properties. A scalar does without the tag that names no
kind. -/
def readContent (read : Place → NodeReader) (limit : Nat) (place : Place)
    (anchor : Option (List Char)) (tag : Option Tag) (tokens : List Token) :
    Option (NamedNode × List Token) :=
  let left : Option (NamedNode × List Token) :=
    if anchor.isSome || tag.isSome then some (.scalar anchor tag .plain [], tokens) else none
  match tokens with
  | .scalar style text :: rest =>
    some (.scalar anchor (tag.filter (· ≠ .unspecific)) style text, rest)
  | .openBracket :: rest => do
    let (items, rest) ← readBracketed (read .flow) limit true rest
    return (.sequence anchor tag items, rest)
  | .openBrace :: rest => do
    let (members, rest) ← readBraced (read .flow) limit true rest
    return (.mapping anchor tag members, rest)
  | .entry :: _ =>
    if place = .member then do
      let (items, rest) ← readBareEntries (read .block) limit tokens
      return (.sequence anchor tag items, rest)
    else left
  | .blockSequence :: rest =>
    if place = .flow then left
    else do
      let (items, rest) ← readEntries (read .block) limit rest
      return (.sequence anchor tag items, rest)
  | .blockMapping :: rest =>
    if place = .flow then left
    else do
      let (members, rest) ← readMembers (read .member) limit rest
      return (.mapping anchor tag members, rest)
  | _ => left

/-- Reads a node, at most so many collections deep. -/
def readNode (handles : Handles) (limit : Nat) : Nat → Place → NodeReader
  | 0, _, _ => none
  | depth + 1, place, tokens =>
    match tokens with
    | .alias name :: rest => some (.alias name, rest)
    | tokens => do
      let (properties, rest) := takeProperties tokens
      let tag ← properties.resolveTag handles
      readContent (readNode handles limit depth) limit place properties.anchor tag rest

/-- The directives at the head of a document. -/
structure Directives where
  hasVersion : Bool
  handles : Handles

/-- No directive. -/
def Directives.none : Directives := ⟨false, []⟩

/-- There is a directive. -/
def Directives.exist (directives : Directives) : Bool :=
  directives.hasVersion || !directives.handles.isEmpty

/-- Reads directives: at most one version, which has to be 1.1 or 1.2, and each handle once. -/
def readDirectives : Directives → List Token → Option (Directives × List Token)
  | before, .version major minor :: rest =>
    if before.hasVersion || major ≠ 1 || (minor ≠ 1 && minor ≠ 2) then .none
    else readDirectives { before with hasVersion := true } rest
  | before, .handle handle start :: rest =>
    if (before.handles.lookup handle).isSome then .none
    else readDirectives { before with handles := (handle, start) :: before.handles } rest
  | before, tokens => some (before, tokens)

/-- A token that shows that a document with a mark has no node. -/
def endsDocument : Token → Bool
  | .version .. | .handle .. | .documentStart | .documentEnd => true
  | _ => false

/-- Reads a document: directives and a mark, or no mark at all, and a node. -/
def readDocument (limit : Nat) (tokens : List Token) : Option (NamedNode × List Token) := do
  let (directives, rest) ← readDirectives .none tokens
  let read := readNode (directives.handles ++ .standard) limit limit .block
  match rest with
  | .documentStart :: rest =>
    if rest.isEmpty || rest.head?.any endsDocument then return (.empty, rest) else read rest
  | _ => if directives.exist then none else read rest

/-- The node of the only document of a text; none inside if there is no document. -/
def NamedNode.ofTokens? (tokens : List Token) : Option (Option NamedNode) :=
  if tokens.isEmpty then some none
  else do
    let (node, rest) ← readDocument (tokens.length + 1) tokens
    if (rest.dropWhile (· = .documentEnd)).isEmpty then some (some node) else none

end PackageRisk.Yaml
