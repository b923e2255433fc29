import PackageRisk.Yaml.Node

/-!
# Values of YAML documents

Anchors have numbers. A new name takes the number of names before it; a name that is used again
takes the next free number without using it up, so that the next new name takes it too. An alias
means the last node whose anchor has the number that the alias's name has where the alias stands.
Putting these nodes in the place of their aliases makes the value of a document.
-/

namespace PackageRisk.Yaml

/-- A value: a node without aliases. -/
inductive Value
  | scalar (tag : Option Tag) (style : Style) (text : List Char)
  | sequence (tag : Option Tag) (items : List Value)
  | mapping (tag : Option Tag) (entries : List (Value × Value))

/-- A node with numbers for anchors. -/
abbrev NumberedNode := Node Nat

/-- The number of each name. -/
abbrev Names := List (List Char × Nat)

/-- Gives a name its number, which replaces the one it had. -/
def define (name : List Char) : StateT Names Option Nat := do
  let names ← get
  let number := names.length
  set ((name, number) :: names.filter (·.1 ≠ name))
  return number

/-- Gives the name of an anchor its number, if there is an anchor. -/
def defineAnchor : Option (List Char) → StateT Names Option (Option Nat)
  | none => pure none
  | some name => some <$> define name

/-- The number of a name; there is none for an unknown one. -/
def refer (name : List Char) : StateT Names Option Nat := do
  match (← get).lookup name with
  | none => failure
  | some number => pure number

mutual

/-- Replaces the names of a node by numbers, from left to right. -/
def NamedNode.number : Node (List Char) → StateT Names Option NumberedNode
  | .alias name => return .alias (← refer name)
  | .scalar anchor tag style text => return .scalar (← defineAnchor anchor) tag style text
  | .sequence anchor tag items => do
    let anchor ← defineAnchor anchor
    return .sequence anchor tag (← numberItems items)
  | .mapping anchor tag entries => do
    let anchor ← defineAnchor anchor
    return .mapping anchor tag (← numberEntries entries)

/-- Replaces the names of every item. -/
def numberItems : List (Node (List Char)) → StateT Names Option (List NumberedNode)
  | [] => pure []
  | item :: rest => do
    let item ← NamedNode.number item
    return item :: (← numberItems rest)

/-- Replaces the names of every key and value. -/
def numberEntries :
    List (Node (List Char) × Node (List Char)) →
      StateT Names Option (List (NumberedNode × NumberedNode))
  | [] => pure []
  | (key, value) :: rest => do
    let key ← NamedNode.number key
    let value ← NamedNode.number value
    return (key, value) :: (← numberEntries rest)

end

/-- The node under the number of its anchor, if it has one. -/
def underAnchor (anchor : Option Nat) (node : NumberedNode) : List (Nat × NumberedNode) :=
  anchor.toList.map (·, node)

mutual

/-- The nodes with anchors, from left to right, a collection before its content. -/
def NumberedNode.anchored : Node Nat → List (Nat × NumberedNode)
  | .alias _ => []
  | .scalar anchor tag style text => underAnchor anchor (.scalar anchor tag style text)
  | .sequence anchor tag items =>
    underAnchor anchor (.sequence anchor tag items) ++ anchoredItems items
  | .mapping anchor tag entries =>
    underAnchor anchor (.mapping anchor tag entries) ++ anchoredEntries entries

/-- The nodes with anchors among items. -/
def anchoredItems : List (Node Nat) → List (Nat × NumberedNode)
  | [] => []
  | item :: rest => NumberedNode.anchored item ++ anchoredItems rest

/-- The nodes with anchors among keys and values. -/
def anchoredEntries : List (Node Nat × Node Nat) → List (Nat × NumberedNode)
  | [] => []
  | (key, value) :: rest =>
    NumberedNode.anchored key ++ NumberedNode.anchored value ++ anchoredEntries rest

end

mutual

/-- The size of a node: aliases and scalars count once, and collections twice and their content. -/
def NumberedNode.size : Node Nat → Nat
  | .alias _ => 1
  | .scalar .. => 1
  | .sequence _ _ items => 2 + itemsSize items
  | .mapping _ _ entries => 2 + entriesSize entries

/-- The size of all items. -/
def itemsSize : List (Node Nat) → Nat
  | [] => 0
  | item :: rest => NumberedNode.size item + itemsSize rest

/-- The size of all keys and values. -/
def entriesSize : List (Node Nat × Node Nat) → Nat
  | [] => 0
  | (key, value) :: rest =>
    NumberedNode.size key + NumberedNode.size value + entriesSize rest

end

/-- How many collections may be inside each other. -/
def maxDepth : Nat := 128

/-- How many aliases may be followed for each unit of a document's size. -/
def maxAliasesPerUnit : Nat := 100

/-- The node that is meant by an alias; the state counts how many may still be followed. -/
def follow (anchored : List (Nat × NumberedNode)) :
    NumberedNode → StateT Nat Option NumberedNode
  | .alias number => do
    match ← get with
    | 0 => failure
    | left + 1 => do
      set left
      match anchored.reverse.lookup number with
      | none => failure
      | some node => pure node
  | node => pure node

/-- The value of a node, at most so many collections deep. -/
def NumberedNode.toValue (anchored : List (Nat × NumberedNode)) :
    Nat → NumberedNode → StateT Nat Option Value
  | depth, node => do
    match ← follow anchored node, depth with
    | .scalar _ tag style text, _ => return .scalar tag style text
    | .sequence _ tag items, depth + 1 =>
      return .sequence tag (← items.mapM (NumberedNode.toValue anchored depth))
    | .mapping _ tag entries, depth + 1 =>
      return .mapping tag (← entries.mapM fun (key, value) ↦ do
        let key ← NumberedNode.toValue anchored depth key
        return (key, ← NumberedNode.toValue anchored depth value))
    | _, _ => failure

/-- The value of a document's node. -/
def NamedNode.toValue? (node : NamedNode) : Option Value := do
  let (node, _) ← (NamedNode.number node).run []
  let aliases := maxAliasesPerUnit * NumberedNode.size node
  let (value, _) ← (NumberedNode.toValue (NumberedNode.anchored node) maxDepth node).run aliases
  return value

/-- The value of the only document of a text; none inside if there is no document. -/
def Value.ofText? (text : List Char) : Option (Option Value) := do
  match ← NamedNode.ofTokens? (← Token.ofText? text) with
  | none => return none
  | some node => return some (← node.toValue?)

end PackageRisk.Yaml
