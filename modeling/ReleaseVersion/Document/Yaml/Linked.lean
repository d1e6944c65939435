import ReleaseVersion.Document.Node
import ReleaseVersion.Document.Yaml.Content
import ReleaseVersion.Document.Yaml.Lexer
import ReleaseVersion.Document.Yaml.Tree

/-!
# Linked YAML documents

Going through a document in the order of its text, an anchor is given the number of names known
before it, and an alias means the anchor that its name was last given to.  The node of a number is
the last that was given it.  A linked document is read as a document tree by putting the nodes in
the places of their aliases.
-/

namespace ReleaseVersion.Document.Yaml

/-! ## Anchors -/

/-- The names of anchors and the numbers they were last given, no name twice. -/
abbrev Names :=
  List (String × Nat)

/-- Gives an anchor a number, when a node has one. -/
def Names.add (names : Names) (properties : Properties String) : Properties Nat × Names :=
  match properties.anchor? with
  | none => (⟨none, properties.tag?⟩, names)
  | some name =>
    let number := names.length
    (⟨some number, properties.tag?⟩, (name, number) :: names.filter (·.1 ≠ name))

namespace Tree

mutual

/-- Replaces the names of anchors by numbers; an alias has to come after its anchor. -/
def link (names : Names) : Tree String → Option (Tree Nat × Names)
  | .scalar mark properties isPlain text =>
    let (properties, names) := names.add properties
    some (.scalar mark properties isPlain text, names)
  | .row mark properties items => do
    let (properties, names) := names.add properties
    let (items, names) ← linkItems names items
    some (.row mark properties items, names)
  | .table mark properties entries => do
    let (properties, names) := names.add properties
    let (entries, names) ← linkEntries names entries
    some (.table mark properties entries, names)
  | .aliasTo mark name => do
    let number ← names.lookup name
    some (.aliasTo mark number, names)

/-- Links the items of a row. -/
def linkItems (names : Names) : List (Tree String) → Option (List (Tree Nat) × Names)
  | [] => some ([], names)
  | item :: rest => do
    let (item, names) ← link names item
    let (rest, names) ← linkItems names rest
    some (item :: rest, names)

/-- Links the entries of a table. -/
def linkEntries (names : Names) :
    List (Tree String × Tree String) → Option (List (Tree Nat × Tree Nat) × Names)
  | [] => some ([], names)
  | (key, value) :: rest => do
    let (key, names) ← link names key
    let (value, names) ← link names value
    let (rest, names) ← linkEntries names rest
    some ((key, value) :: rest, names)

end

/-- The properties of a node. -/
def properties {Name : Type} : Tree Name → Properties Name
  | scalar _ properties _ _ => properties
  | row _ properties _ => properties
  | table _ properties _ => properties
  | aliasTo _ _ => Properties.none

mutual

/-- The nodes of a tree in the order of its text. -/
def nodes {Name : Type} : Tree Name → List (Tree Name)
  | scalar mark properties isPlain text => [scalar mark properties isPlain text]
  | row mark properties items => row mark properties items :: nodesOfItems items
  | table mark properties entries => table mark properties entries :: nodesOfEntries entries
  | aliasTo mark name => [aliasTo mark name]

/-- The nodes of the items of a row. -/
def nodesOfItems {Name : Type} : List (Tree Name) → List (Tree Name)
  | [] => []
  | item :: rest => nodes item ++ nodesOfItems rest

/-- The nodes of the entries of a table. -/
def nodesOfEntries {Name : Type} : List (Tree Name × Tree Name) → List (Tree Name)
  | [] => []
  | (key, value) :: rest => nodes key ++ nodes value ++ nodesOfEntries rest

end

end Tree

/-! ## Documents -/

/-- A document whose aliases are linked to its anchors. -/
structure Linked where
  root : Tree Nat
  /-- The nodes with anchors by their numbers, the last one in front. -/
  targets : List (Nat × Tree Nat)

namespace Linked

/-- Links the aliases of a tree. -/
def ofTree? (tree : Tree String) : Option Linked := do
  let (root, _) ← tree.link []
  let targets := root.nodes.filterMap fun node => node.properties.anchor?.map (·, node)
  some ⟨root, targets.reverse⟩

/-- The linked document that a text is. -/
def ofText? (text : List Char) : Option Linked := do
  ofTree? (← Tree.ofTokens? (← tokens? text))

/-- The node that an alias means; other nodes mean themselves. -/
def meaning (document : Linked) (tree : Tree Nat) : Tree Nat :=
  match tree with
  | .aliasTo mark number =>
    (document.targets.lookup number).getD (Tree.empty mark Properties.none)
  | _ => tree

/-- The key that a tree is; only one that is written as a scalar has a label of its own. -/
def toKey (document : Linked) (tree : Tree Nat) : Key Mark :=
  let label := match tree with
    | .scalar _ _ _ text => text
    | _ => "?"
  match document.meaning tree with
  | .scalar mark properties isPlain text =>
    ⟨mark, some text, label, (scalarOf properties.tag? isPlain text).kind⟩
  | .row mark _ _ => ⟨mark, none, label, "sequence"⟩
  | .table mark _ _ => ⟨mark, none, label, "map"⟩
  | .aliasTo mark _ => ⟨mark, none, label, ""⟩

/-- The document tree of a node down to some depth, where collections are left empty. -/
def toNode (document : Linked) : Nat → Tree Nat → Node Mark
  | depth, tree =>
    match depth, document.meaning tree with
    | _, .scalar mark properties isPlain text =>
      .scalar mark (scalarOf properties.tag? isPlain text)
    | 0, .row mark _ _ => .row mark []
    | 0, .table mark _ _ => .table mark []
    | depth + 1, .row mark _ items => .row mark (items.map (toNode document depth))
    | depth + 1, .table mark _ entries =>
      .table mark (entries.map fun (key, value) =>
        (document.toKey key, toNode document depth value))
    | _, .aliasTo mark _ => .row mark []

end Linked

end ReleaseVersion.Document.Yaml
