import ReleaseVersion.Document.Yaml.Linked

/-!
# Values of YAML documents

A document has a value if every content fits its tag and its word, no table has a key twice, and
putting the nodes in the places of their aliases comes to an end within limits: collections lie at
most 128 deep, and every piece of the text brings in no more than a hundred aliases.
-/

namespace ReleaseVersion.Document.Yaml

/-- The value of a node. -/
inductive Value where
  | scalar (content : Content)
  | row (items : List Value)
  | table (entries : List (Value × Value))
  | tagged (label : String) (value : Value)

namespace Value

/-! ## Sameness -/

/-- Whether two contents are the same; undefined numbers are. -/
def sameContent : Content → Content → Bool
  | .nothing, .nothing => true
  | .boolean a, .boolean b => a = b
  | .integer a, .integer b => a = b
  | .number a, .number b => a == b || (a.isNaN && b.isNaN)
  | .string a, .string b => a = b
  | _, _ => false

mutual

/-- Whether two values are the same; the order of entries does not count. -/
def same : Value → Value → Bool
  | scalar a, scalar b => sameContent a b
  | row a, row b => sameItems a b
  | table a, table b => a.length = b.length && sameEntries a b
  | tagged s a, tagged t b => s = t && same a b
  | _, _ => false

/-- Whether two rows have the same items. -/
def sameItems : List Value → List Value → Bool
  | [], [] => true
  | a :: as, b :: bs => same a b && sameItems as bs
  | _, _ => false

/-- Whether all entries of the first table are in the second. -/
def sameEntries : List (Value × Value) → List (Value × Value) → Bool
  | [], _ => true
  | (key, value) :: rest, others =>
    others.any (fun other => same key other.1 && same value other.2) && sameEntries rest others

end

/-! ## Values of nodes -/

/-- How deep collections may lie. -/
def depthLimit : Nat :=
  128

/-- The label of a tag that is not one of the notation's own. -/
def label? (tag : String) : Option String :=
  match tag.toList with
  | ['!'] => some "!"
  | '!' :: '!' :: c :: rest => some (String.ofList (c :: rest))
  | '!' :: rest => some (String.ofList rest)
  | _ => none

/-- A value with the label of a tag. -/
def labelled (tag? : Option String) (value : Value) : Value :=
  match tag?.bind label? with
  | some label => tagged label value
  | none => value

/-- The value of a scalar. -/
def ofScalar? (tag? : Option String) (isPlain : Bool) (text : String) : Option Value := do
  let content ← Content.ofScalar? tag? isPlain text
  if content.fitsWord then some (labelled tag? (scalar content)) else none

/-- The values of items one after the other; the number of aliases left is passed on. -/
def collect {α β : Type} (read : α → Nat → Option (β × Nat)) :
    List α → Nat → Option (List β × Nat)
  | [], left => some ([], left)
  | item :: rest, left => do
    let (value, left) ← read item left
    let (values, left) ← collect read rest left
    some (value :: values, left)

/-- Whether a table has the key. -/
def hasKey (entries : List (Value × Value)) (key : Value) : Bool :=
  entries.any fun entry => same entry.1 key

/-- Whether a table has no key twice. -/
def keysDiffer : List (Value × Value) → Bool
  | [] => true
  | (key, _) :: rest => !hasKey rest key && keysDiffer rest

/-- The node that an alias means, and the number of aliases left. -/
def follow? (document : Linked) (tree : Tree Nat) (left : Nat) : Option (Tree Nat × Nat) :=
  match tree, left with
  | .aliasTo _ _, 0 => none
  | .aliasTo _ _, left + 1 => some (document.meaning tree, left)
  | _, _ => some (tree, left)

/-- The value of a node that lies in collections of which `depth` less one may still follow. -/
def ofNode? (document : Linked) : (depth : Nat) → Tree Nat → Nat → Option (Value × Nat)
  | 0, _, _ => none
  | depth + 1, tree, left => do
    match ← follow? document tree left with
    | (.scalar _ properties isPlain text, left) =>
      some (← ofScalar? properties.tag? isPlain text, left)
    | (.row _ properties items, left) =>
      if depth = 0 then none
      else
        let (items, left) ← collect (ofNode? document depth) items left
        some (labelled properties.tag? (row items), left)
    | (.table _ properties entries, left) =>
      if depth = 0 then none
      else
        let pair := fun (entry : Tree Nat × Tree Nat) left => do
          let (key, left) ← ofNode? document depth entry.1 left
          let (value, left) ← ofNode? document depth entry.2 left
          some ((key, value), left)
        let (entries, left) ← collect pair entries left
        if keysDiffer entries then some (labelled properties.tag? (table entries), left) else none
    | (.aliasTo _ _, _) => none

/-- The pieces of a node's own text: one for a scalar or an alias, and two for a collection. -/
def pieces : Tree Nat → Nat
  | .scalar .. | .aliasTo .. => 1
  | .row .. | .table .. => 2

/-- The value of a document. -/
def ofLinked? (document : Linked) : Option Value :=
  let aliases := 100 * document.root.nodes.foldl (fun count tree => count + pieces tree) 0
  (ofNode? document (depthLimit + 1) document.root aliases).map Prod.fst

end Value

end ReleaseVersion.Document.Yaml
