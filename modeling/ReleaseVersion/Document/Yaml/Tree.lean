import ReleaseVersion.Document.Yaml.Token

/-!
# Trees of YAML documents

A document is a tree whose nodes carry anchors and tags, and in which an alias stands for the node
with the anchor of that name.  A tree is read from tokens alone; whether its aliases have a meaning
is not asked here.
-/

namespace ReleaseVersion.Document.Yaml

/-- What is stated in front of a node; tags are in full. -/
structure Properties (Name : Type) where
  anchor? : Option Name
  tag? : Option String
deriving DecidableEq, Repr

/-- No properties. -/
def Properties.none {Name : Type} : Properties Name :=
  ⟨Option.none, Option.none⟩

/-- A tree with anchors of type `Name`. -/
inductive Tree (Name : Type) where
  | scalar (mark : Mark) (properties : Properties Name) (isPlain : Bool) (text : String)
  | row (mark : Mark) (properties : Properties Name) (items : List (Tree Name))
  | table (mark : Mark) (properties : Properties Name) (entries : List (Tree Name × Tree Name))
  | aliasTo (mark : Mark) (name : Name)

namespace Tree

/-! ## Tokens -/

/-- Where the first of some tokens starts. -/
def markOf : List Lexeme → Mark
  | [] => Mark.start
  | lexeme :: _ => lexeme.mark

/-- Whether the first of some tokens is among `stops`. -/
def stopsAt (stops : List Token) (tokens : List Lexeme) : Bool :=
  tokens.head?.any fun lexeme => stops.contains lexeme.token

/-- A node without any text. -/
def empty {Name : Type} (mark : Mark) (properties : Properties Name) : Tree Name :=
  scalar mark properties true ""

/-- Reads an anchor and a tag in either order. -/
def readProperties (handles : List (String × String)) (tokens : List Lexeme) :
    Option (Properties String × List Lexeme) := do
  let (anchor?, tag?, tokens) := match tokens with
    | ⟨_, .anchor name⟩ :: ⟨_, .tag tag⟩ :: rest => (some name, some tag, rest)
    | ⟨_, .tag tag⟩ :: ⟨_, .anchor name⟩ :: rest => (some name, some tag, rest)
    | ⟨_, .anchor name⟩ :: rest => (some name, none, rest)
    | ⟨_, .tag tag⟩ :: rest => (none, some tag, rest)
    | _ => (none, none, tokens)
  match tag? with
  | none => some (⟨anchor?, none⟩, tokens)
  | some tag => do some (⟨anchor?, some (← tag.full? handles)⟩, tokens)

/-- The properties of a scalar, of which the tag `!` is none. -/
def scalarProperties (properties : Properties String) : Properties String :=
  if properties.tag? = some "!" then { properties with tag? := none } else properties

/-! ## Nodes -/

section Reading

variable (handles : List (String × String))

mutual

/-- Reads a node.  Without `block` it has to be one that may stand in brackets, and with
`indentless` it may be a row that is indented no further than the key before it. -/
def readNode (fuel : Nat) (block indentless : Bool) (tokens : List Lexeme) :
    Option (Tree String × List Lexeme) :=
  match fuel with
  | 0 => none
  | fuel + 1 => do
    let mark := markOf tokens
    if let ⟨_, .aliasTo name⟩ :: rest := tokens then
      some (.aliasTo mark name, rest)
    else
      let (properties, tokens) ← readProperties handles tokens
      match tokens with
      | ⟨_, .scalar isPlain text⟩ :: rest =>
        some (.scalar mark (scalarProperties properties) isPlain text, rest)
      | ⟨_, .openRow⟩ :: rest => do
        let (items, rest) ← readFlowItems fuel true rest
        some (.row mark properties items, rest)
      | ⟨_, .openTable⟩ :: rest => do
        let (entries, rest) ← readFlowEntries fuel true rest
        some (.table mark properties entries, rest)
      | _ =>
        if indentless && stopsAt [.dash] tokens then do
          let (items, rest) ← readIndentlessItems fuel tokens
          some (.row mark properties items, rest)
        else if block && stopsAt [.blockRow] tokens then do
          let (items, rest) ← readBlockItems fuel (tokens.drop 1)
          some (.row mark properties items, rest)
        else if block && stopsAt [.blockTable] tokens then do
          let (entries, rest) ← readBlockEntries fuel (tokens.drop 1)
          some (.table mark properties entries, rest)
        else if properties = Properties.none then none
        else some (empty mark properties, tokens)

/-- Reads a node, which is left out where one of `stops` comes next. -/
def readPart (fuel : Nat) (block indentless : Bool) (stops : List Token)
    (tokens : List Lexeme) : Option (Tree String × List Lexeme) :=
  match fuel with
  | 0 => none
  | fuel + 1 =>
    if stopsAt stops tokens then some (empty (markOf tokens) Properties.none, tokens)
    else readNode fuel block indentless tokens

/-- Reads the value of an entry, which is left out where no token announces it. -/
def readValue (fuel : Nat) (block : Bool) (stops : List Token) (tokens : List Lexeme) :
    Option (Tree String × List Lexeme) :=
  match fuel with
  | 0 => none
  | fuel + 1 =>
    match tokens with
    | ⟨_, .value⟩ :: rest => readPart fuel block block stops rest
    | _ => some (empty (markOf tokens) Properties.none, tokens)

/-- Reads the items of a row without brackets, and its end. -/
def readBlockItems (fuel : Nat) (tokens : List Lexeme) :
    Option (List (Tree String) × List Lexeme) :=
  match fuel with
  | 0 => none
  | fuel + 1 =>
    match tokens with
    | ⟨_, .blockEnd⟩ :: rest => some ([], rest)
    | ⟨_, .dash⟩ :: rest => do
      let (item, rest) ← readPart fuel true false [.dash, .blockEnd] rest
      let (items, rest) ← readBlockItems fuel rest
      some (item :: items, rest)
    | _ => none

/-- Reads the items of a row that is indented no further than its key. -/
def readIndentlessItems (fuel : Nat) (tokens : List Lexeme) :
    Option (List (Tree String) × List Lexeme) :=
  match fuel with
  | 0 => none
  | fuel + 1 =>
    match tokens with
    | ⟨_, .dash⟩ :: rest => do
      let (item, rest) ← readPart fuel true false [.dash, .key, .value, .blockEnd] rest
      let (items, rest) ← readIndentlessItems fuel rest
      some (item :: items, rest)
    | _ => some ([], tokens)

/-- Reads the entries of a table without brackets, and its end. -/
def readBlockEntries (fuel : Nat) (tokens : List Lexeme) :
    Option (List (Tree String × Tree String) × List Lexeme) :=
  match fuel with
  | 0 => none
  | fuel + 1 =>
    match tokens with
    | ⟨_, .blockEnd⟩ :: rest => some ([], rest)
    | ⟨_, .key⟩ :: rest => do
      let (key, rest) ← readPart fuel true true [.key, .value, .blockEnd] rest
      let (value, rest) ← readValue fuel true [.key, .value, .blockEnd] rest
      let (entries, rest) ← readBlockEntries fuel rest
      some ((key, value) :: entries, rest)
    | _ => none

/-- Reads the items of a row in brackets, and its closing bracket; a comma stands in front of
every item but the first.  An item with a key is a table with one entry.  Where such a key is left
out, the token that ends it counts as read. -/
def readFlowItems (fuel : Nat) (isFirst : Bool) (tokens : List Lexeme) :
    Option (List (Tree String) × List Lexeme) :=
  match fuel with
  | 0 => none
  | fuel + 1 => do
    if let ⟨_, .closeRow⟩ :: rest := tokens then some ([], rest)
    else
      let tokens ← match isFirst, tokens with
        | true, _ => some tokens
        | false, ⟨_, .comma⟩ :: rest => some rest
        | false, _ => none
      match tokens with
      | ⟨_, .closeRow⟩ :: rest => some ([], rest)
      | ⟨mark, .key⟩ :: rest => do
        let stops := [.value, .comma, .closeRow]
        let (key, rest) ← readPart fuel false false stops rest
          |>.map fun (key, after) => (key, if stopsAt stops rest then after.drop 1 else after)
        let (value, rest) ← readValue fuel false [.comma, .closeRow] rest
        let (items, rest) ← readFlowItems fuel false rest
        some (.table mark Properties.none [(key, value)] :: items, rest)
      | _ => do
        let (item, rest) ← readNode fuel false false tokens
        let (items, rest) ← readFlowItems fuel false rest
        some (item :: items, rest)

/-- Reads the entries of a table in brackets, and its closing bracket; a comma stands in front of
every entry but the first. -/
def readFlowEntries (fuel : Nat) (isFirst : Bool) (tokens : List Lexeme) :
    Option (List (Tree String × Tree String) × List Lexeme) :=
  match fuel with
  | 0 => none
  | fuel + 1 => do
    if let ⟨_, .closeTable⟩ :: rest := tokens then some ([], rest)
    else
      let tokens ← match isFirst, tokens with
        | true, _ => some tokens
        | false, ⟨_, .comma⟩ :: rest => some rest
        | false, _ => none
      match tokens with
      | ⟨_, .closeTable⟩ :: rest => some ([], rest)
      | ⟨_, .key⟩ :: rest => do
        let (key, rest) ← readPart fuel false false [.value, .comma, .closeTable] rest
        let (value, rest) ← readValue fuel false [.comma, .closeTable] rest
        let (entries, rest) ← readFlowEntries fuel false rest
        some ((key, value) :: entries, rest)
      | _ => do
        let (key, rest) ← readNode fuel false false tokens
        let value := empty (markOf rest) Properties.none
        let (entries, rest) ← readFlowEntries fuel false rest
        some ((key, value) :: entries, rest)

end

end Reading

/-! ## Documents -/

/-- Reads directives. -/
def readDirectives : List Lexeme → List Directive × List Lexeme
  | ⟨_, .directive directive⟩ :: rest =>
    let (directives, rest) := readDirectives rest
    (directive :: directives, rest)
  | tokens => ([], tokens)

/-- Whether the content of a document is left out. -/
def isLeftOut (tokens : List Lexeme) : Bool :=
  match tokens with
  | [] | ⟨_, .directive _⟩ :: _ | ⟨_, .documentStart⟩ :: _ | ⟨_, .documentEnd⟩ :: _ => true
  | _ => false

/-- Reads the content of a document. -/
def readContent (handles : List (String × String)) (tokens : List Lexeme) :
    Option (Tree String × List Lexeme) :=
  readNode handles (4 * tokens.length + 4) true false tokens

/-- The tree of the only document among the tokens.  A document that is marked as such may be left
blank, and so may the whole text. -/
def ofTokens? (tokens : List Lexeme) : Option (Tree String) := do
  let (directives, rest) := readDirectives tokens
  let handles ← handlesOf directives
  let (tree, rest) ← match rest with
    | ⟨mark, .documentStart⟩ :: rest =>
      if isLeftOut rest then some (empty mark Properties.none, rest)
      else readContent handles rest
    | [] =>
      if directives.isEmpty then some (empty Mark.start Properties.none, []) else none
    | _ => if directives.isEmpty then readContent handles rest else none
  if rest.all (·.token = .documentEnd) then some tree else none

end Tree

end ReleaseVersion.Document.Yaml
