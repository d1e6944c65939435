import ReleaseVersion.Document.Yaml.Block
import ReleaseVersion.Document.Yaml.Quoted
import ReleaseVersion.Document.Yaml.Token

/-!
# Dividing YAML documents into tokens

Whether a node is a key shows only when a colon follows it.  The lexer therefore remembers, for
every level of brackets, the token that may turn out to be the start of a key, and puts the token
for the key in front of it once the colon is there.  A key without a question mark must be on one
line and not be longer than 1024 characters.

Outside brackets, tokens that stand further in than the collection around them start a collection,
and tokens that stand further out end collections.
-/

namespace ReleaseVersion.Document.Yaml

/-- A token that may turn out to be the start of a key. -/
structure Candidate where
  /-- The number of tokens before it. -/
  position : Nat
  mark : Mark
  /-- Whether nothing but a key may stand there. -/
  isRequired : Bool
deriving DecidableEq, Repr

/-- What is known after some tokens. -/
structure Lexer where
  cursor : Cursor
  /-- The tokens so far, the last in front. -/
  found : List Lexeme
  /-- The columns of the open collections without brackets, the innermost in front. -/
  columns : List Nat
  /-- The candidate within the innermost brackets. -/
  candidate : Option Candidate
  /-- The candidates within the brackets around them. -/
  outer : List (Option Candidate)
  /-- Whether a key without a question mark may start here. -/
  keyAllowed : Bool

namespace Lexer

/-- The lexer before a text. -/
def start (text : List Char) : Lexer :=
  ⟨⟨Mark.start, text⟩, [], [], none, [], true⟩

/-- Whether the lexer is within brackets. -/
def inFlow (lexer : Lexer) : Bool :=
  !lexer.outer.isEmpty

/-- The column of the innermost collection without brackets, one less than zero when there is
none. -/
def indent (lexer : Lexer) : Int :=
  match lexer.columns with
  | [] => -1
  | column :: _ => column

/-- The lexer with one more token. -/
def push (lexer : Lexer) (mark : Mark) (token : Token) : Lexer :=
  { lexer with found := ⟨mark, token⟩ :: lexer.found }

/-- The lexer with a token put behind the first `position` tokens. -/
def insert (lexer : Lexer) (position : Nat) (mark : Mark) (token : Token) : Lexer :=
  let (later, earlier) := lexer.found.splitAt (lexer.found.length - position)
  { lexer with found := later ++ ⟨mark, token⟩ :: earlier }

/-- The lexer after `n` more characters of the line. -/
def skip (lexer : Lexer) (n : Nat) : Lexer :=
  { lexer with cursor := lexer.cursor.skip n }

/-! ## White space -/

/-- The place where the next token starts, and whether a key may start there, which every line end
outside brackets allows.  A tab counts as white space only in brackets or where no key may start. -/
def skipSpace (flow keyAllowed : Bool) (mark : Mark) (inComment : Bool) :
    List Char → Cursor × Bool
  | [] => (⟨mark, []⟩, keyAllowed)
  | '\r' :: '\n' :: rest => skipSpace flow (keyAllowed || !flow) (mark.newLine 2) false rest
  | c :: rest =>
    if isBreak c then skipSpace flow (keyAllowed || !flow) (mark.newLine 1) false rest
    else if inComment || c = ' ' || (c = '\t' && (flow || !keyAllowed)) then
      skipSpace flow keyAllowed (mark.skip 1) inComment rest
    else if c = '#' then skipSpace flow keyAllowed (mark.skip 1) true rest
    else if c.toNat = 0xFEFF && mark.column = 0 then
      skipSpace flow keyAllowed (mark.skip 1) false rest
    else (⟨mark, c :: rest⟩, keyAllowed)

/-- The lexer at the next token. -/
def toToken (lexer : Lexer) : Lexer :=
  let (cursor, keyAllowed) :=
    skipSpace lexer.inFlow lexer.keyAllowed lexer.cursor.mark false lexer.cursor.rest
  { lexer with cursor := cursor, keyAllowed := keyAllowed }

/-! ## Candidates for keys -/

/-- Whether a key that starts at `candidate` could still end at `mark`. -/
def Candidate.reaches (candidate : Candidate) (mark : Mark) : Bool :=
  mark.line ≤ candidate.mark.line && mark.index ≤ candidate.mark.index + 1024

/-- Drops a candidate that is too far away, unless it was required. -/
def keepNear (mark : Mark) : Option Candidate → Option (Option Candidate)
  | none => some none
  | some candidate =>
    if Candidate.reaches candidate mark then some (some candidate)
    else if candidate.isRequired then none
    else some none

/-- Drops all candidates that are too far away. -/
def dropFar? (lexer : Lexer) : Option Lexer := do
  let candidate ← keepNear lexer.cursor.mark lexer.candidate
  let outer ← lexer.outer.mapM (keepNear lexer.cursor.mark)
  some { lexer with candidate := candidate, outer := outer }

/-- Drops the candidate within the innermost brackets, unless it was required. -/
def dropCandidate? (lexer : Lexer) : Option Lexer :=
  if lexer.candidate.any (·.isRequired) then none else some { lexer with candidate := none }

/-- Takes the next token as a candidate, where a key may start. -/
def addCandidate? (lexer : Lexer) : Option Lexer :=
  if lexer.keyAllowed then do
    let lexer ← lexer.dropCandidate?
    let mark := lexer.cursor.mark
    let isRequired := !lexer.inFlow && lexer.indent = mark.column
    some { lexer with candidate := some ⟨lexer.found.length, mark, isRequired⟩ }
  else some lexer

/-! ## Indentation -/

/-- Starts a collection behind the first `position` tokens, if its column is further in. -/
def indentTo (lexer : Lexer) (mark : Mark) (position : Nat) (token : Token) : Lexer :=
  if lexer.inFlow || mark.column ≤ lexer.indent then lexer
  else { lexer.insert position mark token with columns := mark.column :: lexer.columns }

/-- Ends the collections that are further in than `column`. -/
def outdentTo (lexer : Lexer) (column : Int) : Lexer :=
  if lexer.inFlow then lexer
  else
    let closed := lexer.columns.takeWhile fun (opened : Nat) => column < opened
    let marks := closed.map fun _ => (⟨lexer.cursor.mark, .blockEnd⟩ : Lexeme)
    { lexer with
      found := marks ++ lexer.found
      columns := lexer.columns.drop closed.length }

/-- Ends all collections without brackets. -/
def outdent? (lexer : Lexer) : Option Lexer :=
  ({ lexer.outdentTo (-1) with keyAllowed := false }).dropCandidate?

/-! ## Tokens -/

/-- Reads the mark of a document. -/
def documentMark? (lexer : Lexer) (token : Token) : Option Lexer := do
  let lexer ← lexer.outdent?
  some ((lexer.push lexer.cursor.mark token).skip 3)

/-- Reads an opening bracket. -/
def opening? (lexer : Lexer) (token : Token) : Option Lexer := do
  let lexer ← lexer.addCandidate?
  let lexer := (lexer.push lexer.cursor.mark token).skip 1
  some { lexer with
    candidate := none
    outer := lexer.candidate :: lexer.outer
    keyAllowed := true }

/-- Reads a closing bracket. -/
def closing? (lexer : Lexer) (token : Token) : Option Lexer := do
  let lexer ← lexer.dropCandidate?
  let lexer := { (lexer.push lexer.cursor.mark token).skip 1 with keyAllowed := false }
  match lexer.outer with
  | [] => some lexer
  | candidate :: outer => some { lexer with candidate := candidate, outer := outer }

/-- Reads an indicator of one character before which no key can have started. -/
def separator? (lexer : Lexer) (token : Token) (keyAllowed : Bool) : Option Lexer := do
  let lexer ← lexer.dropCandidate?
  some { (lexer.push lexer.cursor.mark token).skip 1 with keyAllowed := keyAllowed }

/-- Starts a collection for an indicator, which outside brackets has to stand where a key may
start. -/
def collection? (lexer : Lexer) (token : Token) : Option Lexer :=
  if lexer.inFlow then some lexer
  else if !lexer.keyAllowed then none
  else some (lexer.indentTo lexer.cursor.mark lexer.found.length token)

/-- Reads a colon, which makes the candidate a key. -/
def value? (lexer : Lexer) : Option Lexer :=
  match lexer.candidate with
  | some candidate =>
    let lexer := (lexer.insert candidate.position candidate.mark .key).indentTo candidate.mark
      candidate.position .blockTable
    some { (lexer.push lexer.cursor.mark .value).skip 1 with
      candidate := none
      keyAllowed := false }
  | none => do
    let lexer ← lexer.collection? .blockTable
    some { (lexer.push lexer.cursor.mark .value).skip 1 with keyAllowed := !lexer.inFlow }

/-- The lexer after a token that a reader has read from its cursor. -/
def reads (lexer : Lexer) (token : Token) (cursor : Cursor) : Lexer :=
  { lexer.push lexer.cursor.mark token with cursor := cursor }

/-- Reads the name of an anchor or an alias. -/
def name? (lexer : Lexer) (token : String → Token) : Option Lexer := do
  let lexer ← lexer.addCandidate?
  let (name, cursor) := (lexer.cursor.skip 1).span isNameChar
  let isOver := atGap cursor.rest || cursor.rest.head?.any "?:,]\x7d%@`".toList.contains
  if name = [] || !isOver then none
  else some { lexer.reads (token (String.ofList name)) cursor with keyAllowed := false }

/-- Reads a tag. -/
def tag? (lexer : Lexer) : Option Lexer := do
  let lexer ← lexer.addCandidate?
  let (tag, cursor) ← readTag lexer.inFlow lexer.cursor
  some { lexer.reads (.tag tag) cursor with keyAllowed := false }

/-- Reads a block scalar. -/
def block? (lexer : Lexer) (folds : Bool) : Option Lexer := do
  let lexer ← lexer.dropCandidate?
  let (text, cursor) ← readBlock folds lexer.indent (lexer.cursor.skip 1)
  some { lexer.reads (.scalar false (String.ofList text)) cursor with keyAllowed := true }

/-- Reads a quoted scalar after its opening quote. -/
def quoted? (lexer : Lexer)
    (reader : Words → Mark → List Char → Option (Words × Cursor)) : Option Lexer := do
  let lexer ← lexer.addCandidate?
  let (words, cursor) ← reader Words.none (lexer.cursor.mark.skip 1) (lexer.cursor.rest.drop 1)
  some { lexer.reads (.scalar false (String.ofList words.text.reverse)) cursor with
    keyAllowed := false }

/-- Reads a plain scalar.  When line ends have been passed after it, a key may start. -/
def plain? (lexer : Lexer) : Option Lexer := do
  let lexer ← lexer.addCandidate?
  let (words, cursor) ← readPlain lexer.inFlow (lexer.indent + 1).toNat Words.none true
    lexer.cursor.mark lexer.cursor.rest
  some { lexer.reads (.scalar true (String.ofList words.text.reverse)) cursor with
    keyAllowed := words.gap.isFolded }

/-- Characters that cannot start a plain scalar, or only before certain others. -/
def isIndicator (c : Char) : Bool :=
  "-?:,[]\x7b\x7d#&*!|>'\"%@`".toList.contains c

/-- Whether a plain scalar may start with `c`, with `rest` after it. -/
def startsPlain (flow : Bool) (c : Char) (rest : List Char) : Bool :=
  !(isBlank c || isBreak c || isIndicator c) ||
    (c = '-' && !rest.head?.any isBlank) ||
    (!flow && (c = '?' || c = ':') && !atGap rest)

/-- Reads the token that starts with `c`, with `rest` after it. -/
def token? (lexer : Lexer) (c : Char) (rest : List Char) : Option Lexer :=
  let flow := lexer.inFlow
  let atStart := lexer.cursor.mark.column = 0
  if atStart && c = '%' then do
    let lexer ← lexer.outdent?
    let (directive, cursor) ← readDirective (lexer.cursor.skip 1)
    some (lexer.reads (.directive directive) cursor)
  else if atStart && atDocumentMark (c :: rest) then
    lexer.documentMark? (if c = '-' then .documentStart else .documentEnd)
  else
    match c with
    | '[' => lexer.opening? .openRow
    | '\x7b' => lexer.opening? .openTable
    | ']' => lexer.closing? .closeRow
    | '\x7d' => lexer.closing? .closeTable
    | ',' => lexer.separator? .comma true
    | '*' => lexer.name? .aliasTo
    | '&' => lexer.name? .anchor
    | '!' => lexer.tag?
    | '\'' => lexer.quoted? readSingle
    | '"' => lexer.quoted? readDouble
    | _ =>
      if c = '-' && atGap rest then do
        (← lexer.collection? .blockRow).separator? .dash true
      else if c = '?' && (flow || atGap rest) then do
        (← lexer.collection? .blockTable).separator? .key (!flow)
      else if c = ':' && (flow || atGap rest) then lexer.value?
      else if (c = '|' || c = '>') && !flow then lexer.block? (c = '>')
      else if startsPlain flow c rest then lexer.plain?
      else none

/-- Reads on until the text is over. -/
def run? : (fuel : Nat) → Lexer → Option (List Lexeme)
  | 0, _ => none
  | fuel + 1, lexer => do
    let lexer ← lexer.toToken.dropFar?
    match lexer.cursor.rest with
    | [] =>
      let lexer ← lexer.outdent?
      some lexer.found.reverse
    | c :: rest => run? fuel (← (lexer.outdentTo lexer.cursor.mark.column).token? c rest)

end Lexer

/-- The tokens of a text, of which every character has to be allowed.  Every token has at least one
character of its own. -/
def tokens? (text : List Char) : Option (List Lexeme) :=
  if text.all isAllowed then (Lexer.start text).run? (text.length + 1) else none

end ReleaseVersion.Document.Yaml
