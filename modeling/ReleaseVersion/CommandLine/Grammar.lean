/-!
# Grammars of arguments

Arguments are options, values of options, and the rest.  An option starts with two dashes, and its
value follows an equals sign or is the next argument, which then must not look like an option
itself; a single dash does not.  After an argument of two dashes all others are of the third kind.
No option may be given twice.
-/

namespace ReleaseVersion.CommandLine

/-- Whether an option has a value. -/
inductive Arity where
  | never
  | always
  /-- It may have one. -/
  | maybe
deriving DecidableEq, Repr

/-- An option. -/
structure OptionRule where
  name : String
  arity : Arity
  /-- Whether its value may be empty. -/
  takesEmpty : Bool
deriving DecidableEq, Repr

/-- What a command, or the program in front of its command, understands. -/
structure Grammar where
  options : List OptionRule
  /-- How many arguments may be neither options nor values. -/
  positions : Nat
  /-- The names that end the arguments of the program and start those of a command. -/
  commands : List String
  /-- Whether the version of the program can be asked for. -/
  tellsVersion : Bool
deriving DecidableEq, Repr

/-- Why arguments are not carried out. -/
inductive Halt where
  /-- Help is asked for. -/
  | help
  /-- The version of the program is asked for. -/
  | version
  /-- The arguments make no sense. -/
  | misuse
deriving DecidableEq, Repr

/-- What arguments give. -/
structure Given where
  /-- The options with their values. -/
  options : List (String × Option String)
  /-- The arguments that are neither options nor values, in order. -/
  positions : List String
deriving DecidableEq, Repr

namespace Given

/-- Nothing. -/
def none : Given :=
  ⟨[], []⟩

/-- Whether an option is given. -/
def has (given : Given) (name : String) : Bool :=
  given.options.any (·.1 = name)

/-- The value of an option, when it is given with one. -/
def value? (given : Given) (name : String) : Option String :=
  (given.options.lookup name).join

end Given

/-- Arguments up to the end or to the name of a command, with the arguments after it. -/
structure Division where
  given : Given
  command? : Option (String × List String)
deriving DecidableEq, Repr

/-! ## Forms of arguments -/

/-- The form of an argument. -/
inductive Form where
  /-- Two dashes alone. -/
  | fence
  /-- Two dashes and the name of an option, perhaps with a value after an equals sign. -/
  | long (name : String) (value? : Option String)
  /-- One dash and a letter. -/
  | short (letter : Char)
  /-- Anything else. -/
  | plain
deriving DecidableEq, Repr

/-- The form of an argument. -/
def formOf (argument : String) : Form :=
  match argument.toList with
  | ['-', '-'] => .fence
  | '-' :: '-' :: rest =>
    let name := String.ofList (rest.takeWhile (· ≠ '='))
    match rest.dropWhile (· ≠ '=') with
    | _ :: value => .long name (some (String.ofList value))
    | [] => .long name none
  | '-' :: letter :: _ => .short letter
  | _ => .plain

/-! ## Reading -/

namespace Grammar

/-- The answer to a letter after a single dash. -/
def haltOf (grammar : Grammar) (letter : Char) : Halt :=
  if letter = 'h' then .help
  else if letter = 'V' ∧ grammar.tellsVersion then .version
  else .misuse

/-- The answer to a question that is asked in place of an option. -/
def question? (grammar : Grammar) (name : String) : Option Halt :=
  if name = "help" then some .help
  else if name = "version" ∧ grammar.tellsVersion then some .version
  else none

/-- What is given with one more option. -/
def addOption (grammar : Grammar) (given : Given) (name : String) (value? : Option String) :
    Except Halt Given :=
  match grammar.options.find? (·.name = name) with
  | none => .error .misuse
  | some rule =>
    let fits := match rule.arity, value? with
      | .never, none | .maybe, none => true
      | .never, some _ | .always, none => false
      | .always, some value | .maybe, some value => rule.takesEmpty || !value.isEmpty
    if given.has name || !fits then .error .misuse
    else .ok { given with options := (name, value?) :: given.options }

/-- What is given with one more argument that is neither an option nor a value. -/
def addPosition (grammar : Grammar) (given : Given) (argument : String) : Except Halt Given :=
  if given.positions.length < grammar.positions then
    .ok { given with positions := given.positions ++ [argument] }
  else .error .misuse

/-- Whether an option takes the next argument as its value. -/
def takesNext (grammar : Grammar) (name : String) (next : String) : Bool :=
  formOf next = .plain &&
    grammar.options.any fun rule => rule.name = name && rule.arity ≠ .never

/-- Goes through the arguments. -/
def divide (grammar : Grammar) (given : Given) : List String → Except Halt Division
  | [] => .ok ⟨given, none⟩
  | argument :: rest =>
    match formOf argument with
    | .fence => do
      let given ← rest.foldlM grammar.addPosition given
      .ok ⟨given, none⟩
    | .short letter => .error (grammar.haltOf letter)
    | .plain =>
      if argument ∈ grammar.commands then .ok ⟨given, some (argument, rest)⟩
      else do
        let given ← grammar.addPosition given argument
        grammar.divide given rest
    | .long name (some value) => do
      let given ← if (grammar.question? name).isSome then .error .misuse
        else grammar.addOption given name (some value)
      grammar.divide given rest
    | .long name none =>
      match grammar.question? name with
      | some halt => .error halt
      | none =>
        match rest with
        | [] => do
          let given ← grammar.addOption given name none
          .ok ⟨given, none⟩
        | next :: later =>
          if grammar.takesNext name next then do
            let given ← grammar.addOption given name (some next)
            grammar.divide given later
          else do
            let given ← grammar.addOption given name none
            grammar.divide given (next :: later)

end Grammar

end ReleaseVersion.CommandLine
