import HttpService.Text.Decimal

/-!
# Options on a command line

How words are read as options with values, up to a word that names a command. An option has a long name after two
dashes and perhaps a letter after one. Its value follows as the next word or in the same word; after a letter the
value may follow at once, and an equals sign before it is dropped. A value that is a word of its own does not
start with a dash, unless it is nothing but a dash.

An option whose value is still to come is `pending`; the value is checked when the next option or the end of the
words settles it, so a fault of an earlier option wins over that of a later one.
-/

namespace HttpService.CommandLine

/-- What is wrong with the words of a command line, or that they ask for help. -/
inductive Usage where
  | help
  | helpForMissing
  | missingCommand
  | unknownCommand
  | unknownOption
  | missingValue
  | badValue
  | givenTwice
  | needlessValue
deriving DecidableEq, Repr

/-- The name of a kind of usage. -/
def Usage.name : Usage → String
  | .help => "DisplayHelp"
  | .helpForMissing => "DisplayHelpOnMissingArgumentOrSubcommand"
  | .missingCommand => "MissingSubcommand"
  | .unknownCommand => "InvalidSubcommand"
  | .unknownOption => "UnknownArgument"
  | .missingValue => "InvalidValue"
  | .badValue => "ValueValidation"
  | .givenTwice => "ArgumentConflict"
  | .needlessValue => "TooManyValues"

/-- The code with which the program ends: help that was asked for is no failure. -/
def Usage.exitCode : Usage → UInt8
  | .help => 0
  | _ => 2

/-- An option: its long name, its letter, and what is wrong with a value. -/
structure CommandOption where
  name : String
  letter : Option Char
  fault? : String → Option Usage

/-- Options with their values. -/
abbrev Given := List (String × String)

/-- An option whose value is not settled yet, with the value if it has come. -/
abbrev Pending := Option (CommandOption × Option String)

/-- Takes an option with its value. -/
def Given.add (given : Given) (o : CommandOption) (value : String) : Except Usage Given :=
  if (given.lookup o.name).isSome then .error .givenTwice
  else match o.fault? value with
    | some fault => .error fault
    | none => .ok (given ++ [(o.name, value)])

/-- Settles a pending option. -/
def Given.settle (given : Given) : Pending → Except Usage Given
  | none => .ok given
  | some (_, none) => .error .missingValue
  | some (o, some value) => given.add o value

/-- The words of one command: its options, and the command that follows with its words. -/
structure Words where
  given : Given
  pending : Pending
  command : Option (String × List String)

/-- The name and the value in the same word, if there is one. -/
def splitName (cs : List Char) : String × Option String :=
  let name := cs.takeWhile (· != '=')
  (String.ofList name, if name.length < cs.length then some (String.ofList (cs.drop (name.length + 1))) else none)

/-- A long option with the value in its word, or pending. -/
def long (options : List CommandOption) (given : Given) (pending : Pending) (cs : List Char) :
    Except Usage (Given × Pending) :=
  let (name, value) := splitName cs
  if name = "help" then
    if value.isSome then .error .needlessValue
    else do
      let _ ← given.settle pending
      .error .help
  else match options.find? (·.name = name), value with
    | none, _ => .error .unknownOption
    | some o, none => do return (← given.settle pending, some (o, none))
    | some o, some v => do return (← (← given.settle pending).add o v, none)

/-- An option's letter with the value in its word, or pending. -/
def short (options : List CommandOption) (given : Given) (pending : Pending) (letter : Char)
    (cs : List Char) : Except Usage (Given × Pending) :=
  if letter = 'h' then do
    let _ ← given.settle pending
    .error .help
  else match options.find? (·.letter = some letter), cs with
    | none, _ => .error .unknownOption
    | some o, [] => do return (← given.settle pending, some (o, none))
    | some o, c :: rest => do
      return (← (← given.settle pending).add o (String.ofList (if c = '=' then rest else c :: rest)), none)

/-- What is wrong with a word that is neither an option nor a value nor a command. -/
def stray (commands : List String) (afterDashes : Bool) (word : String) : Usage :=
  if commands.isEmpty || (afterDashes && commands.contains word) then .unknownOption else .unknownCommand

/-- Reads the words of one command. -/
def words (options : List CommandOption) (commands : List String) (given : Given) (pending : Pending) :
    List String → Except Usage Words
  | [] => .ok ⟨given, pending, none⟩
  | word :: rest =>
    let awaited : Option CommandOption := match pending with
      | some (o, none) => some o
      | _ => none
    -- A command's name behind an option that awaits its value is that value.
    if awaited.isNone && commands.contains word then .ok ⟨given, pending, some (word, rest)⟩
    else match word.toList with
      | ['-', '-'] =>
        match rest with
        | [] => .ok ⟨given, pending, none⟩
        | next :: _ => .error (stray commands true next)
      | '-' :: '-' :: cs => do
        let (given, pending) ← long options given pending cs
        words options commands given pending rest
      | '-' :: c :: cs => do
        let (given, pending) ← short options given pending c cs
        words options commands given pending rest
      | _ =>
        match awaited with
        | some o => words options commands given (some (o, some word)) rest
        | none => .error (stray commands false word)

end HttpService.CommandLine
