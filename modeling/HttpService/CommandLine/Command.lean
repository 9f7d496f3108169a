import HttpService.Address.Reading
import HttpService.CommandLine.Options
import HttpService.Text.Decimal

/-!
# Commands

The two commands of the program, read from the words of its command line: one serves the echo service, the other
sends messages to it. The settings file may be named before or after the command; the later place counts.
-/

namespace HttpService

/-- What the program is asked to do. -/
inductive Command where
  /-- Serve at an address, with the routes of a file. -/
  | serve (address : Address) (routes : Option String)
  /-- Send a message to a server so many times. -/
  | echo (host : String) (port : UInt16) (message : String) (count : UInt32)
deriving DecidableEq

/-- A command line. -/
structure CommandLine where
  /-- The file of the settings. -/
  settings : Option String
  command : Command
deriving DecidableEq

namespace CommandLine

/-! ## Values -/

/-- A count with an optional sign, below a bound. -/
def count? (bound : Nat) (s : String) : Option Nat :=
  let (digits, negative) := match s.toList with
    | '-' :: ds => (ds, true)
    | '+' :: ds => (ds, false)
    | ds => (ds, false)
  if digits.isEmpty then none
  else (Decimal.readDigits? 0 digits).filter fun n => n < bound && (!negative || n == 0)

/-- What is wrong with a value that `read?` does not read. -/
def unread {α : Type} (read? : String → Option α) (s : String) : Option Usage :=
  if (read? s).isSome then none else some .badValue

/-- A file has a name. -/
def namedFile (s : String) : Option Usage := if s.isEmpty then some .missingValue else none

/-! ## Options -/

def settingsOption : CommandOption := ⟨"config", some 'c', namedFile⟩
def addressOption : CommandOption := ⟨"addr", some 'a', unread Address.read?⟩
def routesOption : CommandOption := ⟨"routes", some 'r', namedFile⟩
def hostOption : CommandOption := ⟨"host", none, fun _ => none⟩
def portOption : CommandOption := ⟨"port", some 'p', unread (count? (Nat.pow 2 16))⟩
def messageOption : CommandOption := ⟨"message", some 'm', fun _ => none⟩
def countOption : CommandOption := ⟨"count", some 'n', unread (count? (Nat.pow 2 32))⟩

/-- The address that is served unless another is given. -/
def standardAddress : Address := ⟨.four 127 0 0 1, 8080, 0⟩

/-! ## Commands -/

/-- The names of the commands. -/
def commandNames : List String := ["serve", "echo"]

/-- The word that asks for help on a command. -/
def helpWord : String := "help"

/-- The options of a command. -/
def optionsOf (name : String) : List CommandOption :=
  settingsOption :: if name = "serve" then [addressOption, routesOption]
    else [hostOption, portOption, messageOption, countOption]

/-- The command of a name with the options given. -/
def commandOf (name : String) (given : Given) : Command :=
  let value (o : CommandOption) := given.lookup o.name
  let count (o : CommandOption) (bound standard : Nat) := ((value o).bind (count? bound)).getD standard
  if name = "serve" then
    .serve (((value addressOption).bind Address.read?).getD standardAddress) (value routesOption)
  else
    .echo ((value hostOption).getD "localhost") (UInt16.ofNat (count portOption (Nat.pow 2 16) 8080))
      ((value messageOption).getD "hello") (UInt32.ofNat (count countOption (Nat.pow 2 32) 1))

/-- What a request for help on some words comes to. -/
def helpOn : List String → Usage
  | [] => .help
  | [name] => if (helpWord :: commandNames).contains name then .help else .unknownCommand
  | _ => .unknownCommand

/-- Reads a command line. `settings` names the file of the settings where the words do not. -/
def read (settings : Option String) (args : List String) : Except Usage CommandLine := do
  let before ← words [settingsOption] (commandNames ++ [helpWord]) [] none args
  match before.command with
  | none =>
    let given ← before.given.settle before.pending
    -- Without any word that counts, help is shown in the place of a complaint.
    .error (if given.isEmpty && settings.isNone then .helpForMissing else .missingCommand)
  | some (name, rest) =>
    if name = helpWord then .error (helpOn rest)
    let after ← words (optionsOf name) [] [] none rest
    let given ← after.given.settle after.pending
    -- A fault in front of the command is told only after those behind it.
    let outer ← before.given.settle before.pending
    let file := given.lookup settingsOption.name <|> outer.lookup settingsOption.name <|> settings
    return ⟨file, commandOf name given⟩

end CommandLine

end HttpService
