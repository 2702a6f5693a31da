/-
The arguments of the command line: one file of operations, and options.

* `Options.ofArguments` — the options of a row of arguments, or the reason why it
  has none.
-/

namespace CashMachine

/-- What the arguments ask for. -/
structure Options where
  /-- The file of operations. -/
  input : String
  /-- The file of settings. -/
  config : Option String
  /-- Receipts are printed. -/
  receipts : Bool
  /-- The status is printed in the end. -/
  status : Bool
deriving DecidableEq, Repr

/-- Why arguments are not followed. -/
inductive ArgumentError where
  /-- Help is asked for, in full or in short. -/
  | help (full : Bool)
  | noFile
  | unexpected (argument : String)
  | noValue (option : String)
  | repeated (option : String)
deriving DecidableEq, Repr

namespace ArgumentError

def usage : String := "Usage: main [OPTIONS] <FILE>\n"

def about : String := "An ATM engine that replays operation CSVs\n\n"

/-- Help in short: one line for each option. -/
def shortHelp : String :=
  about ++ usage ++ "\n" ++
  "Arguments:\n" ++
  "  <FILE>  Path to CSV file with operations\n" ++
  "\n" ++
  "Options:\n" ++
  "      --config <CONFIG>  " ++
    "Machine configuration file (defaults to ./atm.toml when present)\n" ++
  "      --receipts         " ++
    "Print a receipt to stderr after each successful customer operation\n" ++
  "      --status           " ++
    "Print the machine status report to stderr once all operations ran\n" ++
  "  -h, --help             Print help (see more with '--help')\n"

/-- Help in full: a paragraph for each option. -/
def fullHelp : String :=
  about ++ usage ++ "\n" ++
  "Arguments:\n" ++
  "  <FILE>\n" ++
  "          Path to CSV file with operations\n" ++
  "          \n" ++
  "          Expected format: op,account,to,amount,detail " ++
    "Example: cargo run -- operations.csv > accounts.csv\n" ++
  "\n" ++
  "Options:\n" ++
  "      --config <CONFIG>\n" ++
  "          Machine configuration file (defaults to ./atm.toml when present)\n" ++
  "\n" ++
  "      --receipts\n" ++
  "          Print a receipt to stderr after each successful customer operation\n" ++
  "\n" ++
  "      --status\n" ++
  "          Print the machine status report to stderr once all operations ran\n" ++
  "\n" ++
  "  -h, --help\n" ++
  "          Print help (see a summary with '-h')\n"

/-- What is said about arguments that are not followed. -/
def message : ArgumentError → String
  | help full => if full then fullHelp else shortHelp
  | noFile => "error: the file of operations is missing\n\n" ++ usage
  | unexpected argument => "error: unexpected argument '" ++ argument ++ "'\n\n" ++ usage
  | noValue option => "error: a value is required for '" ++ option ++ "'\n\n" ++ usage
  | repeated option => "error: '" ++ option ++ "' is used more than once\n\n" ++ usage

end ArgumentError

namespace Options

/-- What has been read of the arguments. -/
structure Partial where
  input : Option String := none
  config : Option String := none
  receipts : Bool := false
  status : Bool := false

namespace Partial

def takeInput (p : Partial) (argument : String) : Except ArgumentError Partial :=
  if argument.isEmpty then .error (.noValue "FILE")
  else if p.input.isSome then .error (.unexpected argument)
  else .ok { p with input := some argument }

def takeConfig (p : Partial) (value : String) : Except ArgumentError Partial :=
  if value.isEmpty then .error (.noValue "--config")
  else if p.config.isSome then .error (.repeated "--config")
  else .ok { p with config := some value }

def takeReceipts (p : Partial) : Except ArgumentError Partial :=
  if p.receipts then .error (.repeated "--receipts") else .ok { p with receipts := true }

def takeStatus (p : Partial) : Except ArgumentError Partial :=
  if p.status then .error (.repeated "--status") else .ok { p with status := true }

/-- The options, when there is a file. -/
def finish (p : Partial) : Except ArgumentError Options :=
  match p.input with
  | some input => .ok ⟨input, p.config, p.receipts, p.status⟩
  | none => .error .noFile

end Partial

/-- An argument that is an option, and no value: it starts with a hyphen that is not
all of it. -/
def isOption (argument : String) : Bool :=
  match argument.toList with
  | '-' :: _ :: _ => true
  | _ => false

/-- The value of an option that is joined to it by an equals sign. -/
def joinedValue? (option argument : String) : Option String :=
  let start := option.toList ++ ['=']
  if start.isPrefixOf argument.toList then
    some (String.ofList (argument.toList.drop start.length))
  else none

/-- An argument that asks for help: whether it is for help in full. -/
def help? (argument : String) : Option Bool :=
  if argument = "--help" then some true
  else if ['-', 'h'].isPrefixOf argument.toList then some false
  else none

/-- Takes arguments one after the other. -/
def take (p : Partial) : List String → Except ArgumentError Partial
  | [] => .ok p
  | argument :: rest =>
    if argument = "--" then rest.foldlM Partial.takeInput p
    else if argument = "--receipts" then p.takeReceipts >>= fun p => take p rest
    else if argument = "--status" then p.takeStatus >>= fun p => take p rest
    else if argument = "--config" then
      match rest with
      | [] => .error (.noValue argument)
      | value :: rest =>
        if isOption value then .error (.noValue argument)
        else p.takeConfig value >>= fun p => take p rest
    else
      match joinedValue? "--config" argument with
      | some value => p.takeConfig value >>= fun p => take p rest
      | none =>
        match help? argument with
        | some full => .error (.help full)
        | none =>
          if isOption argument then .error (.unexpected argument)
          else p.takeInput argument >>= fun p => take p rest

/-- The options of arguments. -/
def ofArguments (arguments : List String) : Except ArgumentError Options :=
  take {} arguments >>= Partial.finish

end Options

end CashMachine
