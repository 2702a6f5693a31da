/-
The command: replaying a file of operations on a machine that is set up from
settings, over stores in memory.

Everything that the command finds around it is given to it (`Surroundings`); it
gives back what it writes and the code it ends with.  Arguments that are not
followed end it before anything is looked at.
-/
import CashMachine.Batch.Chronicle
import CashMachine.CommandLine.LogFilter
import CashMachine.CommandLine.Options
import CashMachine.Settings.Layers
import CashMachine.Store.Memory

namespace CashMachine.CommandLine

/-- What the command finds around it. -/
structure Surroundings where
  /-- The octets of each file. -/
  files : String → Option (List UInt8)
  isDirectory : String → Bool
  environment : List (String × String)
  /-- The filter of the log that is wanted instead of the one of the settings. -/
  logFilter : Option String := none
  /-- The names that sources have in the log. -/
  sourceName : Log.Source → String := Log.Source.name
  /-- The names and times of new transactions. -/
  stamps : Nat → Stamp

/-- What the command leaves behind. -/
structure Output where
  code : Nat
  stdout : String
  stderr : String
deriving DecidableEq, Repr

/-- The end of a command that failed. -/
def failed (code : Nat) (message : String) : Output :=
  ⟨code, "", message⟩

/-- The end of a command whose arguments are not followed: help is no failure. -/
def refused : ArgumentError → Output
  | .help full => ⟨0, (ArgumentError.help full).message, ""⟩
  | e => failed 2 e.message

/-- The output with something said before everything else. -/
def Output.after (out : Output) (said : List String) : Output :=
  { out with stderr := String.join said ++ out.stderr }

/-- The text of a file. -/
def Surroundings.text (s : Surroundings) (name : String) : Option String :=
  (s.files name).map fun bytes =>
    (String.fromUTF8? (ByteArray.mk bytes.toArray)).getD "\ufffd"

/-- The octets of the file of operations.  A directory can be opened, and holds none. -/
def Surroundings.input? (s : Surroundings) (name : String) : Option (List UInt8) :=
  if s.isDirectory name then some [] else s.files name

/-! ### The log -/

/-- The filter of the log: one from outside, if nothing is wrong with it, and else the one
of the settings. -/
def logFilter (outside : Option String) (level : String) : String :=
  (outside.filter fun filter => (LogFilter.complaints filter).isEmpty).getD level

/-- An entry of the log as it is written, if the directives of the filter let it through. -/
def Surroundings.logged (s : Surroundings) (filter : List LogFilter.Directive)
    (e : Log.Entry) : String :=
  let source := s.sourceName e.source
  if LogFilter.admits filter source e then e.text (s.stamps 0).time source else ""

/-- The text of something that leaves the machine. -/
def Surroundings.uttered (s : Surroundings) (filter : List LogFilter.Directive) :
    Batch.Utterance → String
  | .printed p => p.text
  | .logged e => s.logged filter e

/-! ### Running -/

/-- The paths that a path leads through: what stands in front of each slash in it. -/
def pathsThrough (name : String) : List String :=
  let names := (Text.parts (· == '/') name.toList).map String.ofList
  (List.range' 1 (names.length - 1)).map fun n => "/".intercalate (names.take n)

/-- What is said about a file that cannot be opened: it is not there, or it would be within
a file. -/
def Surroundings.openingFault (s : Surroundings) (name : String) : String :=
  if (pathsThrough name).any fun path => (s.files path).isSome then
    "Not a directory (os error 20)"
  else "No such file or directory (os error 2)"

/-- Replays operations and reports. -/
def report (o : Options) (s : Surroundings) (filter : List LogFilter.Directive)
    (machine : Machine) (memory : Memory) (operations : List UInt8) : Output :=
  let rows := Batch.stampedRows s.stamps 0 operations
  let result := Batch.chronicle Memory.stores o.receipts ⟨machine, memory⟩ rows
  let machine := result.session.machine
  let said := String.join (result.said.map (s.uttered filter))
  ⟨0, Batch.accountsTable machine.accounts, if o.status then said ++ machine.status.text else said⟩

/-- Opens the file of operations and replays it. -/
def openAndReport (o : Options) (s : Surroundings) (filter : List LogFilter.Directive)
    (machine : Machine) (memory : Memory) : Output :=
  match s.input? o.input with
  | none =>
    failed 1 ("Error opening file '" ++ o.input ++ "': " ++ s.openingFault o.input ++ "\n")
  | some operations => report o s filter machine memory operations

/-- Sets the machine up and goes on with its operations. -/
def operate (o : Options) (s : Surroundings) (settings : Settings) : Output :=
  let filter := LogFilter.directives (logFilter s.logFilter settings.logLevel)
  match settings.build Memory.stores Memory.empty with
  | (.error e, _) => failed 1 ("Error configuring machine: " ++ e.message ++ "\n")
  | (.ok machine, memory) =>
    (openAndReport o s filter machine memory).after [s.logged filter (Log.ofMachine machine)]

def runWith (o : Options) (s : Surroundings) : Output :=
  match Settings.load s.text o.config s.environment with
  | .error e => failed 1 ("Error loading configuration: " ++ e.message ++ "\n")
  | .ok settings =>
    (operate o s settings).after
      (LogFilter.complaints (logFilter s.logFilter settings.logLevel))

def run (arguments : List String) (s : Surroundings) : Output :=
  match Options.ofArguments arguments with
  | .error e => refused e
  | .ok o => runWith o s

/-- The files that the command may ask for. -/
def filesAsked (arguments : List String) : List String :=
  match Options.ofArguments arguments with
  | .error _ => []
  | .ok o =>
    o.input :: pathsThrough o.input ++
      Settings.candidates (o.config.getD Settings.defaultName)

end CashMachine.CommandLine
