/-
The command as a program: it reads the files and the environment that the
command asks for, draws a seed for the names of transactions, and writes what
the command leaves behind.
-/
import CashMachine.CommandLine.Run

namespace CashMachine.Main

open CashMachine.Text

/-- The octets of a file, if it can be read. -/
def octets? (name : String) : IO (Option (List UInt8)) := do
  try
    let bytes ← IO.FS.readBinFile name
    pure (some bytes.toList)
  catch _ => pure none

/-- The text of a file, empty if it cannot be read. -/
def textOrEmpty (name : String) : IO String := do
  let bytes := (← octets? name).getD []
  pure ((String.fromUTF8? (ByteArray.mk bytes.toArray)).getD "")

/-- The variables of a block of `name=value` texts, each closed by a null character. -/
def definitions (block : List Char) : List (String × String) :=
  (words (fun c => c.toNat == 0) block).filterMap fun v =>
    (splitAtFirst '=' v).map fun (name, value) => (String.ofList name, String.ofList value)

/-- The number at the start of a text, after any blanks. -/
def leadingNumber (s : List Char) : Nat :=
  digitsValue 0 ((trimStart s).takeWhile isDigit)

/-- The time at which the system started, in a report of lines that start with a word. -/
def startTime (report : List Char) : Nat :=
  ((parts (· == '\n') report).findSome?
    (Document.afterWord? "btime".toList)).elim 0 leadingNumber

/-- The present time: the start of the system and the time since then. -/
def now : IO Instant := do
  let start := startTime (← textOrEmpty "/proc/stat").toList
  let since := leadingNumber (← textOrEmpty "/proc/uptime").toList
  pure (Instant.ofSeconds (start + since))

/-- A number drawn at random. -/
def seed : IO Nat := do
  let bytes ← IO.getRandomBytes 6
  pure (bytes.toList.foldl (fun n b => 256 * n + b.toNat) 0)

/-- What the command finds around it. -/
def surroundings (arguments : List String) : IO CommandLine.Surroundings := do
  let asked := CommandLine.filesAsked arguments
  let files ← asked.mapM fun name => do pure (name, ← octets? name)
  let here ← IO.currentDir
  let directories ← asked.filterM fun (name : String) => (here / name).isDir
  let environment := definitions (← textOrEmpty "/proc/self/environ").toList
  let time ← now
  let seed ← seed
  pure
    { files := fun name => (files.lookup name).bind id
      isDirectory := directories.contains
      environment
      stamps := Stamp.series seed time }

end CashMachine.Main

/-- Runs the command on the arguments of the program. -/
def main (arguments : List String) : IO UInt32 := do
  let found ← CashMachine.Main.surroundings arguments
  let output := CashMachine.CommandLine.run arguments found
  (← IO.getStdout).putStr output.stdout
  (← IO.getStderr).putStr output.stderr
  pure output.code.toUInt32
