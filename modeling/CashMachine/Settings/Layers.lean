/-
Settings from a file and from the environment.

The form of the file is known by the ending of its name.  Every variable of the
environment whose name starts with `ATM__`, in any case, then lays its value
over a setting: two underscores in its name stand for a point in the path of
the setting.  What results is read leniently.

* `Settings.load` — the settings of a file and an environment;
* `Settings.candidates` — the files that are asked for.
-/
import CashMachine.Document.Ini
import CashMachine.Document.Json
import CashMachine.Document.Json5
import CashMachine.Document.Ron
import CashMachine.Document.Toml
import CashMachine.Document.Yaml
import CashMachine.Settings.Path
import CashMachine.Settings.Reading

namespace CashMachine

/-- Why settings cannot be loaded. -/
inductive LoadError where
  | missing (name : String)
  | unknownFormat (name : String)
  | malformed (name : String)
  | unusable
deriving DecidableEq, Repr

/-- What is said about settings that cannot be loaded. -/
def LoadError.message : LoadError → String
  | missing name => "configuration file \"" ++ name ++ "\" not found"
  | unknownFormat name =>
    "configuration file \"" ++ name ++ "\" is not of a registered file format"
  | malformed name => "malformed configuration file: " ++ name
  | unusable => "invalid type in configuration"

namespace Settings

open CashMachine.Text

/-! ### Files -/

/-- The forms of settings files. -/
inductive FileForm where
  | toml
  | json
  | yaml
  | ini
  | ron
  | json5
deriving DecidableEq, Repr

namespace FileForm

/-- All forms, in the order in which files are looked for. -/
def all : List FileForm := [toml, json, yaml, ini, ron, json5]

def endings : FileForm → List String
  | toml => ["toml"]
  | json => ["json"]
  | yaml => ["yaml", "yml"]
  | ini => ["ini"]
  | ron => ["ron"]
  | json5 => ["json5"]

/-- The document that a text of a form holds. -/
def read? : FileForm → String → Option Document
  | toml => Document.ofToml?
  | json => Document.ofJson?
  | yaml => Document.ofYaml?
  | ini => Document.ofIni?
  | ron => Document.ofRon?
  | json5 => Document.ofJson5?

end FileForm

/-- The last part of a path of directories. -/
def baseName (name : List Char) : List Char :=
  ((parts (· == '/') name).reverse.dropWhile List.isEmpty).headD []

/-- The ending of a file name: what follows its last point, if something precedes it. -/
def endingOf (name : String) : List Char :=
  let base := baseName name.toList
  let ending := (base.reverse.takeWhile (· != '.')).reverse
  if ending.length + 1 < base.length then ending else []

/-- The form of a file by the ending of its name. -/
def formOf? (name : String) : Option FileForm :=
  FileForm.all.find? fun f => f.endings.any fun e => e.toList = endingOf name

/-- The forms with each of their endings. -/
def formEndings : List (FileForm × String) :=
  FileForm.all.flatMap fun f => f.endings.map fun e => (f, e)

/-- A path, last character first, without slashes at its end and points that stand for
nothing there. -/
def withoutTail : List Char → List Char
  | '/' :: s => withoutTail s
  | '.' :: '/' :: s => withoutTail s
  | s => s

/-- A path that another ending can be written behind: its last part is a name, and not the
directory itself or the one around it. -/
def stemOf? (name : String) : Option String :=
  let s := withoutTail name.toList.reverse
  if [[], ['.'], ['.', '.']].contains (s.takeWhile (· != '/')) then none
  else some (String.ofList s.reverse)

/-- The name with an ending behind it. -/
def longerName? (name ending : String) : Option String :=
  (stemOf? name).map fun stem => stem ++ "." ++ ending

/-- The files that may stand for a name: itself, and with each ending. -/
def candidates (name : String) : List String :=
  name :: formEndings.filterMap fun e => longerName? name e.2

/-- A file of settings that was found. -/
structure Found where
  name : String
  form : FileForm
  text : String

/-- Finds the file of a name with the ending of a form behind it. -/
def findAs (files : String → Option String) (name : String) (e : FileForm × String) :
    Option Found := do
  let longer ← longerName? name e.2
  let text ← files longer
  some ⟨longer, e.1, text⟩

/-- Finds the file that a name stands for. -/
def find (files : String → Option String) (name : String) : Except LoadError Found :=
  match files name with
  | some text =>
    match formOf? name with
    | some form => .ok ⟨name, form, text⟩
    | none => .error (.unknownFormat name)
  | none =>
    match formEndings.findSome? (findAs files name) with
    | some f => .ok f
    | none => .error (.missing name)

/-- The entries of a file, which must hold a table. -/
def entriesOf (f : Found) : Except LoadError (List (String × Document)) :=
  match f.form.read? (String.ofList (withoutMark f.text.toList)) with
  | some (.table entries) => .ok entries
  | _ => .error (.malformed f.name)

/-- The name of the file that is looked for when none is given. -/
def defaultName : String := "atm"

/-- The entries of the file of a name, or of the default file if there is one. -/
def fileEntries (files : String → Option String) (name? : Option String) :
    Except LoadError (List (String × Document)) :=
  match name? with
  | some name => find files name >>= entriesOf
  | none =>
    match find files defaultName with
    | .ok f => entriesOf f
    | .error _ => .ok []

/-! ### Environment -/

/-- What the names of variables start with, in lower case. -/
def variableMark : List Char := "atm__".toList

/-- The text with a point for every two underscores, from the left. -/
def underscoresToPoints : List Char → List Char
  | '_' :: '_' :: rest => '.' :: underscoresToPoints rest
  | c :: rest => c :: underscoresToPoints rest
  | [] => []

/-- The key that a variable sets. -/
def keyOf? (name : String) : Option String :=
  (Document.afterWord? variableMark (lowerChars name.toList)).map fun rest =>
    String.ofList (underscoresToPoints rest)

/-- The entries of an environment. -/
def environmentEntries (env : List (String × String)) : List (String × Document) :=
  env.filterMap fun (name, value) => (keyOf? name).map fun key => (key, .text value)

/-! ### Both -/

/-- Entries laid over a document, each at the path of its key. -/
def layer (under : Document) (entries : List (String × Document)) : Document :=
  entries.foldl (fun d e => Document.put d (Document.pathOf e.1) e.2) under

/-- The settings of a file and an environment. -/
def load (files : String → Option String) (name? : Option String)
    (env : List (String × String)) : Except LoadError Settings := do
  let file ← fileEntries files name?
  let d := layer (layer (.table []) file) (environmentEntries env)
  match Conventions.lenient.readSettings d with
  | some s => pure s
  | none => throw .unusable

end Settings

end CashMachine
