import SchemaDraft.Console.Location
import SchemaDraft.Model.Edit
import SchemaDraft.Number.Spelling

/-!
Command lines. A command has parameters, each given by its place or by its name, as `--name value`
or `--name=value`; a negative number is no name. What is given by place fills the parameters in
order, and none may be filled by place after one that is filled by name. A parameter with choices
takes one of them, and a parameter with a default may be left out.
-/

namespace SchemaDraft.Console

/-- The form in which a drawing is printed. -/
inductive Format where
  | json
  | table
  deriving Repr, DecidableEq

/-- A parameter of a command. -/
structure Parameter where
  name : String
  choices : List String
  default : Option String
  deriving Repr, DecidableEq

/-- A location that must be given. -/
def location (name : String) : Parameter := ⟨name, [], none⟩

/-- The form of the output, a document if it is left out. -/
def formatParameter : Parameter := ⟨"fmt", ["json", "table"], some "json"⟩

/-- The mode of an import, a merge if it is left out. -/
def modeParameter : Parameter := ⟨"mode", ["replace", "merge"], some "merge"⟩

/-- The commands with their parameters. -/
def commands : List (String × List Parameter) :=
  [("parse", [location "sql-location", formatParameter]),
   ("merge",
    [location "schema-location", location "sql-location", modeParameter, formatParameter]),
   ("generate", [location "schema-location"]),
   ("reflect", [location "sqlite-location", formatParameter]),
   ("summary", [location "schema-location"])]

/-! ### Places and names -/

/-- Arguments sorted out: those given by name and those given by place, in order. -/
structure Given where
  named : List (String × String)
  placed : List String
  deriving Repr, DecidableEq

/-- Does an argument look like the name of a parameter? It starts with a dash and is no number,
where the imaginary unit alone counts as a name. -/
def looksLikeName (argument : String) : Bool :=
  let cs := argument.toList
  cs.head? == some '-' && (!Number.isSpelledNumber cs || cs == ['-', 'j'] || cs == ['-', 'J'])

/-- The name that a text before an equals sign gives: what follows two dashes, for which underscores
pass too. -/
def nameOf? (cs : List Char) : Option String :=
  match cs.map fun c => if c = '_' then '-' else c with
  | '-' :: '-' :: name => some (String.ofList name)
  | _ => none

/-- What stands after an equals sign, if there is one. -/
def valueOf? (cs : List Char) : Option String :=
  match cs.dropWhile (· != '=') with
  | _ :: value => some (String.ofList value)
  | [] => none

/-- An argument with its name put before those of others. -/
def Given.addNamed (g : Given) (name value : String) : Given :=
  { g with named := (name, value) :: g.named }

/-- An argument put before the others given by place. -/
def Given.addPlaced (g : Given) (value : String) : Given := { g with placed := value :: g.placed }

/-- Arguments sorted out; after `--` all are given by place. -/
def sortArguments : List String → Option Given
  | [] => some ⟨[], []⟩
  | argument :: rest =>
    if argument = "--" then some ⟨[], rest⟩
    else if looksLikeName argument then
      match nameOf? (argument.toList.takeWhile (· != '=')), valueOf? argument.toList with
      | none, _ => none
      | some name, some value => (sortArguments rest).map (·.addNamed name value)
      | some name, none =>
        match rest with
        | [] => none
        | value :: more =>
          if looksLikeName value then none
          else (sortArguments more).map (·.addNamed name value)
    else (sortArguments rest).map (·.addPlaced argument)

/-- The values of some parameters, in order; `namedBefore` tells whether an earlier one is given by
name. -/
def fillParameters (named : List (String × String)) (namedBefore : Bool) :
    List Parameter → List String → Option (List String)
  | [], [] => some []
  | [], _ :: _ => none
  | p :: ps, placed =>
    match named.lookup p.name, placed with
    | some value, _ => (fillParameters named true ps placed).map (value :: ·)
    | none, value :: placed =>
      if namedBefore then none
      else (fillParameters named namedBefore ps placed).map (value :: ·)
    | none, [] =>
      match p.default with
      | some value => (fillParameters named namedBefore ps []).map (value :: ·)
      | none => none

/-- Does a parameter take this value? -/
def Parameter.takes (p : Parameter) (value : String) : Bool :=
  p.choices.isEmpty || p.choices.contains value

/-- The values of the parameters of a command, in order. No name is given twice or unknown. -/
def bindArguments (parameters : List Parameter) (arguments : List String) :
    Option (List String) := do
  let given ← sortArguments arguments
  let names := given.named.map (·.1)
  if names.eraseDups.length = names.length ∧
    (names.all fun n => parameters.any (·.name == n)) = true then
    let values ← fillParameters given.named false parameters given.placed
    if (parameters.zip values).all fun (p, v) => p.takes v then some values else none
  else none

/-! ### Commands -/

/-- What the program is asked to do. -/
inductive Command where
  | parse (script : List Char) (format : Format)
  | merge (document script : List Char) (mode : ImportMode) (format : Format)
  | generate (document : List Char)
  | reflect (database : List Char) (format : Format)
  | summary (document : List Char)
  deriving Repr, DecidableEq

/-- The form of this name. -/
def formatOf (name : String) : Format := if name = "table" then .table else .json

/-- The mode of this name; any other than `replace` merges. -/
def modeOf (name : String) : ImportMode := if name = "replace" then .replace else .merge

/-- The location that an argument gives. -/
def place (argument : String) : List Char := locationOf argument.toList

/-- The command of this name with the values of its parameters. -/
def commandOf : String → List String → Option Command
  | "parse", [script, format] => some (.parse (place script) (formatOf format))
  | "merge", [document, script, mode, format] =>
    some (.merge (place document) (place script) (modeOf mode) (formatOf format))
  | "generate", [document] => some (.generate (place document))
  | "reflect", [database, format] => some (.reflect (place database) (formatOf format))
  | "summary", [document] => some (.summary (place document))
  | _, _ => none

/-- The command of a command line; none if the arguments do not fit. -/
def readCommand : List String → Option Command
  | [] => none
  | name :: arguments => do
    let parameters ← commands.lookup name
    let values ← bindArguments parameters arguments
    commandOf name values

/-- The locations that a command reads. -/
def Command.locations : Command → List (List Char)
  | parse script _ => [script]
  | merge document script _ _ => [document, script]
  | generate document => [document]
  | reflect database _ => [database]
  | summary document => [document]

end SchemaDraft.Console
