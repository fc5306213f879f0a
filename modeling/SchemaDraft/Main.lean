import SchemaDraft.Catalogue.Read
import SchemaDraft.Console.Command
import SchemaDraft.Json.Read

/-!
The program: reads the files that the command line names, runs the command and prints what it gives.
A database is described by a file with its catalogue as JSON text.
-/

namespace SchemaDraft.Program

/-- The hexadecimal digits of a number, so many of them. -/
def hexText : Nat → Nat → List Char
  | 0, _ => []
  | count + 1, n => hexText count (n / 16) ++ [Json.hexDigit (n % 16)]

/-- Labels for fresh ids: the digits of a number drawn at the start, and a count. -/
def labelFrom (seed : Nat) (n : Nat) : String :=
  String.ofList (hexText 16 seed ++ '-' :: hexText 12 n)

/-- What a file with this text holds. -/
def contentOf (location : List Char) (text : String) : Console.FileContent :=
  if Console.hasExtension Console.databaseExtensions location then
    match (Json.read text).bind Catalogue.ofJson? with
    | some catalogue => .database catalogue
    | none => .text text
  else .text text

/-- The file at a location, if there is one that can be read as text. -/
def readFile (location : List Char) : IO (Option (String × Console.FileContent)) := do
  let name := String.ofList location
  try
    let text ← IO.FS.readFile name
    return some (name, contentOf location text)
  catch _ => return none

/-- The files that a command line names. -/
def readFolder (arguments : List String) : IO Console.Folder := do
  match Console.readCommand arguments with
  | none => return []
  | some command => return (← command.locations.mapM readFile).filterMap id

/-- Prints what a command gave; the result is the exit code. -/
def printReport (report : Console.Report) : IO UInt32 := do
  IO.print (String.ofList report.progress.output)
  for line in report.progress.errorLines do
    IO.eprintln (String.ofList line)
  match report.ending with
  | .usageFault =>
    IO.eprintln "usage: parse | merge | generate | reflect | summary, with locations and options"
    return 1
  | .badMarkup =>
    IO.eprintln "closing style tag without an open style"
    return 1
  | .finished code => return UInt32.ofNat code

end SchemaDraft.Program

/-- Runs the command line. -/
def main (arguments : List String) : IO UInt32 := do
  let seed ← IO.rand 0 0xFFFFFFFFFFFFFFFF
  let folder ← SchemaDraft.Program.readFolder arguments
  let ids : SchemaDraft.IdSupply := ⟨SchemaDraft.Program.labelFrom seed, 0⟩
  SchemaDraft.Program.printReport (SchemaDraft.Console.run arguments folder ids)
