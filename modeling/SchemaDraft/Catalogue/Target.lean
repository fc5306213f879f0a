import SchemaDraft.Catalogue.Listing

/-!
What the references of a database refer to. A reference must be to a table that is listed and to as
many columns as it has itself. A column is then looked for by the name of its table and its own name
with a dot between them, where the last dot separates the two; both must be found as they are
written.
-/

namespace SchemaDraft.Catalogue

/-- Why a database can not be drawn. -/
inductive Fault where
  | noSuchTable (name : String)
  | unequalColumns
  | noReferredTable (table column target referred : String)
  | noReferredColumn (table target referred : String)
  deriving Repr, DecidableEq

/-- The wording of a fault. -/
def Fault.wording : Fault → String
  | noSuchTable name => name
  | unequalColumns =>
    "ForeignKeyConstraint number of constrained columns must match the number of "
      ++ "referenced columns."
  | noReferredTable table column target referred =>
    "Foreign key associated with column '" ++ table ++ "." ++ column ++ "' could not find table '"
      ++ target ++ "' with which to generate a foreign key to target column '" ++ referred ++ "'"
  | noReferredColumn table target referred =>
    "Could not initialize target column for ForeignKey '" ++ target ++ "." ++ referred
      ++ "' on table '" ++ table ++ "': table '" ++ target ++ "' has no column named '" ++ referred
      ++ "'"

/-! ### Tables -/

/-- Has a reference as many columns as it refers to? -/
def Reference.isBalanced (r : Reference) : Bool :=
  decide (r.columns.eraseDups.length = r.referred.length)

/-- Visits a table and then, one after the other, those it refers to; gives the names of all tables
visited so far. `fuel` bounds the length of a chain of references. -/
def Listing.visit (l : Listing) : Nat → List String → String → Except Fault (List String)
  | 0, seen, _ => .ok seen
  | fuel + 1, seen, name =>
    if seen.contains name then .ok seen
    else
      match l.table? name with
      | none => .error (.noSuchTable name)
      | some t =>
        t.references.foldlM
          (fun seen r => do
            let seen ← l.visit fuel seen r.table
            if r.isBalanced then .ok seen else .error .unequalColumns)
          (name :: seen)

def Listing.byName (l : Listing) : Listing := l.mergeSort fun a b => !decide (b.name < a.name)

/-- Do all references have a table, and as many columns as they refer to? -/
def Listing.checkTables (l : Listing) : Except Fault Unit := do
  let _ ← l.byName.foldlM (fun seen t => l.visit (l.length + 1) seen t.name) []

/-! ### Columns -/

/-- A text cut at its last dot. -/
def splitAtLastDot (text : String) : String × String :=
  let cs := text.toList
  let tail := (cs.reverse.takeWhile (· != '.')).reverse
  (String.ofList (cs.take (cs.length - tail.length - 1)), String.ofList tail)

/-- The names of the table and the column that a reference to a column means. -/
def Reference.target (r : Reference) (column : String) : String × String :=
  splitAtLastDot (r.table ++ "." ++ column)

/-- The table that a reference means: that of its first column. -/
def Reference.targetTable (r : Reference) : String := (r.target (r.referred.headD "")).1

/-- The name of a column that a reference of a table refers to. -/
def Listing.findColumn (l : Listing) (t : ListedTable) (r : Reference) (column : String) :
    Except Fault String :=
  let (target, name) := r.target column
  match l.table? target with
  | none => .error (.noReferredTable t.name (r.columns.headD "") target name)
  | some found =>
    if found.columns.any (·.name = name) then .ok name
    else .error (.noReferredColumn t.name found.name name)

/-- Do the first columns of all references exist? -/
def Listing.checkFirstColumns (l : Listing) : Except Fault Unit :=
  l.byName.forM fun t => t.references.forM fun r => do
    let _ ← (r.referred.take 1).mapM (l.findColumn t r)

end SchemaDraft.Catalogue
