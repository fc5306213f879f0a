import SchemaDraft.Catalogue.Target

/-!
The order of the tables of a database: a table comes after the tables that it refers to, and
otherwise names decide. Tables are put out in rounds; a round takes, in the order of names, all
tables left that refer to no table left but themselves. If that gets stuck on a cycle, the foreign
keys of all tables on cycles are ignored.
-/

namespace SchemaDraft.Catalogue

/-- A table name with the names of the other tables that it refers to. -/
structure Node where
  name : String
  parents : List String
  deriving Repr, DecidableEq, Inhabited

def ListedTable.node (t : ListedTable) : Node :=
  ⟨t.name, (t.references.map (·.targetTable)).filter (· ≠ t.name)⟩

/-- The nodes that refer to none of those left. -/
def readyNodes (left : List Node) : List Node :=
  left.filter fun n => n.parents.all fun p => !left.any (·.name = p)

/-- The nodes in rounds, or none if a round is empty; `fuel` bounds the rounds. -/
def rounds : Nat → List Node → Option (List Node)
  | _, [] => some []
  | 0, _ :: _ => none
  | fuel + 1, left =>
    match readyNodes left with
    | [] => none
    | ready =>
      (rounds fuel (left.filter fun n => !ready.any (·.name = n.name))).map (ready ++ ·)

/-- The names that some names refer to, in at most so many steps, with those names themselves. -/
def reachable (nodes : List Node) : Nat → List String → List String
  | 0, names => names
  | fuel + 1, names =>
    reachable nodes fuel
      (names ++ (nodes.filter (names.contains ·.name)).flatMap (·.parents) |>.eraseDups)

/-- Does a node refer to itself by way of others? -/
def onCycle (nodes : List Node) (n : Node) : Bool :=
  (reachable nodes nodes.length n.parents).contains n.name

/-- The nodes, those on cycles referring to nothing. -/
def cutCycles (nodes : List Node) : List Node :=
  nodes.map fun n => if onCycle nodes n then { n with parents := [] } else n

def byName (nodes : List Node) : List Node :=
  nodes.mergeSort fun a b => !decide (b.name < a.name)

/-- The nodes in their order. -/
def orderNodes (nodes : List Node) : List Node :=
  let sorted := byName nodes
  match rounds sorted.length sorted with
  | some ordered => ordered
  | none => (rounds sorted.length (cutCycles sorted)).getD sorted

/-- The tables of a database, each after those that it refers to. -/
def Listing.ordered (l : Listing) : Listing :=
  (orderNodes (l.map ListedTable.node)).filterMap fun n => l.table? n.name

end SchemaDraft.Catalogue
