import SchemaDraft.Model.ForeignKey
import SchemaDraft.Model.IdSupply

/-!
Results that come with notices. Readers never stop at what they do not understand: they give what
they could read together with a notice for everything left out.
-/

namespace SchemaDraft

/-- A result and the notices left on the way to it. -/
structure Noted (α : Type) where
  value : α
  notices : List Notice
  deriving Repr

/-- A drawing, the notices left on the way to it, and the supply of ids after it. -/
structure Drawn where
  schema : Schema
  notices : List Notice
  ids : IdSupply

end SchemaDraft
