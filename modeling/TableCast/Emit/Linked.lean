import TableCast.Model.Entity
import TableCast.Name.Scope

/-!
# Columns and links of an entity

Which columns an association stands for, and which other entities a table refers to.

- `isMappedByAssociation`: whether an association owns a column.
- `linkedAssociations`: the associations whose target is generated.
- `referencedTypes`: the other entities that a table links to.
-/

namespace TableCast
namespace Emit

open Model

/-- Whether a resolved association owns the column; a key column is never owned. -/
def isMappedByAssociation (e : Entity) (c : Column) : Bool :=
  !c.isPrimary && e.associations.any fun a => a.sourceColumns.contains c.name && !a.unresolved

/-- The associations whose target is part of the run. -/
def linkedAssociations (e : Entity) : List Association :=
  e.associations.filter fun a => !a.unresolved

/-- The type names of the other entities that a table links to, sorted. -/
def referencedTypes (e : Entity) : List String :=
  Name.Scope.sortedDistinct
    ((e.associations.filter fun a => !a.isSelf).filterMap (·.targetType))

end Emit
end TableCast
