import TableCatalog.NameMap

/-!
# Options and properties

Options are texts by name. They describe a catalog, a database or a table to those who read and
write its files, and a few names are reserved for what the catalog itself writes there. The
properties of a database become options, too; they are changed in batches.
-/

namespace TableCatalog

abbrev Options := NameMap String

namespace Options

/-- The option that holds the absolute storage path of a table. -/
def pathKey : String := "path"

/-- The option that holds the branch through which a table was addressed. -/
def branchKey : String := "branch"

/-- The property that holds the storage location of a database. -/
def locationKey : String := "location"

end Options

/-! ## Changes to properties

A batch of changes sets and removes properties of a database. It is reduced to the properties to
set and the names to remove before it is sent: of several changes to one name the last one counts,
whatever its kind, so that the two parts have no name in common.
-/

inductive PropertyChange where
  | set (key value : String)
  | remove (key : String)
  deriving DecidableEq, Repr

def PropertyChange.key : PropertyChange → String
  | .set key _ => key
  | .remove key => key

/-- A reduced batch of changes. -/
structure PropertyChanges where
  /-- The properties to set. -/
  set : NameMap String
  /-- The properties to remove. -/
  remove : NameSet
  deriving DecidableEq, Repr

namespace PropertyChanges

def empty : PropertyChanges := ⟨NameMap.empty, NameMap.empty⟩

/-- Adds one more change, which takes the place of an earlier one to the same property. -/
def add (acc : PropertyChanges) : PropertyChange → PropertyChanges
  | .set key value => ⟨acc.set.insert key value, acc.remove.erase key⟩
  | .remove key => ⟨acc.set.erase key, acc.remove.add key⟩

def reduce (changes : List PropertyChange) : PropertyChanges := changes.foldl add empty

def isEmpty (c : PropertyChanges) : Bool := c.set.isEmpty && c.remove.isEmpty

end PropertyChanges

def PropertyChange.apply (properties : NameMap String) : PropertyChange → NameMap String
  | .set key value => properties.insert key value
  | .remove key => properties.erase key

/-! ## Audit fields

The metadata service tells of a database or a table who created and changed it, and when. These
fields are written into options under fixed names, after the free-form pairs that the service may
add, so that a well-known field wins over a free-form pair of its name and both win over an option
that was there before.
-/

/-- Who created and changed an object, and when, as far as the service tells. Times are in
milliseconds since 1970. -/
structure Audit where
  owner : Option String := none
  createdAt : Option Int64 := none
  createdBy : Option String := none
  updatedAt : Option Int64 := none
  updatedBy : Option String := none
  /-- Free-form pairs beyond the fields above. -/
  extra : Options := NameMap.empty
  deriving DecidableEq

namespace Audit

def decimal (n : Int64) : String := toString n.toInt

def known (a : Audit) : List (String × String) :=
  [("owner", a.owner), ("createdAt", a.createdAt.map decimal), ("createdBy", a.createdBy),
    ("updatedAt", a.updatedAt.map decimal), ("updatedBy", a.updatedBy)].filterMap
    fun (k, v) => v.map (k, ·)

def pairs (a : Audit) : List (String × String) := a.extra.toList ++ a.known

def writeTo (a : Audit) (options : Options) : Options := options.insertMany a.pairs

def isEmpty (a : Audit) : Bool :=
  a.owner.isNone && a.createdAt.isNone && a.createdBy.isNone && a.updatedAt.isNone &&
    a.updatedBy.isNone && a.extra.isEmpty

end Audit

end TableCatalog
