/-!
# Maps in order of insertion

A finite map that remembers the order in which its keys were first inserted. Inserting a key again
changes its value and keeps its place.
-/

namespace Cyclomatic

/-- Keys with their values. Every key occurs once if the map was made by `insert` alone. -/
structure OrderedMap (α β : Type) where
  entries : List (α × β)
deriving DecidableEq, Repr

namespace OrderedMap

variable {α β : Type} [DecidableEq α]

/-- The map without keys. -/
def empty : OrderedMap α β := ⟨[]⟩

/-- Replaces the value of `key`, or adds the key at the end. -/
def insertEntry (key : α) (value : β) : List (α × β) → List (α × β)
  | [] => [(key, value)]
  | (k, v) :: rest =>
      if k = key then (k, value) :: rest else (k, v) :: insertEntry key value rest

/-- Sets the value of a key. -/
def insert (map : OrderedMap α β) (key : α) (value : β) : OrderedMap α β :=
  ⟨insertEntry key value map.entries⟩

/-- The value of a key in a list of entries. -/
def lookupEntry (key : α) : List (α × β) → Option β
  | [] => none
  | (k, v) :: rest => if k = key then some v else lookupEntry key rest

/-- The value of a key. -/
def get? (map : OrderedMap α β) (key : α) : Option β :=
  lookupEntry key map.entries

/-- Whether a key has a value. -/
def contains (map : OrderedMap α β) (key : α) : Bool :=
  (map.get? key).isSome

/-- Sets the values of keys one after the other. -/
def insertAll (map : OrderedMap α β) (entries : List (α × β)) : OrderedMap α β :=
  entries.foldl (fun m entry => m.insert entry.1 entry.2) map

/-- The map that sets the values of keys one after the other. -/
def ofList (entries : List (α × β)) : OrderedMap α β :=
  empty.insertAll entries

/-- Removes a key. -/
def erase (map : OrderedMap α β) (key : α) : OrderedMap α β :=
  ⟨map.entries.filter fun entry => entry.1 ≠ key⟩

/-- The keys in order of first insertion. -/
def keys (map : OrderedMap α β) : List α :=
  map.entries.map (·.1)

/-- The number of keys. -/
def size (map : OrderedMap α β) : Nat :=
  map.entries.length

/-- Whether no key has a value. -/
def isEmpty (map : OrderedMap α β) : Bool :=
  map.entries.isEmpty

end OrderedMap

/-- The scores of the units of one source text, by name. -/
abbrev UnitTable := OrderedMap String Int

end Cyclomatic
