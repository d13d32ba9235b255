/-!
Contract: a store that keeps what was used last.

Owns:
- `RecencyStore`, entries from the most to the least recently used, held to a
  number of bytes;
- `put`, `get`, `contains` and `erase`.

An entry larger than the whole capacity is not stored, but still removes what
was stored under its key.
-/

namespace TileAtlas

/-- Entries from the most to the least recently used. -/
structure RecencyStore where
  capacity : Nat
  /-- The number of bytes held. -/
  size : Nat
  entries : List (String × ByteArray)

namespace RecencyStore

/-- The capacity where nothing else is said. -/
def standardCapacity : Nat := 64 * 1024 * 1024

def empty (capacity : Nat) : RecencyStore := ⟨capacity, 0, []⟩

def find? (store : RecencyStore) (key : String) : Option ByteArray := store.entries.lookup key

/-- Whether a key is stored.  This is no use of it. -/
def contains (store : RecencyStore) (key : String) : Bool := (store.find? key).isSome

def erase (store : RecencyStore) (key : String) : RecencyStore :=
  match store.find? key with
  | none => store
  | some data =>
      { store with
        size := store.size - data.size
        entries := store.entries.filter fun entry => entry.1 ≠ key }

/-- The bytes of a key, which thereby becomes the most recently used. -/
def get (store : RecencyStore) (key : String) : Option ByteArray × RecencyStore :=
  match store.find? key with
  | none => (none, store)
  | some data =>
      (some data,
        { store with entries := (key, data) :: store.entries.filter fun entry => entry.1 ≠ key })

/-- Remove the least recently used entries, here in reverse order, until
`needed` more bytes fit. -/
def evict (capacity needed size : Nat) :
    List (String × ByteArray) → Nat × List (String × ByteArray)
  | [] => (size, [])
  | oldest :: newer =>
      if capacity < size + needed then evict capacity needed (size - oldest.2.size) newer
      else (size, oldest :: newer)

def put (store : RecencyStore) (key : String) (data : ByteArray) : RecencyStore :=
  let others := store.erase key
  if others.capacity < data.size then others
  else
    let (size, kept) := evict others.capacity data.size others.size others.entries.reverse
    { others with size := size + data.size, entries := (key, data) :: kept.reverse }

end RecencyStore

end TileAtlas
