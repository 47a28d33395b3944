/-!
# Maps that forget

A map from texts with room for so many entries: when there is no more room, the entry that has not
been used for the longest time goes. A program that keeps one knows its operations alone. A list of
entries with the one used last in front makes such a map (`LruMap.ofLists`).
-/

namespace MetricAlgebra

/-- A map from texts that forgets what has not been used for the longest time. -/
structure LruMap (α : Type) where
  /-- The map at some time. -/
  State : Type
  /-- The empty map with room for a number of entries. -/
  withCapacity : Nat → State
  /-- Asks for the entry of a key, which is a use of it. -/
  get : State → String → Option α × State
  /-- Puts an entry in, which is a use of it. -/
  insert : State → String → α → State
  /-- The number of entries. -/
  size : State → Nat
  /-- The map without its entries. -/
  clear : State → State

/-- Entries by their keys, with the one used last in front, and room for a number of them. -/
@[ext]
structure RecentEntries (α : Type) where
  /-- The number of entries that there is room for. -/
  capacity : Nat
  /-- The entries with their keys, the one used last first. -/
  entries : List (String × α)
  /-- No more entries than there is room for. -/
  length_le : entries.length ≤ capacity
  /-- Every key is there once. -/
  distinct : (entries.map Prod.fst).Nodup

namespace RecentEntries

variable {α : Type}

/-- No entries, and room for a number of them. -/
def empty (capacity : Nat) : RecentEntries α where
  capacity := capacity
  entries := []
  length_le := Nat.zero_le capacity
  distinct := List.nodup_nil

/-- The entry of a key; this alone is no use of it. -/
def find? (r : RecentEntries α) (key : String) : Option α := r.entries.lookup key

/-- Entries with one in front, and no other of its key. -/
def moveToFront (key : String) (a : α) (entries : List (String × α)) : List (String × α) :=
  (key, a) :: entries.filter fun entry => entry.1 != key

/-- Moving to the front keeps keys apart. -/
theorem nodup_keys_moveToFront (key : String) (a : α) {entries : List (String × α)}
    (h : (entries.map Prod.fst).Nodup) :
    ((moveToFront key a entries).map Prod.fst).Nodup := by
  refine List.nodup_cons.2 ⟨?_, (List.filter_sublist.map Prod.fst).nodup h⟩
  simp

/-- Puts an entry in front, and drops what is then behind the capacity. -/
def put (r : RecentEntries α) (key : String) (a : α) : RecentEntries α where
  capacity := r.capacity
  entries := (moveToFront key a r.entries).take r.capacity
  length_le := List.length_take_le _ _
  distinct := ((List.take_sublist _ _).map Prod.fst).nodup
    (nodup_keys_moveToFront key a r.distinct)

/-- Asks for an entry, which moves to the front if it is there. -/
def get (r : RecentEntries α) (key : String) : Option α × RecentEntries α :=
  match r.find? key with
  | some a => (some a, r.put key a)
  | none => (none, r)

end RecentEntries

/-- The map of entries in a list. -/
def LruMap.ofLists (α : Type) : LruMap α where
  State := RecentEntries α
  withCapacity := RecentEntries.empty
  get := RecentEntries.get
  insert := RecentEntries.put
  size r := r.entries.length
  clear r := .empty r.capacity

end MetricAlgebra
