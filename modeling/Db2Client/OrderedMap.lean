/-!
# Ordered maps

A map that keeps its keys in the order of their first insertion. Inserting under a key that is
present replaces the entry's value and keeps its key and its place.
-/

namespace Db2Client

structure OrderedMap (α β : Type) where
  entries : List (α × β)

namespace OrderedMap

variable {α β : Type} [BEq α]

def empty : OrderedMap α β := ⟨[]⟩

/-- The entries with `b` under `a`. -/
def put (a : α) (b : β) : List (α × β) → List (α × β)
  | [] => [(a, b)]
  | (k, v) :: rest => if k == a then (k, b) :: rest else (k, v) :: put a b rest

def insert (m : OrderedMap α β) (a : α) (b : β) : OrderedMap α β := ⟨put a b m.entries⟩

/-- The value under the first key that equals `a`. -/
def find (a : α) : List (α × β) → Option β
  | [] => none
  | (k, v) :: rest => if k == a then some v else find a rest

def get? (m : OrderedMap α β) (a : α) : Option β := find a m.entries

def contains (m : OrderedMap α β) (a : α) : Bool := (m.get? a).isSome

def erase (m : OrderedMap α β) (a : α) : OrderedMap α β :=
  ⟨m.entries.filter fun e => !(e.1 == a)⟩

/-- Insertion of the pairs in order. -/
def ofList (pairs : List (α × β)) : OrderedMap α β :=
  pairs.foldl (fun m p => m.insert p.1 p.2) empty

omit [BEq α] in
def keys (m : OrderedMap α β) : List α := m.entries.map Prod.fst

omit [BEq α] in
def values (m : OrderedMap α β) : List β := m.entries.map Prod.snd

end OrderedMap

end Db2Client
