import Mathlib.Data.List.Basic

/-! The cache of the least recently used entries: a list of keys, the last inserted first, and
a map from each key to its place in the list and its value. -/

namespace Liblinphone

/-- What the standard containers leave undefined: to erase an iterator that is not in the
list, and to read the back of an empty one. -/
inductive LruUndefined where
  | danglingIterator
  | backOfEmptyList
deriving Repr, DecidableEq

/-- The node of a list is known by a number, which stays with it as an iterator does. -/
structure LruCache (κ : Type u) (ν : Type v) where
  capacity : BitVec 32
  keys : List (Nat × κ) := []
  keyToPair : List (κ × Nat × ν) := []
  nextNode : Nat := 0
deriving Repr, DecidableEq

namespace LruCache

variable {κ : Type u} {ν : Type v}

def minCapacity : Int := 10

/-- The capacity that is raised to the minimum is the argument, after it was copied. -/
def new (capacity : BitVec 32) : LruCache κ ν := { capacity := capacity }

def getCapacity (cache : LruCache κ ν) : Int := cache.capacity.toInt

/-- The size is narrowed to an `int`. -/
def getSize (cache : LruCache κ ν) : BitVec 32 := .ofNat 32 cache.keyToPair.length

def clear (cache : LruCache κ ν) : LruCache κ ν := { cache with keyToPair := [], keys := [] }

section Keys

variable [DecidableEq κ]

def find (cache : LruCache κ ν) (key : κ) : Option (Nat × ν) :=
  (cache.keyToPair.find? fun pair => decide (pair.1 = key)).map Prod.snd

/-- The subscript operator: the value of a key, without a change of its place. -/
def get (cache : LruCache κ ν) (key : κ) : Option ν := (cache.find key).map Prod.snd

def eraseNode (node : Nat) (keys : List (Nat × κ)) : Except LruUndefined (List (Nat × κ)) :=
  if keys.any fun place => decide (place.1 = node) then .ok (keys.eraseP fun place => decide (place.1 = node))
  else .error .danglingIterator

def erasePair (key : κ) (pairs : List (κ × Nat × ν)) : List (κ × Nat × ν) :=
  pairs.eraseP fun pair => decide (pair.1 = key)

/-- The entry of the key is taken out, or the last one when the size is the capacity. -/
def makeRoom (cache : LruCache κ ν) (key : κ) : Except LruUndefined (LruCache κ ν) :=
  match cache.find key with
  | some (node, _) =>
    (eraseNode node cache.keys).map fun keys =>
      { cache with keys := keys, keyToPair := erasePair key cache.keyToPair }
  | none =>
    if cache.getSize = cache.capacity then
      match cache.keys.getLast? with
      | none => .error .backOfEmptyList
      | some last =>
        .ok { cache with keys := cache.keys.dropLast, keyToPair := erasePair last.2 cache.keyToPair }
    else .ok cache

/-- The key goes to the front of the list. The map takes it only when it does not have it. -/
def pushFront (cache : LruCache κ ν) (key : κ) (value : ν) : LruCache κ ν :=
  { cache with
    keys := (cache.nextNode, key) :: cache.keys
    keyToPair := if (cache.find key).isSome then cache.keyToPair
      else (key, cache.nextNode, value) :: cache.keyToPair
    nextNode := cache.nextNode + 1 }

/-- Both overloads, the one that copies the value and the one that moves it. -/
def insert (cache : LruCache κ ν) (key : κ) (value : ν) : Except LruUndefined (LruCache κ ν) :=
  (cache.makeRoom key).map fun cache => cache.pushFront key value

end Keys

end LruCache

/-- A call that changes a cache. -/
inductive LruCall (κ : Type u) (ν : Type v) where
  | insert (key : κ) (value : ν)
  | clear
deriving Repr, DecidableEq

variable {κ : Type u} {ν : Type v} [DecidableEq κ]

def LruCache.step (cache : LruCache κ ν) : LruCall κ ν → Except LruUndefined (LruCache κ ν)
  | .insert key value => cache.insert key value
  | .clear => .ok cache.clear

def LruCache.run (cache : LruCache κ ν) (calls : List (LruCall κ ν)) : Except LruUndefined (LruCache κ ν) :=
  calls.foldlM LruCache.step cache

end Liblinphone
