/-!
# Keys that do not count

A skip-set holds the keys that a comparison leaves out at every level, in ascending order.
-/

namespace ClusterRouter

structure SkipSet where
  keys : List String := []
deriving DecidableEq, Inhabited

namespace SkipSet

def contains (skip : SkipSet) (key : String) : Bool := skip.keys.contains key

/-- Puts a key in front of the first greater one, unless it is there. -/
def insertKey (key : String) : List String → List String
  | [] => [key]
  | k :: rest =>
    if k = key then k :: rest
    else if key < k then key :: k :: rest
    else k :: insertKey key rest

def insert (skip : SkipSet) (key : String) : SkipSet := ⟨insertKey key skip.keys⟩

/-- The set with further keys. -/
def extend (skip : SkipSet) (keys : List String) : SkipSet := keys.foldl insert skip

def ofList (keys : List String) : SkipSet := extend {} keys

/-- The keys that the cluster fills in on every object. -/
def serverPopulated : SkipSet := ofList ["metadata", "status"]

/-- The keys that count. -/
def retain (skip : SkipSet) (keys : List String) : List String :=
  keys.filter fun key => !skip.contains key

end SkipSet

end ClusterRouter
