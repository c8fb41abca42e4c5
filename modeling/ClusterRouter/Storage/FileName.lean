/-!
# Names of files

A name consists of steps between slashes. Two names are the same when their steps agree, where
empty steps do not count and steps that stay in place count only in front of a relative name.
-/

namespace ClusterRouter

/-- The parts of a name between its slashes. -/
def splitName : List Char → List (List Char)
  | [] => [[]]
  | c :: rest =>
    if c = '/' then [] :: splitName rest
    else
      match splitName rest with
      | part :: parts => (c :: part) :: parts
      | [] => [[c]]

/-- A step of a name has at most 255 octets. -/
def isTooLong (step : List Char) : Bool := 255 < (String.ofList step).utf8ByteSize

/-- A whole name has fewer octets. -/
def nameLimit : Nat := 4096

def isAbsolute (name : String) : Bool := name.toList.head? == some '/'

/-- A name that ends in a slash means a directory. -/
def namesDirectory (name : String) : Bool := name.toList.getLast? == some '/'

/-- The steps of a name from the last one backwards, slashes at its end left out. -/
def stepsBackwards (name : String) : List (List Char) :=
  (splitName name.toList).reverse.dropWhile List.isEmpty

/-- The last step of a name; the root has none. -/
def lastStep? (name : String) : Option (List Char) := (stepsBackwards name).head?

/-- The steps that lead to the directory where the last step is taken. -/
def parentSteps (name : String) : List (List Char) := ((stepsBackwards name).drop 1).reverse

/-- The last step adds no name to the directory in which it is taken. -/
def staysAround (name : String) : Bool :=
  (lastStep? name).all fun step => step == ['.'] || step == ['.', '.']

/-- The steps that count when names are compared. -/
def comparedSteps (name : String) : List (List Char) :=
  match splitName name.toList with
  | [] => []
  | first :: rest => first :: rest.filter fun step => !step.isEmpty && step != ['.']

def sameName (a b : String) : Bool :=
  isAbsolute a == isAbsolute b && comparedSteps a == comparedSteps b

end ClusterRouter
