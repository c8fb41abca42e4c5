/-!
# Texts inside texts
-/

namespace ClusterRouter.Text

def occursIn (wanted : List Char) : List Char → Bool
  | [] => wanted.isEmpty
  | c :: rest => wanted.isPrefixOf (c :: rest) || occursIn wanted rest

def contains (text wanted : String) : Bool := occursIn wanted.toList text.toList

end ClusterRouter.Text
