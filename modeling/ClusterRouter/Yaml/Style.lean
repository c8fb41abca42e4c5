/-!
# Styles of scalars

How the text of a scalar is set off from the structure around it.
-/

namespace ClusterRouter.Yaml

inductive ScalarStyle where
  | plain
  | singleQuoted
  | doubleQuoted
  | literal
  | folded
deriving DecidableEq

end ClusterRouter.Yaml
