namespace Landscape

/-!
# Paths of files

Paths are texts whose parts stand between slashes.
-/

namespace FilePath

/-- The path `b` as seen from `a`. An absolute path does not change. -/
def join (a b : String) : String :=
  if b.toList.head? = some '/' then b
  else if a.isEmpty then b
  else if a.toList.getLast? = some '/' then a ++ b
  else a ++ "/" ++ b

end FilePath

/-- Why a file cannot be read. -/
inductive ReadFailure where
  | notFound
  | other (cause : String)
  deriving DecidableEq, Repr

end Landscape
