import Mathlib.Data.List.Basic

/-!
# Errors of the repositories (`internal/repository`)
-/

namespace Sn360Es

/-- An error of a repository: `ErrNotFound`, or a failure of the database. -/
inductive RepoError where
  | notFound
  | failed (err : String)
  deriving DecidableEq, Repr

end Sn360Es
