/-!
# Warnings

Why a declared resource could not be placed in the resource tree.
-/

namespace ClientGen

/-- A resource that was skipped with everything that it nests. -/
inductive Warning where
  /-- No key can be derived for a segment of the resource's URI. -/
  | unmappableSegment (relativeUri segment : String)
  /-- A segment has the key of another segment at the same place. -/
  | keyCollision (key existingSegment segment : String)
deriving DecidableEq

/-- The text of a warning. -/
def Warning.message : Warning → String
  | .unmappableSegment relativeUri segment =>
    "cannot derive a key for segment \x60" ++ segment ++ "\x60 of \x60" ++ relativeUri ++
      "\x60; subtree skipped"
  | .keyCollision key existingSegment segment =>
    "segment \x60" ++ segment ++ "\x60 collides with \x60" ++ existingSegment ++
      "\x60 on key \x60" ++ key ++ "\x60; subtree skipped"

end ClientGen
