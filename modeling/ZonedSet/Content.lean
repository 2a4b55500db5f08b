/-
ZonedSet.Content — what a device was found to hold.
-/

namespace ZonedSet

/-- Something that formatting would destroy, with its usual type name. -/
inductive Content where
  | filesystem (name : String)
  | volume (name : String)
  | partitionTable (name : String)
  deriving DecidableEq, Repr, Inhabited

namespace Content

/-- The type name. -/
def name : Content → String
  | .filesystem n => n
  | .volume n => n
  | .partitionTable n => n

/-- The content, in words. -/
def text : Content → String
  | .filesystem n => "an existing filesystem (" ++ n ++ ")"
  | .volume n => "an existing volume (" ++ n ++ ")"
  | .partitionTable n => "a partition table (" ++ n ++ ")"

end Content

end ZonedSet
