import TemplateEngine.FileSystem.Basic

/-!
# Freshness

A compiled program is kept with a token of the source that it was compiled
from. It may be used again only for a source with the same origin and the same
build, and only if the token says that the source has not changed.
-/

namespace TemplateEngine

structure Freshness where
  /-- The time of the last change, where the source has one. -/
  modified : Option Timestamp
  /-- The digest of the source text. -/
  digest : String
  /-- The path that the source was read from. -/
  origin : Option String
  /-- The dialect and the settings of the compiler. -/
  build : String
deriving DecidableEq

/-- How a changed source is recognised. -/
inductive FreshnessCheck where
  /-- By the time of its last change, or by the digest if a time is missing. -/
  | modifiedTime
  | contentHash
deriving DecidableEq

namespace Freshness

/-- Whether two sources were read from the same place. -/
def sameOrigin (a b : Freshness) : Bool :=
  match a.origin, b.origin with
  | none, none => true
  | some p, some q => Path.same p q
  | _, _ => false

/-- Equality of tokens, where origins are compared as paths. -/
def same (a b : Freshness) : Bool :=
  a.modified == b.modified && a.digest == b.digest && a.sameOrigin b && a.build == b.build

end Freshness

/-- Whether a program kept with the token `stored` may serve the source `current`. -/
def FreshnessCheck.isFresh (check : FreshnessCheck) (stored current : Freshness) : Bool :=
  if !stored.sameOrigin current || stored.build != current.build then false
  else
    match check, stored.modified, current.modified with
    | .modifiedTime, some s, some c => s == c
    | _, _, _ => stored.digest == current.digest

end TemplateEngine
