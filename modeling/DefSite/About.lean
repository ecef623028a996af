/-!
# About this library

The version that is reported, and the names under which its parts are announced.
-/

namespace DefSite

/-- The version that is reported. -/
def version : String := "0.1.0"

/-- The names announced to users, in alphabetical order. -/
def announced : List String :=
  ["Context", "Env", "MethodMatcher", "RuntimeMethod", "SourceLocation", "Subject", "WarningSink",
    "__version__", "build_env"]

end DefSite
