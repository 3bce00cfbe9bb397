/-!
# Ordered entries

Keys with values, each key once, in the order in which the keys were first put in.
-/

namespace ElementMarkup

/-- Keys with values in the order of their first appearance. -/
abbrev Entries (α : Type) := List (String × α)

namespace Entries

variable {α : Type}

/-- The value of a key. -/
def get? (entries : Entries α) (key : String) : Option α :=
  entries.lookup key

/-- The entries with a value put in. A key that is there already keeps its place. -/
def put : Entries α → String → α → Entries α
  | [], key, value => [(key, value)]
  | (k, v) :: entries, key, value =>
    if k = key then (k, value) :: entries else (k, v) :: put entries key value

/-- The entries with all of another list put in, in order. -/
def putAll (entries more : Entries α) : Entries α :=
  more.foldl (fun result entry => result.put entry.1 entry.2) entries

/-- The keys in order. -/
def keys (entries : Entries α) : List String :=
  entries.map (·.1)

end Entries

end ElementMarkup
