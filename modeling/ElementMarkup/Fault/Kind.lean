/-!
# Values of the wrong kind

Values come from the host program, and some places take only some kinds of them. A fault of this
sort says what was asked of the value and what kind it was of.
-/

namespace ElementMarkup

/-- What a value of the wrong kind was asked for. -/
inductive KindFault where
  | notText (kind : String)
  | notSearchable (kind : String)
  | notIndex (kind : String)
  | notOrdered (comparison left right : String)
  | noMember (kind member : String)
  deriving DecidableEq, Repr

/-- The message for a value of the wrong kind. Bytes can be searched, but not for text. -/
def KindFault.message : KindFault → String
  | notText kind => "can only concatenate str (not \"" ++ kind ++ "\") to str"
  | notSearchable kind =>
    if kind = "bytes" then "cannot use a string pattern on a bytes-like object"
    else "expected string or bytes-like object, got '" ++ kind ++ "'"
  | notIndex kind => "list indices must be integers or slices, not " ++ kind
  | notOrdered comparison left right =>
    "'" ++ comparison ++ "' not supported between instances of '" ++ left ++ "' and '" ++ right ++
      "'"
  | noMember kind member => "'" ++ kind ++ "' object has no attribute '" ++ member ++ "'"

end ElementMarkup
