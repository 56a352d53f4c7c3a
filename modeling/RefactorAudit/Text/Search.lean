/-!
# Texts inside texts
-/

namespace RefactorAudit.Text

/-- `needle` stands somewhere in the characters. -/
def occursInList (needle : List Char) : List Char → Bool
  | [] => needle.isEmpty
  | c :: rest => needle.isPrefixOf (c :: rest) || occursInList needle rest

/-- `needle` stands somewhere in `s`. The empty text stands in every text. -/
def occursIn (needle s : String) : Bool := occursInList needle.toList s.toList

/-- The characters before the first `sep`, and those after it if there is one. -/
def splitFirst (sep : Char) (s : String) : String × Option String :=
  let head := s.toList.takeWhile (· != sep)
  match s.toList.dropWhile (· != sep) with
  | [] => (String.ofList head, none)
  | _ :: rest => (String.ofList head, some (String.ofList rest))

end RefactorAudit.Text
