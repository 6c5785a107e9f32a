import ServiceClient.Failure

/-!
# Path templates

A request path with placeholders such as `{Bucket}` or `{Key+}`. A brace that opens no
placeholder stands for itself.

* `PathTemplate.ofText`: the pieces of a template.
* `PathTemplate.expand`: the path for the values of its parameters.
-/

namespace ServiceClient

/-- A piece of a path template. -/
inductive PathPiece
  | literal (c : Char)
  | parameter (name : String)
deriving DecidableEq, Repr, Inhabited

/-- The pieces of a path, in order. -/
abbrev PathTemplate := List PathPiece

namespace PathTemplate

/-- A character of a parameter's name. -/
def isNameChar (c : Char) : Bool := c != '}' && c != '+'

/-- The name of a placeholder after its opening brace, and what follows its closing one. -/
def placeholder? (s : List Char) : Option (List Char × List Char) :=
  let name := s.takeWhile isNameChar
  if name.isEmpty then none
  else
    match s.dropWhile isNameChar with
    | '}' :: rest => some (name, rest)
    | '+' :: '}' :: rest => some (name, rest)
    | _ => none

/-- What follows a placeholder is shorter than what it stands in. -/
theorem length_of_placeholder? {s name rest : List Char}
    (h : placeholder? s = some (name, rest)) : rest.length < s.length + 1 := by
  have shorter : (s.dropWhile isNameChar).length ≤ s.length :=
    (List.dropWhile_sublist isNameChar).length_le
  dsimp only [placeholder?] at h
  split at h
  · simp at h
  · split at h <;> simp_all <;> omega

/-- The pieces of a template. -/
def ofChars : List Char → PathTemplate
  | [] => []
  | c :: rest =>
    if c = '{' then
      match _h : placeholder? rest with
      | some (name, after) => .parameter (String.ofList name) :: ofChars after
      | none => .literal c :: ofChars rest
    else .literal c :: ofChars rest
termination_by s => s.length
decreasing_by
  · have := length_of_placeholder? _h
    simp
    omega
  all_goals simp

def ofText (s : String) : PathTemplate := ofChars s.toList

/-- The characters of a path with the parameters that are given. -/
def expandChars (parameters : List (String × String)) :
    PathTemplate → Except Failure (List Char)
  | [] => .ok []
  | .literal c :: rest => do return c :: (← expandChars parameters rest)
  | .parameter name :: rest =>
    match parameters.lookup name with
    | none => .error (.missingPathParameter name)
    | some value => do return value.toList ++ (← expandChars parameters rest)

/-- The path for the values of its parameters. -/
def expand (t : PathTemplate) (parameters : List (String × String)) : Except Failure String :=
  (expandChars parameters t).map String.ofList

end PathTemplate

end ServiceClient
