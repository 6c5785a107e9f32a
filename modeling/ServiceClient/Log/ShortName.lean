import ServiceClient.Failure
import ServiceClient.Http.Url

/-!
# Short names of loggers

A dotted name is shortened to a length by cutting its parts to one character, those in front
first. `m.v.l.logger.name` is `my.very.long.logger.name` in 17 characters.

* `shortName`: the name in at most so many characters, as far as that is possible.
-/

namespace ServiceClient

/-- The first character of each part; no part can be empty. -/
def initials : List (List Char) → Except Failure (List (List Char))
  | [] => .ok []
  | [] :: _ => .error .stringIndex
  | (c :: _) :: rest => do return [c] :: (← initials rest)

/-- The parts of a name from the last to the first, as many of them whole as fit. `current` is
the length with the parts from here on cut to one character; the very last part is shown as far
as it fits. -/
def shortenParts (length current : Int) (isLast : Bool) :
    List (List Char) → Except Failure (List (List Char))
  | [] => .ok []
  | part :: rest =>
    let expanded := current + part.length - 1
    if length < expanded then do
      let cut ← initials (part :: rest)
      return if isLast && 0 < length - current then
        part.take (length - current + 1).toNat :: cut.drop 1
      else cut
    else do return part :: (← shortenParts length expanded false rest)

/-- A dotted name in at most `length` characters, or as short as it can be. -/
def shortName (name : String) (length : Int) : Except Failure String :=
  if name.length ≤ length then .ok name
  else do
    let parts := (splitAll (· = '.') name.toList).reverse
    let short ← shortenParts length (2 * parts.length - 1) true parts
    return ".".intercalate (short.reverse.map String.ofList)

end ServiceClient
