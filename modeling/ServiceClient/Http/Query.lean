import ServiceClient.Http.Url

/-!
# Query strings

Pairs of names and values between `&`, with percent escapes.

* `Query.encode`: the text of pairs, everything escaped that is not unreserved.
* `Query.parse`: the pairs of a text; `+` is a blank, and pairs without a `=` have an empty
  value.
* `Query.grouped`: the pairs of each name together, names in order of their first pair.
-/

namespace ServiceClient.Query

/-- The text of pairs whose names and values are given as bytes. -/
def encode (pairs : List (Bytes × Bytes)) : String :=
  let nothing (_ : Char) : Bool := false
  let pair (p : Bytes × Bytes) : String :=
    String.ofList (Percent.encodeBytes nothing p.1 ++ '=' :: Percent.encodeBytes nothing p.2)
  "&".intercalate (pairs.map pair)

/-- Decodes bytes of UTF-8; bytes that are no text become escapes again. -/
def decodeKeeping : Bytes → List Char
  | [] => []
  | b :: rest =>
    match Utf8.start b rest with
    | .char c more => c :: decodeKeeping (rest.drop more)
    | .invalid _ more =>
      Percent.encodeBytes (fun _ => false) (b :: rest.take more) ++ decodeKeeping (rest.drop more)
termination_by s => s.length
decreasing_by all_goals (simp only [List.length_cons, List.length_drop]; omega)

/-- Splits into runs of ASCII characters and runs of others. -/
def runs : List Char → List (Bool × List Char)
  | [] => []
  | c :: rest =>
    let ascii : Bool := c.toNat < 128
    match runs rest with
    | (kind, run) :: more =>
      if kind = ascii then (kind, c :: run) :: more else (ascii, [c]) :: (kind, run) :: more
    | [] => [(ascii, [c])]

/-- Replaces the escapes of a text, one run of ASCII characters at a time. -/
def unescape (s : List Char) : List Char :=
  (runs s).flatMap fun (ascii, run) =>
    if ascii then decodeKeeping (Percent.decodeBytes run) else run

/-- A name or value as it was meant. -/
def component (s : List Char) : String :=
  String.ofList (unescape (s.map fun c => if c = '+' then ' ' else c))

/-- The pairs of a query string. -/
def parse (query : String) : List (String × String) :=
  ((splitAll (· = '&') query.toList).filter fun s => !s.isEmpty).map fun s =>
    let (name, value) := splitFirst (· = '=') s
    (component name, component (value.getD []))

/-- The pairs of each name together. -/
def grouped (pairs : List (String × String)) : List (String × String) :=
  let names := pairs.foldl (fun (seen : List String) p =>
    if seen.contains p.1 then seen else seen ++ [p.1]) []
  names.flatMap fun name => pairs.filter fun p => p.1 == name

end ServiceClient.Query
