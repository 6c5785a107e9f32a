import ServiceClient.Text.Character
import ServiceClient.Text.Charset

/-!
# Quoted text

A text or a byte string between quotes on one line, as it is shown in messages. Single quotes
are used unless the content has a single quote and no double quote.

* `quoteText`: code points that are not printable become escapes.
* `quoteBytes`: a leading `b`, and every byte outside of printable ASCII as `\x..`.
-/

namespace ServiceClient

/-- The quote character for a content. -/
def quoteFor (s : List Char) : Char :=
  if s.contains '\'' && !s.contains '"' then '"' else '\''

/-- Escapes a backslash, the quote and the three common controls; the rest goes to `other`. -/
def escapeChar (quote : Char) (other : Char → List Char) (c : Char) : List Char :=
  if c = quote ∨ c = '\\' then ['\\', c]
  else if c = '\n' then ['\\', 'n']
  else if c = '\r' then ['\\', 'r']
  else if c = '\t' then ['\\', 't']
  else other c

/-- A code point of a quoted text. -/
def quotedPoint (quote : Char) : CodePoint → List Char
  | .char c =>
    escapeChar quote (fun c => if isPrintable c then [c] else codePointEscape c.toNat) c
  | p => codePointEscape p.toNat

/-- A quoted text. -/
def quoteText (t : Text) : String :=
  let quote := quoteFor (t.points.map CodePoint.shown)
  String.ofList (quote :: t.points.flatMap (quotedPoint quote) ++ [quote])

/-- A quoted byte string. -/
def quoteBytes (s : Bytes) : String :=
  let chars := s.map fun b => Char.ofNat b.toNat
  let quote := quoteFor chars
  let body := chars.flatMap
    (escapeChar quote fun c =>
      if 32 ≤ c.toNat ∧ c.toNat < 127 then [c] else codePointEscape c.toNat)
  String.ofList ('b' :: quote :: body ++ [quote])

end ServiceClient
