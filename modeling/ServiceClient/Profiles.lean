import ServiceClient.Association
import ServiceClient.Environment
import ServiceClient.Log

/-!
# Profile files

A profile file holds properties under headers such as `[default]` or `[profile test]`. Blank
lines and lines that start with `#` are skipped.

* `Profiles.ofLines`: the profiles of a file, or what is wrong with it.
* `Profiles.load`: the profiles of a file that is there.
* `Profiles.find?`: the profile of a name.
-/

namespace ServiceClient

/-- A profile with its properties in order. -/
structure Profile where
  name : String
  properties : List (String × String)
deriving DecidableEq, Repr, Inhabited

namespace Profile

/-- The value of a property. -/
def get? (p : Profile) (property : String) : Option String := p.properties.lookup property

/-- The region of a profile, unless it is empty. -/
def region? (p : Profile) : Option String := (p.get? "region").filter fun r => !r.isEmpty

/-- The names of the properties in order. -/
def sortedNames (p : Profile) : List String :=
  (p.properties.map (·.1)).mergeSort fun a b => !decide (b < a)

/-- A profile as messages show it. -/
def text (p : Profile) : String :=
  "BasicProfile(" ++ quoteText p.name ++ ", properties=" ++
    bracketed "[" "]" (p.sortedNames.map fun (name : String) => quoteText name) ++ ")"

end Profile

/-- The profiles of a file, each name once. -/
abbrev Profiles := List Profile

/-- The header of a profile: its name, and whether that stood behind the word `profile`. -/
structure ProfileHeader where
  name : String
  isPrefixed : Bool
deriving DecidableEq, Repr, Inhabited

/-- A line of a profile file, without blanks around it. -/
inductive ProfileLine
  | empty
  | header (h : ProfileHeader)
  | blankHeader
  | malformedHeader (text : String)
  | property (name value : String)
  | unknown
deriving DecidableEq, Repr

namespace ProfileLine

/-- The word that can stand in front of a name. -/
def profileWord : List Char := "profile ".toList

/-- The header between two brackets. -/
def headerOf (inner : List Char) : ProfileLine :=
  let inner := trimChars inner
  let isPrefixed := profileWord.isPrefixOf inner
  let name := if isPrefixed then trimChars (inner.drop profileWord.length) else inner
  if name.isEmpty then .blankHeader else .header ⟨String.ofList name, isPrefixed⟩

/-- Reads a line. -/
def ofText (line : String) : ProfileLine :=
  let s := trimChars line.toList
  if s.isEmpty || s.head? == some '#' then .empty
  else
    let isOpened := s.head? == some '['
    let isClosed := s.getLast? == some ']'
    if isOpened && isClosed then headerOf (s.drop 1).dropLast
    else if isOpened || isClosed then .malformedHeader (String.ofList s)
    else
      match splitFirst (· = '=') s with
      | (name, some value) =>
        .property (String.ofList (trimChars name)) (String.ofList (trimChars value))
      | (_, none) => .unknown

end ProfileLine

/-- What is read of a profile file so far: the sections by their headers, and the last header. -/
structure ProfileSections where
  sections : List (ProfileHeader × List (String × String))
  current : Option ProfileHeader
deriving Repr

namespace ProfileSections

def empty : ProfileSections := ⟨[], none⟩

/-- The properties of a header. -/
def propertiesOf (p : ProfileSections) (h : ProfileHeader) : List (String × String) :=
  (p.sections.lookup h).getD []

/-- Opens a section. One with the same header loses its properties, which is reported. -/
def startSection (source : String) (h : ProfileHeader) (p : ProfileSections) :
    Logged ProfileSections := do
  if (p.sections.lookup h).isSome then
    Logged.report (.warning .profile
      ("Duplicate profile " ++ quoteText h.name ++ " in " ++ source ++ ", the latest one wins"))
  return ⟨Association.put h [] p.sections, some h⟩

/-- Adds a property to the last section. -/
def addProperty (place : Place) (name value : String) (p : ProfileSections) :
    Except Failure ProfileSections :=
  match p.current with
  | none => .error (.profile place .noProfile)
  | some h =>
    let properties := p.propertiesOf h
    if (properties.lookup name).isSome then
      .error (.profile place (.duplicateProperty name h.name))
    else
      .ok { p with sections := Association.put h (properties ++ [(name, value)]) p.sections }

/-- Takes up a line. -/
def addLine (place : Place) (line : ProfileLine) (p : ProfileSections) :
    Attempt ProfileSections :=
  match line with
  | .empty => return p
  | .header h => (p.startSection place.source h : Logged ProfileSections)
  | .blankHeader => throw (.blankProfileName place)
  | .malformedHeader text => throw (.profile place (.header text))
  | .property name value => (p.addProperty place name value : Except Failure ProfileSections)
  | .unknown =>
    throw (.profile place (if p.current.isNone then .noProfile else .noEqualsSign))

/-- Takes up lines from a line number on. -/
def addLines (source : String) (number : Nat) : List String → ProfileSections →
    Attempt ProfileSections
  | [], p => return p
  | line :: rest, p => do
    let p ← p.addLine ⟨source, number⟩ (.ofText line)
    addLines source (number + 1) rest p

/-- The profiles of the sections: those behind the word first, which the others replace. -/
def profiles (p : ProfileSections) : Profiles :=
  let named (isPrefixed : Bool) : List (String × List (String × String)) :=
    (p.sections.filter fun s => s.1.isPrefixed == isPrefixed).map fun s => (s.1.name, s.2)
  (Association.ofPairs (named true ++ named false)).map fun s => ⟨s.1, s.2⟩

end ProfileSections

namespace Profiles

/-- The profiles that lines hold. -/
def ofLines (source : String) (lines : List String) : Attempt Profiles := do
  return (← ProfileSections.empty.addLines source 1 lines).profiles

/-- The profile of a name. -/
def find? (name : String) (profiles : Profiles) : Option Profile :=
  List.find? (fun p => p.name == name) profiles

/-- A character that ends a line. -/
def isLineEnd (c : Char) : Bool :=
  let n := c.toNat
  (0x0a ≤ n && n ≤ 0x0d) || (0x1c ≤ n && n ≤ 0x1e) || n = 0x85 || n = 0x2028 || n = 0x2029

/-- The lines of a text, the last one only if it has characters. A carriage return and the line
feed after it end one line. -/
def linesOf : List Char → List (List Char)
  | [] => []
  | '\r' :: '\n' :: rest => [] :: linesOf rest
  | c :: rest =>
    if isLineEnd c then [] :: linesOf rest
    else
      match linesOf rest with
      | [] => [[c]]
      | line :: more => (c :: line) :: more

/-- The profiles of a file; none if there is no such file. -/
def load (e : Environment) (path : String) : Attempt (Option Profiles) :=
  match e.files.lookup path with
  | none => return none
  | some content => do
    let text ← ((Utf8.decode content).mapError .decoding : Except Failure String)
    return some (← ofLines path ((linesOf text.toList).map String.ofList))

end Profiles

end ServiceClient
