import ServiceClient.Bytes
import ServiceClient.Text.CodePoint

/-!
# Character sets

Between text and bytes in UTF-8, Latin-1 and ASCII. Bytes that are no text, and code points
that a set lacks, are refused, replaced or left out. No set has surrogates.

* `Utf8.encode`, `Utf8.decode`: UTF-8, the decoder strict.
* `Charset.encode`, `Charset.decode`: any set under any policy.
* `DecodeError.message`, `EncodeError.message`: what was refused, and where.
-/

namespace ServiceClient

/-- A character set. -/
inductive Charset
  | utf8
  | latin1
  | ascii
deriving DecidableEq, Repr, Inhabited

/-- What happens to input that cannot be converted. -/
inductive OnInvalid
  | refuse
  | replace
  | ignore
deriving DecidableEq, Repr, Inhabited

/-- Why bytes are no text. -/
inductive DecodeReason
  | invalidStart
  | invalidContinuation
  | unexpectedEnd
  | outOfRange
deriving DecidableEq, Repr, Inhabited

/-- Bytes `start` up to below `stop` are no text; the first of them is `byte`. -/
structure DecodeError where
  charset : Charset
  start : Nat
  stop : Nat
  byte : UInt8
  reason : DecodeReason
deriving DecidableEq, Repr, Inhabited

/-- Code points `start` up to below `stop`, the first of which is `point`, are not in the set. -/
structure EncodeError where
  charset : Charset
  start : Nat
  stop : Nat
  point : CodePoint
deriving DecidableEq, Repr, Inhabited

/-- The escape that names a code point by its number. -/
def codePointEscape (n : Nat) : List Char :=
  if n < 0x100 then '\\' :: 'x' :: hexPadded 2 n
  else if n < 0x10000 then '\\' :: 'u' :: hexPadded 4 n
  else '\\' :: 'U' :: hexPadded 8 n

namespace Charset

def name : Charset → String
  | utf8 => "utf-8"
  | latin1 => "latin-1"
  | ascii => "ascii"

/-- The number of code points in the set, surrogates aside. -/
def size : Charset → Nat
  | utf8 => 0x110000
  | latin1 => 256
  | ascii => 128

/-- Whether the set has a code point. -/
def holds (charset : Charset) (p : CodePoint) : Bool := !p.isSurrogate && p.toNat < charset.size

end Charset

namespace DecodeError

def reasonText (e : DecodeError) : String :=
  match e.reason with
  | .invalidStart => "invalid start byte"
  | .invalidContinuation => "invalid continuation byte"
  | .unexpectedEnd => "unexpected end of data"
  | .outOfRange => "ordinal not in range(" ++ toString e.charset.size ++ ")"

def message (e : DecodeError) : String :=
  let place :=
    if e.stop = e.start + 1 then
      "byte 0x" ++ String.ofList (hexPadded 2 e.byte.toNat) ++ " in position " ++ toString e.start
    else "bytes in position " ++ toString e.start ++ "-" ++ toString (e.stop - 1)
  "'" ++ e.charset.name ++ "' codec can't decode " ++ place ++ ": " ++ e.reasonText

end DecodeError

namespace EncodeError

def message (e : EncodeError) : String :=
  let place :=
    if e.stop = e.start + 1 then
      "character '" ++ String.ofList (codePointEscape e.point.toNat) ++ "' in position " ++
        toString e.start
    else "characters in position " ++ toString e.start ++ "-" ++ toString (e.stop - 1)
  let reason :=
    if e.charset = .utf8 then "surrogates not allowed"
    else "ordinal not in range(" ++ toString e.charset.size ++ ")"
  "'" ++ e.charset.name ++ "' codec can't encode " ++ place ++ ": " ++ reason

end EncodeError

namespace Utf8

/-- The bytes of one character. -/
def encodeChar (c : Char) : Bytes :=
  let n := c.toNat
  if n < 0x80 then [UInt8.ofNat n]
  else if n < 0x800 then [UInt8.ofNat (0xC0 + n / 64), UInt8.ofNat (0x80 + n % 64)]
  else if n < 0x10000 then
    [UInt8.ofNat (0xE0 + n / 4096), UInt8.ofNat (0x80 + n / 64 % 64), UInt8.ofNat (0x80 + n % 64)]
  else
    [UInt8.ofNat (0xF0 + n / 262144), UInt8.ofNat (0x80 + n / 4096 % 64),
      UInt8.ofNat (0x80 + n / 64 % 64), UInt8.ofNat (0x80 + n % 64)]

def encodeChars (s : List Char) : Bytes := s.flatMap encodeChar

/-- A text in UTF-8. -/
def encode (s : String) : Bytes := encodeChars s.toList

/-- What a byte sequence starts with: a character, or bytes that are refused. Both carry the
number of bytes that follow the first. -/
inductive Start
  | char (c : Char) (more : Nat)
  | invalid (reason : DecodeReason) (more : Nat)
deriving DecidableEq, Repr

/-- A byte that continues a character. -/
def isContinuation (b : UInt8) : Bool := 0x80 ≤ b.toNat && b.toNat < 0xC0

/-- The six low bits of a continuation byte. -/
def payload (b : UInt8) : Nat := b.toNat % 64

/-- Reads the first character of `b :: rest`. The second byte is limited further after the
first bytes `E0`, `ED`, `F0` and `F4`, which keeps out long forms, surrogates and code points
that do not exist. -/
def start (b : UInt8) (rest : Bytes) : Start :=
  let n := b.toNat
  if n < 0x80 then .char (Char.ofNat n) 0
  else if n < 0xC2 ∨ 0xF5 ≤ n then .invalid .invalidStart 0
  else
    match rest with
    | [] => .invalid .unexpectedEnd 0
    | c :: rest =>
      if n < 0xE0 then
        if isContinuation c then .char (Char.ofNat ((n - 0xC0) * 64 + payload c)) 1
        else .invalid .invalidContinuation 0
      else if n < 0xF0 then
        if !isContinuation c || (n = 0xE0 && c.toNat < 0xA0) || (n = 0xED && 0xA0 ≤ c.toNat) then
          .invalid .invalidContinuation 0
        else
          match rest with
          | [] => .invalid .unexpectedEnd 1
          | d :: _ =>
            if isContinuation d then
              .char (Char.ofNat ((n - 0xE0) * 4096 + payload c * 64 + payload d)) 2
            else .invalid .invalidContinuation 1
      else if !isContinuation c || (n = 0xF0 && c.toNat < 0x90) ||
          (n = 0xF4 && 0x90 ≤ c.toNat) then
        .invalid .invalidContinuation 0
      else
        match rest with
        | [] => .invalid .unexpectedEnd 1
        | d :: rest =>
          if !isContinuation d then .invalid .invalidContinuation 1
          else
            match rest with
            | [] => .invalid .unexpectedEnd 2
            | e :: _ =>
              if isContinuation e then
                .char (Char.ofNat
                  ((n - 0xF0) * 262144 + payload c * 4096 + payload d * 64 + payload e)) 3
              else .invalid .invalidContinuation 2

/-- Decodes bytes from the given position on. -/
def decodeFrom (policy : OnInvalid) (position : Nat) :
    Bytes → Except DecodeError (List Char)
  | [] => .ok []
  | b :: rest =>
    match start b rest with
    | .char c more => do
      let tail ← decodeFrom policy (position + 1 + more) (rest.drop more)
      return c :: tail
    | .invalid reason more =>
      match policy with
      | .refuse => .error ⟨.utf8, position, position + 1 + more, b, reason⟩
      | .replace => do
        let tail ← decodeFrom policy (position + 1 + more) (rest.drop more)
        return '\uFFFD' :: tail
      | .ignore => decodeFrom policy (position + 1 + more) (rest.drop more)
termination_by s => s.length
decreasing_by all_goals (simp only [List.length_cons, List.length_drop]; omega)

/-- The text that bytes are in UTF-8. -/
def decode (s : Bytes) : Except DecodeError String :=
  (decodeFrom .refuse 0 s).map String.ofList

/-- The text of bytes in UTF-8, with each invalid piece replaced by U+FFFD. -/
def decodeLossy (s : Bytes) : String :=
  match decodeFrom .replace 0 s with
  | .ok text => String.ofList text
  | .error _ => ""

end Utf8

namespace Charset

/-- The bytes of a code point that the set has. -/
def bytesOf (charset : Charset) (p : CodePoint) : Bytes :=
  match charset, p with
  | utf8, .char c => Utf8.encodeChar c
  | _, p => [UInt8.ofNat p.toNat]

/-- Encodes code points into a set from the given position on. -/
def encodeFrom (charset : Charset) (policy : OnInvalid) (position : Nat) :
    List CodePoint → Except EncodeError Bytes
  | [] => .ok []
  | p :: rest =>
    if charset.holds p then do
      let tail ← encodeFrom charset policy (position + 1) rest
      return charset.bytesOf p ++ tail
    else
      match policy with
      | .refuse =>
        let run := rest.takeWhile fun q => !charset.holds q
        .error ⟨charset, position, position + 1 + run.length, p⟩
      | .replace => do
        let tail ← encodeFrom charset policy (position + 1) rest
        return 63 :: tail
      | .ignore => encodeFrom charset policy (position + 1) rest

/-- Decodes a set of single bytes from the given position on. -/
def decodeSingle (charset : Charset) (policy : OnInvalid) (position : Nat) :
    Bytes → Except DecodeError (List Char)
  | [] => .ok []
  | b :: rest =>
    if b.toNat < charset.size then do
      let tail ← decodeSingle charset policy (position + 1) rest
      return Char.ofNat b.toNat :: tail
    else
      match policy with
      | .refuse => .error ⟨charset, position, position + 1, b, .outOfRange⟩
      | .replace => do
        let tail ← decodeSingle charset policy (position + 1) rest
        return '\uFFFD' :: tail
      | .ignore => decodeSingle charset policy (position + 1) rest

/-- A text as bytes of a set. -/
def encode (charset : Charset) (policy : OnInvalid) (t : Text) : Except EncodeError Bytes :=
  encodeFrom charset policy 0 t.points

/-- Every string is text in UTF-8. -/
theorem encodeFrom_utf8 (policy : OnInvalid) (position : Nat) (s : List Char) :
    encodeFrom utf8 policy position (s.map .char) = .ok (Utf8.encodeChars s) := by
  induction s generalizing position with
  | nil => rfl
  | cons c rest ih =>
    have hheld : utf8.holds (.char c) = true := decide_eq_true (CodePoint.char c).toNat_lt
    simp only [List.map_cons, encodeFrom, hheld, if_true, ih]
    rfl

theorem encode_utf8 (policy : OnInvalid) (s : String) :
    utf8.encode policy s = .ok (Utf8.encode s) := encodeFrom_utf8 policy 0 s.toList

/-- No text with a surrogate has bytes in UTF-8. -/
theorem chars_of_encodeFrom_utf8 {position : Nat} {points : List CodePoint} {bytes : Bytes}
    (h : encodeFrom utf8 .refuse position points = .ok bytes) :
    ∃ s : List Char, points = s.map .char := by
  induction points generalizing position bytes with
  | nil => exact ⟨[], rfl⟩
  | cons p rest ih =>
    rw [encodeFrom] at h
    cases p with
    | surrogate n => cases h
    | char c =>
      have hheld : utf8.holds (.char c) = true := decide_eq_true (CodePoint.char c).toNat_lt
      rw [if_pos hheld] at h
      cases hrest : encodeFrom utf8 .refuse (position + 1) rest with
      | error e =>
        rw [hrest] at h
        cases h
      | ok tail =>
        obtain ⟨s, rfl⟩ := ih hrest
        exact ⟨c :: s, rfl⟩

/-- **The texts with bytes in UTF-8 are the strings.** -/
theorem encode_utf8_eq_ok {t : Text} {bytes : Bytes} :
    utf8.encode .refuse t = .ok bytes ↔ ∃ s : String, t = s ∧ bytes = Utf8.encode s := by
  constructor
  · intro h
    obtain ⟨s, hs⟩ := chars_of_encodeFrom_utf8 h
    obtain rfl : t = String.ofList s := by
      ext1
      rw [hs, Text.points_ofString, String.toList_ofList]
    rw [encode_utf8] at h
    exact ⟨String.ofList s, rfl, (Except.ok.inj h).symm⟩
  · rintro ⟨s, rfl, rfl⟩
    exact encode_utf8 .refuse s

/-- The text that bytes of a set are. -/
def decode (charset : Charset) (policy : OnInvalid) (s : Bytes) : Except DecodeError String :=
  match charset with
  | utf8 => (Utf8.decodeFrom policy 0 s).map String.ofList
  | set => (decodeSingle set policy 0 s).map String.ofList

end Charset

end ServiceClient
