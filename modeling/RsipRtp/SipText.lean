import Mathlib.Algebra.GroupWithZero.Nat
import Mathlib.Data.List.DropRight
import Mathlib.Data.List.Infix
import Mathlib.Algebra.BigOperators.Group.List.Basic

/-!
# Text as the SIP layer reads it

A Rust `str` is a list of scalar values here.
-/

namespace RsipRtp.SipText

abbrev Text := List Char
abbrev Bytes := List UInt8

instance : Coe String Text := ⟨String.toList⟩

def utf8 (s : Text) : Bytes := s.flatMap String.utf8EncodeChar

def utf8Len (s : Text) : ℕ := (s.map Char.utf8Size).sum

/-- `char::is_whitespace`: the Unicode `White_Space` property. -/
def isWhitespace (c : Char) : Bool :=
  let n := c.toNat
  (9 ≤ n && n ≤ 13) || n == 0x20 || n == 0x85 || n == 0xA0 || n == 0x1680 ||
    (0x2000 ≤ n && n ≤ 0x200A) || n == 0x2028 || n == 0x2029 || n == 0x202F ||
    n == 0x205F || n == 0x3000

def trimStart (s : Text) : Text := s.dropWhile isWhitespace
def trimEnd (s : Text) : Text := s.rdropWhile isWhitespace
def trim (s : Text) : Text := trimEnd (trimStart s)

/-- `str::find` of one character: what stands before it and after it. -/
def splitFirst (c : Char) : Text → Option (Text × Text)
  | [] => none
  | x::xs => if x = c then some ([],xs)
      else (splitFirst c xs).map (fun p => (x::p.1,p.2))

/-- `str::rfind` of one character. -/
def splitLast (c : Char) (s : Text) : Option (Text × Text) :=
  (splitFirst c s.reverse).map (fun p => (p.2.reverse,p.1.reverse))

def splitWhitespace (s : Text) : List Text :=
  (s.splitOnP isWhitespace).filter (fun w => !w.isEmpty)

def stripPrefix (pre s : Text) : Option Text :=
  if pre.isPrefixOf s then some (s.drop pre.length) else none

def toAsciiLowercase (s : Text) : Text := s.map Char.toLower
def toAsciiUppercase (s : Text) : Text := s.map Char.toUpper

def eqIgnoreAsciiCase (s t : Text) : Bool := toAsciiLowercase s == toAsciiLowercase t

def isAsciiDigit (c : Char) : Bool := '0' ≤ c && c ≤ '9'

def digitsValue (s : Text) : ℕ :=
  s.foldl (fun n c => 10*n+(c.toNat - '0'.toNat)) 0

/-- `str::parse` at an unsigned type below `bound`: an optional plus sign,
then at least one digit. -/
def parseUnsigned (bound : ℕ) (s : Text) : Option ℕ :=
  let digits := (stripPrefix ['+'] s).getD s
  if digits.isEmpty || !digits.all isAsciiDigit then none
  else if digitsValue digits < bound then some (digitsValue digits) else none

def parseU16 (s : Text) : Option ℕ := parseUnsigned (2^16) s
def parseU32 (s : Text) : Option ℕ := parseUnsigned (2^32) s

def natText (n : ℕ) : Text := Nat.toDigits 10 n

def join (sep : Text) (ts : List Text) : Text := (ts.intersperse sep).flatten

def escapeDebug (c : Char) : Text :=
  match c with
  | '"' => ['\\','"']
  | '\\' => ['\\','\\']
  | '\n' => ['\\','n']
  | '\r' => ['\\','r']
  | '\t' => ['\\','t']
  | '\x00' => ['\\','0']
  | c => if c.toNat < 0x20 || c.toNat == 0x7F
      then "\\u\x7b"++Nat.toDigits 16 c.toNat++ ['\x7d'] else [c]

/-- The `Debug` form of a text in an error message. Code points that Rust
prints as an escape only for want of a glyph are shown as they are. -/
def debug (s : Text) : Text := '"'::s.flatMap escapeDebug++['"']

inductive SipError where
  | parse (text : Text)
  | invalidHeader (text : Text)
  | missingHeader (text : Text)
deriving DecidableEq

def SipError.display : SipError → Text
  | .parse t => "Parse error: "++t
  | .invalidHeader t => "Invalid header: "++t
  | .missingHeader t => "Missing required header: "++t

def ok {α : Type} (r : Except SipError α) : Option α := r.toOption

theorem ok_eq_some {α : Type} {x : Except SipError α} {a : α} : ok x = some a ↔ x = .ok a := by
  cases x with
  | error e => exact ⟨nofun,nofun⟩
  | ok b =>
    constructor
    · rintro ⟨⟩
      rfl
    · rintro ⟨⟩
      rfl

theorem ok_bind {ε α β : Type} (a : α) (f : α → Except ε β) :
    (Except.ok a >>= f) = f a := rfl

theorem bind_ok {ε α β : Type} {x : Except ε α} {f : α → Except ε β} {b : β}
    (h : (x >>= f) = .ok b) : ∃ a, x = .ok a ∧ f a = .ok b := by
  cases x with
  | error => cases h
  | ok a => exact ⟨a,rfl,h⟩

theorem map_ok {ε α β : Type} {x : Except ε α} {f : α → β} {b : β} (h : x.map f = .ok b) :
    ∃ a, x = .ok a ∧ f a = b := by
  cases x with
  | error => cases h
  | ok a => exact ⟨a,rfl,Except.ok.inj h⟩

end RsipRtp.SipText
