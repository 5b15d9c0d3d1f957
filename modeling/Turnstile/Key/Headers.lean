import Turnstile.Text.Blank

/-!
Request headers: a list of names and values. Names are compared without regard to the case of ASCII
letters, and a look-up gives the first value. A value is text when it consists of tabs and printable
ASCII characters.
-/

namespace Turnstile

/-- The headers of a request, in order. -/
structure Headers where
  entries : List (String × String)

namespace Headers

/-- No headers. -/
def empty : Headers := ⟨[]⟩

/-- The lower-case form of an ASCII letter; other characters are kept. -/
def lowerChar (c : Char) : Char := c.toLower

/-- A text with its ASCII letters in lower case. -/
def lower (s : String) : String := .ofList (s.toList.map lowerChar)

/-- Whether a character may stand in a header name. -/
def isNameChar (c : Char) : Bool :=
  c.isAlphanum || "!#$%&'*+-.^_`|~".toList.contains c

/-- Whether a text may be a header name. -/
def isName (s : String) : Bool := !s.isEmpty && s.toList.all isNameChar

/-- Whether a character may stand in a value that is text. -/
def isTextChar (c : Char) : Bool := c = '\t' || (' ' ≤ c && c ≤ '~')

/-- The first value of a name; a text that cannot be a name has none. -/
def find? (h : Headers) (name : String) : Option String :=
  if isName name then
    (h.entries.find? fun entry => lower entry.1 = lower name).map Prod.snd
  else none

/-- A value as text. -/
def asText? (value : String) : Option String :=
  if value.toList.all isTextChar then some value else none

/-- The header as appended behind the others. -/
def append (h : Headers) (name value : String) : Headers := ⟨h.entries ++ [(name, value)]⟩

/-- Whether the header of a name reads `true`, blanks at its ends and the case of its letters
aside. -/
def isTrue (h : Headers) (name : String) : Bool :=
  match (h.find? name).bind asText? with
  | some value => lower (Text.trim value) = "true"
  | none => false

end Headers

end Turnstile
