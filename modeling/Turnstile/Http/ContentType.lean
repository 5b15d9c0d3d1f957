import Turnstile.Key.Headers

/-!
Kinds of content, in the notation `type/subtype+suffix; name=value`. Main statement: a plain kind
made of name characters is read as it stands (`read?_of_plain`).
-/

namespace Turnstile.Http

/-- A kind of content without its parameters, as written. -/
structure ContentType where
  main : List Char
  sub : List Char
deriving DecidableEq, Repr

namespace ContentType

/-! ## Algorithm -/

/-- Where the reading stands: in one of the two names, in the name or the value of a parameter, in a
quoted value, or behind one. For the parts of a parameter it is kept whether they have begun. -/
inductive Place
  | main (read : List Char)
  | sub (main read : List Char)
  | name (kind : ContentType) (begun : Bool)
  | value (kind : ContentType) (begun : Bool)
  | quoted (kind : ContentType) (begun : Bool)
  | unquoted (kind : ContentType)

/-- Whether a character may stand between quotes. -/
def isQuotable (c : Char) : Bool := ' ' ≤ c && c ≠ '\x7f'

/-- Reads one character. A quote closes a quoted value only behind its first character, and blanks
stand only in front of a name and behind a quoted value. -/
def step (c : Char) : Place → Option Place
  | .main read =>
    if Headers.isNameChar c then some (.main (read ++ [c]))
    else if c = '/' && !read.isEmpty then some (.sub read [])
    else none
  | .sub main read =>
    if Headers.isNameChar c then some (.sub main (read ++ [c]))
    else if c = ';' && !read.isEmpty then some (.name ⟨main, read⟩ false)
    else none
  | .name kind begun =>
    if Headers.isNameChar c then some (.name kind true)
    else if c = ' ' && !begun then some (.name kind false)
    else if c = '=' && begun then some (.value kind false)
    else none
  | .value kind begun =>
    if Headers.isNameChar c then some (.value kind true)
    else if c = '"' && !begun then some (.quoted kind false)
    else if c = ';' && begun then some (.name kind false)
    else none
  | .quoted kind begun =>
    if c = '"' && begun then some (.unquoted kind)
    else if isQuotable c then some (.quoted kind true)
    else none
  | .unquoted kind =>
    if c = ';' then some (.name kind false)
    else if c = ' ' then some (.unquoted kind)
    else none

/-- The kind at the end of the text, where no name and no quoted value may be left open. -/
def finish? : Place → Option ContentType
  | .sub main read => some ⟨main, read⟩
  | .name kind false => some kind
  | .value kind _ => some kind
  | .unquoted kind => some kind
  | _ => none

/-- The kind of content that a text describes. -/
def read? (s : String) : Option ContentType :=
  (s.toList.foldlM (fun p c => step c p) (.main [])).bind finish?

/-- The suffix behind the last plus sign, which counts unless it is the first character. -/
def suffix? (kind : ContentType) : Option (List Char) :=
  if (kind.sub.drop 1).contains '+' then
    some (kind.sub.reverse.takeWhile (· ≠ '+')).reverse
  else none

/-- The second name without its suffix. -/
def base (kind : ContentType) : List Char :=
  match kind.suffix? with
  | some ending => kind.sub.take (kind.sub.length - ending.length - 1)
  | none => kind.sub

/-- Whether two names are equal but for the case of their letters. -/
def sameName (cs : List Char) (name : String) : Bool := cs.map Headers.lowerChar = name.toList

/-- Whether the content is JSON: `application/json`, or an application type with that suffix. -/
def isJson (kind : ContentType) : Bool :=
  sameName kind.main "application" &&
    (sameName kind.base "json" || kind.suffix?.any (sameName · "json"))

/-! ## Lemmas -/

theorem foldlM_main (read : List Char) {cs : List Char} (h : ∀ c ∈ cs, Headers.isNameChar c) :
    cs.foldlM (fun p c => step c p) (.main read) = some (.main (read ++ cs)) := by
  induction cs generalizing read with
  | nil => simp
  | cons c cs ih =>
    have first : step c (.main read) = some (.main (read ++ [c])) := by simp [step, h c]
    rw [List.foldlM_cons, first]
    simpa using ih (read ++ [c]) fun x hx => h x (by simp [hx])

theorem foldlM_sub (main read : List Char) {cs : List Char}
    (h : ∀ c ∈ cs, Headers.isNameChar c) :
    cs.foldlM (fun p c => step c p) (.sub main read) = some (.sub main (read ++ cs)) := by
  induction cs generalizing read with
  | nil => simp
  | cons c cs ih =>
    have first : step c (.sub main read) = some (.sub main (read ++ [c])) := by simp [step, h c]
    rw [List.foldlM_cons, first]
    simpa using ih (read ++ [c]) fun x hx => h x (by simp [hx])

/-- Two names with a slash between them are a kind of content without parameters. -/
theorem read?_of_plain {main sub : List Char} (hm : main ≠ [])
    (hmain : ∀ c ∈ main, Headers.isNameChar c) (hsub : ∀ c ∈ sub, Headers.isNameChar c) :
    read? (.ofList (main ++ '/' :: sub)) = some ⟨main, sub⟩ := by
  have slash : step '/' (.main main) = some (.sub main []) := by
    have : Headers.isNameChar '/' = false := by decide
    simp [step, this, hm]
  rw [read?, String.toList_ofList, List.foldlM_append, foldlM_main [] hmain]
  simp [slash, foldlM_sub main [] hsub, finish?]

end ContentType

end Turnstile.Http
