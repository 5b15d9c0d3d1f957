import Turnstile.Text.Hex

/-!
Owner tokens: numbers of 128 bits in the notation of universally unique identifiers. Main statement:
the text of a token reads back as the token (`read?_text`).
-/

namespace Turnstile

/-- An opaque token that names the holder of a lease. -/
structure Token where
  value : Nat
  value_lt : value < Nat.pow 2 128
deriving DecidableEq

namespace Token

instance : Inhabited Token := ⟨⟨0, by decide⟩⟩

/-! ## Algorithm -/

/-- The token of a number; only its last 128 bits count. -/
def ofNat (n : Nat) : Token := ⟨n % Nat.pow 2 128, Nat.mod_lt _ (by decide)⟩

/-- The `n`-th token of a supply of distinct ones: all share a stem with the marks of a random
identifier. -/
def serial (n : Nat) : Token := ofNat (0x6b1f9d27c4e84a53b7d1 * Nat.pow 2 48 + n)

/-- Puts hyphens between the five groups of 32 digits. -/
def hyphenate (ds : List Char) : List Char :=
  ds.take 8 ++ '-' :: (ds.drop 8).take 4 ++ '-' :: (ds.drop 12).take 4 ++
    '-' :: (ds.drop 16).take 4 ++ '-' :: ds.drop 20

/-- The characters of a token. -/
def chars (t : Token) : List Char := hyphenate (Text.hexDigits 32 t.value)

/-- The text of a token: 32 lower-case digits in five groups. -/
def text (t : Token) : String := .ofList t.chars

/-- The digits of a text with hyphens after the eighth, twelfth, sixteenth and twentieth of them. -/
def ungroup? (cs : List Char) : Option (List Char) :=
  let digits := cs.take 8 ++ (cs.drop 9).take 4 ++ (cs.drop 14).take 4 ++ (cs.drop 19).take 4 ++
    cs.drop 24
  if digits.length = 32 ∧ cs = hyphenate digits then some digits else none

/-- The 32 digits of a token in any of its forms: plain, grouped, grouped in braces, and grouped
behind a scheme, which may be written in letters of either case. -/
def digits? (cs : List Char) : Option (List Char) :=
  if cs.length = 32 then some cs
  else if cs.length = 36 then ungroup? cs
  else if cs.length = 38 then
    if cs.head? = some '\x7b' ∧ cs.getLast? = some '\x7d' then ungroup? ((cs.drop 1).take 36)
    else none
  else if cs.length = 45 then
    if (cs.take 9).map Char.toLower = "urn:uuid:".toList then ungroup? (cs.drop 9) else none
  else none

/-- The token that a text names. -/
def read? (s : String) : Option Token :=
  (digits? s.toList).bind fun ds => (Text.hexNumber? ds).map ofNat

/-! ## Lemmas -/

theorem length_hyphenate {ds : List Char} (h : ds.length = 32) : (hyphenate ds).length = 36 := by
  simp [hyphenate, h]

theorem ungroup?_hyphenate {ds : List Char} (h : ds.length = 32) :
    ungroup? (hyphenate ds) = some ds := by
  match ds, h with
  | [a, b, c, d, e, f, g, i, j, k, l, m, n, o, p, q, r, s, t, u, v, w, x, y, z, a', b', c', d', e',
      f', g'], _ => simp [ungroup?, hyphenate]

theorem ofNat_value (t : Token) : ofNat t.value = t := by
  cases t with
  | mk value value_lt =>
    unfold ofNat
    congr 1
    exact Nat.mod_eq_of_lt value_lt

/-- The grouped form shows the digits of its token. -/
theorem digits?_chars (t : Token) : digits? t.chars = some (Text.hexDigits 32 t.value) := by
  have length : (Text.hexDigits 32 t.value).length = 32 := Text.length_hexDigits 32 _
  simp [digits?, chars, length_hyphenate length, ungroup?_hyphenate length]

theorem read?_text (t : Token) : read? t.text = some t := by
  have small : t.value % Nat.pow 16 32 = t.value := Nat.mod_eq_of_lt t.value_lt
  rw [read?, text, String.toList_ofList, digits?_chars, Option.bind_some,
    Text.hexNumber?_hexDigits, small, Option.map_some, ofNat_value]

theorem text_inj {a b : Token} : a.text = b.text ↔ a = b := by
  constructor
  · intro same
    have read := read?_text a
    rw [same, read?_text b] at read
    exact (Option.some.inj read).symm
  · rintro rfl
    rfl

end Token

end Turnstile
