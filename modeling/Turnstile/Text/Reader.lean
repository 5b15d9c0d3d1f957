/-!
Readers of texts: a reader takes a part off the front of a text and gives its value, or fails and
takes nothing. Main statement: a word is taken off the text that it begins (`word_append`).
-/

namespace Turnstile.Text

/-- A reader of a part of a text: its value and what follows it. -/
abbrev Reader (α : Type) := StateT (List Char) Option α

namespace Reader

variable {α β : Type}

/-! ## Algorithm -/

/-- What a whole text stands for. -/
def whole? (r : Reader α) (cs : List Char) : Option α :=
  match r cs with
  | some (a, []) => some a
  | _ => none

/-- What is left to be read. -/
def rest : Reader (List Char) := get

/-- The next character. -/
def next : Reader Char
  | c :: cs => some (c, cs)
  | [] => none

/-- The next character, if it is one of some kind. -/
def one (p : Char → Bool) : Reader Char
  | c :: cs => if p c then some (c, cs) else none
  | [] => none

/-- The longest run of characters of some kind. -/
def span (p : Char → Bool) : Reader (List Char) := fun cs => some (cs.takeWhile p, cs.dropWhile p)

/-- The longest run of characters of some kind, of which there is at least one. -/
def span1 (p : Char → Bool) : Reader (List Char) := do
  let run ← span p
  if run.isEmpty then failure else return run

/-- A number of characters of some kind. -/
def exactly (count : Nat) (p : Char → Bool) : Reader (List Char) := fun cs =>
  let run := cs.take count
  if run.length = count ∧ run.all p then some (run, cs.drop count) else none

/-- A word. -/
def word : List Char → Reader Unit
  | [], cs => some ((), cs)
  | w :: ws, c :: cs => if w = c then word ws cs else none
  | _ :: _, [] => none

/-- A character. -/
def char (c : Char) : Reader Unit := word [c]

/-- The end of the text. -/
def atEnd : Reader Unit
  | [] => some ((), [])
  | _ => none

/-- A part that may be missing. -/
def optional? (r : Reader α) : Reader (Option α) := (some <$> r) <|> pure none

/-- At most `count` parts one after the other, as many as there are. -/
def upTo (r : Reader α) : Nat → Reader (List α)
  | 0 => pure []
  | count + 1 => (do return (← r) :: (← upTo r count)) <|> pure []

/-- Parts one after the other, as many as there are. -/
def many (r : Reader α) : Reader (List α) := fun cs => upTo r cs.length cs

/-- Parts with something between each two of them. -/
def separated (r : Reader α) (between : Reader β) : Reader (List α) :=
  (do return (← r) :: (← many (between *> r))) <|> pure []

/-! ## Lemmas -/

theorem word_append (w cs : List Char) : word w (w ++ cs) = some ((), cs) := by
  induction w with
  | nil => cases cs <;> rfl
  | cons c w ih => simpa [word] using ih

end Reader

end Turnstile.Text
