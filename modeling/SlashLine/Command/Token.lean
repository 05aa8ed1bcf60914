import SlashLine.Text.Blank

/-!
# Tokens

Command text is split at blanks, except inside quotes. Either quote character opens a span, the
same character closes it, and the other one is plain text inside. Quote characters are dropped, a
span that is not closed runs to the end, and one leading slash belongs to no token.

* `tokensFrom_cons_blank`: a blank before the first token is passed over.
-/

namespace SlashLine.Command

/-- The two characters that open and close a quoted span. -/
def isQuote (c : Char) : Bool := c == '"' || c == '\''

/-- A token before others: trimmed, and left out if nothing remains. -/
def keepToken (token : List Char) (later : List (List Char)) : List (List Char) :=
  match Text.trimList token with
  | [] => later
  | c :: cs => (c :: cs) :: later

/-- Reads on inside a token: what is left of that token, and the tokens after it. The first
argument is the character that closes the span, if one is open. -/
def scanToken : Option Char → List Char → List Char × List (List Char)
  | _, [] => ([], [])
  | none, c :: cs =>
    if isQuote c then scanToken (some c) cs
    else
      let (token, later) := scanToken none cs
      if Text.isBlank c then ([], keepToken token later) else (c :: token, later)
  | some quote, c :: cs =>
    if c = quote then scanToken none cs
    else
      let (token, later) := scanToken (some quote) cs
      (c :: token, later)

/-- The tokens of a text outside quotes. -/
def tokensFrom (cs : List Char) : List (List Char) :=
  let (token, later) := scanToken none cs
  keepToken token later

/-- A text without the slash it may start with. -/
def dropSlash : List Char → List Char
  | '/' :: cs => cs
  | cs => cs

/-- The tokens of command text: trimmed, not empty, in order. -/
def tokenize (text : String) : List String :=
  (tokensFrom (dropSlash (Text.trimList text.toList))).map String.ofList

/-! ## Separation -/

theorem tokensFrom_cons_blank {w : Char} (cs : List Char) (hw : Text.isBlank w)
    (hq : isQuote w = false) : tokensFrom (w :: cs) = tokensFrom cs := by
  simp [tokensFrom, scanToken, hw, hq, keepToken, Text.trimList, Text.trimStart, Text.trimEnd]

end SlashLine.Command
