/-!
# Upper case, towards ASCII words

The upper-case form of a text as far as it can be told apart from others by comparing it with a
word in ASCII capitals.
-/

namespace SlashLine.Text

/-- The upper-case form of one character. Beyond ASCII only those characters change whose form is
in ASCII; every other one has a form outside ASCII, and stands for it. -/
def upperChar (c : Char) : List Char :=
  if c.toNat < 0x80 then [c.toUpper]
  else match c with
    | 'ß' => ['S', 'S']
    | 'ı' => ['I']
    | 'ſ' => ['S']
    | 'ﬀ' => ['F', 'F']
    | 'ﬁ' => ['F', 'I']
    | 'ﬂ' => ['F', 'L']
    | 'ﬃ' => ['F', 'F', 'I']
    | 'ﬄ' => ['F', 'F', 'L']
    | 'ﬅ' => ['S', 'T']
    | 'ﬆ' => ['S', 'T']
    | _ => [c]

/-- The text in capitals: equal to a word of ASCII capitals exactly when the full upper-case form
is. -/
def capitals (s : String) : String := String.ofList (s.toList.flatMap upperChar)

end SlashLine.Text
