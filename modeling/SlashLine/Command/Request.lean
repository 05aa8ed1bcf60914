import SlashLine.Command.Parsed
import SlashLine.Text.Word

/-!
# Requests with a separate command

Some hosts hand over the name of a command apart from the rest of the line. The line is put
together again if the host's command is a known one.
-/

namespace SlashLine.Command

/-- A mention, blanks and a slash: `@`, word characters, blanks, `/`. -/
def startsWithMention : List Char → Bool
  | '@' :: cs =>
    let rest := cs.dropWhile Text.isWordChar
    let tail := rest.dropWhile Text.isBlank
    rest.length < cs.length && tail.length < rest.length && tail.head? == some '/'
  | _ => false

/-- The name a host gives, without blanks around it and without its slash. -/
def requestedName (request : Option String) : List Char :=
  match Text.trimList ((request.getD "").toList) with
  | '/' :: name => name
  | name => name

/-- The line to run for a prompt and the command that came with it. A prompt that is a command
already, alone or after a mention, stands for itself; so does one with no known command. -/
def deriveInput (prompt : String) (request : Option String) (isKnown : String → Bool) : String :=
  let trimmed := Text.trimList prompt.toList
  if startsSlash trimmed || startsWithMention trimmed then String.ofList trimmed
  else match requestedName request with
    | [] => String.ofList trimmed
    | name =>
      let candidate := '/' :: name
      if isKnown (String.ofList candidate) then
        String.ofList (Text.trimList (candidate ++ ' ' :: trimmed))
      else String.ofList trimmed

end SlashLine.Command
