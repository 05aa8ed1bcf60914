import SlashLine.Command.Parsed
import SlashLine.Fault.Log
import SlashLine.Value

/-!
# Results

What a handler answers: whether it succeeded, a message or an error, data, and whether a
conversation is to follow.

* `Result.wantsConversation`: a refusal wins over everything else.
-/

namespace SlashLine.Dispatch

open Command

/-- The data of a result. -/
inductive Data where
  | text (s : String)
  | echo (parsed : Parsed)
  | values (values : Slots String Scalar)
  | statistics (statistics : Statistics)

/-- What a handler answers. -/
structure Result where
  success : Bool
  message : String := ""
  data : Option Data := none
  error : Option String := none
  metadata : Slots String Value := Slots.empty
  /-- A conversation is described that may follow. -/
  hasConversation : Bool := false
  /-- A conversation is asked for, or refused. -/
  continues : Option Bool := none

namespace Result

instance : Inhabited Result := ⟨{ success := false }⟩

/-- A success. -/
def succeeded (message : String) (data : Option Data := none) : Result :=
  { success := true, message, data }

/-- A failure. -/
def failed (error : String) (data : Option Data := none) : Result :=
  { success := false, error := some error, data }

/-- The key that stands for the result itself, and for no metadata. -/
def ownKey : String := "self"

/-- The fault of metadata under the key of the result itself. -/
def ownKeyFault : Fault :=
  .other "TypeError"
    ("CommandResult.with_metadata() got multiple values for argument '" ++ ownKey ++ "'")

/-- The result with more metadata; a key that is there gets the new value. -/
def withMetadata (result : Result) (pairs : List (String × Value)) : Except Fault Result :=
  if pairs.any (·.1 == ownKey) then .error ownKeyFault
  else .ok { result with metadata := pairs.foldl (fun m p => m.set p.1 p.2) result.metadata }

/-- A conversation is to follow. -/
def wantsConversation (result : Result) : Bool :=
  match result.continues with
  | some false => false
  | some true => true
  | none => result.hasConversation

/-- The error, if there is one, else the message. -/
def summary (result : Result) : String :=
  match result.error with
  | some e => if e.isEmpty then result.message else e
  | none => result.message

end Result

end SlashLine.Dispatch
