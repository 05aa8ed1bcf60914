import SlashLine.Fault
import SlashLine.Text.Path

/-!
# Sanitised texts

The text of a fault without what it says about the local file system: the home directory is
written `~`, the directories of absolute paths are left out, and long texts are cut.

* `sanitize_of_text`, `sanitize_of_trouble`: the text of a fault, if it has one.
* `sanitizeText_length`: a sanitised text has at most 203 characters.
-/

namespace SlashLine

/-! ## The home directory -/

/-- A text without the slashes at its end. -/
def dropEndSlashes (cs : List Char) : List Char := (cs.reverse.dropWhile (· == '/')).reverse

/-- The home directory that a setting stands for; none if it leads back to itself. -/
def resolveHome (setting : String) : Option String :=
  match dropEndSlashes setting.toList with
  | [] => some "/"
  | '~' :: _ => none
  | cs => some (String.ofList (Text.normalizePath cs))

/-! ## Directories -/

/-- The characters of plain paths. -/
def isPathChar (c : Char) : Bool := c.isAlphanum || c == '_' || c == '/' || c == '.' || c == '-'

/-- How many characters there are up to the last slash, that slash included; none if there is no
slash. -/
def throughLastSlash : List Char → Nat
  | [] => 0
  | c :: cs =>
    match throughLastSlash cs with
    | 0 => if c == '/' then 1 else 0
    | n => n + 1

/-- Passes over `skip` characters, then leaves out every stretch from a slash through the last one
that path characters lead to. -/
def dropDirectoriesFrom : Nat → List Char → List Char
  | _, [] => []
  | skip + 1, _ :: cs => dropDirectoriesFrom skip cs
  | 0, c :: cs =>
    if c == '/' then
      match throughLastSlash (cs.takeWhile isPathChar) with
      | 0 => c :: dropDirectoriesFrom 0 cs
      | n => dropDirectoriesFrom n cs
    else c :: dropDirectoriesFrom 0 cs

/-- A text without the directories of the paths in it. -/
def dropDirectories (cs : List Char) : List Char := dropDirectoriesFrom 0 cs

/-! ## The whole -/

/-- The most characters that are shown of a text. -/
def longestText : Nat := 200

/-- A text, cut if it is long. -/
def cutText (cs : List Char) : List Char :=
  if longestText < cs.length then cs.take longestText ++ "...".toList else cs

/-- A text without local directories. -/
def sanitizeText (home cs : List Char) : List Char :=
  cutText (dropDirectories (Text.replaceAll home ['~'] cs))

/-- What is said about a fault that has no text, or where the home directory is not known. -/
def unknownText : String := "Internal error occurred"

/-- The text of a fault for a reader who need not know the local directories. -/
def sanitize (home : Option String) (fault : Fault) : String :=
  match fault.text with
  | .error _ => unknownText
  | .ok text =>
    match home with
    | none => unknownText
    | some home => String.ofList (sanitizeText home.toList text.toList)

variable {fault trouble : Fault} {text : String}

theorem sanitize_of_text (h : fault.text = .ok text) (home : String) :
    sanitize (some home) fault = String.ofList (sanitizeText home.toList text.toList) := by
  rw [sanitize, h]

/-- About a fault that has no text nothing is said. -/
theorem sanitize_of_trouble (h : fault.message = .error trouble) (home : Option String) :
    sanitize home fault = unknownText := by
  rw [sanitize, Fault.text_eq_error_iff.mpr h]

theorem cutText_length (cs : List Char) : (cutText cs).length ≤ 203 := by
  unfold cutText longestText
  split
  · have hdots : "...".toList.length = 3 := rfl
    rw [List.length_append, List.length_take, hdots]
    omega
  · omega

theorem sanitizeText_length (home cs : List Char) : (sanitizeText home cs).length ≤ 203 :=
  cutText_length _

end SlashLine
