-- Why an input gave nothing: it could not be had at all, or its content is not
-- what it should be.
import MetricCheck.RuleText.Error
import MetricCheck.MetricText.Error
import MetricCheck.Json.Defect

namespace MetricCheck

/-- Why the text or the bytes of an input could not be had. -/
inductive InputError where
  | notFound
  /-- A file stands where the path needs a directory. -/
  | notDirectory
  | isDirectory
  | nameTooLong
  /-- The bytes are no UTF-8. -/
  | notText
  /-- Anything else, in the words of the system. -/
  | other (message : String)
deriving DecidableEq

def InputError.message : InputError → String
  | .notFound => "No such file or directory (os error 2)"
  | .notDirectory => "Not a directory (os error 20)"
  | .isDirectory => "Is a directory (os error 21)"
  | .nameTooLong => "File name too long (os error 36)"
  | .notText => "stream did not contain valid UTF-8"
  | .other message => message

inductive Failure where
  | rules (e : ParseError)
  | metrics (e : DecodeError)
  | graphs (document : List UInt8) (d : Json.Defect)
  /-- The bytes of graph definitions broke off with an error. -/
  | graphsUnread (e : InputError)
  | input (e : InputError)
deriving DecidableEq

/-- The message of a failure, with these words for defects of graph definitions. -/
def Failure.message (words : Json.Wording) : Failure → String
  | .rules e => e.message
  | .metrics e => e.message
  | .graphs document d => "invalid graph definitions: " ++ words document d
  | .graphsUnread e => "invalid graph definitions: " ++ e.message
  | .input e => "IO error: " ++ e.message

/-- The text of an input; all of it is looked at before any is read. -/
def textOf (bytes : ByteArray) : Except InputError String :=
  match String.fromUTF8? bytes with
  | some text => .ok text
  | none => .error .notText

theorem textOf_toUTF8 (text : String) : textOf text.toUTF8 = .ok text := by
  have hvalid : text.toUTF8.IsValidUTF8 := text.isValidUTF8
  unfold textOf String.fromUTF8?
  rw [dif_pos hvalid]
  rfl

end MetricCheck
