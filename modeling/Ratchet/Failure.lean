import Ratchet.Glob.Pattern
import Ratchet.Graph.Layers
import Ratchet.Shell.Words
import Ratchet.Text.Utf8

/-!
# Failures

`Failure` lists the causes that end an operation, and `Failure.message` is
the text of those that are reported in words.
-/

namespace Ratchet

/-- Why the file system refuses an operation. -/
inductive FileFault where
  /-- There is nothing at the path. -/
  | missing
  /-- The path leads through a file. -/
  | notDirectory
  /-- A directory stands where a file is wanted. -/
  | isDirectory
  /-- A file stands where a directory is wanted. -/
  | occupied
  /-- A part of the path is too long. -/
  | nameTooLong
  /-- The file may not be used this way. -/
  | denied
  /-- The file is to be run, and is no program. -/
  | noProgram
  deriving Repr, DecidableEq

/-- What a document holds in place of what it should. -/
inductive ShapeFault where
  /-- Something that is no list. -/
  | notList
  /-- A pattern that is no text. -/
  | patternNotText
  /-- A file that is no text. -/
  | entryNotText
  /-- A value with parts among those to be told apart. -/
  | unhashable
  /-- Values of different kinds to be put in order. -/
  | unordered
  deriving Repr, DecidableEq

/-- What ends an operation. -/
inductive Failure where
  /-- The file system refused. -/
  | file (fault : FileFault)
  /-- A path holds a null character. -/
  | nullCharacter
  /-- A path without a name is to be given another name. -/
  | emptyName (path : String)
  /-- A source text holds a null character. -/
  | nullInSource
  /-- A text file does not hold text. -/
  | undecodable (fault : Text.Utf8.Fault)
  /-- A number has so many digits, which are too many to read it. -/
  | tooManyDigits (count : Nat)
  /-- A name cannot be written in bytes. -/
  | unencodable
  /-- A text is no pattern. -/
  | pattern (fault : GlobFault)
  /-- An allow-list cannot be read. -/
  | allowList (path reason : String)
  /-- An allow-list holds something else than it should. -/
  | shape (fault : ShapeFault)
  /-- The quotes of a command do not match. -/
  | quoting (fault : Shell.QuotingFault)
  /-- The components cannot be layered. -/
  | layers (fault : Graph.LayerFault)
  /-- The checker itself failed, as opposed to finding errors. -/
  | checker (text : String)
  /-- Something else broke while a file was checked. -/
  | crash (text : String)
  deriving Repr

namespace Failure

/-- The text of a failure; empty for the causes that are only named. -/
def message : Failure → String
  | .layers fault => fault.message
  | .checker text => text
  | .crash text => text
  | .file _ => ""
  | .nullCharacter => "embedded null byte"
  | .emptyName path => s!"PosixPath('{path}') has an empty name"
  | .nullInSource => "source code string cannot contain null bytes"
  | .tooManyDigits count =>
    s!"Exceeds the limit (4300 digits) for integer string conversion: value has {count} " ++
      "digits; use sys.set_int_max_str_digits() to increase the limit"
  | .unencodable => "'utf-8' codec can't encode character: surrogates not allowed"
  | .pattern fault => fault.message
  | .allowList path reason => s!"Invalid allow-list {path}: {reason}"
  | .shape _ => ""
  | .quoting fault => fault.message
  | .undecodable fault => fault.message

/-- Whether a failure is a fault of what a command was given, so that its text
says all there is to say. -/
def isInvalidInput : Failure → Bool
  | .nullCharacter | .emptyName _ | .nullInSource | .undecodable _ | .tooManyDigits _
  | .unencodable | .allowList .. | .pattern .doubleStar | .quoting _ => true
  | _ => false

/-- Whether a failure is one of the components or of the checker. -/
def isReported : Failure → Bool
  | .layers .noSuchComponent => false
  | .layers _ | .checker _ => true
  | _ => false

end Failure

end Ratchet
