import Cyclomatic.FileTree
import Cyclomatic.Settings.Value
import Cyclomatic.Text.Blank
import Cyclomatic.Text.CodePoint
import Cyclomatic.Text.Lines

/-!
# Validation of input

Paths and source texts are checked before they are analyzed, and files are read as text.
-/

namespace Cyclomatic

/-- The greatest size of a file in bytes, unless another is given. -/
def defaultMaxFileSize : Int := 10 * 1024 * 1024

/-- The greatest length of a source text, unless another is given. -/
def defaultMaxSourceLength : Int := 1024 * 1024

/-! ## Paths -/

/-- How a path that a caller gave is shown: a text as it was given. -/
def shownPath : Value → String
  | .text s => s
  | .path path => path.text
  | value => value.typeName

/-- The path that a caller gave. -/
def pathOf : Value → Except Fault Path
  | .text s => .ok (Path.ofString s)
  | .path path => .ok path
  | .bytes _ =>
      .error ⟨.typeMismatch, "argument should be a str object or an os.PathLike object " ++
        "returning str, not <class 'bytes'>"⟩
  | value =>
      .error ⟨.typeMismatch,
        s!"expected str, bytes or os.PathLike object, not {value.typeName}"⟩

/-- Whether no path is given, or a blank one. -/
def isBlankPath : Value → Bool
  | .null => true
  | .text s => Text.allBlank s.toList
  | .path path => Text.allBlank path.text.toList
  | _ => false

/-- Refuses an input. -/
def refuse (field reason : String) : Failure :=
  .ofError (.validation field reason)

/-- Checks that what a path leads to is a file, that it is not empty and not too large. -/
def checkFile (field shown : String) (maxSize : Number) (entry : Entry) : Except Failure Unit :=
  match entry.size? with
  | some size =>
      if maxSize.below size then
        .error (refuse field (s!"file size ({size} bytes) exceeds maximum allowed size " ++
          s!"({maxSize.text} bytes)"))
      else if size == 0 then .error (refuse field s!"file is empty: {shown}")
      else .ok ()
  | none => .error (refuse field s!"path is not a regular file: {shown}")

/-- The path that a caller gave, if it leads to a file that may be analyzed. -/
def validatePath (files : FileTree) (given : Value) (maxSize : Number) (field : String) :
    Except Failure Path :=
  if isBlankPath given then .error (refuse field "file path cannot be empty")
  else
    match pathOf given with
    | .error fault => .error (.fault fault)
    | .ok path =>
        match files.pathExists path, files.lookup path with
        | .error fault, _ => .error (.fault fault)
        | .ok true, .ok entry =>
            (checkFile field (shownPath given) maxSize entry).map fun _ => path
        | _, _ => .error (refuse field s!"file does not exist: {shownPath given}")

/-! ## Source texts -/

/-- What a caller may give as a source text. -/
inductive Source where
  | text (points : List CodePoint)
  | missing
  /-- Something of another type. -/
  | other (typeName : String)

/-- A source text of characters. -/
def Source.ofString (s : String) : Source :=
  .text (CodePoint.ofChars s.toList)

/-- The source text that a caller gave, if it may be analyzed. -/
def validateSource (given : Source) (maxLength : Number) (field : String) :
    Except Failure (List CodePoint) :=
  match given with
  | .missing => .error (refuse field "source code cannot be None")
  | .text source =>
      if CodePoint.allBlank source then .error (refuse field "source code cannot be empty")
      else if maxLength.below source.length then
        .error (refuse field
          (s!"source code length ({source.length} characters) exceeds maximum allowed " ++
            s!"({maxLength.text} characters)"))
      else .ok source
  | .other typeName => .error (refuse field s!"expected text, got {typeName}")

/-- The text of a file's bytes: bytes that are no text are replaced, and every line ends with a
line feed. -/
def sourceOfBytes (content : ByteArray) : List Char :=
  Text.normalizeNewlines (Text.decode content.toList)

/-- The fault that stands behind an error, if it is one of reading or writing files. -/
def Fault.isIo (fault : Fault) : Bool :=
  match fault.kind.base with
  | .io _ => true
  | _ => false

/-- Reads a file as text. -/
def readSource (files : FileTree) (path : Path) : Except Failure (List Char) :=
  match files.read path with
  | .ok content => .ok (sourceOfBytes content)
  | .error fault =>
      if fault.isIo then
        .error (.error (.calculation path.text s!"cannot read file: {fault.message}")
          (some fault.kind))
      else .error (.fault fault)

end Cyclomatic
