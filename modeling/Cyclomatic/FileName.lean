import Cyclomatic.Text.Quoted

/-!
# Names of files in reports

The name under which a source text is reported is a text. A caller that makes settings directly may
give bytes for it instead, which are shown in quotes.
-/

namespace Cyclomatic

/-- The name of a file in a report. -/
inductive FileName where
  | text (s : String)
  | bytes (content : List UInt8)
deriving DecidableEq, Repr

instance : Coe String FileName := ⟨.text⟩

/-- A name as it is shown. -/
def FileName.shown : FileName → String
  | .text s => s
  | .bytes content => Text.quotedBytes content

end Cyclomatic
