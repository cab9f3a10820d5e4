import Cyclomatic.Text.Blank
import Cyclomatic.Text.Case

/-!
# Languages

The languages that can be analyzed, how they are named by a key and how they are told from a file
name.
-/

namespace Cyclomatic

/-- The languages. -/
inductive Language where
  | java
  | x86
  | mos6502
deriving DecidableEq, Repr

namespace Language

/-- All languages, in the order in which they are tried. -/
def all : List Language := [.java, .x86, .mos6502]

/-- The key that a user names a language by. -/
def key : Language → String
  | .java => "java"
  | .x86 => "asm"
  | .mos6502 => "6502"

/-- The name that a report shows. -/
def displayName : Language → String
  | .java => "Java"
  | .x86 => "Assembler"
  | .mos6502 => "6502 Assembler"

/-- The endings of file names of a language. -/
def extensions : Language → List String
  | .java => [".java"]
  | .x86 => [".asm", ".s"]
  | .mos6502 => [".a65", ".s65", ".asm65", ".a"]

/-- The keys of all languages. -/
def allKeys : List String := all.map key

/-- A key without blanks around it and in lower case. -/
def normalizeKey (given : String) : String :=
  String.ofList (Text.lower (Text.trim given.toList))

/-- The language that a key names, in any case and with blanks around it. -/
def ofKey? (given : String) : Option Language :=
  all.find? fun language => language.key == normalizeKey given

/-- Whether a path ends, in any case, like the files of a language. -/
def matchesPath (language : Language) (path : String) : Bool :=
  let lowered := Text.lower path.toList
  language.extensions.any fun extension => extension.toList.isSuffixOf lowered

/-- The first language whose files are named like the path. -/
def ofPath? (path : String) : Option Language :=
  all.find? (·.matchesPath path)

end Language

end Cyclomatic
