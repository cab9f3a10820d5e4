import Cyclomatic.Error
import Cyclomatic.Language
import Cyclomatic.Path

/-!
# The registry of calculators

Calculators are made when they are first asked for and then reused. The registry also decides
which language a source text is in.
-/

namespace Cyclomatic

/-- A calculator for a language. Two calculators are the same if they have the same number. -/
structure Calculator where
  language : Language
  serial : Nat
deriving DecidableEq, Repr

/-- The calculators made so far. -/
structure Registry where
  /-- The calculators that are reused, in the order in which they were made. -/
  cached : List Calculator
  /-- How many calculators have been made. -/
  made : Nat
deriving DecidableEq, Repr

/-- What a calculator is asked for: a language, or the text of something that is none. -/
inductive Wanted where
  | language (language : Language)
  | other (shown : String)
deriving DecidableEq, Repr

namespace Registry

/-- The registry before any calculator is made. -/
def empty : Registry := ⟨[], 0⟩

/-- Makes a calculator that is not reused. -/
def create (registry : Registry) (language : Language) : Calculator × Registry :=
  (⟨language, registry.made⟩, { registry with made := registry.made + 1 })

/-- The cached calculator of a language. -/
def cached? (registry : Registry) (language : Language) : Option Calculator :=
  registry.cached.find? (·.language == language)

/-- The calculator of a language, which is made if there is none yet. -/
def get (registry : Registry) (language : Language) : Calculator × Registry :=
  match registry.cached? language with
  | some calculator => (calculator, registry)
  | none =>
      let (calculator, next) := registry.create language
      (calculator, { next with cached := next.cached ++ [calculator] })

/-- The languages of the cached calculators, in the order in which they were made. -/
def languages (registry : Registry) : List Language :=
  registry.cached.map (·.language)

/-- The error that a language is not known. -/
def unsupported (language : String) : Error :=
  .unsupportedLanguage language Language.allKeys

/-- Takes a calculator for what is asked for. Only for a language there is one. -/
def takeFor (registry : Registry) (take : Language → Calculator × Registry) :
    Wanted → Except Error Calculator × Registry
  | .language language => (.ok (take language).1, (take language).2)
  | .other shown => (.error (unsupported shown), registry)

/-- The language that a path is named for. -/
def resolvePath (path : Option String) : Except Error Language :=
  match path with
  | some path =>
      if path == "" then .error (unsupported "<none>")
      else
        match Language.ofPath? path with
        | some language => .ok language
        | none =>
            let suffix := (Path.ofString path).suffix
            let shown := if suffix == "" then "<no extension>" else suffix
            .error (unsupported s!"file with extension '{shown}'")
  | none => .error (unsupported "<none>")

/-- The language of a source text: the one that the key names if it is not blank, else the one
that the path is named for. -/
def resolve (key path : Option String) : Except Error Language :=
  match key with
  | some key =>
      if Text.allBlank key.toList then resolvePath path
      else
        match Language.ofKey? key with
        | some language => .ok language
        | none => .error (unsupported (Language.normalizeKey key))
  | none => resolvePath path

end Registry

end Cyclomatic
