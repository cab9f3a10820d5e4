import Cyclomatic.Text.CaseTable

/-!
# Upper and lower case

The full case mappings: a character may become several, and a capital sigma at the end of a word
has a lower case form of its own.
-/

namespace Cyclomatic.Text

/-- The image of `c` under the first run that holds it. -/
def applyRuns (runs : List CaseRun) (c : Char) : Char :=
  match runs.findSome? (·.image? c.toNat) with
  | some n => Char.ofNat n
  | none => c

/-- The upper case form of a character. -/
def upperChar (c : Char) : List Char :=
  if c.toNat < 128 then [c.toUpper]
  else
    match upperExpansions.lookup c.toNat with
    | some codes => codes.map Char.ofNat
    | none => [applyRuns upperRuns c]

/-- The upper case form of a text. -/
def upper (cs : List Char) : List Char :=
  cs.flatMap upperChar

/-- Whether a sigma with these neighbours ends a word: going outwards over characters that do not
matter, the nearest one to the left has a case and the nearest one to the right has none. The
left context is given from the sigma outwards. -/
def endsWord (left right : List Char) : Bool :=
  ((left.dropWhile caseIgnorableTable.contains).head?.any casedTable.contains) &&
    !((right.dropWhile caseIgnorableTable.contains).head?.any casedTable.contains)

/-- The lower case form of a character other than a capital sigma. -/
def lowerChar (c : Char) : List Char :=
  if c.toNat < 128 then [c.toLower]
  else if c = 'İ' then ['i', '\u0307']
  else [applyRuns lowerRuns c]

/-- Lower case of a text whose part before, in reverse order, is `left`. `done` is the result so
far, also in reverse order. -/
def lowerOnto (done left : List Char) : List Char → List Char
  | [] => done.reverse
  | c :: rest =>
      if c = 'Σ' then
        lowerOnto ((if endsWord left rest then 'ς' else 'σ') :: done) (c :: left) rest
      else lowerOnto ((lowerChar c).reverse ++ done) (c :: left) rest

/-- The lower case form of a text. -/
def lower (cs : List Char) : List Char :=
  lowerOnto [] [] cs

end Cyclomatic.Text
