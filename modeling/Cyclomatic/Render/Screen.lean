/-!
# Screens

Panels, tables and lines of markup are shown by a component of their own, and so are texts. What it
makes of them is up to it: how wide its screen is, whether it has colours, and what a control
character does there.
-/

namespace Cyclomatic

/-- A text in a style, as markup. -/
def Markup.styled (style content : String) : String :=
  s!"[{style}]{content}[/{style}]"

/-- A framed text. Title and body are markup. -/
structure Panel where
  title : String
  body : String
deriving DecidableEq, Repr

/-- The side that a column's text stands on. -/
inductive Side where
  | left
  | right
deriving DecidableEq, Repr

/-- A column of a table. -/
structure Column where
  head : String
  side : Side := .left
deriving DecidableEq, Repr

/-- A table. Heads and cells are markup. -/
structure Table where
  columns : List Column
  rows : List (List String)
deriving DecidableEq, Repr

/-- What shows texts, and how each of them comes out. -/
structure Screen where
  /-- A text as markup that stands for the text itself. -/
  escape : String → String
  /-- A line of markup. -/
  line : String → String
  panel : Panel → String
  table : Table → String
  /-- A text as it is, on lines of its own. -/
  echo : String → String

end Cyclomatic
