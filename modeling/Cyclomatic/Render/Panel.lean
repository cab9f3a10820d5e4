import Cyclomatic.Render.Layout
import Cyclomatic.Render.Markup
import Cyclomatic.Render.Screen

/-!
# Panels in lines

A text in a frame with a title. The frame is as wide as its content needs, up to the width of the
screen.
-/

namespace Cyclomatic

/-- The width of the screen in cells. -/
def screenWidth : Nat := 100

namespace Panel

open Layout

/-- The title on one line, with a space on either side. -/
def titleText (panel : Panel) : List Char :=
  let oneLine := (Markup.plain panel.title).map fun c => if c = '\n' then ' ' else c
  [' '] ++ expandTabs [] 0 oneLine ++ [' ']

/-- The cells inside the frame. A space stands on either side of the body, and at least one piece
of the frame on either side of the title. -/
def innerWidth (panel : Panel) : Nat :=
  min (screenWidth - 2)
    (max (measure (Markup.plain panel.body) + 2) (Text.width panel.titleText + 2))

/-- The upper edge, with the title in its middle. A title that leaves no room around it loses
blanks at its end if it has more characters than cells. -/
def topLine (panel : Panel) : List Char :=
  let room := panel.innerWidth - 2
  let title := cut room panel.titleText
  let excess := room - Text.width title
  let left := excess / 2
  let middle := List.replicate left '─' ++ title ++ List.replicate (excess - left) '─'
  ['╭', '─'] ++ dropExcess room middle ++ ['─', '╮']

/-- The lines of the body inside the frame. -/
def bodyLines (panel : Panel) : List (List Char) :=
  let room := panel.innerWidth - 2
  (breakText room true (Markup.plain panel.body)).map fun line =>
    ['│', ' '] ++ fit room (cut room line) ++ [' ', '│']

/-- All lines of a panel. -/
def lines (panel : Panel) : List (List Char) :=
  [panel.topLine] ++ panel.bodyLines ++
    [['╰'] ++ List.replicate panel.innerWidth '─' ++ ['╯']]

end Panel

end Cyclomatic
