import Gatehouse.Route.Table

/-!
# The table in print

One line for each entry with its verb, its path and its policy in columns. The first
two columns are as wide as their widest cell.
-/

namespace Gatehouse.RouteTable

variable {κ : Type}

/-- The cells of an entry. -/
def row (e : RouteEntry κ) : String × String × String :=
  (Text.upper e.verb, e.path, e.policy.describe)

/-- The width of the widest text. -/
def width (texts : List String) : Nat := texts.foldl (fun w s => max w s.length) 0

/-- A text filled up with blanks. -/
def fill (w : Nat) (s : String) : String :=
  s ++ String.ofList (List.replicate (w - s.length) ' ')

def line (verbWidth pathWidth : Nat) (cells : String × String × String) : String :=
  "  " ++ fill verbWidth cells.1 ++ "  " ++ fill pathWidth cells.2.1 ++ "  " ++ cells.2.2

/-- The table as text. -/
def listing (t : RouteTable κ) : String :=
  let rows := t.map row
  if rows.isEmpty then "  (no routes)"
  else
    let verbWidth := width (rows.map (·.1))
    let pathWidth := width (rows.map (·.2.1))
    String.intercalate "\n" (rows.map (line verbWidth pathWidth))

end Gatehouse.RouteTable
