import Gatehouse.Handler
import Gatehouse.Value.Basic

/-!
# The routes of a service without routes of its own

Everyone may ask how the service is, and whoever has a valid token may ask who it
stands for.
-/

namespace Gatehouse.Views

def health : Handler := ⟨"health", [.reportHealth]⟩

def me : Handler := ⟨"me", [.reportProfile]⟩

def node (members : List (String × Value Handler)) : Value Handler :=
  .dict (members.map fun (k, v) => (.str k, v))

/-- The declared routes. -/
def standard : Value Handler :=
  .list
    [ node [("url", .str "/health"), ("methods", node [("get", .callable health)]),
        ("access", .str "public")],
      node [("url", .str "/me"), ("methods", node [("get", .callable me)])] ]

end Gatehouse.Views
