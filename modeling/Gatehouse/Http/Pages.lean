import Gatehouse.Http.Response

/-!
# The pages about the service itself

Every application has pages that describe its routes, at fixed paths in front of all of
its own. What they show is made by the framework and is taken as it comes; that they are
always answered with success is all that is known of them.
-/

namespace Gatehouse.Http

/-- What the pages are answered with. -/
structure Pages where
  answer : Request → Response
  status_eq : ∀ r, (answer r).status = 200

namespace Pages

def paths : List String := ["/openapi.json", "/docs", "/docs/oauth2-redirect", "/redoc"]

/-- Whether a path is one of a page. A line break at its very end is overlooked. -/
def knows (path : String) : Bool := paths.any fun page => path = page || path = page ++ "\n"

/-- Whether a page answers a method and a path. -/
def answers (method path : String) : Bool := ["GET", "HEAD"].contains method && knows path

/-- Pages with nothing on them. -/
def blank : Pages := ⟨fun _ => .plain 200 [] "", fun _ => rfl⟩

end Pages

end Gatehouse.Http
