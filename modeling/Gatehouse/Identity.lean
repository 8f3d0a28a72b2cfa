import Gatehouse.Json.Basic

/-!
# Who a request comes from, and how the service is

An identity is the subject and the role that a verifier vouches for; a verifier that
reads signed tokens vouches for texts only, another may say anything. A profile is what
a client is told about itself, and health is what the service says about itself.
-/

namespace Gatehouse

structure Identity where
  subject : Json
  role : Json
deriving Inhabited

structure Profile where
  subject : String
  role : String
deriving DecidableEq, Repr, Inhabited

structure Health where
  status : String
  service : String
  version : String
deriving DecidableEq, Repr, Inhabited

end Gatehouse
