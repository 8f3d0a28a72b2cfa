/-!
# Settings

All that the operator of a service decides. Every setting but the secret has a
default that works.
-/

namespace Gatehouse

structure Settings where
  debug : Bool := false
  /-- Where the service runs; no mail leaves a test. -/
  environment : String := "development"
  secretKey : String := ""
  name : String := "routeforge"
  host : String := "127.0.0.1"
  port : Int := 8000
  /-- Seconds that an idle connection is kept. -/
  serverTimeout : Int := 5
  dbUri : String := "sqlite:///./routeforge.db"
  apiBase : String := "api"
  apiVersion : String := "v1"
  strictRoutes : Bool := false
  tokenExpireSeconds : Int := 3600
  secureCookies : Bool := false
  rateLimit : String := "120/minute"
  rateLimitEnabled : Bool := true
  corsOrigins : List String := ["http://localhost", "http://localhost:3000", "http://127.0.0.1"]
  sendgridApiKey : String := ""
  mailSender : String := "no-reply@routeforge.local"
deriving DecidableEq, Repr, Inhabited

end Gatehouse
