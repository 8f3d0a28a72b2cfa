import Gatehouse.Digest.Sha2
import Gatehouse.Identity

/-!
# Tokens and what they say

A token is a header, a payload and a signature, each written in base 64 and joined
by dots. The signature is a keyed digest of the first two parts. Whoever looks at a
token learns who it stands for, or that it has expired, or that it is worth nothing.
-/

namespace Gatehouse

/-- What is known about a token. -/
inductive Verdict where
  | accepted (i : Identity)
  | expired
  | invalid
deriving Inhabited

namespace Token

/-- The ways of signing. -/
inductive Algorithm where
  | hs256
  | hs384
  | hs512
deriving DecidableEq, Repr

namespace Algorithm

def name : Algorithm → String
  | .hs256 => "HS256"
  | .hs384 => "HS384"
  | .hs512 => "HS512"

def ofName? (name : String) : Option Algorithm :=
  [hs256, hs384, hs512].find? (·.name = name)

def digest : Algorithm → Digest
  | .hs256 => Digest.sha256
  | .hs384 => Digest.sha384
  | .hs512 => Digest.sha512

end Algorithm

/-- The kinds of pairs of keys. -/
inductive PairKind where
  | rsa
  | ellipticCurve
deriving DecidableEq, Repr

/-- What the name of an algorithm stands for: a keyed digest, or something else that
keys are made for but no token is ever signed with. -/
inductive Scheme where
  | keyed (a : Algorithm)
  /-- The key is used as it is. -/
  | direct
  /-- A cipher with a key of so many bits. -/
  | cipher (bits : Nat)
  | keyPair (kind : PairKind)
deriving DecidableEq, Repr

namespace Scheme

/-- The schemes that a token may be asked to be signed with. -/
def offered : List (String × Scheme) :=
  [("HS256", .keyed .hs256), ("HS384", .keyed .hs384), ("HS512", .keyed .hs512),
    ("dir", .direct),
    ("A128CBC-HS256", .cipher 256), ("A192CBC-HS384", .cipher 384),
    ("A256CBC-HS512", .cipher 512), ("A128GCM", .cipher 128), ("A192GCM", .cipher 192),
    ("A256GCM", .cipher 256), ("A128KW", .cipher 128), ("A192KW", .cipher 192),
    ("A256KW", .cipher 256),
    ("RS256", .keyPair .rsa), ("RS384", .keyPair .rsa), ("RS512", .keyPair .rsa),
    ("RSA1_5", .keyPair .rsa), ("RSA-OAEP", .keyPair .rsa), ("RSA-OAEP-256", .keyPair .rsa),
    ("ES256", .keyPair .ellipticCurve), ("ES384", .keyPair .ellipticCurve),
    ("ES512", .keyPair .ellipticCurve)]

/-- Schemes that keys can be made for, although signing with them is never offered. -/
def knownOnly : List (String × Scheme) :=
  [("A128CBC", .cipher 128), ("A192CBC", .cipher 192), ("A256CBC", .cipher 256),
    ("ECDH-ES", .keyPair .ellipticCurve), ("ECDH-ES+A128KW", .keyPair .ellipticCurve),
    ("ECDH-ES+A192KW", .keyPair .ellipticCurve), ("ECDH-ES+A256KW", .keyPair .ellipticCurve)]

/-- The scheme of a name. -/
def ofName? (name : String) : Option Scheme := (offered ++ knownOnly).lookup name

/-- Whether signing with the scheme of a name is offered. -/
def isOffered (name : String) : Bool := (offered.lookup name).isSome

end Scheme

end Token

end Gatehouse
