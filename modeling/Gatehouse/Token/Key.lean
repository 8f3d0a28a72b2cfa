import Gatehouse.Encoding.Base64
import Gatehouse.Failure.Basic
import Gatehouse.Json.Bytes
import Gatehouse.Text.Search
import Gatehouse.Token.Basic
import Gatehouse.Value.Interchange

/-!
# From a secret to signing keys

Signing takes the secret as it is. Checking first asks whether the secret is JSON:
a list stands for several keys, an object for a set of keys, for one key or for keys
under names, a quoted text for its content. Numbers stay the text they are.

A key is text or bytes, or an object that holds its bytes in base 64. The text of a
public key or a certificate is refused, because everyone may know it. Keys for other
schemes than keyed digests are looked at too, but nothing comes of them.
-/

namespace Gatehouse.Token

/-- Why something cannot be used as a key. -/
inductive KeyFault where
  | notText
  | asymmetric
  | notOctets (found : Datum)
  | noOctets (typeName : String)
  | loneCharacter (count : Nat)
  | missingPadding
  | notIterable (typeName : String)
  | noAlgorithm
  /-- The sort of a key was to be shown and is a tuple of no or of several parts. -/
  | tupleSort (count : Nat)
  /-- The text of a key holds halves of surrogate pairs without a partner. -/
  | notCharacters (points : List Nat)
  /-- A cipher needs a key of so many bits. -/
  | wrongSize (bits : Nat) (algorithm : String)
  | noLength (typeName : String)
  | notBinary (typeName : String)
  | notPair (kind : PairKind) (found : Datum)
  | pairOfOtherSort (kind : PairKind) (found : Datum)
  /-- A text is no file of a pair of keys. -/
  | noKeyFile

namespace KeyFault

/-- The sort of key that a pair goes by, and what its reader is called. -/
def pairNames : PairKind → String × String
  | .rsa => ("RSA", "an RSA_JWK")
  | .ellipticCurve => ("EC", "an ECKey")

def isHalf (n : Nat) : Bool := !decide n.isValidChar

/-- The first run of halves without a partner: where it begins and how long it is. -/
def firstHalves (points : List Nat) : Nat × List Nat :=
  ((points.takeWhile fun n => !isHalf n).length,
    (points.dropWhile fun n => !isHalf n).takeWhile isHalf)

/-- Where a text cannot be written as characters. -/
def notCharactersMessage (points : List Nat) : String :=
  let place :=
    match firstHalves points with
    | (start, [n]) =>
      "character '\\u" ++ String.ofList (Text.Hex.padded 4 n) ++ "' in position " ++ toString start
    | (start, run) =>
      "characters in position " ++ toString start ++ "-" ++ toString (start + run.length - 1)
  "'utf-8' codec can't encode " ++ place ++ ": surrogates not allowed"

def message : KeyFault → String
  | .notText => "Expecting a string- or bytes-formatted key."
  | .asymmetric => "The specified key is an asymmetric key or x509 certificate and should " ++
      "not be used as an HMAC secret."
  | .notOctets found => "Incorrect key type. Expected: 'oct', Received: " ++ found.text
  | .noOctets typeName => "'" ++ typeName ++ "' object has no attribute 'encode'"
  | .loneCharacter count => "Invalid base64-encoded string: number of data characters (" ++
      toString count ++ ") cannot be 1 more than a multiple of 4"
  | .missingPadding => "Incorrect padding"
  | .notIterable typeName => "'" ++ typeName ++ "' object is not iterable"
  | .noAlgorithm => "Unable to find an algorithm for key"
  | .tupleSort 0 => "not enough arguments for format string"
  | .tupleSort _ => "not all arguments converted during string formatting"
  | .notCharacters points => notCharactersMessage points
  | .wrongSize bits algorithm => "Key must be " ++ toString bits ++ " bit for alg " ++ algorithm
  | .noLength typeName => "object of type '" ++ typeName ++ "' has no len()"
  | .notBinary typeName => "not expecting type '<class '" ++ typeName ++ "'>'"
  | .notPair kind found =>
    "Unable to parse " ++ (pairNames kind).2 ++ " from key: " ++ found.text
  | .pairOfOtherSort kind found =>
    "Incorrect key type. Expected: '" ++ (pairNames kind).1 ++ "', Received: " ++ found.text
  | .noKeyFile => "Valid PEM but no BEGIN/END delimiters for a private key found. " ++
      "Are you sure this is a private key?"

def family : KeyFault → FaultClass
  | .noOctets _ => .attributeError
  | .loneCharacter _ | .missingPadding => .encodingError
  | .notIterable _ | .tupleSort _ | .noLength _ | .notBinary _ => .typeError
  | .notCharacters _ => .unicodeEncodeError
  | _ => .keyFormatError

def fault (f : KeyFault) : Fault := ⟨f.family, [.str f.message]⟩

end KeyFault

/-- What can stand behind BEGIN in the first line of a key file. -/
def keyFileLabels : List String :=
  ["CERTIFICATE", "TRUSTED CERTIFICATE", "PRIVATE KEY", "PUBLIC KEY", "ENCRYPTED PRIVATE KEY",
    "OPENSSH PRIVATE KEY", "DSA PRIVATE KEY", "RSA PRIVATE KEY", "RSA PUBLIC KEY",
    "EC PRIVATE KEY", "DH PARAMETERS", "NEW CERTIFICATE REQUEST", "CERTIFICATE REQUEST",
    "SSH2 PUBLIC KEY", "SSH2 ENCRYPTED PRIVATE KEY", "X509 CRL"]

/-- The first lines of key files, the fifth dash on either side being one or a blank. -/
def keyFileMarks : List (List Char) :=
  keyFileLabels.flatMap fun label => ['-', ' '].flatMap fun left => ['-', ' '].map fun right =>
    ['-', '-', '-', '-', left] ++ ("BEGIN " ++ label).toList ++ [right, '-', '-', '-', '-']

/-- The names of kinds of shell keys. -/
def shellKeyMarks : List (List Char) :=
  ["ssh-ed25519", "ssh-rsa", "ssh-dss", "ecdsa-sha2-nistp256", "ecdsa-sha2-nistp384",
    "ecdsa-sha2-nistp521"].map (·.toList)

def isByteSpace (c : Char) : Bool := c = ' ' || (9 ≤ c.toNat && c.toNat ≤ 13)

/-- Whether a text starts with the kind of a shell certificate and a key behind it. -/
def isShellCertificate (cs : List Char) : Bool :=
  let kind := cs.takeWhile fun c => !isByteSpace c
  let behind := cs.dropWhile fun c => !isByteSpace c
  let gap := behind.takeWhile fun c => c = ' ' || c = '\t'
  let key := (behind.dropWhile fun c => c = ' ' || c = '\t').takeWhile fun c => !isByteSpace c
  !gap.isEmpty && !key.isEmpty && "-cert-v01@openssh.com".toList.isSuffixOf kind

/-- Whether some bytes are the text of a public key or a certificate. -/
def isAsymmetric (bytes : List UInt8) : Bool :=
  let cs := bytes.map fun b => Char.ofNat b.toNat
  (keyFileMarks ++ shellKeyMarks).any (Text.occursIn · cs) || isShellCertificate cs

/-- The bytes of a key that is text. -/
def plainKey (bytes : List UInt8) : Except KeyFault (List UInt8) :=
  if isAsymmetric bytes then .error .asymmetric else .ok bytes

/-- A sort of key as it is put into a message, where a tuple stands for its parts. -/
def shownSort (fault : Datum → KeyFault) : Datum → KeyFault
  | .tuple [part] => fault part
  | .tuple parts => .tupleSort parts.length
  | sort => fault sort

/-- The bytes that an object holds as a key. -/
def octetKey (entries : List (Datum × Datum)) : Except KeyFault (List UInt8) :=
  let field (name : String) := (Value.entry? (.str name) entries).getD .none
  match field "kty", field "k" with
  | .str "oct", .str k =>
    let text := Text.Utf8.bytes k
    match Base64.decodeBytes? text with
    | some bytes => .ok bytes
    | none =>
      let count := (text.filter fun b => (Base64.valueOf? .either (Char.ofNat b.toNat)).isSome).length
      .error (if count % 4 = 1 then .loneCharacter count else .missingPadding)
  | .str "oct", .unpaired points => .error (.notCharacters points)
  | .str "oct", k => .error (.noOctets k.typeName)
  | found, _ => .error (shownSort .notOctets found)

/-- The bytes that something stands for as the key of a digest. -/
def keyBytes : Datum → Except KeyFault (List UInt8)
  | .str s => plainKey (Text.Utf8.bytes s)
  | .unpaired points => .error (.notCharacters points)
  | .bytes bs => plainKey bs
  | .dict entries => octetKey entries
  | _ => .error .notText

/-- How long something is, if it has a length. -/
def length? : Datum → Option Nat
  | .str s => some s.length
  | .unpaired points => some points.length
  | .bytes bs => some bs.length
  | .list items | .tuple items | .set items | .frozenset items => some items.length
  | .dict entries => some entries.length
  | _ => none

/-- Looks at the key of a cipher: only its length counts. -/
def checkCipherKey (bits : Nat) (algorithm : String) (key : Datum) : Except KeyFault Unit :=
  match length? key with
  | none => .error (.noLength key.typeName)
  | some n => if n * 8 = bits then .ok () else .error (.wrongSize bits algorithm)

/-- Looks at a key that is used as it is. -/
def checkDirectKey : Datum → Except KeyFault Unit
  | .str _ | .bytes _ => .ok ()
  | .unpaired points => .error (.notCharacters points)
  | key => .error (.notBinary key.typeName)

/-- Looks at one of a pair of keys. -/
def checkPairKey (kind : PairKind) : Datum → KeyFault
  | .str _ | .bytes _ => .noKeyFile
  | .unpaired points => .notCharacters points
  | .dict entries =>
    shownSort (.pairOfOtherSort kind) ((Value.entry? (.str "kty") entries).getD .none)
  | key => shownSort (.notPair kind) key

/-- A key that can sign: a keyed digest and the bytes of its key. -/
abbrev SigningKey := Algorithm × List UInt8

/-- The key for the algorithm of a name; there may be nothing it can sign with. -/
def makeKey (algorithm : String) (key : Datum) : Except KeyFault (Option SigningKey) :=
  match Scheme.ofName? algorithm with
  | none => .error .noAlgorithm
  | some (.keyed a) => (keyBytes key).map fun bytes => some (a, bytes)
  | some .direct => (checkDirectKey key).map fun _ => none
  | some (.cipher bits) => (checkCipherKey bits algorithm key).map fun _ => none
  | some (.keyPair kind) => .error (checkPairKey kind key)

/-- The JSON that a secret is written in, if it is JSON with at most `depth` lists and
objects inside its outermost one. -/
def secretJson? (depth : Nat) : Datum → Option Json
  | .str s => (Json.read .asText (depth + 1) s.toList).toOption
  | .bytes bs => (Json.readBytes .asText depth bs).toOption
  | _ => none

/-- The candidates for keys that a secret stands for when a signature is checked. -/
def candidates (depth : Nat) (secret : Datum) : Except KeyFault (List Datum) :=
  match ((secretJson? depth secret).map Value.ofJson).getD secret with
  | .dict entries =>
    match Value.entry? (.str "keys") entries with
    | some keys =>
      match keys.items? with
      | some items => .ok items
      | none => .error (.notIterable keys.typeName)
    | none =>
      if (Value.entry? (.str "kty") entries).isSome || entries.isEmpty then
        .ok [.dict entries]
      else .ok (entries.map (·.2))
  | .list items | .tuple items | .set items | .frozenset items => .ok items
  | key => .ok [key]

end Gatehouse.Token
