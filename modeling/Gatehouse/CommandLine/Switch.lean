import Gatehouse.Number.IntegerText
import Gatehouse.Text.Quoted
import Gatehouse.Text.Search

/-!
# Switches among the words of a command line

A word that starts with a dash may name a switch. A long name may be cut short as long
as it is clear which one is meant, and a value may be joined to it by an equals sign;
short names may be joined to what follows. Negative numbers, words with blanks in them
and a dash alone are ordinary words, and so is everything behind two dashes.
-/

namespace Gatehouse.CommandLine

/-- What a switch asks for. -/
inductive SwitchKind where
  | help
  | text
  | whole
deriving DecidableEq, Repr

structure Switch where
  names : List String
  kind : SwitchKind
deriving DecidableEq, Repr

/-- A switch in messages. -/
def Switch.title (s : Switch) : String := String.intercalate "/" s.names

/-- What a word is; something may be joined to the name of a switch. -/
inductive Meaning where
  | plain
  | twoDashes
  | switch (s : Switch) (name : String) (joined : Option (List Char))
  | unknown
deriving DecidableEq, Repr

/-- A word that could name several switches. -/
structure Ambiguity where
  word : String
  names : List String
deriving DecidableEq, Repr

def Ambiguity.message (a : Ambiguity) : String :=
  "ambiguous option: " ++ a.word ++ " could match " ++ String.intercalate ", " a.names

/-- All names of switches in order, with the switches. -/
def switchNames (switches : List Switch) : List (String × Switch) :=
  switches.flatMap fun s => s.names.map fun name => (name, s)

/-- What stands before and behind the first equals sign. -/
def splitEquals (cs : List Char) : List Char × Option (List Char) :=
  match cs.dropWhile (· != '=') with
  | [] => (cs, none)
  | _ :: value => (cs.takeWhile (· != '='), some value)

/-- The switches that a word may name if no name is the word itself. -/
def readings (switches : List Switch) (word : List Char) :
    List (String × Switch × Option (List Char)) :=
  let (front, value) := splitEquals word
  match word with
  | '-' :: '-' :: _ =>
    ((switchNames switches).filter fun p => front.isPrefixOf p.1.toList).map fun p =>
      (p.1, p.2, value)
  | a :: b :: rest =>
    (switchNames switches).filterMap fun p =>
      if p.1.toList = [a, b] then some (p.1, p.2, some rest)
      else if word.isPrefixOf p.1.toList then some (p.1, p.2, none)
      else none
  | _ => []

def isDigit (c : Char) : Bool := (Text.digitValue? c).isSome

/-- A word without a line break at its end. -/
def dropLineBreak (cs : List Char) : List Char :=
  match cs.reverse with
  | '\n' :: front => front.reverse
  | _ => cs

/-- Whether a word is a negative number, with a point or without. A line break at its
end is overlooked. -/
def isNegativeNumber (cs : List Char) : Bool :=
  match dropLineBreak cs with
  | '-' :: rest =>
    let fraction := rest.dropWhile isDigit
    match fraction with
    | [] => !rest.isEmpty
    | '.' :: more => !more.isEmpty && more.all isDigit
    | _ => false
  | _ => false

/-- The meaning of a word that starts with a dash and has more behind it. -/
def dashMeaning (switches : List Switch) (word : String) : Except Ambiguity Meaning :=
  let cs := word.toList
  match (switchNames switches).lookup word with
  | some s => .ok (.switch s word none)
  | none =>
    let (front, value) := splitEquals cs
    let name := String.ofList front
    match value, (switchNames switches).lookup name with
    | some v, some s => .ok (.switch s name (some v))
    | _, _ =>
      match readings switches cs with
      | [(name, s, joined)] => .ok (.switch s name joined)
      | [] =>
        if isNegativeNumber cs || cs.contains ' ' then .ok .plain else .ok .unknown
      | several => .error ⟨word, several.map (·.1)⟩

/-- The meaning of a word that no two dashes precede. -/
def meaning (switches : List Switch) (word : String) : Except Ambiguity Meaning :=
  if word = "--" then .ok .twoDashes
  else if Text.startsWith "-" word && word != "-" then dashMeaning switches word
  else .ok .plain

/-- Words with their meanings; behind two dashes every word is an ordinary one. -/
def meanings (switches : List Switch) : List String → Except Ambiguity (List (String × Meaning))
  | [] => .ok []
  | word :: rest => do
    match ← meaning switches word with
    | .twoDashes => pure ((word, .twoDashes) :: rest.map fun w => (w, .plain))
    | m =>
      let ms ← meanings switches rest
      pure ((word, m) :: ms)

/-- Why a switch cannot be used as it was. -/
inductive SwitchError where
  /-- Something is joined to a switch that takes nothing. -/
  | unwanted (s : Switch) (value : List Char)
  | missing (s : Switch)
  | notWhole (s : Switch) (value : String)
deriving DecidableEq, Repr

def SwitchError.message (e : SwitchError) : String :=
  let about (s : Switch) (text : String) := "argument " ++ s.title ++ ": " ++ text
  match e with
  | .unwanted s value =>
    about s ("ignored explicit argument " ++ Text.Quoted.text (String.ofList value))
  | .missing s => about s "expected one argument"
  | .notWhole s value => about s ("invalid int value: " ++ Text.Quoted.text value)

/-- What is wrong with what is joined to a short switch for help, if anything: it must be
the letters of further such switches. -/
def shortHelpError? (s : Switch) : List Char → Option SwitchError
  | [] => none
  | c :: rest =>
    if s.names.contains (String.ofList ['-', c]) then shortHelpError? s rest
    else some (.unwanted s (c :: rest))

/-- What is wrong with what is joined to a switch for help, if anything. -/
def helpError? (s : Switch) (name : String) (joined : List Char) : Option SwitchError :=
  if Text.startsWith "--" name || joined.isEmpty then some (.unwanted s joined)
  else shortHelpError? s joined

end Gatehouse.CommandLine
