/-
  Ambient/CommandLine/Arguments.lean
  ==================================
  **The arguments of the command.**

  The command takes three arguments, which are the documentation, the root of the library's
  sources and the directory to write to, and options, which may stand anywhere between them.  An
  option has a long name behind two hyphens or a letter behind one; letters may share a hyphen.
  The value of an option stands behind an equals sign, directly behind its letter, or as the next
  word, whatever that word looks like.  Behind a lone `--` all words are arguments, and a lone `-`
  is one anywhere.
-/
import Ambient.File.PathFault

namespace Ambient

structure Arguments where
  schema : Text
  rootDirectory : Path
  outDirectory : Path
  settings : Option Path
  isVerbose : Bool
deriving DecidableEq, Repr

namespace Arguments

inductive Choice where
  | settings
  | verbose
  | help
deriving DecidableEq, Repr

def longNames : List (Text × Choice) :=
  [("--config", .settings), ("--verbose", .verbose), ("--help", .help)]

def letters : List (CodePoint × Choice) := [(.scalar 'c', .settings), (.scalar 'v', .verbose)]

/-- Words that were sorted: the plain ones, in their order, and what the options say. -/
structure Sorted where
  plain : List Text
  settings : Option Text
  isVerbose : Bool
  wantsHelp : Bool
deriving DecidableEq, Repr

def Sorted.ofPlain (words : List Text) : Sorted := ⟨words, none, false, false⟩

def Sorted.behindWord (word : Text) (s : Sorted) : Sorted := { s with plain := word :: s.plain }

/-- The sorted words with an option in front; of several values the last one counts. -/
def Sorted.behindChoice (choice : Choice) (value : Text) (s : Sorted) : Sorted :=
  match choice with
  | .settings => { s with settings := s.settings.or (some value) }
  | .verbose => { s with isVerbose := true }
  | .help => { s with wantsHelp := true }

/-- How a word goes on behind its options: it is over, or the last option takes a value, which is
    the rest of the word or, if nothing is left of it, the next one. -/
inductive Remainder where
  | over
  | value (rest : Option Text)
deriving DecidableEq, Repr

def letterChoices : Text → Option (List Choice × Remainder)
  | [] => some ([], .over)
  | c :: rest =>
    match letters.lookup c with
    | none => none
    | some .settings => some ([.settings], .value (if rest.isEmpty then none else some rest))
    | some choice => (letterChoices rest).map fun (more, ending) => (choice :: more, ending)

def longChoice (word : Text) : Option (List Choice × Remainder) :=
  let name := word.takeWhile fun c => c != .scalar '='
  let value := (word.drop name.length).tail?
  match longNames.lookup name, value with
  | none, _ => none
  | some .settings, value => some ([.settings], .value value)
  | some choice, none => some ([choice], .over)
  | some _, some _ => none

def choices (word : Text) : Option (List Choice × Remainder) :=
  match word with
  | .scalar '-' :: .scalar '-' :: _ => longChoice word
  | _ :: rest => letterChoices rest
  | [] => none

def namesOptions : Text → Bool
  | .scalar '-' :: _ :: _ => true
  | _ => false

/-- The sorted words with options in front, of which only the last one has a value. -/
def Sorted.behindChoices (found : List Choice) (value : Text) (s : Sorted) : Sorted :=
  found.foldr (fun choice s => s.behindChoice choice value) s

/-- Sorts the words of a command line; nothing if they name options that the command has not or
    leave out a value. -/
def sort : List Text → Option Sorted
  | [] => some (.ofPlain [])
  | word :: rest =>
    if word = ("--") then some (.ofPlain rest)
    else if namesOptions word then
      match choices word with
      | none => none
      | some (found, .over) => (sort rest).map (Sorted.behindChoices found [])
      | some (found, .value (some value)) => (sort rest).map (Sorted.behindChoices found value)
      | some (found, .value none) =>
        match rest with
        | [] => none
        | value :: rest => (sort rest).map (Sorted.behindChoices found value)
    else (sort rest).map (Sorted.behindWord word)

end Arguments

inductive Request where
  | run (arguments : Arguments)
  | help
deriving DecidableEq, Repr

/-- What the words of a command line ask for; nothing if they ask for nothing that there is, or if
    a path among them is one that no file can have.  The documentation is looked at later, since
    it may be an address. -/
def Request.ofWords? (words : List Text) : Option Request :=
  match Arguments.sort words with
  | none => none
  | some s =>
    if s.wantsHelp then some .help
    else
      match s.plain with
      | [schema, root, out] =>
        if (root :: out :: s.settings.toList).any fun t => (PathFault.ofText? t).isSome then none
        else
          some (.run ⟨schema, .ofText root, .ofText out, s.settings.map Path.ofText, s.isVerbose⟩)
      | _ => none

end Ambient
