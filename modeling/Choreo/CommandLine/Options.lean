import Choreo.Text.Digit
import Choreo.Text.Quoted

/-!
Options on a command line.

An option is named in full, or by enough of its long name to tell it from the others. Its value
follows it or stands in the same word behind an equals sign. A word that looks like a negative
number or holds a blank is no option, and behind a double dash no word is one. Names of one letter
belong to options without a value and may share a word; what stands behind an equals sign there is
read as such names too.
-/

namespace Choreo
namespace CommandLine

structure Switch where
  /-- All names, with their dashes. -/
  names : List String
  takesValue : Bool
  /-- Whether it asks for help. -/
  isHelp : Bool
  /-- What is wrong with a value, if anything is. -/
  complaint : String → Option String

/-- What stands in one word with the name of an option. -/
inductive Attached where
  | nothing
  /-- Behind an equals sign. -/
  | value (s : String)
  /-- Behind a name of one letter. -/
  | letters (cs : List Char)

/-- How a word is read. -/
inductive Word where
  | switch (s : Switch) (attached : Attached)
  /-- Like an option, but of no known name. -/
  | unknown (s : String)
  | plain (s : String)
  | dashes

/-- Why reading stops. -/
inductive Stop where
  | help
  | fault (text : String)
  deriving DecidableEq, Repr

/-- What options say, in order, and the words that are left. -/
structure Reading where
  values : List (String × String)
  extras : List String

namespace Switch

/-- The name options are known by. -/
def name (s : Switch) : String := s.names.getLast?.getD ""

/-- How an option is called in messages. -/
def label (s : Switch) : String := "/".intercalate s.names

def fault (s : Switch) (text : String) : Stop := .fault ("argument " ++ s.label ++ ": " ++ text)

def ignored (s : Switch) (value : String) : Stop :=
  s.fault ("ignored explicit argument " ++ Text.quoted value)

end Switch

/-! ## Words -/

def byName? (switches : List Switch) (name : String) : Option Switch :=
  switches.find? fun s => s.names.contains name

/-- The text before the first equals sign and the text behind it. -/
def atEquals? (cs : List Char) : Option (String × String) :=
  match cs.dropWhile (· ≠ '=') with
  | _ :: value => some (String.ofList (cs.takeWhile (· ≠ '=')), String.ofList value)
  | [] => none

def isNegativeNumber (cs : List Char) : Bool :=
  let cs := if cs.getLast? = some '\n' then cs.dropLast else cs
  match cs with
  | '-' :: body =>
    match body.dropWhile Text.isDigit with
    | [] => !body.isEmpty
    | '.' :: places => !places.isEmpty && places.all Text.isDigit
    | _ => false
  | _ => false

/-- The long names a text may be short for, each with its option. -/
def completions (switches : List Switch) (short : String) : List (Switch × String) :=
  switches.flatMap fun s =>
    (s.names.filter fun n => short.toList.isPrefixOf n.toList).map fun n => (s, n)

/-- The options a word that starts with a dash may mean. -/
def candidates (switches : List Switch) (cs : List Char) : List (Switch × String × Attached) :=
  match cs with
  | '-' :: '-' :: _ =>
    let (short, attached) := match atEquals? cs with
      | some (n, v) => (n, Attached.value v)
      | none => (String.ofList cs, .nothing)
    (completions switches short).map fun (s, n) => (s, n, attached)
  | '-' :: c :: rest =>
    let name := String.ofList ['-', c]
    switches.flatMap fun s => s.names.filterMap fun n =>
      if n = name then some (s, n, .letters rest)
      else if cs.isPrefixOf n.toList then some (s, n, .nothing)
      else none
  | _ => []

/-- Reads one word that stands before any double dash. -/
def Word.read (switches : List Switch) (word : String) : Except Stop Word :=
  let cs := word.toList
  if word = "--" then .ok .dashes
  else if cs.head? ≠ some '-' then .ok (.plain word)
  else
    match byName? switches word with
    | some s => .ok (.switch s .nothing)
    | none =>
      if cs.length = 1 then .ok (.plain word)
      else
        let exact := (atEquals? cs).bind fun (n, v) => (byName? switches n).map fun s =>
          (s, if n.length = 2 ∧ v ≠ "" then Attached.letters v.toList else .value v)
        match exact, candidates switches cs with
        | some (s, attached), _ => .ok (.switch s attached)
        | none, [(s, _, attached)] => .ok (.switch s attached)
        | none, [] =>
          .ok (if isNegativeNumber cs || cs.contains ' ' then .plain word else .unknown word)
        | none, found =>
          .error (.fault ("ambiguous option: " ++ word ++ " could match " ++
            ", ".intercalate (found.map fun (_, n, _) => n)))

/-- Reads words. Behind a double dash all of them are plain. -/
def Word.readAll (switches : List Switch) : List String → Except Stop (List Word)
  | [] => .ok []
  | word :: rest => do
    match ← Word.read switches word with
    | .dashes => return .dashes :: rest.map .plain
    | w => return w :: (← readAll switches rest)

/-! ## Options -/

/-- The letters behind a name of one letter are more such names. Gives whether help is asked for. -/
def lettersOf (switches : List Switch) (s : Switch) (help : Bool) :
    List Char → Except Stop Bool
  | [] => .ok help
  | c :: rest =>
    match byName? switches (String.ofList ['-', c]) with
    | none => .error (s.ignored (String.ofList (c :: rest)))
    | some t => lettersOf switches t (help || t.isHelp) rest

/-- Takes an option without a value. -/
def takeFlag (switches : List Switch) (s : Switch) (attached : Attached) : Except Stop Unit := do
  let help ← match attached with
    | .nothing => pure s.isHelp
    | .value v => throw (s.ignored v)
    | .letters cs => lettersOf switches s s.isHelp cs
  if help then throw .help

def takeValue (s : Switch) (value : String) : Except Stop (String × String) :=
  match s.complaint value with
  | some text => .error (s.fault text)
  | none => .ok (s.name, value)

namespace Reading

def withValue (r : Reading) (v : String × String) : Reading := { r with values := r.values ++ [v] }

def withExtra (r : Reading) (word : String) : Reading := { r with extras := r.extras ++ [word] }

/-- What an option says, the last time it is given. -/
def get? (r : Reading) (name : String) : Option String := r.values.reverse.lookup name

/-- Takes the options among words. All other words are left. -/
def ofWords (switches : List Switch) (r : Reading) : List Word → Except Stop Reading
  | [] => .ok r
  | .plain s :: rest => ofWords switches (r.withExtra s) rest
  | .unknown s :: rest => ofWords switches (r.withExtra s) rest
  | .dashes :: rest => ofWords switches (r.withExtra "--") rest
  | .switch s attached :: rest =>
    if s.takesValue then
      match attached, rest with
      | .value v, rest => do ofWords switches (r.withValue (← takeValue s v)) rest
      | .letters cs, rest => do
        ofWords switches (r.withValue (← takeValue s (String.ofList cs))) rest
      | .nothing, .plain v :: rest => do ofWords switches (r.withValue (← takeValue s v)) rest
      | .nothing, _ => .error (s.fault "expected one argument")
    else do
      takeFlag switches s attached
      ofWords switches (r.withValue (s.name, "")) rest

def ofArguments (switches : List Switch) (arguments : List String) : Except Stop Reading := do
  ofWords switches ⟨[], []⟩ (← Word.readAll switches arguments)

end Reading

/-! ## Commands -/

/-- The command of a command line and its arguments, and the words in front of it. A double dash in
front of a word is taken for the command. -/
def command (switches : List Switch) (extras : List String) :
    List String → Except Stop (Option (String × List String) × List String)
  | [] => .ok (none, extras)
  | word :: rest => do
    match ← Word.read switches word with
    | .plain s => return (some (s, rest), extras)
    | .unknown s => command switches (extras ++ [s]) rest
    | .dashes =>
      if rest.isEmpty then return (none, extras ++ [word]) else return (some (word, rest), extras)
    | .switch s attached =>
      takeFlag switches s attached
      command switches extras rest

end CommandLine
end Choreo
