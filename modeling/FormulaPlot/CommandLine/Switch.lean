import FormulaPlot.Text.Digit
import FormulaPlot.Text.Quoted

/-!
Grammars of command lines and their reader. Switches may stand between the arguments, be cut short
where that leaves no doubt, and carry their value after an equals sign or, when they have one
letter, right after it. Everything after a double dash is an argument.
-/

namespace FormulaPlot.CommandLine

open FormulaPlot.Text

set_option autoImplicit false

inductive Ending where
  | help
  | version
  deriving DecidableEq, Repr

/-- Why a command line is not carried out: it asks for information only, or it is at fault. -/
inductive Interruption where
  | ending (program : String) (ending : Ending)
  | misuse (program message : String)
  deriving DecidableEq, Repr

/-- What a switch does to the settings. -/
inductive Effect (settings : Type) where
  | set (apply : settings → settings)
  | read (apply : Option String → settings → Except String settings)
  | stop (ending : Ending)

structure Switch (settings : Type) where
  names : List String
  effect : Effect settings

inductive Positional (settings : Type) where
  | arguments (apply : List String → settings → settings)
  | command (name : String)
      (run : String → List String → settings → Except Interruption (settings × List String))

structure Grammar (settings : Type) where
  program : String
  switches : List (Switch settings)
  positional : Positional settings
  /-- Names of what is required and was not given. -/
  missing : settings → List String

abbrev Reading (result : Type) := Except Interruption result

/-- What a word of the command line is, seen by itself. -/
inductive Role (settings : Type) where
  | argument
  | separator
  | unknown
  | switch (found : Switch settings) (name : String) (attached : Option String)

section

variable {settings : Type}

namespace Switch

def takesValue (switch : Switch settings) : Bool :=
  match switch.effect with
  | .read _ => true
  | _ => false

def title (switch : Switch settings) : String := "/".intercalate switch.names

def fault (switch : Switch settings) (message : String) : String :=
  "argument " ++ switch.title ++ ": " ++ message

end Switch

def startsWith (text start : String) : Bool := start.toList.isPrefixOf text.toList

namespace Grammar

def misuse {result : Type} (grammar : Grammar settings) (message : String) : Reading result :=
  .error (.misuse grammar.program message)

def find? (grammar : Grammar settings) (name : String) : Option (Switch settings) :=
  grammar.switches.find? fun switch => switch.names.contains name

/-- All names with their switches, in the order of the grammar. -/
def named (grammar : Grammar settings) : List (String × Switch settings) :=
  grammar.switches.flatMap fun switch => switch.names.map fun name => (name, switch)

end Grammar

/-- A text up to its first equals sign, and what follows that. -/
def splitMark : List Char → List Char × Option (List Char)
  | [] => ([], none)
  | '=' :: rest => ([], some rest)
  | character :: rest =>
      let (before, after) := splitMark rest
      (character :: before, after)

abbrev Candidate (settings : Type) := String × Switch settings × Option String

/-- Switches whose name starts like a word of two dashes. -/
def longCandidates (grammar : Grammar settings) (word : List Char) :
    List (Candidate settings) :=
  let (before, after) := splitMark word
  (grammar.named.filter fun (name, _) => before.isPrefixOf name.toList).map fun (name, switch) =>
    (name, switch, after.map String.ofList)

/-- Switches of one letter with their value right after it. -/
def shortCandidates (grammar : Grammar settings) (word : List Char) :
    List (Candidate settings) :=
  grammar.named.filterMap fun (name, switch) =>
    if name.toList = word.take 2 then
      some (name, switch, some (String.ofList (word.drop 2)))
    else if word.isPrefixOf name.toList then some (name, switch, none)
    else none

def candidates (grammar : Grammar settings) (word : List Char) : List (Candidate settings) :=
  if word.take 2 = ['-', '-'] then longCandidates grammar word else shortCandidates grammar word

def dropLineEnd (characters : List Char) : List Char :=
  match characters.reverse with
  | '\n' :: rest => rest.reverse
  | _ => characters

/-- Negative numbers without an exponent are arguments. -/
def isNegativeNumber (word : List Char) : Bool :=
  match dropLineEnd word with
  | '-' :: unsigned =>
      match unsigned.dropWhile isDecimal with
      | [] => !unsigned.isEmpty
      | '.' :: fraction => !fraction.isEmpty && fraction.all isDecimal
      | _ => false
  | _ => false

def ambiguity (word : String) (found : List (Candidate settings)) : String :=
  "ambiguous option: " ++ word ++ " could match " ++ ", ".intercalate (found.map Prod.fst)

/-- The role of a word that starts with a dash and is no switch as it stands. -/
def roleOfDashed (grammar : Grammar settings) (word : String) : Reading (Role settings) :=
  let characters := word.toList
  match candidates grammar characters with
  | [(name, switch, attached)] => .ok (.switch switch name attached)
  | [] =>
      .ok (if isNegativeNumber characters || characters.contains ' ' then .argument else .unknown)
  | found => grammar.misuse (ambiguity word found)

def markedSwitch? (grammar : Grammar settings) (word : List Char) : Option (Role settings) :=
  match splitMark word with
  | (_, none) => none
  | (before, after) =>
      (grammar.find? (String.ofList before)).map fun switch =>
        .switch switch (String.ofList before) (after.map String.ofList)

def roleOf (grammar : Grammar settings) (word : String) : Reading (Role settings) :=
  match grammar.find? word with
  | some switch => .ok (.switch switch word none)
  | none =>
      match word.toList with
      | '-' :: second :: rest =>
          match markedSwitch? grammar ('-' :: second :: rest) with
          | some role => .ok role
          | none => roleOfDashed grammar word
      | _ => .ok .argument

abbrev Word (settings : Type) := String × Role settings

/-- After the first double dash all words are arguments. -/
def roles (grammar : Grammar settings) : List String → Reading (List (Word settings))
  | [] => .ok []
  | "--" :: rest => .ok (("--", .separator) :: rest.map fun word => (word, .argument))
  | word :: rest =>
      match roleOf grammar word with
      | .error interruption => .error interruption
      | .ok role => (roles grammar rest).map fun words => (word, role) :: words

/-- Switches that are written in one word: those that stand alone, then the last one, which may have
its value in the word. -/
structure Bundle (settings : Type) where
  alone : List (Switch settings)
  last : Switch settings × Option String

def Bundle.after (switch : Switch settings) (bundle : Bundle settings) : Bundle settings :=
  { bundle with alone := switch :: bundle.alone }

def isLong (name : String) : Bool := startsWith name "--"

def shortName (letter : Char) : String := String.ofList ['-', letter]

/-- Takes what follows a switch without value as the letters of further switches, whatever stands
between them. The first one with a value takes all the rest for it. -/
def unbundleLetters (grammar : Grammar settings) (switch : Switch settings)
    (letters : List Char) : Reading (Bundle settings) :=
  let ignored := switch.fault ("ignored explicit argument " ++ quoted (String.ofList letters))
  match letters with
  | [] => grammar.misuse ignored
  | letter :: rest =>
      match grammar.find? (shortName letter), rest with
      | none, _ => grammar.misuse ignored
      | some next, [] => .ok ⟨[switch], (next, none)⟩
      | some next, rest =>
          if next.takesValue then .ok ⟨[switch], (next, some (String.ofList rest))⟩
          else (unbundleLetters grammar next rest).map (Bundle.after switch)

/-- Only names of one letter are written together. -/
def unbundle (grammar : Grammar settings) (switch : Switch settings) (name : String)
    (attached : String) : Reading (Bundle settings) :=
  if switch.takesValue then .ok ⟨[], (switch, some attached)⟩
  else if isLong name then
    grammar.misuse (switch.fault ("ignored explicit argument " ++ quoted attached))
  else unbundleLetters grammar switch attached.toList

/-- How far the reader has got with the arguments. -/
inductive Progress where
  | awaited
  | collecting (backwards : List String)
  | finished

structure State (settings : Type) where
  settings : settings
  progress : Progress
  /-- Words that nothing could be made of, the last one first. -/
  leftover : List String

namespace State

def leave (state : State settings) (word : String) : State settings :=
  { state with leftover := word :: state.leftover }

/-- A switch between arguments closes their list. -/
def closed (state : State settings) (apply : List String → settings → settings) :
    State settings :=
  match state.progress with
  | .collecting backwards =>
      { state with settings := apply backwards.reverse state.settings, progress := .finished }
  | _ => state

/-- At the end an empty list is as good as any. -/
def ended (state : State settings) (apply : List String → settings → settings) :
    State settings :=
  match state.progress with
  | .awaited => { state with settings := apply [] state.settings, progress := .finished }
  | _ => state.closed apply

def collect (state : State settings) (word : String) : State settings :=
  match state.progress with
  | .awaited => { state with progress := .collecting [word] }
  | .collecting backwards => { state with progress := .collecting (word :: backwards) }
  | .finished => state.leave word

def collectNothing (state : State settings) : State settings :=
  match state.progress with
  | .awaited => { state with progress := .collecting [] }
  | .collecting _ => state
  | .finished => state.leave "--"

end State

def applyAlone (grammar : Grammar settings) (switch : Switch settings)
    (current : settings) : Reading settings :=
  match switch.effect with
  | .set apply => .ok (apply current)
  | .stop ending => .error (.ending grammar.program ending)
  | .read _ => grammar.misuse (switch.fault "expected one argument")

def applyAllAlone (grammar : Grammar settings) (current : settings) :
    List (Switch settings) → Reading settings
  | [] => .ok current
  | switch :: rest =>
      match applyAlone grammar switch current with
      | .error interruption => .error interruption
      | .ok current => applyAllAlone grammar current rest

/-- A double dash alone separates and is no value. -/
def givenValue? (value : String) : Option String := if value = "--" then none else some value

def applyValue (grammar : Grammar settings) (switch : Switch settings) (value : String)
    (current : settings) : Reading settings :=
  match switch.effect with
  | .read apply =>
      match apply (givenValue? value) current with
      | .ok next => .ok next
      | .error message => grammar.misuse (switch.fault message)
  | _ => applyAlone grammar switch current

/-- Applies the switches of one word. The last one may need the word that follows, which must be an
argument; the answer tells whether the next word was used up. -/
def applyWord (grammar : Grammar settings) (bundle : Bundle settings)
    (next : Option (Word settings)) (state : State settings) :
    Reading (State settings × Bool) :=
  match bundle.last with
  | (switch, some value) => do
      let current ← applyAllAlone grammar state.settings bundle.alone
      let current ← applyValue grammar switch value current
      return ({ state with settings := current }, false)
  | (switch, none) =>
      if switch.takesValue then
        match next with
        | some (value, .argument) => do
            let current ← applyAllAlone grammar state.settings bundle.alone
            let current ← applyValue grammar switch value current
            return ({ state with settings := current }, true)
        | _ => grammar.misuse (switch.fault "expected one argument")
      else do
        let current ← applyAllAlone grammar state.settings bundle.alone
        let current ← applyAlone grammar switch current
        return ({ state with settings := current }, false)

def bundleOf (grammar : Grammar settings) (switch : Switch settings) (name : String) :
    Option String → Reading (Bundle settings)
  | none => .ok ⟨[], (switch, none)⟩
  | some attached => unbundle grammar switch name attached

def closeArguments (grammar : Grammar settings) (state : State settings) : State settings :=
  match grammar.positional with
  | .arguments apply => state.closed apply
  | .command .. => state

def runCommand (run : String → List String → settings → Reading (settings × List String))
    (name : String) (words : List String) (state : State settings) : Reading (State settings) :=
  (run name words state.settings).map fun (current, unknown) =>
    { settings := current
      progress := .finished
      leftover := unknown.reverse ++ state.leftover }

/-- A command takes all the words after its name. -/
def readWords (grammar : Grammar settings) (state : State settings) :
    List (Word settings) → Reading (State settings)
  | [] =>
      match grammar.positional with
      | .arguments apply => .ok (state.ended apply)
      | .command .. => .ok state
  | (word, .argument) :: rest =>
      match grammar.positional with
      | .arguments _ => readWords grammar (state.collect word) rest
      | .command _ run => runCommand run word (rest.map Prod.fst) state
  | (word, .separator) :: rest =>
      match grammar.positional with
      | .arguments _ => readWords grammar state.collectNothing rest
      | .command _ run =>
          if rest.isEmpty then .ok (state.leave word)
          else runCommand run word (rest.map Prod.fst) state
  | (word, .unknown) :: rest => readWords grammar ((closeArguments grammar state).leave word) rest
  | (_, .switch switch name attached) :: rest =>
      match bundleOf grammar switch name attached with
      | .error interruption => .error interruption
      | .ok bundle =>
          match applyWord grammar bundle rest.head? (closeArguments grammar state) with
          | .error interruption => .error interruption
          | .ok (state, false) => readWords grammar state rest
          | .ok (state, true) => readWords grammar state (rest.drop 1)
  termination_by words => words.length

/-- The settings that a command line asks for, and the words that nothing could be made of. -/
def Grammar.readSome (grammar : Grammar settings) (words : List String) (start : settings) :
    Reading (settings × List String) := do
  let words ← roles grammar words
  let state ← readWords grammar ⟨start, .awaited, []⟩ words
  match grammar.missing state.settings with
  | [] => return (state.settings, state.leftover.reverse)
  | names =>
      grammar.misuse ("the following arguments are required: " ++ ", ".intercalate names)

def Grammar.read (grammar : Grammar settings) (words : List String) (start : settings) :
    Reading settings := do
  match ← grammar.readSome words start with
  | (current, []) => return current
  | (_, unknown) => grammar.misuse ("unrecognized arguments: " ++ " ".intercalate unknown)

end

end FormulaPlot.CommandLine
