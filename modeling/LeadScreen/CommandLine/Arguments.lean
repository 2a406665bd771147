import LeadScreen.Number.Notation
import LeadScreen.Text.Quoted

set_option autoImplicit false

/-!
# Arguments

The arguments name an input and an output, in this order, with switches between them. A switch with
two dashes may be shortened as long as only one fits. The number to listen on may stand behind an
equality sign or be the next argument. Behind two dashes alone there are no switches.

An output counts only directly behind its input: a switch between the two ends both. What is left
over is refused when all arguments have been read.
-/

namespace LeadScreen.CommandLine

/-! ## Switches -/

/-- What a switch asks for. -/
inductive Switch where
  | help
  | serve
  | listenOn
deriving DecidableEq, Repr

namespace Switch

def spellings : List (Text × Switch) :=
  [("-h", .help), ("--help", .help), ("--serve", .serve), ("--port", .listenOn)]

/-- What a switch is called in a refusal. -/
def title : Switch → Text
  | .help => "-h/--help"
  | .serve => "--serve"
  | .listenOn => "--port"

def ofSpelling? (t : Text) : Option Switch :=
  (spellings.find? fun entry => decide (entry.1 = t)).map (·.2)

end Switch

/-! ## Refusals -/

inductive Refusal where
  /-- Several switches start with what is written. -/
  | ambiguous (argument : Text) (spellings : List Text)
  /-- A switch that takes no text has one. -/
  | attached (switch : Switch) (text : Text)
  /-- The number to listen on is missing. -/
  | noNumber
  /-- What should be the number to listen on is no whole number. -/
  | badNumber (text : Text)
  /-- Some arguments are left over. -/
  | unrecognized (arguments : List Text)
deriving DecidableEq, Repr

namespace Refusal

def message : Refusal → Text
  | .ambiguous argument spellings =>
    "ambiguous option: ".toList ++ argument ++ " could match ".toList
      ++ Text.joinWith ", " spellings
  | .attached switch text =>
    "argument ".toList ++ switch.title ++ ": ignored explicit argument ".toList ++ text.quoted
  | .noNumber => "argument --port: expected one argument"
  | .badNumber text => "argument --port: invalid int value: ".toList ++ text.quoted
  | .unrecognized arguments =>
    "unrecognized arguments: ".toList ++ Text.joinWith " " arguments

end Refusal

/-! ## What an argument is taken for -/

inductive Part where
  /-- An input, an output or the number to listen on. -/
  | value (t : Text)
  /-- The two dashes behind which there are no switches. -/
  | dashes
  /-- A switch, with the text attached to it; `short` tells whether it has one dash. -/
  | switch (s : Switch) (attached : Option Text) (short : Bool)
  /-- No switch, though it looks like one. -/
  | unknown (t : Text)
deriving DecidableEq, Repr

/-- Whether a text behind a minus sign makes a negative number: digits, perhaps behind a point and
digits. One line feed may follow. -/
def looksNumeric (t : Text) : Bool :=
  let t := if t.getLast? = some '\n' then t.dropLast else t
  match Text.cut? '.' t with
  | some (whole, fraction) =>
    whole.all isDigit && !fraction.isEmpty && fraction.all isDigit
  | none => !t.isEmpty && t.all isDigit

/-- What an argument that is no spelling of a switch, and looks like one, is taken for. -/
def takeLoose (argument : Text) : Part :=
  if looksNumeric (argument.drop 1) || argument.elem ' ' then .value argument
  else .unknown argument

/-- What an argument that starts with two dashes is taken for: a switch of which it is the
beginning. -/
def takeShortened (argument : Text) : Except Refusal Part :=
  let (beginning, attached) :=
    match Text.cut? '=' argument with
    | some (before, behind) => (before, some behind)
    | none => (argument, none)
  match Switch.spellings.filter fun entry => beginning.isPrefixOf entry.1 with
  | [] => .ok (takeLoose argument)
  | [entry] => .ok (.switch entry.2 attached false)
  | entries => .error (.ambiguous argument (entries.map (·.1)))

/-- What an argument is taken for that starts with a dash and is no spelling of a switch, nor one
with an equality sign behind it. -/
def takeDashed (argument : Text) : Except Refusal Part :=
  match argument with
  | [_] => .ok (.value argument)
  | _ :: '-' :: _ => takeShortened argument
  | _ =>
    match Switch.ofSpelling? (argument.take 2) with
    | some s => .ok (.switch s (some (argument.drop 2)) true)
    | none => .ok (takeLoose argument)

/-- Whether the spelling of a switch has one dash. -/
def isShort (spelling : Text) : Bool :=
  spelling.length == 2

def takePart (argument : Text) : Except Refusal Part :=
  if argument.head? != some '-' then .ok (.value argument)
  else
    match Switch.ofSpelling? argument with
    | some s => .ok (.switch s none (isShort argument))
    | none =>
      let parts := (Text.cut? '=' argument).getD (argument, [])
      match Switch.ofSpelling? parts.1 with
      | some s => .ok (.switch s (some parts.2) (isShort parts.1))
      | none => takeDashed argument

def takeParts : List Text → Except Refusal (List Part)
  | [] => .ok []
  | argument :: rest =>
    if argument = ['-', '-'] then .ok (.dashes :: rest.map .value)
    else do
      let part ← takePart argument
      let parts ← takeParts rest
      return part :: parts

/-! ## Reading the parts -/

inductive Progress where
  /-- Neither is. -/
  | none
  /-- The input may still come. -/
  | beforeInput
  /-- The input is read and the output may follow. -/
  | input
  /-- The output is read. -/
  | output
  /-- Nothing more is read. -/
  | closed
deriving DecidableEq, Repr

structure Reader where
  progress : Progress := .none
  /-- What belongs to the input: its text and two dashes around it. -/
  input : List Text := []
  /-- What belongs to the output. -/
  output : List Text := []
  serve : Bool := false
  listenOn : Int := 8000
  /-- Whether the number to listen on comes next. -/
  awaitsNumber : Bool := false
  /-- What is left over. -/
  extras : List Text := []
deriving DecidableEq, Repr

inductive Ending where
  /-- Help is asked for. -/
  | help
  | refused (r : Refusal)
deriving DecidableEq, Repr

namespace Reader

def dashes : Text :=
  ['-', '-']

def takeValue (r : Reader) (t : Text) : Reader :=
  match r.progress with
  | .none => { r with progress := .input, input := [t] }
  | .beforeInput => { r with progress := .input, input := r.input ++ [t] }
  | .input => { r with progress := .output, output := [t] }
  | .output => { r with progress := .closed, extras := r.extras ++ [t] }
  | .closed => { r with extras := r.extras ++ [t] }

def takeDashes (r : Reader) : Reader :=
  match r.progress with
  | .none => { r with progress := .beforeInput, input := [dashes] }
  | .beforeInput => { r with input := r.input ++ [dashes] }
  | .input => { r with input := r.input ++ [dashes] }
  | .output => { r with output := r.output ++ [dashes] }
  | .closed => { r with extras := r.extras ++ [dashes] }

/-- Ends the input and the output, if they have begun. -/
def close (r : Reader) : Reader :=
  if r.progress = .none then r else { r with progress := .closed }

def takeNumber (r : Reader) (t : Text) : Except Ending Reader :=
  match readWhole? t with
  | some number => .ok { r with listenOn := number, awaitsNumber := false }
  | none => .error (.refused (.badNumber t))

/-- What a text attached to the short switch for help comes to: help, when it repeats the switch. -/
def attachedToHelp (t : Text) : Ending :=
  match t.dropWhile (· == 'h') with
  | [] => if t.isEmpty then .refused (.attached .help t) else .help
  | rest => .refused (.attached .help rest)

def takeSwitch (r : Reader) (s : Switch) (attached : Option Text) (short : Bool) :
    Except Ending Reader :=
  match s, attached with
  | .listenOn, none => .ok { r with awaitsNumber := true }
  | .listenOn, some t => r.takeNumber t
  | .serve, none => .ok { r with serve := true }
  | .serve, some t => .error (.refused (.attached .serve t))
  | .help, none => .error .help
  | .help, some t => .error (if short then attachedToHelp t else .refused (.attached .help t))

def step (r : Reader) (part : Part) : Except Ending Reader :=
  if r.awaitsNumber then
    match part with
    | .value t => r.takeNumber t
    | _ => .error (.refused .noNumber)
  else
    match part with
    | .value t => .ok (r.takeValue t)
    | .dashes => .ok r.takeDashes
    | .switch s attached short => r.close.takeSwitch s attached short
    | .unknown t => .ok { r.close with extras := r.extras ++ [t] }

end Reader

structure Arguments where
  /-- The input; there may be none. -/
  input : Option Text := none
  output : Text := "output.xlsx"
  serve : Bool := false
  listenOn : Int := 8000
deriving DecidableEq, Repr

/-- The text among what belongs to an input or an output: what is left without the first two
dashes. -/
def valueOf? (texts : List Text) : Option Text :=
  (texts.erase Reader.dashes).head?

def Reader.finish (r : Reader) : Except Ending Arguments :=
  if r.awaitsNumber then .error (.refused .noNumber)
  else if !r.extras.isEmpty then .error (.refused (.unrecognized r.extras))
  else
    .ok
      { input := valueOf? r.input
        output := (valueOf? r.output).getD ({} : Arguments).output
        serve := r.serve
        listenOn := r.listenOn }

def readArguments (arguments : List Text) : Except Ending Arguments :=
  match takeParts arguments with
  | .error r => .error (.refused r)
  | .ok parts => parts.foldlM Reader.step {} >>= Reader.finish

end LeadScreen.CommandLine
