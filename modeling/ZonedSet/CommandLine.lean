/-
ZonedSet.CommandLine — the arguments of `dmzadm`, and what it prints.

Arguments are read from the left, and the first that is wrong ends the reading, as do the requests
for help and for the version. Options of a command may stand before, between and after its paths.
Options with a value take it after an equals sign or as the next argument, which then may not look
like an option. Every option may be given once, apart from `-v`.
-/
import ZonedSet.ConfigFile
import ZonedSet.DeviceSet

namespace ZonedSet.CommandLine

/-! ## Commands -/

/-- The options that say where to look. -/
structure SystemOptions where
  config : Option String
  allowFiles : Bool
  deriving DecidableEq, Repr, Inhabited

/-- A command with its arguments. -/
inductive Command where
  /-- Who holds a device? -/
  | holder (system : SystemOptions) (device : String)
  /-- What does a device hold? -/
  | probe (device : String)
  /-- Describe a set of devices. -/
  | report (system : SystemOptions) (format force zones : Bool) (zoneSectors : Option Nat)
      (label : Option String) (devices : List String)
  deriving DecidableEq, Repr, Inhabited

/-- What the arguments ask for. -/
inductive Asked where
  | run (command : Command)
  | version
  | help
  /-- Nothing that makes sense. -/
  | invalid
  deriving DecidableEq, Repr, Inhabited

/-- The paths that a command is given. -/
def Command.paths : Command → List String
  | .holder system device => system.config.toList ++ [device]
  | .probe device => [device]
  | .report system _ _ _ _ _ devices => system.config.toList ++ devices

/-! ## Options -/

/-- What the value of an option, or a word, has to look like. -/
inductive ValueKind where
  | path
  | text
  /-- A 64-bit word other than zero. -/
  | positive
  deriving DecidableEq, Repr, Inhabited

/-- Is it such a value? -/
def ValueKind.accepts (kind : ValueKind) (value : String) : Bool :=
  match kind with
  | .path => !value.isEmpty
  | .text => true
  | .positive =>
    match Text.Decimal.parse value.toList with
    | .ok n => n != 0
    | .error _ => false

/-- The options of a command: flags, letters for flags, options with values, and whether it takes
several paths. -/
structure Grammar where
  flags : List String
  letters : List (Char × String)
  valued : List (String × ValueKind)
  several : Bool

/-- The arguments of a command, as read so far. -/
structure Given where
  flags : List String
  values : List (String × String)
  words : List String

namespace Given

/-- No arguments. -/
def nothing : Given := ⟨[], [], []⟩

def has (g : Given) (flag : String) : Bool := g.flags.contains flag

def value? (g : Given) (option : String) : Option String := g.values.lookup option

/-- Sets a flag, unless it is set. -/
def setFlag? (g : Given) (flag : String) : Option Given :=
  if g.has flag then none else some { g with flags := flag :: g.flags }

/-- Gives an option its value, unless it has one, or the value is wrong. -/
def setValue? (g : Given) (option : String) (kind : ValueKind) (value : String) : Option Given :=
  if (g.value? option).isSome || !kind.accepts value then none
  else some { g with values := (option, value) :: g.values }

/-- Adds a path. -/
def addWord? (g : Given) (several : Bool) (word : String) : Option Given :=
  if (!several && !g.words.isEmpty) || !ValueKind.accepts .path word then none
  else some { g with words := g.words ++ [word] }

end Given

/-- An argument with two hyphens in front: its name, and its value after an equals sign. -/
def splitLong (body : List Char) : String × Option String :=
  let name := body.takeWhile (· ≠ '=')
  (String.ofList name,
    match body.dropWhile (· ≠ '=') with
    | [] => none
    | _ :: value => some (String.ofList value))

/-- Sets the flags of a row of letters. -/
def setLetters (grammar : Grammar) (g : Given) : List Char → Except Asked Given
  | [] => .ok g
  | c :: rest =>
    if c = 'h' then .error .help
    else
      match (grammar.letters.lookup c).bind g.setFlag? with
      | some g => setLetters grammar g rest
      | none => .error .invalid

/-- Does an argument look like an option? A lone hyphen does not. -/
def looksLikeOption (arg : String) : Bool :=
  match arg.toList with
  | '-' :: _ :: _ => true
  | _ => false

/-- Reads the paths after a double hyphen. -/
def readWords (grammar : Grammar) (g : Given) : List String → Except Asked Given
  | [] => .ok g
  | word :: rest =>
    match g.addWord? grammar.several word with
    | some g => readWords grammar g rest
    | none => .error .invalid

/-- Reads the arguments of a command. -/
def readGiven (grammar : Grammar) (g : Given) : List String → Except Asked Given
  | [] => .ok g
  | arg :: rest =>
    match arg.toList with
    | ['-', '-'] => readWords grammar g rest
    | '-' :: '-' :: body =>
      match splitLong body with
      | (name, attached) =>
        match grammar.valued.lookup name, attached with
        | some kind, some value =>
          match g.setValue? name kind value with
          | some g => readGiven grammar g rest
          | none => .error .invalid
        | some kind, none =>
          match rest with
          | value :: more =>
            if looksLikeOption value then .error .invalid
            else
              match g.setValue? name kind value with
              | some g => readGiven grammar g more
              | none => .error .invalid
          | [] => .error .invalid
        | none, some _ => .error .invalid
        | none, none =>
          if name = "help" then .error .help
          else if grammar.flags.contains name then
            match g.setFlag? name with
            | some g => readGiven grammar g rest
            | none => .error .invalid
          else .error .invalid
    | '-' :: c :: letters =>
      match setLetters grammar g (c :: letters) with
      | .ok g => readGiven grammar g rest
      | .error asked => .error asked
    | _ =>
      match g.addWord? grammar.several arg with
      | some g => readGiven grammar g rest
      | none => .error .invalid

/-! ## Grammars -/

def holderGrammar : Grammar := ⟨["allow-files"], [], [("config", .path)], false⟩

def probeGrammar : Grammar := ⟨[], [], [], false⟩

def reportGrammar : Grammar :=
  ⟨["format", "force", "zones", "allow-files"], [('f', "force")],
    [("config", .path), ("zone-sectors", .positive), ("label", .text)], true⟩

/-- The options that say where to look. -/
def Given.system (g : Given) : SystemOptions := ⟨g.value? "config", g.has "allow-files"⟩

/-- Reads the arguments of a command and makes the command of them. -/
def readCommand (grammar : Grammar) (args : List String) (make : Given → Option Command) : Asked :=
  match readGiven grammar .nothing args with
  | .error asked => asked
  | .ok g =>
    match make g with
    | some command => .run command
    | none => .invalid

def makeHolder (g : Given) : Option Command := g.words.head?.map (.holder g.system)

def makeProbe (g : Given) : Option Command := g.words.head?.map .probe

/-- The value of an option that was seen to be a word. -/
def wordValue (value : String) : Option Nat :=
  match Text.Decimal.parse value.toList with
  | .ok n => some n
  | .error _ => none

def makeReport (g : Given) : Option Command :=
  if g.words.isEmpty then none
  else
    some (.report g.system (g.has "format") (g.has "force") (g.has "zones")
      ((g.value? "zone-sectors").bind wordValue) (g.value? "label") g.words)

/-- Reads the letters before the command: any number of `v`, and requests. -/
def readLetters : List Char → Option Asked
  | [] => none
  | 'v' :: rest => readLetters rest
  | 'V' :: _ => some .version
  | 'h' :: _ => some .help
  | _ :: _ => some .invalid

/-- The names after `help`: none, or one command. -/
def readHelp : List String → Asked
  | [] => .help
  | [name] => if ["holder", "probe", "report", "help"].contains name then .help else .invalid
  | _ => .invalid

/-- What the arguments ask for. -/
def read : List String → Asked
  | [] => .invalid
  | arg :: rest =>
    if arg = "holder" then readCommand holderGrammar rest makeHolder
    else if arg = "probe" then readCommand probeGrammar rest makeProbe
    else if arg = "report" then readCommand reportGrammar rest makeReport
    else if arg = "help" then readHelp rest
    else if arg = "--verbose" then read rest
    else if arg = "--version" then .version
    else if arg = "--help" then .help
    else
      match arg.toList with
      | '-' :: c :: letters =>
        match readLetters (c :: letters) with
        | none => read rest
        | some asked => asked
      | _ => .invalid

/-! ## Running -/

/-- What a run leaves: the exit code, the lines printed, and the error message, or the promise whose
breach ended the run, if any. -/
structure Outcome where
  code : Nat
  output : List String
  error : Option String
  breach : Option Breach
  deriving DecidableEq, Repr, Inhabited

namespace Outcome

/-- A run that ends well. -/
def success (output : List String) : Outcome := ⟨0, output, none, none⟩

/-- A run that makes no sense of its arguments. -/
def usage : Outcome := ⟨2, [], none, none⟩

/-- A run that fails, after printing some lines. -/
def failure (output : List String) : Error → Outcome
  | .broken breach => ⟨101, output, none, some breach⟩
  | e => ⟨1, output, some e.message, none⟩

/-- A run that prints one line, or fails. -/
def ofLine : Except Error String → Outcome
  | .ok line => success [line]
  | .error e => failure [] e

end Outcome

/-- The configuration that a command runs with. -/
def SystemOptions.load (s : Storage) (o : SystemOptions) : Except Error Config := do
  let config ← match o.config with
    | some path => Config.load s path
    | none => pure .default
  return { config with allowFiles := config.allowFiles || o.allowFiles }

/-- The mount table that a command looks into; `none` where it looks into none, or has no valid
configuration. -/
def Command.mountTable? (s : Storage) : Command → Option String
  | .holder system _ => (system.load s).toOption.map Config.mountTable
  | .probe _ => none
  | .report system _ _ _ _ _ _ => (system.load s).toOption.map Config.mountTable

def runHolder (s : Storage) (system : SystemOptions) (device : String) : Except Error String := do
  let config ← system.load s
  match ← Backing.holder? s config device with
  | some holder => return device ++ ": held by " ++ holder
  | none => return device ++ ": no holder"

def runProbe (s : Storage) (device : String) : Except Error String := do
  match ← Probe.content? s device with
  | some content => return device ++ ": " ++ content.text
  | none => return device ++ ": no signature found"

/-- The lines of some texts, up to the first text that is missing, and whether one is. -/
def linesOf : List (Option (List String)) → List String × Bool
  | [] => ([], false)
  | none :: _ => ([], true)
  | some lines :: rest =>
    match linesOf rest with
    | (more, missing) => (lines ++ more, missing)

/-- The report on a set: its devices, the set, and all its zones if wanted. -/
def reportTexts (set : DeviceSet) (zones : Bool) : List (Option (List String)) :=
  set.devices.map Backing.describe? ++
    [set.describe?,
      some (if zones then set.zones.toList.zipIdx.filterMap fun (z, id) => set.dumpLine? id z
        else [])]

def runReport (s : Storage) (system : SystemOptions) (format force zones : Bool)
    (zoneSectors : Option Nat) (label : Option String) (devices : List String) : Outcome :=
  let opened := do
    let config ← system.load s
    let purpose := if format then Purpose.format else Purpose.inspect
    DeviceSet.openAt s ⟨purpose, force, zoneSectors, label, config⟩ devices
  match opened with
  | .error e => .failure [] e
  | .ok set =>
    match linesOf (reportTexts set zones) with
    | (output, true) => .failure output (.broken .product)
    | (output, false) =>
      if format then
        match set.checkCacheLayout with
        | .ok () => .success output
        | .error e => .failure output e
      else .success output

/-- The text printed for the version. -/
def versionLine : String := "dmzadm 0.1.0"

/-- The text printed for help. -/
def helpLines : List String :=
  ["Usage: dmzadm [-v...] holder [--config FILE] [--allow-files] DEVICE",
    "       dmzadm [-v...] probe DEVICE",
    "       dmzadm [-v...] report [--format] [-f] [--zone-sectors N] [--label LABEL] [--zones]",
    "                             [--config FILE] [--allow-files] DEVICE..."]

/-- Runs a command. -/
def Command.run (s : Storage) : Command → Outcome
  | .holder system device => .ofLine (runHolder s system device)
  | .probe device => .ofLine (runProbe s device)
  | .report system format force zones zoneSectors label devices =>
    runReport s system format force zones zoneSectors label devices

/-- Does what the arguments ask for. -/
def run (s : Storage) (args : List String) : Outcome :=
  match read args with
  | .run command => command.run s
  | .version => .success [versionLine]
  | .help => .success helpLines
  | .invalid => .usage

end ZonedSet.CommandLine
