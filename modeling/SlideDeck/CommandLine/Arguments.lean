import SlideDeck.Chart.Format
import SlideDeck.Error
import SlideDeck.Text.Find

/-!
# Arguments of the command line

The words of a command line name one configuration and set options. They are read from left to right,
and what ends the reading first counts: a request for the help text or for the version, or a word that
makes no sense.

An option is written `--name`, or `-n` if it has a letter. The value of an option is the next word, or
is attached to the name by an equals sign, or directly to the letter. Letters of several options may
share a word, in which the first that takes a value takes all that follows. After the word `--` no word
is an option.
-/

namespace SlideDeck.CommandLine

/-! ## Options -/

/-- An option that takes a value. -/
inductive Setting where
  | output
  | template
  | chartFolder
  | chartFormat
deriving Repr, DecidableEq

/-- An option without a value. -/
inductive Switch where
  | verbose
  | help
  | version
deriving Repr, DecidableEq

/-- An option. -/
inductive Flag where
  | setting (setting : Setting)
  | switch (switch : Switch)
deriving Repr, DecidableEq

namespace Flag

/-- All options. -/
def all : List Flag :=
  [.setting .output, .setting .template, .setting .chartFolder, .setting .chartFormat,
    .switch .verbose, .switch .help, .switch .version]

/-- The name of an option behind two dashes. -/
def name : Flag → String
  | .setting .output => "output"
  | .setting .template => "template"
  | .setting .chartFolder => "chart-dir"
  | .setting .chartFormat => "chart-format"
  | .switch .verbose => "verbose"
  | .switch .help => "help"
  | .switch .version => "version"

/-- The letter of an option behind one dash. -/
def letter? : Flag → Option Char
  | .setting .output => some 'o'
  | .setting .template => some 't'
  | .setting .chartFolder | .setting .chartFormat => none
  | .switch .verbose => some 'v'
  | .switch .help => some 'h'
  | .switch .version => some 'V'

/-- The option with a name. -/
def ofName? (name : String) : Option Flag := all.find? (·.name == name)

/-- The option with a letter. -/
def ofLetter? (letter : Char) : Option Flag := all.find? (·.letter? == some letter)

end Flag

/-! ## Arguments -/

/-- What a command line asks for. -/
structure Arguments where
  configuration : File.Path
  output : File.Path
  template : Option File.Path
  /-- Where the images of plots are kept; none for a folder that is removed in the end. -/
  chartFolder : Option File.Path
  chartFormat : Chart.Format
  verbose : Bool
deriving Repr, DecidableEq

/-- The deck that is written unless another is asked for. -/
def standardOutput : File.Path := ⟨"presentation.pptx"⟩

/-- Why the words of a command line make no sense. -/
inductive UsageFault where
  | unknownOption (word : String)
  | repeated (flag : Flag)
  | valueMissing (setting : Setting)
  | valueNotTaken (switch : Switch) (value : String)
  | emptyPath
  | chartFormat (lowercase : String)
  | extraWord (word : String)
  | noConfiguration
deriving Repr, DecidableEq

/-- The wording of a fault. -/
def UsageFault.message : UsageFault → String
  | .unknownOption word => "there is no option '" ++ word ++ "'"
  | .repeated flag => "'--" ++ flag.name ++ "' may be given only once"
  | .valueMissing setting => "'--" ++ (Flag.setting setting).name ++ "' needs a value"
  | .valueNotTaken switch value =>
    "'--" ++ (Flag.switch switch).name ++ "' takes no value, but '" ++ value ++ "' is given"
  | .emptyPath => "a path must not be empty"
  | .chartFormat lowercase => (ArgumentFault.chartFormat lowercase).message
  | .extraWord word => "unexpected argument '" ++ word ++ "'"
  | .noConfiguration => "a configuration is needed"

/-- What ends the reading of a command line before its end. -/
inductive Stop where
  | help
  | version
  | usage (fault : UsageFault)
deriving Repr, DecidableEq

/-! ## Reading -/

/-- What the next word may be. -/
inductive Expected where
  | anything
  | valueOf (setting : Setting)
  /-- No option, since the word `--` has been read. -/
  | configuration
deriving Repr, DecidableEq

/-- The arguments as far as they have been read. -/
structure Draft where
  configuration : Option File.Path
  output : Option File.Path
  template : Option File.Path
  chartFolder : Option File.Path
  chartFormat : Option Chart.Format
  verbose : Bool
  expected : Expected
deriving Repr, DecidableEq

namespace Draft

/-- The draft before the first word. -/
def empty : Draft := ⟨none, none, none, none, none, false, .anything⟩

/-- A path that is not empty. -/
def path (word : String) : Except Stop File.Path :=
  if word.isEmpty then .error (.usage .emptyPath) else .ok ⟨word⟩

/-- A value in the place of a setting that has none yet. -/
def once {α : Type} (setting : Setting) (old : Option α) (value : Except Stop α) :
    Except Stop (Option α) :=
  match old with
  | some _ => .error (.usage (.repeated (.setting setting)))
  | none => value.map some

/-- The draft with a setting. -/
def assign (draft : Draft) (setting : Setting) (value : String) : Except Stop Draft :=
  match setting with
  | .output => return { draft with output := ← once .output draft.output (path value) }
  | .template => return { draft with template := ← once .template draft.template (path value) }
  | .chartFolder =>
    return { draft with chartFolder := ← once .chartFolder draft.chartFolder (path value) }
  | .chartFormat =>
    let format : Except Stop Chart.Format :=
      match Chart.Format.ofName value with
      | .ok format => .ok format
      | .error lowercase => .error (.usage (.chartFormat lowercase))
    return { draft with chartFormat := ← once .chartFormat draft.chartFormat format }

/-- The draft with a switch. -/
def turnOn (draft : Draft) : Switch → Except Stop Draft
  | .help => .error .help
  | .version => .error .version
  | .verbose =>
    if draft.verbose then .error (.usage (.repeated (.switch .verbose)))
    else .ok { draft with verbose := true }

/-- The draft with a word that is no option. -/
def configure (draft : Draft) (word : String) : Except Stop Draft :=
  match draft.configuration with
  | some _ => .error (.usage (.extraWord word))
  | none => return { draft with configuration := some (← path word) }

/-- The draft with an option given by its name, and the value attached to it if there is one. -/
def named (draft : Draft) (name : String) (value? : Option String) : Except Stop Draft :=
  match Flag.ofName? name, value? with
  | none, _ => .error (.usage (.unknownOption ("--" ++ name)))
  | some (.setting setting), none => .ok { draft with expected := .valueOf setting }
  | some (.setting setting), some value => draft.assign setting value
  | some (.switch switch), none => draft.turnOn switch
  | some (.switch switch), some value => .error (.usage (.valueNotTaken switch value))

/-- The draft with the options given by letters, up to the first that takes a value: that is what
follows, behind an equals sign or not. -/
def lettered (draft : Draft) : List Char → Except Stop Draft
  | [] => .ok draft
  | letter :: rest =>
    match Flag.ofLetter? letter with
    | none => .error (.usage (.unknownOption (String.ofList ['-', letter])))
    | some (.switch switch) =>
      match draft.turnOn switch with
      | .error stop => .error stop
      | .ok draft => draft.lettered rest
    | some (.setting setting) =>
      match rest with
      | [] => .ok { draft with expected := .valueOf setting }
      | '=' :: value => draft.assign setting (String.ofList value)
      | value => draft.assign setting (String.ofList value)

/-- A word by its form. -/
inductive Word where
  | escape
  | named (name : String) (value? : Option String)
  | lettered (letters : List Char)
  | plain

/-- The form of a word. A single dash is a plain word. -/
def Word.ofChars : List Char → Word
  | ['-', '-'] => .escape
  | '-' :: '-' :: name =>
    match Text.cutFirst ['='] name with
    | some (name, value) => .named (String.ofList name) (some (String.ofList value))
    | none => .named (String.ofList name) none
  | '-' :: letter :: letters => .lettered (letter :: letters)
  | _ => .plain

/-- The draft with a further word. -/
def add (draft : Draft) (word : String) : Except Stop Draft :=
  match draft.expected, Word.ofChars word.toList with
  | .configuration, _ => draft.configure word
  | .valueOf setting, .plain => { draft with expected := .anything }.assign setting word
  | .valueOf setting, _ => .error (.usage (.valueMissing setting))
  | .anything, .plain => draft.configure word
  | .anything, .escape => .ok { draft with expected := .configuration }
  | .anything, .named name value? => draft.named name value?
  | .anything, .lettered letters => draft.lettered letters

/-- The arguments of a draft after the last word. -/
def finish (draft : Draft) : Except Stop Arguments :=
  match draft.expected, draft.configuration with
  | .valueOf setting, _ => .error (.usage (.valueMissing setting))
  | _, none => .error (.usage .noConfiguration)
  | _, some configuration =>
    .ok
      { configuration
        output := draft.output.getD standardOutput
        template := draft.template
        chartFolder := draft.chartFolder
        chartFormat := draft.chartFormat.getD .svg
        verbose := draft.verbose }

end Draft

/-- The arguments that words give, or what ends the reading before that. -/
def Arguments.ofWords (words : List String) : Except Stop Arguments :=
  (words.foldlM Draft.add .empty).bind Draft.finish

end SlideDeck.CommandLine
