import FilterLexicon.FileTree
import FilterLexicon.Lexicon.Json
import FilterLexicon.Lexicon.Patterns
import FilterLexicon.Settings.Json

/-!
The command line. It loads settings from the file that the first argument names, or else from a file
with a fixed name, takes the standard settings if that fails, and prints the assembled lexicon or a
report of what went wrong.
-/

namespace FilterLexicon

/-- The settings in what is found at a path. -/
def Settings.ofNode (path : String) : Node → Except LoadError Settings
  | .missing => .error (.missing path)
  | .directory => .error (.unreadable path "Is a directory (os error 21)")
  | .unreadable reason => .error (.unreadable path reason)
  | .file bytes =>
    match String.fromUTF8? bytes with
    | none => .error (.unreadable path "stream did not contain valid UTF-8")
    | some text => (Settings.format.reader.parse text).mapError (LoadError.refused (some path))

namespace CommandLine

/-- What the program leaves: an exit code and the texts of its two output streams. -/
structure Output where
  exit : Nat
  stdout : String
  stderr : String

/-- The path of the settings. -/
def settingsPath (args : List String) : String := args.head?.getD "grammar.json"

/-- The settings to use, and the event that tells how they were come by. -/
def load (path : String) (node : Node) : Settings × Event :=
  match Settings.ofNode path node with
  | .ok settings =>
    (settings, .loaded path settings.sources.length settings.requests.length)
  | .error error => (Settings.standard, .fallback error.message)

/-- The lines of a text behind an opening, the later ones behind blanks of the same width. -/
def indented (opening text : String) : String :=
  let margin := '\n' :: List.replicate opening.length ' '
  opening ++ String.ofList (margin.intercalate (text.toList.splitOn '\n'))

/-- The causes of an error, numbered if there are several. -/
def causeLines : List String → List String
  | [] => []
  | [cause] => [indented "    " cause]
  | causes => causes.mapIdx fun i cause => indented s!"    {i}: " cause

/-- The report of an error and its causes. -/
def errorReport (error : String) (causes : List String) : String :=
  String.join ((s!"Error: {error}" :: "" :: "Caused by:" :: causeLines causes).map (· ++ "\n"))

/-- The causes of a failure: its message, and that of the outside party. -/
def causes (failure : Failure) : List String := failure.message :: failure.reason?.toList

/-- The lines of the events that are told. -/
def logLines (tells : Event → Bool) (events : List Event) : String :=
  String.join ((events.filter tells).map fun e => e.consoleLine ++ "\n")

/-- Runs the program on what is found at the path of its settings. It is left open which bodies of
patterns are regular expressions and which events are told. -/
def runWith (accepts : String → Bool) (tells : Event → Bool) (path : String) (node : Node) :
    Output :=
  let (settings, loading) := load path node
  let assembly := settings.assemble
  let log := logLines tells (loading :: assembly.events)
  match assembly.outcome with
  | .error failure =>
    { exit := 1, stdout := ""
      stderr := log ++ errorReport "failed to generate the filter grammar" (causes failure) }
  | .ok lexicon =>
    match lexicon.checkPatternsWith accepts with
    | .error failure =>
      { exit := 1, stdout := ""
        stderr := log ++
          errorReport "generated grammar contains an invalid literal pattern" (causes failure) }
    | .ok () => { exit := 0, stdout := lexicon.toJson.toPretty ++ "\n", stderr := log }

/-- Runs the program with arguments among the files of a tree. -/
def runInWith (accepts : String → Bool) (tells : Event → Bool) (args : List String)
    (tree : FileTree) : Output :=
  runWith accepts tells (settingsPath args) (tree.find (settingsPath args))

/-- Runs the program among the files of a tree, telling the events up to a level. -/
def runIn (limit : Option Level) (args : List String) (tree : FileTree) : Output :=
  runInWith Pattern.accepts (fun e => e.level.isWithin limit) args tree

end CommandLine
end FilterLexicon
