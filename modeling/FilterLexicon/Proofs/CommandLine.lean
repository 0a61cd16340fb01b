import FilterLexicon.CommandLine
import FilterLexicon.Proofs.Assembly
import FilterLexicon.Proofs.Editing
import FilterLexicon.Proofs.Paths
import FilterLexicon.Proofs.PatternCheck

/-! What the command line does with what is found at a path, and with the file that a path leads to.
Settings are loaded from it or are the standard ones, and the program succeeds exactly when they have
a lexicon: the pattern check that follows never fails, because an assembled lexicon has the patterns
of the structural part and no others, and those are accepted. The standard settings have a lexicon,
so that settings that cannot be loaded do not make the program fail. Nothing is assumed of the way
files are kept or of the events that are told. -/

namespace FilterLexicon

open Json (Blanks Reader)

/-! ### Assembled lexicons -/

namespace Lexicon

variable {accepts : String → Bool}

/-- The attributes of a lexicon are not checked. -/
theorem checkPatternsWith_structural
    (haccepts : ∀ token ∈ structural.literals, Accepted accepts token)
    (attributes : Entries Operators) :
    ({ structural with attributes } : Lexicon).checkPatternsWith accepts = .ok () := by
  rw [checkPatternsWith_eq_ok_iff]
  intro token htoken
  exact isRejected_eq_false_iff.mpr (haccepts token htoken)

theorem accepted_structural : ∀ token ∈ structural.literals, Accepted Pattern.accepts token := by
  simp only [← isRejected_eq_false_iff]
  decide +kernel

/-- A lexicon is read back from its printed form, which ends with a line break. -/
theorem ofJson_printed {l : Lexicon} (h : l.Distinct) :
    ofJson (l.toJson.toPretty ++ "\n") = .ok l := by
  have hbreak : Blanks ['\n'] := fun _ hc => List.mem_singleton.mp hc ▸ rfl
  have hread := Reader.parse_written (reads_toJson h) Json.blanks_nil (l.toJson.written_pretty 0)
    hbreak
  rw [List.nil_append, String.ofList_append] at hread
  exact hread

end Lexicon

namespace Settings

theorem distinct_of_assemble {settings : Settings} {g : Lexicon}
    (h : settings.assemble.outcome = .ok g) : g.Distinct :=
  Plan.distinct_of_assemble (fun _ hfilter => absurd hfilter List.not_mem_nil) h

theorem checkPatternsWith_of_assemble {accepts : String → Bool}
    (haccepts : ∀ token ∈ Lexicon.structural.literals, Lexicon.Accepted accepts token)
    {settings : Settings} {g : Lexicon} (h : settings.assemble.outcome = .ok g) :
    g.checkPatternsWith accepts = .ok () := by
  obtain ⟨attributes, _, rfl⟩ := assemble_eq_ok_iff.mp h
  exact Lexicon.checkPatternsWith_structural haccepts attributes

/-- Only lookups, collisions, unknown attributes and unresolved types make an assembly fail. -/
theorem FirstFailure.kind {settings : Settings} {f : Failure} (h : settings.FirstFailure f) :
    (∀ pattern, f ≠ .invalidPattern pattern) ∧ ∀ channel reason, f ≠ .handler channel reason := by
  rcases h with h | ⟨-, h⟩ <;> cases h <;> exact ⟨nofun, nofun⟩

theorem fromUTF8?_eq_some_iff {bytes : ByteArray} {text : String} :
    String.fromUTF8? bytes = some text ↔ bytes = text.toUTF8 := by
  unfold String.fromUTF8?
  constructor
  · intro h
    split at h
    · cases h
      rfl
    · cases h
  · rintro rfl
    rw [String.toUTF8_eq_toByteArray, dif_pos text.isValidUTF8]
    rfl

/-- Settings are loaded from a file whose bytes are the UTF-8 form of a text that writes them. -/
theorem ofNode_eq_ok_iff {path : String} {node : Node} {settings : Settings} :
    ofNode path node = .ok settings ↔
      ∃ text : String, node = .file text.toUTF8 ∧ ofJson text = .ok settings := by
  constructor
  · intro h
    cases node with
    | missing => cases h
    | directory => cases h
    | unreadable reason => cases h
    | file bytes =>
        unfold ofNode at h
        cases hdecoded : String.fromUTF8? bytes with
        | none =>
            simp only [hdecoded] at h
            cases h
        | some text =>
            simp only [hdecoded] at h
            rw [Json.mapError_eq_ok_iff, ← ofJson_eq_ok_iff] at h
            exact ⟨text, congrArg Node.file (fromUTF8?_eq_some_iff.mp hdecoded), h⟩
  · rintro ⟨text, rfl, hread⟩
    have hdecoded : String.fromUTF8? text.toUTF8 = some text := fromUTF8?_eq_some_iff.mpr rfl
    unfold ofNode
    simp only [hdecoded]
    rw [Json.mapError_eq_ok_iff, ← ofJson_eq_ok_iff]
    exact hread

theorem assemble_standard : ∃ g, standard.assemble.outcome = .ok g := by
  have hsome : standard.assemble.outcome.toOption.isSome := by decide +kernel
  obtain ⟨g, hg⟩ := Option.isSome_iff_exists.mp hsome
  exact ⟨g, eq_ok_of_toOption hg⟩

end Settings

/-! ### Runs of the program -/

namespace CommandLine

variable {accepts : String → Bool} {tells : Event → Bool} {path : String} {node : Node}
  {settings : Settings} {loading : Event}

/-- How a program ends that has come to settings, and the event that tells how it has. It prints
their lexicon so that it can be read back, or else nothing, and reports why they have none. -/
structure Ends (accepts : String → Bool) (tells : Event → Bool) (settings : Settings)
    (loading : Event) (output : Output) : Prop where
  exit : output.exit = 0 ↔ ∃ g, settings.assemble.outcome = .ok g
  success : ∀ g, settings.assemble.outcome = .ok g →
    output = {
      exit := 0, stdout := g.toJson.toPretty ++ "\n"
      stderr := logLines tells (loading :: settings.assemble.events) } ∧
    Lexicon.ofJson output.stdout = .ok g ∧ g.checkPatternsWith accepts = .ok ()
  failure : ∀ f, settings.assemble.outcome = .error f →
    output = {
      exit := 1, stdout := ""
      stderr := logLines tells (loading :: settings.assemble.events) ++
        errorReport "failed to generate the filter grammar" (causes f) } ∧
    (∀ pattern, f ≠ .invalidPattern pattern) ∧ ∀ channel reason, f ≠ .handler channel reason

/-- How a program ends when a file of certain bytes, if any, is at the path of its settings. -/
structure EndsOn (accepts : String → Bool) (tells : Event → Bool) (path : String)
    (holds : ByteArray → Prop) (output : Output) : Prop where
  loaded : ∀ text settings, holds text.toUTF8 → Settings.ofJson text = .ok settings →
    Ends accepts tells settings
      (.loaded path settings.sources.length settings.requests.length) output
  fallback : (∀ text settings, holds text.toUTF8 → Settings.ofJson text ≠ .ok settings) →
    output.exit = 0 ∧ ∃ error : LoadError,
      Ends accepts tells Settings.standard (.fallback error.message) output

theorem load_of_file {text : String} (hnode : node = .file text.toUTF8)
    (hread : Settings.ofJson text = .ok settings) :
    load path node =
      (settings, .loaded path settings.sources.length settings.requests.length) := by
  rw [load, Settings.ofNode_eq_ok_iff.mpr ⟨text, hnode, hread⟩]

theorem load_of_none (path : String)
    (hnone : ∀ text settings, node = .file text.toUTF8 → Settings.ofJson text ≠ .ok settings) :
    ∃ error : LoadError, load path node = (Settings.standard, .fallback error.message) := by
  rw [load]
  cases hload : Settings.ofNode path node with
  | ok settings =>
      obtain ⟨text, hnode, hread⟩ := Settings.ofNode_eq_ok_iff.mp hload
      exact absurd hread (hnone text settings hnode)
  | error error => exact ⟨error, rfl⟩

theorem runWith_of_error {f : Failure} (hload : load path node = (settings, loading))
    (h : settings.assemble.outcome = .error f) :
    runWith accepts tells path node = {
      exit := 1, stdout := ""
      stderr := logLines tells (loading :: settings.assemble.events) ++
        errorReport "failed to generate the filter grammar" (causes f) } := by
  unfold runWith
  simp only [hload, h]

section

variable (haccepts : ∀ token ∈ Lexicon.structural.literals, Lexicon.Accepted accepts token)
include haccepts

theorem runWith_of_ok {g : Lexicon} (hload : load path node = (settings, loading))
    (h : settings.assemble.outcome = .ok g) :
    runWith accepts tells path node = {
      exit := 0, stdout := g.toJson.toPretty ++ "\n"
      stderr := logLines tells (loading :: settings.assemble.events) } := by
  unfold runWith
  simp only [hload, h, Settings.checkPatternsWith_of_assemble haccepts h]

theorem ends_of_load (tells : Event → Bool) (hsorted : settings.customTypes.Sorted)
    (hload : load path node = (settings, loading)) :
    Ends accepts tells settings loading (runWith accepts tells path node) where
  exit := by
    cases houtcome : settings.assemble.outcome with
    | ok g =>
        rw [runWith_of_ok haccepts hload houtcome]
        exact iff_of_true rfl ⟨g, rfl⟩
    | error f =>
        rw [runWith_of_error hload houtcome]
        exact iff_of_false nofun nofun
  success := by
    intro g hg
    rw [runWith_of_ok haccepts hload hg]
    exact ⟨rfl, Lexicon.ofJson_printed (Settings.distinct_of_assemble hg),
      Settings.checkPatternsWith_of_assemble haccepts hg⟩
  failure := by
    intro f hf
    exact ⟨runWith_of_error hload hf, ((Settings.firstFailure_iff hsorted).mp hf).kind⟩

theorem endsOn_node (tells : Event → Bool) (path : String) (node : Node) :
    EndsOn accepts tells path (fun bytes => node = .file bytes)
      (runWith accepts tells path node) where
  loaded := by
    intro text settings hnode hread
    have hsorted := (Settings.faithful_of_ofJson hread).customTypes
    exact ends_of_load haccepts tells hsorted (load_of_file hnode hread)
  fallback := by
    intro hnone
    obtain ⟨error, hload⟩ := load_of_none path hnone
    obtain ⟨g, hg⟩ := Settings.assemble_standard
    have hsorted : Settings.standard.customTypes.Sorted := List.Pairwise.nil
    have hends := ends_of_load haccepts tells hsorted hload
    exact ⟨hends.exit.mpr ⟨g, hg⟩, error, hends⟩

end

/-- Given that the bodies of the structural patterns are accepted, the program ends as it should on
whatever is found at its path, and on the file that the path of its settings leads to in a tree. -/
theorem runWith_exact
    (haccepts : ∀ token ∈ Lexicon.structural.literals, Lexicon.Accepted accepts token)
    (tells : Event → Bool) :
    (∀ (path : String) (node : Node),
      EndsOn accepts tells path (fun bytes => node = .file bytes)
        (runWith accepts tells path node)) ∧
    ∀ (args : List String) (tree : FileTree),
      EndsOn accepts tells (args.head?.getD "grammar.json")
        (tree.Holds (args.head?.getD "grammar.json")) (runInWith accepts tells args tree) := by
  refine ⟨endsOn_node haccepts tells, ?_⟩
  intro args tree
  have hnode := endsOn_node haccepts tells (settingsPath args) (tree.find (settingsPath args))
  simp only [FileTree.find_eq_file_iff] at hnode
  exact hnode

/-- Settings that request an attribute that no source has. -/
def unknownText : String := "\x7b\"entities\":[],\"attributes\":[\"X.Y\"]\x7d"

/-- A tree with settings in `/etc`, others in the working directory, and a file beside them that cannot
be read. -/
def machine : FileTree :=
  (((({ workingDirectory := ["home", "u"] } : FileTree).addDirectory "/srv/empty").addFile
    "/etc/grammar.json" Settings.overlapping.toUTF8).addFile "grammar.json"
      unknownText.toUTF8).addUnreadable "../u/locked.json" "Permission denied (os error 13)"

/-- Ways to the settings in `/etc`: from the root, from the working directory, and through an empty
directory. -/
def routes : List String :=
  ["/etc/grammar.json", "../../etc/./grammar.json", "/srv/empty/../../etc/grammar.json"]

theorem runWith_exact_machine :
    (∀ token ∈ Lexicon.structural.literals, Lexicon.Accepted Pattern.accepts token) ∧
    Settings.ofJson Settings.overlapping = .ok Settings.overlapped ∧
    (∀ path ∈ routes,
      machine.Holds path Settings.overlapping.toUTF8 ∧ (runIn none [path] machine).exit = 0 ∧
      Lexicon.ofJson (runIn none [path] machine).stdout =
        .ok { Lexicon.structural with attributes := ⟨[("P.X", ["2"])]⟩ }) ∧
    (runIn (some .info) ["/etc/grammar.json"] machine).stderr =
      "INFO: loaded grammar config path=\"/etc/grammar.json\" entities=2 attributes=2\n" ∧
    machine.Holds "grammar.json" unknownText.toUTF8 ∧
    runIn none [] machine = {
      exit := 1, stdout := ""
      stderr := "Error: failed to generate the filter grammar\n\nCaused by:\n" ++
        "    Unknown attribute: X.Y\n" } ∧
    (∀ path ∈ ["locked.json", "/grammar.json", "/etc", "/etc/grammar.json/"],
      (runIn none [path] machine).exit = 0) ∧
    (runWith Pattern.accepts (fun _ => true) "x" .missing).exit = 0 := by
  have htree (limit : Option Level) :=
    (runWith_exact Lexicon.accepted_structural fun e => e.level.isWithin limit).2
  have hread := Settings.ofJson_overlapping
  have hok := Settings.assemble_overlapping
  have hunknown : Settings.ofJson unknownText = .ok { sources := [], requests := ["X.Y"] } :=
    eq_ok_of_toOption (by decide +kernel)
  have hfails : ({ sources := [], requests := ["X.Y"] } : Settings).assemble.outcome =
      .error (.unknownAttribute "X.Y") := by decide +kernel
  have hholds : ∀ path ∈ routes, machine.Holds path Settings.overlapping.toUTF8 := by
    intro path hpath
    simp only [routes, List.mem_cons, List.not_mem_nil, or_false] at hpath
    rw [← FileTree.find_eq_file_iff]
    rcases hpath with rfl | rfl | rfl <;> rfl
  have hother : machine.Holds "grammar.json" unknownText.toUTF8 :=
    FileTree.find_eq_file_iff.mp rfl
  refine ⟨Lexicon.accepted_structural, hread, ?_, ?_, hother, ?_, ?_, ?_⟩
  · intro path hpath
    have hends := (htree none [path] machine).loaded _ _ (hholds path hpath) hread
    exact ⟨hholds path hpath, hends.exit.mpr ⟨_, hok⟩, (hends.success _ hok).2.1⟩
  · have hends := (htree (some .info) ["/etc/grammar.json"] machine).loaded _ _
      (hholds _ List.mem_cons_self) hread
    refine (congrArg Output.stderr (hends.success _ hok).1).trans ?_
    decide +kernel
  · have hends := (htree none [] machine).loaded _ _ hother hunknown
    refine (hends.failure _ hfails).1.trans (congrArg (Output.mk 1 "") ?_)
    decide +kernel
  · intro path hpath
    have hnone : ∀ bytes, ¬machine.Holds path bytes := by
      simp only [List.mem_cons, List.not_mem_nil, or_false] at hpath
      simp only [← FileTree.find_eq_file_iff]
      rcases hpath with rfl | rfl | rfl | rfl <;> exact fun _ => nofun
    exact ((htree none [path] machine).fallback fun text _ h => absurd h (hnone _)).1
  · exact (((runWith_exact Lexicon.accepted_structural fun _ => true).1 "x" .missing).fallback
      fun _ _ => nofun).1

end CommandLine
end FilterLexicon
