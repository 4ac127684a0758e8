import PipelineSelection.CommandLine.Run
import PipelineSelection.Proofs.CommandLine.Reporting
import PipelineSelection.Proofs.Resolution.Emptiness

/-!
# Resolving on the command line

Both ways of asking for a resolution go the same way up to the resolution, which is that of the settings file, or of
the local default selection without one (`resolves_result`), and which nothing else decides (`Resolves.unique`).
Nothing is printed on that way (`silent_resolution`), and nothing goes wrong after it: a resolution that has come out of
a load can always be reported, since a list is in force and no scope has an empty list (`exists_mode?_of_load`,
`isEmpty_iff_of_load`).  So a run that fails has printed nothing.  The main result is `resolve_modes_agree`.
-/

namespace PipelineSelection

/-! ### Loading -/

namespace Source

variable {source : Source} {registry : Registry} {resolution : Resolution}

theorem exists_resolve_of_load (loaded : (source.load registry).value = .ok resolution) :
    ∃ selection : Selection, selection.resolve registry = .ok resolution := by
  cases fetched : source.fetch with
  | error failure =>
    rw [load_of_failure fetched] at loaded
    cases loaded
  | ok selection =>
    rw [load_of_fetch fetched] at loaded
    cases resolved : selection.resolve registry with
    | error error =>
      rw [resolved] at loaded
      cases loaded
    | ok other =>
      rw [resolved] at loaded
      cases loaded
      exact ⟨selection, resolved⟩

/-- A resolution that has been loaded has exactly one list. -/
theorem exists_mode?_of_load (loaded : (source.load registry).value = .ok resolution) :
    ∃ mode, resolution.selection.mode? = .ok mode := by
  obtain ⟨selection, resolved⟩ := exists_resolve_of_load loaded
  rw [Selection.selection_of_resolve resolved]
  exact Selection.exists_mode?_of_resolve resolved

theorem isEmpty_iff_of_load (loaded : (source.load registry).value = .ok resolution) :
    resolution.isEmpty = true ↔ resolution.size = 0 := by
  obtain ⟨selection, resolved⟩ := exists_resolve_of_load loaded
  exact Resolution.isEmpty_iff_of_resolve resolved

end Source

namespace CommandLine

open Execution

/-! ### From a settings file to a resolution -/

/-- The settings to work with, and where the selection comes from: a settings file has both, and without one there are
the default settings and the local default selection. -/
inductive Provides (files : Files) : Option String → Settings → Source → Prop where
  | default : Provides files none .default .localDefault
  | file {path : String} {bytes : ByteArray} {text : String} {settings : Settings} :
    files path = .ok { bytes, regular := true } → String.fromUTF8? bytes = some text →
    Settings.parse text = .ok settings → Provides files (some path) settings (.ofSettings settings)

/-- Why there is no resolution. -/
inductive Refuses (files : Files) : Option String → CommandError → Prop where
  | noFile {path : String} {problem : FileProblem} : files path = .error problem →
    (∀ reason, problem ≠ .unreadable reason) → Refuses files (some path) (.noSettings path)
  | notRegular {path : String} {bytes : ByteArray} : files path = .ok { bytes, regular := false } →
    Refuses files (some path) (.noSettings path)
  | unreadable {path reason : String} : files path = .error (.unreadable reason) →
    Refuses files (some path) (.failed (.settingsUnreadable path (.unreadable reason)))
  | notText {path : String} {bytes : ByteArray} : files path = .ok { bytes, regular := true } →
    String.fromUTF8? bytes = none → Refuses files (some path) (.failed (.settingsUnreadable path .notText))
  | malformed {path : String} {bytes : ByteArray} {text : String} {failure : Failure} :
    files path = .ok { bytes, regular := true } → String.fromUTF8? bytes = some text →
    Settings.parse text = .error failure → Refuses files (some path) (.failed failure)
  | unresolved {config : Option String} {settings : Settings} {source : Source} {failure : Failure} :
    Provides files config settings source → (source.load settings.registry).value = .error failure →
    Refuses files config (.failed failure)

/-- What looking for a resolution may come to. -/
inductive Resolves (files : Files) (config : Option String) : Except CommandError Resolution → Prop where
  | refused {error : CommandError} : Refuses files config error → Resolves files config (.error error)
  | resolved {settings : Settings} {source : Source} {resolution : Resolution} :
    Provides files config settings source → (source.load settings.registry).value = .ok resolution →
    Resolves files config (.ok resolution)

section

variable {files : Files} {path : String} {config : Option String}

private theorem result_of_no_file (missing : isFile files path = false) :
    (resolution files (some path)).result = .error (.noSettings path) := by
  have failed : settingsAt files (some path) = .fail (.noSettings path) := by
    rw [settingsAt, if_neg (by simp [missing])]
  rw [resolution, failed]
  rfl

private theorem settingsAt_of_file (regular : isFile files path = true) :
    settingsAt files (some path) = ofLogged (Settings.load files path) := by
  rw [settingsAt, if_pos regular]

private theorem result_of_failure {failure : Failure} (regular : isFile files path = true)
    (failed : (Settings.load files path).value = .error failure) :
    (resolution files (some path)).result = .error (.failed failure) := by
  rw [resolution, settingsAt_of_file regular, bind_of_error (by rw [ofLogged, failed]; rfl)]

private theorem load_of_text {bytes : ByteArray} {text : String} (found : files path = .ok { bytes, regular := true })
    (decoded : String.fromUTF8? bytes = some text) : (Settings.load files path).value = Settings.parse text := by
  simp only [Settings.load, Settings.readText, found, bind, Except.bind, decoded]
  rfl

private theorem load_of_no_text {bytes : ByteArray} (found : files path = .ok { bytes, regular := true })
    (undecoded : String.fromUTF8? bytes = none) :
    (Settings.load files path).value = .error (.settingsUnreadable path .notText) := by
  simp only [Settings.load, Settings.readText, found, bind, Except.bind, undecoded]
  rfl

theorem Provides.result_eq {settings : Settings} {source : Source} (provides : Provides files config settings source) :
    (resolution files config).result = (source.load settings.registry).value.mapError .failed := by
  cases provides with
  | default => rfl
  | @file path bytes text settings found decoded parsed =>
    have ok : (settingsAt files (some path)).result = .ok settings := by
      rw [settingsAt_of_file (by rw [isFile, found]), ofLogged, load_of_text found decoded, parsed]
      rfl
    rw [resolution, bind_of_ok ok]
    rfl

theorem Refuses.result_eq {error : CommandError} (refuses : Refuses files config error) :
    (resolution files config).result = .error error := by
  cases refuses with
  | @noFile path problem found readable =>
    refine result_of_no_file ?_
    rw [isFile, found]
    -- a file that is there and cannot be read is refused later, while it is loaded
    cases problem with
    | unreadable reason => exact absurd rfl (readable reason)
    | _ => rfl
  | notRegular found => exact result_of_no_file (by rw [isFile, found])
  | unreadable found =>
    refine result_of_failure (by rw [isFile, found]) ?_
    rw [Settings.load, Settings.readText, found]
    rfl
  | notText found undecoded => exact result_of_failure (by rw [isFile, found]) (load_of_no_text found undecoded)
  | malformed found decoded failed =>
    exact result_of_failure (by rw [isFile, found]) (by rw [load_of_text found decoded, failed])
  | unresolved provides failed =>
    rw [provides.result_eq, failed]
    rfl

/-- There is one outcome at most, and it is that of the program. -/
theorem Resolves.result_eq {outcome : Except CommandError Resolution} (resolves : Resolves files config outcome) :
    (resolution files config).result = outcome := by
  cases resolves with
  | refused refuses => exact refuses.result_eq
  | resolved provides loaded =>
    rw [provides.result_eq, loaded]
    rfl

theorem Resolves.unique {outcome other : Except CommandError Resolution} (resolves : Resolves files config outcome)
    (resolves' : Resolves files config other) : outcome = other :=
  resolves.result_eq.symm.trans resolves'.result_eq

end

theorem refuses_or_provides (files : Files) (config : Option String) :
    (∃ error, Refuses files config error) ∨ ∃ settings source, Provides files config settings source := by
  cases config with
  | none => exact .inr ⟨_, _, .default⟩
  | some path =>
    cases found : files path with
    | error problem =>
      left
      cases problem with
      | unreadable reason => exact ⟨_, .unreadable found⟩
      | _ => exact ⟨_, .noFile found nofun⟩
    | ok file =>
      obtain ⟨bytes, _ | _⟩ := file
      · exact .inl ⟨_, .notRegular found⟩
      · cases decoded : String.fromUTF8? bytes with
        | none => exact .inl ⟨_, .notText found decoded⟩
        | some text =>
          cases parsed : Settings.parse text with
          | error failure => exact .inl ⟨_, .malformed found decoded parsed⟩
          | ok settings => exact .inr ⟨_, _, .file found decoded parsed⟩

/-- There is always an outcome. -/
theorem resolves_result (files : Files) (config : Option String) :
    Resolves files config (resolution files config).result := by
  rcases refuses_or_provides files config with ⟨error, refuses⟩ | ⟨settings, source, provides⟩
  · rw [refuses.result_eq]
    exact .refused refuses
  · cases loaded : (source.load settings.registry).value with
    | error failure =>
      have refuses : Refuses files config (.failed failure) := .unresolved provides loaded
      rw [refuses.result_eq]
      exact .refused refuses
    | ok resolution =>
      rw [provides.result_eq, loaded]
      exact .resolved provides loaded

theorem silent_settingsAt (files : Files) (config : Option String) : (settingsAt files config).Silent := by
  cases config with
  | none => exact silent_pure _
  | some path =>
    rw [settingsAt]
    split
    · exact silent_ofLogged _
    · exact silent_fail _

/-- On the way to a resolution nothing is printed. -/
theorem silent_resolution (files : Files) (config : Option String) : (resolution files config).Silent := by
  refine (silent_settingsAt files config).bind fun settings => ?_
  split
  · exact silent_ofLogged _
  · exact (silent_log _).bind fun _ => silent_ofLogged _

/-! ### Runs -/

/-- Log lines, each with a time of its own, and nothing else. -/
def IsLog (text : String) : Prop :=
  ∃ lines : List (String × Event), text = String.join (lines.map fun line => logLine line.1 line.2)

theorem isLog_logLines (stamp : Nat → String) (filter : LogFilter) (events : List Event) :
    IsLog (logLines stamp filter events) := by
  refine ⟨(events.filter filter.shows).zipIdx.map fun line => (stamp line.2, line.1), ?_⟩
  rw [logLines, List.map_map]
  rfl

/-- A run has failed: it has printed nothing, and the line of an error comes after what it has logged. -/
structure Outcome.Fails (outcome : Outcome) (errorLine : String) : Prop where
  code_eq : outcome.code = 1
  stdout_eq : outcome.stdout = ""
  stderr_eq : ∃ log, IsLog log ∧ outcome.stderr = log ++ errorLine

/-- A run has succeeded: it has printed a text and explained nothing. -/
structure Outcome.Prints (outcome : Outcome) (text : String) : Prop where
  code_eq : outcome.code = 0
  stdout_eq : outcome.stdout = text
  isLog : IsLog outcome.stderr

section

variable {surroundings : Surroundings} {arguments : List String} {verbose json : Bool} {config : Option String}

theorem run_of_error
    (asked : Arguments.parse surroundings.configVariable arguments = .ok { verbose, command := .resolve config json })
    {error : CommandError} (failed : (resolution surroundings.files config).result = .error error) :
    (run surroundings arguments).Fails (surroundings.errorLine error) := by
  have silent : (resolution surroundings.files config).printed = "" := silent_resolution _ _
  have ran : (Command.resolve config json).run surroundings.colours surroundings.files =
      { result := .error error, events := (resolution surroundings.files config).events, printed := "" } := by
    rw [Command.run, bind_of_error failed, silent]
  rw [run, asked]
  simp only [ran]
  exact { code_eq := rfl, stdout_eq := rfl, stderr_eq := ⟨_, isLog_logLines _ _ _, rfl⟩ }

theorem run_of_ok
    (asked : Arguments.parse surroundings.configVariable arguments = .ok { verbose, command := .resolve config json })
    {resolved : Resolution} (ok : (resolution surroundings.files config).result = .ok resolved) {text : String}
    (shown : showResolution surroundings.colours json resolved = print text) :
    (run surroundings arguments).Prints text := by
  have silent : (resolution surroundings.files config).printed = "" := silent_resolution _ _
  have ran : (Command.resolve config json).run surroundings.colours surroundings.files =
      { result := .ok (), events := (resolution surroundings.files config).events, printed := text } := by
    rw [Command.run, bind_of_ok ok, shown, silent, print, List.append_nil, String.empty_append]
  rw [run, asked]
  simp only [ran]
  exact { code_eq := rfl, stdout_eq := rfl, isLog := isLog_logLines _ _ _ }

end

/-! ### The two modes -/

/-- Two runs have succeeded and printed one resolution, as a report and as a JSON text. -/
structure PrintBoth (plain json : Outcome) (colours : Bool) (resolved : Resolution) : Prop where
  codes_eq : plain.code = 0 ∧ json.code = 0
  areLogs : IsLog plain.stderr ∧ IsLog json.stderr
  reads : Reader.resolution.ofJsonStream json.stdout = .ok resolved ∧
    Reader.resolution.ofJsonText json.stdout = .ok resolved
  /-- A list is in force, so looking for it does not fail. -/
  exists_mode? : ∃ mode, resolved.selection.mode? = .ok mode
  /-- All that the report does is to print this text. -/
  report_eq : report colours resolved = print plain.stdout
  exists_lines : colours = false → ∃ lines, plain.stdout = ofLines lines ∧ Reports resolved lines ∧
    ("No pipelines enabled." ∈ lines ↔ resolved.size = 0)

private theorem printBoth_of_prints {plain json : Outcome} {colours : Bool} {resolved : Resolution} {mode : Mode}
    (inForce : resolved.selection.mode? = .ok mode) (agree : resolved.isEmpty = true ↔ resolved.size = 0)
    (plainPrints : plain.Prints (ofLines (reportLines colours resolved mode)))
    (jsonPrints : json.Prints (resolved.toJson.toPrettyText ++ "\n")) : PrintBoth plain json colours resolved where
  codes_eq := ⟨plainPrints.code_eq, jsonPrints.code_eq⟩
  areLogs := ⟨plainPrints.isLog, jsonPrints.isLog⟩
  reads := by
    have newline : JsonParser.AllBlank "\n".toList := by simp [JsonParser.AllBlank, JsonParser.isBlank]
    rw [jsonPrints.stdout_eq]
    exact inverts_resolution.reads_append (by simp [Json.writings]) newline
  exists_mode? := ⟨mode, inForce⟩
  report_eq := by rw [plainPrints.stdout_eq, report_eq colours inForce, printLines_eq]
  exists_lines := by
    rintro rfl
    have reports := reports_reportLines inForce agree
    exact ⟨_, plainPrints.stdout_eq, reports, reports.nothing_iff⟩

/-- Asked for a report or for a JSON text, at whatever times, the program fails with the same line and prints nothing,
or it prints the same resolution, which is the one of the settings file, or of the local default selection without a
file. -/
theorem resolve_modes_agree (surroundings : Surroundings) (stamp : Nat → String) {verbose verbose' : Bool}
    {config : Option String} {plain json : List String}
    (asksReport : Arguments.parse surroundings.configVariable plain =
      .ok { verbose, command := .resolve config false })
    (asksJson : Arguments.parse surroundings.configVariable json =
      .ok { verbose := verbose', command := .resolve config true }) :
    (∃ error, Refuses surroundings.files config error ∧
      (run surroundings plain).Fails (surroundings.errorLine error) ∧
      (run { surroundings with stamp } json).Fails (surroundings.errorLine error)) ∨
    ∃ settings source resolved, Provides surroundings.files config settings source ∧
      (source.load settings.registry).value = .ok resolved ∧
      PrintBoth (run surroundings plain) (run { surroundings with stamp } json) surroundings.colours resolved := by
  let later : Surroundings := { surroundings with stamp }
  have asksJson : Arguments.parse later.configVariable json =
    .ok { verbose := verbose', command := .resolve config true } := asksJson
  -- both runs look into the same files, and part only when they show what they have found
  have resolves := resolves_result surroundings.files config
  generalize result : (resolution surroundings.files config).result = outcome at resolves
  cases resolves with
  | @refused error refuses =>
    left
    exact ⟨error, refuses, run_of_error asksReport result, run_of_error asksJson result⟩
  | @resolved settings source resolved provides loaded =>
    right
    obtain ⟨mode, inForce⟩ := Source.exists_mode?_of_load loaded
    have reported : showResolution surroundings.colours false resolved =
        print (ofLines (reportLines surroundings.colours resolved mode)) :=
      (report_eq surroundings.colours inForce).trans (printLines_eq _)
    refine ⟨settings, source, resolved, provides, loaded, ?_⟩
    exact printBoth_of_prints inForce (Source.isEmpty_iff_of_load loaded) (run_of_ok asksReport result reported)
      (run_of_ok asksJson result rfl)

/-- An argument names a file that denies a pipeline, and a variable names a file that is not there. -/
theorem resolve_modes_agree_sample :
    let text := "selection.deny=[\"pods.v1.\"]"
    let surroundings : Surroundings := {
      environment := [("WATCHLIST_CONFIG", "absent")], terminal := false, errorTerminal := false
      files := fun path => if path = "here" then .ok { bytes := text.toUTF8, regular := true } else .error .notFound
      stamp := fun number => "11:59:0" ++ toString number ++ " " }
    let later : Surroundings := { surroundings with stamp := fun number => "12:00:0" ++ toString number ++ " " }
    (∃ resolved, resolved.denyList = ["pods.v1."] ∧
      PrintBoth (run surroundings ["resolve", "-v", "-c", "here"])
        (run later ["resolve", "--json", "--config=here"]) false resolved) ∧
    (run surroundings ["resolve", "-v"]).Fails "error: Settings file not found: absent\n" ∧
    (run later ["resolve", "--json"]).Fails "error: Settings file not found: absent\n" := by
  intro text surroundings later
  let settings : Settings := { Settings.default with selection := .ofDeny ["pods.v1."] }
  have parsed : Settings.parse text = .ok settings := by decide +kernel
  constructor
  · have asksReport : Arguments.parse surroundings.configVariable ["resolve", "-v", "-c", "here"] =
        .ok { verbose := true, command := .resolve (some "here") false } := rfl
    have asksJson : Arguments.parse surroundings.configVariable ["resolve", "--json", "--config=here"] =
        .ok { verbose := false, command := .resolve (some "here") true } := rfl
    obtain ⟨resolved, ok, _⟩ := Selection.resolve_ofDeny settings.registry (List.cons_ne_nil "pods.v1." [])
    have fetched : (Source.ofSettings settings).fetch = .ok (.ofDeny ["pods.v1."]) := rfl
    have here : Resolves surroundings.files (some "here") (.ok resolved) := by
      refine .resolved (.file rfl (fromUTF8?_toUTF8 text) parsed) ?_
      rw [Source.load_of_fetch fetched, ok]
      rfl
    rcases resolve_modes_agree surroundings later.stamp asksReport asksJson with
      ⟨error, refuses, _⟩ | ⟨settings', source, resolved', provides', loaded, both⟩
    · cases here.unique (.refused refuses)
    · cases here.unique (.resolved provides' loaded)
      exact ⟨resolved, congrArg Selection.deny (Selection.selection_of_resolve ok), both⟩
  · have asksReport : Arguments.parse surroundings.configVariable ["resolve", "-v"] =
        .ok { verbose := true, command := .resolve (some "absent") false } := rfl
    have asksJson : Arguments.parse surroundings.configVariable ["resolve", "--json"] =
        .ok { verbose := false, command := .resolve (some "absent") true } := rfl
    have absent : Resolves surroundings.files (some "absent") (.error (.noSettings "absent")) :=
      .refused (.noFile rfl nofun)
    rcases resolve_modes_agree surroundings later.stamp asksReport asksJson with
      ⟨error, refuses, fails⟩ | ⟨settings, source, resolved, provides, loaded, _⟩
    · cases absent.unique (.refused refuses)
      exact fails
    · cases absent.unique (.resolved provides loaded)

end CommandLine

end PipelineSelection
