import NodePolicy.Command.Run
import NodePolicy.Proofs.Normalised
import NodePolicy.Proofs.TextRoundTrip

/-!
The commands on one file. All of them read it in the same way, and what was read can always be
written, so either all succeed or all fail alike. What is printed as the normal form of a file can
be checked in its turn, and is summed up like the file itself: a summary shows nothing that writing
and reading disturb. No other file has a part in it.
-/

namespace NodePolicy.Command

def refusal (path : String) (error : ConfigError) : String :=
  s!"Invalid node config {path} ({error.kind.name}): {error.message}"

/-- Apart from the log, loading a file is reading its bytes. -/
theorem load_result (path : String) (content : List UInt8) :
    (load path (.ok content)).2 = (Config.ofBytes content).mapError (refusal path) := by
  rw [load, Config.ofBytes]
  cases Json.readBytes content with
  | error fault => rfl
  | ok value =>
      show _ = Except.mapError (refusal path) (Config.decode value)
      cases decoded : Config.decode value with
      | error error => simp only [decoded]; rfl
      | ok config => simp only [decoded]; rfl

theorem ofBytes_ok_of_load (path : String) (content : List UInt8) (events : List Event)
    (config : Config) (loaded : load path (.ok content) = (events, .ok config)) :
    Config.ofBytes content = .ok config := by
  have result := load_result path content
  rw [loaded] at result
  exact (mapError_ok_iff _ _ _).mp result.symm

theorem load_of_ofBytes (path : String) (content : List UInt8) (config : Config)
    (described : Config.ofBytes content = .ok config) :
    ∃ events, load path (.ok content) = (events, .ok config) := by
  have result := load_result path content
  rw [described] at result
  exact ⟨_, Prod.ext rfl result⟩

section Request
variable (read : String → Except FileError (List UInt8)) (path : String) (content : List UInt8)
  (readable : read path = .ok content) (events : List Event)
include readable

theorem check_ok (config : Config) (loaded : load path (.ok content) = (events, .ok config)) :
    (perform read (.check path)).2 = .ok (summary config) := by
  simp only [perform, readable, loaded]
  rfl

theorem normalize_ok (indented : Bool) (config : Config) (value : Json)
    (loaded : load path (.ok content) = (events, .ok config))
    (written : config.encode = .ok value) :
    (perform read (.normalize indented path)).2 =
      .ok (if indented then value.indented else value.compact) := by
  obtain ⟨members, encoded, same⟩ := (bind_ok_iff _ _ _).mp written
  cases (pure_ok_iff _ _).mp same
  simp only [perform, readable, loaded, document, encoded]

theorem check_error (message : String)
    (loaded : load path (.ok content) = (events, .error message)) :
    (perform read (.check path)).2 = .error message := by
  simp only [perform, readable, loaded]
  rfl

/-- A file that cannot be loaded has one outcome for every command. -/
theorem normalize_error (indented : Bool) (message : String)
    (loaded : load path (.ok content) = (events, .error message)) :
    perform read (.normalize indented path) = perform read (.check path) := by
  simp only [perform, readable, loaded]
  rfl

end Request

section Run
variable (environment : Environment) (assignments : List EnvFile.Assignment)
  (read : String → Except FileError (List UInt8))

theorem run_ok (arguments : List String) (request : Request) (line : String)
    (asked : Request.ofArguments arguments = .ok request)
    (performed : (perform read request).2 = .ok line) :
    (run environment assignments read arguments).code = 0 ∧
      (run environment assignments read arguments).output = line ++ "\n" := by
  simp only [run, asked, performed, and_self]

theorem run_error (arguments : List String) (request : Request) (message : String)
    (asked : Request.ofArguments arguments = .ok request)
    (performed : (perform read request).2 = .error message) :
    (run environment assignments read arguments).code = 1 ∧
      (run environment assignments read arguments).output = "" := by
  simp only [run, asked, performed, and_self]

theorem run_congr (other : String → Except FileError (List UInt8)) (first second : List String)
    (one two : Request) (asks : Request.ofArguments first = .ok one)
    (asksToo : Request.ofArguments second = .ok two)
    (same : perform read one = perform other two) :
    run environment assignments read first = run environment assignments other second := by
  simp only [run, asks, asksToo, same]

theorem perform_reads (other : String → Except FileError (List UInt8)) (request : Request)
    (same : ∀ path ∈ request.path?, read path = other path) :
    perform read request = perform other request := by
  cases request with
  | check path => simp only [perform, same path rfl]
  | normalize indented path => simp only [perform, same path rfl]
  | duration text => rfl

/-- A run looks at no file but the one that it is asked to read, so that one can be read before the
run. -/
theorem run_reads (other : String → Except FileError (List UInt8)) (arguments : List String)
    (same : ∀ path ∈ requestedPath? arguments, read path = other path) :
    run environment assignments read arguments = run environment assignments other arguments := by
  cases asked : Request.ofArguments arguments with
  | error usage => simp only [run, asked]
  | ok request =>
      rw [requestedPath?, asked] at same
      exact run_congr environment assignments read other arguments arguments request request asked
        asked (perform_reads read other request same)

/-- Of a folder, a run looks at the file of variables and at the file that it is asked to read. -/
theorem runIn_reads (folder other : Folder) (arguments : List String)
    (sameVariables : folder.read EnvFile.fileName = other.read EnvFile.fileName)
    (sameFile : ∀ path ∈ requestedPath? arguments, folder.read path = other.read path) :
    runIn folder environment arguments = runIn other environment arguments := by
  rw [runIn, runIn, sameVariables]
  exact run_reads environment _ folder.read other.read arguments sameFile

example : runIn ⟨[("other.json", [])]⟩ [] ["check", "node.json"] =
    ⟨1, "", "Error: Could not read node.json: No such file or directory (os error 2)\n"⟩ := by
  decide +kernel

end Run

/-- Checking a file of some content prints a summary, whatever surrounds the program. -/
def ChecksAs (content : List UInt8) (output : String) : Prop :=
  ∀ environment assignments read path arguments, read path = .ok content →
    Request.ofArguments arguments = .ok (.check path) →
    (run environment assignments read arguments).code = 0 ∧
      (run environment assignments read arguments).output = output

theorem checksAs_summary (content : List UInt8) (config : Config)
    (described : Config.ofBytes content = .ok config) :
    ChecksAs content (summary config ++ "\n") := by
  intro environment assignments read path arguments readable asked
  obtain ⟨events, loaded⟩ := load_of_ofBytes path content config described
  exact run_ok environment assignments read arguments _ _ asked
    (check_ok read path content readable events config loaded)

theorem summary_reread (change : Binary64 → Binary64) (config : Config) :
    summary (config.mapPercentages change).floored = summary config := by
  obtain ⟨version, nodeType, priority, devices, resources, labels, alertRules⟩ := config
  cases alertRules <;> rfl

theorem bytes_line (text : List Char) :
    (String.ofList text ++ "\n").toByteArray.data.toList = Json.bytes (text ++ ['\n']) := by
  have line : String.ofList text ++ "\n" = String.ofList (text ++ ['\n']) :=
    (String.ofList_append ..).symm
  rw [line, Json.bytes_ofList]

/-- Both forms of what was loaded can be written, and a file of either with a line end behind it is
summed up as the first file was. -/
theorem written_checksAs (content : List UInt8) (config : Config)
    (described : Config.ofBytes content = .ok config) :
    ∃ value, config.encode = .ok value ∧ ∀ indented : Bool,
      ChecksAs
        ((if indented then value.indented else value.compact) ++ "\n").toByteArray.data.toList
        (summary config ++ "\n") := by
  obtain ⟨document, _, decoded⟩ := (bind_ok_iff _ _ _).mp described
  have finite := Schema.finite_of_isConfig document config
    (Decode.admitted_of_decode document config decoded)
  obtain ⟨value, written, reread⟩ := Config.ofBytes_written config finite
  have lineEnd : Json.Blank ['\n'] := by
    intro c member
    exact Or.inr (List.mem_singleton.mp member)
  have checked : ∀ layout : Json.Layout,
      ChecksAs (Json.bytes (layout.write 0 value ++ ['\n'])) (summary config ++ "\n") := by
    intro layout
    rw [← summary_reread Binary64.reread config]
    exact checksAs_summary _ _ (reread layout ['\n'] lineEnd)
  refine ⟨value, written, fun indented => ?_⟩
  cases indented with
  | false =>
      have line := bytes_line (Json.Layout.compact.write 0 value)
      exact line ▸ checked Json.Layout.compact
  | true =>
      have line := bytes_line (Json.Layout.indented.write 0 value)
      exact line ▸ checked Json.Layout.indented

/-- On a file that can be read, checking and both forms of normalising either have the same failed
outcome, or all succeed. Then what normalising prints is the content of a file that checking sums up
in the same line. -/
theorem commands_agree (environment : Environment) (assignments : List EnvFile.Assignment)
    (read : String → Except FileError (List UInt8)) (path : String) (content : List UInt8)
    (readable : read path = .ok content) (checking compacting indenting : List String)
    (checks : Request.ofArguments checking = .ok (.check path))
    (compacts : Request.ofArguments compacting = .ok (.normalize false path))
    (indents : Request.ofArguments indenting = .ok (.normalize true path)) :
    let outcome := run environment assignments read
    ((outcome checking).code = 1 ∧ (outcome checking).output = "" ∧
        outcome compacting = outcome checking ∧ outcome indenting = outcome checking) ∨
      ((outcome checking).code = 0 ∧ (outcome compacting).code = 0 ∧
        (outcome indenting).code = 0 ∧ ∀ arguments ∈ [compacting, indenting],
          ChecksAs (outcome arguments).output.toByteArray.data.toList
            (outcome checking).output) := by
  intro outcome
  rcases loaded : load path (.ok content) with ⟨events, message | config⟩
  · have same := fun indented => normalize_error read path content readable events indented message
      loaded
    have failed := check_error read path content readable events message loaded
    obtain ⟨code, silent⟩ := run_error environment assignments read checking _ _ checks failed
    exact Or.inl ⟨code, silent,
      run_congr environment assignments read read compacting checking _ _ compacts checks
        (same false),
      run_congr environment assignments read read indenting checking _ _ indents checks
        (same true)⟩
  · obtain ⟨value, written, checked⟩ :=
      written_checksAs content config (ofBytes_ok_of_load path content events config loaded)
    have normalized := fun indented =>
      normalize_ok read path content readable events indented config value loaded written
    obtain ⟨codeCheck, summed⟩ := run_ok environment assignments read checking _ _ checks
      (check_ok read path content readable events config loaded)
    obtain ⟨codeCompact, compact⟩ := run_ok environment assignments read compacting _ _ compacts
      (normalized false)
    obtain ⟨codeIndent, indented⟩ := run_ok environment assignments read indenting _ _ indents
      (normalized true)
    refine Or.inr ⟨codeCheck, codeCompact, codeIndent, ?_⟩
    simp only [List.forall_mem_cons]
    refine ⟨?_, ?_, List.forall_mem_nil _⟩
    · rw [compact, summed]
      exact checked false
    · rw [indented, summed]
      exact checked true

/-- A file with a rule whose time is negative, which normalising leaves out. -/
def negativeTimeFile : List UInt8 := Json.bytes (Json.compactChars Decode.negativeTime)

theorem negativeTimeFile_accepted :
    (run [] [] (fun _ => .ok negativeTimeFile) ["check", "node.json"]).code = 0 := by
  decide +kernel

theorem negativeTimeFile_agree :
    let read : String → Except FileError (List UInt8) := fun _ => .ok negativeTimeFile
    let outcome := run [] [] read
    let checking := ["check", "node.json"]
    let compacting := ["normalize", "node.json"]
    let indenting := ["normalize", "node.json", "--pretty"]
    read "node.json" = .ok negativeTimeFile ∧
      Request.ofArguments checking = .ok (.check "node.json") ∧
      Request.ofArguments compacting = .ok (.normalize false "node.json") ∧
      Request.ofArguments indenting = .ok (.normalize true "node.json") ∧
      (outcome checking).code = 0 ∧
      (((outcome checking).code = 1 ∧ (outcome checking).output = "" ∧
          outcome compacting = outcome checking ∧ outcome indenting = outcome checking) ∨
        ((outcome checking).code = 0 ∧ (outcome compacting).code = 0 ∧
          (outcome indenting).code = 0 ∧ ∀ arguments ∈ [compacting, indenting],
            ChecksAs (outcome arguments).output.toByteArray.data.toList
              (outcome checking).output)) := by
  intro read outcome checking compacting indenting
  have checks : Request.ofArguments checking = .ok (.check "node.json") := rfl
  have compacts : Request.ofArguments compacting = .ok (.normalize false "node.json") := by decide
  have indents : Request.ofArguments indenting = .ok (.normalize true "node.json") := by decide
  exact ⟨rfl, checks, compacts, indents, negativeTimeFile_accepted,
    commands_agree [] [] read "node.json" negativeTimeFile rfl checking compacting indenting checks
      compacts indents⟩

end NodePolicy.Command
