import EntityResolution.Proofs.CommandLine.Compact

/-!
# The variable for the file of records

A command line may leave open where the records are.  Then the environment may say it in a variable,
and what the variable says counts as the value of the option does: any text but the empty one is a
path, also a text of blanks only, and the empty one is refused.  But the places of files treat a
blank variable as if it were not there, and so does the order in which they are asked: the command
line, then the environment, then the settings.

* `ofArguments_variable`: what the variable makes of a command line, told by what the command line
  says without it.
* `recordFile?_variable`: the file of records with the variable and without it.  The two are the
  same only if the variable repeats what holds without it.
* `blank_variable_counts`: a variable with a blank in it leads away from the file of the settings.
-/

namespace EntityResolution.CommandLine

/-- The request when the environment names a file of records: the name counts when no option gives
one, and must not be empty. -/
def Request.named (request : Request) (text : String) : Except Stop Request :=
  match request.cacheFile with
  | some _ => .ok request
  | none => if text = "" then .error .misuse else .ok { request with cacheFile := some ⟨text⟩ }

/-- The request of a command, once its words and the options of the program are read. -/
def Reading.requested (r : Reading) (cacheVariable : Option String) (name : CommandName)
    (inner : Reading) : Except Stop Request :=
  let cacheFile := (r.value? .cacheFile).or cacheVariable
  if cacheFile = some "" then .error .misuse
  else .ok ⟨(r.value? .settingsFile).map Path.mk, cacheFile.map Path.mk, name.request inner⟩

theorem Reading.requested_variable (r : Reading) (text : String) (name : CommandName)
    (inner : Reading) :
    r.requested (some text) name inner = r.requested none name inner >>= (·.named text) := by
  rw [requested, requested]
  cases hv : r.value? .cacheFile with
  | some value =>
      rw [Option.some_or, Option.some_or]
      split <;> rfl
  | none =>
      simp only [Option.none_or, Option.some.injEq, reduceCtorEq, if_false]
      rfl

/-- What happens at the first word. -/
theorem readRequest_word {r r' : Reading} {s word : String}
    (h : Scope.program.read r s = .ok (r', some word)) (cacheVariable : Option String)
    (rest : List String) :
    readRequest cacheVariable r (s :: rest) =
      if r'.wordsOnly then .error .misuse
      else if word = "help" then .error (pageOf rest)
      else
        match CommandName.ofText? word with
        | none => .error .misuse
        | some name =>
          (Scope.command name).readAll {} rest >>= fun inner =>
            r'.settle .program >>= fun r => r.requested cacheVariable name inner := by
  rw [readRequest, h]
  split
  · next hwords => simp [hwords, bind, Except.bind, throw, throwThe, MonadExceptOf.throw]
  next hwords =>
  split
  · next hhelp =>
    simp [hwords, hhelp, bind, Except.bind, throw, throwThe, MonadExceptOf.throw]
  next hhelp =>
  simp only [hwords, hhelp, bind, Except.bind]
  rfl

theorem readRequest_variable (text : String) (r : Reading) (arguments : List String) :
    readRequest (some text) r arguments = readRequest none r arguments >>= (·.named text) := by
  induction arguments generalizing r with
  | nil => rfl
  | cons s rest ih =>
      cases h : Scope.program.read r s with
      | error stop => simp only [readRequest, h, bind, Except.bind]
      | ok result =>
          obtain ⟨r', word?⟩ := result
          cases word? with
          | none => 
              simp only [readRequest, h, bind, Except.bind]
              exact ih r'
          | some word =>
              rw [readRequest_word h, readRequest_word h]
              split
              · rfl
              split
              · rfl
              cases CommandName.ofText? word with
              | none => rfl
              | some name =>
                  dsimp only
                  cases (Scope.command name).readAll {} rest with
                  | error stop => rfl
                  | ok inner =>
                      cases r'.settle .program with
                      | error stop => rfl
                      | ok r => exact r.requested_variable text name inner

/-- **What the variable makes of a command line.** -/
theorem ofArguments_variable (text : String) (arguments : List String) :
    Request.ofArguments (some text) arguments =
      Request.ofArguments none arguments >>= (·.named text) :=
  readRequest_variable text {} arguments

namespace Surroundings

/-- The same surroundings with another value of the variable, or without it. -/
def withVariable (s : Surroundings) (value? : Option String) : Surroundings :=
  { s with environment := { s.environment with cacheFile := value? } }

/-- The file of records that a command line is about, if it gets as far as to know. -/
def recordFile? (s : Surroundings) (arguments : List String) : Option Path :=
  match Request.ofArguments s.environment.cacheFile arguments with
  | .error _ => none
  | .ok request =>
    match s.loadSettings request with
    | .error _ => none
    | .ok settings => some (s.cachePath request settings)

variable {s : Surroundings} {arguments : List String} {request : Request} {settings : Settings}

theorem recordFile?_of_request
    (h : Request.ofArguments s.environment.cacheFile arguments = .ok request)
    (hs : s.loadSettings request = .ok settings) :
    s.recordFile? arguments = some (s.cachePath request settings) := by
  simp only [recordFile?, h, hs]

/-- What a request does depends on the surroundings through the files and the place of the
records. -/
theorem perform_congr {s' : Surroundings} {request' : Request} (hfiles : s'.files = s.files)
    (hcommand : request'.command = request.command)
    (hpath : s'.cachePath request' settings = s.cachePath request settings) :
    s'.perform request' settings = s.perform request settings := by
  have hstore : s'.store request' settings = s.store request settings :=
    congrArg (fun path : Path => ({ target := path.route } : Store)) hpath
  unfold perform
  rw [hstore, hpath, hfiles, hcommand]

theorem run_congr {s' : Surroundings} {request' : Request}
    (h : Request.ofArguments s.environment.cacheFile arguments = .ok request)
    (h' : Request.ofArguments s'.environment.cacheFile arguments = .ok request')
    (hs : s.loadSettings request = .ok settings) (hs' : s'.loadSettings request' = .ok settings)
    (hlog : s'.environment.logFilter = s.environment.logFilter) (hfiles : s'.files = s.files)
    (hperform : s'.perform request' settings = s.perform request settings) :
    s'.run arguments = s.run arguments := by
  simp only [run, h, h', hs, hs', hlog, hfiles, hperform]

/-- Without the variable and without an option the settings say where the records are. -/
theorem cachePath_unset (s : Surroundings) (settings : Settings)
    (hfile : request.cacheFile = none) :
    (s.withVariable none).cachePath request settings =
      settings.cacheFile.getD s.environment.defaultCacheFile := by
  rw [cachePath, hfile]
  rfl

/-- A path that is not empty goes before everything else. -/
theorem cachePath_given (s : Surroundings) (request : Request) (settings : Settings) {text : String}
    (h : text ≠ "") : s.cachePath { request with cacheFile := some ⟨text⟩ } settings = ⟨text⟩ := by
  simp [cachePath, Environment.cacheFileFor, Option.filter, h]

/-- The order of places passes a blank variable over. -/
theorem cacheFileFor_blank (s : Surroundings) (settings : Settings) {text : String}
    (h : Text.AllBlank text.toList) :
    (s.withVariable (some text)).environment.cacheFileFor none settings =
      settings.cacheFile.getD s.environment.defaultCacheFile := by
  have hno : (some text).filter (fun t => ¬Text.AllBlank t.toList) = none := by
    simp [Option.filter, h]
  simp only [withVariable, Environment.cacheFileFor, hno]
  rfl

/-- **The file of records with the variable and without it**, when no option names one.  Without it
the settings say where the file is, or the default does.  With it the text is the path, whether it
is blank or not, but the empty text ends the run as misuse.  So the variable makes no difference
only if it repeats what holds without it; then the whole run is the same.  Asked by itself, the order
of places passes a blank variable over. -/
theorem recordFile?_variable (hrequest : Request.ofArguments none arguments = .ok request)
    (hfile : request.cacheFile = none) (hsettings : s.loadSettings request = .ok settings)
    (text : String) :
    let otherwise := settings.cacheFile.getD s.environment.defaultCacheFile
    (s.withVariable none).recordFile? arguments = some otherwise ∧
      (text = "" → (s.withVariable (some text)).run arguments = ⟨[], .misused, s.files⟩) ∧
      (text ≠ "" → (s.withVariable (some text)).recordFile? arguments = some ⟨text⟩) ∧
      ((s.withVariable (some text)).recordFile? arguments =
          (s.withVariable none).recordFile? arguments ↔ text ≠ "" ∧ otherwise = ⟨text⟩) ∧
      (text ≠ "" ∧ otherwise = ⟨text⟩ →
        (s.withVariable (some text)).run arguments = (s.withVariable none).run arguments) ∧
      (Text.AllBlank text.toList →
        (s.withVariable (some text)).environment.cacheFileFor none settings = otherwise) := by
  intro otherwise
  -- the settings do not hang on the variable
  have hs : (s.withVariable none).loadSettings request = .ok settings := hsettings
  have hpath := s.cachePath_unset settings hfile
  have hunset : (s.withVariable none).recordFile? arguments = some otherwise :=
    (recordFile?_of_request hrequest hs).trans (congrArg some hpath)
  have hargs := ofArguments_variable text arguments
  rw [hrequest] at hargs
  by_cases htext : text = ""
  · -- the empty text is refused, so there is no file
    have hrefused : Request.ofArguments (some text) arguments = .error .misuse := by
      rw [hargs]
      simp [bind, Except.bind, Request.named, hfile, htext]
    have hnone : (s.withVariable (some text)).recordFile? arguments = none := by
      simp only [recordFile?, withVariable, hrefused]
    refine ⟨hunset, fun _ => ?_, fun h => absurd htext h, ?_, fun h => absurd htext h.1,
      s.cacheFileFor_blank settings⟩
    · simp only [run, withVariable, hrefused]
    · rw [hnone, hunset]
      simp [htext]
  · have hnamed : Request.ofArguments (some text) arguments =
        .ok { request with cacheFile := some ⟨text⟩ } := by
      rw [hargs]
      simp [bind, Except.bind, Request.named, hfile, htext]
    have hs' : (s.withVariable (some text)).loadSettings
        { request with cacheFile := some ⟨text⟩ } = .ok settings := hsettings
    have hpath' := (s.withVariable (some text)).cachePath_given request settings htext
    have hgiven : (s.withVariable (some text)).recordFile? arguments = some ⟨text⟩ :=
      (recordFile?_of_request hnamed hs').trans (congrArg some hpath')
    refine ⟨hunset, fun h => absurd h htext, fun _ => hgiven, ?_, fun h => ?_,
      s.cacheFileFor_blank settings⟩
    · rw [hgiven, hunset]
      simp [htext, eq_comm]
    · -- both runs load the same settings, and then go to the same place
      have hsame : (s.withVariable (some text)).perform
          { request with cacheFile := some ⟨text⟩ } settings =
            (s.withVariable none).perform request settings :=
        perform_congr rfl rfl (hpath'.trans (h.2.symm.trans hpath.symm))
      exact run_congr hrequest hnamed hs hs' rfl rfl hsame

/-- Settings that say where the records are, and the records there. -/
def drawer : Surroundings where
  environment := {}
  files := (FileTree.set {} ["c.toml"]
    (.file (Utf8.encode "cache_file = \"c.jsonl\"\n".toList))).set ["c.jsonl"] (.file cabinetFile)

/-- A command line that leaves open where the records are. -/
def drawerStats : List String := ["-c", "c.toml", "stats"]

/-- A variable with a blank in it does not count as unset here. -/
theorem recordFile?_variable_drawer :
    Text.AllBlank " ".toList ∧
      (drawer.withVariable none).recordFile? drawerStats = some ⟨"c.jsonl"⟩ ∧
      (drawer.withVariable (some " ")).recordFile? drawerStats = some ⟨" "⟩ ∧
      (drawer.withVariable (some " ")).environment.cacheFileFor none
        { cacheFile := some ⟨"c.jsonl"⟩ } = ⟨"c.jsonl"⟩ := by
  have hrequest : Request.ofArguments none drawerStats =
      .ok { settingsFile := some ⟨"c.toml"⟩, command := .stats } := by decide +kernel
  have hsettings : drawer.loadSettings { settingsFile := some ⟨"c.toml"⟩, command := .stats } =
      .ok { cacheFile := some ⟨"c.jsonl"⟩ } := by decide +kernel
  have hblank : Text.AllBlank " ".toList := by decide
  obtain ⟨hunset, -, hgiven, -, -, hpassed⟩ :=
    recordFile?_variable hrequest rfl hsettings " "
  exact ⟨hblank, hunset, hgiven (by decide), hpassed hblank⟩

/-- **A blank variable counts.**  One with a blank in it leads away from the file that the settings
name, so that the program finds no records; an empty one ends the program before it looks for
any. -/
theorem blank_variable_counts :
    Text.AllBlank " ".toList ∧ Text.AllBlank "".toList ∧
      ((drawer.withVariable none).run drawerStats).lines.head? = some "records loaded: 3" ∧
      ((drawer.withVariable (some " ")).run drawerStats).lines.head? = some "records loaded: 0" ∧
      ((drawer.withVariable none).run drawerStats).outcome = .done ∧
      ((drawer.withVariable (some "")).run drawerStats).outcome = .misused := by
  decide +kernel

end Surroundings

end EntityResolution.CommandLine
