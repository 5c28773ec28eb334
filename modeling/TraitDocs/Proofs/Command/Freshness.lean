import TraitDocs.Command.Execution
import TraitDocs.Proofs.File.Frame
import TraitDocs.Proofs.Readme.Template
import TraitDocs.Proofs.Text.Encoded

/-!
# Checking a document that was just written

Writing the document leaves the settings and the manifest as they are, unless it is written in place
of one of them, so a check right after it generates the same document again. It compares that with
the written one as it is read back, which has no carriage returns: the check calls the document up
to date if no carriage return was generated, and stale if one was.
-/

set_option autoImplicit false

namespace TraitDocs.Command

open File

variable {limits : Json.Limits}

/-! ## What the commands do when they end -/

/-- A generation that stopped does not end with code 0. -/
theorem ending_stopped_ne (t : Tree) (log : List Log.Event) (stop : Stop) :
    (stopped t log stop).ending ≠ .exit 0 := by
  cases stop <;> simp [stopped]

/-- A run that ends with code 0 has generated a document and written it, and does no more. -/
theorem run_of_ending {t : Tree} {settings : Settings} {level : Log.Level} {args : Arguments}
    (hending : (run limits t settings level args).ending = .exit 0) :
    ∃ content, (generate limits t (manifestPath settings args) args.classes).2 = .ok content ∧
      writeDocument t (documentPath settings args) content =
        ((run limits t settings level args).tree, none) := by
  simp only [run] at hending ⊢
  cases hgenerate : (generate limits t (manifestPath settings args) args.classes).2 with
  | error stop =>
    simp only [hgenerate] at hending
    exact absurd hending (ending_stopped_ne _ _ stop)
  | ok content =>
    refine ⟨content, rfl, ?_⟩
    simp only [hgenerate] at hending ⊢
    split at hending
    · cases hending
    · rename_i t' hwrite
      simp only [hwrite]

/-- How a check ends that can generate the document and read the present one. -/
theorem ending_check {t : Tree} {settings : Settings} {level : Log.Level} {args : Arguments}
    {content : String} {actual : List Char}
    (hgenerate : (generate limits t (manifestPath settings args) args.classes).2 = .ok content)
    (hcurrent : currentDocument t (documentPath settings args) = .ok actual) :
    (check limits t settings level args).ending =
      if actual = content.toList then .exit 0 else .exit 1 := by
  simp only [check, hgenerate, hcurrent]
  split <;> rfl

/-- A command line that ends with code 0 had settings and a log level. -/
theorem execute_of_ending {t : Tree} {settings : Settings} {line : List String}
    (hsettings : settingsOf t = .ok settings) (hending : (execute limits t line).ending = .exit 0) :
    ∃ level, levelOf settings = .ok level ∧
      execute limits t line = perform limits t settings level (readLine line) := by
  simp only [execute, hsettings] at hending ⊢
  cases hlevel : levelOf settings with
  | error fault => simp [hlevel] at hending
  | ok level => exact ⟨level, rfl, rfl⟩

/-! ## What the commands read -/

/-- The settings are those of the settings file, if there is one. -/
theorem settingsOf_congr {t t' : Tree}
    (hread : ∀ bytes, t'.read settingsPath = .ok bytes ↔ t.read settingsPath = .ok bytes) :
    settingsOf t' = settingsOf t := by
  unfold settingsOf
  cases hbytes : t.read settingsPath with
  | ok bytes => rw [(hread bytes).mpr hbytes]
  | error fault =>
    cases hbytes' : t'.read settingsPath with
    | ok bytes => exact absurd ((hread bytes).mp hbytes') (by simp [hbytes])
    | error fault' => rfl

/-- A manifest that a document was generated from was read from a file. -/
theorem exists_read_of_generate {t : Tree} {manifest : Path} {classes : List String}
    {content : String} (hgenerate : (generate limits t manifest classes).2 = .ok content) :
    ∃ bytes, t.read manifest = .ok bytes := by
  cases hread : t.read manifest with
  | ok bytes => exact ⟨bytes, rfl⟩
  | error fault => simp [generate, readManifest, hread] at hgenerate

/-- The document shows the records that are collected from the manifest. -/
theorem exists_records_of_generate {t : Tree} {manifest : Path} {classes : List String}
    {content : String} (hgenerate : (generate limits t manifest classes).2 = .ok content) :
    ∃ m records, readManifest limits t manifest = .ok m ∧
      (Catalog.collect m.reflect (if classes.isEmpty then m.classNames else classes)).2 =
        .ok records ∧
      content = Readme.render records Readme.builtInTemplate := by
  unfold generate at hgenerate
  cases hread : readManifest limits t manifest with
  | error stop => simp [hread] at hgenerate
  | ok m =>
    simp only [hread, Catalog.generate] at hgenerate
    cases hcollect :
      (Catalog.collect m.reflect (if classes.isEmpty then m.classNames else classes)).2 with
    | error stop =>
      simp only [hcollect, Except.map] at hgenerate
      cases hgenerate
    | ok records =>
      simp only [hcollect, Except.map, Except.ok.injEq] at hgenerate
      exact ⟨m, records, rfl, hcollect, hgenerate.symm⟩

/-- The document is generated from the manifest alone. -/
theorem generate_congr {t t' : Tree} {manifest : Path} (classes : List String)
    (hread : t'.read manifest = t.read manifest) :
    generate limits t' manifest classes = generate limits t manifest classes := by
  rw [generate, generate, readManifest, readManifest, hread]

/-- Writing a document adds one file, at the place where its path leads. -/
theorem addsFile_of_writeDocument {t t' : Tree} {path : Path} {content : String}
    (hwrite : writeDocument t path content = (t', none)) :
    ∃ l, t'.locate path = .ok l ∧ t.AddsFile t' l (Text.encode content) := by
  have hadds := Tree.addsDirectories_makeDirectories t path.parent
  unfold writeDocument at hwrite
  split at hwrite
  · simp at hwrite
  · rename_i t₁ hmade
    rw [hmade] at hadds
    exact Tree.addsFile_of_write hadds hwrite

/-- Where there is a working directory, the settings file has a place in it. -/
theorem exists_locate_settingsPath {t : Tree}
    (hhere : t.node? t.workingDirectory = some .directory) :
    ∃ l, t.locate settingsPath = .ok l := by
  refine ⟨t.workingDirectory ++ [".env"], ?_⟩
  have hpath : settingsPath = ⟨"", [".env"]⟩ := by decide +kernel
  rw [hpath, Tree.locate, if_neg (by decide +kernel), if_neg (by decide +kernel)]
  rw [if_neg (by decide), Tree.follow, hhere]
  rfl

/-! ## A check after a run -/

section Written

variable {t t' : Tree} {settings : Settings} {args : Arguments} {content : String}

/-- A document just written is read back with line feeds for its line breaks. -/
theorem currentDocument_of_writeDocument {path : Path}
    (hwrite : writeDocument t path content = (t', none)) :
    currentDocument t' path = .ok (Text.unifyBreaks content.toList) := by
  obtain ⟨l, hl, hadds⟩ := addsFile_of_writeDocument hwrite
  have hread : t'.read path = .ok (Text.encode content) :=
    Tree.read_eq_ok_iff.mpr ⟨l, hl, hadds.node?_self⟩
  rw [currentDocument, hread]
  exact Text.decode_encode content

/-- Writing a document elsewhere leaves the settings as they are. -/
theorem settingsOf_of_writeDocument {path : Path}
    (hwrite : writeDocument t path content = (t', none))
    (hhere : t.node? t.workingDirectory = some .directory)
    (helsewhere : t'.locate settingsPath ≠ t'.locate path) : settingsOf t' = settingsOf t := by
  obtain ⟨l, hl, hadds⟩ := addsFile_of_writeDocument hwrite
  obtain ⟨l', hl'⟩ := exists_locate_settingsPath hhere
  exact settingsOf_congr (hadds.read_eq_ok_iff hl' (hl ▸ helsewhere))

/-- Writing a document elsewhere than its manifest leaves what is generated as it is. -/
theorem generate_of_writeDocument {path manifest : Path} {classes : List String}
    {content' : String} (hwrite : writeDocument t path content = (t', none))
    (hgenerate : (generate limits t manifest classes).2 = .ok content')
    (helsewhere : t'.locate manifest ≠ t'.locate path) :
    generate limits t' manifest classes = generate limits t manifest classes := by
  obtain ⟨l, hl, hadds⟩ := addsFile_of_writeDocument hwrite
  obtain ⟨bytes, hread⟩ := exists_read_of_generate hgenerate
  obtain ⟨l', hl', -⟩ := Tree.read_eq_ok_iff.mp hread
  have hread' := (hadds.read_eq_ok_iff hl' (hl ▸ helsewhere) bytes).mpr hread
  exact generate_congr classes (hread'.trans hread.symm)

/-- How a check ends right after the document was written: as up to date if no carriage return was
generated, and as stale if one was. -/
theorem ending_check_of_writeDocument (level : Log.Level)
    (hwrite : writeDocument t (documentPath settings args) content = (t', none))
    (hgenerate : (generate limits t (manifestPath settings args) args.classes).2 = .ok content)
    (helsewhere :
      t'.locate (manifestPath settings args) ≠ t'.locate (documentPath settings args)) :
    (check limits t' settings level args).ending =
      if '\r' ∈ content.toList then .exit 1 else .exit 0 := by
  have hgenerate' := generate_of_writeDocument hwrite hgenerate helsewhere
  rw [ending_check ((congrArg Prod.snd hgenerate').trans hgenerate)
    (currentDocument_of_writeDocument hwrite)]
  simp only [Text.unifyBreaks_eq_self_iff, ite_not]

end Written

/-- Tells whether two commands are about the same classes, the same manifest and the same
document. -/
structure SameMatter (settings : Settings) (args args' : Arguments) : Prop where
  classes_eq : args'.classes = args.classes
  manifestPath_eq : manifestPath settings args' = manifestPath settings args
  documentPath_eq : documentPath settings args' = documentPath settings args

/-- What a check does depends on its arguments only through the matter that they are about. -/
theorem SameMatter.check_eq {settings : Settings} {args args' : Arguments}
    (h : SameMatter settings args args') (t : Tree) (level : Log.Level) :
    check limits t settings level args' = check limits t settings level args := by
  rw [check, check, h.classes_eq, h.manifestPath_eq, h.documentPath_eq]

/-- How a check of the same matter ends on the command line right after the document was written. -/
theorem ending_execute_check {t t' : Tree} {settings : Settings} {level : Log.Level}
    {args args' : Arguments} {content : String} {checkLine : List String}
    (hsettings : settingsOf t = .ok settings) (hlevel : levelOf settings = .ok level)
    (hhere : t.node? t.workingDirectory = some .directory)
    (hcheck : readLine checkLine = .check args') (hsame : SameMatter settings args args')
    (hgenerate : (generate limits t (manifestPath settings args) args.classes).2 = .ok content)
    (hwrite : writeDocument t (documentPath settings args) content = (t', none))
    (hmanifest :
      t'.locate (manifestPath settings args) ≠ t'.locate (documentPath settings args))
    (helsewhere : t'.locate settingsPath ≠ t'.locate (documentPath settings args)) :
    (execute limits t' checkLine).ending = if '\r' ∈ content.toList then .exit 1 else .exit 0 := by
  have hsettings' := settingsOf_of_writeDocument hwrite hhere helsewhere
  simp only [execute, hsettings', hsettings, hlevel, hcheck, perform]
  rw [hsame.check_eq]
  exact ending_check_of_writeDocument level hwrite hgenerate hmanifest

/-- A run that ends with code 0 has generated a document, and a check of the same matter right after
it ends with code 0 exactly if no carriage return was generated, and else with code 1. The document
is written neither in place of the manifest nor of the settings. -/
theorem ending_check_after_run {t : Tree} {settings : Settings} {runLine checkLine : List String}
    {args args' : Arguments} (hsettings : settingsOf t = .ok settings)
    (hhere : t.node? t.workingDirectory = some .directory)
    (hrun : readLine runLine = .run args) (hcheck : readLine checkLine = .check args')
    (hsame : SameMatter settings args args')
    (hending : (execute limits t runLine).ending = .exit 0)
    (hmanifest : (execute limits t runLine).tree.locate (manifestPath settings args) ≠
      (execute limits t runLine).tree.locate (documentPath settings args))
    (helsewhere : (execute limits t runLine).tree.locate settingsPath ≠
      (execute limits t runLine).tree.locate (documentPath settings args)) :
    ∃ content, (generate limits t (manifestPath settings args) args.classes).2 = .ok content ∧
      (execute limits (execute limits t runLine).tree checkLine).ending =
        if '\r' ∈ content.toList then .exit 1 else .exit 0 := by
  obtain ⟨level, hlevel, hexecute⟩ := execute_of_ending hsettings hending
  rw [hexecute, hrun, perform] at hending hmanifest helsewhere ⊢
  obtain ⟨content, hgenerate, hwrite⟩ := run_of_ending hending
  exact ⟨content, hgenerate, ending_execute_check hsettings hlevel hhere hcheck hsame hgenerate
    hwrite hmanifest helsewhere⟩

/-- A working directory with a manifest of one class, whose name has a carriage return. -/
def returnTree : Tree where
  workingDirectory := ["work"]
  nodes := .ofList [
    (["work"], .directory),
    (["work", "readme-manifest.json"], .file (Text.encode
      "\x7b\"classes\": \x7b\"A\\rB\": \x7b\"doc\": \"/**\\n * Does A.\\n */\"\x7d\x7d\x7d"))]

/-- A command line that writes the document into a directory of its own. -/
def runDocs : List String := ["readme", "run", "--out", "docs/README.md"]

/-- The command line that checks that document. -/
def checkDocs : List String := ["readme", "check", "--readme", "docs/README.md"]

/-- What both command lines are about. -/
def docsArguments : Arguments where
  document := some "docs/README.md"

/-- Both command lines are about that document. -/
theorem readLine_docs :
    readLine runDocs = .run docsArguments ∧ readLine checkDocs = .check docsArguments := by
  decide +kernel

/-- The document is written, and neither in place of the manifest nor of the settings. -/
theorem execute_run_returnTree :
    (execute standardLimits returnTree runDocs).ending = .exit 0 ∧
    (execute standardLimits returnTree runDocs).tree.locate (manifestPath .empty docsArguments) ≠
      (execute standardLimits returnTree runDocs).tree.locate (documentPath .empty docsArguments) ∧
    (execute standardLimits returnTree runDocs).tree.locate settingsPath ≠
      (execute standardLimits returnTree runDocs).tree.locate
        (documentPath .empty docsArguments) := by
  decide +kernel

/-- The check after a run on this tree ends as the carriage returns of the document say. -/
theorem check_returnTree_after_run :
    ∃ content,
      (generate standardLimits returnTree (manifestPath .empty docsArguments)
        docsArguments.classes).2 = .ok content ∧
      (execute standardLimits (execute standardLimits returnTree runDocs).tree checkDocs).ending =
        if '\r' ∈ content.toList then .exit 1 else .exit 0 :=
  ending_check_after_run rfl rfl readLine_docs.1 readLine_docs.2 ⟨rfl, rfl, rfl⟩
    execute_run_returnTree.1 execute_run_returnTree.2.1 execute_run_returnTree.2.2

/-- The class of this tree is shown under its name. -/
theorem shown_returnTree :
    ((readManifest standardLimits returnTree (manifestPath .empty docsArguments)).toOption.bind
      fun m => (Catalog.collect m.reflect m.classNames).2.toOption.map fun records =>
        (Readme.shown records).map Prod.fst) = some ["A\rB"] := by
  decide +kernel

/-- The document of this tree has the carriage return of the name. -/
theorem carriageReturn_mem_of_generate_returnTree {content : String}
    (hgenerate : (generate standardLimits returnTree (manifestPath .empty docsArguments) []).2 =
      .ok content) :
    '\r' ∈ content.toList := by
  obtain ⟨m, records, hread, hcollect, rfl⟩ := exists_records_of_generate hgenerate
  rw [List.isEmpty_nil, if_pos rfl] at hcollect
  have hshown := shown_returnTree
  rw [hread] at hshown
  simp only [Except.toOption, Option.bind_some, hcollect, Option.map_some,
    Option.some.injEq] at hshown
  obtain ⟨e, he, hname⟩ := List.mem_map.mp (hshown ▸ List.mem_singleton_self "A\rB")
  refine Readme.mem_render_of_mem_shortName he ?_ (by decide)
  rw [hname]
  decide +kernel

/-- A document that was just written, neither in place of the manifest nor of the settings, can be
called stale. -/
theorem just_written_called_stale :
    (execute standardLimits returnTree runDocs).ending = .exit 0 ∧
    (execute standardLimits returnTree runDocs).tree.locate (manifestPath .empty docsArguments) ≠
      (execute standardLimits returnTree runDocs).tree.locate (documentPath .empty docsArguments) ∧
    (execute standardLimits returnTree runDocs).tree.locate settingsPath ≠
      (execute standardLimits returnTree runDocs).tree.locate (documentPath .empty docsArguments) ∧
    (execute standardLimits (execute standardLimits returnTree runDocs).tree checkDocs).ending =
      .exit 1 := by
  obtain ⟨hending, hmanifest, helsewhere⟩ := execute_run_returnTree
  refine ⟨hending, hmanifest, helsewhere, ?_⟩
  obtain ⟨level, hlevel, hexecute⟩ := execute_of_ending rfl hending
  rw [hexecute, readLine_docs.1, perform] at hending hmanifest helsewhere ⊢
  obtain ⟨content, hgenerate, hwrite⟩ := run_of_ending hending
  rw [ending_execute_check rfl hlevel rfl readLine_docs.2 ⟨rfl, rfl, rfl⟩ hgenerate hwrite
    hmanifest helsewhere, if_pos (carriageReturn_mem_of_generate_returnTree hgenerate)]

end TraitDocs.Command
