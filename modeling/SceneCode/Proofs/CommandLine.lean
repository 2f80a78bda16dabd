import Mathlib
import SceneCode.CommandLine.Run
import SceneCode.Proofs.FileTree
import SceneCode.Proofs.Output

/-!
# What a run leaves behind

A run of the command line on a file tree is refused before it writes anything, or it has a program
in hand.  A run that is refused leaves the tree as it was and prints nothing.  A program that was
disassembled can be printed and exported, so from then on a run writes the listing and, where one
was asked for, the document; no other file changes.  An option for the document that was left blank
is the exception: it is noticed when the listing is written already.
-/

set_option autoImplicit false

namespace SceneCode.CommandLine

variable {elapsed : String} {arguments : List String} {tree after : FileTree}
  {settings : Settings} {symbols : SymbolTable} {program : Program}

/-! ## Steps on a file tree -/

theorem run_bind_of {α β : Type} {first : StateM FileTree α} {value : α} {middle : FileTree}
    (ran : first.run tree = (value, middle)) (next : α → StateM FileTree β) :
    (first >>= next).run tree = (next value).run middle := by
  show (next (first.run tree).1).run (first.run tree).2 = _
  rw [ran]

def OnlyReads {α : Type} (step : StateM FileTree α) : Prop :=
  ∀ tree, (step.run tree).2 = tree

namespace OnlyReads

variable {α β : Type}

theorem pure (value : α) : OnlyReads (Pure.pure value : StateM FileTree α) := fun _ => rfl

theorem bind {first : StateM FileTree α} {next : α → StateM FileTree β} (reads : OnlyReads first)
    (nextReads : ∀ value, OnlyReads (next value)) : OnlyReads (first >>= next) := by
  intro tree
  have second := nextReads (first.run tree).1 (first.run tree).2
  exact second.trans (reads tree)

theorem run_bind {first : StateM FileTree α} (reads : OnlyReads first)
    (next : α → StateM FileTree β) (tree : FileTree) :
    (first >>= next).run tree = (next (first.run tree).1).run tree := by
  have ran : first.run tree = ((first.run tree).1, tree) := Prod.ext rfl (reads tree)
  exact run_bind_of ran next

end OnlyReads

theorem onlyReads_pathExists (path : Path) :
    OnlyReads (pathExists (FileTree.host elapsed) path) := by
  unfold pathExists
  split
  · exact .pure _
  · exact fun _ => rfl

theorem onlyReads_read (path : Path) : OnlyReads ((FileTree.host elapsed).read path) :=
  fun _ => rfl

theorem onlyReads_readSymbols (path : Path) :
    OnlyReads (readSymbols (FileTree.host elapsed) path) := by
  refine (onlyReads_read path).bind fun result => ?_
  split
  · exact .pure _
  · split <;> exact .pure _

theorem onlyReads_loadSymbols (choice : Choice Path) :
    OnlyReads (loadSymbols (FileTree.host elapsed) choice) := by
  cases choice with
  | unsaid | blank => exact .pure _
  | said path =>
      refine (onlyReads_pathExists path).bind fun result => ?_
      split
      · exact .pure _
      · exact .pure _
      · exact onlyReads_readSymbols path

theorem runAtLevel_run (elapsed : String) (said : settings.level ≠ .blank) (tree : FileTree) :
    ∃ level, (runAtLevel (FileTree.host elapsed) settings).run tree =
      (((runSettings (FileTree.host elapsed) settings).run tree).1.atLevel level,
        ((runSettings (FileTree.host elapsed) settings).run tree).2) := by
  unfold runAtLevel
  split
  · rename_i blank
    exact absurd blank said
  · exact ⟨.warning, rfl⟩
  · rename_i level _
    exact ⟨level, rfl⟩

/-! ## Runs that are refused -/

/-- What a run has before it writes anything: settings, symbols, and a program. -/
structure Prepared (elapsed : String) (arguments : List String) (tree : FileTree)
    (settings : Settings) (symbols : SymbolTable) (program : Program) : Prop where
  parsed : parseArguments arguments = .ok (.run settings)
  level : settings.level ≠ .blank
  present : ((pathExists (FileTree.host elapsed) settings.input).run tree).1 = .ok true
  loaded : ∃ log, ((loadSymbols (FileTree.host elapsed) settings.symbols).run tree).1 =
    .ok (symbols, log)
  decoded : ∃ blob, tree.read settings.input = .ok blob ∧
    (disassembleChosen settings.encoding blob).1 = .ok program

/-- Nothing was written or printed, and the run did not succeed. -/
structure Refused (tree : FileTree) (result : Report × FileTree) : Prop where
  kept : result.2 = tree
  silent : result.1.output = []
  failed : result.1.ending.exitCode ≠ 0

theorem disassembleAs_cases (encoding : Encoding) (blob : Blob) :
    (∃ program, disassemble blob encoding = .ok program ∧
      (disassembleAs encoding blob).1 = .ok program) ∨
    ∃ ending, (disassembleAs encoding blob).1 = .error ending ∧ ending.exitCode ≠ 0 := by
  have result : (disassembleAs encoding blob).1 =
      (disassemble blob encoding).mapError .undecodable := rfl
  cases decoded : disassemble blob encoding with
  | ok program => exact .inl ⟨program, rfl, by rw [result, decoded]; rfl⟩
  | error fault =>
      exact .inr ⟨.undecodable fault, by rw [result, decoded]; rfl, Nat.one_ne_zero⟩

/-- A file is disassembled in some encoding, or the run ends without success. -/
theorem disassembleChosen_cases (choice : Choice Encoding) (blob : Blob) :
    (∃ encoding program, disassemble blob encoding = .ok program ∧
      (disassembleChosen choice blob).1 = .ok program) ∨
    ∃ ending, (disassembleChosen choice blob).1 = .error ending ∧ ending.exitCode ≠ 0 := by
  cases choice with
  | unsaid => exact (disassembleAs_cases .shiftJis blob).imp_left fun decoded => ⟨_, decoded⟩
  | said encoding => exact (disassembleAs_cases encoding blob).imp_left fun decoded => ⟨_, decoded⟩
  | blank =>
      right
      simp only [disassembleChosen]
      split
      · exact ⟨_, rfl, Nat.one_ne_zero⟩
      · exact ⟨_, rfl, Nat.one_ne_zero⟩

theorem exists_disassemble {choice : Choice Encoding} {blob : Blob}
    (decoded : (disassembleChosen choice blob).1 = .ok program) :
    ∃ encoding, disassemble blob encoding = .ok program := by
  obtain ⟨encoding, other, found, result⟩ | ⟨ending, result, _⟩ :=
    disassembleChosen_cases choice blob
  · rw [decoded] at result
    exact ⟨encoding, Except.ok.inj result ▸ found⟩
  · rw [decoded] at result
    cases result

theorem refused_pure {report : Report} (silent : report.output = [])
    (failed : report.ending.exitCode ≠ 0) :
    Refused tree ((pure report : StateM FileTree Report).run tree) :=
  ⟨rfl, silent, failed⟩

theorem refused_process {earlier : List Diagnostic}
    (undecoded : ∀ blob program, tree.read settings.input = .ok blob →
      (disassembleChosen settings.encoding blob).1 ≠ .ok program) :
    Refused tree ((process (FileTree.host elapsed) settings symbols earlier).run tree) := by
  unfold process
  rw [(onlyReads_read settings.input).run_bind]
  split
  · exact refused_pure rfl Nat.one_ne_zero
  · rename_i blob read
    obtain ⟨_, program, _, decoded⟩ | ⟨ending, stopped, failed⟩ :=
      disassembleChosen_cases settings.encoding blob
    · exact absurd decoded (undecoded blob program read)
    · simp only [stopped]
      exact refused_pure rfl failed

theorem refused_runSettings
    (unprepared : ¬ ∃ symbols program, Prepared elapsed arguments tree settings symbols program)
    (parsed : parseArguments arguments = .ok (.run settings)) (level : settings.level ≠ .blank) :
    Refused tree ((runSettings (FileTree.host elapsed) settings).run tree) := by
  unfold runSettings
  rw [(onlyReads_pathExists settings.input).run_bind]
  split
  · exact refused_pure rfl Nat.one_ne_zero
  · exact refused_pure rfl Nat.one_ne_zero
  · rename_i present
    rw [(onlyReads_loadSymbols settings.symbols).run_bind]
    split
    · exact refused_pure rfl Nat.one_ne_zero
    · rename_i symbols log loaded
      refine refused_process fun blob program read decoded => unprepared ?_
      exact ⟨symbols, program, parsed, level, present, ⟨log, loaded⟩, blob, read, decoded⟩

theorem Refused.atLevel {result : Report × FileTree} (refused : Refused tree result)
    (level : Level) : Refused tree (result.1.atLevel level, result.2) :=
  ⟨refused.kept, refused.silent, refused.failed⟩

theorem refused_run (asked : parseArguments arguments ≠ .ok .help)
    (unprepared : ¬ ∃ settings symbols program,
      Prepared elapsed arguments tree settings symbols program) :
    Refused tree ((run (FileTree.host elapsed) arguments).run tree) := by
  unfold run
  split
  · exact refused_pure rfl (by simp [Ending.exitCode])
  · rename_i help
    exact absurd help asked
  · rename_i settings parsed
    -- a blank level is noticed before the input is looked for
    by_cases blank : settings.level = .blank
    · rw [runAtLevel, blank]
      exact refused_pure rfl Nat.one_ne_zero
    · obtain ⟨level, ran⟩ := runAtLevel_run elapsed blank tree
      rw [ran]
      have refused := refused_runSettings (fun ⟨symbols, program, prepared⟩ =>
        unprepared ⟨settings, symbols, program, prepared⟩) parsed blank
      exact refused.atLevel level

/-! ## Runs that write -/

def writtenLine (what : String) (path : Path) : String := what ++ " written to " ++ path.text

theorem exists_writeResult (elapsed what text : String) {path : Path}
    (accepts : tree.Accepts path) :
    ∃ after, (writeResult (FileTree.host elapsed) what path text).run tree =
        (.ok (writtenLine what path), after) ∧
      tree.Receives path text after ∧ ∀ other, tree.Accepts other → after.Accepts other := by
  obtain ⟨clear, location, located, plain⟩ := accepts
  refine ⟨tree.put location text, ?_, FileTree.receives_put located plain text,
    fun other also => also.put located plain text⟩
  have written : ((FileTree.host elapsed).write path text).run tree =
      (.ok (), tree.put location text) := by
    simp only [FileTree.host, StateT.run_bind, StateT.run_get, pure_bind,
      FileTree.write_of_locate located plain text]
    rfl
  rw [writeResult, writeFile, clear]
  exact run_bind_of written _

theorem exists_writeDocument {document : Json} (elapsed : String)
    (exported : Export.program program = .ok document)
    (accepts : ∀ path, settings.json = .said path → tree.Accepts path) :
    ∃ result after,
      (writeDocument (FileTree.host elapsed) settings program).run tree = (result, after) ∧
      match settings.json with
      | .unsaid => result = .ok [] ∧ after = tree
      | .said path =>
          result = .ok [writtenLine "json" path] ∧ tree.Receives path document.text after
      | .blank => result = .error (.blankOption .json) ∧ after = tree := by
  unfold writeDocument
  rw [exported]
  cases json : settings.json with
  | unsaid => exact ⟨.ok [], tree, rfl, rfl, rfl⟩
  | blank => exact ⟨.error (.blankOption .json), tree, rfl, rfl, rfl⟩
  | said path =>
      obtain ⟨after, wrote, receives, _⟩ :=
        exists_writeResult elapsed "json" document.text (accepts path json)
      exact ⟨.ok [writtenLine "json" path], after, run_bind_of wrote _, rfl, receives⟩

/-- Behind a program that was decoded, a run writes; it tells the time if all of that went well. -/
theorem exists_process {blob : Blob} {lines : List String} {ending : Ending}
    (read : tree.read settings.input = .ok blob)
    (decoded : (disassembleChosen settings.encoding blob).1 = .ok program)
    (wrote : (writeResults (FileTree.host elapsed) settings symbols program).run tree =
      ((lines, ending), after)) (earlier : List Diagnostic) :
    ∃ diagnostics, (process (FileTree.host elapsed) settings symbols earlier).run tree =
      ({ output := if ending = .finished then lines ++ [timeLine elapsed] else lines
         diagnostics
         ending }, after) := by
  have readHere : (((FileTree.host elapsed).read settings.input).run tree).1 = .ok blob := read
  unfold process
  rw [(onlyReads_read settings.input).run_bind, readHere]
  refine ⟨earlier ++ (disassembleChosen settings.encoding blob).2, ?_⟩
  simp only [decoded, run_bind_of wrote]
  cases ending <;> rfl

theorem run_of_prepared (prepared : Prepared elapsed arguments tree settings symbols program)
    {lines : List String} {ending : Ending}
    (wrote : (writeResults (FileTree.host elapsed) settings symbols program).run tree =
      ((lines, ending), after)) :
    ∃ diagnostics, (run (FileTree.host elapsed) arguments).run tree =
      ({ output := if ending = .finished then lines ++ [timeLine elapsed] else lines
         diagnostics
         ending }, after) := by
  obtain ⟨log, loaded⟩ := prepared.loaded
  obtain ⟨blob, read, decoded⟩ := prepared.decoded
  obtain ⟨diagnostics, processed⟩ := exists_process read decoded wrote log
  have settled : (runSettings (FileTree.host elapsed) settings).run tree =
      (process (FileTree.host elapsed) settings symbols log).run tree := by
    unfold runSettings
    rw [(onlyReads_pathExists settings.input).run_bind, prepared.present,
      (onlyReads_loadSymbols settings.symbols).run_bind, loaded]
  obtain ⟨level, ran⟩ := runAtLevel_run elapsed prepared.level tree
  rw [settled, processed] at ran
  exact ⟨_, by rw [run, prepared.parsed, ran]; rfl⟩

theorem Prepared.outputs (prepared : Prepared elapsed arguments tree settings symbols program) :
    (∃ listing, Listing.render symbols program = .ok listing) ∧
      ∃ document, Export.program program = .ok document := by
  obtain ⟨blob, _, chosen⟩ := prepared.decoded
  obtain ⟨encoding, decoded⟩ := exists_disassemble chosen
  have readable := readable_of_disassemble decoded
  exact ⟨Listing.succeeds_render readable (writable_of_disassemble decoded) symbols,
    Export.succeeds_program readable⟩

/-- Next to the input there is another file for the listing. -/
theorem Prepared.listing_apart
    (prepared : Prepared elapsed arguments tree settings symbols program)
    (unsaid : ∀ path, settings.listing ≠ .said path) :
    tree.locate settings.listingPath ≠ tree.locate settings.input := by
  obtain ⟨blob, read, _⟩ := prepared.decoded
  obtain ⟨location, located, plain⟩ := FileTree.exists_location_of_read read
  have beside : settings.listingPath = settings.input.withSuffix ".ir.txt" := by
    unfold Settings.listingPath
    split
    · rename_i path said
      exact absurd said (unsaid path)
    · rfl
    · rfl
  rw [beside, located]
  exact FileTree.locate_withSuffix_ne located plain (by decide)

/-- Writing the results: first the listing, then the document if there is to be one. -/
theorem exists_writeResults {listing : String} {document : Json} (elapsed : String)
    (rendered : Listing.render symbols program = .ok listing)
    (exported : Export.program program = .ok document)
    (listingAccepts : tree.Accepts settings.listingPath)
    (documentAccepts : ∀ path, settings.json = .said path → tree.Accepts path) :
    ∃ middle after lines ending,
      (writeResults (FileTree.host elapsed) settings symbols program).run tree =
        ((writtenLine "ir" settings.listingPath :: lines, ending), after) ∧
      tree.Receives settings.listingPath listing middle ∧
      match settings.json with
      | .unsaid => lines = [] ∧ ending = .finished ∧ after = middle
      | .said path => lines = [writtenLine "json" path] ∧ ending = .finished ∧
          middle.Receives path document.text after
      | .blank => lines = [] ∧ ending = .broken (.blankOption .json) ∧ after = middle := by
  obtain ⟨middle, wroteListing, receives, keepsAccepting⟩ :=
    exists_writeResult elapsed "ir" listing listingAccepts
  -- the document meets the tree that the listing was written into
  obtain ⟨result, after, wroteDocument, concluded⟩ := exists_writeDocument elapsed exported
    fun path said => keepsAccepting path (documentAccepts path said)
  have listed : (writeListing (FileTree.host elapsed) settings symbols program).run tree =
      (.ok (writtenLine "ir" settings.listingPath), middle) := by
    rw [writeListing, rendered, wroteListing]
  refine ⟨middle, after, ?_⟩
  simp only [writeResults, run_bind_of listed, run_bind_of wroteDocument]
  cases json : settings.json with
  | unsaid =>
      rw [json] at concluded
      obtain ⟨rfl, rfl⟩ := concluded
      exact ⟨[], .finished, rfl, receives, rfl, rfl, rfl⟩
  | said path =>
      rw [json] at concluded
      obtain ⟨rfl, received⟩ := concluded
      exact ⟨[writtenLine "json" path], .finished, rfl, receives, rfl, rfl, received⟩
  | blank =>
      rw [json] at concluded
      obtain ⟨rfl, rfl⟩ := concluded
      exact ⟨[], .broken (.blankOption .json), rfl, receives, rfl, rfl, rfl⟩

/-- A run that asks for no help either is refused, and then nothing is written or printed, or it
has a program.  That can be printed and exported, and where the tree accepts the files the listing
is written, then the document, and nothing else; next to the input, the listing is another file
than the input.  Only a blank option for the document makes such a run fail, with the listing
written. -/
theorem run_all_or_nothing (elapsed : String) (arguments : List String) (tree after : FileTree)
    (report : Report) (asked : parseArguments arguments ≠ .ok .help)
    (ran : (run (FileTree.host elapsed) arguments).run tree = (report, after)) :
    ((¬ ∃ settings symbols program, Prepared elapsed arguments tree settings symbols program) →
      after = tree ∧ report.output = [] ∧ report.ending.exitCode ≠ 0) ∧
    ∀ settings symbols program, Prepared elapsed arguments tree settings symbols program →
      (∃ listing document,
        Listing.render symbols program = .ok listing ∧ Export.program program = .ok document ∧
        (tree.Accepts settings.listingPath →
          (∀ path, settings.json = .said path → tree.Accepts path) →
          ∃ middle, tree.Receives settings.listingPath listing middle ∧
            match settings.json with
            | .unsaid => after = middle ∧ report.ending = .finished ∧
                report.output = [writtenLine "ir" settings.listingPath, timeLine elapsed]
            | .said path => middle.Receives path document.text after ∧
                report.ending = .finished ∧
                report.output = [writtenLine "ir" settings.listingPath, writtenLine "json" path,
                  timeLine elapsed]
            | .blank => after = middle ∧ report.ending = .broken (.blankOption .json) ∧
                report.output = [writtenLine "ir" settings.listingPath])) ∧
      ((∀ path, settings.listing ≠ .said path) →
        settings.listingPath ≠ settings.input ∧
        tree.locate settings.listingPath ≠ tree.locate settings.input) := by
  constructor
  · intro unprepared
    have refused := refused_run asked unprepared
    rw [ran] at refused
    exact ⟨refused.kept, refused.silent, refused.failed⟩
  · intro settings symbols program prepared
    obtain ⟨⟨listing, rendered⟩, document, exported⟩ := prepared.outputs
    refine ⟨⟨listing, document, rendered, exported, ?_⟩, ?_⟩
    · intro listingAccepts documentAccepts
      obtain ⟨middle, final, lines, ending, wrote, receives, concluded⟩ :=
        exists_writeResults elapsed rendered exported listingAccepts documentAccepts
      obtain ⟨diagnostics, whole⟩ := run_of_prepared prepared wrote
      obtain ⟨rfl, rfl⟩ := Prod.mk.inj (ran.symm.trans whole)
      refine ⟨middle, receives, ?_⟩
      cases json : settings.json with
      | unsaid =>
          rw [json] at concluded
          obtain ⟨rfl, rfl, rfl⟩ := concluded
          exact ⟨rfl, rfl, rfl⟩
      | said path =>
          rw [json] at concluded
          obtain ⟨rfl, rfl, received⟩ := concluded
          exact ⟨received, rfl, rfl⟩
      | blank =>
          rw [json] at concluded
          obtain ⟨rfl, rfl, rfl⟩ := concluded
          exact ⟨rfl, rfl, rfl⟩
    · intro unsaid
      have apart := prepared.listing_apart unsaid
      exact ⟨fun same => apart (congrArg tree.locate same), apart⟩

/-- A tree that holds one scenario and nothing else, in the directory of the run. -/
def sumTree : FileTree where
  files := OrderedMap.ofList [(["work", "a"], sumFile)]
  directories := []
  workingDirectory := ["work"]

def sumSettings (json : Choice Path) : Settings where
  json
  input := Path.ofString "a"

theorem ofString_a : Path.ofString "a" = ⟨"", ["a"]⟩ := by cbv

theorem ofString_absolute_b : Path.ofString "/b" = ⟨"/", ["b"]⟩ := by cbv

theorem exists_prepared_sum {json : Choice Path}
    (parsed : parseArguments arguments = .ok (.run (sumSettings json))) :
    ∃ program, Prepared "0.00" arguments sumTree (sumSettings json) OrderedMap.empty program := by
  have decodes : (disassembleChosen .unsaid sumFile).1.toOption.isSome = true := by decide +kernel
  obtain ⟨program, found⟩ := Option.isSome_iff_exists.mp decodes
  refine ⟨program, parsed, by exact nofun, ?_, ⟨[], rfl⟩, sumFile, ?_, eq_ok_of_toOption found⟩
  · show ((pathExists (FileTree.host "0.00") (Path.ofString "a")).run sumTree).1 = .ok true
    rw [ofString_a]
    decide
  · show sumTree.read (Path.ofString "a") = .ok sumFile
    rw [ofString_a]
    decide

theorem listingPath_sum (json : Choice Path) :
    (sumSettings json).listingPath = ⟨"", ["a.ir.txt"]⟩ := by
  show (Path.ofString "a").withSuffix ".ir.txt" = _
  rw [ofString_a]
  decide

theorem accepts_sum_listing : sumTree.Accepts ⟨"", ["a.ir.txt"]⟩ :=
  ⟨by decide, ["work", "a.ir.txt"], by decide, by decide⟩

/-- The listing comes to stand next to the input, the document at the root. -/
theorem run_all_or_nothing_sum :
    ∃ settings symbols program listing document,
      Prepared "0.00" ["a", "--json-out=/b"] sumTree settings symbols program ∧
      Listing.render symbols program = .ok listing ∧ Export.program program = .ok document ∧
      ∃ middle report after,
        (run (FileTree.host "0.00") ["a", "--json-out=/b"]).run sumTree = (report, after) ∧
        sumTree.Receives ⟨"", ["a.ir.txt"]⟩ listing middle ∧
        middle.Receives ⟨"/", ["b"]⟩ document.text after ∧
        report.ending = .finished := by
  have parsed : parseArguments ["a", "--json-out=/b"] =
      .ok (.run (sumSettings (.said (Path.ofString "/b")))) := by rfl
  obtain ⟨program, prepared⟩ := exists_prepared_sum parsed
  obtain ⟨report, after, ran⟩ : ∃ report after,
      (run (FileTree.host "0.00") ["a", "--json-out=/b"]).run sumTree = (report, after) :=
    ⟨_, _, (Prod.mk.eta).symm⟩
  have all := run_all_or_nothing "0.00" ["a", "--json-out=/b"] sumTree after report
    (by rw [parsed]; exact nofun) ran
  obtain ⟨⟨listing, document, rendered, exported, written⟩, _⟩ := all.2 _ _ _ prepared
  rw [listingPath_sum, ofString_absolute_b] at written
  have documentAccepts : sumTree.Accepts ⟨"/", ["b"]⟩ := ⟨by decide, ["b"], by decide, by decide⟩
  obtain ⟨middle, received, also, finished, _⟩ := written accepts_sum_listing
    fun path said => Choice.said.inj said ▸ documentAccepts
  exact ⟨_, _, program, listing, document, prepared, rendered, exported, middle, report, after,
    ran, received, also, finished⟩

/-- With the option for the document left blank, a run fails that has its program and has written
and announced the listing. -/
theorem blank_document_behind_listing :
    (∃ settings symbols program,
      Prepared "0.00" ["a", "--json-out=--"] sumTree settings symbols program ∧
      sumTree.Accepts settings.listingPath ∧ ∀ path, settings.json ≠ .said path) ∧
    ((run (FileTree.host "0.00") ["a", "--json-out=--"]).run sumTree).1.ending.exitCode = 1 ∧
    ((run (FileTree.host "0.00") ["a", "--json-out=--"]).run sumTree).1.output =
      ["ir written to a.ir.txt"] ∧
    ((run (FileTree.host "0.00") ["a", "--json-out=--"]).run sumTree).2.files.keys =
      [["work", "a"], ["work", "a.ir.txt"]] := by
  have parsed : parseArguments ["a", "--json-out=--"] = .ok (.run (sumSettings .blank)) := by rfl
  obtain ⟨program, prepared⟩ := exists_prepared_sum parsed
  have settled : run (FileTree.host "0.00") ["a", "--json-out=--"] =
      runAtLevel (FileTree.host "0.00") { json := .blank, input := ⟨"", ["a"]⟩ } := by
    rw [run, parsed, sumSettings, ofString_a]
  rw [settled]
  refine ⟨⟨_, _, program, prepared, ?_, by exact nofun⟩,
    by decide +kernel, by decide +kernel, by decide +kernel⟩
  rw [listingPath_sum]
  exact accepts_sum_listing

end SceneCode.CommandLine
