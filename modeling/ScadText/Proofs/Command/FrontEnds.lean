import ScadText.Command.Program
import ScadText.Disk.Tree
import ScadText.Editor.Session
import ScadText.Proofs.Editor.Remark
import ScadText.Proofs.Text.Utf8

/-!
# Two ways to the findings of a text

A text can be linted as a file from the command line, or as a document in an editor. The file is
read with all its line ends made line feeds, and the document is taken as it is. So the two ways
agree on texts without carriage returns, and on others only if their findings do not depend on them.

## Main definitions

* `LintsFile`: a command line that asks for the findings of one file.
* `findingsText`: how the command line writes findings.

## Main statements

* `transcript_of_lintsFile`: what the command line writes.
* `front_ends`: what both ways come to, and when they agree.
-/

namespace ScadText

open Text Editor

/-- The command line asks for the findings of one file as records. There is no configuration, no
rule is ignored, and the file holds the text. -/
structure LintsFile (texts : List String) (arguments : Arguments) (disk : Disk) (text : List Char) :
    Prop where
  request_eq : Request.ofTexts texts = .ok (.run arguments)
  others_eq : arguments.others = []
  ignore_eq : arguments.ignore = []
  format_eq : arguments.format = some (.text "json")
  watch_eq : arguments.watch = false
  named_eq : arguments.namedConfig? = none
  isFile_eq : isFile disk arguments.configPath = .ok false
  read_eq : disk.read (Path.ofString arguments.first) = .ok (Utf8.encode text)

/-- Findings in a file as the command line writes them. -/
def findingsText (path : Path) (findings : List Finding) : String :=
  String.ofList (Json.render (findings.map (Finding.record path))) ++ "\n"

variable {texts : List String} {arguments : Arguments} {disk : Disk} {text : List Char}

/-! ## The command line -/

/-- The options of the command line. -/
def Arguments.records (arguments : Arguments) : Options :=
  ⟨[Path.ofString arguments.first], [], .json, arguments.strict, arguments.tokens, false⟩

theorem LintsFile.resolve_eq (h : LintsFile texts arguments disk text) :
    resolve disk arguments = .ok arguments.records := by
  have hconfig : findConfig disk arguments = .ok [] := by
    rw [findConfig, h.isFile_eq, h.named_eq]
    rfl
  rw [resolve, hconfig, Arguments.records, ← h.watch_eq]
  dsimp only [bind, Except.bind]
  rw [Options.merge, h.ignore_eq, h.format_eq, h.others_eq]
  rfl

theorem LintsFile.plan_eq (h : LintsFile texts arguments disk text) :
    plan texts disk = .ok (.once arguments.records) := by
  rw [plan, h.request_eq]
  dsimp only
  rw [Arguments.plan, h.resolve_eq]
  rfl

theorem LintsFile.readSource_eq (h : LintsFile texts arguments disk text) :
    readSource disk (Path.ofString arguments.first) = .ok (unifyLineEnds text) := by
  rw [readSource, h.read_eq]
  dsimp only
  rw [sourceOfBytes, Utf8.decode_encode]
  rfl

theorem LintsFile.batch_eq (h : LintsFile texts arguments disk text) :
    Batch.ofPaths arguments.records disk arguments.records.inputs =
      ⟨[⟨Path.ofString arguments.first, unifyLineEnds text, lint (unifyLineEnds text)⟩], none⟩ := by
  have hfindings : findingsOf arguments.records (unifyLineEnds text) = lint (unifyLineEnds text) :=
    List.filter_eq_self.mpr fun _ _ => rfl
  rw [← hfindings, Arguments.records, Batch.ofPaths, h.readSource_eq]
  rfl

/-- The command line writes the findings of the text with all its line ends made line feeds. -/
theorem transcript_of_lintsFile (h : LintsFile texts arguments disk text) (later : List Disk) :
    ∃ status errors, transcript texts disk later = .ok ⟨status,
      [⟨findingsText (Path.ofString arguments.first) (lint (unifyLineEnds text)), errors⟩]⟩ := by
  have houtput : (arguments.records.run disk).written.output =
      findingsText (Path.ofString arguments.first) (lint (unifyLineEnds text)) := by
    rw [Options.run, h.batch_eq]
    dsimp only [Batch.outcome, Arguments.records, OutputFormat.render]
    rw [List.flatMap_singleton, Report.records, findingsText]
  refine ⟨(arguments.records.run disk).status, (arguments.records.run disk).written.errors, ?_⟩
  rw [transcript, h.plan_eq, ← houtput]
  rfl

/-! ## Both ways -/

theorem forall₂_shows_iff {lines : List (List Char)} {findings others : List Finding}
    {remarks : List Remark} (h : List.Forall₂ (Shows lines) findings remarks) :
    List.Forall₂ (Shows lines) others remarks ↔ others = findings := by
  constructor
  · intro hothers
    exact List.left_unique_forall₂' (fun _ _ _ h h' => h.unique h') hothers h
  · rintro rfl
    exact h

/-! ## One file in a directory -/

/-- A directory with one file. -/
def fileDisk (text : List Char) : Disk := (Tree.empty.write ["a.scad"] (Utf8.encode text) 0).disk

theorem lintsFile_fileDisk (text : List Char) :
    LintsFile ["a.scad", "--format", "json"]
      ⟨⟨none, [], some (.text "json"), false, false, false⟩, "a.scad", []⟩
      (fileDisk text) text where
  request_eq := rfl
  others_eq := rfl
  ignore_eq := rfl
  format_eq := rfl
  watch_eq := rfl
  named_eq := rfl
  isFile_eq := rfl
  read_eq := rfl

/-! ## When they agree -/

/-- Both ways report on a text. The editor shows the findings of the text itself, and the command
line writes those of the text with its line ends made line feeds. They agree exactly where these are
the same findings, and so on every text without carriage returns. -/
theorem front_ends (cli : LintsFile texts arguments disk text) (range : InRange text)
    (later : List Disk) (session : Session) (uri : String) :
    ∃ status errors shown,
      transcript texts disk later = .ok ⟨status,
        [⟨findingsText (Path.ofString arguments.first) (lint (unifyLineEnds text)), errors⟩]⟩ ∧
      (session.step (.opened uri text)).2 = .published uri (.ok shown) ∧
      List.Forall₂ (Shows (lines text)) (lint text) shown ∧
      (List.Forall₂ (Shows (lines text)) (lint (unifyLineEnds text)) shown ↔
        lint (unifyLineEnds text) = lint text) ∧
      ('\r' ∉ text → List.Forall₂ (Shows (lines text)) (lint (unifyLineEnds text)) shown) := by
  obtain ⟨status, errors, htranscript⟩ := transcript_of_lintsFile cli later
  obtain ⟨shown, hshown, hshows⟩ := exists_remarks range
  refine ⟨status, errors, shown, htranscript, ?_, hshows, forall₂_shows_iff hshows, ?_⟩
  · rw [Session.step, Session.publish, Session.text_put_self, hshown]
  · intro hreturn
    rw [unifyLineEnds_eq_self hreturn]
    exact hshows

theorem front_ends_line_feed :
    ∃ status errors shown,
      transcript ["a.scad", "--format", "json"] (fileDisk "x = 5\n".toList) [] = .ok ⟨status,
        [⟨findingsText (.ofString "a.scad") (lint "x = 5\n".toList), errors⟩]⟩ ∧
      (Session.empty.step (.opened "a.scad" "x = 5\n".toList)).2 =
        .published "a.scad" (.ok shown) ∧
      List.Forall₂ (Shows (lines "x = 5\n".toList)) (lint "x = 5\n".toList) shown := by
  have range : InRange "x = 5\n".toList := ⟨by decide +kernel, by decide +kernel⟩
  obtain ⟨status, errors, shown, hcommand, heditor, -, -, hagree⟩ :=
    front_ends (lintsFile_fileDisk "x = 5\n".toList) range [] .empty "a.scad"
  exact ⟨status, errors, shown, hcommand, heditor, hagree (by decide +kernel)⟩

/-- A line that ends in a carriage return and a line feed is longer for the editor than for the
command line, and so the last character of the line stands in another column. -/
theorem front_ends_carriage_return :
    ∃ status errors shown,
      transcript ["a.scad", "--format", "json"] (fileDisk "x = 5\r\n".toList) [] = .ok ⟨status,
        [⟨findingsText (.ofString "a.scad") (lint "x = 5\n".toList), errors⟩]⟩ ∧
      (Session.empty.step (.opened "a.scad" "x = 5\r\n".toList)).2 =
        .published "a.scad" (.ok shown) ∧
      ¬ List.Forall₂ (Shows (lines "x = 5\r\n".toList)) (lint "x = 5\n".toList) shown := by
  have range : InRange "x = 5\r\n".toList := ⟨by decide +kernel, by decide +kernel⟩
  obtain ⟨status, errors, hcommand⟩ :=
    transcript_of_lintsFile (lintsFile_fileDisk "x = 5\r\n".toList) []
  obtain ⟨shown, hshown, hshows⟩ := exists_remarks range
  refine ⟨status, errors, shown, hcommand, ?_, ?_⟩
  · rw [Session.step, Session.publish, Session.text_put_self, hshown]
  · rw [forall₂_shows_iff hshows]
    decide +kernel

end ScadText
