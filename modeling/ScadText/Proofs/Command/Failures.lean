import ScadText.Proofs.Report.Run
import ScadText.Proofs.Settings.Merge
import ScadText.Proofs.Token.Dump
import ScadText.Proofs.Toml.Parser

/-!
# How a run fails

Whatever goes wrong on the way from a command line to the findings ends with the exit status 2 and a
message that comes last, except where the program ends without an answer. There are four ways to
that end, as far as values may be nested without limit, no path holds the character NUL, and a disk
refuses for the reasons of `Refusal` only.

## Main definitions

* `Failure`: what can go wrong, with the message that tells of it.
* `Fails`: how it comes to that.
* `Escapes`: what ends the program without an answer.
* `Outcome.Explains`: the outcome of a run that fails.

## Main statements

* `resolve_eq_config_iff`, `resolve_eq_breakdown_iff`: why a run has no options.
* `Options.Ends.explains`: a run that has options explains what goes wrong.
* `transcript_of_run`: the failures of a run are explained unless they escape.
-/

namespace ScadText

open Options (Breaks Condition FirstAmong GivesCode valueAt?)

/-- The configuration or the command line is at fault, or a source. -/
inductive Failure where
  | config (error : ConfigError)
  | source (fault : ReadFault)
  deriving DecidableEq, Repr

/-- The message that tells of a failure. A path comes first if the fault is in the configuration. -/
def Failure.message : Failure → String
  | .config ⟨cause, some path⟩ => path.render ++ ": " ++ cause.message
  | .config ⟨cause, none⟩ => cause.message
  | .source fault => fault.message

/-- Something goes wrong while the configuration is located, read, decoded, parsed or checked
together with the command line, or while a source is read or decoded. -/
inductive Fails (disk : Disk) (arguments : Arguments) : Failure → Prop where
  | absent (missing : isFile disk arguments.configPath = .ok false)
      (named : arguments.namedConfig?.isSome = true) :
      Fails disk arguments (.config ⟨.notFound, arguments.configPath⟩)
  | unreadable {refusal : Refusal} (present : isFile disk arguments.configPath = .ok true)
      (read : disk.read arguments.configPath = .error refusal) :
      Fails disk arguments (.config ⟨.unreadable refusal, arguments.configPath⟩)
  | badEncoding {bytes : List UInt8} {fault : Utf8.Fault}
      (present : isFile disk arguments.configPath = .ok true)
      (read : disk.read arguments.configPath = .ok bytes)
      (decode : Utf8.decode bytes = .error fault) :
      Fails disk arguments (.config ⟨.badEncoding fault, arguments.configPath⟩)
  | badToml {text : List Char} (present : isFile disk arguments.configPath = .ok true)
      (read : disk.read arguments.configPath = .ok (Utf8.encode text))
      (parse : Toml.parse (Text.joinLineEnds text) = .error .invalid) :
      Fails disk arguments (.config ⟨.badToml, arguments.configPath⟩)
  | broken {config : Toml.Table} {error : ConfigError}
      (found : findConfig disk arguments = .ok config)
      (first : FirstAmong (·.Holds config arguments)
        (Breaks config arguments.configPath arguments · (.config error)) Condition.all) :
      Fails disk arguments (.config error)
  | source {text : String} {fault : ReadFault} (input : text ∈ arguments.first :: arguments.others)
      (lacks : disk.Lacks (.ofString text) fault) :
      Fails disk arguments (.source fault)

/-- The program ends without an answer: the disk refuses to look at the path of the configuration,
other than by the lack of the path; the configuration holds a number that has too many digits to be
read; the command line gives nothing for a rule to ignore; or the configuration asks for a format
with a number that has too many digits to be shown. In the last two cases no fault has been found in
what is checked before. -/
inductive Escapes (disk : Disk) (arguments : Arguments) : Breakdown → Prop where
  | refused {refusal : Refusal} (status : disk.status arguments.configPath = .error refusal)
      (missing : refusal ≠ .missing) (notDirectory : refusal ≠ .notDirectory) :
      Escapes disk arguments (.probe (.refused ⟨refusal, arguments.configPath⟩))
  | longNumber {text : List Char} {digits : Nat}
      (present : isFile disk arguments.configPath = .ok true)
      (read : disk.read arguments.configPath = .ok (Utf8.encode text))
      (parse : Toml.parse (Text.joinLineEnds text) = .error (.longNumber digits))
      (many : Toml.maxDigits < digits) :
      Escapes disk arguments (.probe (.longNumber digits))
  | noCode {config : Toml.Table} (found : findConfig disk arguments = .ok config)
      (checked : ∀ condition ∈ Condition.beforeGiven, condition.Holds config arguments)
      (first : FirstAmong GivesCode (· = .nothing) arguments.ignore) :
      Escapes disk arguments .noCode
  | longValue {config : Toml.Table} {value : Toml.Value}
      (found : findConfig disk arguments = .ok config)
      (checked : ∀ condition ∈ Condition.beforeFound, condition.Holds config arguments)
      (asked : valueAt? config .output "format" = some value) (long : value.hasLong = true) :
      Escapes disk arguments (.probe .longValue)

/-- The outcome of a run that fails: the exit status 2, no output, and the message of the failure
last of all that is written beside it. Nothing stands before the message if the configuration or the
command line is at fault. If a source is, there stand the listings of the inputs before it, and the
message has a line of its own. -/
inductive Outcome.Explains (disk : Disk) (arguments : Arguments) : Outcome → Prop where
  | config {error : ConfigError} (fails : Fails disk arguments (.config error)) :
      Explains disk arguments ⟨2, ⟨"", "error: " ++ (Failure.config error).message ++ "\n"⟩⟩
  | source {options : Options} {before after : List Path} {path : Path}
      {sources : Path → List Char} {fault : ReadFault}
      (resolved : resolve disk arguments = .ok options)
      (inputs_eq : options.inputs = before ++ path :: after)
      (holds : ∀ p ∈ before, disk.Holds p (sources p)) (lacks : disk.Lacks path fault)
      (lineStart : ∀ c ∈ (options.listing sources before).toList.getLast?, c = '\n')
      (oneLine : '\n' ∉ (Failure.source fault).message.toList) :
      Explains disk arguments
        ⟨2, ⟨"", options.listing sources before ++ "error: " ++ (Failure.source fault).message ++
          "\n"⟩⟩

variable {texts : List String} {arguments : Arguments} {disk : Disk} {breakdown : Breakdown}
  {options : Options} {error : ConfigError} {outcome : Outcome}

/-! ## Failures of the configuration -/

theorem resolve_eq_breakdown_iff :
    resolve disk arguments = .error (.breakdown breakdown) ↔ Escapes disk arguments breakdown := by
  rw [resolve, bind_eq_error, findConfig_eq_error]
  constructor
  · rintro ((⟨refused, hrefused, ⟨⟩⟩ | ⟨present, hread⟩ | ⟨-, -, ⟨⟩⟩) | ⟨config, found, hmerge⟩)
    · obtain ⟨refusal, status, missing, notDirectory, rfl⟩ := isFile_eq_error_iff.mp hrefused
      exact .refused status missing notDirectory
    · obtain ⟨_, _, ⟨⟩⟩ | ⟨_, _, _, _, ⟨⟩⟩ | ⟨_, _, _, ⟨⟩⟩ | ⟨text, digits, read, parse, ⟨⟩⟩ :=
        readConfig_eq_error_iff.mp hread
      exact .longNumber present read parse (Toml.lt_of_parse parse)
    · obtain ⟨rfl, first, checked⟩ | ⟨rfl, ⟨value, asked, long⟩, checked⟩ :=
        Options.merge_eq_breakdown_iff.mp hmerge
      · exact .noCode found checked first
      · exact .longValue found checked asked long
  · intro h
    cases h with
    | refused status missing notDirectory =>
      have hrefused := isFile_eq_error_iff.mpr ⟨_, status, missing, notDirectory, rfl⟩
      exact .inl (.inl ⟨_, hrefused, rfl⟩)
    | longNumber present read parse many =>
      have hread := readConfig_eq_error_iff.mpr (.inr (.inr (.inr ⟨_, _, read, parse, rfl⟩)))
      exact .inl (.inr (.inl ⟨present, hread⟩))
    | noCode found checked first =>
      exact .inr ⟨_, found, Options.merge_eq_breakdown_iff.mpr (.inl ⟨rfl, first, checked⟩)⟩
    | longValue found checked asked long =>
      exact .inr ⟨_, found,
        Options.merge_eq_breakdown_iff.mpr (.inr ⟨rfl, ⟨_, asked, long⟩, checked⟩)⟩

theorem resolve_eq_config_iff :
    resolve disk arguments = .error (.config error) ↔ Fails disk arguments (.config error) := by
  rw [resolve, bind_eq_error, findConfig_eq_error]
  constructor
  · rintro ((⟨_, _, ⟨⟩⟩ | ⟨present, hread⟩ | ⟨missing, named, ⟨⟩⟩) | ⟨config, found, hmerge⟩)
    · obtain ⟨refusal, read, ⟨⟩⟩ | ⟨bytes, why, read, decode, ⟨⟩⟩ | ⟨text, read, parse, ⟨⟩⟩ |
        ⟨_, _, _, _, ⟨⟩⟩ := readConfig_eq_error_iff.mp hread
      · exact .unreadable present read
      · exact .badEncoding present read decode
      · exact .badToml present read parse
    · exact .absent missing named
    · exact .broken found (Options.merge_eq_error_iff.mp hmerge)
  · intro h
    cases h with
    | absent missing named => exact .inl (.inr (.inr ⟨missing, named, rfl⟩))
    | unreadable present read =>
      have hread := readConfig_eq_error_iff.mpr (.inl ⟨_, read, rfl⟩)
      exact .inl (.inr (.inl ⟨present, hread⟩))
    | badEncoding present read decode =>
      have hread := readConfig_eq_error_iff.mpr (.inr (.inl ⟨_, _, read, decode, rfl⟩))
      exact .inl (.inr (.inl ⟨present, hread⟩))
    | badToml present read parse =>
      have hread := readConfig_eq_error_iff.mpr (.inr (.inr (.inl ⟨_, read, parse, rfl⟩)))
      exact .inl (.inr (.inl ⟨present, hread⟩))
    | broken found first => exact .inr ⟨_, found, Options.merge_eq_error_iff.mpr first⟩

theorem ConfigError.outcome_eq (error : ConfigError) :
    error.outcome = ⟨2, ⟨"", "error: " ++ (Failure.config error).message ++ "\n"⟩⟩ := by
  obtain ⟨cause, path⟩ := error
  cases path with
  | none => rfl
  | some path =>
    simp [outcome, message, errorText, Failure.message, String.append_assoc]

/-! ## Failures of the sources -/

theorem options_of_resolve (h : resolve disk arguments = .ok options) :
    options.inputs = (arguments.first :: arguments.others).map Path.ofString ∧
      options.watch = arguments.watch := by
  rw [resolve, bind_eq_ok] at h
  obtain ⟨config, -, h⟩ := h
  have hmerged := Options.merged_of_merge h
  exact ⟨hmerged.inputs_eq, hmerged.watch_eq⟩

/-- Where there are options, something goes wrong exactly if there is an input without a source. -/
theorem exists_fails_iff (h : resolve disk arguments = .ok options) :
    (∃ failure, Fails disk arguments failure) ↔
      ∃ path ∈ options.inputs, ∃ fault, disk.Lacks path fault := by
  rw [(options_of_resolve h).1]
  constructor
  · rintro ⟨failure, hfails⟩
    cases failure with
    | config error => cases h.symm.trans (resolve_eq_config_iff.mpr hfails)
    | source fault =>
      cases hfails with
      | source input lacks => exact ⟨_, List.mem_map_of_mem input, fault, lacks⟩
  · rintro ⟨path, hpath, fault, hlacks⟩
    obtain ⟨text, input, rfl⟩ := List.mem_map.mp hpath
    exact ⟨.source fault, .source input hlacks⟩

theorem Options.getLast?_listing (options : Options) (sources : Path → List Char)
    (paths : List Path) : ∀ c ∈ (options.listing sources paths).toList.getLast?, c = '\n' := by
  rw [listing]
  split
  · induction paths with
    | nil => simp
    | cons path paths ih =>
      rw [List.map_cons, String.join_cons, String.toList_append, List.getLast?_append]
      grind [getLast?_dumpText (tokenize (sources path))]
  · simp

/-- A run that has options explains what goes wrong. -/
theorem Options.Ends.explains (h : options.Ends disk outcome)
    (resolved : resolve disk arguments = .ok options)
    (hfails : ∃ failure, Fails disk arguments failure) :
    outcome.Explains disk arguments := by
  cases h with
  | stopped inputs_eq holds lacks oneLine =>
    exact .source resolved inputs_eq holds lacks (options.getLast?_listing _ _) oneLine
  | completed holds =>
    obtain ⟨path, hpath, fault, hlacks⟩ := (exists_fails_iff resolved).mp hfails
    exact absurd hlacks (holds path hpath).not_lacks

theorem Options.Ends.status_cases (h : options.Ends disk outcome) :
    outcome.status = 0 ∨ outcome.status = 1 ∨ outcome.status = 2 := by
  cases h with
  | stopped => exact .inr (.inr rfl)
  | @completed _ status _ hone hzero =>
    by_cases hstatus : status = 1
    · exact .inr (.inl hstatus)
    · exact .inl (hzero.mpr (mt hone.mpr hstatus))

/-! ## The whole run -/

/-- A run that is no watch escapes in four ways. Otherwise it ends with the exit status 0, 1 or 2,
and whatever goes wrong is explained and has the status 2, which nothing else has. -/
theorem transcript_of_run (request : Request.ofTexts texts = .ok (.run arguments))
    (once : arguments.watch = false) (later : List Disk) :
    (∀ breakdown, transcript texts disk later = .error breakdown ↔
      Escapes disk arguments breakdown) ∧
    ((∀ breakdown, ¬ Escapes disk arguments breakdown) → ∃ outcome : Outcome,
      transcript texts disk later = .ok outcome.transcript ∧
      (outcome.status = 0 ∨ outcome.status = 1 ∨ outcome.status = 2) ∧
      ((∃ failure, Fails disk arguments failure) → outcome.Explains disk arguments) ∧
      (outcome.status = 2 → ∃ failure, Fails disk arguments failure)) := by
  have hplan : plan texts disk = arguments.plan disk := by rw [plan, request]
  rw [transcript, hplan, Arguments.plan]
  simp only [← resolve_eq_breakdown_iff]
  cases hresolve : resolve disk arguments with
  | error fault =>
    cases fault with
    | breakdown breakdown =>
      refine ⟨by simp [Except.map], ?_⟩
      intro h
      exact absurd rfl (h breakdown)
    | config error =>
      have hfails := resolve_eq_config_iff.mp hresolve
      refine ⟨by simp [Except.map], ?_⟩
      intro _
      refine ⟨error.outcome, rfl, .inr (.inr rfl), fun _ => ?_, fun _ => ⟨_, hfails⟩⟩
      exact error.outcome_eq ▸ .config hfails
  | ok options =>
    have hwatch : options.watch = false := (options_of_resolve hresolve).2.trans once
    have hends := options.ends_run disk
    refine ⟨by simp [Except.map], ?_⟩
    intro _
    refine ⟨options.run disk, ?_, hends.status_cases, hends.explains hresolve, fun h => ?_⟩
    · dsimp only
      rw [hwatch]
      rfl
    · exact (exists_fails_iff hresolve).mpr (hends.status_eq_two_iff.mp h)

/-- The second of two inputs is missing, and the tokens of the first have been listed by then. -/
theorem transcript_of_run_missing : ∃ outcome : Outcome,
    transcript ["a.scad", "b.scad", "--tokens"]
        (Tree.empty.write ["a.scad"] (Utf8.encode "x = 5".toList) 0).disk [] =
      .ok outcome.transcript ∧
    outcome.status = 2 ∧ outcome.written.errors = dumpText (tokenize "x = 5".toList) ++
      "error: [Errno 2] No such file or directory: 'b.scad'\n" := by
  have request : Request.ofTexts ["a.scad", "b.scad", "--tokens"] =
      .ok (.run ⟨⟨none, [], none, false, true, false⟩, "a.scad", ["b.scad"]⟩) := rfl
  have resolved : resolve (Tree.empty.write ["a.scad"] (Utf8.encode "x = 5".toList) 0).disk
      ⟨⟨none, [], none, false, true, false⟩, "a.scad", ["b.scad"]⟩ =
      .ok ⟨[.ofString "a.scad", .ofString "b.scad"], [], .text, false, true, false⟩ := rfl
  obtain ⟨-, hanswer⟩ := transcript_of_run request rfl []
  obtain ⟨outcome, houtcome, -, hexplains, -⟩ := hanswer fun breakdown h => by
    cases resolved.symm.trans (resolve_eq_breakdown_iff.mpr h)
  refine ⟨outcome, houtcome, ?_⟩
  cases hexplains ⟨_, .source (List.mem_cons_of_mem _ List.mem_cons_self) (.refused rfl)⟩ with
  | config fails => cases resolved.symm.trans (resolve_eq_config_iff.mpr fails)
  | @source options before after path sources fault found inputs_eq holds lacks =>
    obtain rfl := Except.ok.inj (resolved.symm.trans found)
    have hread := readSource_eq_error_iff.mpr lacks
    -- Of the two inputs, the second is the one that lacks a source.
    match before, inputs_eq with
    | [], h =>
      obtain rfl := (List.cons.inj h).1
      cases hread
    | [first], h =>
      obtain ⟨rfl, rfl, -⟩ : .ofString "a.scad" = first ∧ .ofString "b.scad" = path ∧ [] = after := by
        simpa using h
      obtain rfl := Except.error.inj hread
      have hsource := readSource_eq_ok_iff.mpr (holds _ List.mem_cons_self)
      have htext : "x = 5".toList = sources (.ofString "a.scad") := Except.ok.inj hsource
      refine ⟨rfl, ?_⟩
      rw [Options.listing, if_pos rfl, List.map_singleton, ← htext, String.join_cons,
        String.join_nil, String.append_empty, String.append_assoc, String.append_assoc]
      rfl
    | first :: second :: others, h => simp at h

/-! ## A name that is too long -/

theorem Path.split_of_notMem {cs : List Char} (h : '/' ∉ cs) : split cs = [cs] := by
  induction cs with
  | nil => rfl
  | cons c cs ih =>
    rw [List.mem_cons, not_or] at h
    rw [split, if_neg (Ne.symm h.1), ih h.2]

/-- A text without slashes denotes one name. -/
theorem Path.ofString_of_notMem {cs : List Char} (h : '/' ∉ cs) (hname : isName cs = true) :
    ofString (String.ofList cs) = ⟨.relative, [String.ofList cs]⟩ := by
  have hanchor : anchorOf cs = .relative := by
    fun_cases anchorOf cs with
    | case4 => rfl
    | case1 | case2 | case3 => simp at h
  rw [ofString, String.toList_ofList, hanchor, split_of_notMem h, List.filter_cons_of_pos hname]
  rfl

theorem Tree.status_of_long_name {tree : Tree} {changes : Int} {name : String}
    (root : tree.get? [] = some (.directory changes)) (long : maxName < name.utf8ByteSize) :
    tree.disk.status ⟨.relative, [name]⟩ = .error .nameTooLong := by
  have hfind : tree.find ⟨.relative, [name]⟩ = .error .nameTooLong := by
    rw [find]
    split
    · rfl
    · rw [if_pos rfl, walk, entryAt, root]
      exact if_pos long
  dsimp only [disk]
  rw [hfind]
  rfl

/-- A configuration under a name that is too long for the disk leaves the user without an answer. -/
theorem transcript_of_long_config {tree : Tree} {changes : Int} {name : List Char}
    (request : Request.ofTexts texts = .ok (.run arguments))
    (config : arguments.config = some (String.ofList name)) (slash : '/' ∉ name)
    (root : tree.get? [] = some (.directory changes))
    (long : Tree.maxName < (String.ofList name).utf8ByteSize) (later : List Disk) :
    transcript texts tree.disk later =
      .error (.probe (.refused ⟨.nameTooLong, ⟨.relative, [String.ofList name]⟩⟩)) := by
  have hne {cs : List Char} (h : ¬ Tree.maxName < (String.ofList cs).utf8ByteSize) : name ≠ cs := by
    rintro rfl
    exact h long
  have hname : Path.isName name = true := by
    have hnil : name ≠ [] := hne (by decide)
    have hpoint : name ≠ ['.'] := hne (by decide)
    simp [Path.isName, hnil, hpoint]
  have hpath : arguments.configPath = ⟨.relative, [String.ofList name]⟩ := by
    have hempty : (String.ofList name).isEmpty = false := by
      rw [String.isEmpty_eq_false_iff, ne_eq, String.ofList_eq_empty_iff]
      exact hne (by decide)
    rw [Arguments.configPath, Arguments.namedConfig?, config, Option.filter_some, hempty,
      ← Path.ofString_of_notMem slash hname]
    rfl
  have hescapes : Escapes tree.disk arguments
      (.probe (.refused ⟨.nameTooLong, arguments.configPath⟩)) :=
    .refused (hpath ▸ Tree.status_of_long_name root long) nofun nofun
  rw [transcript, plan, request]
  dsimp only
  rw [Arguments.plan, resolve_eq_breakdown_iff.mpr hescapes, hpath]
  rfl

/-- A text that does not start with a hyphen is taken as the path of the configuration. -/
theorem ofTexts_of_config {c : Char} (hc : c ≠ '-') (cs : List Char) :
    Request.ofTexts ["a.scad", "--config", String.ofList (c :: cs)] = .ok (.run
      ⟨⟨some (String.ofList (c :: cs)), [], none, false, false, false⟩, "a.scad", []⟩) := by
  have hsource : Word.ofText "a.scad" = .ok (.operand "a.scad") := rfl
  have hswitch : Word.ofText "--config" = .ok (.switch (.setting .config) none) := rfl
  have hvalue : Word.ofText (String.ofList (c :: cs)) =
      .ok (.operand (String.ofList (c :: cs))) := by
    rw [Word.ofText, String.toList_ofList]
    split <;> simp_all
  have hseparator : String.ofList (c :: cs) ≠ "--" := by
    intro h
    have htoList := congrArg String.toList h
    rw [String.toList_ofList] at htoList
    exact hc (List.cons.inj htoList).1
  generalize String.ofList (c :: cs) = value at hvalue hseparator
  have hwords : Word.ofTexts ["a.scad", "--config", value] =
      .ok [.operand "a.scad", .switch (.setting .config) none, .operand value] := by
    simp [Word.ofTexts, hsource, hswitch, hvalue, hseparator, bind, Except.bind, pure, Except.pure]
  rw [Request.ofTexts, hwords]
  rfl

theorem transcript_of_no_answer :
    transcript ["a.scad", "--config", String.ofList ('c' :: List.replicate 255 'c')]
        Tree.empty.disk [] =
      .error (.probe (.refused
        ⟨.nameTooLong, ⟨.relative, [String.ofList ('c' :: List.replicate 255 'c')]⟩⟩)) ∧
    transcript ["a.scad", "--ignore=--"] Tree.empty.disk [] = .error .noCode := by
  refine ⟨transcript_of_long_config (ofTexts_of_config (by decide) _) rfl ?_ rfl ?_ [], rfl⟩
  · rw [List.mem_cons, List.mem_replicate]
    decide
  · decide +kernel

end ScadText
