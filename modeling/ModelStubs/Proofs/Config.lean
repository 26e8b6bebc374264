import ModelStubs.Config.File
import ModelStubs.Proofs.Locate
import ModelStubs.Proofs.Toml.Document

/-!
# Configurations are read back

The document of a configuration is a list of lines, each of which is read as the statement it was written for
(`readsLine_lines`). The statements make its three tables (`assemble?_lines`), from which each part of the configuration is
read field by field (`ofValue_entries`). A file that a configuration was saved to is the file that is read
(`readFile_of_save`), and loading it makes no directory where all are there (`load_of_save`).
-/

namespace ModelStubs.Config

open Toml (ReadsLine Statement Fault Value Entries)

/-! ## The document -/

/-- The document of a configuration line by line, with what each line says. -/
def lines (config : Config) : List (Text × Statement) :=
  [(Toml.Write.header "input", .header (.table ["input".toList])),
    (Toml.Write.pair "model_dir" (Toml.Write.string config.input.modelDir),
      .pair ["model_dir".toList] (.string config.input.modelDir)),
    (Toml.Write.pair "exclude" (Toml.Write.strings config.input.exclude),
      .pair ["exclude".toList] (.array (config.input.exclude.map Value.string))),
    ('\n' :: Toml.Write.header "output", .header (.table ["output".toList])),
    (Toml.Write.pair "targets" (Toml.Write.strings config.targets.paths),
      .pair ["targets".toList] (.array (config.targets.paths.map Value.string))),
    (Toml.Write.pair "skip_unchanged" (Toml.Write.boolean config.targets.skipUnchanged),
      .pair ["skip_unchanged".toList] (.boolean config.targets.skipUnchanged)),
    ('\n' :: Toml.Write.header "naming", .header (.table ["naming".toList])),
    (Toml.Write.pair "namespace" (Toml.Write.string config.naming.spaceName),
      .pair ["namespace".toList] (.string config.naming.spaceName)),
    (Toml.Write.pair "camel_case_properties" (Toml.Write.boolean config.naming.camelCaseProperties),
      .pair ["camel_case_properties".toList] (.boolean config.naming.camelCaseProperties))]

/-- The lines of a configuration make up its text. -/
theorem flatMap_lines (config : Config) : config.lines.flatMap Prod.fst = config.toText := by
  simp [lines, toText]

/-- Each line of a configuration is read as its statement, whatever follows. -/
theorem readsLine_lines (config : Config) : ∀ l ∈ config.lines, ReadsLine l.1 l.2 := by
  intro l hl
  simp only [lines, List.mem_cons, List.not_mem_nil, or_false] at hl
  rcases hl with rfl | rfl | rfl | rfl | rfl | rfl | rfl | rfl | rfl
  · exact Toml.readsLine_header (by decide)
  · exact Toml.readsLine_string (by decide) _
  · exact Toml.readsLine_strings (by decide) _
  · exact (Toml.readsLine_header (by decide)).newline
  · exact Toml.readsLine_strings (by decide) _
  · exact Toml.readsLine_boolean (by decide) _
  · exact (Toml.readsLine_header (by decide)).newline
  · exact Toml.readsLine_string (by decide) _
  · exact Toml.readsLine_boolean (by decide) _

/-- The table `input` of a document. -/
def inputTable (input : Input) : Value :=
  .table .header [("exclude".toList, .array (input.exclude.map Value.string)), ("model_dir".toList, .string input.modelDir)]

/-- The table `output` of a document. -/
def targetsTable (targets : Targets) : Value :=
  .table .header [("skip_unchanged".toList, .boolean targets.skipUnchanged),
    ("targets".toList, .array (targets.paths.map Value.string))]

/-- The table `naming` of a document. -/
def namingTable (naming : Naming) : Value :=
  .table .header [("camel_case_properties".toList, .boolean naming.camelCaseProperties),
    ("namespace".toList, .string naming.spaceName)]

/-- The tables of a document. -/
def entries (config : Config) : Entries :=
  [("input".toList, inputTable config.input), ("naming".toList, namingTable config.naming),
    ("output".toList, targetsTable config.targets)]

/-- The statements of a configuration make up its tables. -/
theorem assemble?_lines (config : Config) : Toml.assemble? (config.lines.map Prod.snd) = some config.entries := by
  rfl

/-- The text of a configuration is read as its tables. -/
theorem document?_toText (config : Config) : Toml.document? config.toText = some config.entries := by
  have ho : Toml.Quoted.OpensWithout '\uFEFF' (config.lines.flatMap Prod.fst) := by
    rw [flatMap_lines]
    exact Toml.Quoted.opensWithout_cons (by decide) _
  rw [Toml.document?, ← flatMap_lines, Toml.statements?_lines config.readsLine_lines ho]
  exact assemble?_lines config

/-! ## Tables -/

/-- A list of texts is read back by a reader of texts or of paths. -/
theorem list_map_string {item : Value → Except Fault Text} (hi : ∀ t, item (.string t) = .ok t) (ts : List Text) :
    Toml.Decode.list item (.array (ts.map Value.string)) = .ok ts := by
  rw [Toml.Decode.list]
  induction ts with
  | nil => rfl
  | cons t ts ih =>
    rw [List.map_cons, List.mapM_cons, ih, hi]
    rfl

section Record

variable {δ α : Type} {expected : String} {start : δ} {field : δ → Text → Value → Except Fault δ}
  {finish : δ → Except Fault α} {fromArray : List Value → Except Fault α}

/-- A record is read from a table of which every entry is taken into the draft. -/
theorem record_table (draft : δ) {origin : Toml.TableOrigin} {es : Entries}
    (h : es.foldlM (fun draft (key, v) => field draft key v) start = .ok draft) :
    Toml.Decode.record expected start field finish fromArray (.table origin es) = finish draft := by
  rw [Toml.Decode.record, h]
  rfl

/-- The first entry of a table is taken before the others. -/
theorem foldlM_field {draft : δ} {key : Text} {v : Value} (h : field start key v = .ok draft) (es : Entries) :
    List.foldlM (fun draft ((key, v) : Text × Value) => field draft key v) start ((key, v) :: es) =
      es.foldlM (fun draft (key, v) => field draft key v) draft := by
  simp only [List.foldlM_cons, h]
  rfl

end Record

/-- The list of excluded names is read back. -/
theorem inputField_exclude (draft : InputDraft) (ts : List Text) :
    inputField draft "exclude".toList (.array (ts.map Value.string)) = .ok { draft with exclude := some ts } := by
  delta inputField
  rw [if_neg (by decide), if_pos rfl, list_map_string fun _ => rfl]
  rfl

/-- The table of the input is read back. -/
theorem readInput_inputTable (input : Input) : readInput (inputTable input) = .ok input := by
  delta readInput
  rw [inputTable, record_table ⟨some input.modelDir, some input.exclude⟩]
  · rfl
  · rw [foldlM_field (inputField_exclude _ _)]
    rfl

/-- The list of targets is read back. -/
theorem targetsField_targets (draft : TargetsDraft) (ts : List Text) :
    targetsField draft "targets".toList (.array (ts.map Value.string)) = .ok { draft with paths := some ts } := by
  delta targetsField
  rw [if_pos rfl, list_map_string fun _ => rfl]
  rfl

/-- The table of the output is read back. -/
theorem readTargets_targetsTable (targets : Targets) : readTargets (targetsTable targets) = .ok targets := by
  have hs : targetsField ⟨none, none⟩ "skip_unchanged".toList (.boolean targets.skipUnchanged) =
      .ok ⟨none, some targets.skipUnchanged⟩ := rfl
  delta readTargets
  rw [targetsTable, record_table ⟨some targets.paths, some targets.skipUnchanged⟩]
  · rfl
  · rw [foldlM_field hs, foldlM_field (targetsField_targets _ _)]
    rfl

/-- The table of the naming is read back. -/
theorem readNaming_namingTable (naming : Naming) : readNaming (namingTable naming) = .ok naming := rfl

/-- The first entry of the document gives the input. -/
theorem field_input (draft : Draft) (input : Input) :
    field draft "input".toList (inputTable input) = .ok { draft with input := some input } := by
  delta field
  rw [if_pos rfl, readInput_inputTable]
  rfl

/-- The second entry of the document gives the targets. -/
theorem field_output (draft : Draft) (targets : Targets) :
    field draft "output".toList (targetsTable targets) = .ok { draft with targets := some targets } := by
  delta field
  rw [if_neg (by decide), if_pos rfl, readTargets_targetsTable]
  rfl

/-- The third entry of the document gives the naming. -/
theorem field_naming (draft : Draft) (naming : Naming) :
    field draft "naming".toList (namingTable naming) = .ok { draft with naming := some naming } := by
  delta field
  rw [if_neg (by decide), if_neg (by decide), if_pos rfl, readNaming_namingTable]
  rfl

/-- The tables of a configuration are read as the configuration. -/
theorem ofValue_entries (config : Config) : ofValue (.table .header config.entries) = .ok config := by
  delta ofValue
  rw [entries, record_table ⟨some config.input, some config.targets, some config.naming⟩]
  · rfl
  · rw [foldlM_field (field_input _ _), foldlM_field (field_naming _ _), foldlM_field (field_output _ _)]
    rfl

/-- Reading undoes writing. -/
theorem ofText_toText (config : Config) : ofText config.toText = .ok config := by
  rw [ofText, Toml.decode, document?_toText]
  exact ofValue_entries config

/-! ## Files -/

/-- A file that holds the text of a configuration is read as the configuration. -/
theorem readFile_of_read {fs : FileSystem} {config : Config} {p : Path}
    (h : fs.read p = .ok (Text.encode config.toText)) : readFile fs p = .ok config := by
  rw [readFile, h]
  simp only [Text.decode?_encode, ofText_toText]

/-- A configuration that was stored is read from its file. -/
theorem readFile_of_save {fs after : FileSystem} {config : Config} {p : Path} (h : save fs config p = .ok after) :
    readFile after p = .ok config := by
  rw [save] at h
  split at h
  · rename_i written hw
    cases h
    exact readFile_of_read (FileSystem.read_of_write hw)
  · nomatch h

/-- Where every target has a directory, none is made. -/
theorem makeTargetDirs_of_has {fs : FileSystem} {targets : List Path}
    (h : ∀ target ∈ targets, ∀ dir, Path.parent? target = some dir → dir = [] ∨ fs.has dir = true) :
    makeTargetDirs targets fs = (.ok (), fs) := by
  induction targets with
  | nil => rfl
  | cons target rest ih =>
    have hrest := ih fun t ht => h t (List.mem_cons_of_mem _ ht)
    rw [makeTargetDirs]
    cases hp : Path.parent? target with
    | none => exact hrest
    | some dir => exact (if_pos (h target List.mem_cons_self dir hp)).trans hrest

/-- A configuration with a model that is there, with targets and with a name for the space is accepted. -/
theorem check_eq_ok {fs : FileSystem} {config : Config} (hm : fs.has config.input.modelDir = true)
    (ht : config.targets.paths ≠ []) (hs : Text.trim config.naming.spaceName ≠ []) : check fs config = .ok () := by
  rw [check, hm, if_neg (by decide), if_neg ht, if_neg hs]

/-- The document of a configuration is read as the configuration. So is a file that it was saved to; and if then the model
and the directories of all targets are there, there is a target, and the namespace is not blank, loading that file gives
the configuration and changes nothing. -/
theorem load_of_save (config : Config) :
    ofText config.toText = .ok config ∧
      ∀ fs p after, save fs config p = .ok after →
        readFile after p = .ok config ∧
          (after.has config.input.modelDir = true → config.targets.paths ≠ [] →
            Text.trim config.naming.spaceName ≠ [] →
            (∀ target ∈ config.targets.paths, ∀ dir, Path.parent? target = some dir → dir = [] ∨ after.has dir = true) →
            load after p = (.ok config, after)) := by
  refine ⟨ofText_toText config, fun fs p after h => ?_⟩
  have hread := readFile_of_save h
  refine ⟨hread, fun hm ht hs hdirs => ?_⟩
  rw [load, hread]
  simp only [check_eq_ok hm ht hs, makeTargetDirs_of_has hdirs]

/-- A directory with a model, and a link to a file that is not there. -/
def linked : FileSystem :=
  ((FileSystem.empty "work".toList).put ["work".toList] "models".toList .directory).put ["work".toList] "c.toml".toList
    (.link "models/saved.toml".toList)

/-- A configuration whose texts are each quoted in another way. -/
def quoted : Config where
  input := ⟨"models".toList, ["it's".toList, "a\"b\\c".toList, "'''\"\"\"\"\x7f".toList, "\r\n'''".toList, "\n".toList]⟩
  targets := ⟨["a.ts".toList, "models/ü \"b\".js".toList], false⟩
  naming := ⟨" shop ".toList, true⟩

/-- That configuration is loaded from the link that it was saved to. -/
theorem quoted_loaded : ∃ after, save linked quoted "c.toml".toList = .ok after ∧
    load after "c.toml".toList = (.ok quoted, after) := by
  have h : (match save linked quoted "c.toml".toList with
      | .ok after => after.has "models".toList
      | .error _ => false) = true := by
    decide +kernel
  cases hs : save linked quoted "c.toml".toList with
  | error failure =>
    rw [hs] at h
    nomatch h
  | ok after =>
    rw [hs] at h
    refine ⟨after, rfl, ((load_of_save quoted).2 linked _ after hs).2 h (by decide) (by decide +kernel) ?_⟩
    have hall : ∀ target ∈ quoted.targets.paths, Path.parent? target = some [] ∨
        Path.parent? target = some "models".toList := by
      decide +kernel
    intro target ht dir hd
    rcases hall target ht with he | he
    · exact Or.inl (Option.some.inj (hd.symm.trans he))
    · obtain rfl := Option.some.inj (hd.symm.trans he)
      exact Or.inr h

end ModelStubs.Config
