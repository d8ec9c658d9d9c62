import SdlPhp.Proofs.Generation.Parts
import SdlPhp.Proofs.Php.Namespace
import SdlPhp.Proofs.World.PathText

/-!
# Derived namespaces

A namespace that is derived from the directories of a file is made of their segments
(`exists_derivedNamespace`). A segment is an identifier exactly when the first letter or digit of
its directory is a letter (`isIdentifierText_toPascal`). So the derived namespace is one that would
be accepted if the options named it, unless there is a directory whose name has a digit first
(`derivedNamespace_wellFormed_iff`).
-/

namespace SdlPhp

/-- What is asked of a namespace that options name: each of its segments is an identifier. -/
def WellFormedNamespace (ns : String) : Prop :=
  ∀ segment ∈ Options.segments ns, Options.isIdentifierText segment = true

instance (ns : String) : Decidable (WellFormedNamespace ns) := List.decidableBAll _ _

/-- Nothing is said about a namespace exactly if it is as it is asked to be. -/
theorem Options.segmentWarnings_eq_nil_iff {ns : String} (hne : ns ≠ "") :
    Options.segmentWarnings ns = [] ↔ WellFormedNamespace ns := by
  rw [Options.segmentWarnings, if_neg (by simpa using hne), List.map_eq_nil_iff,
    List.filter_eq_nil_iff]
  simp [WellFormedNamespace]

namespace Php

open Naming

/-! ## Segments that are identifiers -/

/-- A text of letters and digits is an identifier if it starts with a letter. -/
theorem isIdentifier_of_isAlphanum {cs : List Char} (h : ∀ c ∈ cs, c.isAlphanum = true) :
    Text.isIdentifier cs = cs.head?.any Char.isAlpha := by
  cases cs with
  | nil => rfl
  | cons c cs =>
    rw [List.forall_mem_cons] at h
    have first : Text.startsIdentifier c = c.isAlpha :=
      forall_alphanum (p := fun c => Text.startsIdentifier c = c.isAlpha) (by decide) h.1
    have others : cs.all Text.continuesIdentifier = true := by
      refine List.all_eq_true.2 fun d hd => ?_
      exact forall_alphanum (p := fun c => Text.continuesIdentifier c = true) (by decide) (h.2 d hd)
    rw [Text.isIdentifier, first, others, Bool.and_true]
    rfl

/-- The first letter or digit of a text is a letter. -/
def letterFirst (name : String) : Bool := (name.toList.find? Char.isAlphanum).any Char.isAlpha

theorem isIdentifierText_toPascal (name : String) :
    Options.isIdentifierText (toPascal name) = letterFirst name := by
  rw [Options.isIdentifierText, toList_toPascal,
    isIdentifier_of_isAlphanum (isAlphanum_of_mem_pascal name.toList), head?_pascal, letterFirst]
  cases hfirst : name.toList.find? Char.isAlphanum with
  | none => rfl
  | some c =>
    exact forall_alphanum (p := fun c => c.toUpper.isAlpha = c.isAlpha) (by decide)
      (List.find?_some hfirst)

/-! ## Directories of a file -/

/-- The names of the directories that the path of the file goes through. -/
def directoryNames (file : String) : List String := (Path.ofText file).parent.parts

/-- The text of the directory of a file gives the segments of its directories. -/
theorem namespaceSegments_parent (file : String) :
    namespaceSegments (Path.ofText (Path.ofText file).parent.text) =
      ((directoryNames file).filter givesSegment).map toPascal := by
  rw [directoryNames]
  by_cases hnil : (Path.ofText file).parent.parts = []
  · have bare : (Path.ofText file).parent = ⟨(Path.ofText file).root, []⟩ := by
      rw [← hnil]
      rfl
    rw [bare]
    cases (Path.ofText file).root <;> decide
  · have parts : (Path.ofText file).parent.HasParts :=
      ⟨hnil, fun _ hpart => Path.isPart_of_mem ((List.dropLast_sublist _).subset hpart)⟩
    rw [parts.ofText_text, namespaceSegments_eq_parts]

end Php

/-- The names of the directories of the file into which the options ask to write, if they do. -/
def Options.directoryNames (o : Options) : List String :=
  match o.outputFile with
  | .value (some file) => Php.directoryNames file
  | _ => []

namespace Php

open Naming

variable {o : Options}

/-- Without a namespace of their own, checked options have that of some directory, the segments of
which are those of the directories of their file. -/
theorem exists_derivedNamespace (ho : o.Checked) (hnone : givenNamespace? o = none) :
    ∃ directory, resolveNamespace o = .ok (.value (namespaceOfDirectory directory)) ∧
      namespaceSegments (Path.ofText directory) =
        (o.directoryNames.filter givesSegment).map toPascal := by
  obtain ⟨file, hfile⟩ := ho.outputFile
  rw [resolveNamespace, hnone, derivedNamespace, Options.directoryNames, hfile]
  cases file with
  | none => exact ⟨"", by rw [namespaceOfDirectory_empty]; rfl, by decide⟩
  | some file =>
    by_cases hempty : file.isEmpty = true
    · rw [String.isEmpty_iff] at hempty
      subst hempty
      exact ⟨"", by rw [namespaceOfDirectory_empty]; rfl, by decide⟩
    · refine ⟨(Path.ofText file).parent.text, ?_, namespaceSegments_parent file⟩
      simp only [Option.filter_some, hempty, Bool.not_false, if_true]
      rfl

theorem segments_namespaceOfDirectory (directory : String) :
    let segments := namespaceSegments (Path.ofText directory)
    Options.segments (namespaceOfDirectory directory) =
      if segments = [] then ["App", "Generated"] else segments := by
  intro segments
  split_ifs with hnil
  · have hdefault : namespaceOfDirectory directory = defaultNamespace :=
      congrArg namespaceOfSegments hnil
    rw [hdefault]
    decide
  · exact segments_namespaceOfSegments (fun _ => isSegment_of_mem) hnil

theorem namespaceOfDirectory_ne_empty (directory : String) :
    namespaceOfDirectory directory ≠ "" := by
  intro hempty
  have hsegments := segments_namespaceOfDirectory directory
  rw [hempty] at hsegments
  have hmem : "" ∈ Options.segments "" := by decide
  rw [hsegments] at hmem
  split_ifs at hmem with hnil
  · exact absurd hmem (by decide)
  · exact ne_empty_of_mem_namespaceSegments hmem rfl

/-- The namespace of a directory is well formed if its segments are; the default one is. -/
theorem wellFormed_namespaceOfDirectory_iff (directory : String) :
    WellFormedNamespace (namespaceOfDirectory directory) ↔
      ∀ segment ∈ namespaceSegments (Path.ofText directory),
        Options.isIdentifierText segment = true := by
  rw [WellFormedNamespace, segments_namespaceOfDirectory]
  split_ifs with hnil
  · rw [hnil]
    exact iff_of_true (by decide) (List.forall_mem_nil _)
  · rfl

/-- Without a namespace of their own, options get a derived one, which stands in the line of the
namespace. It is one about which nothing would be said if the options named it, exactly when no
directory of the file that gives a segment has a digit before its first letter. -/
theorem derivedNamespace_wellFormed_iff {w : World} {defaults overrides : Layer}
    {file : Option String} (hload : Options.load w defaults overrides file = .ok o)
    (hnone : givenNamespace? o = none) :
    ∃ ns, resolveNamespace o = .ok (.value ns) ∧
      (∀ body, ∃ f, SourceFile.ofBody o body = .ok f ∧
        f.namespaceLine = "namespace " ++ ns ++ ";") ∧
      (Options.namespaceWarnings { o with phpNamespace := .value (some ns) } = .ok [] ↔
        WellFormedNamespace ns) ∧
      (WellFormedNamespace ns ↔
        ∀ name ∈ o.directoryNames, givesSegment name = true → letterFirst name = true) := by
  have ho := Options.load_checked hload
  obtain ⟨directory, hns, hsegments⟩ := exists_derivedNamespace ho hnone
  refine ⟨namespaceOfDirectory directory, hns, fun body => ?_, ?_, ?_⟩
  · obtain ⟨imports, -, hfile⟩ := ho.ofBody hns body
    exact ⟨_, hfile, rfl⟩
  · rw [← Options.segmentWarnings_eq_nil_iff (namespaceOfDirectory_ne_empty directory)]
    exact (Except.ok.injEq (Options.segmentWarnings _) []).to_iff
  · rw [wellFormed_namespaceOfDirectory_iff, hsegments, List.forall_mem_map]
    simp only [List.mem_filter, isIdentifierText_toPascal, and_imp]

/-- Steps upwards, a name without a letter or digit, and digits behind a letter do no harm. -/
theorem derivedNamespace_wellFormed_inner :
    let overrides : Layer := [("output_file", .text "../src/码/_v2d/x.php")]
    ∃ o, Options.load {} Options.defaultLayer overrides none = .ok o ∧
      givenNamespace? o = none ∧ o.directoryNames = ["..", "src", "码", "_v2d"] ∧
      resolveNamespace o = .ok (.value "Src\\V2d") ∧ WellFormedNamespace "Src\\V2d" := by
  intro overrides
  let o : Options := { outputFile := .value (some "../src/码/_v2d/x.php") }
  have hload : Options.load {} Options.defaultLayer overrides none = .ok o := rfl
  have hnames : o.directoryNames = ["..", "src", "码", "_v2d"] := by decide +kernel
  obtain ⟨ns, hns, -, -, hvalid⟩ := derivedNamespace_wellFormed_iff hload rfl
  have hderived : namespaceOfDirectory (Path.ofText "../src/码/_v2d/x.php").parent.text =
      "Src\\V2d" := by decide +kernel
  have hresolved : resolveNamespace o = .ok (.value "Src\\V2d") :=
    congrArg (Except.ok ∘ Setting.value) hderived
  cases hns.symm.trans hresolved
  refine ⟨o, hload, rfl, hnames, hresolved, hvalid.2 ?_⟩
  rw [hnames]
  decide

/-- A directory whose name starts with a digit gives a segment that is no identifier. There is a
warning about it where the options name it. -/
theorem not_wellFormed_derived_digit :
    let overrides : Layer := [("output_file", .text "2d/x.php")]
    ∃ o, Options.load {} Options.defaultLayer overrides none = .ok o ∧
      givenNamespace? o = none ∧ resolveNamespace o = .ok (.value "2d") ∧
      ¬ WellFormedNamespace "2d" ∧
      Options.namespaceWarnings { o with phpNamespace := .value (some "2d") } =
        .ok ["Invalid namespace segment: '2d'"] := by
  intro overrides
  have hderived : namespaceOfDirectory (Path.ofText "2d/x.php").parent.text = "2d" := by
    decide +kernel
  have hwarned : Options.segmentWarnings "2d" = ["Invalid namespace segment: '2d'"] := by decide
  refine ⟨{ outputFile := .value (some "2d/x.php") }, rfl, rfl, ?_, by decide, ?_⟩
  · exact congrArg (Except.ok ∘ Setting.value) hderived
  · exact congrArg Except.ok hwarned

end Php

end SdlPhp
