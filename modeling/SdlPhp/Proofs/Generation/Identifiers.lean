import SdlPhp.Proofs.Generation.DeclaredNames
import SdlPhp.Proofs.Naming.Words
import SdlPhp.Proofs.Schema.Names

/-!
# Identifiers

A declared name is made of letters, digits and underscores, so that without a prefix of types it is
an identifier if it starts with a letter or an underscore. The cases that keep underscores keep what
a name starts with. Snake case drops what stands before the first word: there a name is an
identifier exactly when the first letter or digit of what it is made from is a letter
(`named_phpName_iff`, and for a whole file `declared_identifiers_iff`).
-/

namespace SdlPhp

open Attempt Php
open Naming (convert)
open Sdl (isNameChar isNameChar_of_mem isNameStart)

/-! ## First characters -/

namespace Naming

/-- The first letter or digit of a name starts its first word. -/
theorem words_cases (name : List Char) :
    (words name = [] ∧ name.find? Char.isAlphanum = none) ∨
      ∃ c w ws, words name = (c :: w) :: ws ∧ name.find? Char.isAlphanum = some c := by
  rw [← List.head?_filter, ← flatten_words]
  cases hwords : words name with
  | nil => exact .inl ⟨rfl, rfl⟩
  | cons w ws =>
    obtain ⟨c, w, rfl⟩ :=
      List.exists_cons_of_ne_nil (ne_nil_of_mem_words (hwords ▸ List.mem_cons_self))
    exact .inr ⟨c, w, ws, rfl, rfl⟩

theorem head?_snake (name : List Char) :
    (snake name).head? = (name.find? Char.isAlphanum).map Char.toLower := by
  rw [snake]
  rcases words_cases name with ⟨hwords, hfirst⟩ | ⟨c, w, ws, hwords, hfirst⟩
  · rw [hwords, hfirst]
    rfl
  · rw [hwords, hfirst, List.map_cons, Text.head?_join (by simp [lower])]
    rfl

theorem head?_pascal (name : List Char) :
    (pascal name).head? = (name.find? Char.isAlphanum).map Char.toUpper := by
  rw [pascal]
  rcases words_cases name with ⟨hwords, hfirst⟩ | ⟨c, w, ws, hwords, hfirst⟩
  · rw [hwords, hfirst]
    rfl
  · rw [hwords, hfirst]
    rfl

theorem head?_camel (name : List Char) :
    (camel name).head? = (name.find? Char.isAlphanum).map fun c => c.toUpper.toLower := by
  have hpascal := head?_pascal name
  rw [camel]
  cases hname : pascal name with
  | nil =>
    rw [hname, eq_comm, List.head?_nil, Option.map_eq_none_iff] at hpascal
    rw [hpascal]
    rfl
  | cons c cs =>
    rw [hname, eq_comm, List.head?_cons, Option.map_eq_some_iff] at hpascal
    obtain ⟨a, hfirst, rfl⟩ := hpascal
    rw [hfirst]
    rfl

/-- A name that is converted chunk by chunk keeps an underscore at its start, and starts with a
letter where it did, if the conversion of a chunk keeps letters at the start. -/
theorem head?_chunkwise {f : List Char → List Char} (hf : f [] = [])
    (hletter : ∀ c cs, c.isAlpha = true → (f (c :: cs)).head?.any isNameStart = true)
    {c : Char} (hc : isNameStart c = true) (cs : List Char) :
    (chunkwise f (c :: cs)).head?.any isNameStart = true := by
  rw [chunkwise]
  by_cases hsep : c = '_'
  · obtain ⟨p, ps, hpieces⟩ := List.exists_cons_of_ne_nil (Text.pieces_ne_nil '_' cs)
    rw [hsep, Text.pieces_cons_sep, hpieces, List.map_cons, List.map_cons, hf,
      Text.join_cons_cons]
    rfl
  · have halpha : c.isAlpha = true := by simpa [isNameStart, hsep] using hc
    obtain ⟨p, ps, -, hpieces⟩ := Text.pieces_cons_of_ne cs hsep
    have hstart := hletter c p halpha
    have hne : f (c :: p) ≠ [] := by
      intro hempty
      rw [hempty] at hstart
      exact Bool.noConfusion hstart
    rw [hpieces, List.map_cons, Text.head?_join hne, hstart]

theorem isNameStart_toLower {c : Char} (h : c.isAlphanum = true) :
    isNameStart c.toLower = c.isAlpha :=
  forall_alphanum (p := fun c => isNameStart c.toLower = c.isAlpha) (by decide) h

theorem isNameStart_toUpper {c : Char} (h : c.isAlphanum = true) :
    isNameStart c.toUpper = c.isAlpha :=
  forall_alphanum (p := fun c => isNameStart c.toUpper = c.isAlpha) (by decide) h

theorem isNameStart_toUpper_toLower {c : Char} (h : c.isAlphanum = true) :
    isNameStart c.toUpper.toLower = c.isAlpha :=
  forall_alphanum (p := fun c => isNameStart c.toUpper.toLower = c.isAlpha) (by decide) h

/-- But for snake case, a converted name starts as a name does. -/
theorem head?_convert {case : NameCase} (hcase : case ≠ .snake) {name : String}
    (h : Sdl.Named name) : (convert case name).toList.head?.any isNameStart = true := by
  rw [toList_convert]
  rw [Sdl.Named] at h
  cases hname : name.toList with
  | nil => simp [hname, Sdl.isName] at h
  | cons c cs =>
    rw [hname, Sdl.isName, Bool.and_eq_true] at h
    cases case with
    | keep => exact h.1
    | snake => exact absurd rfl hcase
    | pascal =>
      refine head?_chunkwise rfl (fun c cs hc => ?_) h.1 cs
      have halnum := isAlphanum_of_isAlpha hc
      rw [head?_pascal, List.find?_cons_of_pos halnum]
      exact (isNameStart_toUpper halnum).trans hc
    | camel =>
      refine head?_chunkwise rfl (fun c cs hc => ?_) h.1 cs
      have halnum := isAlphanum_of_isAlpha hc
      rw [head?_camel, List.find?_cons_of_pos halnum]
      exact (isNameStart_toUpper_toLower halnum).trans hc

/-- A suffix shows at the start only if there is nothing before it. -/
theorem head?_withSuffix (name suff : String) :
    (withSuffix name suff).toList.head? = name.toList.head?.or suff.toList.head? := by
  rw [withSuffix]
  split
  · rename_i hsuffix
    obtain ⟨cs, hcs⟩ := List.isSuffixOf_iff_suffix.1 hsuffix
    rw [← hcs, List.head?_append, Option.or_assoc, Option.or_self]
  · rw [String.toList_append, List.head?_append]

end Naming

/-! ## Names of declarations -/

namespace Origin

/-- The names that the name of a declaration is made from. -/
def names : Origin → List String
  | enum name => [name]
  | input name => [name]
  | field type name => [type, name]

/-- What stands behind the converted names. -/
def suffix : Origin → String
  | enum _ => ""
  | input _ => "Input"
  | field _ _ => "Args"

/-- The first letter or digit of what the name is made from is a letter. -/
def StartsWithLetter (x : Origin) : Prop :=
  ((x.names.flatMap String.toList ++ x.suffix.toList).find? Char.isAlphanum).any Char.isAlpha = true

instance (x : Origin) : Decidable x.StartsWithLetter := inferInstanceAs (Decidable (_ = true))

end Origin

section Names

variable {o : Options} {case : NameCase} {x : Origin}

theorem phpName_of_bare (hbare : o.typesPrefix = .value "") (name : String) :
    o.phpName case name = convert case name := by
  rw [Options.phpName, hbare]
  exact String.empty_append

theorem isNameChar_of_mem_phpName (hbare : o.typesPrefix = .value "")
    (hx : ∀ n ∈ x.names, Sdl.Named n) : ∀ c ∈ (x.phpName o case).toList, isNameChar c = true := by
  have hconverted : ∀ n ∈ x.names, ∀ c ∈ (convert case n).toList, isNameChar c = true :=
    fun n hn => Naming.isNameChar_of_mem_convert case (isNameChar_of_mem (hx n hn))
  cases x with
  | enum name =>
    rw [Origin.phpName, phpName_of_bare hbare]
    exact hconverted name List.mem_cons_self
  | input name =>
    have hname := hconverted name List.mem_cons_self
    rw [Origin.phpName, Options.phpInputName, phpName_of_bare hbare, Naming.withSuffix]
    split
    · exact hname
    · rw [String.toList_append, List.forall_mem_append]
      exact ⟨hname, List.all_eq_true.1 (by decide)⟩
  | field type name =>
    rw [Origin.phpName, Options.phpArgsName, phpName_of_bare hbare, String.toList_append,
      String.toList_append, List.forall_mem_append, List.forall_mem_append]
    exact ⟨⟨hconverted type List.mem_cons_self,
      hconverted name (List.mem_cons_of_mem _ List.mem_cons_self)⟩,
      List.all_eq_true.1 (by decide)⟩

/-- The name of a declaration starts with the first of the converted names that is not empty, or
else with its suffix. -/
theorem head?_phpName (hbare : o.typesPrefix = .value "") :
    (x.phpName o case).toList.head? =
      (x.names.findSome? fun n => (convert case n).toList.head?).or x.suffix.toList.head? := by
  cases x with
  | enum name => simp [Origin.phpName, Origin.names, Origin.suffix, phpName_of_bare hbare]
  | input name =>
    simp [Origin.phpName, Options.phpInputName, Origin.names, Origin.suffix,
      phpName_of_bare hbare, Naming.head?_withSuffix]
  | field type name =>
    rw [Origin.phpName, Options.phpArgsName, phpName_of_bare hbare, String.toList_append,
      String.toList_append, List.head?_append, List.head?_append, Origin.names, Origin.suffix,
      List.findSome?_cons]
    cases (convert case type).toList.head? with
    | none => simp
    | some c => rfl

theorem named_phpName_iff (hbare : o.typesPrefix = .value "") (hx : ∀ n ∈ x.names, Sdl.Named n) :
    Sdl.Named (x.phpName o case) ↔ (case = .snake → x.StartsWithLetter) := by
  rw [Sdl.named_iff (isNameChar_of_mem_phpName hbare hx), head?_phpName hbare]
  by_cases hcase : case = .snake
  · have hletters : ∀ suff ∈ ["", "Input", "Args"],
        suff.toList.find? Char.isAlphanum = suff.toList.head? ∧
          suff.toList.head?.any isNameStart = suff.toList.head?.any Char.isAlpha := by decide
    have hsuffix := hletters x.suffix (by cases x <;> simp [Origin.suffix])
    have hconverted : (x.names.findSome? fun n => (convert case n).toList.head?) =
        (x.names.findSome? fun n => n.toList.find? Char.isAlphanum).map Char.toLower := by
      rw [List.map_findSome?]
      refine congrArg (x.names.findSome? ·) (funext fun n => ?_)
      rw [Naming.toList_convert, hcase]
      exact Naming.head?_snake n.toList
    rw [forall_prop_of_true hcase, Origin.StartsWithLetter, List.find?_append,
      List.find?_flatMap, hsuffix.1, hconverted]
    cases hfirst : x.names.findSome? fun n => n.toList.find? Char.isAlphanum with
    | none => simp [hsuffix.2]
    | some c =>
      obtain ⟨n, -, hn⟩ := List.exists_of_findSome?_eq_some hfirst
      simp [Naming.isNameStart_toLower (List.find?_some hn)]
  · rw [forall_prop_of_false hcase]
    refine iff_of_true ?_ trivial
    obtain ⟨n, ns, hnames⟩ : ∃ n ns, x.names = n :: ns := by
      cases x <;> exact ⟨_, _, rfl⟩
    have hstart := Naming.head?_convert hcase (hx n (hnames ▸ List.mem_cons_self))
    obtain ⟨c, hc, hc'⟩ := (Option.any_eq_true _ _).1 hstart
    rw [hnames, List.findSome?_cons, hc]
    exact hc'

end Names

/-! ## Declarations of a file -/

section File

variable {o : Options} {case : NameCase} {s : Schema}

/-- The names of an accepted text that declarations are made from are names of the language. -/
theorem named_of_mem_origins {sdl : String} (hs : Schema.parse sdl = .ok s) {x : Origin}
    (hx : x ∈ s.origins) : ∀ n ∈ x.names, Sdl.Named n := by
  obtain ⟨d, hd, hx⟩ := List.mem_flatMap.1 hx
  have hnamed := parse_named hs d hd
  cases d with
  | enum name values description =>
    obtain rfl := List.mem_singleton.1 hx
    exact List.forall_mem_singleton.2 hnamed.name
  | input name fields description =>
    obtain rfl := List.mem_singleton.1 hx
    exact List.forall_mem_singleton.2 hnamed.name
  | object name fields description =>
    obtain ⟨f, hf, rfl⟩ := List.mem_map.1 hx
    have hfield := hnamed.objectFields f (List.mem_filter.1 hf).1
    exact List.forall_mem_cons.2 ⟨hnamed.name, List.forall_mem_singleton.2 hfield⟩

/-- Without a prefix of types, the names of all declarations of a file are identifiers, but for
those in snake case that do not start with a letter. -/
theorem declared_identifiers_iff {w : World} {defaults overrides : Layer} {file : Option String}
    (hload : Options.load w defaults overrides file = .ok o) (hbare : o.typesPrefix = .value "")
    (hcase : o.nameCase = .ok case) {sdl : String} (hs : Schema.parse sdl = .ok s)
    {generated : Generated} (hrun : Generator.run { options := o } s = .ok generated) :
    ∃ (items : List Item) (f : SourceFile), s.Declares o items ∧
      generated.code = f.text true ∧
      f.body = String.ofList (Text.dropTrailing '\n'
        ("\n".intercalate (items.map (Item.text o))).toList) ∧
      ((∀ i ∈ items, Sdl.Named i.name) ↔
        (case = .snake → ∀ x ∈ s.origins, x.StartsWithLetter)) := by
  have ho := Options.load_checked hload
  obtain ⟨items, f, hitems, hcode, hbody⟩ := Generator.exists_declares_of_run ho hrun
  refine ⟨items, f, hitems, hcode, hbody, ?_⟩
  have hnames : (∀ i ∈ items, Sdl.Named i.name) ↔
      ∀ x ∈ s.origins, Sdl.Named (x.phpName o case) := by
    rw [← List.forall_mem_map (P := Sdl.Named), hitems.map_name ho hcase, List.forall_mem_map]
  rw [hnames]
  constructor
  · intro h hsnake x hx
    exact (named_phpName_iff hbare (named_of_mem_origins hs hx)).1 (h x hx) hsnake
  · intro h x hx
    exact (named_phpName_iff hbare (named_of_mem_origins hs hx)).2 fun hsnake => h hsnake x hx

/-- In snake case a digit behind an underscore is no harm within a name, nor are mere underscores
before a suffix. -/
theorem declared_identifiers_inner :
    let sdl := "type Query { _3d(size: Int): Int } input _ { x: Int } enum _Mode { ON }"
    ∃ o s generated items, Options.load {} Options.defaultLayer
        [("naming_convention", .text "snake")] none = .ok o ∧ o.typesPrefix = .value "" ∧
      o.nameCase = .ok .snake ∧ Schema.parse sdl = .ok s ∧
      Generator.run { options := o } s = .ok generated ∧ s.Declares o items ∧
      ∀ i ∈ items, Sdl.Named i.name := by
  intro sdl
  let o : Options := { namingConvention := .value "snake" }
  have hload : Options.load {} Options.defaultLayer [("naming_convention", .text "snake")] none =
      .ok o := rfl
  obtain ⟨s, hs⟩ := exists_ok_of_isNone (x := Schema.parse sdl) (by decide +kernel)
  have hcase : o.nameCase = .ok .snake := rfl
  obtain ⟨generated, hrun⟩ :=
    (Generator.exists_run_ok_iff (Options.load_checked hload) hcase hs).2 (.inl ⟨"    ", rfl⟩)
  obtain ⟨items, f, hitems, -, -, hnamed⟩ := declared_identifiers_iff hload rfl hcase hs hrun
  refine ⟨o, s, generated, items, hload, rfl, hcase, hs, hrun, hitems, hnamed.2 fun _ => ?_⟩
  have horigins : (Schema.parse sdl).toOption.map Schema.origins =
      some [.field "Query" "_3d", .input "_", .enum "_Mode"] := by decide +kernel
  rw [hs] at horigins
  rw [Option.some.inj horigins]
  decide

/-- Snake case leaves nothing of a name of underscores, and a digit at the start of a name that has
it behind an underscore. -/
theorem not_declared_identifiers_snake :
    let sdl := "enum _ { A } input _2d { x: Int }"
    ∃ o s generated items, Options.load {} Options.defaultLayer
        [("naming_convention", .text "snake")] none = .ok o ∧ o.typesPrefix = .value "" ∧
      o.nameCase = .ok .snake ∧ Schema.parse sdl = .ok s ∧
      Generator.run { options := o } s = .ok generated ∧ s.Declares o items ∧
      items.map Item.name = ["", "2dInput"] ∧ ¬ ∀ i ∈ items, Sdl.Named i.name := by
  intro sdl
  let o : Options := { namingConvention := .value "snake" }
  have hload : Options.load {} Options.defaultLayer [("naming_convention", .text "snake")] none =
      .ok o := rfl
  have ho := Options.load_checked hload
  obtain ⟨s, hs⟩ := exists_ok_of_isNone (x := Schema.parse sdl) (by decide +kernel)
  have hcase : o.nameCase = .ok .snake := rfl
  obtain ⟨generated, hrun⟩ := (Generator.exists_run_ok_iff ho hcase hs).2 (.inl ⟨"    ", rfl⟩)
  obtain ⟨items, f, hitems, -, -⟩ := Generator.exists_declares_of_run ho hrun
  have horigins : (Schema.parse sdl).toOption.map Schema.origins =
      some [.enum "_", .input "_2d"] := by decide +kernel
  rw [hs] at horigins
  have hnames : items.map Item.name = ["", "2dInput"] := by
    rw [hitems.map_name ho hcase, Option.some.inj horigins]
    decide
  refine ⟨o, s, generated, items, hload, rfl, hcase, hs, hrun, hitems, hnames, ?_⟩
  rw [← List.forall_mem_map (P := Sdl.Named), hnames]
  decide

end File

end SdlPhp
