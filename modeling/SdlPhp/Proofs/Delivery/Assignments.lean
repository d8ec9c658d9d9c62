import SdlPhp.Proofs.Delivery.Arguments
import SdlPhp.Proofs.Delivery.Literals
import SdlPhp.Proofs.Text.Blank

/-!
# Assignments on a command line

An item for a scalar assigns a type to a name, which stand around its first equals sign. An item for
a literal assigns it to a value of an enum, which are named around the first dot in front of that
sign. Items that have all these parts are accepted, and so are those for literals in which only the
name of the enum is missing, as it is not looked at (`exists_apply_iff`). All others are refused.
Main statement: `refusesMalformed_iff`.
-/

namespace SdlPhp

open Attempt

namespace Arguments

variable {w : World} {a : Arguments} {base o : Options} {f : Flag} {item : Given String}
  {items : List (Given String)} {text : String} {name value enum literal : List Char}

/-! ## The parts of an item -/

/-- The text assigns a value to a name: they stand around its first equals sign, and neither of them
is blank. -/
structure Assigns (text : String) (name value : List Char) : Prop where
  text_eq : text.toList = name ++ '=' :: value
  equals : '=' ∉ name
  name_blank : Text.allBlank name = false
  value_blank : Text.allBlank value = false

/-- The text assigns a literal to a value of an enum: the literal stands behind the first equals
sign, and the enum and the value around the first dot before it. Only the enum may be blank. -/
structure AssignsLiteral (text : String) (enum value literal : List Char) : Prop where
  text_eq : text.toList = enum ++ '.' :: (value ++ '=' :: literal)
  dot : '.' ∉ enum
  equals : '=' ∉ enum ++ value
  value_blank : Text.allBlank value = false
  literal_blank : Text.allBlank literal = false

/-- The item assigns a type to the name of a scalar, both without the blanks around them. -/
def GivesScalar (item : Given String) (e : String × String) : Prop :=
  ∃ text name value, item = .value text ∧ Assigns text name value ∧
    e = (String.ofList (Text.trim name), String.ofList (Text.trim value))

/-- The item assigns a literal to a value of an enum. Blanks next to the dot are not taken off. -/
def GivesLiteral (item : Given String) (l : (String × String) × String) : Prop :=
  ∃ text enum value literal, item = .value text ∧ AssignsLiteral text enum value literal ∧
    l = ((String.ofList (Text.trimStart enum), String.ofList (Text.trimEnd value)),
      String.ofList (Text.trim literal))

/-- The item has the form in which it is documented: name and type, none of them blank. -/
def IsScalarItem (item : Given String) : Prop :=
  ∃ text name value, item = .value text ∧ Assigns text name value

/-- The item has the form in which it is documented: enum, value and literal, none of them blank. -/
def IsLiteralItem (item : Given String) : Prop :=
  ∃ text enum value literal, item = .value text ∧ AssignsLiteral text enum value literal ∧
    Text.allBlank enum = false

/-- The item has a value and a literal, but the enum has no name. -/
def IsNamelessItem (item : Given String) : Prop :=
  ∃ text enum value literal, item = .value text ∧ AssignsLiteral text enum value literal ∧
    Text.allBlank enum = true

theorem isScalarItem_iff : IsScalarItem item ↔ ∃ e, GivesScalar item e := by
  constructor
  · rintro ⟨text, name, value, hitem, hassigns⟩
    exact ⟨_, text, name, value, hitem, hassigns, rfl⟩
  · rintro ⟨-, text, name, value, hitem, hassigns, -⟩
    exact ⟨text, name, value, hitem, hassigns⟩

theorem isLiteralItem_or_iff :
    IsLiteralItem item ∨ IsNamelessItem item ↔ ∃ l, GivesLiteral item l := by
  constructor
  · rintro (⟨text, enum, value, literal, hitem, hassigns, -⟩ |
      ⟨text, enum, value, literal, hitem, hassigns, -⟩)
    all_goals exact ⟨_, text, enum, value, literal, hitem, hassigns, rfl⟩
  · rintro ⟨-, text, enum, value, literal, hitem, hassigns, -⟩
    cases hblank : Text.allBlank enum with
    | false => exact .inl ⟨text, enum, value, literal, hitem, hassigns, hblank⟩
    | true => exact .inr ⟨text, enum, value, literal, hitem, hassigns, hblank⟩

/-! ## Reading an item -/

theorem assignment?_eq (htext : text.toList = name ++ '=' :: value) (hname : '=' ∉ name) :
    assignment? text =
      if Text.allBlank name || Text.allBlank value then none
      else some (String.ofList (Text.trim name), String.ofList (Text.trim value)) := by
  rw [assignment?, htext, Text.cutFirst_append_sep hname]

theorem assignment?_eq_some_iff {e : String × String} :
    assignment? text = some e ↔ ∃ name value, Assigns text name value ∧
      e = (String.ofList (Text.trim name), String.ofList (Text.trim value)) := by
  constructor
  · intro h
    by_cases hmem : '=' ∈ text.toList
    · obtain ⟨name, value, htext, hname⟩ := List.eq_append_cons_of_mem hmem
      rw [assignment?_eq htext hname, Option.ite_none_left_eq_some, Bool.or_eq_true, not_or,
        Bool.not_eq_true, Bool.not_eq_true] at h
      obtain ⟨⟨hleft, hright⟩, ⟨⟩⟩ := h
      exact ⟨name, value, ⟨htext, hname, hleft, hright⟩, rfl⟩
    · rw [assignment?, Text.cutFirst_of_not_mem hmem] at h
      cases h
  · rintro ⟨name, value, ⟨htext, hname, hleft, hright⟩, rfl⟩
    rw [assignment?_eq htext hname, hleft, hright]
    rfl

theorem isAssignment_iff : IsAssignment item ↔ IsScalarItem item := by
  constructor
  · rintro ⟨text, e, hitem, he⟩
    obtain ⟨name, value, hassigns, -⟩ := assignment?_eq_some_iff.1 he
    exact ⟨text, name, value, hitem, hassigns⟩
  · rintro ⟨text, name, value, hitem, hassigns⟩
    exact ⟨text, _, hitem, assignment?_eq_some_iff.2 ⟨name, value, hassigns, rfl⟩⟩

theorem AssignsLiteral.assigns (h : AssignsLiteral text enum value literal) :
    Assigns text (enum ++ '.' :: value) literal where
  text_eq := by rw [h.text_eq, List.append_assoc, List.cons_append]
  equals := by
    have hequals := h.equals
    rw [List.mem_append] at hequals
    simpa using hequals
  name_blank := Text.allBlank_eq_false_of_mem (c := '.') (by simp) (by decide)
  value_blank := h.literal_blank

/-- The key of a literal without the blanks around it. -/
theorem trim_key (enum value : List Char) :
    Text.trim (enum ++ '.' :: value) = Text.trimStart enum ++ '.' :: Text.trimEnd value :=
  Text.trim_append_cons (by decide) enum value

/-- The key of a literal names the enum and the value. -/
theorem AssignsLiteral.enumKey? (h : AssignsLiteral text enum value literal) :
    enumKey? (String.ofList (Text.trim (enum ++ '.' :: value))) =
      some (String.ofList (Text.trimStart enum), String.ofList (Text.trimEnd value)) := by
  rw [enumKey?_eq_some_iff]
  simp only [String.toList_ofList]
  refine ⟨trim_key enum value, ?_, ?_⟩
  · exact fun hmem => h.dot (Text.mem_of_mem_trimStart hmem)
  · rw [ne_eq, Text.trimEnd_eq_nil_iff, h.value_blank]
    exact Bool.false_ne_true

/-- An assignment whose key names an enum and a value assigns a literal. -/
theorem Assigns.exists_literal {names : String × String} (h : Assigns text name literal)
    (hkey : Arguments.enumKey? (String.ofList (Text.trim name)) = some names) :
    ∃ enum value, name = enum ++ '.' :: value ∧ AssignsLiteral text enum value literal := by
  have hdot : '.' ∈ name := by
    obtain ⟨htrim, -, -⟩ := enumKey?_eq_some_iff.1 hkey
    rw [String.toList_ofList] at htrim
    apply Text.mem_of_mem_trim
    simp [htrim]
  obtain ⟨enum, value, rfl, henum⟩ := List.eq_append_cons_of_mem hdot
  have hvalue : Text.allBlank value = false := by
    rw [trim_key, enumKey?_eq_some_iff, String.toList_ofList] at hkey
    obtain ⟨hparts, hnames, hne⟩ := hkey
    -- both sides are cut at their first dot
    have hstart : '.' ∉ Text.trimStart enum := fun hmem => henum (Text.mem_of_mem_trimStart hmem)
    have hcut := congrArg (Text.cutFirst '.') hparts
    rw [Text.cutFirst_append_sep hstart, Text.cutFirst_append_sep hnames, Prod.mk.injEq,
      Option.some.injEq] at hcut
    rw [← hcut.2, ne_eq, Text.trimEnd_eq_nil_iff] at hne
    exact Bool.eq_false_iff.2 hne
  refine ⟨enum, value, rfl, ?_, henum, ?_, hvalue, h.value_blank⟩
  · rw [h.text_eq, List.append_assoc, List.cons_append]
  · have hequals := h.equals
    simpa using hequals

/-- An item that gives a literal assigns it to a key for the names. -/
theorem GivesLiteral.exists_keyed {l : (String × String) × String} (h : GivesLiteral item l) :
    ∃ e, GivesScalar item e ∧ IsKeyed e l := by
  obtain ⟨text, enum, value, literal, rfl, hassigns, rfl⟩ := h
  exact ⟨_, ⟨text, _, literal, rfl, hassigns.assigns, rfl⟩, hassigns.enumKey?, rfl⟩

/-- An item that assigns something to a key that names an enum and a value gives a literal. -/
theorem GivesScalar.exists_literal {e names : String × String} (h : GivesScalar item e)
    (hkey : enumKey? e.1 = some names) : ∃ l, GivesLiteral item l := by
  obtain ⟨text, name, literal, rfl, hassigns, rfl⟩ := h
  obtain ⟨enum, value, -, hliteral⟩ := hassigns.exists_literal hkey
  exact ⟨_, text, enum, value, literal, rfl, hliteral, rfl⟩

/-! ## Reading all items -/

/-- Items that assign values to names give the table of these assignments. -/
theorem assignments_eq {pairs : List (String × String)} (f : Flag)
    (h : List.Forall₂ GivesScalar items pairs) :
    assignments f items = .ok (Entries.ofPairs pairs) := by
  unfold assignments Entries.ofPairs
  generalize ([] : Entries String) = t
  induction h generalizing t with
  | nil => rfl
  | cons hhead _ ih =>
    obtain ⟨text, name, value, rfl, hassigns, rfl⟩ := hhead
    have hread := assignment?_eq_some_iff.2 ⟨name, value, hassigns, rfl⟩
    rw [List.foldlM_cons]
    dsimp only
    rw [hread]
    exact ih _

theorem assignments_eq_ok_iff {t : Entries String} :
    assignments f items = .ok t ↔
      ∃ pairs, List.Forall₂ GivesScalar items pairs ∧ t = Entries.ofPairs pairs := by
  constructor
  · intro h
    have hall := exists_assignments_iff.1 ⟨t, h⟩
    obtain ⟨pairs, hpairs⟩ := exists_forall₂ fun item hitem =>
      isScalarItem_iff.1 (isAssignment_iff.1 (hall item hitem))
    refine ⟨pairs, hpairs, ?_⟩
    rw [assignments_eq f hpairs] at h
    exact (Except.ok.inj h).symm
  · rintro ⟨pairs, hpairs, rfl⟩
    exact assignments_eq f hpairs

/-- Items that give literals are the assignments of these literals to keys. -/
theorem exists_keyed {literals : List ((String × String) × String)}
    (h : List.Forall₂ GivesLiteral items literals) :
    ∃ keyed, List.Forall₂ GivesScalar items keyed ∧ List.Forall₂ IsKeyed keyed literals := by
  induction h with
  | nil => exact ⟨[], .nil, .nil⟩
  | cons hhead _ ih =>
    obtain ⟨e, he, hkeyed⟩ := hhead.exists_keyed
    obtain ⟨keyed, hitems, hall⟩ := ih
    exact ⟨e :: keyed, .cons he hitems, .cons hkeyed hall⟩

/-- The options with the flags put over them, and with these scalars and literals. -/
def flagged (a : Arguments) (base : Options) (scalars : Setting (Entries String))
    (enumValues : Setting (Entries (Entries String))) : Options :=
  { base with
    outputFile := ((nonEmpty a.output).map (.value ∘ some)).getD base.outputFile
    phpNamespace := ((nonEmpty a.phpNamespace).map (.value ∘ some)).getD base.phpNamespace
    imports := a.allImports base.imports
    openTag := if a.noOpenTag then .value false else base.openTag
    indentSize := (a.indentSize.map Given.setting).getD base.indentSize
    useTabs := if a.useTabs then .value true else base.useTabs
    addComments := if a.noComments then .value false else base.addComments
    namingConvention := ((nonEmpty a.namingConvention).map .value).getD base.namingConvention
    typesPrefix := (a.typesPrefix.map Given.setting).getD base.typesPrefix
    scalars
    listType := ((nonEmpty a.listType).map .value).getD base.listType
    enumValues
    membersPrefix := (a.membersPrefix.map Given.setting).getD base.membersPrefix }

/-- Where all items assign something, what they assign is put into the tables item by item. -/
theorem apply_eq {overrides : Entries (Entries String)} {scalars : List (String × String)}
    {literals : List ((String × String) × String)} (henum : base.enumValues = .value overrides)
    (hscalars : List.Forall₂ GivesScalar a.scalars scalars)
    (hliterals : List.Forall₂ GivesLiteral a.enumValues literals) :
    a.apply base = .ok (a.flagged base (base.scalars.map (·.update scalars))
      (.value (literals.foldl addLiteral overrides))) := by
  obtain ⟨keyed, hkeyed, hnames⟩ := exists_keyed hliterals
  unfold apply
  rw [assignments_eq .scalar hscalars, assignments_eq .enumValue hkeyed, henum]
  dsimp only [bind, Except.bind]
  rw [putLiterals_ofPairs hnames]
  simp only [Except.map, Entries.update_ofPairs]
  rfl

/-- Flags are put over options exactly if each item for a scalar assigns a type to a name, and each
item for a literal assigns it to a value of an enum. -/
theorem exists_apply_iff (henum : base.enumValues.IsValue) :
    (∃ o, a.apply base = .ok o) ↔
      (∀ item ∈ a.scalars, IsScalarItem item) ∧
        ∀ item ∈ a.enumValues, IsLiteralItem item ∨ IsNamelessItem item := by
  simp only [isScalarItem_iff, isLiteralItem_or_iff]
  obtain ⟨overrides, henum⟩ := henum
  constructor
  · rintro ⟨o, h⟩
    obtain ⟨scalars, hscalars, h⟩ := bind_eq_ok.1 h
    obtain ⟨literals, hliterals, h⟩ := bind_eq_ok.1 h
    obtain ⟨enumValues, hput, -⟩ := bind_eq_ok.1 h
    obtain ⟨pairs, hpairs, -⟩ := assignments_eq_ok_iff.1 hscalars
    obtain ⟨keyed, hkeyed, rfl⟩ := assignments_eq_ok_iff.1 hliterals
    rw [henum] at hput
    obtain ⟨t, ht, -⟩ := map_eq_ok.1 hput
    obtain ⟨hkeys, -⟩ := putLiterals_eq_ok_iff.1 ht
    constructor
    · intro item hitem
      obtain ⟨e, -, he⟩ := exists_of_mem_left hpairs hitem
      exact ⟨e, he⟩
    · intro item hitem
      obtain ⟨e, hmem, he⟩ := exists_of_mem_left hkeyed hitem
      have hkey : e.1 ∈ Entries.keys (Entries.ofPairs keyed) :=
        Entries.mem_keys_update.2 (.inr (Entries.mem_keys_of_mem hmem))
      obtain ⟨names, hnames⟩ := hkeys e.1 hkey
      exact he.exists_literal hnames
  · rintro ⟨hscalars, hliterals⟩
    obtain ⟨scalars, hscalars⟩ := exists_forall₂ hscalars
    obtain ⟨literals, hliterals⟩ := exists_forall₂ hliterals
    exact ⟨_, apply_eq henum hscalars hliterals⟩

/-! ## Refusing items -/

/-- The arguments are refused with a message. -/
def Refused (w : World) (a : Arguments) : Prop :=
  ∃ fault, a.options w = .error fault ∧ Command.isUntold fault = false

/-- The arguments are refused exactly if one of their items has not the documented form. -/
def RefusesMalformed (w : World) (a : Arguments) : Prop :=
  Refused w a ↔
    (∃ item ∈ a.scalars, ¬ IsScalarItem item) ∨ ∃ item ∈ a.enumValues, ¬ IsLiteralItem item

/-- The first item that assigns nothing is the empty list, which is refused without a message. -/
def HasUntoldItem (a : Arguments) : Prop :=
  UntoldItems a.scalars ∨ (∀ item ∈ a.scalars, IsScalarItem item) ∧ UntoldItems a.enumValues

/-- All items have the documented form, but for literals of enums without a name. -/
structure HasNameless (a : Arguments) : Prop where
  scalars : ∀ item ∈ a.scalars, IsScalarItem item
  literals : ∀ item ∈ a.enumValues, IsLiteralItem item ∨ IsNamelessItem item
  nameless : ∃ item ∈ a.enumValues, IsNamelessItem item

/-- With options to put the flags over, arguments are refused with a message exactly if an item
assigns nothing, and none that is the empty list is met before. -/
theorem refused_iff (hload : Options.load w Options.defaultLayer [] a.config = .ok base) :
    Refused w a ↔ ¬ HasUntoldItem a ∧
      ¬ ((∀ item ∈ a.scalars, IsScalarItem item) ∧
        ∀ item ∈ a.enumValues, IsLiteralItem item ∨ IsNamelessItem item) := by
  have hoptions : a.options w = a.apply base := by
    rw [options, hload]
    rfl
  have huntold : HasUntoldItem a ↔ Fails Command.isUntold (a.apply base) := by
    rw [fails_apply_iff]
    simp only [HasUntoldItem, isAssignment_iff]
  rw [huntold, ← exists_apply_iff (Options.load_checked hload).enumValues, Refused, hoptions]
  cases happly : a.apply base with
  | ok o => simp
  | error fault => simp

/-- Items are malformed unless all of them have the documented form. -/
theorem exists_malformed (h : ¬ ((∀ item ∈ a.scalars, IsScalarItem item) ∧
      ∀ item ∈ a.enumValues, IsLiteralItem item)) :
    (∃ item ∈ a.scalars, ¬ IsScalarItem item) ∨ ∃ item ∈ a.enumValues, ¬ IsLiteralItem item := by
  by_cases hscalars : ∀ item ∈ a.scalars, IsScalarItem item
  · right
    simpa using fun hliterals => h ⟨hscalars, hliterals⟩
  · left
    simpa using hscalars

/-- An item of the empty list has not the documented form. -/
theorem HasUntoldItem.not_forall (h : HasUntoldItem a) :
    ¬ ((∀ item ∈ a.scalars, IsScalarItem item) ∧ ∀ item ∈ a.enumValues, IsLiteralItem item) := by
  rintro ⟨hscalars, hliterals⟩
  rcases h with ⟨before, after, hitems, -⟩ | ⟨-, before, after, hitems, -⟩
  · obtain ⟨text, name, value, hitem, -⟩ := hscalars .emptyList (by simp [hitems])
    cases hitem
  · obtain ⟨text, enum, value, literal, hitem, -⟩ := hliterals .emptyList (by simp [hitems])
    cases hitem

/-- A literal has a name of its enum or not. -/
theorem IsLiteralItem.not_isNamelessItem (h : IsLiteralItem item) : ¬ IsNamelessItem item := by
  obtain ⟨text, enum, value, literal, rfl, hassigns, henum⟩ := h
  rintro ⟨other, enum', value', literal', hitem, hassigns', henum'⟩
  cases hitem
  have hcut := congrArg (Text.cutFirst '.') (hassigns.text_eq.symm.trans hassigns'.text_eq)
  rw [Text.cutFirst_append_sep hassigns.dot, Text.cutFirst_append_sep hassigns'.dot,
    Prod.mk.injEq] at hcut
  rw [hcut.1, henum'] at henum
  cases henum

/-- With options to put the flags over, malformed items and no others are refused with a message,
unless the empty list stands first in the place of an item or it is only names of enums that are
missing. -/
theorem refusesMalformed_iff
    (hload : Options.load w Options.defaultLayer [] a.config = .ok base) :
    RefusesMalformed w a ↔ ¬ HasUntoldItem a ∧ ¬ HasNameless a := by
  unfold RefusesMalformed
  rw [refused_iff hload]
  constructor
  · intro h
    constructor
    · intro huntold
      exact (h.2 (exists_malformed huntold.not_forall)).1 huntold
    · intro hnameless
      obtain ⟨item, hitem, hname⟩ := hnameless.nameless
      have hnot : ¬ IsLiteralItem item := fun hliteral => hliteral.not_isNamelessItem hname
      exact (h.2 (.inr ⟨item, hitem, hnot⟩)).2 ⟨hnameless.scalars, hnameless.literals⟩
  · rintro ⟨huntold, hnameless⟩
    constructor
    · rintro ⟨-, hnot⟩
      apply exists_malformed
      rintro ⟨hscalars, hliterals⟩
      exact hnot ⟨hscalars, fun item hitem => .inl (hliterals item hitem)⟩
    · rintro hmalformed
      refine ⟨huntold, ?_⟩
      rintro ⟨hscalars, hliterals⟩
      rcases hmalformed with ⟨item, hitem, hnot⟩ | ⟨item, hitem, hnot⟩
      · exact hnot (hscalars item hitem)
      · have hname := (hliterals item hitem).resolve_left hnot
        exact hnameless ⟨hscalars, hliterals, item, hitem, hname⟩

/-- A scalar without a type behind a literal that is complete. -/
theorem refusesMalformed_iff_scalar :
    let a : Arguments := { scalars := [.value "Date = string", .value "Time="],
                           enumValues := [.value "Color.RED=Rot"] }
    ∃ base, Options.load {} Options.defaultLayer [] a.config = .ok base ∧ RefusesMalformed {} a ∧
      Refused {} a := by
  intro a
  have hloads : (Options.load {} Options.defaultLayer [] none).toOption.isSome = true := by
    decide +kernel
  have htime : ¬ IsScalarItem (.value "Time=") := by
    rw [← isAssignment_iff]
    rintro ⟨text, e, hitem, he⟩
    cases hitem
    have hnone : assignment? "Time=" = none := by decide
    rw [hnone] at he
    cases he
  cases hload : Options.load {} Options.defaultLayer [] a.config with
  | error fault =>
    rw [show a.config = none from rfl] at hload
    rw [hload] at hloads
    cases hloads
  | ok base =>
    have hmalformed : RefusesMalformed {} a := by
      rw [refusesMalformed_iff hload]
      constructor
      · rintro (⟨before, after, hitems, -⟩ | ⟨-, before, after, hitems, -⟩)
        · have hmem : Given.emptyList ∈ a.scalars := by simp [hitems]
          simp [a] at hmem
        · have hmem : Given.emptyList ∈ a.enumValues := by simp [hitems]
          simp [a] at hmem
      · intro hnameless
        exact htime (hnameless.scalars _ (by simp [a]))
    exact ⟨base, rfl, hmalformed, hmalformed.2 (.inl ⟨_, by simp [a], htime⟩)⟩

/-- A literal for a value of an enum without a name. -/
theorem not_refusesMalformed_nameless :
    let a : Arguments := { enumValues := [.value ".A=x"] }
    (∃ base, Options.load {} Options.defaultLayer [] a.config = .ok base) ∧
      ¬ IsLiteralItem (.value ".A=x") ∧ (∃ o, a.options {} = .ok o) ∧ ¬ RefusesMalformed {} a := by
  intro a
  have hload : (fault? (Options.load {} Options.defaultLayer [] none)).isNone = true := by
    decide +kernel
  have hoptions : (fault? (a.options {})).isNone = true := by decide +kernel
  have hitem : ¬ IsLiteralItem (.value ".A=x") := by
    rintro ⟨text, enum, value, literal, hitem, hassigns, henum⟩
    cases hitem
    have htext := hassigns.text_eq
    cases enum with
    | nil => exact absurd henum (by decide)
    | cons c cs =>
      have hc : '.' = c := (List.cons.inj htext).1
      exact hassigns.dot (hc ▸ List.mem_cons_self)
  obtain ⟨o, ho⟩ := exists_ok_of_isNone hoptions
  refine ⟨exists_ok_of_isNone hload, hitem, ⟨o, ho⟩, ?_⟩
  intro h
  obtain ⟨fault, hfault, -⟩ := h.2 (.inr ⟨_, List.mem_cons_self, hitem⟩)
  rw [ho] at hfault
  cases hfault

end Arguments

end SdlPhp
