import SdlPhp.Proofs.Attempt
import SdlPhp.Proofs.Sdl.Validity

/-!
# Names of a document

Every name in a parsed document is a name of the language: letters, digits and underscores that
start with no digit. The tokens of a text promise it (`tokens_named`), a parser hands the promise on
while it takes tokens (`Yields`), and the parsers of the parts of a document are gone through one by
one. Main statement: `parseDocument_named`.
-/

namespace SdlPhp.Sdl

open Attempt

/-- The text is a name. -/
def Named (s : String) : Prop := isName s.toList = true

theorem isNameChar_of_mem {s : String} (h : Named s) : ∀ c ∈ s.toList, isNameChar c = true := by
  rw [Named] at h
  cases hs : s.toList with
  | nil => simp
  | cons c cs =>
    rw [hs, isName, Bool.and_eq_true, List.all_eq_true] at h
    refine List.forall_mem_cons.2 ⟨?_, h.2⟩
    have hstart := h.1
    rw [isNameStart, Bool.or_eq_true] at hstart
    rw [isNameChar, Char.isAlphanum]
    rcases hstart with hstart | hstart <;> simp [hstart]

/-- Among texts with characters of names, the first character tells the names. -/
theorem named_iff {s : String} (h : ∀ c ∈ s.toList, isNameChar c = true) :
    Named s ↔ s.toList.head?.any isNameStart = true := by
  rw [Named]
  cases hs : s.toList with
  | nil => simp [isName]
  | cons c cs =>
    rw [hs, List.forall_mem_cons] at h
    rw [isName, List.all_eq_true.2 h.2, Bool.and_true]
    rfl

def InputDef.Named (d : InputDef) : Prop := Sdl.Named d.name ∧ Sdl.Named d.type.innermost

def FieldDef.Named (d : FieldDef) : Prop :=
  Sdl.Named d.name ∧ Sdl.Named d.type.innermost ∧ ∀ a ∈ d.arguments, a.Named

/-- The parts of a type have names. -/
def Body.Named : Body → Prop
  | object _ fields | interface _ fields => ∀ d ∈ fields, d.Named
  | inputObject fields => ∀ d ∈ fields, d.Named
  | enum values => ∀ v ∈ values, Sdl.Named v.name
  | scalar | union _ => True

def TypeNode.Named (node : TypeNode) : Prop := Sdl.Named node.name ∧ node.body.Named

/-- What a statement says of types has names. -/
def Statement.Named : Statement → Prop
  | type node => node.Named
  | _ => True

/-! ## Tokens -/

/-- If the token is a name, its text is one. -/
def Token.Named : Token → Prop
  | name s => Sdl.Named s
  | _ => True

/-- All tokens that are names carry names. -/
def Tokens.Named : Tokens → Prop
  | more t _ rest => t.Named ∧ rest.Named
  | _ => True

theorem lexNumber_named {cs rest : List Char} {t : Token} (h : lexNumber cs = .ok (t, rest)) :
    t.Named := by
  unfold lexNumber at h
  obtain ⟨⟨whole, r⟩, -, h⟩ := bind_eq_ok.1 h
  obtain ⟨⟨fraction, r⟩, -, h⟩ := bind_eq_ok.1 h
  obtain ⟨⟨exponent, r⟩, -, h⟩ := bind_eq_ok.1 h
  have number : ∀ {text : String}, (if fraction.isEmpty && exponent.isEmpty then Token.int text
      else Token.float text).Named := by
    intro text
    split <;> trivial
  cases r with
  | nil =>
    cases pure_eq_ok.1 h
    exact number
  | cons c tail =>
    dsimp only at h
    split at h
    · cases h
    · cases pure_eq_ok.1 h
      exact number

theorem lexToken_named {c : Char} {cs rest : List Char} {t : Token}
    (h : lexToken c cs = .ok (t, rest)) : t.Named := by
  unfold lexToken at h
  split at h
  · cases h
    trivial
  split_ifs at h with hnumber hname
  · exact lexNumber_named h
  · cases h
    simp [Token.Named, Named, isName, hname]
  · split at h
    · cases h
      trivial
    · obtain ⟨_, -, h⟩ := map_eq_ok.1 h
      cases h
      trivial
    · obtain ⟨_, -, h⟩ := bind_eq_ok.1 h
      cases h
      trivial
    · split at h <;> cases h

theorem tokensFrom_named (fuel : Nat) (cs : List Char) : (tokensFrom fuel cs).Named := by
  induction fuel generalizing cs with
  | zero => trivial
  | succ fuel ih =>
    rw [tokensFrom]
    split
    · trivial
    · split
      · trivial
      · rename_i hlex
        exact ⟨lexToken_named hlex, ih _⟩

/-- The tokens of a text carry names where they are names. -/
theorem tokens_named (source : String) : (tokens source).Named := tokensFrom_named _ _

namespace Parser

/-! ## Rules -/

section Rules

variable {α β : Type} {p : Parser α} {f : α → Parser β} {Q : α → Prop} {R : β → Prop}

/-- From named tokens the parser gives what the predicate says, and leaves named tokens. -/
def Yields (p : Parser α) (Q : α → Prop) : Prop :=
  ∀ ts a rest, ts.Named → p ts = .ok (a, rest) → Q a ∧ rest.Named

/-- The parser leaves named tokens. -/
abbrev Keeps (p : Parser α) : Prop := Yields p fun _ => True

theorem Yields.pure {a : α} (h : Q a) : Yields (Pure.pure a : Parser α) Q := by
  rintro ts _ _ hts ⟨⟩
  exact ⟨h, hts⟩

theorem Yields.bind (hp : Yields p Q) (hf : ∀ a, Q a → Yields (f a) R) : Yields (p >>= f) R := by
  intro ts b rest hts h
  obtain ⟨⟨a, ts'⟩, hpa, hfa⟩ := bind_eq_ok.1 h
  obtain ⟨ha, hts'⟩ := hp ts a ts' hts hpa
  exact hf a ha ts' b rest hts' hfa

theorem Yields.throw (fault : SyntaxFault) : Yields (MonadExcept.throw fault : Parser α) Q := by
  rintro ts a rest - ⟨⟩

theorem Yields.mono {Q' : α → Prop} (hp : Yields p Q) (h : ∀ a, Q a → Q' a) : Yields p Q' := by
  intro ts a rest hts hpa
  obtain ⟨ha, hrest⟩ := hp ts a rest hts hpa
  exact ⟨h a ha, hrest⟩

theorem Yields.keeps (hp : Yields p Q) : Keeps p := hp.mono fun _ _ => trivial

theorem Yields.ite {c : Prop} [Decidable c] {q : Parser α} (hp : Yields p Q) (hq : Yields q Q) :
    Yields (if c then p else q) Q := by
  split
  · exact hp
  · exact hq

theorem Yields.map (g : α → β) (hp : Yields p Q) : Keeps (g <$> p) := by
  rw [map_eq_pure_bind]
  exact hp.bind fun _ _ => .pure trivial

theorem Yields.get : Keeps (MonadState.get : Parser Tokens) := by
  rintro ts _ _ hts ⟨⟩
  exact ⟨trivial, hts⟩

end Rules

/-! ## Single tokens -/

section Single

theorem peek_yields : Yields peek fun t => ∀ s, t = some (.name s) → Named s := by
  rintro ts _ _ hts ⟨⟩
  refine ⟨?_, hts⟩
  rintro s hs
  cases ts with
  | done => cases hs
  | broken fault => cases hs
  | more t text rest =>
    cases hs
    exact hts.1

theorem sound_named {ts rest : Tokens} (hts : ts.Named) (h : sound ts = .ok rest) : rest.Named := by
  cases ts with
  | done => cases h; exact hts
  | broken fault => cases h
  | more t text rest => cases h; exact hts

theorem advance_keeps : Keeps advance := by
  rintro ts _ rest hts h
  refine ⟨trivial, ?_⟩
  cases ts with
  | done => cases h; exact hts
  | broken fault => cases h; exact hts
  | more t text more =>
    obtain ⟨after, hafter, h⟩ := map_eq_ok.1 h
    cases h
    exact sound_named hts.2 hafter

theorem lookahead_keeps : Keeps lookahead := by
  rintro ts _ rest hts h
  refine ⟨trivial, ?_⟩
  cases ts with
  | done => cases h; exact hts
  | broken fault => cases h; exact hts
  | more t text more =>
    obtain ⟨after, -, h⟩ := map_eq_ok.1 h
    cases h
    exact hts

variable {α : Type} {Q : α → Prop}

theorem unexpected_yields : Yields (unexpected : Parser α) Q :=
  peek_yields.bind fun _ _ => .throw _

theorem atPunct_keeps (p : Punct) : Keeps (atPunct p) := peek_yields.bind fun _ _ => .pure trivial

theorem accept_keeps (p : Punct) : Keeps (accept p) :=
  (atPunct_keeps p).bind fun _ _ =>
    .ite (advance_keeps.bind fun _ _ => .pure trivial) (.pure trivial)

theorem expect_keeps (p : Punct) : Keeps (expect p) :=
  (accept_keeps p).bind fun _ _ => .ite (.pure trivial) (peek_yields.bind fun _ _ => .throw _)

theorem acceptKeyword_keeps (word : String) : Keeps (acceptKeyword word) :=
  peek_yields.bind fun _ _ =>
    .ite (advance_keeps.bind fun _ _ => .pure trivial) (.pure trivial)

theorem expectKeyword_keeps (word : String) : Keeps (expectKeyword word) :=
  (acceptKeyword_keeps word).bind fun _ _ =>
    .ite (.pure trivial) (peek_yields.bind fun _ _ => .throw _)

/-- What is taken as a name is one. -/
theorem name_yields : Yields name Named := by
  refine peek_yields.bind fun t ht => ?_
  split
  · exact advance_keeps.bind fun _ _ => .pure (ht _ rfl)
  · exact .throw _

theorem atName_keeps : Keeps atName := by
  refine peek_yields.bind fun t _ => ?_
  split <;> exact .pure trivial

theorem budget_keeps : Keeps budget := Yields.get.bind fun _ _ => .pure trivial

end Single

/-! ## Sequences -/

section Sequences

variable {α : Type} {item : Parser α} {Q : α → Prop}

theorem untilClose_yields (close : Punct) (h : Yields item Q) (fuel : Nat) :
    Yields (untilClose close item fuel) fun xs => ∀ x ∈ xs, Q x := by
  induction fuel with
  | zero => exact unexpected_yields
  | succ fuel ih =>
    refine (accept_keeps close).bind fun _ _ => .ite (.pure (by simp)) ?_
    exact h.bind fun x hx => ih.bind fun xs hxs => .pure (List.forall_mem_cons.2 ⟨hx, hxs⟩)

theorem enclosed_yields (opening close : Punct) (h : Yields item Q) :
    Yields (enclosed opening close item) fun xs => ∀ x ∈ xs, Q x :=
  (expect_keeps opening).bind fun _ _ =>
    budget_keeps.bind fun fuel _ => untilClose_yields close h fuel

theorem enclosed1_yields (opening close : Punct) (h : Yields item Q) :
    Yields (enclosed1 opening close item) fun xs => ∀ x ∈ xs, Q x :=
  (expect_keeps opening).bind fun _ _ => h.bind fun _ hx => budget_keeps.bind fun fuel _ =>
    (untilClose_yields close h fuel).bind fun _ hxs => .pure (List.forall_mem_cons.2 ⟨hx, hxs⟩)

theorem optionalEnclosed1_yields (opening close : Punct) (h : Yields item Q) :
    Yields (optionalEnclosed1 opening close item) fun xs => ∀ x ∈ xs, Q x :=
  (atPunct_keeps opening).bind fun _ _ =>
    .ite (enclosed1_yields opening close h) (.pure (by simp))

theorem separatedRest_yields (separator : Punct) (h : Yields item Q) (fuel : Nat) :
    Yields (separatedRest separator item fuel) fun xs => ∀ x ∈ xs, Q x := by
  induction fuel with
  | zero => exact .pure (by simp)
  | succ fuel ih =>
    refine (accept_keeps separator).bind fun _ _ => .ite ?_ (.pure (by simp))
    exact h.bind fun x hx => ih.bind fun xs hxs => .pure (List.forall_mem_cons.2 ⟨hx, hxs⟩)

theorem separated1_yields (separator : Punct) (h : Yields item Q) :
    Yields (separated1 separator item) fun xs => ∀ x ∈ xs, Q x :=
  (accept_keeps separator).bind fun _ _ => h.bind fun _ hx => budget_keeps.bind fun fuel _ =>
    (separatedRest_yields separator h fuel).bind fun _ hxs =>
      .pure (List.forall_mem_cons.2 ⟨hx, hxs⟩)

theorem whileAt_yields (p : Punct) (h : Yields item Q) (fuel : Nat) :
    Yields (whileAt p item fuel) fun xs => ∀ x ∈ xs, Q x := by
  induction fuel with
  | zero => exact .pure (by simp)
  | succ fuel ih =>
    refine (atPunct_keeps p).bind fun _ _ => .ite ?_ (.pure (by simp))
    exact h.bind fun x hx => ih.bind fun xs hxs => .pure (List.forall_mem_cons.2 ⟨hx, hxs⟩)

end Sequences

/-! ## Types and literals -/

theorem typeRefWithin_yields (fuel : Nat) :
    Yields (typeRefWithin fuel) fun t => Named t.innermost := by
  induction fuel with
  | zero => exact unexpected_yields
  | succ fuel ih =>
    refine Yields.bind (Q := fun t => Named t.innermost) ?_ fun inner hinner => ?_
    · refine (accept_keeps .bracketL).bind fun _ _ => .ite ?_ ?_
      · exact ih.bind fun t ht => (expect_keeps .bracketR).bind fun _ _ => .pure ht
      · exact name_yields.bind fun s hs => .pure hs
    · exact (accept_keeps .bang).bind fun _ _ => .ite (.pure hinner) (.pure hinner)

theorem typeRef_yields : Yields typeRef fun t => Named t.innermost :=
  budget_keeps.bind fun fuel _ => typeRefWithin_yields fuel

theorem variableRef_keeps (constant : Bool) : Keeps (variableRef constant) := by
  refine peek_yields.bind fun dollar _ => (expect_keeps .dollar).bind fun _ _ => .ite ?_ ?_
  · refine peek_yields.bind fun t _ => ?_
    split <;> exact .throw _
  · exact name_yields.bind fun _ _ => .pure trivial

theorem literalWithin_keeps (constant : Bool) (fuel : Nat) :
    Keeps (literalWithin constant fuel) := by
  induction fuel with
  | zero => exact unexpected_yields
  | succ fuel ih =>
    have entry : Keeps (do
        let key ← name
        expect .colon
        let v ← literalWithin constant fuel
        return (key, v)) :=
      name_yields.bind fun _ _ => (expect_keeps .colon).bind fun _ _ =>
        ih.bind fun _ _ => .pure trivial
    refine peek_yields.bind fun t _ => ?_
    split
    · exact (enclosed_yields _ _ ih).bind fun _ _ => .pure trivial
    · exact (enclosed_yields _ _ entry).bind fun _ _ => .pure trivial
    · exact advance_keeps.bind fun _ _ => .pure trivial
    · exact advance_keeps.bind fun _ _ => .pure trivial
    · exact advance_keeps.bind fun _ _ => .pure trivial
    · exact advance_keeps.bind fun _ _ => .pure trivial
    · exact advance_keeps.bind fun _ _ => .pure trivial
    · exact variableRef_keeps constant
    · exact unexpected_yields

theorem literal_keeps (constant : Bool) : Keeps (literal constant) :=
  budget_keeps.bind fun fuel _ => literalWithin_keeps constant fuel

theorem argument_keeps (constant : Bool) : Keeps (argument constant) :=
  name_yields.bind fun _ _ => (expect_keeps .colon).bind fun _ _ => Yields.get.bind fun _ _ =>
    (literal_keeps constant).bind fun _ _ => .pure trivial

theorem arguments_keeps (constant : Bool) : Keeps (arguments constant) :=
  (optionalEnclosed1_yields _ _ (argument_keeps constant)).keeps

theorem directive_keeps (constant : Bool) : Keeps (directive constant) :=
  (expect_keeps .atSign).bind fun _ _ => name_yields.bind fun _ _ =>
    (arguments_keeps constant).bind fun _ _ => .pure trivial

theorem directives_keeps (constant : Bool) : Keeps (directives constant) :=
  budget_keeps.bind fun fuel _ => (whileAt_yields _ (directive_keeps constant) fuel).keeps

theorem defaultLiteral_keeps : Keeps defaultLiteral :=
  (accept_keeps .equals).bind fun _ _ =>
    .ite ((literal_keeps true).bind fun _ _ => .pure trivial) (.pure trivial)

/-! ## Operations and fragments -/

theorem operationKind_keeps : Keeps operationKind := by
  refine peek_yields.bind fun _ _ => name_yields.bind fun s _ => ?_
  split
  · exact .pure trivial
  · exact .throw _

theorem variableDef_keeps : Keeps variableDef :=
  (expect_keeps .dollar).bind fun _ _ => name_yields.bind fun _ _ =>
    (expect_keeps .colon).bind fun _ _ => typeRef_yields.bind fun _ _ =>
      defaultLiteral_keeps.bind fun _ _ => (directives_keeps true).bind fun _ _ => .pure trivial

theorem fragmentName_keeps : Keeps fragmentName :=
  peek_yields.bind fun _ _ => .ite unexpected_yields name_yields.keeps

theorem selectionWithin_keeps (fuel : Nat) : Keeps (selectionWithin fuel) := by
  induction fuel with
  | zero => exact unexpected_yields
  | succ fuel ih =>
    have selections : Keeps (enclosed1 .braceL .braceR (selectionWithin fuel)) :=
      (enclosed1_yields _ _ ih).keeps
    have field : Keeps (do
        let args ← arguments false
        let ds ← directives false
        let nested ← (do
          if ← atPunct .braceL then enclosed1 .braceL .braceR (selectionWithin fuel) else return [])
        return Selection.field args ds nested) :=
      (arguments_keeps false).bind fun _ _ => (directives_keeps false).bind fun _ _ =>
        Yields.bind ((atPunct_keeps .braceL).bind fun _ _ => .ite selections (.pure trivial))
          fun _ _ => .pure trivial
    refine (accept_keeps .spread).bind fun _ _ => .ite ?_ ?_
    · refine (acceptKeyword_keeps "on").bind fun _ _ => atName_keeps.bind fun _ _ => .ite ?_ ?_
      · exact fragmentName_keeps.bind fun _ _ =>
          (directives_keeps false).bind fun _ _ => .pure trivial
      · exact (Yields.ite (.map some name_yields) (.pure trivial)).bind fun _ _ =>
          (directives_keeps false).bind fun _ _ => selections.bind fun _ _ => .pure trivial
    · exact name_yields.bind fun _ _ => (accept_keeps .colon).bind fun _ _ =>
        .ite (name_yields.bind fun _ _ => field) field

theorem selectionSet_keeps : Keeps selectionSet :=
  budget_keeps.bind fun fuel _ => (enclosed1_yields _ _ (selectionWithin_keeps fuel)).keeps

theorem operation_yields : Yields operation Statement.Named := by
  have rest : ∀ kind, Yields (do
      let variableDefs ← optionalEnclosed1 .parenL .parenR variableDef
      let ds ← directives false
      return Statement.operation kind variableDefs ds (← selectionSet)) Statement.Named :=
    fun kind => (optionalEnclosed1_yields _ _ variableDef_keeps).bind fun _ _ =>
      (directives_keeps false).bind fun _ _ => selectionSet_keeps.bind fun _ _ => .pure trivial
  refine (atPunct_keeps .braceL).bind fun _ _ => .ite ?_ ?_
  · exact selectionSet_keeps.bind fun _ _ => .pure trivial
  · exact operationKind_keeps.bind fun kind _ => atName_keeps.bind fun _ _ =>
      .ite (name_yields.bind fun _ _ => rest kind) (rest kind)

theorem fragment_yields : Yields fragment Statement.Named :=
  (expectKeyword_keeps _).bind fun _ _ => fragmentName_keeps.bind fun _ _ =>
    (expectKeyword_keeps _).bind fun _ _ => name_yields.bind fun _ _ =>
      (directives_keeps false).bind fun _ _ => selectionSet_keeps.bind fun _ _ => .pure trivial

/-! ## Parts of type definitions -/

theorem description_keeps : Keeps description := by
  refine peek_yields.bind fun _ _ => ?_
  split
  · exact advance_keeps.bind fun _ _ => .pure trivial
  · exact advance_keeps.bind fun _ _ => .pure trivial
  · exact .pure trivial

theorem inputDef_yields : Yields inputDef InputDef.Named :=
  description_keeps.bind fun _ _ => name_yields.bind fun _ hs =>
    (expect_keeps .colon).bind fun _ _ => typeRef_yields.bind fun _ ht =>
      defaultLiteral_keeps.bind fun _ _ => (directives_keeps true).bind fun _ _ => .pure ⟨hs, ht⟩

theorem argumentDefs_yields : Yields argumentDefs fun ds => ∀ d ∈ ds, d.Named :=
  optionalEnclosed1_yields _ _ inputDef_yields

theorem fieldDef_yields : Yields fieldDef FieldDef.Named :=
  description_keeps.bind fun _ _ => name_yields.bind fun _ hs =>
    argumentDefs_yields.bind fun _ hargs => (expect_keeps .colon).bind fun _ _ =>
      typeRef_yields.bind fun _ ht =>
        (directives_keeps true).bind fun _ _ => .pure ⟨hs, ht, hargs⟩

theorem enumValueName_yields : Yields enumValueName Named := by
  refine peek_yields.bind fun _ _ => ?_
  split
  · exact .throw _
  · exact .throw _
  · exact .throw _
  · exact name_yields

theorem valueDef_yields : Yields valueDef fun v => Named v.name :=
  description_keeps.bind fun _ _ => enumValueName_yields.bind fun _ hs =>
    (directives_keeps true).bind fun _ _ => .pure hs

theorem interfaces_keeps : Keeps interfaces :=
  (acceptKeyword_keeps _).bind fun _ _ =>
    .ite (separated1_yields _ name_yields).keeps (.pure trivial)

theorem unionMembers_keeps : Keeps unionMembers :=
  (accept_keeps .equals).bind fun _ _ =>
    .ite (separated1_yields _ name_yields).keeps (.pure trivial)

theorem operationTypeDef_keeps : Keeps operationTypeDef :=
  operationKind_keeps.bind fun _ _ => (expect_keeps .colon).bind fun _ _ =>
    name_yields.bind fun _ _ => .pure trivial

/-! ## Statements -/

theorem directivesAndBody_yields (keyword : TypeKeyword) :
    Yields (directivesAndBody keyword) fun x => x.2.Named := by
  have fields : Yields (optionalEnclosed1 .braceL .braceR fieldDef) fun ds => ∀ d ∈ ds, d.Named :=
    optionalEnclosed1_yields _ _ fieldDef_yields
  cases keyword with
  | scalar => exact (directives_keeps true).bind fun _ _ => .pure trivial
  | type =>
    exact interfaces_keeps.bind fun _ _ => (directives_keeps true).bind fun _ _ =>
      fields.bind fun _ h => .pure h
  | interface =>
    exact interfaces_keeps.bind fun _ _ => (directives_keeps true).bind fun _ _ =>
      fields.bind fun _ h => .pure h
  | union =>
    exact (directives_keeps true).bind fun _ _ => unionMembers_keeps.bind fun _ _ => .pure trivial
  | enum =>
    exact (directives_keeps true).bind fun _ _ =>
      (optionalEnclosed1_yields _ _ valueDef_yields).bind fun _ h => .pure h
  | input =>
    exact (directives_keeps true).bind fun _ _ =>
      (optionalEnclosed1_yields _ _ inputDef_yields).bind fun _ h => .pure h

theorem typeDefinition_yields (keyword : TypeKeyword) :
    Yields (typeDefinition keyword) Statement.Named :=
  description_keeps.bind fun _ _ => advance_keeps.bind fun _ _ => name_yields.bind fun _ hs =>
    (directivesAndBody_yields keyword).bind fun _ hbody => .pure ⟨hs, hbody⟩

theorem schemaDefinition_yields : Yields schemaDefinition Statement.Named :=
  description_keeps.bind fun _ _ => advance_keeps.bind fun _ _ =>
    (directives_keeps true).bind fun _ _ =>
      (enclosed1_yields _ _ operationTypeDef_keeps).bind fun _ _ => .pure trivial

theorem location_keeps : Keeps location := by
  refine peek_yields.bind fun _ _ => name_yields.bind fun s _ => ?_
  split
  · exact .pure trivial
  · exact .throw _

theorem directiveDefinition_yields : Yields directiveDefinition Statement.Named :=
  description_keeps.bind fun _ _ => advance_keeps.bind fun _ _ =>
    (expect_keeps .atSign).bind fun _ _ => name_yields.bind fun _ _ =>
      argumentDefs_yields.bind fun _ _ => (acceptKeyword_keeps _).bind fun _ _ =>
        (expectKeyword_keeps _).bind fun _ _ =>
          (separated1_yields _ location_keeps).bind fun _ _ => .pure trivial

theorem extension_yields : Yields extension Statement.Named := by
  refine lookahead_keeps.bind fun t _ => ?_
  split
  · exact advance_keeps.bind fun _ _ => advance_keeps.bind fun _ _ =>
      (directives_keeps true).bind fun _ _ =>
        (optionalEnclosed1_yields _ _ operationTypeDef_keeps).bind fun _ _ =>
          .ite unexpected_yields (.pure trivial)
  · split
    · exact advance_keeps.bind fun _ _ => advance_keeps.bind fun _ _ =>
        name_yields.bind fun _ hs => (directivesAndBody_yields _).bind fun _ hbody =>
          .ite unexpected_yields (.pure ⟨hs, hbody⟩)
    · exact .throw _
  · exact .throw _

theorem atDescription_keeps : Keeps atDescription := by
  refine peek_yields.bind fun t _ => ?_
  split <;> exact .pure trivial

theorem statement_yields : Yields statement Statement.Named := by
  refine (atPunct_keeps .braceL).bind fun _ _ => .ite operation_yields ?_
  refine atDescription_keeps.bind fun described _ => ?_
  refine (Yields.ite lookahead_keeps peek_yields.keeps).bind fun t _ => ?_
  split
  · split
    · exact typeDefinition_yields _
    · exact schemaDefinition_yields
    · exact directiveDefinition_yields
    · refine .ite (.throw _) ?_
      split
      · exact operation_yields
      · exact operation_yields
      · exact operation_yields
      · exact fragment_yields
      · exact extension_yields
      · exact unexpected_yields
  · exact .throw _

theorem statements_yields (fuel : Nat) : Yields (statements fuel) fun d => ∀ x ∈ d, x.Named := by
  induction fuel with
  | zero => exact unexpected_yields
  | succ fuel ih =>
    refine statement_yields.bind fun x hx => peek_yields.bind fun t _ => ?_
    split
    · exact .pure (by simpa using hx)
    · exact ih.bind fun d hd => .pure (List.forall_mem_cons.2 ⟨hx, hd⟩)

theorem document_yields : Yields document fun d => ∀ x ∈ d, x.Named :=
  budget_keeps.bind fun fuel _ => statements_yields fuel

end Parser

/-- What a parsed document says of types has names. -/
theorem parseDocument_named {source : String} {d : Document} (h : parseDocument source = .ok d) :
    ∀ node ∈ d.typeNodes, node.Named := by
  obtain ⟨ts, hts, h⟩ := bind_eq_ok.1 h
  obtain ⟨⟨d', rest⟩, hdocument, h⟩ := bind_eq_ok.1 h
  cases pure_eq_ok.1 h
  have htokens := Parser.sound_named (tokens_named source) hts
  have hd := (Parser.document_yields ts d' rest htokens hdocument).1
  exact fun node hnode => hd _ (mem_typeNodes_iff.1 hnode)

end SdlPhp.Sdl
