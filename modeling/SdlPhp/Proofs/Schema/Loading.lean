import SdlPhp.Proofs.Schema.Source
import SdlPhp.Proofs.World.Refusals

/-!
# What a loading comes to

A loading notes warnings and requests but never looks at its notes: it comes to what attempts come
to in which nothing is noted. Main statement: `comesTo_schema`.
-/

namespace SdlPhp

open Attempt

/-! ## Attempts without notes -/

namespace World

variable (w : World)

/-- The text of a file. -/
def fileText (path : Path) : Except LoadFault String := do
  if ← (w.existsAt path).mapError (.inaccessible path) then
    let bytes ← (w.read path).mapError (.unreadable path)
    match Source.decode? bytes with
    | some text => return text
    | none => throw .undecodable
  else throw (.fileMissing path)

/-- The schema files of a directory. -/
def schemaFiles (path : Path) : List Path := (w.filesBelow path).filter Source.isSchemaFile

/-- Asks what is at each path below a directory. -/
def askedBelow (path : Path) : Except LoadFault Unit :=
  (w.entriesBelow path).forM fun entry => do
    let _ ← (w.existsAt entry).mapError (.inaccessible entry)

/-- The texts of files together; there has to be one. -/
def filesText (path : Path) : List Path → Except LoadFault String
  | [] => .error (.noSchemaFiles path)
  | files => return "\n".intercalate (← files.mapM w.fileText)

/-- The texts of the schema files of a directory, one after the other. -/
def directoryText (path : Path) : Except LoadFault String := do
  w.askedBelow path
  w.filesText path (w.schemaFiles path)

/-- The text that an address answers with. -/
def answerText (url : String) : Except LoadFault String :=
  match w.fetch url with
  | .response body status =>
    if 400 ≤ status && status < 600 then .error (.httpStatus url status) else .ok body
  | .timeout => .error (.timeout url)
  | .noConnection => .error (.noConnection url)
  | .failed message => .error (.requestFailed url message)

/-- The text of a source of any kind. -/
def sourceText (source : String) : Except LoadFault String := do
  if ← (Url.isUrl source).mapError .unreadableUrl then w.answerText source
  else
    let path := Path.ofText source
    if ← (w.isDirectory path).mapError (.inaccessible path) then w.directoryText path
    else w.fileText path

/-- The texts of sources together. -/
def joined : List String → Except LoadFault String
  | [] => .error .noSource
  | texts => .ok ("\n".intercalate texts)

/-- The text of all the sources. -/
def schemaText (sources : List String) : Except LoadFault String := do
  joined (← sources.mapM w.sourceText)

/-- The schema that the sources describe together. -/
def loaded (sources : List String) : Except LoadFault Schema := do
  (Schema.parse (← w.schemaText sources)).mapError .schema

variable {w} in
theorem sourceText_of_directory {source : String} (hurl : Url.isUrl source = .ok false)
    (hdir : w.isDirectory (Path.ofText source) = .ok true) :
    w.sourceText source = w.directoryText (Path.ofText source) := by
  simp only [sourceText, hurl, hdir, Except.mapError, bind, Except.bind, Bool.false_eq_true, if_false,
    if_true]

variable {w} in
theorem sourceText_of_file {source : String} (hurl : Url.isUrl source = .ok false)
    (hdir : w.isDirectory (Path.ofText source) = .ok false) :
    w.sourceText source = w.fileText (Path.ofText source) := by
  simp only [sourceText, hurl, hdir, Except.mapError, bind, Except.bind, Bool.false_eq_true, if_false]

/-- Asking what is below a directory, the first path that is too long is refused. -/
theorem askedBelow_eq (path : Path) : w.askedBelow path =
    match (w.entriesBelow path).find? fun entry => w.locate entry = .error .nameTooLong with
    | none => .ok ()
    | some entry => .error (.inaccessible entry .nameTooLong) := by
  unfold askedBelow
  induction w.entriesBelow path with
  | nil => rfl
  | cons entry entries ih =>
    rw [List.forM_eq_forM] at ih ⊢
    rw [List.forM_cons, List.find?_cons]
    cases hasked : w.existsAt entry with
    | error fault =>
      obtain ⟨rfl, hlong⟩ := holdsAt_eq_error_iff.1 hasked
      rw [decide_eq_true hlong]
      rfl
    | ok found =>
      have hshort : w.locate entry ≠ .error .nameTooLong := fun hlong => by
        cases hasked.symm.trans (holdsAt_eq_error_iff.2 ⟨rfl, hlong⟩)
      rw [decide_eq_false hshort]
      exact ih

theorem askedBelow_cases (path : Path) :
    (w.askedBelow path = .ok () ∧
        ∀ entry ∈ w.entriesBelow path, w.locate entry ≠ .error .nameTooLong) ∨
      ∃ entry ∈ w.entriesBelow path, w.locate entry = .error .nameTooLong ∧
        w.askedBelow path = .error (.inaccessible entry .nameTooLong) := by
  rw [askedBelow_eq]
  cases hfirst : (w.entriesBelow path).find? fun entry => w.locate entry = .error .nameTooLong with
  | none =>
    rw [List.find?_eq_none] at hfirst
    exact .inl ⟨rfl, fun entry hentry hlong => hfirst entry hentry (decide_eq_true hlong)⟩
  | some entry =>
    have hlong : w.locate entry = .error .nameTooLong := by simpa using List.find?_some hfirst
    exact .inr ⟨entry, List.mem_of_find?_eq_some hfirst, hlong, rfl⟩

end World

namespace Source

/-! ## Notes have no say -/

variable {τ α β : Type}

/-- The loading comes to this, whatever has been noted before. -/
def ComesTo (x : Loading τ α) (outcome : Except LoadFault α) : Prop :=
  ∀ t : Trace τ, ((ExceptT.run x).run t).1 = outcome

theorem comesTo_pure (a : α) : ComesTo (pure a : Loading τ α) (.ok a) := fun _ => rfl

theorem comesTo_throw (fault : LoadFault) : ComesTo (throw fault : Loading τ α) (.error fault) :=
  fun _ => rfl

theorem ComesTo.note {x : Loading τ α} {outcome : Except LoadFault α} (hx : ComesTo x outcome)
    (f : Trace τ → Trace τ) : ComesTo (modify f >>= fun _ => x) outcome :=
  fun t => hx (f t)

theorem ComesTo.ite_note {c : Prop} [Decidable c] {x : Loading τ α}
    {outcome : Except LoadFault α} (hx : ComesTo x outcome) (f : Trace τ → Trace τ) :
    ComesTo (if c then x else modify f >>= fun _ => x) outcome := by
  split
  · exact hx
  · exact hx.note f

theorem ComesTo.bind {x : Loading τ α} {f : α → Loading τ β} {outcome : Except LoadFault α}
    {next : α → Except LoadFault β} (hx : ComesTo x outcome)
    (hf : ∀ a, outcome = .ok a → ComesTo (f a) (next a)) :
    ComesTo (x >>= f) (outcome >>= next) := by
  intro t
  have first := hx t
  simp only [ExceptT.run_bind, StateT.run_bind]
  rcases hrun : (ExceptT.run x).run t with ⟨fault | a, u⟩ <;> rw [hrun] at first <;> subst first
  · rfl
  · exact hf a rfl u

theorem ComesTo.mapM {f : α → Loading τ β} {next : α → Except LoadFault β}
    (hf : ∀ a, ComesTo (f a) (next a)) (xs : List α) : ComesTo (xs.mapM f) (xs.mapM next) := by
  induction xs with
  | nil => exact comesTo_pure []
  | cons x xs ih =>
    rw [List.mapM_cons, List.mapM_cons]
    exact (hf x).bind fun y _ => ih.bind fun ys _ => comesTo_pure (y :: ys)

theorem ComesTo.forM {f : α → Loading τ Unit} {next : α → Except LoadFault Unit}
    (hf : ∀ a, ComesTo (f a) (next a)) (xs : List α) : ComesTo (xs.forM f) (xs.forM next) := by
  induction xs with
  | nil => exact comesTo_pure ()
  | cons x xs ih =>
    simp only [List.forM_eq_forM, List.forM_cons] at ih ⊢
    exact (hf x).bind fun _ _ => ih

variable (w : World)

theorem comesTo_asked (path : Path) (answer : Except SystemFault Bool) :
    ComesTo (asked (τ := τ) path answer) (answer.mapError (.inaccessible path)) := by
  cases answer with
  | ok b => exact comesTo_pure b
  | error fault => exact comesTo_throw _

theorem comesTo_isUrl (source : String) :
    ComesTo (isUrl (τ := τ) source) ((Url.isUrl source).mapError .unreadableUrl) := by
  unfold isUrl
  cases Url.isUrl source with
  | ok b => exact comesTo_pure b
  | error fault => exact comesTo_throw _

/-! ## Sources -/

theorem comesTo_fromFile (path : Path) : ComesTo (fromFile (τ := τ) w path) (w.fileText path) := by
  refine (comesTo_asked path _).bind fun found _ => ?_
  cases found with
  | false => exact comesTo_throw _
  | true =>
    -- the warning about the name of the file is only noted
    rw [if_pos rfl, if_pos rfl]
    refine ComesTo.ite_note ?_ _
    cases w.read path with
    | error fault => exact comesTo_throw _
    | ok bytes =>
      simp only [Except.mapError, bind, Except.bind]
      cases decode? bytes with
      | none => exact comesTo_throw _
      | some text => exact comesTo_pure text

theorem comesTo_askBelow (path : Path) :
    ComesTo (askBelow (τ := τ) w path) (w.askedBelow path) :=
  ComesTo.forM (fun entry => (comesTo_asked entry _).bind fun _ _ => comesTo_pure ()) _

theorem comesTo_fromDirectory {path : Path} (h : w.isDirectory path = .ok true) :
    ComesTo (fromDirectory (τ := τ) w path) (w.directoryText path) := by
  simp only [fromDirectory, asked, h, pure_bind, World.directoryText, World.schemaFiles]
  refine (comesTo_askBelow w path).bind fun _ _ => ?_
  cases (w.filesBelow path).filter isSchemaFile with
  | nil => exact comesTo_throw _
  | cons file files =>
    exact (ComesTo.mapM (comesTo_fromFile w) (file :: files)).bind fun texts _ => comesTo_pure _

theorem comesTo_fromUrl {url : String} (h : Url.isUrl url = .ok true) (timeout : τ) :
    ComesTo (fromUrl w url timeout) (w.answerText url) := by
  simp only [fromUrl, isUrl, h, pure_bind, if_true, World.answerText]
  refine ComesTo.note ?_ _
  cases w.fetch url with
  | response body status =>
    dsimp only
    split
    · exact comesTo_throw _
    · exact comesTo_pure body
  | timeout => exact comesTo_throw _
  | noConnection => exact comesTo_throw _
  | failed message => exact comesTo_throw _

theorem comesTo_text (source : String) (timeout : τ) :
    ComesTo (text w source timeout) (w.sourceText source) := by
  refine (comesTo_isUrl source).bind fun isAddress hurl => ?_
  cases isAddress with
  | true =>
    rw [if_pos rfl, if_pos rfl]
    exact comesTo_fromUrl w (mapError_eq_ok.1 hurl) timeout
  | false =>
    rw [if_neg Bool.false_ne_true, if_neg Bool.false_ne_true]
    refine (comesTo_asked (Path.ofText source) _).bind fun isDirectory hdir => ?_
    cases isDirectory with
    | true =>
      rw [if_pos rfl, if_pos rfl]
      exact comesTo_fromDirectory w (mapError_eq_ok.1 hdir)
    | false =>
      rw [if_neg Bool.false_ne_true, if_neg Bool.false_ne_true]
      exact comesTo_fromFile w _

theorem comesTo_schema (sources : List String) (timeout : τ) :
    ComesTo (schema w sources timeout) (w.loaded sources) := by
  have texts := ComesTo.mapM (fun source => comesTo_text w source timeout) sources
  unfold World.loaded World.schemaText schema
  rw [bind_assoc]
  refine texts.bind fun texts _ => ?_
  cases texts with
  | nil => exact comesTo_throw _
  | cons t ts =>
    change ComesTo _ ((Schema.parse ("\n".intercalate (t :: ts))).mapError .schema)
    dsimp only
    cases Schema.parse ("\n".intercalate (t :: ts)) with
    | ok s => exact comesTo_pure s
    | error fault => exact comesTo_throw _

end Source

end SdlPhp
