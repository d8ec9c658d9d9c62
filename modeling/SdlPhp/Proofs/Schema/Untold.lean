import SdlPhp.Proofs.Schema.Loading

/-!
# Schemas that fail without a message

Which worlds make a loading fail with a fault that is not told as one of the schema: those with a
name that is too long, a file that holds no UTF-8 text, an address that cannot be read, or a text
that ends within an escape or has a fault in a place that cannot be shown. Main statement:
`fails_loaded_iff`.
-/

namespace SdlPhp

open Attempt

theorem SchemaFault.isUntold_iff {fault : SchemaFault} :
    fault.isUntold = true ↔ fault = .syntactic (.lexical .truncatedEscape) ∨
      ∃ shown cause, fault = .unbuildable shown cause ∧ cause.isUnshowable shown = true := by
  cases fault <;> simp [SchemaFault.isUntold]

namespace World

variable {w : World}

/-- What is wrong with the file of a schema is not told: the file has a name that is too long, or it
holds no text in UTF-8. -/
inductive UntoldFile (w : World) (path : Path) : Prop
  | tooLong (h : w.locate path = .error .nameTooLong)
  | undecodable {bytes : ByteArray} (hread : w.read path = .ok bytes)
      (h : Text.decode? bytes = none)

/-- What is wrong with a source is not told. Of a directory any path below it counts that is too long,
or else the first schema file that has no text. -/
inductive UntoldSource (w : World) (source : String) : Prop
  | address {fault : Url.Fault} (h : Url.isUrl source = .error fault)
  | file (hurl : Url.isUrl source = .ok false) (h : w.UntoldFile (Path.ofText source))
  | entry {path : Path} (hurl : Url.isUrl source = .ok false)
      (hdir : w.isDirectory (Path.ofText source) = .ok true)
      (hpath : path ∈ w.entriesBelow (Path.ofText source))
      (h : w.locate path = .error .nameTooLong)
  | directory {before after : List Path} {path : Path} (hurl : Url.isUrl source = .ok false)
      (hdir : w.isDirectory (Path.ofText source) = .ok true)
      (hfiles : w.schemaFiles (Path.ofText source) = before ++ path :: after)
      (hbefore : ∀ p ∈ before, ∃ text, w.fileText p = .ok text) (h : w.UntoldFile path)

/-- What is wrong with the sources is not told: something is with the first of them that has no
text, or their text ends within an escape, or a fault of its types is in a place that cannot be
shown. -/
inductive UntoldSchema (w : World) (sources : List String) : Prop
  | source {before after : List String} {source : String}
      (hsources : sources = before ++ source :: after)
      (hbefore : ∀ s ∈ before, ∃ text, w.sourceText s = .ok text) (h : w.UntoldSource source)
  | escape {sdl : String} (htext : w.schemaText sources = .ok sdl)
      (h : Schema.parse sdl = .error (.syntactic (.lexical .truncatedEscape)))
  | excerpt {sdl shown : String} {fault : BuildFault} (htext : w.schemaText sources = .ok sdl)
      (h : Schema.parse sdl = .error (.unbuildable shown fault))
      (hplace : fault.isUnshowable shown = true)

theorem decode?_eq_none_iff {bytes : ByteArray} :
    Source.decode? bytes = none ↔ Text.decode? bytes = none := by
  simp [Source.decode?]

theorem fails_fileText_iff {path : Path} :
    Fails LoadFault.isUntold (w.fileText path) ↔ w.UntoldFile path := by
  unfold fileText
  rw [fails_bind, fails_mapError]
  constructor
  · rintro (⟨fault, hfault, -⟩ | ⟨found, -, h⟩)
    · exact .tooLong (holdsAt_eq_error_iff.1 hfault).2
    · cases found with
      | false => exact absurd (fails_error.1 h) Bool.false_ne_true
      | true =>
        rw [if_pos rfl, fails_bind] at h
        rcases h with h | ⟨bytes, hread, h⟩
        · exact absurd h (not_fails_mapError fun _ => rfl)
        · cases hdecode : Source.decode? bytes with
          | none => exact .undecodable (mapError_eq_ok.1 hread) (decode?_eq_none_iff.1 hdecode)
          | some text =>
            rw [hdecode] at h
            exact absurd h (not_fails_ok text)
  · rintro (hlong | ⟨hread, h⟩)
    · exact .inl ⟨_, holdsAt_eq_error_iff.2 ⟨rfl, hlong⟩, rfl⟩
    · refine .inr ⟨true, by rw [existsAt_of_read hread]; rfl, ?_⟩
      rw [if_pos rfl, hread]
      simp only [Except.mapError, bind, Except.bind, decode?_eq_none_iff.2 h]
      exact fails_error.2 rfl

theorem fails_askedBelow_iff {path : Path} :
    Fails LoadFault.isUntold (w.askedBelow path) ↔
      ∃ entry ∈ w.entriesBelow path, w.locate entry = .error .nameTooLong := by
  rcases w.askedBelow_cases path with ⟨hok, hshort⟩ | ⟨entry, hentry, hlong, herror⟩
  · rw [hok]
    exact iff_of_false (not_fails_ok ()) fun ⟨entry, hentry, hlong⟩ => hshort entry hentry hlong
  · rw [herror]
    exact iff_of_true (fails_error.2 rfl) ⟨entry, hentry, hlong⟩

theorem fails_filesText_iff {path : Path} {files : List Path} :
    Fails LoadFault.isUntold (w.filesText path files) ↔
      ∃ before p after, files = before ++ p :: after ∧
        (∀ b ∈ before, ∃ text, w.fileText b = .ok text) ∧ w.UntoldFile p := by
  unfold filesText
  cases files with
  | nil =>
    refine iff_of_false (by simp [LoadFault.isUntold]) ?_
    rintro ⟨before, p, after, hfiles, -⟩
    simp at hfiles
  | cons file files => simp only [fails_bind_pure, fails_mapM, fails_fileText_iff]

theorem fails_directoryText_iff {path : Path} :
    Fails LoadFault.isUntold (w.directoryText path) ↔
      (∃ entry ∈ w.entriesBelow path, w.locate entry = .error .nameTooLong) ∨
      ∃ before p after, w.schemaFiles path = before ++ p :: after ∧
        (∀ b ∈ before, ∃ text, w.fileText b = .ok text) ∧ w.UntoldFile p := by
  unfold directoryText
  rw [fails_bind, fails_askedBelow_iff]
  simp only [fails_filesText_iff]
  constructor
  · exact Or.imp_right fun ⟨_, _, h⟩ => h
  · rintro (hlong | h)
    · exact .inl hlong
    · rcases w.askedBelow_cases path with ⟨hok, -⟩ | ⟨entry, hentry, hlong, -⟩
      · exact .inr ⟨(), hok, h⟩
      · exact .inl ⟨entry, hentry, hlong⟩

theorem not_fails_answerText (url : String) : ¬ Fails LoadFault.isUntold (w.answerText url) := by
  unfold answerText
  split
  · split_ifs <;> simp [LoadFault.isUntold]
  all_goals simp [LoadFault.isUntold]

theorem fails_sourceText_iff {source : String} :
    Fails LoadFault.isUntold (w.sourceText source) ↔ w.UntoldSource source := by
  constructor
  · unfold sourceText
    rw [fails_bind, fails_mapError]
    rintro (⟨fault, hfault, -⟩ | ⟨isAddress, hurl, h⟩)
    · exact .address hfault
    · have hurl := mapError_eq_ok.1 hurl
      cases isAddress with
      | true =>
        rw [if_pos rfl] at h
        exact absurd h (not_fails_answerText source)
      | false =>
        rw [if_neg Bool.false_ne_true, fails_bind, fails_mapError] at h
        rcases h with ⟨fault, hfault, -⟩ | ⟨isDirectory, hdir, h⟩
        · exact .file hurl (.tooLong (holdsAt_eq_error_iff.1 hfault).2)
        · cases isDirectory with
          | true =>
            rw [if_pos rfl] at h
            rcases fails_directoryText_iff.1 h with
              ⟨entry, hentry, hlong⟩ | ⟨before, path, after, hfiles, hbefore, h⟩
            · exact .entry hurl (mapError_eq_ok.1 hdir) hentry hlong
            · exact .directory hurl (mapError_eq_ok.1 hdir) hfiles hbefore h
          | false =>
            rw [if_neg Bool.false_ne_true] at h
            exact .file hurl (fails_fileText_iff.1 h)
  · rintro (hurl | ⟨hurl, h⟩ | ⟨hurl, hdir, hpath, h⟩ | ⟨hurl, hdir, hfiles, hbefore, h⟩)
    · rw [sourceText, hurl]
      exact fails_error.2 rfl
    · rcases h with hlong | ⟨hread, hdecode⟩
      · have hrefused : w.isDirectory (Path.ofText source) = .error .nameTooLong :=
          holdsAt_eq_error_iff.2 ⟨rfl, hlong⟩
        simp only [sourceText, hurl, hrefused]
        exact fails_error.2 rfl
      · rw [sourceText_of_file hurl (isDirectory_of_read hread)]
        exact fails_fileText_iff.2 (.undecodable hread hdecode)
    · rw [sourceText_of_directory hurl hdir]
      exact fails_directoryText_iff.2 (.inl ⟨_, hpath, h⟩)
    · rw [sourceText_of_directory hurl hdir]
      exact fails_directoryText_iff.2 (.inr ⟨_, _, _, hfiles, hbefore, h⟩)

theorem not_fails_joined (texts : List String) : ¬ Fails LoadFault.isUntold (joined texts) := by
  cases texts <;> simp [joined, LoadFault.isUntold]

theorem fails_schemaText_iff {sources : List String} :
    Fails LoadFault.isUntold (w.schemaText sources) ↔
      ∃ before source after, sources = before ++ source :: after ∧
        (∀ s ∈ before, ∃ text, w.sourceText s = .ok text) ∧ w.UntoldSource source := by
  unfold schemaText
  rw [fails_bind, or_iff_left fun h => not_fails_joined _ h.choose_spec.2, fails_mapM]
  simp only [fails_sourceText_iff]

/-- Loading the sources fails without a message where what is wrong with them is not told. -/
theorem fails_loaded_iff {sources : List String} :
    Fails LoadFault.isUntold (w.loaded sources) ↔ w.UntoldSchema sources := by
  unfold loaded
  rw [fails_bind, fails_schemaText_iff]
  simp only [fails_mapError]
  constructor
  · rintro (⟨before, source, after, hsources, hbefore, h⟩ | ⟨sdl, htext, fault, hfault, huntold⟩)
    · exact .source hsources hbefore h
    · rcases SchemaFault.isUntold_iff.1 huntold with rfl | ⟨shown, cause, rfl, hplace⟩
      · exact .escape htext hfault
      · exact .excerpt htext hfault hplace
  · rintro (⟨hsources, hbefore, h⟩ | ⟨htext, h⟩ | ⟨htext, h, hplace⟩)
    · exact .inl ⟨_, _, _, hsources, hbefore, h⟩
    · exact .inr ⟨_, htext, _, h, rfl⟩
    · exact .inr ⟨_, htext, _, h, hplace⟩

end World

end SdlPhp
