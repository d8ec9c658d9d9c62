import SdlPhp.Proofs.Schema.Loading
import SdlPhp.Proofs.World.Winding

/-!
# Directories as lists of files

A directory stands for the list of its schema files: to name these in its place gives the same
schema or the same fault, with the same requests and warnings, and it does not matter in which order
a directory is listed (`run_schema_of_directory`). Only before any file is read, what is below the
directory is looked at, and a path that is too long is refused.
-/

namespace SdlPhp

open Attempt

theorem intercalate_middle {ys : List String} (hys : ys ≠ []) (xs zs : List String) :
    "\n".intercalate (xs ++ "\n".intercalate ys :: zs) = "\n".intercalate (xs ++ (ys ++ zs)) := by
  have lines (ts : List String) :
      ("\n".intercalate ts).toList = Text.join '\n' (ts.map String.toList) :=
    String.toList_intercalate
  rw [← String.toList_inj, lines, lines, List.map_append, List.map_cons, lines,
    Text.join_middle (by simpa using hys), List.map_append, List.map_append]

/-- A text that starts with a slash is no address, if it can be read as one at all. -/
theorem Url.eq_false_of_slash {s : String} (hs : s.toList.head? = some '/') {b : Bool}
    (h : isUrl s = .ok b) : b = false := by
  obtain ⟨cs, hcs⟩ := List.head?_eq_some_iff.1 hs
  have scheme : (splitScheme (clean s.toList)).1 = [] := by
    have hclean : clean s.toList = '/' :: cs.filter (!isIgnored ·) := by
      rw [clean, hcs]
      rfl
    rw [hclean, splitScheme, Text.cutFirst]
    cases hrest : ('/' :: cs.filter (!isIgnored ·)).dropWhile (· ≠ ':') with
    | nil => rfl
    | cons c rest => rfl
  unfold isUrl at h
  dsimp only at h
  rw [scheme] at h
  split at h
  · cases h
  · exact (Except.ok.inj h).symm

namespace Source

open World (winding append_winding hasParts_winding isUrl_winding locate_append_winding PlainParts
  isDirectory_winding pathsBelow_winding)

variable {τ α β : Type}

/-! ## Loadings that do the same -/

theorem mapM_congr {f g : α → Loading τ β} {xs : List α} (h : ∀ x ∈ xs, f x = g x) :
    xs.mapM f = xs.mapM g := by
  induction xs with
  | nil => rfl
  | cons x xs ih =>
    rw [List.forall_mem_cons] at h
    rw [List.mapM_cons, List.mapM_cons, h.1, ih h.2]

/-- Both loadings do the same, but for a path that is too long: each may name another one. -/
def Alike (x y : Loading τ α) : Prop :=
  ∀ t : Trace τ, (ExceptT.run x).run t = (ExceptT.run y).run t ∨
    ∃ p q u, (ExceptT.run x).run t = (.error (.inaccessible p .nameTooLong), u) ∧
      (ExceptT.run y).run t = (.error (.inaccessible q .nameTooLong), u)

theorem Alike.refl (x : Loading τ α) : Alike x x := fun _ => .inl rfl

theorem Alike.bind {x y : Loading τ α} {f g : α → Loading τ β} (hxy : Alike x y)
    (hfg : ∀ a, Alike (f a) (g a)) : Alike (x >>= f) (y >>= g) := by
  intro t
  simp only [ExceptT.run_bind, StateT.run_bind]
  rcases hxy t with heq | ⟨p, q, u, hx, hy⟩
  · rw [heq]
    rcases (ExceptT.run y).run t with ⟨fault | a, u⟩
    · exact .inl rfl
    · exact hfg a u
  · rw [hx, hy]
    exact .inr ⟨p, q, u, rfl, rfl⟩

theorem Alike.mapM {f g : α → Loading τ β} (h : ∀ a, Alike (f a) (g a)) (xs : List α) :
    Alike (xs.mapM f) (xs.mapM g) := by
  induction xs with
  | nil => exact .refl _
  | cons x xs ih =>
    rw [List.mapM_cons, List.mapM_cons]
    exact (h x).bind fun y => ih.bind fun ys => .refl _

/-! ## Directories -/

variable {w w' : World} {path : Path} {source : String}

/-- What is below a directory is asked for as without notes. -/
theorem askBelow_eq (w : World) (path : Path) :
    askBelow (τ := τ) w path = MonadExcept.ofExcept (w.askedBelow path) := by
  unfold askBelow World.askedBelow
  induction w.entriesBelow path with
  | nil => rfl
  | cons entry entries ih =>
    simp only [List.forM_eq_forM, List.forM_cons] at ih ⊢
    rw [ih]
    cases w.existsAt entry <;> rfl

theorem fromDirectory_of_files (hdir : w.isDirectory path = .ok true) {file : Path}
    {files : List Path} (hfiles : w.schemaFiles path = file :: files)
    (hshort : ∀ entry ∈ w.entriesBelow path, w.locate entry ≠ .error .nameTooLong) :
    fromDirectory (τ := τ) w path =
      (do return "\n".intercalate (← (file :: files).mapM (fromFile w))) := by
  have asked_ok : askBelow (τ := τ) w path = pure () := by
    rw [askBelow_eq]
    rcases w.askedBelow_cases path with ⟨hok, -⟩ | ⟨entry, hentry, hlong, -⟩
    · rw [hok]
      rfl
    · exact absurd hlong (hshort entry hentry)
  rw [World.schemaFiles] at hfiles
  simp only [fromDirectory, asked, hdir, pure_bind, asked_ok, hfiles]

/-- The last name tells whether a file is one of a schema. -/
theorem isSchemaFile_append (path : Path) {way : List String} (hway : way ≠ []) :
    isSchemaFile (path.append way) = isSchemaFile ⟨.relative, way⟩ := by
  obtain ⟨front, name, rfl⟩ := (List.eq_nil_or_concat' way).resolve_left hway
  simp only [isSchemaFile, Path.extension, Path.name, Path.append, ← List.append_assoc,
    List.getLastD_concat]

theorem filter_isSchemaFile_map_append (path : Path) {ways : List (List String)}
    (hways : ∀ way ∈ ways, way ≠ []) : (ways.map path.append).filter isSchemaFile =
      (ways.filter fun way => isSchemaFile ⟨.relative, way⟩).map path.append := by
  rw [List.filter_map]
  refine congrArg _ (List.filter_congr fun way hway => ?_)
  rw [Function.comp_apply, isSchemaFile_append path (hways way hway)]

/-- The path of a schema file is that of a source that is this file. -/
theorem text_of_mem_schemaFiles (hw : w.Regular)
    (hkept : ∀ name ∈ w.names, name.toList.any Url.isIgnored = false)
    (hdir : w.isDirectory (Path.ofText source) = .ok true)
    (hroot : (Path.ofText source).root = .doubleSlash →
      ∀ file ∈ w.schemaFiles (Path.ofText source), ∃ b, Url.isUrl file.text = .ok b)
    {file : Path} (hfile : file ∈ w.schemaFiles (Path.ofText source))
    (hshort : w.locate file ≠ .error .nameTooLong) (timeout : τ) :
    text w file.text timeout = fromFile w file := by
  have hlisted := (List.mem_filter.1 hfile).1
  obtain ⟨hparts, hslashes, hnames⟩ := World.parts_of_mem_pathsBelow hw hdir
    (List.subset_append_left _ w.directories) (List.mem_mergeSort.1 hlisted)
  have hurl : Url.isUrl file.text = .ok false := by
    by_cases hdouble : file.root = .doubleSlash
    · obtain ⟨b, hb⟩ := hroot (hslashes hdouble) file hfile
      have hhead : file.text.toList.head? = some '/' := by
        rw [hparts.toList_text, hdouble]
        rfl
      rw [hb, Url.eq_false_of_slash hhead hb]
    · refine hparts.isUrl_text hdouble fun part hpart => ?_
      rcases hnames part hpart with rfl | hname
      · decide
      · exact hkept part hname
  have hplain : w.isDirectory file = .ok false :=
    World.isDirectory_of_mem_filesBelow hw hlisted hshort
  rw [← hparts.ofText_text] at hplain
  rw [text_eq_fromFile hurl hplain, hparts.ofText_text]

/-- The schema that texts describe together. -/
def described (texts : List String) : Loading τ Schema :=
  match texts with
  | [] => throw .noSource
  | texts =>
    match Schema.parse ("\n".intercalate texts) with
    | .ok s => return s
    | .error fault => throw (.schema fault)

theorem described_congr {xs ys : List String} (hxs : xs ≠ []) (hys : ys ≠ [])
    (h : "\n".intercalate xs = "\n".intercalate ys) :
    described (τ := τ) xs = described ys := by
  obtain ⟨x, xs, rfl⟩ := List.exists_cons_of_ne_nil hxs
  obtain ⟨y, ys, rfl⟩ := List.exists_cons_of_ne_nil hys
  simp only [described, h]

theorem schema_eq (w : World) (sources : List String) (timeout : τ) :
    schema w sources timeout = sources.mapM (text w · timeout) >>= described := rfl

/-- A directory stands for the list of its schema files. -/
theorem schema_of_directory (hw : w.Regular)
    (hkept : ∀ name ∈ w.names, name.toList.any Url.isIgnored = false)
    (hurl : Url.isUrl source = .ok false) (hdir : w.isDirectory (Path.ofText source) = .ok true)
    (hfiles : w.schemaFiles (Path.ofText source) ≠ [])
    (hshort : ∀ entry ∈ w.entriesBelow (Path.ofText source),
      w.locate entry ≠ .error .nameTooLong)
    (hroot : (Path.ofText source).root = .doubleSlash →
      ∀ file ∈ w.schemaFiles (Path.ofText source), ∃ b, Url.isUrl file.text = .ok b)
    (before after : List String) (timeout : τ) :
    schema w (before ++ source :: after) timeout =
      schema w (before ++ ((w.schemaFiles (Path.ofText source)).map Path.text ++ after))
        timeout := by
  have listed : (w.schemaFiles (Path.ofText source)).mapM (fun file => text w file.text timeout) =
      (w.schemaFiles (Path.ofText source)).mapM (fromFile w) := by
    refine mapM_congr fun file hfile => text_of_mem_schemaFiles hw hkept hdir hroot hfile ?_ timeout
    exact hshort file (World.mem_entriesBelow_of_mem_filesBelow (List.mem_filter.1 hfile).1)
  obtain ⟨file, files, heq⟩ := List.exists_cons_of_ne_nil hfiles
  rw [schema_eq, schema_eq, List.mapM_append, List.mapM_append, List.mapM_cons,
    List.mapM_append, List.mapM_map, text_eq_fromDirectory hurl hdir,
    fromDirectory_of_files hdir heq hshort]
  rw [heq] at listed
  rw [heq, Function.comp_def, listed]
  simp only [List.mapM_cons, bind_assoc, pure_bind]
  -- the texts are the same, but those of the files are joined first on one side
  refine bind_congr fun front => bind_congr fun t => bind_congr fun ts => bind_congr fun back => ?_
  exact described_congr (by simp) (by simp) (intercalate_middle (List.cons_ne_nil t ts) front back)

/-! ## Order of the entries -/

theorem fromFile_relists (h : w.Relists w') (hw : w.Regular) :
    fromFile (τ := τ) w' = fromFile w := by
  funext path
  rw [fromFile, fromFile, h.existsAt hw, h.read hw]

theorem fromUrl_relists (h : w.Relists w') (url : String) (timeout : τ) :
    fromUrl w' url timeout = fromUrl w url timeout := by
  rw [fromUrl, fromUrl, World.fetch, World.fetch, h.urls]

/-- Something below a directory is too long in either order, or nothing is. -/
theorem askBelow_alike (h : w.Relists w') (hw : w.Regular) (path : Path) :
    Alike (τ := τ) (askBelow w path) (askBelow w' path) := by
  have entries := h.entriesBelow hw path
  rw [askBelow_eq, askBelow_eq]
  rcases w.askedBelow_cases path with ⟨hok, hshort⟩ | ⟨entry, hentry, hlong, herror⟩ <;>
    rcases w'.askedBelow_cases path with ⟨hok', hshort'⟩ | ⟨entry', hentry', hlong', herror'⟩
  · rw [hok, hok']
    exact .refl _
  · rw [h.locate hw] at hlong'
    exact absurd hlong' (hshort entry' (entries.mem_iff.2 hentry'))
  · rw [h.locate hw] at hshort'
    exact absurd hlong (hshort' entry (entries.mem_iff.1 hentry))
  · rw [herror, herror']
    exact fun t => .inr ⟨entry, entry', t, rfl, rfl⟩

theorem fromDirectory_alike (h : w.Relists w') (hw : w.Regular) (path : Path) :
    Alike (τ := τ) (fromDirectory w path) (fromDirectory w' path) := by
  unfold fromDirectory
  rw [h.isDirectory hw, h.filesBelow hw, fromFile_relists h hw]
  exact (Alike.refl _).bind fun _ => (askBelow_alike h hw path).bind fun _ => .refl _

theorem text_alike (h : w.Relists w') (hw : w.Regular) (timeout : τ) (source : String) :
    Alike (text w source timeout) (text w' source timeout) := by
  unfold text
  rw [h.isDirectory hw, fromFile_relists h hw, fromUrl_relists h]
  refine (Alike.refl _).bind fun isAddress => ?_
  cases isAddress with
  | true =>
    rw [if_pos rfl, if_pos rfl]
    exact .refl _
  | false =>
    rw [if_neg Bool.false_ne_true, if_neg Bool.false_ne_true]
    refine (Alike.refl _).bind fun isDirectory => ?_
    cases isDirectory with
    | true =>
      rw [if_pos rfl, if_pos rfl]
      exact fromDirectory_alike h hw _
    | false =>
      rw [if_neg Bool.false_ne_true, if_neg Bool.false_ne_true]
      exact .refl _

theorem schema_alike (h : w.Relists w') (hw : w.Regular) (sources : List String) (timeout : τ) :
    Alike (schema w sources timeout) (schema w' sources timeout) := by
  rw [schema_eq, schema_eq]
  exact (Alike.mapM (text_alike h hw timeout) sources).bind fun _ => .refl _

/-- Where names hold no tabs or line ends, which are no part of an address, a directory with schema
files may be replaced by the list of these files, sorted by their parts: the outcome is the same, and
so are the warnings and requests. This needs that no path below the directory is too long, and that
no file below a root of two slashes is refused as an address. The outcome does not depend on the
order in which directories are listed either, but for which of several paths that are too long is
refused. -/
theorem run_schema_of_directory (hw : w.Regular)
    (hkept : ∀ name ∈ w.names, name.toList.any Url.isIgnored = false) (timeout : τ) :
    (∀ (before : List String) (source : String) (after : List String),
      let path := Path.ofText source
      let files := w.schemaFiles path
      Url.isUrl source = .ok false → w.isDirectory path = .ok true → files ≠ [] →
      (∀ entry ∈ w.entriesBelow path, w.locate entry ≠ .error .nameTooLong) →
      (path.root = .doubleSlash → ∀ file ∈ files, ∃ b, Url.isUrl file.text = .ok b) →
      files.Pairwise (fun p q => World.lexBefore p.parts q.parts = true ∧ p.parts ≠ q.parts) ∧
        run (schema w (before ++ source :: after) timeout) =
          run (schema w (before ++ (files.map Path.text ++ after)) timeout)) ∧
      ∀ w' : World, w.Relists w' → ∀ sources,
        run (schema w sources timeout) = run (schema w' sources timeout) ∨
          ∃ p q t, run (schema w sources timeout) = (.error (.inaccessible p .nameTooLong), t) ∧
            run (schema w' sources timeout) = (.error (.inaccessible q .nameTooLong), t) := by
  constructor
  · intro before source after path files hurl hdir hfiles hshort hroot
    exact ⟨(World.filesBelow_sorted hw path).filter _, congrArg run
      (schema_of_directory hw hkept hurl hdir hfiles hshort hroot before after timeout)⟩
  · intro w' h sources
    exact schema_alike h hw sources timeout {}

/-- A directory with another one in it, behind an address. -/
theorem run_schema_of_directory_nested :
    let files : List (Place × ByteArray) :=
      [(["d", "Sub", "a.GQL"], "input A { x: E }".toUTF8),
        (["d", "b.graphql"], "input B { y: A }".toUTF8), (["d", "notes.txt"], "".toUTF8)]
    let urls : Entries Answer := [("http://h/e", .response "enum E { V }" 200)]
    let w : World := { files, urls }
    let w' : World := { files := files.reverse, urls }
    run (schema w ["http://h/e", "d"] 30) =
        run (schema w ["http://h/e", "d/Sub/a.GQL", "d/b.graphql"] 30) ∧
      run (schema w ["http://h/e", "d"] 30) = run (schema w' ["http://h/e", "d"] 30) := by
  intro files urls w w'
  have hw : w.Regular := by decide +kernel
  have hlisted : (w.schemaFiles (Path.ofText "d")).map Path.text =
      ["d/Sub/a.GQL", "d/b.graphql"] := by
    rw [World.schemaFiles, World.filesBelow, List.mergeSort_of_pairwise (by decide +kernel)]
    decide +kernel
  have hne : w.schemaFiles (Path.ofText "d") ≠ [] := by
    intro hnil
    rw [hnil] at hlisted
    cases hlisted
  obtain ⟨hdirectory, horder⟩ := run_schema_of_directory hw (by decide) 30
  have hrun : run (schema w ["http://h/e", "d"] 30) =
      run (schema w ["http://h/e", "d/Sub/a.GQL", "d/b.graphql"] 30) := by
    have hrelative : (Path.ofText "d").root ≠ .doubleSlash := by decide
    obtain ⟨-, hrun⟩ := hdirectory ["http://h/e"] "d" [] (by decide +kernel) (by decide +kernel) hne
      (by decide +kernel) (absurd · hrelative)
    rwa [hlisted] at hrun
  refine ⟨hrun, ?_⟩
  rcases horder w' ⟨files.reverse_perm.symm, .refl _, rfl⟩ ["http://h/e", "d"] with
    hsame | ⟨p, q, t, hfault, -⟩
  · exact hsame
  · have hok : (run (schema w ["http://h/e", "d/Sub/a.GQL", "d/b.graphql"] 30)).1.toOption.isSome =
        true := by
      decide +kernel
    rw [← hrun, hfault] at hok
    cases hok

/-! ## A path that is too long -/

theorem run_schema_of_first {entry : Path} (hsource : Path.ofText source = path)
    (hurl : Url.isUrl source = .ok false) (hdir : w.isDirectory path = .ok true)
    (hfirst : (w.entriesBelow path).find? (fun entry => w.locate entry = .error .nameTooLong) =
      some entry) (timeout : τ) :
    (run (schema w [source] timeout)).1 = .error (.inaccessible entry .nameTooLong) := by
  subst hsource
  have refused : w.askedBelow (Path.ofText source) = .error (.inaccessible entry .nameTooLong) := by
    rw [World.askedBelow_eq, hfirst]
  refine (comesTo_schema w [source] timeout {}).trans ?_
  rw [World.loaded, World.schemaText, List.mapM_cons, World.sourceText_of_directory hurl hdir,
    World.directoryText, refused]
  rfl

/-- Below a root of two slashes the first name of a path is taken for that of a host. -/
theorem exists_refused_below_root :
    ∃ w : World, w.Regular ∧ (∀ name ∈ w.names, name.toList.all (32 ≤ ·.toNat) = true) ∧
      (∃ s, (run (schema w ["//"] 30)).1 = .ok s) ∧
      (run (schema w ((w.schemaFiles (Path.ofText "//")).map Path.text) 30)).1 =
        .error (.unreadableUrl .misplacedBracket) := by
  let w : World := { files := [(["/", "[.graphql"], "input A { x: Int }".toUTF8)] }
  have hfiles : w.schemaFiles (Path.ofText "//") = [⟨.doubleSlash, ["[.graphql"]⟩] := by
    have listed : w.pathsBelow (Path.ofText "//") (w.files.map Prod.fst) =
        [⟨.doubleSlash, ["[.graphql"]⟩] := by
      decide +kernel
    rw [World.schemaFiles, World.filesBelow, listed, List.mergeSort_singleton]
    decide +kernel
  have hurl : Url.isUrl "//" = .ok false := by decide +kernel
  have hdir : w.isDirectory (Path.ofText "//") = .ok true := by decide +kernel
  refine ⟨w, by decide +kernel, by decide +kernel, exists_ok_of_isNone ?_, ?_⟩
  · rw [schema_eq, List.mapM_cons, text_eq_fromDirectory hurl hdir,
      fromDirectory_of_files hdir hfiles (by decide +kernel)]
    decide +kernel
  · rw [hfiles]
    decide +kernel

/-- The one schema file of a directory at the end of a winding path. -/
theorem schemaFiles_winding {turns : Nat} (hd : w.isDirectoryAt ["d"] = true)
    (hturns : 5 * turns + 1 ≤ World.longestPath) {way : List String}
    (hway : ((w.files.map Prod.fst).filterMap (World.below? ["d"])).filter
      (fun way => isSchemaFile ⟨.relative, way⟩) = [way]) :
    w.schemaFiles (winding turns []) = [(winding turns []).append way] := by
  have perm := (World.filesBelow_winding_perm hd hturns).filter isSchemaFile
  rw [filter_isSchemaFile_map_append, hway] at perm
  · exact List.perm_singleton.1 perm
  · intro other hother
    obtain ⟨place, -, hbelow⟩ := List.mem_filterMap.1 hother
    exact (World.below?_eq_some.1 hbelow).2.1

/-- A directory at the end of a winding path, with two files beside that of the schema whose paths
are too long: the directory is refused for the one that is listed first, and the file is not. Below
a root of two slashes a file is refused, and the directory is not. -/
theorem not_run_schema_of_directory_winding :
    let files : List (Place × ByteArray) := [(["d", "a.gql"], "input A { x: Int }".toUTF8),
      (["d", "notes.txt"], "".toUTF8), (["d", "other.txt"], "".toUTF8)]
    let w : World := { files }
    let w' : World := { files := files.reverse }
    let path := winding 817 []
    w.Regular ∧ (∀ name ∈ w.names, name.toList.all (32 ≤ ·.toNat) = true) ∧ w.Relists w' ∧
      Path.ofText path.text = path ∧ Url.isUrl path.text = .ok false ∧
      w.isDirectory path = .ok true ∧ w.schemaFiles path = [path.append ["a.gql"]] ∧
      (run (schema w [path.text] 30)).1 =
        .error (.inaccessible (path.append ["notes.txt"]) .nameTooLong) ∧
      (run (schema w' [path.text] 30)).1 =
        .error (.inaccessible (path.append ["other.txt"]) .nameTooLong) ∧
      (∃ s, (run (schema w ((w.schemaFiles path).map Path.text) 30)).1 = .ok s) ∧
      ∃ v : World, v.Regular ∧ (∀ name ∈ v.names, name.toList.all (32 ≤ ·.toNat) = true) ∧
        (∃ s, (run (schema v ["//"] 30)).1 = .ok s) ∧
        (run (schema v ((v.schemaFiles (Path.ofText "//")).map Path.text) 30)).1 =
          .error (.unreadableUrl .misplacedBracket) := by
  intro files w w' path
  have hw : w.Regular := by decide +kernel
  have hrelists : w.Relists w' := ⟨files.reverse_perm.symm, .refl _, rfl⟩
  have hd : w.isDirectoryAt ["d"] = true := by decide +kernel
  have hd' : w'.isDirectoryAt ["d"] = true := by decide +kernel
  have hturns : 5 * 817 + 1 ≤ World.longestPath := by decide
  have hdir : w.isDirectory path = .ok true := isDirectory_winding hd hturns
  have hdir' : w'.isDirectory path = .ok true := isDirectory_winding hd' hturns
  have hsource : Path.ofText path.text = path := (hasParts_winding (by decide) 817).ofText_text
  have hurl : Url.isUrl path.text = .ok false := isUrl_winding (by decide) (by decide) 817
  have plain : PlainParts ["a.gql"] := by decide +kernel
  have hfileSource : Path.ofText (path.append ["a.gql"]).text = path.append ["a.gql"] := by
    rw [append_winding]
    exact (hasParts_winding plain 817).ofText_text
  have hfileUrl : Url.isUrl (path.append ["a.gql"]).text = .ok false := by
    rw [append_winding]
    exact isUrl_winding plain (by decide +kernel) 817
  have hfile : w.locate (path.append ["a.gql"]) = .ok ["d", "a.gql"] := by
    rw [locate_append_winding hd plain (show _ = 7 by decide), if_neg (by decide)]
    decide +kernel
  have tooLong (v : World) (hv : v.isDirectoryAt ["d"] = true) (name : String)
      (hplain : PlainParts [name]) (hlength : (winding 0 [name]).joined.length = 11) :
      v.locate (path.append [name]) = .error .nameTooLong := by
    rw [locate_append_winding hv hplain hlength, if_pos (by decide)]
  have hfiles : w.schemaFiles path = [path.append ["a.gql"]] :=
    schemaFiles_winding hd hturns (by decide +kernel)
  have hentries : w.entriesBelow path =
      [["a.gql"], ["notes.txt"], ["other.txt"]].map path.append :=
    (pathsBelow_winding hd hturns _).trans (congrArg (List.map path.append) (by decide +kernel))
  have hentries' : w'.entriesBelow path =
      [["other.txt"], ["notes.txt"], ["a.gql"]].map path.append :=
    (pathsBelow_winding hd' hturns _).trans (congrArg (List.map path.append) (by decide +kernel))
  -- the path is not to be computed with any more
  clear_value path
  refine ⟨hw, by decide +kernel, hrelists, hsource, hurl, hdir, hfiles, ?_, ?_, ?_,
    exists_refused_below_root⟩
  · refine run_schema_of_first hsource hurl hdir ?_ 30
    simp [hentries, hfile, tooLong w hd "notes.txt" (by decide) (by decide)]
  · refine run_schema_of_first hsource hurl hdir' ?_ 30
    simp [hentries', tooLong w' hd' "other.txt" (by decide) (by decide)]
  · have hread : w.read (Path.ofText (path.append ["a.gql"]).text) =
        .ok "input A { x: Int }".toUTF8 := by
      rw [hfileSource]
      exact World.read_of_file? hfile (by decide +kernel) rfl
    have hdecode : Text.decode? "input A { x: Int }".toUTF8 = some "input A { x: Int }" := by
      decide +kernel
    obtain ⟨s, hs⟩ := exists_ok_of_isNone (x := Schema.parse "input A { x: Int }")
      (by decide +kernel)
    rw [hfiles, List.map_singleton, run_schema_file hfileUrl hread hdecode (by decide), hs]
    exact ⟨s, rfl⟩

end Source

end SdlPhp
