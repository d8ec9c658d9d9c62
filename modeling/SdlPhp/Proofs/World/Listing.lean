import Mathlib.Data.List.Nodup
import SdlPhp.Proofs.World.Order
import SdlPhp.Proofs.World.PathText
import SdlPhp.Proofs.World.Refusals

/-!
# Listing a directory

A path to something below a directory is that of the directory with the names on the way down behind
it, or starts from the working directory if the directory is above that. In a world whose places are
made of names it leads to the place of what was listed, but where it is too long or none
(`locate_append_way`), and no such path to a file leads to a directory
(`isDirectory_of_mem_filesBelow`). The names on the way to a directory are names of the world
(`part_of_directory`).
-/

namespace SdlPhp

open Attempt

namespace World

/-! ## Names of a world -/

/-- The names of a place, behind steps upwards or the root. -/
def namesOf (place : Place) : List String :=
  if place.head? = some "/" then place.tail else place.dropWhile (· == "..")

/-- The places of all files and directories. -/
def places (w : World) : List Place := w.files.map Prod.fst ++ w.directories

/-- The names of all files and directories. -/
def names (w : World) : List String := w.places.flatMap namesOf

/-- A name is one part of a path, and no step. -/
structure IsName (name : String) : Prop extends Path.IsPart name where
  ne_up : name ≠ ".."
  faithful : Text.Faithful name

instance (name : String) : Decidable (IsName name) :=
  decidable_of_iff (_ ∧ _ ∧ _)
    ⟨fun h => ⟨h.1, h.2.1, h.2.2⟩, fun h => ⟨h.toIsPart, h.ne_up, h.faithful⟩⟩

/-- Files and directories have names, and nothing else is in the place of a file. -/
structure Regular (w : World) : Prop where
  names : ∀ name ∈ w.names, IsName name
  once : (w.files.map Prod.fst).Nodup
  apart : ∀ place ∈ w.files.map Prod.fst, w.isDirectoryAt place = false

instance (w : World) : Decidable w.Regular :=
  decidable_of_iff (_ ∧ _ ∧ _)
    ⟨fun h => ⟨h.1, h.2.1, h.2.2⟩, fun h => ⟨h.names, h.once, h.apart⟩⟩

variable {w : World} {path : Path} {place start other : Place} {way : List String} {name : String}

theorem mem_place (h : name ∈ place) : name = ".." ∨ name = "/" ∨ name ∈ namesOf place := by
  unfold namesOf
  split
  · rename_i hroot
    obtain ⟨rest, rfl⟩ := List.head?_eq_some_iff.1 hroot
    exact .inr (List.mem_cons.1 h)
  · rw [← List.takeWhile_append_dropWhile (p := (· == "..")) (l := place), List.mem_append] at h
    rcases h with h | h
    · exact .inl (beq_iff_eq.1 (List.mem_takeWhile_imp (p := (· == "..")) h))
    · exact .inr (.inr h)

/-- A way down that does not start with a step or the root consists of names. -/
theorem subset_namesOf (hup : way.head? ≠ some "..") (hroot : way.head? ≠ some "/") :
    way ⊆ namesOf (start ++ way) := by
  cases way with
  | nil => exact List.nil_subset _
  | cons n way =>
    unfold namesOf
    split
    · rename_i hhead
      cases start with
      | nil => exact absurd hhead hroot
      | cons s start => exact List.subset_append_right start (n :: way)
    · have hn : (n == "..") = false := beq_eq_false_iff_ne.2 fun h => hup (h ▸ rfl)
      rw [List.dropWhile_append]
      split
      · rw [List.dropWhile_cons, hn]
        exact List.Subset.refl _
      · exact List.subset_append_right _ _

theorem below?_eq_some : below? start other = some way ↔
    other = start ++ way ∧ way ≠ [] ∧ way.head? ≠ some ".." ∧ way.head? ≠ some "/" := by
  unfold below?
  simp only [Option.ite_none_right_eq_some, Option.some.injEq, Bool.and_eq_true,
    List.isPrefixOf_iff_prefix, Bool.not_eq_true', List.isEmpty_eq_false_iff, decide_eq_true_eq]
  constructor
  · rintro ⟨⟨⟨⟨hfront, hne⟩, hup⟩, hroot⟩, rfl⟩
    exact ⟨(List.prefix_iff_eq_append.1 hfront).symm, hne, hup, hroot⟩
  · rintro ⟨rfl, hne, hup, hroot⟩
    rw [List.drop_left]
    exact ⟨⟨⟨⟨List.prefix_append start way, hne⟩, hup⟩, hroot⟩, rfl⟩

/-- The names on a way down to something are names of the world. -/
theorem mem_names_of_below (hother : other ∈ w.places) (h : below? start other = some way)
    (hname : name ∈ way) : name ∈ w.names := by
  obtain ⟨rfl, -, hup, hroot⟩ := below?_eq_some.1 h
  exact List.mem_flatMap.2 ⟨_, hother, subset_namesOf hup hroot hname⟩

theorem aside?_eq_some (h : aside? place other = some way) :
    way = other ∧ ∃ names, below? (other.takeWhile (· == "..")) other = some names := by
  rw [aside?, Option.ite_none_right_eq_some, Bool.and_eq_true, Option.isSome_iff_exists] at h
  exact ⟨(Option.some.inj h.2).symm, h.1.2⟩

/-- A way consists of names of the world, and of steps upwards. -/
theorem part_of_way (hother : other ∈ w.places) (h : way? place other = some way) :
    way ≠ [] ∧ ∀ n ∈ way, n = ".." ∨ n ∈ w.names := by
  rw [way?] at h
  split_ifs at h
  · obtain ⟨rfl, names, hnames⟩ := aside?_eq_some h
    have hwhole := (below?_eq_some.1 hnames).1
    refine ⟨fun hnil => (below?_eq_some.1 hnames).2.1 ?_, fun n hn => ?_⟩
    · rw [hnil] at hwhole
      exact (List.append_eq_nil_iff.1 hwhole.symm).2
    · rw [hwhole] at hn
      rcases List.mem_append.1 hn with hstep | hname
      · exact .inl (beq_iff_eq.1 (List.mem_takeWhile_imp (p := (· == "..")) hstep))
      · exact .inr (mem_names_of_below hother hnames hname)
  · exact ⟨(below?_eq_some.1 h).2.1, fun n hn => .inr (mem_names_of_below hother h hn)⟩

/-- Ways to different places are different. -/
theorem way_inj {other' : Place} (h : way? place other = some way)
    (h' : way? place other' = some way) : other = other' := by
  rw [way?] at h h'
  split_ifs at h h'
  · rw [← (aside?_eq_some h).1, (aside?_eq_some h').1]
  · rw [(below?_eq_some.1 h).1, (below?_eq_some.1 h').1]

/-! ## Steps -/

/-- Steps upwards lead from the working directory to the place of these steps. -/
theorem steps_upwards {steps : List String} (h : ∀ n ∈ steps, n = "..") :
    steps.foldlM w.step [] = .ok steps := by
  induction steps using List.reverseRecOn with
  | nil => rfl
  | append_singleton steps n ih =>
    rw [List.forall_mem_append, List.forall_mem_singleton] at h
    obtain ⟨hsteps, rfl⟩ := h
    have hdir : w.isDirectoryAt steps = true := by
      have anchor : isAnchor steps = true := by
        rw [isAnchor, List.all_eq_true.2 fun n hn => beq_iff_eq.2 (hsteps n hn), Bool.true_or]
      rw [isDirectoryAt, anchor, Bool.true_or, Bool.true_or]
    have hlast : steps.getLastD ".." = ".." := by
      cases hlast : steps.getLast? with
      | none => rw [List.getLastD_eq_getLast?, hlast, Option.getD_none]
      | some n =>
        rw [List.getLastD_eq_getLast?, hlast]
        exact hsteps n (List.mem_of_getLast? hlast)
    rw [List.foldlM_append, ih hsteps]
    change w.step steps ".." >>= pure = _
    rw [step, if_pos hdir, if_pos rfl, holder, if_pos hlast]
    rfl

/-- A place above something is a directory. -/
theorem isDirectoryAt_of_append (h : start ++ way ∈ w.places) (hway : way ≠ []) :
    w.isDirectoryAt start = true := by
  have hfront : start.isPrefixOf (start ++ way) = true :=
    List.isPrefixOf_iff_prefix.2 (List.prefix_append start way)
  have hne : start ++ way ≠ start := fun heq => hway (List.append_right_eq_self.1 heq)
  rw [isDirectoryAt, Bool.or_eq_true, Bool.or_eq_true, List.any_eq_true, List.any_eq_true]
  rcases List.mem_append.1 h with hfile | hdirectory
  · obtain ⟨f, hf, hplace⟩ := List.mem_map.1 hfile
    rw [← hplace] at hfront hne
    exact .inr ⟨f, hf, by rw [hfront, decide_eq_true hne]; rfl⟩
  · exact .inl (.inr ⟨_, hdirectory, hfront⟩)

/-- What leads to a directory consists of steps upwards, the root, and names of the world. -/
theorem mem_names_of_isDirectoryAt (h : w.isDirectoryAt place = true) (hname : name ∈ place) :
    name = ".." ∨ name = "/" ∨ name ∈ w.names := by
  have of_prefix : ∀ q ∈ w.places, place <+: q → name = ".." ∨ name = "/" ∨ name ∈ w.names :=
    fun q hq hfront => (mem_place (hfront.subset hname)).imp_right
      (.imp_right fun hmem => List.mem_flatMap.2 ⟨q, hq, hmem⟩)
  rw [isDirectoryAt, Bool.or_eq_true, Bool.or_eq_true, List.any_eq_true, List.any_eq_true] at h
  rcases h with (hanchor | ⟨q, hq, hfront⟩) | ⟨f, hf, hfile⟩
  · rw [isAnchor, Bool.or_eq_true, List.all_eq_true, beq_iff_eq] at hanchor
    rcases hanchor with hup | rfl
    · exact .inl (beq_iff_eq.1 (hup name hname))
    · exact .inr (.inl (List.mem_singleton.1 hname))
  · exact of_prefix q (List.mem_append_right _ hq) (List.isPrefixOf_iff_prefix.1 hfront)
  · exact of_prefix f.1 (List.mem_append_left _ (List.mem_map_of_mem hf))
      (List.isPrefixOf_iff_prefix.1 (Bool.and_eq_true_iff.1 hfile).1)

theorem step_eq_ok {part : String} {next : Place} (h : w.step place part = .ok next) :
    w.isDirectoryAt place = true ∧ (part = ".." ∨ next = place ++ [part]) := by
  rw [step] at h
  split_ifs at h with hdir hup
  · exact ⟨hdir, .inl hup⟩
  · exact ⟨hdir, .inr (Except.ok.inj h).symm⟩

/-- From a place that is no directory no step leads to one. -/
theorem isDirectoryAt_of_steps {parts : List String} (h : parts.foldlM w.step start = .ok place)
    (hplace : w.isDirectoryAt place = true) : w.isDirectoryAt start = true := by
  cases parts with
  | nil =>
    rw [pure_eq_ok.1 h]
    exact hplace
  | cons part parts =>
    obtain ⟨next, hnext, -⟩ := foldlM_cons_eq_ok.1 h
    exact (step_eq_ok hnext).1

theorem part_of_steps {parts : List String} (h : parts.foldlM w.step start = .ok place)
    (hplace : w.isDirectoryAt place = true) :
    ∀ part ∈ parts, part = ".." ∨ part = "/" ∨ part ∈ w.names := by
  induction parts generalizing start with
  | nil => simp
  | cons part parts ih =>
    obtain ⟨next, hnext, hrest⟩ := foldlM_cons_eq_ok.1 h
    refine List.forall_mem_cons.2 ⟨?_, ih hrest⟩
    rcases (step_eq_ok hnext).2 with hup | rfl
    · exact .inl hup
    · exact mem_names_of_isDirectoryAt (isDirectoryAt_of_steps hrest hplace) (by simp)

/-- Names lead down from a place to what is below it, unless one of them is too long. -/
theorem steps_of_names (h : start ++ way ∈ w.places) (hway : ∀ n ∈ way, n ≠ "..") :
    way.foldlM w.step start = .ok (start ++ way) ∨
      way.foldlM w.step start = .error .nameTooLong := by
  induction way generalizing start with
  | nil => exact .inl (congrArg Except.ok (List.append_nil start).symm)
  | cons n way ih =>
    rw [List.forall_mem_cons] at hway
    have hdir := isDirectoryAt_of_append h (List.cons_ne_nil n way)
    rw [List.foldlM_cons, step, if_pos hdir, if_neg hway.1]
    split
    · exact .inr rfl
    · have below : start ++ [n] ++ way ∈ w.places := by simpa using h
      have rest := ih below hway.2
      rwa [List.append_assoc, List.singleton_append] at rest

/-! ## Paths -/

theorem locate_eq_ok (h : w.locate path = .ok place) :
    path.parts.foldlM w.step (World.start path.root) = .ok place := by
  unfold locate at h
  split at h
  · cases h
  · split_ifs at h
    exact h

/-- The parts of a path to a directory are steps upwards and names of the world. -/
theorem part_of_directory {source part : String}
    (h : w.isDirectory (Path.ofText source) = .ok true) (hpart : part ∈ (Path.ofText source).parts) :
    part = ".." ∨ part ∈ w.names := by
  unfold isDirectory holdsAt at h
  split at h
  · rename_i place hplace
    rcases part_of_steps (locate_eq_ok hplace) (Except.ok.inj h) part hpart with hup | rfl | hname
    · exact .inl hup
    · exact absurd List.mem_cons_self (Path.isPart_of_mem hpart).slash
    · exact .inr hname
  · cases h
  · cases h

/-- A path leads to where its parts do, unless it is too long or none. -/
theorem locate_of_steps (h : path.parts.foldlM w.step (World.start path.root) = .ok place ∨
    path.parts.foldlM w.step (World.start path.root) = .error .nameTooLong) :
    w.locate path = .ok place ∨ ∃ fault, w.locate path = .error fault := by
  unfold locate
  split
  · exact .inr ⟨_, rfl⟩
  · split_ifs
    · exact .inr ⟨_, rfl⟩
    · exact .inr ⟨_, rfl⟩
    · exact h.imp_right fun hlong => ⟨_, hlong⟩

/-- The way to something below a directory leads there, unless the path is too long or none. -/
theorem locate_append_way (hw : w.Regular) (hpath : w.locate path = .ok place)
    (hother : other ∈ w.places) (h : way? place other = some way) :
    w.locate ((listedFrom place path).append way) = .ok other ∨
      ∃ fault, w.locate ((listedFrom place path).append way) = .error fault := by
  obtain ⟨front, start, names, hparts, hfront, hbelow⟩ : ∃ front start names,
      (listedFrom place path).parts ++ way = front ++ names ∧
        front.foldlM w.step (World.start (listedFrom place path).root) = .ok start ∧
        below? start other = some names := by
    rw [way?] at h
    rw [listedFrom]
    split_ifs at h ⊢
    · obtain ⟨rfl, names, hnames⟩ := aside?_eq_some h
      obtain ⟨hwhole, -⟩ := below?_eq_some.1 hnames
      exact ⟨_, _, names, hwhole, steps_upwards (fun n hn => beq_iff_eq.1
        (List.mem_takeWhile_imp (p := (· == "..")) hn)), hnames⟩
    · exact ⟨path.parts, place, way, rfl, locate_eq_ok hpath, h⟩
  have names_ne : ∀ n ∈ names, n ≠ ".." :=
    fun n hn => (hw.names n (mem_names_of_below hother hbelow hn)).ne_up
  obtain ⟨rfl, -⟩ := below?_eq_some.1 hbelow
  have steps : ((listedFrom place path).append way).parts.foldlM w.step
      (World.start (listedFrom place path).root) = names.foldlM w.step start := by
    rw [Path.append, hparts, List.foldlM_append, hfront]
    rfl
  refine locate_of_steps ?_
  rw [show ((listedFrom place path).append way).root = (listedFrom place path).root from rfl, steps]
  exact steps_of_names hother names_ne

/-- Below a directory that is not above the working directory. -/
theorem pathsBelow_eq (h : w.locate path = .ok place) (hdown : isAbove place = false)
    (places : List Place) :
    w.pathsBelow path places = (places.filterMap (below? place)).map path.append := by
  have ways : way? place = below? place := by
    funext other
    rw [way?, hdown]
    rfl
  simp only [pathsBelow, h, ways, listedFrom, hdown, Bool.false_eq_true, if_false]

theorem mem_pathsBelow {places : List Place} {p : Path} (h : p ∈ w.pathsBelow path places) :
    ∃ place other way, w.locate path = .ok place ∧ other ∈ places ∧ way? place other = some way ∧
      p = (listedFrom place path).append way := by
  unfold pathsBelow at h
  split at h
  · cases h
  · rename_i place hplace
    obtain ⟨way, hway, rfl⟩ := List.mem_map.1 h
    obtain ⟨other, hother, hway⟩ := List.mem_filterMap.1 hway
    exact ⟨place, other, way, hplace, hother, hway, rfl⟩

theorem pathsBelow_append (path : Path) (xs ys : List Place) :
    w.pathsBelow path (xs ++ ys) = w.pathsBelow path xs ++ w.pathsBelow path ys := by
  unfold pathsBelow
  split
  · rfl
  · simp only [List.filterMap_append, List.map_append]

/-- The parts of what is listed are those of the directory and names of the world. -/
theorem parts_of_mem_pathsBelow {source : String} {places : List Place} {p : Path}
    (hw : w.Regular) (hdir : w.isDirectory (Path.ofText source) = .ok true)
    (hplaces : places ⊆ w.places) (hp : p ∈ w.pathsBelow (Path.ofText source) places) :
    p.HasParts ∧ (p.root = .doubleSlash → (Path.ofText source).root = .doubleSlash) ∧
      ∀ part ∈ p.parts, part = ".." ∨ part ∈ w.names := by
  obtain ⟨place, other, way, -, hother, hway, rfl⟩ := mem_pathsBelow hp
  obtain ⟨hne, names⟩ := part_of_way (hplaces hother) hway
  have isPart : ∀ n ∈ way, Path.IsPart n := by
    intro n hn
    rcases names n hn with rfl | hname
    · decide
    · exact (hw.names n hname).toIsPart
  unfold listedFrom
  split
  · exact ⟨⟨hne, isPart⟩, nofun, names⟩
  · exact ⟨⟨List.append_ne_nil_of_right_ne_nil _ hne,
      List.forall_mem_append.2 ⟨fun part hpart => Path.isPart_of_mem hpart, isPart⟩⟩, id,
        List.forall_mem_append.2 ⟨fun part hpart => part_of_directory hdir hpart, names⟩⟩

/-! ## Files -/

theorem mem_entriesBelow_of_mem_filesBelow {p : Path} (h : p ∈ w.filesBelow path) :
    p ∈ w.entriesBelow path := by
  rw [entriesBelow, pathsBelow_append]
  exact List.mem_append_left _ (List.mem_mergeSort.1 h)

/-- Nothing else than a file is where the path of a file leads. -/
theorem isDirectory_of_mem_filesBelow (hw : w.Regular) {p : Path} (hp : p ∈ w.filesBelow path)
    (hshort : w.locate p ≠ .error .nameTooLong) : w.isDirectory p = .ok false := by
  obtain ⟨place, other, way, hplace, hfile, hway, rfl⟩ :=
    mem_pathsBelow (List.mem_mergeSort.1 hp)
  rw [isDirectory, holdsAt]
  rcases locate_append_way hw hplace (List.mem_append_left _ hfile) hway with
    hok | ⟨fault, hfault⟩
  · rw [hok]
    exact congrArg Except.ok (hw.apart _ hfile)
  · rw [hfault] at hshort ⊢
    cases fault <;> first | rfl | exact absurd rfl hshort

/-- The ways to those of the places that are below one. -/
theorem faithful_of_mem_ways (place : Place) (hw : w.Regular) {places : List Place}
    (hplaces : places ⊆ w.places) :
    ∀ way ∈ places.filterMap (way? place), FaithfulParts way := by
  intro way hmem n hn
  obtain ⟨other, hother, hway⟩ := List.mem_filterMap.1 hmem
  rcases (part_of_way (hplaces hother) hway).2 n hn with rfl | hname
  · decide
  · exact (hw.names n hname).faithful

theorem mergeSort_map_append (base : Path) (ways : List (List String)) :
    ((ways.map base.append).mergeSort fun p q => lexBefore p.parts q.parts) =
      (ways.mergeSort lexBefore).map base.append :=
  (List.map_mergeSort (f := base.append)
    fun a _ b _ => (lexBefore_append base.parts a b).symm).symm

/-- The files below a directory come in the order of their parts, each of them once. -/
theorem filesBelow_sorted (hw : w.Regular) (path : Path) :
    (w.filesBelow path).Pairwise fun p q =>
      lexBefore p.parts q.parts = true ∧ p.parts ≠ q.parts := by
  unfold filesBelow pathsBelow
  split
  · rw [List.mergeSort_nil]
    exact .nil
  · rename_i place hplace
    have sorted := pairwise_mergeSort_lexBefore
      (faithful_of_mem_ways place hw (List.subset_append_left _ w.directories))
    have nodup : ((w.files.map Prod.fst).filterMap (way? place)).Nodup :=
      hw.once.filterMap fun a b way ha hb => way_inj ha hb
    have sorted_nodup := sorted.and ((List.mergeSort_perm _ _).nodup_iff.2 nodup)
    rw [mergeSort_map_append]
    refine List.pairwise_map.2 (sorted_nodup.imp fun h => ⟨?_, ?_⟩)
    · exact (lexBefore_append _ _ _).trans h.1
    · exact fun heq => h.2 (List.append_cancel_left heq)

/-! ## Order of the entries -/

/-- Both worlds hold the same, but list it in another order. -/
structure Relists (w w' : World) : Prop where
  files : w.files.Perm w'.files
  directories : w.directories.Perm w'.directories
  urls : w'.urls = w.urls

variable {w' : World}

theorem find?_eq_some_of_mem {files : List (Place × ByteArray)} (h : (files.map Prod.fst).Nodup)
    {f : Place × ByteArray} (hf : f ∈ files) : files.find? (·.1 == f.1) = some f := by
  induction files with
  | nil => cases hf
  | cons g files ih =>
    rw [List.map_cons, List.nodup_cons] at h
    rw [List.find?_cons]
    rcases List.mem_cons.1 hf with rfl | hf
    · rw [beq_self_eq_true]
    · have hne : g.1 ≠ f.1 := fun heq => h.1 (heq ▸ List.mem_map_of_mem hf)
      rw [beq_eq_false_iff_ne.2 hne]
      exact ih h.2 hf

theorem Relists.file? (h : w.Relists w') (hw : w.Regular) (place : Place) :
    w'.file? place = w.file? place := by
  have once : (w'.files.map Prod.fst).Nodup := (h.files.map Prod.fst).nodup_iff.1 hw.once
  unfold World.file?
  congr 1
  cases hfound : w.files.find? (·.1 == place) with
  | some f =>
    have hplace := List.find?_some hfound
    rw [← beq_iff_eq.1 hplace]
    exact find?_eq_some_of_mem once (h.files.mem_iff.1 (List.mem_of_find?_eq_some hfound))
  | none =>
    rw [List.find?_eq_none] at hfound ⊢
    exact fun f hf => hfound f (h.files.mem_iff.2 hf)

theorem Relists.isDirectoryAt (h : w.Relists w') : w'.isDirectoryAt = w.isDirectoryAt := by
  funext place
  rw [World.isDirectoryAt, World.isDirectoryAt, h.directories.any_eq, h.files.any_eq]

theorem Relists.isFileAt (h : w.Relists w') (hw : w.Regular) : w'.isFileAt = w.isFileAt := by
  funext place
  rw [World.isFileAt, h.file? hw, World.isFileAt]

theorem Relists.locate (h : w.Relists w') (hw : w.Regular) : w'.locate = w.locate := by
  have step : w'.step = w.step := by
    funext place part
    rw [World.step, h.isDirectoryAt, h.isFileAt hw, World.step]
  funext path
  rw [World.locate, step, World.locate]

theorem Relists.isDirectory (h : w.Relists w') (hw : w.Regular) :
    w'.isDirectory = w.isDirectory := by
  funext path
  rw [World.isDirectory, holdsAt, h.locate hw, h.isDirectoryAt, World.isDirectory, holdsAt]

theorem Relists.existsAt (h : w.Relists w') (hw : w.Regular) : w'.existsAt = w.existsAt := by
  funext path
  rw [World.existsAt, holdsAt, h.locate hw, h.isDirectoryAt, h.isFileAt hw, World.existsAt,
    holdsAt]

theorem Relists.read (h : w.Relists w') (hw : w.Regular) : w'.read = w.read := by
  funext path
  rw [World.read, World.read, h.locate hw, h.isDirectoryAt]
  simp only [h.file? hw]

theorem Relists.pathsBelow (h : w.Relists w') (hw : w.Regular) (path : Path)
    {xs ys : List Place} (hperm : xs.Perm ys) :
    (w.pathsBelow path xs).Perm (w'.pathsBelow path ys) := by
  unfold World.pathsBelow
  rw [h.locate hw]
  split
  · exact .refl []
  · exact (hperm.filterMap _).map _

theorem Relists.entriesBelow (h : w.Relists w') (hw : w.Regular) (path : Path) :
    (w.entriesBelow path).Perm (w'.entriesBelow path) :=
  h.pathsBelow hw path ((h.files.map Prod.fst).append h.directories)

theorem Relists.filesBelow (h : w.Relists w') (hw : w.Regular) (path : Path) :
    w'.filesBelow path = w.filesBelow path := by
  unfold World.filesBelow World.pathsBelow
  rw [h.locate hw]
  split
  · rfl
  · rename_i place hplace
    rw [mergeSort_map_append, mergeSort_map_append, mergeSort_lexBefore_of_perm
      ((h.files.map Prod.fst).filterMap _)
      (faithful_of_mem_ways _ hw (List.subset_append_left _ w.directories))]

end World

end SdlPhp
