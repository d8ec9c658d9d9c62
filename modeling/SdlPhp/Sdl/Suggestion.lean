/-!
# Suggestions

The names that were perhaps meant by an unknown one: those within a small edit distance, the nearer
ones first and names at one distance in natural order.
-/

namespace SdlPhp.Sdl.Suggestion

/-! ## Edit distance -/

/-- The row of distances for one more character `a` of the first text, where `before` is the
character in front of it, `up` the row above and `upup` the row above that. -/
def nextRow (a : Char) (before : Option Char) (b : Array Char) (up upup : Array Nat) : Array Nat :=
  (List.range b.size).foldl (fun row j =>
      let replaced := up.getD j 0 + (if b[j]? = some a then 0 else 1)
      let deleted := up.getD (j + 1) 0 + 1
      let inserted := row.getD j 0 + 1
      let least := min deleted (min inserted replaced)
      let swapped := 1 ≤ j && before.isSome && b[j]? == before && b[j - 1]? == some a
      row.push (if swapped then min least (upup.getD (j - 1) 0 + 1) else least))
    #[up.getD 0 0 + 1]

def rows (b : Array Char) (before : Option Char) (up upup : Array Nat) : List Char → Array Nat
  | [] => up
  | a :: as => rows b (some a) (nextRow a before b up upup) up as

/-- The least number of insertions, deletions, replacements and swaps of neighbours that turn one
text into the other, where no part is changed twice. -/
def editDistance (a b : List Char) : Nat :=
  (rows b.toArray none (Array.range (b.length + 1)) #[] a).getD b.length 0

/-- The distance of two names: a change of letter case alone counts as one step, and is free next
to other steps. -/
def distance (a b : String) : Nat :=
  if a = b then 0
  else
    let x := a.toList.map Char.toLower
    let y := b.toList.map Char.toLower
    if x = y then 1 else editDistance x y

/-- How far from a name its suggestions may be. -/
def threshold (name : String) : Nat := name.length * 2 / 5 + 1

/-! ## Natural order -/

/-- A part of a name for the natural order: a number with its digits, or what stands between. -/
inductive Part
  | text (cs : List Char)
  | number (value : Nat) (digits : List Char)
  deriving DecidableEq, Repr

/-- The parts of a name, which alternate between texts and numbers and start with a text. -/
def parts : Nat → List Char → List Part
  | 0, cs => [.text cs]
  | fuel + 1, cs =>
    let word := cs.takeWhile fun c => !c.isDigit
    match cs.drop word.length with
    | [] => [.text word]
    | rest =>
      let digits := rest.takeWhile Char.isDigit
      .text word :: .number (digits.foldl (fun n c => n * 10 + (c.toNat - 48)) 0) digits ::
        parts fuel (rest.drop digits.length)

def charsBefore : List Char → List Char → Ordering
  | [], [] => .eq
  | [], _ => .lt
  | _, [] => .gt
  | a :: as, b :: bs => (compare a.toNat b.toNat).then (charsBefore as bs)

def Part.compare : Part → Part → Ordering
  | .text a, .text b => charsBefore a b
  | .number m a, .number n b => (Ord.compare m n).then (charsBefore a b)
  | .text _, .number _ _ => .lt
  | .number _ _, .text _ => .gt

def partsCompare : List Part → List Part → Ordering
  | [], [] => .eq
  | [], _ => .lt
  | _, [] => .gt
  | a :: as, b :: bs => (a.compare b).then (partsCompare as bs)

def naturalCompare (a b : String) : Ordering :=
  partsCompare (parts a.length a.toList) (parts b.length b.toList)

/-! ## The suggestions -/

/-- The options near to the name, best first, each of them once. -/
def near (name : String) (options : List String) : List String :=
  let scored := options.eraseDups.filterMap fun o =>
    let d := distance name o
    if d ≤ threshold name then some (d, o) else none
  let sorted := scored.mergeSort fun x y =>
    ((compare x.1 y.1).then (naturalCompare x.2 y.2)).isLE
  sorted.map Prod.snd

def quote (s : String) : String := s!"'{s}'"

/-- The question at the end of a message, about at most five names. -/
def question (names : List String) : String :=
  match (names.take 5).map quote with
  | [] => ""
  | [a] => s!" Did you mean {a}?"
  | [a, b] => s!" Did you mean {a} or {b}?"
  | several =>
    " Did you mean " ++ ", ".intercalate several.dropLast ++ ", or " ++ several.getLastD "" ++ "?"

end SdlPhp.Sdl.Suggestion
