import SdlPhp.Proofs.Delivery.Arguments

/-!
# The verbose flag among words

The words of a command line with the verbose flag in front of them are read as they are without it,
but for the flag, and the flag has no say in the options. Main statement: `Arguments.read_verbose`.
-/

namespace SdlPhp

namespace Arguments

/-- The arguments with the flag. -/
def talking (a : Arguments) : Arguments := { a with verbose := true }

def Reading.talking (r : Reading) : Reading := { r with arguments := r.arguments.talking }

theorem set_talking (a : Arguments) (f : Flag) (s : Given String) :
    a.talking.set f s = (a.set f s).map talking := by
  cases f with
  | timeout =>
    unfold set
    cases integer .timeout s <;> rfl
  | namingConvention =>
    unfold set
    cases convention .namingConvention s <;> rfl
  | indentSize =>
    unfold set
    cases integer .indentSize s <;> rfl
  | _ => rfl

theorem setPlain_talking (a : Arguments) (fs : List Flag) :
    a.talking.setPlain fs = (a.setPlain fs).map talking := by
  unfold setPlain
  induction fs generalizing a with
  | nil => rfl
  | cons f fs ih =>
    rw [List.foldlM_cons, List.foldlM_cons, set_talking]
    cases a.set f .emptyList with
    | error e => rfl
    | ok b => exact ih b

theorem takeRun_talking (r : Reading) (run : List Word) :
    r.talking.takeRun run = (r.takeRun run).talking := by
  unfold Reading.takeRun
  dsimp only
  have hsources : r.talking.arguments.sources = r.arguments.sources := rfl
  rw [hsources]
  split <;> rfl

/-- Sets the flags of one word and reads the words behind it. -/
def readBehind (r : Reading) (before : List Flag) (f : Flag) (s : Given String)
    (ws : List Word) : Except EarlyEnd Reading := do
  let a ← (← r.arguments.setPlain before).set f s
  readWords { r with arguments := a } ws

/-- Reads on behind a word with flags: the last of them may take its value from the next word. -/
def readEnd (r : Reading) (ws : List Word) : List Flag × ClusterEnd → Except EarlyEnd Reading
  | (before, .valued g value) => readBehind r before g (givenBy value) ws
  | (before, .open g) =>
    if g.takesValue then
      match ws with
      | .plain value :: ws => readBehind r before g (givenBy value) ws
      | _ => .error (.refused (.missingValue g))
    else readBehind r before g .emptyList ws

theorem readWords_flag_some (r : Reading) (f : Flag) (isShort : Bool) (cs : List Char)
    (ws : List Word) :
    readWords r (.flag f isShort (some cs) :: ws) =
      ((cluster f isShort cs).mapError .refused >>= readEnd r ws) := by
  rw [readWords]
  cases cluster f isShort cs with
  | error e => rfl
  | ok e =>
    obtain ⟨before, ⟨g, value⟩ | g⟩ := e <;> rfl

theorem readWords_flag_none (r : Reading) (f : Flag) (isShort : Bool) (ws : List Word) :
    readWords r (.flag f isShort none :: ws) = readEnd r ws ([], .open f) := by
  rw [readWords]
  rfl

section Talking

variable {ws : List Word}

theorem readBehind_talking
    (ih : ∀ r, readWords (Reading.talking r) ws = (readWords r ws).map Reading.talking)
    (r : Reading) (before : List Flag) (f : Flag) (s : Given String) :
    readBehind r.talking before f s ws = (readBehind r before f s ws).map Reading.talking := by
  have harguments : r.talking.arguments = r.arguments.talking := rfl
  unfold readBehind
  rw [harguments, setPlain_talking]
  cases r.arguments.setPlain before with
  | error e => rfl
  | ok b =>
    simp only [Except.map, bind, Except.bind, set_talking]
    cases b.set f s with
    | error e => rfl
    | ok c => exact ih { r with arguments := c }

theorem readEnd_talking
    (ih : ∀ vs : List Word, vs.length ≤ ws.length → ∀ r,
      readWords (Reading.talking r) vs = (readWords r vs).map Reading.talking)
    (r : Reading) (e : List Flag × ClusterEnd) :
    readEnd r.talking ws e = (readEnd r ws e).map Reading.talking := by
  have here := readBehind_talking (ih ws (Nat.le_refl _)) r
  obtain ⟨before, ⟨g, value⟩ | g⟩ := e
  · exact here before g (givenBy value)
  · cases htakes : g.takesValue with
    | false =>
      simp only [readEnd, htakes, Bool.false_eq_true, if_false]
      exact here before g .emptyList
    | true =>
      simp only [readEnd, htakes, if_true]
      cases ws with
      | nil => rfl
      | cons word vs =>
        cases word with
        | plain value => exact readBehind_talking (ih vs (Nat.le_succ _)) r before g (givenBy value)
        | _ => rfl

/-- The flag changes nothing in how words are read. -/
theorem readWords_talking (r : Reading) (ws : List Word) :
    readWords r.talking ws = (readWords r ws).map Reading.talking := by
  -- on the number of words: several plain ones are read at once, and a flag may take the next one
  induction hn : ws.length using Nat.strongRecOn generalizing r ws with
  | ind n ih =>
    subst hn
    cases ws with
    | nil => simp [readWords, Except.map]
    | cons word ws =>
      have behind (vs : List Word) (h : vs.length ≤ ws.length) (r : Reading) :
          readWords r.talking vs = (readWords r vs).map Reading.talking :=
        ih vs.length (Nat.lt_succ_of_le h) r vs rfl
      have run (word : Word) :
          readWords (r.talking.takeRun (word :: ws.takeWhile Word.isPositional))
            (ws.dropWhile Word.isPositional) =
              (readWords (r.takeRun (word :: ws.takeWhile Word.isPositional))
                (ws.dropWhile Word.isPositional)).map Reading.talking := by
        rw [takeRun_talking]
        exact behind _ (List.dropWhile_sublist _).length_le _
      cases word with
      | unknown text =>
        rw [readWords, readWords]
        exact behind ws (Nat.le_refl _) (r.leave [text])
      | flag f isShort attached =>
        cases attached with
        | none =>
          rw [readWords_flag_none, readWords_flag_none]
          exact readEnd_talking behind r _
        | some cs =>
          rw [readWords_flag_some, readWords_flag_some]
          cases cluster f isShort cs with
          | error e => rfl
          | ok e => exact readEnd_talking behind r e
      | plain text =>
        rw [readWords, readWords]
        · exact run (.plain text)
        all_goals simp
      | separator =>
        rw [readWords, readWords]
        · exact run .separator
        all_goals simp

end Talking

/-- With the flag in front of them, words are read as without it, but for the flag. -/
theorem read_verbose (words : List String) :
    read ("--verbose" :: words) = (read words).map talking := by
  have hflag : classify "--verbose" = .ok (.flag .verbose false none) := by decide
  have hfirst (ws : List Word) : readWords {} (.flag .verbose false none :: ws) =
      (readWords {} ws).map Reading.talking := by
    rw [← readWords_talking, readWords_flag_none]
    rfl
  have hwords : classifyAll ("--verbose" :: words) =
      (classifyAll words).map (.flag .verbose false none :: ·) := by
    rw [classifyAll, if_neg (by decide), hflag]
    cases classifyAll words <;> rfl
  unfold read
  rw [hwords]
  cases classifyAll words with
  | error e => rfl
  | ok ws =>
    simp only [Except.map, Except.mapError, bind, Except.bind, hfirst]
    cases readWords {} ws with
    | error e => rfl
    | ok r =>
      have hsources : r.talking.arguments.sources = r.arguments.sources := rfl
      have hleft : r.talking.leftOver = r.leftOver := rfl
      simp only [hsources, hleft]
      cases r.arguments.sources.isEmpty <;> cases r.leftOver.isEmpty <;> rfl

/-- The flag has no say in the options. -/
theorem options_talking (a : Arguments) (w : World) (room : Option Nat) :
    a.talking.options w room = a.options w room := rfl

end Arguments

end SdlPhp
