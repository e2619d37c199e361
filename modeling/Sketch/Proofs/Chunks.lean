import Sketch.Proofs.Allowance
import Sketch.Proofs.Reachable
import Sketch.Proofs.Renumbering

/-! A program can be run in chunks. Two texts joined by a line break run as the one after the other, but
for the numbers of the lines of the second and for one refresh; and if the first stops, the second does
not matter, unless it could hold the `endif` that the first is missing. -/
namespace Sketch
open Text

/-! Splitting joined texts. -/

/-- Texts are read break by break, and a carriage return before a line feed is one break with it. -/
@[elab_as_elim]
theorem breaks_induction {motive : List Char → Prop} (nil : motive [])
    (pair : ∀ rest, motive rest → motive ('\r' :: '\n' :: rest))
    (single : ∀ c rest, (c = '\r' → rest.head? ≠ some '\n') → motive rest → motive (c :: rest))
    (text : List Char) : motive text := by
  induction length : text.length using Nat.strongRecOn generalizing text with
  | ind n ih =>
    subst n
    cases text with
    | nil => exact nil
    | cons c rest =>
      by_cases both : c = '\r' ∧ rest.head? = some '\n'
      · obtain ⟨rfl, feed⟩ := both
        obtain ⟨tail, rfl⟩ := List.head?_eq_some_iff.mp feed
        refine pair tail (ih tail.length ?_ tail rfl)
        simp only [List.length_cons]
        omega
      · exact single c rest (fun carriage feed => both ⟨carriage, feed⟩) (ih rest.length (by simp) rest rfl)

theorem splitLines_cons {c : Char} {rest : List Char} (single : c = '\r' → rest.head? ≠ some '\n') :
    splitLines (c :: rest) = if isLineBreak c then [] :: splitLines rest
      else match splitLines rest with
        | [] => [[c]]
        | line :: lines => (c :: line) :: lines := by
  have alone : ∀ tail, c = '\r' → rest = '\n' :: tail → False := by
    intro tail carriage feed
    exact single carriage (by rw [feed]; rfl)
  cases split : splitLines rest <;> simp only [splitLines, split]

theorem splitLines_pair (rest : List Char) : splitLines ('\r' :: '\n' :: rest) = [] :: splitLines rest := by
  rw [splitLines]

theorem splitLines_feed (rest : List Char) : splitLines ('\n' :: rest) = [] :: splitLines rest := by
  rw [splitLines_cons (by simp)]
  rfl

private theorem splitLines_ne_nil (text : List Char) (nonempty : text ≠ []) : splitLines text ≠ [] := by
  induction text using breaks_induction with
  | nil => exact absurd rfl nonempty
  | pair rest => simp [splitLines_pair]
  | single c rest alone =>
    rw [splitLines_cons alone]
    split
    · simp
    · split <;> simp

private theorem alone_append {c : Char} {rest : List Char} (alone : c = '\r' → rest.head? ≠ some '\n')
    (inner : ¬ (c = '\r' ∧ rest = [])) (more : List Char) :
    c = '\r' → (rest ++ '\n' :: more).head? ≠ some '\n' := by
  intro carriage
  cases rest with
  | nil => exact absurd ⟨carriage, rfl⟩ inner
  | cons first tail => simpa using alone carriage

/-- A break ends a line and nothing else: what stands after it is split on its own. -/
theorem splitLines_append_feed (first second : List Char) :
    splitLines (first ++ '\n' :: second) = splitLines (first ++ ['\n']) ++ splitLines second := by
  induction first using breaks_induction with
  | nil => simp [splitLines_feed, splitLines]
  | pair rest ih => simp only [List.cons_append, splitLines_pair, ih]
  | single c rest alone ih =>
    by_cases last : c = '\r' ∧ rest = []
    · obtain ⟨rfl, rfl⟩ := last
      simp [splitLines_pair, splitLines]
    · simp only [List.cons_append, splitLines_cons (alone_append alone last _), ih]
      split
      · rfl
      · obtain ⟨line, lines, split⟩ := List.exists_cons_of_ne_nil (splitLines_ne_nil (rest ++ ['\n']) (by simp))
        simp [split]

theorem splitLines_feed_end (text : List Char) :
    splitLines (text ++ ['\n']) = splitLines text ∨ splitLines (text ++ ['\n']) = splitLines text ++ [[]] := by
  induction text using breaks_induction with
  | nil => exact .inr rfl
  | pair rest ih =>
    simp only [List.cons_append, splitLines_pair]
    rcases ih with same | blank
    · exact .inl (by rw [same])
    · exact .inr (by rw [blank])
  | single c rest alone ih =>
    by_cases last : c = '\r' ∧ rest = []
    · obtain ⟨rfl, rfl⟩ := last
      exact .inl rfl
    · simp only [List.cons_append, splitLines_cons (alone_append alone last _), splitLines_cons alone]
      split
      · rcases ih with same | blank
        · exact .inl (by rw [same])
        · exact .inr (by rw [blank]; rfl)
      · cases rest with
        | nil => exact .inl rfl
        | cons next tail =>
          obtain ⟨line, lines, split⟩ := List.exists_cons_of_ne_nil (splitLines_ne_nil (next :: tail) (by simp))
          rcases ih with same | blank
          · exact .inl (by rw [same])
          · exact .inr (by rw [blank, split]; rfl)

theorem numberLines_append (number : Int) (first second : List (List Char)) :
    numberLines number (first ++ second) =
      numberLines number first ++ numberLines (number + first.length) second := by
  induction first generalizing number with
  | nil => simp [numberLines]
  | cons line lines ih =>
    have next : number + ((line :: lines).length : Int) = number + 1 + (lines.length : Int) := by
      simp only [List.length_cons, Int.natCast_add, Int.natCast_one]
      omega
    simp only [List.cons_append, numberLines, ih, next]
    split <;> simp

private theorem numberLines_shift (number shift : Int) (raws : List (List Char)) :
    numberLines (number + shift) raws =
      (numberLines number raws).map fun line => { line with number := line.number + shift } := by
  induction raws generalizing number with
  | nil => rfl
  | cons raw raws ih =>
    have next : number + shift + 1 = number + 1 + shift := by omega
    simp only [numberLines, next, ih]
    split <;> simp

/-- How many lines a text takes up before another that is put on a line of its own. -/
def lineSpan (text : String) : Nat :=
  (splitLines (text.toList ++ ['\n'])).length

theorem splitProgram_append (first second : String) :
    splitProgram (first ++ "\n" ++ second) = splitProgram first ++
      (splitProgram second).map fun line => { line with number := line.number + (lineSpan first : Int) } := by
  have joined : (first ++ "\n" ++ second).toList = first.toList ++ '\n' :: second.toList := by simp
  have own : numberLines 1 (splitLines (first.toList ++ ['\n'])) = numberLines 1 (splitLines first.toList) := by
    rcases splitLines_feed_end first.toList with same | blank
    · rw [same]
    · rw [blank, numberLines_append]
      simp [numberLines, trim, trimLeft]
  simp only [splitProgram, joined]
  rw [splitLines_append_feed, numberLines_append, own, ← numberLines_shift]
  rfl

/-- The lines that a session holds keep their numbers, those of the second text stand behind the first. -/
def chunked {κ : Type} (s : Session κ) (first second : String) : Renumbering :=
  ⟨s.Holds, (· ∈ splitProgram second), lineSpan first⟩

private theorem splitProgram_append_pairs {κ : Type} (s : Session κ) (first second : String) :
    ∃ others, splitProgram (first ++ "\n" ++ second) = splitProgram first ++ others ∧
      List.Forall₂ (chunked s first second).Pairs (splitProgram second) others := by
  refine ⟨_, splitProgram_append first second, List.forall₂_map_right_iff.mpr (List.forall₂_same.mpr ?_)⟩
  exact fun line inside => .inr ⟨inside, rfl⟩

/-! Running joined lines. -/

private theorem linesToEndif_append {lines : List SourceLine} {depth count : Nat}
    (found : linesToEndif depth lines = some count) (more : List SourceLine) :
    linesToEndif depth (lines ++ more) = some count ∧ count ≤ lines.length := by
  induction lines generalizing depth count with
  | nil => cases found
  | cons line rest ih =>
    have deeper : ∀ {depth count}, (linesToEndif depth rest).map (· + 1) = some count →
        (linesToEndif depth (rest ++ more)).map (· + 1) = some count ∧ count ≤ rest.length + 1 := by
      intro depth count found
      obtain ⟨inner, later, rfl⟩ := Option.map_eq_some_iff.mp found
      obtain ⟨same, bound⟩ := ih later
      exact ⟨by rw [same]; rfl, Nat.succ_le_succ bound⟩
    simp only [linesToEndif] at found
    simp only [List.cons_append, linesToEndif, List.length_cons]
    split at found
    · exact deeper found
    · split at found
      · cases found
        exact ⟨rfl, by omega⟩
      · exact deeper found
    · exact deeper found

/-- The only stop that further lines could prevent. -/
def Stop.MissesEndif : Stop → Prop
  | script error => error.cause = .unclosedIf
  | canvas _ => False
  | tooDeep => False

namespace Session
variable {κ : Type} [Canvas κ]

/-- A run over more lines goes on where it ended, or it stopped for good. -/
theorem scan_append (run : Runner κ) (lines more : List SourceLine) (s : Session κ) :
    match scan run 0 lines s with
    | .done t => scan run 0 (lines ++ more) s = scan run 0 more t
    | .stopped reason t => reason.MissesEndif ∨ scan run 0 (lines ++ more) s = .stopped reason t := by
  have scanned := scan_scanned run lines s
  generalize scan run 0 lines s = ran at scanned
  induction scanned with
  | nil => rfl
  | next stepped _ ih =>
    rw [List.cons_append, scan_next stepped]
    exact ih
  | stop stepped => exact .inr (scan_stop stepped)
  | unclosed stepped missing => exact .inl rfl
  | skip stepped found _ ih =>
    obtain ⟨same, bound⟩ := linesToEndif_append found more
    rw [List.cons_append, scan_skip stepped same, List.drop_append_of_le_length bound]
    exact ih

variable {lines more : List SourceLine} {s t : Session κ}

private theorem runLines_append_done {depth : Nat} (ran : runLines depth lines s = .done t) :
    runLines depth (lines ++ more) s = runLines depth more t := by
  cases depth with
  | zero => cases ran
  | succ depth =>
    have both := scan_append (runLines depth) lines more s
    simp only [runLines] at ran ⊢
    rw [ran] at both
    exact both

private theorem runLines_append_stopped {depth : Nat} {reason : Stop}
    (ran : runLines depth lines s = .stopped reason t)
    (final : ¬ reason.MissesEndif) : runLines depth (lines ++ more) s = .stopped reason t := by
  cases depth with
  | zero =>
    cases ran
    rfl
  | succ depth =>
    have both := scan_append (runLines depth) lines more s
    simp only [runLines] at ran ⊢
    rw [ran] at both
    exact both.resolve_left final

private theorem conclude_matches {r : Renumbering} {ran other : Ran Recording} (complaint : String)
    (same : ran.Matches r other) :
    (conclude complaint ran).Matches r (conclude complaint other) := by
  cases same with
  | @done s t session =>
    exact .done ⟨session.scope, session.blocks, session.pen, session.canvas.operations,
      congrArg (· + 1) session.canvas.refreshes⟩
  | stopped same session =>
    cases same with
    | bare cause => exact .stopped (.bare cause) ⟨session.scope, session.blocks, session.pen, session.canvas⟩
    | located cause renumbered =>
      exact .stopped (.located cause renumbered) ⟨session.scope, session.blocks, session.pen, session.canvas⟩
    | canvas fault => exact .stopped (.canvas fault) session
    | tooDeep => exact .stopped .tooDeep session

private theorem refreshed_matches {r : Renumbering} (s : Session Recording) (held : r.held = s.Holds) :
    Matches r { s with toState := s.refresh } s := by
  have same : ∀ lines : List SourceLine, (∀ l ∈ lines, s.Holds l) → List.Forall₂ r.Pairs lines lines :=
    fun lines holds => List.forall₂_same.mpr fun l inside => .inl ⟨held ▸ holds l inside, rfl⟩
  refine ⟨⟨rfl, List.forall₂_same.mpr fun method inside => ?_, rfl⟩, ⟨rfl, rfl, ?_⟩, rfl, rfl, rfl⟩
  · exact ⟨rfl, rfl, same _ fun l body => .inl ⟨method, inside, body⟩⟩
  · change Option.Rel _ s.blocks.capture s.blocks.capture
    cases opened : s.blocks.capture with
    | none => exact .none
    | some capture => exact .some ⟨rfl, same _ fun l collected => .inr ⟨capture, opened, collected⟩⟩

private theorem runProgram_append_done {s t : Session Recording} (kept : Keeps (fun _ => True) s) {first : String}
    (ended : s.runProgram first = .done t) (second : String) :
    (t.runProgram second).Matches (chunked t first second) (s.runProgram (first ++ "\n" ++ second)) := by
  obtain ⟨before, ran, rfl⟩ := conclude_done ended
  obtain ⟨others, joined, renumbered⟩ := splitProgram_append_pairs before first second
  have keptBefore : Keeps (fun _ => True) { before with toState := before.refresh } := by
    have keeps := runLines_keeps (s.allowance (splitProgram first)) (splitProgram first) s (fun _ _ => trivial) kept
    rw [ran] at keeps
    exact Keeps.of_eq keeps rfl rfl
  -- The three runs are compared at one depth, which is enough for each of them.
  obtain ⟨depth, whole, alone, rest⟩ : ∃ depth, s.allowance (splitProgram first ++ others) ≤ depth ∧
      s.allowance (splitProgram first) ≤ depth ∧
      allowance { before with toState := before.refresh } (splitProgram second) ≤ depth :=
    ⟨s.allowance (splitProgram first ++ others) + s.allowance (splitProgram first) +
      before.allowance (splitProgram second), by omega, by omega, Nat.le_add_left _ _⟩
  rw [← runLines_eq_allowance (fun _ _ => trivial) kept alone] at ran
  simp only [runProgram, joined]
  rw [← runLines_eq_allowance (fun _ _ => trivial) kept whole, runLines_append_done ran,
    ← runLines_eq_allowance (fun _ _ => trivial) keptBefore rest]
  exact conclude_matches _ (runLines_matches depth _ _ _ _ renumbered (refreshed_matches before rfl))

private theorem runProgram_append_stopped (kept : Keeps (fun _ => True) s) {first : String} {error : ScriptError}
    (ended : s.runProgram first = .stopped (.script error) t) (final : error.cause ≠ .unclosedIf)
    (second : String) :
    s.runProgram (first ++ "\n" ++ second) = .stopped (.script error) t := by
  obtain ⟨before, ran⟩ := conclude_stopped ended
  obtain ⟨others, joined, -⟩ := splitProgram_append_pairs s first second
  have more : s.allowance (splitProgram first) ≤ s.allowance (splitProgram first ++ others) := by
    simp only [allowance, List.length_append]
    omega
  have longer := runLines_eq_allowance (fun _ _ => trivial) kept more
  simp only [runProgram, joined] at ended ⊢
  rw [runLines_append_stopped (longer.trans ran) final, ← ran]
  exact ended

end Session

/-- Running two texts joined by a line break. If the first succeeds, the joined text does what the
second does after it, with the numbers of the lines of the second moved on and with one refresh fewer;
if the first stops, but not for a false condition that has no `endif`, the joined text stops with the
same error in the same session. -/
theorem runProgram_chunks {s : Session Recording} (reachable : Reachable s) (first second : String) :
    (∀ t, s.runProgram first = .done t →
      (t.runProgram second).Matches (chunked t first second) (s.runProgram (first ++ "\n" ++ second))) ∧
    ∀ error t, s.runProgram first = .stopped (.script error) t → error.cause ≠ .unclosedIf →
      s.runProgram (first ++ "\n" ++ second) = .stopped (.script error) t :=
  ⟨fun _ ended => Session.runProgram_append_done reachable.keeps ended second,
    fun _ _ ended final => Session.runProgram_append_stopped reachable.keeps ended final second⟩

/-- A loop that is opened before the cut and closed after it, and an error before the cut. -/
theorem runProgram_chunks_of_open_loop :
    let s := Session.start ({} : Recording) true
    (∃ t, s.runProgram "loop\nreset" = .done t ∧
      (t.runProgram "endloop\nhop").Matches (chunked t "loop\nreset" "endloop\nhop")
        (s.runProgram ("loop\nreset" ++ "\n" ++ "endloop\nhop"))) ∧
    ∃ t, s.runProgram "endloop" = .stopped (.script ⟨.strayCloser .loop, some "endloop", some 1⟩) t ∧
      s.runProgram ("endloop" ++ "\n" ++ "reset") =
        .stopped (.script ⟨.strayCloser .loop, some "endloop", some 1⟩) t := by
  intro s
  have fresh : Reachable s := .start _ _
  have ended : s.runProgram "loop\nreset" = .done _ := Ran.eq_done (by decide +kernel)
  have stopped : s.runProgram "endloop" = .stopped (.script ⟨.strayCloser .loop, some "endloop", some 1⟩) _ :=
    Ran.eq_stopped (by decide +kernel)
  exact ⟨⟨_, ended, (runProgram_chunks fresh _ _).1 _ ended⟩,
    _, stopped, (runProgram_chunks fresh _ _).2 _ _ stopped (by simp)⟩

end Sketch
