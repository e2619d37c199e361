import Sketch.Canvas.Recording
import Sketch.Session
import Sketch.Proofs.Kept

/-! Checking a program finds every error that its lines have by their text. Whatever a run does with
the lines of a program, collecting, replaying, calling and passing over them, it stops with such an
error only at a line that the check reports, and reports with the same error. -/
namespace Sketch
open Text

theorem mem_checkLines {raws : List (List Char)} {number : Int} {issue : Issue} :
    issue ∈ checkLines true number raws ↔
      issue.line ∈ numberLines number raws ∧ Command.parse issue.line.text = .error issue.cause := by
  induction raws generalizing number with
  | nil => simp [checkLines, numberLines]
  | cons raw raws ih =>
    cases blank : (trim raw).isEmpty with
    | true => simpa [checkLines, numberLines, blank] using ih
    | false =>
      simp only [checkLines, numberLines, blank, Bool.false_eq_true, if_false]
      cases read : Command.parse (String.ofList (trim raw)) with
      | ok command =>
        simp only [ih, List.mem_cons]
        constructor
        · rintro ⟨inside, unread⟩
          exact ⟨.inr inside, unread⟩
        · rintro ⟨same | inside, unread⟩
          · rw [same, read] at unread
            cases unread
          · exact ⟨inside, unread⟩
      | error cause =>
        simp only [if_true, List.mem_cons, ih]
        constructor
        · rintro (rfl | ⟨inside, unread⟩)
          · exact ⟨.inl rfl, read⟩
          · exact ⟨.inr inside, unread⟩
        · rintro ⟨same | inside, unread⟩
          · have cause : cause = issue.cause := by
              rw [same, read] at unread
              exact Except.error.inj unread
            exact .inl (by rw [← same, cause])
          · exact .inr ⟨inside, unread⟩

theorem checkLines_first (raws : List (List Char)) (number : Int) :
    checkLines false number raws = (checkLines true number raws).take 1 := by
  induction raws generalizing number with
  | nil => rfl
  | cons raw raws ih =>
    cases blank : (trim raw).isEmpty with
    | true => simpa only [checkLines, blank, if_true] using ih (number + 1)
    | false =>
      simp only [checkLines, blank, Bool.false_eq_true, if_false]
      cases Command.parse (String.ofList (trim raw)) with
      | ok command => exact ih (number + 1)
      | error cause => rfl

theorem textual_stop_reported {κ : Type} [Canvas κ] {canvas : κ} {strict : Bool} {program : String}
    {error : ScriptError} {s : Session κ}
    (stopped : (Session.start canvas strict).runProgram program = .stopped (.script error) s)
    (textual : error.cause.IsTextual) :
    ∃ issue ∈ checkProgram program true, error = ⟨issue.cause, some issue.line.text, some issue.line.number⟩ := by
  obtain ⟨before, ran⟩ := conclude_stopped stopped
  have kept := Session.runLines_keeps ((Session.start canvas strict).allowance (splitProgram program))
    _ _ (fun line inside => inside) (start_keeps canvas strict (· ∈ splitProgram program))
  rw [ran] at kept
  obtain ⟨-, line, inside, text, number, unread⟩ := kept
  refine ⟨⟨line, error.cause⟩, mem_checkLines.mpr ⟨inside, unread textual⟩, ?_⟩
  rw [← text, ← number]

/-- The check is sound for runs: an error that a line has by its text stops a program only at a line
that the full check reports, with that error; a program without issues never stops so; and the short
check reports the first issue of the full one. -/
theorem checkProgram_sound {κ : Type} [Canvas κ] (canvas : κ) (strict : Bool) (program : String) :
    (∀ error s, (Session.start canvas strict).runProgram program = .stopped (.script error) s →
      error.cause.IsTextual → ∃ issue ∈ checkProgram program true,
        error = ⟨issue.cause, some issue.line.text, some issue.line.number⟩) ∧
    (checkProgram program true = [] → ∀ error s,
      (Session.start canvas strict).runProgram program = .stopped (.script error) s →
        ¬ error.cause.IsTextual) ∧
    checkProgram program false = (checkProgram program true).take 1 := by
  refine ⟨fun error s => textual_stop_reported, ?_, checkLines_first _ _⟩
  intro clean error s stopped textual
  obtain ⟨issue, reported, -⟩ := textual_stop_reported stopped textual
  simp [clean] at reported

/-- A line in the body of a method that a loop calls: it is reported where it stands. -/
theorem checkProgram_sound_in_replayed_call :
    let program := "method go\nhop high\nendmethod\n\nloop\ngo()\nendloop"
    let error : ScriptError := ⟨.unknownCommand "hop", some "hop high", some 2⟩
    (∃ s, (Session.start ({} : Recording) true).runProgram program = .stopped (.script error) s) ∧
      ∃ issue ∈ checkProgram program true, error = ⟨issue.cause, some issue.line.text, some issue.line.number⟩ := by
  intro program error
  have found : ((Session.start ({} : Recording) true).runProgram program).reason? = some (.script error) := by
    decide +kernel
  have stopped := Ran.eq_stopped found
  exact ⟨⟨_, stopped⟩, (checkProgram_sound _ _ _).1 _ _ stopped (by simp [error, Cause.IsTextual, Cause.kind])⟩

end Sketch
