import Sketch.FileTree
import Sketch.Canvas.Recording
import Sketch.Proofs.Chunks

/-! A script that was stored comes back with the same lines. Loading makes every carriage return a line feed, and that
moves no line and changes none, as every such break was one before; and what was loaded once is loaded as it is. -/
namespace Sketch
open Text

/-! Line breaks. -/

private theorem normalizeNewlines_pair (rest : List Char) :
    normalizeNewlines ('\r' :: '\n' :: rest) = '\n' :: normalizeNewlines rest := by
  rw [normalizeNewlines]

private theorem normalizeNewlines_cons {c : Char} {rest : List Char} (alone : c = '\r' → rest.head? ≠ some '\n') :
    normalizeNewlines (c :: rest) = (if c = '\r' then '\n' else c) :: normalizeNewlines rest := by
  have unpaired : ∀ tail, c = '\r' → rest = '\n' :: tail → False := by
    intro tail carriage feed
    exact alone carriage (by rw [feed]; rfl)
  simp only [normalizeNewlines]

theorem splitLines_normalizeNewlines (text : List Char) : splitLines (normalizeNewlines text) = splitLines text := by
  induction text using breaks_induction with
  | nil => rfl
  | pair rest ih => rw [normalizeNewlines_pair, splitLines_feed, splitLines_pair, ih]
  | single c rest alone ih =>
    rw [normalizeNewlines_cons alone, splitLines_cons alone]
    by_cases carriage : c = '\r'
    · subst c
      rw [if_pos rfl, splitLines_feed, ih]
      rfl
    · rw [if_neg carriage, splitLines_cons (fun same => absurd same carriage), ih]

private theorem not_mem_normalizeNewlines (text : List Char) : '\r' ∉ normalizeNewlines text := by
  induction text using breaks_induction with
  | nil => simp [normalizeNewlines]
  | pair rest ih => simpa [normalizeNewlines_pair] using ih
  | single c rest alone ih =>
    rw [normalizeNewlines_cons alone]
    by_cases carriage : c = '\r'
    · simpa [carriage] using ih
    · simpa [carriage, Ne.symm carriage] using ih

theorem normalizeNewlines_eq_self {text : List Char} (free : '\r' ∉ text) : normalizeNewlines text = text := by
  induction text with
  | nil => rfl
  | cons c rest ih =>
    have other : c ≠ '\r' := by
      rintro rfl
      exact free List.mem_cons_self
    rw [normalizeNewlines_cons (fun same => absurd same other), if_neg other]
    rw [ih (fun inside => free (List.mem_cons_of_mem _ inside))]

def asLoaded (program : String) : String :=
  String.ofList (normalizeNewlines program.toList)

theorem decodeScript_toUTF8 (program : String) : decodeScript program.toUTF8 = .ok (asLoaded program) := by
  have valid : program.toUTF8.IsValidUTF8 := program.isValidUTF8
  have read : String.fromUTF8? program.toUTF8 = some program := by
    unfold String.fromUTF8?
    rw [dif_pos valid]
    rfl
  simp only [decodeScript, read, asLoaded]

private theorem asLoaded_asLoaded (program : String) : asLoaded (asLoaded program) = asLoaded program := by
  simp only [asLoaded, String.toList_ofList, normalizeNewlines_eq_self (not_mem_normalizeNewlines _)]

theorem splitLines_asLoaded (program : String) : splitLines (asLoaded program).toList = splitLines program.toList := by
  simp only [asLoaded, String.toList_ofList, splitLines_normalizeNewlines]

/-! Files. -/

namespace FileTree
variable {tree : FileTree} {place other : Place}

theorem node?_put_self (tree : FileTree) {place : Place} (inner : place ≠ []) (node : Node) :
    (tree.put place node).node? place = some node := by
  simp [node?, put, inner]

private theorem lookup_filter_ne (nodes : List (Place × Node)) (apart : other ≠ place) :
    (nodes.filter (·.1 != place)).lookup other = nodes.lookup other := by
  induction nodes with
  | nil => rfl
  | cons entry nodes ih =>
    obtain ⟨spot, node⟩ := entry
    by_cases same : spot = place
    · subst spot
      rw [List.filter_cons_of_neg (by simp), List.lookup_cons, beq_false_of_ne apart, ih]
    · rw [List.filter_cons_of_pos (by simpa using same), List.lookup_cons, List.lookup_cons, ih]

theorem node?_put_other (tree : FileTree) (apart : other ≠ place) (node : Node) :
    (tree.put place node).node? other = tree.node? other := by
  simp only [node?, put, List.lookup_cons, beq_false_of_ne apart, lookup_filter_ne _ apart]

private theorem checkDirectory_ok : tree.checkDirectory place = .ok () ↔ tree.node? place = some .directory := by
  unfold checkDirectory
  cases tree.node? place with
  | none => simp
  | some node => cases node <;> simp

private theorem walk_cons {part : String} {parts : List String} : tree.walk place (part :: parts) = .ok other ↔
    tree.node? place = some .directory ∧ tree.walk (Place.go place part) parts = .ok other := by
  rw [walk, ← checkDirectory_ok]
  constructor
  · intro walked
    obtain ⟨_, here, rest⟩ := except_bind_ok walked
    exact ⟨here, rest⟩
  · rintro ⟨here, rest⟩
    rw [here]
    exact rest

private theorem walk_foldl {parts : List String} (walked : tree.walk place parts = .ok other) :
    parts.foldl Place.go place = other := by
  induction parts generalizing place with
  | nil => exact Except.ok.inj walked
  | cons part parts ih => exact ih (walk_cons.mp walked).2

private theorem walk_concat {parts : List String} (walked : tree.walk place parts = .ok other)
    (directory : tree.node? other = some .directory) (last : String) :
    tree.walk place (parts ++ [last]) = .ok (Place.go other last) := by
  induction parts generalizing place with
  | nil =>
    obtain rfl := Except.ok.inj walked
    exact walk_cons.mpr ⟨directory, rfl⟩
  | cons part parts ih =>
    obtain ⟨here, rest⟩ := walk_cons.mp walked
    exact walk_cons.mpr ⟨here, ih rest⟩

/-- Paths lead through directories only, so what is put where there is none stands in no way. -/
theorem walk_put {parts : List String} {target : Place} (walked : tree.walk place parts = .ok other)
    (vacant : tree.node? target ≠ some .directory) (node : Node) :
    (tree.put target node).walk place parts = .ok other := by
  induction parts generalizing place with
  | nil => exact walked
  | cons part parts ih =>
    obtain ⟨here, rest⟩ := walk_cons.mp walked
    have apart : place ≠ target := by
      rintro rfl
      exact vacant here
    rw [walk_cons, node?_put_other tree apart]
    exact ⟨here, ih rest⟩

/-- A path at which a file can be written: a name of its own in a directory that is there. -/
structure Writable (tree : FileTree) (text : String) (name : String) (parent : Place) : Prop where
  nonempty : text.isEmpty = false
  walked : tree.walk (tree.origin (Path.parse text)) (Path.parse text).parts.dropLast = .ok parent
  directory : tree.node? parent = some .directory
  last : (Path.parse text).parts.getLast? = some name
  proper : ((Path.parse text).trailing || name = "." || name = "..") = false
  vacant : tree.node? (name :: parent) ≠ some .directory

theorem write_ok {text : String} {content : ByteArray} {after : FileTree}
    (written : tree.write text content = .ok after) :
    ∃ name parent, tree.Writable text name parent ∧ after = tree.put (name :: parent) (.file content) := by
  unfold write at written
  split at written
  · cases written
  · rename_i nonempty
    obtain ⟨parent, walked, rest⟩ := except_bind_ok written
    obtain ⟨_, here, rest⟩ := except_bind_ok rest
    split at rest
    · cases rest
    · rename_i name last
      split at rest
      · cases rest
      · rename_i proper
        split at rest
        · cases rest
        · rename_i vacant
          have writable : tree.Writable text name parent :=
            ⟨by simpa using nonempty, walked, checkDirectory_ok.mp here, last, by simpa using proper, vacant⟩
          exact ⟨name, parent, writable, (Except.ok.inj rest).symm⟩

namespace Writable
variable {text name : String} {parent : Place}

theorem write (writable : tree.Writable text name parent) (content : ByteArray) :
    tree.write text content = .ok (tree.put (name :: parent) (.file content)) := by
  have here := checkDirectory_ok.mpr writable.directory
  -- What stands there is no directory, which decides the last choice.
  have vacant := writable.vacant
  unfold FileTree.write
  simp only [writable.nonempty, writable.walked, here, writable.last, writable.proper, bind, Except.bind,
    Bool.false_eq_true, if_false]

private theorem parts_eq (writable : tree.Writable text name parent) :
    (Path.parse text).parts = (Path.parse text).parts.dropLast ++ [name] :=
  (List.dropLast_append_getLast? name writable.last).symm

private theorem go (writable : tree.Writable text name parent) : Place.go parent name = name :: parent := by
  have proper := writable.proper
  simp only [Bool.or_eq_false_iff, decide_eq_false_iff_not] at proper
  rw [Place.go, if_neg proper.1.2, if_neg proper.2]

private theorem place_eq (writable : tree.Writable text name parent) :
    (Path.parse text).parts.foldl Place.go (tree.origin (Path.parse text)) = name :: parent := by
  rw [writable.parts_eq, List.foldl_append, walk_foldl writable.walked]
  exact writable.go

theorem put (writable : tree.Writable text name parent) (content : ByteArray) :
    (tree.put (name :: parent) (.file content)).Writable text name parent where
  nonempty := writable.nonempty
  walked := walk_put writable.walked writable.vacant _
  directory := by
    rw [node?_put_other tree (List.cons_ne_self name parent).symm]
    exact writable.directory
  last := writable.last
  proper := writable.proper
  vacant := by
    rw [node?_put_self tree (List.cons_ne_nil name parent)]
    simp

theorem read (writable : tree.Writable text name parent) (content : ByteArray) :
    (tree.put (name :: parent) (.file content)).read text = .ok content := by
  have again := writable.put content
  have found := node?_put_self tree (List.cons_ne_nil name parent) (.file content)
  have walked := walk_concat again.walked again.directory name
  have proper := writable.proper
  rw [← writable.parts_eq, writable.go] at walked
  simp only [Bool.or_eq_false_iff] at proper
  unfold FileTree.read
  simp only [writable.nonempty, proper.1.1, walked, found, bind, Except.bind, Bool.false_eq_true, if_false]

end Writable

private theorem makeDirectories_inside {name : String} {parent : Place} {made : FileTree}
    (there : (tree.node? parent).isSome) (done : tree.makeDirectories (name :: parent) = .ok made) :
    made.home = tree.home ∧ made.node? (name :: parent) = some .directory ∧ (made.node? parent).isSome := by
  rw [makeDirectories, if_pos there] at done
  obtain ⟨between, same, rest⟩ := except_bind_ok done
  obtain rfl := Except.ok.inj same
  dsimp only at rest
  split at rest
  · rename_i directory
    obtain rfl := Except.ok.inj rest
    exact ⟨rfl, directory, there⟩
  · cases rest
  · obtain ⟨_, -, last⟩ := except_bind_ok rest
    obtain rfl := Except.ok.inj last
    refine ⟨rfl, node?_put_self tree (List.cons_ne_nil name parent) _, ?_⟩
    rwa [node?_put_other tree (List.cons_ne_self name parent).symm]

private theorem makeDirectories_above {name : String} {parent : Place} {made : FileTree}
    (missing : ¬ (tree.node? parent).isSome) (done : tree.makeDirectories (name :: parent) = .ok made) :
    ∃ between, tree.makeDirectories parent = .ok between ∧
      ((between.node? parent).isSome → between.makeDirectories (name :: parent) = .ok made) := by
  rw [makeDirectories, if_neg missing] at done
  obtain ⟨between, first, rest⟩ := except_bind_ok done
  refine ⟨between, first, fun there => ?_⟩
  rw [makeDirectories, if_pos there]
  exact rest

theorem makeDirectories_made {made : FileTree} (done : tree.makeDirectories place = .ok made) :
    made.home = tree.home ∧ made.node? place = some .directory ∧ (made.node? place.tail).isSome := by
  induction place generalizing tree made with
  | nil =>
    obtain rfl := Except.ok.inj done
    exact ⟨rfl, rfl, rfl⟩
  | cons name parent ih =>
    by_cases there : (tree.node? parent).isSome
    · exact makeDirectories_inside there done
    · obtain ⟨between, first, rest⟩ := makeDirectories_above there done
      obtain ⟨home, directory, -⟩ := ih first
      have now : (between.node? parent).isSome := by rw [directory]; rfl
      have last := makeDirectories_inside now (rest now)
      exact ⟨last.1.trans home, last.2⟩

theorem makeDirectories_eq_self (directory : tree.node? place = some .directory)
    (above : (tree.node? place.tail).isSome) : tree.makeDirectories place = .ok tree := by
  cases place with
  | nil => rfl
  | cons name parent =>
    rw [List.tail_cons] at above
    simp only [makeDirectories, above, if_true, directory, bind, Except.bind]

/-- A script is saved where its path leads, and then it can be saved there again. -/
theorem save_ok {stored : FileTree} {path program : String} (saved : tree.save path program = (stored, none)) :
    ∃ (name : String) (parent : Place) (made : FileTree), made.Writable path name parent ∧
      (made.node? parent.tail).isSome ∧ stored = made.put (name :: parent) (.file program.toUTF8) := by
  simp only [save] at saved
  split at saved
  · cases saved
  · rename_i made done
    split at saved
    · cases saved
    · rename_i after written
      obtain ⟨name, parent, writable, rfl⟩ := write_ok written
      obtain ⟨rfl, -⟩ := Prod.mk.inj saved
      refine ⟨name, parent, made, writable, ?_, rfl⟩
      obtain ⟨home, -, above⟩ := makeDirectories_made done
      have same : tree.origin (Path.parse path) = made.origin (Path.parse path) := by
        simp only [origin, home]
      rwa [same, writable.place_eq, List.tail_cons] at above

theorem Writable.save {path name : String} {parent : Place} (writable : tree.Writable path name parent)
    (above : (tree.node? parent.tail).isSome) (program : String) :
    tree.save path program = (tree.put (name :: parent) (.file program.toUTF8), none) := by
  simp only [FileTree.save, writable.place_eq, List.tail_cons, makeDirectories_eq_self writable.directory above,
    writable.write]

theorem Writable.load {path name : String} {parent : Place} (writable : tree.Writable path name parent)
    (program : String) : (tree.put (name :: parent) (.file program.toUTF8)).load path = .ok (asLoaded program) := by
  simp only [FileTree.load, writable.read, decodeScript_toUTF8]

end FileTree

private theorem runScript_congr {κ : Type} [Canvas κ] (canvas : κ) (strict : Bool) {program other : String}
    (same : splitProgram other = splitProgram program) : runScript canvas strict other = runScript canvas strict program := by
  simp only [runScript, Session.runProgram, same]

/-- A script that was saved is loaded with the same lines under the same numbers, so that it runs on every canvas and is
checked as what was saved; and saving what was loaded, it is loaded as it is. -/
theorem saved_script_unchanged {tree stored : FileTree} {path program : String}
    (saved : tree.save path program = (stored, none)) :
    ∃ loaded, stored.load path = .ok loaded ∧ splitProgram loaded = splitProgram program ∧
      (∀ (κ : Type) [Canvas κ] (canvas : κ) (strict : Bool),
        runScript canvas strict loaded = runScript canvas strict program) ∧
      (∀ all, checkProgram loaded all = checkProgram program all) ∧
      ∃ again, stored.save path loaded = (again, none) ∧ again.load path = .ok loaded := by
  obtain ⟨name, parent, made, writable, above, rfl⟩ := FileTree.save_ok saved
  have lines : splitProgram (asLoaded program) = splitProgram program := by
    simp only [splitProgram, splitLines_asLoaded]
  have later := writable.put program.toUTF8
  have still : ((made.put (name :: parent) (.file program.toUTF8)).node? parent.tail).isSome := by
    rw [FileTree.node?_put_other]
    · exact above
    · intro same
      have lengths := congrArg List.length same
      simp only [List.length_tail, List.length_cons] at lengths
      omega
  refine ⟨asLoaded program, writable.load program, lines, ?_, ?_, ?_⟩
  · intro κ _ canvas strict
    exact runScript_congr canvas strict lines
  · intro all
    simp only [checkProgram, splitLines_asLoaded]
  · refine ⟨_, later.save still (asLoaded program), ?_⟩
    rw [later.load, asLoaded_asLoaded]

/-- Breaks of several kinds next to each other, saved by a path that leads up again from a directory made for it. -/
theorem saved_script_unchanged_mixed_breaks :
    ((FileTree.withHome ["home"]).save "a/../a/b" "circle 1\r\n\rvar x 2\x0b\r\r\nhop\r").2 = none ∧
    ∃ loaded, ((FileTree.withHome ["home"]).save "a/../a/b" "circle 1\r\n\rvar x 2\x0b\r\r\nhop\r").1.load "a/../a/b" =
        .ok loaded ∧
      splitProgram loaded = [⟨1, "circle 1"⟩, ⟨3, "var x 2"⟩, ⟨6, "hop"⟩] ∧
      checkProgram loaded false = [⟨⟨6, "hop"⟩, .unknownCommand "hop"⟩] := by
  have succeeded : ((FileTree.withHome ["home"]).save "a/../a/b" "circle 1\r\n\rvar x 2\x0b\r\r\nhop\r").2 = none := by
    decide +kernel
  obtain ⟨loaded, found, lines, -, checked, -⟩ := saved_script_unchanged (Prod.ext rfl succeeded)
  refine ⟨succeeded, loaded, found, ?_, ?_⟩
  · rw [lines]
    decide +kernel
  · rw [checked]
    decide +kernel

end Sketch
