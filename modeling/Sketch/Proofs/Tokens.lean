import Sketch.Proofs.Words

/-! Scans against the token classes: what a scan takes is a token with nothing left out, and a token
that nothing in the text after it can prolong is taken whole. -/
namespace Sketch
open Text

theorem scanRun_eq_some {accepts : Char → Bool} {text token rest : List Char} :
    scanRun accepts text = some (token, rest) ↔
      text = token ++ rest ∧ token ≠ [] ∧ (∀ c ∈ token, accepts c) ∧ ∀ c ∈ rest.head?, ¬ accepts c := by
  constructor
  · intro scanned
    cases text with
    | nil => simp [scanRun] at scanned
    | cons c text =>
      simp only [scanRun] at scanned
      split at scanned
      · rename_i first
        simp only [Option.some.injEq, Prod.mk.injEq] at scanned
        obtain ⟨rfl, rfl⟩ := scanned
        refine ⟨by simp, List.cons_ne_nil _ _, ?_, head?_dropWhile text⟩
        intro d inside
        rcases List.mem_cons.mp inside with rfl | later
        · exact first
        · exact List.mem_takeWhile_imp later
      · simp at scanned
  · rintro ⟨rfl, given, all, stops⟩
    cases token with
    | nil => exact absurd rfl given
    | cons c token =>
      have later : ∀ d ∈ token, accepts d := fun d inside => all d (List.mem_cons_of_mem c inside)
      simp only [List.cons_append, scanRun, all c List.mem_cons_self, if_true,
        takeWhile_run later stops, dropWhile_run later stops]

theorem scanName_eq_some {text token rest : List Char} :
    scanName text = some (token, rest) ↔
      text = token ++ rest ∧ IsName token ∧ ∀ c ∈ rest.head?, ¬ isNameChar c := by
  constructor
  · intro scanned
    cases text with
    | nil => simp [scanName] at scanned
    | cons c text =>
      simp only [scanName] at scanned
      split at scanned
      · rename_i first
        simp only [Option.some.injEq, Prod.mk.injEq] at scanned
        obtain ⟨rfl, rfl⟩ := scanned
        exact ⟨by simp, ⟨c, _, rfl, first, fun d => List.mem_takeWhile_imp⟩, head?_dropWhile text⟩
      · simp at scanned
  · rintro ⟨rfl, ⟨first, token, rfl, start, more⟩, stops⟩
    simp only [List.cons_append, scanName, start, if_true, takeWhile_run more stops,
      dropWhile_run more stops]

/-- The text after a part of a line: nothing that could prolong a name or a number. -/
def Parted (rest : List Char) : Prop :=
  ∀ c ∈ rest.head?, c = ' ' ∨ c = '\t' ∨ c = ',' ∨ c = '(' ∨ c = ')'

theorem Parted.not_isNameChar {rest : List Char} (parted : Parted rest) :
    ∀ c ∈ rest.head?, ¬ isNameChar c := by
  intro c first
  rcases parted c first with rfl | rfl | rfl | rfl | rfl <;> decide

private theorem Parted.not_isDigit {rest : List Char} (parted : Parted rest) :
    ∀ c ∈ rest.head?, ¬ isDigit c := by
  intro c first
  rcases parted c first with rfl | rfl | rfl | rfl | rfl <;> decide

theorem IsGap.parted {gap : List Char} (gapped : IsGap gap) (rest : List Char) : Parted (gap ++ rest) := by
  obtain ⟨given, each⟩ := gapped
  cases gap with
  | nil => exact absurd rfl given
  | cons d gap =>
    intro c first
    obtain rfl : d = c := by simpa using first
    exact (each d List.mem_cons_self).imp_right Or.inl

private theorem IsSign.toList_head? {sign : List Char} (signed : IsSign sign) : sign.head?.toList = sign := by
  rcases signed with rfl | rfl | rfl <;> rfl

private theorem not_isDigit_of_isNameStart {c : Char} (start : isNameStart c) : ¬ isDigit c := by
  have bounds : 0x41 ≤ c.toNat ∧ c.toNat < 0x80 := by
    refine ⟨?_, (isNameChar_bounds (isNameChar_of_start start)).2⟩
    simp only [isNameStart, Char.isAlpha, Char.isUpper, Char.isLower, Bool.or_eq_true,
      Bool.and_eq_true, decide_eq_true_eq, beq_iff_eq, UInt32.le_iff_toNat_le, ge_iff_le] at start
    rcases start with (⟨least, -⟩ | ⟨least, -⟩) | rfl
    · exact least
    · exact Nat.le_trans (by decide) least
    · decide
  have zeros : ∀ start ∈ digitZeros, start = 0x30 ∨ 0x80 ≤ start := by decide
  simp only [isDigit, digitValue?, Option.isSome_map, List.find?_isSome, Bool.and_eq_true,
    decide_eq_true_eq, not_exists, not_and]
  intro code member least
  rcases zeros code member with rfl | far <;> omega

private theorem isDigit_not_sign {c : Char} (digit : isDigit c) : c ≠ '+' ∧ c ≠ '-' := by
  constructor <;> (rintro rfl; revert digit; decide)

theorem IsDigits.head {digits : List Char} (written : IsDigits digits) (rest : List Char) :
    ∀ c ∈ (digits ++ rest).head?, isDigit c := by
  obtain ⟨given, each⟩ := written
  intro c first
  cases digits with
  | nil => exact absurd rfl given
  | cons d digits =>
    obtain rfl : d = c := by simpa using first
    exact each d List.mem_cons_self

private theorem IsMantissa.head {mantissa : List Char} (written : IsMantissa mantissa) (rest : List Char) :
    ∀ c ∈ (mantissa ++ rest).head?, c ≠ '+' ∧ c ≠ '-' := by
  intro c first
  cases written with
  | whole written => exact isDigit_not_sign (written.head rest c first)
  | pointed written =>
    rw [List.append_assoc] at first
    exact isDigit_not_sign (written.head _ c first)
  | fraction =>
    obtain rfl : '.' = c := by simpa using first
    decide

private theorem IsExponent.head {exponent rest : List Char} (written : IsExponent exponent)
    (parted : Parted rest) : ∀ c ∈ (exponent ++ rest).head?, ¬ isDigit c ∧ c ≠ '.' := by
  intro c first
  cases written with
  | none => rcases parted c first with rfl | rfl | rfl | rfl | rfl <;> decide
  | @some mark _ _ marked =>
    obtain rfl : mark = c := by simpa using first
    rcases marked with rfl | rfl <;> decide

namespace Numeral

private theorem takeSign_split (text : List Char) :
    text = (takeSign text).1.toList ++ (takeSign text).2 ∧ IsSign (takeSign text).1.toList := by
  unfold takeSign
  split <;> simp [IsSign]

private theorem takeSign_sign {sign rest : List Char} (signed : IsSign sign)
    (stops : ∀ c ∈ rest.head?, c ≠ '+' ∧ c ≠ '-') : takeSign (sign ++ rest) = (sign.head?, rest) := by
  rcases signed with rfl | rfl | rfl
  · unfold takeSign
    split
    · exact absurd rfl (stops '+' (by simp_all)).1
    · exact absurd rfl (stops '-' (by simp_all)).2
    · simp
  · rfl
  · rfl

private theorem takeFraction_split (text : List Char) :
    text = (takeFraction text).1.elim [] ('.' :: ·) ++ (takeFraction text).2 ∧
      ∀ c ∈ (takeFraction text).1.getD [], isDigit c := by
  unfold takeFraction
  split
  · exact ⟨by simp, fun c => List.mem_takeWhile_imp⟩
  · simp

private theorem takeExponent_split (text : List Char) :
    text = (takeExponent text).1.elim [] Exponent.chars ++ (takeExponent text).2 ∧
      IsExponent ((takeExponent text).1.elim [] Exponent.chars) := by
  cases text with
  | nil => exact ⟨rfl, .none⟩
  | cons mark rest =>
    obtain ⟨split, signed⟩ := takeSign_split rest
    simp only [takeExponent]
    split
    · rename_i marked
      simp only [Bool.and_eq_true, Bool.or_eq_true, decide_eq_true_eq] at marked
      refine ⟨?_, .some marked.1 signed ⟨?_, fun c => List.mem_takeWhile_imp⟩⟩
      · simp only [Option.elim_some, Exponent.chars, List.cons_append, List.append_assoc,
          List.takeWhile_append_dropWhile]
        rw [← split]
      · intro empty
        obtain ⟨c, digits, first⟩ : ∃ c digits, (takeSign rest).2 = c :: digits := by
          apply List.exists_cons_of_ne_nil
          intro none
          simp [none] at marked
        have digit : isDigit c := by simpa [first] using marked.2
        simp [first, digit] at empty
    · exact ⟨rfl, .none⟩

private theorem isMantissa_digits {whole : List Char} {fraction : Option (List Char)}
    (digits : ∀ c ∈ whole, isDigit c) (more : ∀ c ∈ fraction.getD [], isDigit c)
    (some : whole ++ fraction.getD [] ≠ []) : IsMantissa (whole ++ fraction.elim [] ('.' :: ·)) := by
  by_cases empty : whole = []
  · subst whole
    cases fraction with
    | none => simp at some
    | some fraction => exact .fraction ⟨some, more⟩
  · cases fraction with
    | none => simpa using IsMantissa.whole ⟨empty, digits⟩
    | some fraction => exact .pointed ⟨empty, digits⟩ more

theorem read?_split {text rest : List Char} {numeral : Numeral} (read : read? text = some (numeral, rest)) :
    text = numeral.chars ++ rest ∧ IsNumber numeral.chars := by
  obtain ⟨signSplit, signed⟩ := takeSign_split text
  simp only [read?] at read
  generalize takeSign text = signing at *
  obtain ⟨sign, afterSign⟩ := signing
  obtain ⟨fractionSplit, more⟩ := takeFraction_split (afterSign.dropWhile isDigit)
  generalize takeFraction (afterSign.dropWhile isDigit) = fracturing at *
  obtain ⟨fraction, afterFraction⟩ := fracturing
  obtain ⟨exponentSplit, exponential⟩ := takeExponent_split afterFraction
  dsimp only at *
  split at read
  · simp at read
  · rename_i some
    simp only [Option.some.injEq, Prod.mk.injEq] at read
    obtain ⟨rfl, rfl⟩ := read
    have digits : ∀ c ∈ afterSign.takeWhile isDigit, isDigit c := fun c => List.mem_takeWhile_imp
    refine ⟨?_, _, _, _, ?_, signed, isMantissa_digits digits more some, exponential⟩
    · simp only [chars, List.append_assoc]
      rw [← exponentSplit, ← fractionSplit, List.takeWhile_append_dropWhile, ← signSplit]
    · simp only [chars, List.append_assoc]

private theorem takeExponent_exponent {exponent rest : List Char} (written : IsExponent exponent)
    (parted : Parted rest) :
    ∃ found, takeExponent (exponent ++ rest) = (found, rest) ∧ found.elim [] Exponent.chars = exponent := by
  cases written with
  | none =>
    refine ⟨none, ?_, rfl⟩
    cases rest with
    | nil => rfl
    | cons c rest =>
      have unmarked : c ≠ 'e' ∧ c ≠ 'E' := by
        rcases parted c (by simp) with rfl | rfl | rfl | rfl | rfl <;> decide
      simp [takeExponent, unmarked]
  | @some mark sign digits marked signed written =>
    have unsigned : ∀ c ∈ (digits ++ rest).head?, c ≠ '+' ∧ c ≠ '-' :=
      fun c first => isDigit_not_sign (written.head rest c first)
    have begins : (digits ++ rest).head?.any isDigit := by
      obtain ⟨c, first⟩ : ∃ c, (digits ++ rest).head? = some c := by
        cases digits with
        | nil => exact absurd rfl written.1
        | cons c digits => exact ⟨c, rfl⟩
      simp [first, written.head rest c first]
    have marks : (decide (mark = 'e') || decide (mark = 'E')) = true := by simpa using marked
    refine ⟨some ⟨mark, sign.head?, digits⟩, ?_, ?_⟩
    · simp only [List.cons_append, List.append_assoc, takeExponent, takeSign_sign signed unsigned,
        marks, begins, Bool.and_self, if_true, takeWhile_run written.2 parted.not_isDigit,
        dropWhile_run written.2 parted.not_isDigit]
    · simp [Exponent.chars, signed.toList_head?]

private theorem takeFraction_none {rest : List Char} (stops : ∀ c ∈ rest.head?, c ≠ '.') :
    takeFraction rest = (none, rest) := by
  unfold takeFraction
  split
  · exact absurd rfl (stops '.' rfl)
  · rfl

private theorem take_mantissa {mantissa after : List Char} (written : IsMantissa mantissa)
    (stops : ∀ c ∈ after.head?, ¬ isDigit c ∧ c ≠ '.') :
    ∃ fraction, takeFraction ((mantissa ++ after).dropWhile isDigit) = (fraction, after) ∧
      (mantissa ++ after).takeWhile isDigit ++ fraction.elim [] ('.' :: ·) = mantissa ∧
      (mantissa ++ after).takeWhile isDigit ++ fraction.getD [] ≠ [] := by
  have undigit : ∀ c ∈ after.head?, ¬ isDigit c := fun c first => (stops c first).1
  have point : ∀ more, ∀ c ∈ ('.' :: more).head?, ¬ isDigit c := by
    intro more c first
    obtain rfl : '.' = c := by simpa using first
    decide
  cases written with
  | whole written =>
    rw [takeWhile_run written.2 undigit, dropWhile_run written.2 undigit]
    exact ⟨none, takeFraction_none fun c first => (stops c first).2, by simp, by simpa using written.1⟩
  | @pointed digits fraction written more =>
    rw [List.append_assoc, List.cons_append, takeWhile_run written.2 (point _),
      dropWhile_run written.2 (point _)]
    refine ⟨some fraction, ?_, rfl, by simp [written.1]⟩
    simp only [takeFraction, takeWhile_run more undigit, dropWhile_run more undigit]
  | @fraction digits written =>
    rw [List.cons_append, dropWhile_eq_self (point _)]
    refine ⟨some digits, ?_, ?_, by simp [written.1]⟩
    · simp only [takeFraction, takeWhile_run written.2 undigit, dropWhile_run written.2 undigit]
    · rw [List.takeWhile_cons_of_neg (point digits '.' rfl)]
      rfl

theorem read?_number {token rest : List Char} (number : IsNumber token) (parted : Parted rest) :
    ∃ numeral, read? (token ++ rest) = some (numeral, rest) ∧ numeral.chars = token := by
  obtain ⟨sign, mantissa, exponent, rfl, signed, digits, exponential⟩ := number
  obtain ⟨fraction, fractionRead, mantissaEq, some⟩ := take_mantissa digits (exponential.head parted)
  obtain ⟨found, exponentRead, exponentEq⟩ := takeExponent_exponent exponential parted
  refine ⟨⟨sign.head?, (mantissa ++ (exponent ++ rest)).takeWhile isDigit, fraction, found⟩, ?_, ?_⟩
  · simp only [List.append_assoc, read?, takeSign_sign signed (digits.head _), fractionRead,
      if_neg some, exponentRead]
  · simp only [chars, exponentEq, signed.toList_head?, List.append_assoc]
    rw [← List.append_assoc _ _ exponent, mantissaEq]

theorem read?_nameStart {c : Char} {rest : List Char} (start : isNameStart c) :
    read? (c :: rest) = none := by
  have undigit := not_isDigit_of_isNameStart start
  have unsigned : takeSign (c :: rest) = (none, c :: rest) := by
    refine takeSign_sign (.inl rfl) ?_
    intro d first
    obtain rfl : c = d := by simpa using first
    constructor <;> (rintro rfl; revert start; decide)
  have pointless : takeFraction (c :: rest) = (none, c :: rest) := by
    apply takeFraction_none
    intro d first
    obtain rfl : c = d := by simpa using first
    rintro rfl
    revert start
    decide
  simp [read?, unsigned, undigit, pointless]

end Numeral

theorem scanOperand_split {text token rest : List Char} (scanned : scanOperand text = some (token, rest)) :
    text = token ++ rest ∧ IsOperand token := by
  cases read : Numeral.read? text with
  | none =>
    have named : scanName text = some (token, rest) := by
      simpa [scanOperand, scanNumeral, read] using scanned
    obtain ⟨split, name, -⟩ := scanName_eq_some.mp named
    exact ⟨split, .inr name⟩
  | some found =>
    obtain ⟨numeral, after⟩ := found
    obtain ⟨rfl, rfl⟩ : numeral.chars = token ∧ after = rest := by
      simpa [scanOperand, scanNumeral, read] using scanned
    exact (Numeral.read?_split read).imp_right Or.inl

theorem scanOperand_operand {token rest : List Char} (operand : IsOperand token) (parted : Parted rest) :
    scanOperand (token ++ rest) = some (token, rest) := by
  rcases operand with number | name
  · obtain ⟨numeral, read, rfl⟩ := Numeral.read?_number number parted
    simp [scanOperand, scanNumeral, read]
  · have scanned := scanName_eq_some.mpr ⟨rfl, name, parted.not_isNameChar⟩
    obtain ⟨first, later, rfl, start, -⟩ := name
    rw [List.cons_append] at scanned ⊢
    simp [scanOperand, scanNumeral, Numeral.read?_nameStart start, scanned]

def IsSwitch (text : List Char) : Prop :=
  text.map Char.toLower = ['o', 'n'] ∨ text.map Char.toLower = ['o', 'f', 'f']

theorem scanSwitch_split {text token rest : List Char} (scanned : scanSwitch text = some (token, rest)) :
    text = token ++ rest ∧ IsSwitch token := by
  unfold scanSwitch at scanned
  split at scanned
  · rename_i on
    simp only [Option.some.injEq, Prod.mk.injEq] at scanned
    obtain ⟨rfl, rfl⟩ := scanned
    exact ⟨(List.take_append_drop 2 text).symm, .inl on⟩
  · split at scanned
    · rename_i off
      simp only [Option.some.injEq, Prod.mk.injEq] at scanned
      obtain ⟨rfl, rfl⟩ := scanned
      exact ⟨(List.take_append_drop 3 text).symm, .inr off⟩
    · simp at scanned

theorem scanSwitch_switch {token : List Char} (switch : IsSwitch token) (rest : List Char) :
    scanSwitch (token ++ rest) = some (token, rest) := by
  rcases switch with on | off
  · have size : token.length = 2 := by simpa using congrArg List.length on
    simp [scanSwitch, List.take_left' size, List.drop_left' size, on]
  · have size : token.length = 3 := by simpa using congrArg List.length off
    have other : ((token ++ rest).take 2).map Char.toLower ≠ ['o', 'n'] := by
      rw [List.take_append_of_le_length (by omega), List.map_take, off]
      decide
    simp only [scanSwitch, if_neg other, List.take_left' size, List.drop_left' size, off, if_true]

theorem IsSwitch.all {text : List Char} (switch : IsSwitch text) : ∀ c ∈ text, isNameChar c := by
  intro c inside
  have small : c.toLower.isLower := by
    have image := List.mem_map_of_mem (f := Char.toLower) inside
    rcases switch with on | off
    · rw [on] at image
      revert image
      generalize c.toLower = d
      simp only [List.mem_cons, List.not_mem_nil, or_false]
      rintro (rfl | rfl) <;> decide
    · rw [off] at image
      revert image
      generalize c.toLower = d
      simp only [List.mem_cons, List.not_mem_nil, or_false]
      rintro (rfl | rfl | rfl) <;> decide
  simp [isNameChar, Char.isAlphanum, isAlpha_of_toLower small]

/-! No token has a blank in it. -/

private theorem not_isBlank_of_isDigit {c : Char} (digit : isDigit c) : ¬ isBlank c := by
  have apart : ∀ start ∈ digitZeros, ∀ range ∈ blankRanges, start + 10 ≤ range.1 ∨ range.2 < start := by decide
  intro blank
  simp only [isDigit, digitValue?, Option.isSome_map, List.find?_isSome, Bool.and_eq_true, decide_eq_true_eq] at digit
  obtain ⟨start, known, least, most⟩ := digit
  simp only [isBlank, inRanges, List.any_eq_true, Bool.and_eq_true, decide_eq_true_eq] at blank
  obtain ⟨range, listed, above, below⟩ := blank
  rcases apart start known range listed with before | behind <;> omega

private theorem IsSign.solid {text : List Char} (signed : IsSign text) : ∀ c ∈ text, ¬ isBlank c := by
  rcases signed with rfl | rfl | rfl
  · simp
  · exact List.forall_mem_singleton.mpr (by decide)
  · exact List.forall_mem_singleton.mpr (by decide)

private theorem IsMantissa.solid {text : List Char} (written : IsMantissa text) : ∀ c ∈ text, ¬ isBlank c := by
  have point : ¬ isBlank '.' := by decide
  intro c inside
  cases written with
  | whole written => exact not_isBlank_of_isDigit (written.2 c inside)
  | pointed written more =>
    rcases List.mem_append.mp inside with before | after
    · exact not_isBlank_of_isDigit (written.2 c before)
    · rcases List.mem_cons.mp after with rfl | behind
      · exact point
      · exact not_isBlank_of_isDigit (more c behind)
  | fraction written =>
    rcases List.mem_cons.mp inside with rfl | behind
    · exact point
    · exact not_isBlank_of_isDigit (written.2 c behind)

private theorem IsExponent.solid {text : List Char} (written : IsExponent text) : ∀ c ∈ text, ¬ isBlank c := by
  intro c inside
  cases written with
  | none => cases inside
  | some marked signed digits =>
    rcases List.mem_cons.mp inside with rfl | later
    · rcases marked with rfl | rfl <;> decide
    · rcases List.mem_append.mp later with sign | digit
      · exact signed.solid c sign
      · exact not_isBlank_of_isDigit (digits.2 c digit)

theorem IsOperand.solid {text : List Char} (operand : IsOperand text) : ∀ c ∈ text, ¬ isBlank c := by
  rcases operand with ⟨sign, mantissa, exponent, rfl, signed, digits, raised⟩ | named
  · intro c inside
    rcases List.mem_append.mp inside with first | later
    · exact signed.solid c first
    · rcases List.mem_append.mp later with second | third
      · exact digits.solid c second
      · exact raised.solid c third
  · exact fun c inside => not_isBlank_of_isNameChar (named.all c inside)

end Sketch
