import Mathlib.Data.List.Infix
import SchemaCompiler.Toml.Scalar

/-!
# Reading within a TOML text

Reading takes characters off the front of a text, so that what is left is always an end of it, and a
failure over the digits of a number has these digits in the text (`Within`). Both go from reader to
reader by `Within.bind`. Here they are shown for the readers of strings, keys, numbers and dates.
-/

set_option autoImplicit false

namespace SchemaCompiler.Toml

variable {α β : Type} {cs cs' rest : List Char} {cause : Cause}

/-- Somewhere in a text stands a run of more digits than are read as one number. -/
def HasLongRun (cs : List Char) : Prop :=
  ∃ here digits rest, here <:+ cs ∧ digitRun? Text.isDigit here = some (digits, rest) ∧
    digitLimit < digits.length

theorem HasLongRun.mono (long : HasLongRun cs) (suffix : cs <:+ cs') : HasLongRun cs' := by
  obtain ⟨here, digits, rest, within, run, many⟩ := long
  exact ⟨here, digits, rest, within.trans suffix, run, many⟩

/-- A cause that is not about the number of digits. -/
def Cause.isPlain : Cause → Bool
  | tooManyDigits _ => false
  | _ => true

/-- What reading leaves is an end of the text, and if it fails over too many digits, they are in
the text. -/
structure Within (left : α → List Char) (cs : List Char) (outcome : Except Failure α) : Prop where
  suffix : ∀ a, outcome = .ok a → left a <:+ cs
  digits : ∀ failure count, outcome = .error failure → failure.cause = .tooManyDigits count →
    HasLongRun cs

namespace Within

variable {left : α → List Char} {left' : β → List Char} {outcome : Except Failure α}

theorem ok {a : α} (suffix : left a <:+ cs) : Within left cs (.ok a) :=
  ⟨fun _ same => Except.ok.inj same ▸ suffix, nofun⟩

theorem failAt (plain : cause.isPlain = true) : Within left cs (Toml.failAt cause rest) := by
  refine ⟨nofun, fun failure count same digits => ?_⟩
  cases same
  cases digits
  cases plain

theorem error {failure : Failure} (within : Within left cs outcome)
    (failed : outcome = .error failure) : Within left' cs (.error failure) := by
  refine ⟨nofun, fun failure' count same digits => ?_⟩
  cases same
  exact within.digits failure count failed digits

theorem mono (within : Within left cs outcome) (suffix : cs <:+ cs') : Within left cs' outcome :=
  ⟨fun a same => (within.suffix a same).trans suffix,
    fun failure count same digits => (within.digits failure count same digits).mono suffix⟩

theorem bind {next : α → Except Failure β} (within : Within left cs outcome)
    (after : ∀ a, left a <:+ cs → Within left' cs (next a)) :
    Within left' cs (outcome >>= next) := by
  cases outcome with
  | ok a => exact after a (within.suffix a rfl)
  | error failure =>
    refine ⟨nofun, fun failure' count same digits => ?_⟩
    exact within.digits failure' count (congrArg _ (Except.error.inj same)) digits

end Within

/-! ## Tokens -/

/-- An end of a text is one of the text with a character in front. -/
theorem suffix_cons {c : Char} (suffix : rest <:+ cs) : rest <:+ c :: cs :=
  suffix.trans (List.suffix_cons c cs)

theorem skipSpaces_suffix (cs : List Char) : skipSpaces cs <:+ cs := List.dropWhile_suffix _

theorem splitBefore?_suffix {delimiter before : List Char}
    (found : splitBefore? delimiter cs = some (before, rest)) : rest <:+ cs := by
  induction cs generalizing before with
  | nil => cases found
  | cons c cs ih =>
    unfold splitBefore? at found
    split at found
    · cases found
      exact List.suffix_rfl
    · obtain ⟨⟨earlier, later⟩, there, same⟩ := Option.map_eq_some_iff.mp found
      cases same
      exact suffix_cons (ih there)

theorem refuse_within (refused : Char → Bool) (rest part cs : List Char) :
    Within (fun _ => []) cs (refuse refused rest part) := by
  induction part with
  | nil => exact .ok List.nil_suffix
  | cons c part ih =>
    unfold refuse
    split
    · exact .failAt rfl
    · exact ih

theorem upTo_within (delimiter : String) (refused : Char → Bool) (cs : List Char) :
    Within Prod.snd cs (upTo delimiter refused cs) := by
  unfold upTo
  split
  · exact .failAt rfl
  · next before rest found =>
    refine (refuse_within refused rest before cs).bind fun _ _ => ?_
    exact .ok ((List.drop_suffix _ _).trans (splitBefore?_suffix found))

theorem skipComment_within (cs : List Char) : Within id cs (skipComment cs) := by
  unfold skipComment
  split
  · next cs =>
    refine (refuse_within isControl _ _ _).bind fun _ _ => ?_
    exact .ok (suffix_cons (List.dropWhile_suffix _))
  · exact .ok List.suffix_rfl

theorem hexEscape_within (width : Nat) (cs : List Char) :
    Within Prod.snd cs (hexEscape width cs) := by
  unfold hexEscape
  simp only
  split
  · exact .failAt rfl
  · split
    · exact .ok (List.drop_suffix _ _)
    · exact .failAt rfl

theorem lineEscape_within (cs : List Char) : Within Prod.snd cs (lineEscape cs) := by
  have behind := skipSpaces_suffix cs
  unfold lineEscape
  split
  · exact .ok List.nil_suffix
  · next rest found =>
    rw [found] at behind
    exact .ok ((List.dropWhile_suffix _).trans ((List.suffix_cons _ _).trans behind))
  · exact .failAt rfl

theorem escape_within (inLines : Bool) (cs : List Char) :
    Within Prod.snd cs (escape inLines cs) := by
  unfold escape
  split
  · exact .failAt rfl
  · next c rest =>
    have behind : rest <:+ c :: rest := List.suffix_cons c rest
    split
    · exact lineEscape_within _
    · split
      · exact (hexEscape_within 4 rest).mono behind
      · split
        · exact (hexEscape_within 8 rest).mono behind
        · split
          · exact .ok behind
          · exact .failAt rfl

theorem basicFrom_within (inLines : Bool) (done cs : List Char) :
    Within Prod.snd cs (basicFrom inLines done cs) := by
  fun_induction basicFrom inLines done cs with
  | case1 => exact .failAt rfl
  | case2 => exact .ok (List.suffix_cons _ _)
  | case3 => exact .ok (suffix_cons (List.drop_suffix _ _))
  | case4 done rest _ _ ih => exact ih.mono (List.suffix_cons _ _)
  | case5 done rest failure failed =>
    exact ((escape_within inLines rest).error failed).mono (List.suffix_cons _ _)
  | case6 done rest chars after escaped _ ih =>
    have behind : after <:+ rest := (escape_within inLines rest).suffix _ escaped
    exact ih.mono (suffix_cons behind)
  | case7 => exact .failAt rfl
  | case8 done c rest _ _ _ ih => exact ih.mono (List.suffix_cons _ _)

theorem literalString_within (cs : List Char) : Within Prod.snd cs (literalString cs) :=
  (upTo_within "'" isControl cs).bind fun _ behind => .ok behind

theorem moreQuotes_suffix (quote : Char) (text : String) (cs : List Char) :
    (moreQuotes quote text cs).2 <:+ cs := by
  unfold moreQuotes
  split
  · split
    · split
      · split
        · exact suffix_cons (List.suffix_cons _ _)
        · exact List.suffix_cons _ _
      · exact List.nil_suffix
    · exact List.suffix_rfl
  · exact List.suffix_rfl

theorem skipFirstBreak_suffix (cs : List Char) : skipFirstBreak cs <:+ cs := by
  unfold skipFirstBreak
  split
  · exact List.suffix_cons _ _
  · exact List.suffix_rfl

theorem longString_within (quote : Char) (cs : List Char) :
    Within Prod.snd cs (longString quote cs) := by
  have body := skipFirstBreak_suffix cs
  unfold longString
  simp only
  split
  · refine ((upTo_within "'''" isControlInLines _).mono body).bind fun ⟨text, rest⟩ behind => ?_
    exact .ok ((moreQuotes_suffix _ _ _).trans behind)
  · refine ((basicFrom_within true [] _).mono body).bind fun ⟨text, rest⟩ behind => ?_
    exact .ok ((moreQuotes_suffix _ _ _).trans behind)

theorem string?_within {outcome : Except Failure (Taken String)}
    (found : string? cs = some outcome) : Within Prod.snd cs outcome := by
  unfold string? at found
  split at found <;> cases found
  · exact (longString_within _ _).mono (suffix_cons (suffix_cons (List.suffix_cons _ _)))
  · exact (basicFrom_within false [] _).mono (List.suffix_cons _ _)
  · exact (longString_within _ _).mono (suffix_cons (suffix_cons (List.suffix_cons _ _)))
  · exact (literalString_within _).mono (List.suffix_cons _ _)

theorem keyPart_within (cs : List Char) : Within Prod.snd cs (keyPart cs) := by
  unfold keyPart
  split
  · exact (basicFrom_within false [] _).mono (List.suffix_cons _ _)
  · exact (literalString_within _).mono (List.suffix_cons _ _)
  · split
    · exact .ok (List.dropWhile_suffix _)
    · exact .failAt rfl
  · exact .failAt rfl

theorem keyTail_within (fuel : Nat) (cs : List Char) :
    Within Prod.snd cs (keyTail fuel cs) := by
  induction fuel generalizing cs with
  | zero => exact .ok List.suffix_rfl
  | succ fuel ih =>
    unfold keyTail
    split
    · next rest =>
      have spaces := suffix_cons (c := '.') (skipSpaces_suffix rest)
      refine ((keyPart_within _).mono spaces).bind fun ⟨part, rest⟩ behind => ?_
      refine ((ih _).mono ((skipSpaces_suffix rest).trans behind)).bind fun _ behind => ?_
      exact .ok behind
    · exact .ok List.suffix_rfl

theorem key_within (cs : List Char) : Within Prod.snd cs (key cs) := by
  refine (keyPart_within cs).bind fun ⟨part, rest⟩ behind => ?_
  refine ((keyTail_within _ _).mono ((skipSpaces_suffix rest).trans behind)).bind fun _ behind => ?_
  exact .ok behind

/-! ## Scalars -/

theorem digitRunFrom_suffix (isDigit : Char → Bool) (cs : List Char) :
    (digitRunFrom isDigit cs).2 <:+ cs := by
  fun_induction digitRunFrom isDigit cs with
  | case1 c rest _ digits after run ih =>
    rw [run] at ih
    exact suffix_cons (suffix_cons ih)
  | case2 => exact List.suffix_rfl
  | case3 c rest _ _ digits after run ih =>
    rw [run] at ih
    exact suffix_cons ih
  | case4 => exact List.suffix_rfl
  | case5 => exact List.suffix_rfl

theorem digitRun?_suffix {isDigit : Char → Bool} {digits : List Char}
    (run : digitRun? isDigit cs = some (digits, rest)) : rest <:+ cs := by
  unfold digitRun? at run
  split at run
  · next c cs =>
    have behind := digitRunFrom_suffix isDigit (c :: cs)
    split at run
    · rwa [Option.some.inj run] at behind
    · cases run
  · cases run

/-- The digits before the point are a run, or a lone zero. -/
theorem wholePart?_suffix {whole : List Char} (found : wholePart? cs = some (whole, rest)) :
    rest <:+ cs ∧ (digitLimit < whole.length → HasLongRun cs) := by
  unfold wholePart? at found
  split at found
  · cases found
    exact ⟨List.suffix_cons _ _, fun many => absurd many (by decide)⟩
  · exact ⟨digitRun?_suffix found, fun many => ⟨cs, whole, rest, List.suffix_rfl, found, many⟩⟩

theorem fractionPart_suffix (cs : List Char) : (fractionPart cs).2 <:+ cs := by
  unfold fractionPart
  split
  · split
    · next run => exact suffix_cons (digitRun?_suffix run)
    · exact List.suffix_rfl
  · exact List.suffix_rfl

theorem signPart_suffix (cs : List Char) : (signPart cs).2 <:+ cs := by
  unfold signPart
  split
  · exact List.suffix_cons _ _
  · exact List.suffix_cons _ _
  · exact List.suffix_rfl

theorem exponentPart_suffix (cs : List Char) : (exponentPart cs).2 <:+ cs := by
  unfold exponentPart
  split
  · next c rest =>
    split
    · simp only
      split
      · next run => exact suffix_cons ((digitRun?_suffix run).trans (signPart_suffix rest))
      · exact List.suffix_rfl
    · exact List.suffix_rfl
  · exact List.suffix_rfl

/-- A number fails only over its digits. -/
theorem decimal?_within {outcome : Except Failure (Taken Value)}
    (found : decimal? cs = some outcome) : Within Prod.snd cs outcome := by
  unfold decimal? at found
  obtain ⟨⟨whole, rest⟩, run, found⟩ := Option.bind_eq_some_iff.mp found
  obtain ⟨behind, many⟩ := wholePart?_suffix run
  have signed := signPart_suffix cs
  have after : (exponentPart (fractionPart rest).2).2 <:+ cs :=
    (exponentPart_suffix _).trans ((fractionPart_suffix rest).trans (behind.trans signed))
  simp only at found
  split at found
  · split at found
    · next long =>
      cases found
      exact ⟨nofun, fun _ _ _ _ => (many long).mono signed⟩
    · cases found
      exact .ok after
  · obtain ⟨x, _, found⟩ := Option.bind_eq_some_iff.mp found
    cases found
    exact .ok after

theorem basedInteger?_suffix {v : Value} (found : basedInteger? cs = some (v, rest)) :
    rest <:+ cs := by
  unfold basedInteger? at found
  simp only at found
  split at found
  case h_4 => cases found
  all_goals
    obtain ⟨⟨digits, left⟩, run, same⟩ := Option.map_eq_some_iff.mp found
    cases same
    exact suffix_cons (suffix_cons (digitRun?_suffix run))

theorem number?_within {outcome : Except Failure (Taken Value)}
    (found : number? cs = some outcome) : Within Prod.snd cs outcome := by
  unfold number? at found
  rcases Option.or_eq_some_iff.mp found with first | ⟨_, decimal⟩
  · obtain ⟨⟨v, rest⟩, based, rfl⟩ := Option.map_eq_some_iff.mp first
    exact .ok (basedInteger?_suffix based)
  · exact decimal?_within decimal

theorem specialFloat?_suffix {v : Value} (found : specialFloat? cs = some (v, rest)) :
    rest <:+ cs := by
  unfold specialFloat? at found
  simp only at found
  have signed := (List.drop_suffix 3 _).trans (signPart_suffix cs)
  split at found
  · cases found
    exact signed
  · split at found <;> cases found
    exact signed

theorem twoDigits?_suffix {least greatest n : Nat}
    (found : twoDigits? least greatest cs = some (n, rest)) : rest <:+ cs := by
  unfold twoDigits? at found
  split at found
  · split at found
    · simp only at found
      split at found <;> cases found
      exact suffix_cons (List.suffix_cons _ _)
    · cases found
  · cases found

theorem after?_suffix {c : Char} (found : after? c cs = some rest) : rest <:+ cs := by
  unfold after? at found
  split at found
  · split at found <;> cases found
    exact List.suffix_cons _ _
  · cases found

theorem skipFraction_suffix (cs : List Char) : skipFraction cs <:+ cs := by
  unfold skipFraction
  split
  · split
    · exact (List.dropWhile_suffix _).trans (suffix_cons (List.suffix_cons _ _))
    · exact List.suffix_rfl
  · exact List.suffix_rfl

theorem clock?_suffix (found : clock? cs = some rest) : rest <:+ cs := by
  obtain ⟨⟨_, _⟩, hour, found⟩ := Option.bind_eq_some_iff.mp found
  obtain ⟨_, colon, found⟩ := Option.bind_eq_some_iff.mp found
  obtain ⟨⟨_, _⟩, minute, found⟩ := Option.bind_eq_some_iff.mp found
  obtain ⟨_, colon', found⟩ := Option.bind_eq_some_iff.mp found
  obtain ⟨⟨_, _⟩, second, found⟩ := Option.bind_eq_some_iff.mp found
  cases found
  have hours := (after?_suffix colon).trans (twoDigits?_suffix hour)
  have minutes := (twoDigits?_suffix minute).trans hours
  have seconds := (twoDigits?_suffix second).trans ((after?_suffix colon').trans minutes)
  exact (skipFraction_suffix _).trans seconds

theorem getD_suffix {found : Option (List Char)}
    (each : ∀ left, found = some left → left <:+ cs) : found.getD cs <:+ cs := by
  cases found with
  | none => exact List.suffix_rfl
  | some left => exact each left rfl

theorem skipOffset_suffix (cs : List Char) : skipOffset cs <:+ cs := by
  unfold skipOffset
  split
  · exact List.suffix_cons _ _
  · exact List.suffix_cons _ _
  · split
    · refine getD_suffix fun left found => ?_
      obtain ⟨⟨_, _⟩, hour, found⟩ := Option.bind_eq_some_iff.mp found
      obtain ⟨_, colon, found⟩ := Option.bind_eq_some_iff.mp found
      obtain ⟨⟨_, _⟩, minute, found⟩ := Option.bind_eq_some_iff.mp found
      cases found
      have minutes := (after?_suffix colon).trans (twoDigits?_suffix hour)
      exact suffix_cons ((twoDigits?_suffix minute).trans minutes)
    · exact List.suffix_rfl
  · exact List.suffix_rfl

theorem skipClock_suffix (cs : List Char) : skipClock cs <:+ cs := by
  unfold skipClock
  split
  · split
    · split
      · next found =>
        exact suffix_cons ((skipOffset_suffix _).trans (clock?_suffix found))
      · exact List.suffix_rfl
    · exact List.suffix_rfl
  · exact List.suffix_rfl

theorem date?_suffix {year month day : Nat}
    (found : date? cs = some (year, month, day, rest)) : rest <:+ cs := by
  unfold date? at found
  simp only at found
  split at found
  · obtain ⟨_, dash, found⟩ := Option.bind_eq_some_iff.mp found
    obtain ⟨⟨_, _⟩, months, found⟩ := Option.bind_eq_some_iff.mp found
    obtain ⟨_, dash', found⟩ := Option.bind_eq_some_iff.mp found
    obtain ⟨⟨_, _⟩, days, found⟩ := Option.bind_eq_some_iff.mp found
    cases found
    have front := (after?_suffix dash).trans (List.drop_suffix 4 cs)
    have middle := (after?_suffix dash').trans ((twoDigits?_suffix months).trans front)
    exact (twoDigits?_suffix days).trans middle
  · cases found

theorem moment?_within {outcome : Except Failure (Taken Value)}
    (found : moment? cs = some outcome) : Within Prod.snd cs outcome := by
  unfold moment? at found
  split at found
  · next date =>
    split at found <;> cases found
    · exact .failAt rfl
    · exact .ok ((skipClock_suffix _).trans (date?_suffix date))
  · obtain ⟨rest, clock, rfl⟩ := Option.map_eq_some_iff.mp found
    exact .ok (clock?_suffix clock)

theorem truth?_suffix {v : Value} (found : truth? cs = some (v, rest)) : rest <:+ cs := by
  unfold truth? at found
  split at found
  · cases found
    exact List.drop_suffix _ _
  · split at found <;> cases found
    exact List.drop_suffix _ _

end SchemaCompiler.Toml
