import Mathlib.Data.List.Basic
import ShellSurvey.Script.LineEnding
import ShellSurvey.Text.Lines

namespace ShellSurvey

section

variable {α : Type} [DecidableEq α] {mark stop x : α} {xs : List α}

/-- A list with a mark in front of everything that is a stop. -/
def precede (mark stop : α) (xs : List α) : List α :=
  xs.flatMap fun x => if x = stop then [mark, x] else [x]

@[simp] theorem precede_nil : precede mark stop [] = [] := rfl

theorem precede_cons_stop : precede mark stop (stop :: xs) = mark :: stop :: precede mark stop xs := by
  simp [precede]

theorem precede_cons_other (other : x ≠ stop) :
    precede mark stop (x :: xs) = x :: precede mark stop xs := by
  simp [precede, other]

theorem precede_append (ys : List α) :
    precede mark stop (xs ++ ys) = precede mark stop xs ++ precede mark stop ys := List.flatMap_append

theorem precede_of_not_mem (unbroken : stop ∉ xs) : precede mark stop xs = xs := by
  induction xs with
  | nil => rfl
  | cons x xs ih =>
    obtain ⟨here, later⟩ := List.ne_and_not_mem_of_not_mem_cons unbroken
    rw [precede_cons_other (Ne.symm here), ih later]

/-- What the list starts with stays, up to the first stop or mark. -/
theorem prefix_precede_iff {front : List α} (noStop : stop ∉ front) (noMark : mark ∉ front) :
    front <+: precede mark stop xs ↔ front <+: xs := by
  induction front generalizing xs with
  | nil => simp
  | cons y ys ih =>
    obtain ⟨notStop, noStopLater⟩ := List.ne_and_not_mem_of_not_mem_cons noStop
    obtain ⟨notMark, noMarkLater⟩ := List.ne_and_not_mem_of_not_mem_cons noMark
    cases xs with
    | nil => exact Iff.rfl
    | cons x xs =>
      by_cases broken : x = stop
      · subst broken
        simp [precede_cons_stop, List.cons_prefix_cons, Ne.symm notStop, Ne.symm notMark]
      · rw [precede_cons_other broken, List.cons_prefix_cons, List.cons_prefix_cons,
          ih noStopLater noMarkLater]

theorem precede_eq_nil_iff : precede mark stop xs = [] ↔ xs = [] := by
  cases xs with
  | nil => exact Iff.rfl
  | cons x xs =>
    by_cases broken : x = stop
    · simp [broken, precede_cons_stop]
    · simp [precede_cons_other broken]

end

section

variable {breaks : Char → Bool} {cs : List Char}

/-- A scan goes by what is next only at a carriage return. -/
theorem LineScan.lines_step {c : Char} (noReturn : c ≠ '\r') {scan other : LineScan}
    (same : scan.lines = other.lines) :
    (LineScan.step breaks c scan).lines = (LineScan.step breaks c other).lines := by
  have alone (scan : LineScan) : ¬ (c = '\r' ∧ scan.next = some '\n') := fun both => noReturn both.1
  simp only [LineScan.step, if_neg (alone _), same]

/-- A carriage return before a line feed ends the same line. -/
theorem LineScan.lines_step_return {scan : LineScan} (before : scan.next = some '\n') :
    (LineScan.step breaks '\r' scan).lines = scan.lines := if_pos ⟨rfl, before⟩

theorem linesBy_precede (noReturn : '\r' ∉ cs) :
    linesBy breaks (precede '\r' '\n' cs) = linesBy breaks cs := by
  unfold linesBy
  induction cs with
  | nil => rfl
  | cons c cs ih =>
    obtain ⟨here, later⟩ := List.ne_and_not_mem_of_not_mem_cons noReturn
    by_cases broken : c = '\n'
    · subst broken
      rw [precede_cons_stop, List.foldr_cons, List.foldr_cons, List.foldr_cons,
        LineScan.lines_step_return rfl]
      exact LineScan.lines_step (Ne.symm here) (ih later)
    · rw [precede_cons_other broken, List.foldr_cons, List.foldr_cons]
      exact LineScan.lines_step (Ne.symm here) (ih later)

theorem splitLines_precede (noReturn : '\r' ∉ cs) :
    splitLines (precede '\r' '\n' cs) = splitLines cs := linesBy_precede noReturn

end

theorem toNat_ofNat_of_valid {code : Nat} (valid : code.isValidChar) :
    (Char.ofNat code).toNat = code := by
  have known : Char.ofNat code = Char.ofNatAux code valid := dif_pos valid
  rw [known]
  rfl

theorem ofNat_ne_of_lt {code : Nat} {c : Char} (positive : 0 < c.toNat) (less : c.toNat < code) :
    Char.ofNat code ≠ c := by
  rintro rfl
  by_cases valid : code.isValidChar
  · rw [toNat_ofNat_of_valid valid] at less
    exact Nat.lt_irrefl code less
  · have unknown : Char.ofNat code = '\x00' := dif_neg valid
    rw [unknown] at positive
    exact absurd positive (by decide)

/-- A byte of ASCII is read as the character of its own code only. -/
theorem ofNat_toNat_eq_iff {byte : UInt8} (ascii : byte < 0x80) {c : Char} :
    Char.ofNat byte.toNat = c ↔ byte.toNat = c.toNat := by
  have bound : byte.toNat < 0x80 := ascii
  have valid : byte.toNat.isValidChar := Or.inl (by omega)
  constructor
  · rintro rfl
    exact (toNat_ofNat_of_valid valid).symm
  · intro same
    rw [same, Char.ofNat_toNat]

/-- What stands at the front of the bytes after some lead byte. Beyond ASCII, a few bounds settle it, or
the byte leads nothing. -/
theorem pieceAt_cases {lead : UInt8} (wide : ¬ lead < 0x80) :
    (∀ rest, pieceAt lead rest = .flawed .badLead 0) ∨
    ∃ high low top more, ¬ low < 0x80 ∧ 0x0D < high * 64 + (low.toNat - 0x80) ∧
      ∀ rest, pieceAt lead rest = pieceAfter high low top more rest := by
  by_cases early : lead < 0xC2
  · exact Or.inl fun rest => by rw [pieceAt, if_neg wide, if_pos early]
  have from2 : 0xC2 ≤ lead.toNat := Nat.not_lt.mp early
  by_cases two : lead < 0xE0
  · refine Or.inr ⟨lead.toNat - 0xC0, 0x80, 0xBF, 0, by decide, by omega, fun rest => ?_⟩
    rw [pieceAt, if_neg wide, if_neg early, if_pos two]
  have from3 : 0xE0 ≤ lead.toNat := Nat.not_lt.mp two
  by_cases e0 : lead == 0xE0
  · refine Or.inr ⟨0, 0xA0, 0xBF, 1, by decide, by decide, fun rest => ?_⟩
    rw [pieceAt, if_neg wide, if_neg early, if_neg two, if_pos e0]
  by_cases ed : lead == 0xED
  · refine Or.inr ⟨0x0D, 0x80, 0x9F, 1, by decide, by decide, fun rest => ?_⟩
    rw [pieceAt, if_neg wide, if_neg early, if_neg two, if_neg e0, if_pos ed]
  by_cases three : lead < 0xF0
  · refine Or.inr ⟨lead.toNat - 0xE0, 0x80, 0xBF, 1, by decide, ?_, fun rest => ?_⟩
    · have later : lead.toNat ≠ 0xE0 := fun same => e0 (beq_iff_eq.mpr (UInt8.toNat_inj.mp same))
      omega
    · rw [pieceAt, if_neg wide, if_neg early, if_neg two, if_neg e0, if_neg ed, if_pos three]
  have from4 : 0xF0 ≤ lead.toNat := Nat.not_lt.mp three
  by_cases f0 : lead == 0xF0
  · refine Or.inr ⟨0, 0x90, 0xBF, 2, by decide, by decide, fun rest => ?_⟩
    rw [pieceAt, if_neg wide, if_neg early, if_neg two, if_neg e0, if_neg ed, if_neg three, if_pos f0]
  by_cases four : lead < 0xF4
  · refine Or.inr ⟨lead.toNat - 0xF0, 0x80, 0xBF, 2, by decide, ?_, fun rest => ?_⟩
    · have later : lead.toNat ≠ 0xF0 := fun same => f0 (beq_iff_eq.mpr (UInt8.toNat_inj.mp same))
      omega
    · rw [pieceAt, if_neg wide, if_neg early, if_neg two, if_neg e0, if_neg ed, if_neg three,
        if_neg f0, if_pos four]
  by_cases f4 : lead == 0xF4
  · refine Or.inr ⟨4, 0x80, 0x8F, 2, by decide, by decide, fun rest => ?_⟩
    rw [pieceAt, if_neg wide, if_neg early, if_neg two, if_neg e0, if_neg ed, if_neg three,
      if_neg f0, if_neg four, if_pos f4]
  · refine Or.inl fun rest => ?_
    rw [pieceAt, if_neg wide, if_neg early, if_neg two, if_neg e0, if_neg ed, if_neg three,
      if_neg f0, if_neg four, if_neg f4]

/-- Neither a line feed nor a carriage return goes on with a character. -/
theorem pieceAfter_precede {low : UInt8} (wide : ¬ low < 0x80) (high : Nat) (top : UInt8) (more : Nat)
    (rest : Bytes) :
    pieceAfter high low top more (precede carriageReturn lineFeed rest) =
        pieceAfter high low top more rest ∧
      (precede carriageReturn lineFeed rest).drop (pieceAfter high low top more rest).further =
        precede carriageReturn lineFeed (rest.drop (pieceAfter high low top more rest).further) := by
  have outside {byte : UInt8} (ascii : byte < 0x80) : (byte < low || top < byte) = true := by
    have below : byte < low := by
      have bound : byte.toNat < 0x80 := ascii
      have above : ¬ low.toNat < 0x80 := wide
      exact show byte.toNat < low.toNat by omega
    rw [decide_eq_true below, Bool.true_or]
  have feedOutside : (lineFeed < low || top < lineFeed) = true := outside (by decide)
  have returnOutside : (carriageReturn < low || top < carriageReturn) = true := outside (by decide)
  have feedEnds : isContinuation lineFeed = false := by decide
  have returnEnds : isContinuation carriageReturn = false := by decide
  cases rest with
  | nil => exact ⟨rfl, rfl⟩
  | cons second rest =>
    by_cases broken : second = lineFeed
    · subst broken
      simp [pieceAfter, precede_cons_stop, feedOutside, returnOutside, Piece.further]
    rw [precede_cons_other broken]
    by_cases out : (second < low || top < second) = true
    · simp [pieceAfter, out, Piece.further, precede_cons_other broken]
    cases more with
    | zero => simp [pieceAfter, out, Piece.further]
    | succ more =>
      cases rest with
      | nil => simp [pieceAfter, out, Piece.further]
      | cons third rest =>
        by_cases broken : third = lineFeed
        · subst broken
          simp [pieceAfter, out, precede_cons_stop, feedEnds, returnEnds, Piece.further]
        rw [precede_cons_other broken]
        by_cases goesOn : isContinuation third = true
        · cases more with
          | zero => simp [pieceAfter, out, goesOn, Piece.further]
          | succ more =>
            cases rest with
            | nil => simp [pieceAfter, out, goesOn, Piece.further]
            | cons fourth rest =>
              by_cases broken : fourth = lineFeed
              · subst broken
                simp [pieceAfter, out, goesOn, precede_cons_stop, feedEnds, returnEnds, Piece.further]
              rw [precede_cons_other broken]
              cases ends : isContinuation fourth <;>
                simp [pieceAfter, out, goesOn, ends, Piece.further, precede_cons_other broken]
        · simp [pieceAfter, out, goesOn, Piece.further, precede_cons_other broken]

/-- A character of several bytes is none of the first few. -/
theorem pieceAfter_code {high : Nat} {low : UInt8}
    (large : 0x0D < high * 64 + (low.toNat - 0x80)) {top : UInt8} {more : Nat} {rest : Bytes}
    {c : Char} {further : Nat} (read : pieceAfter high low top more rest = .scalar c further) :
    ∃ code, c = Char.ofNat code ∧ 0x0D < code := by
  cases rest with
  | nil => cases read
  | cons second rest =>
    by_cases out : (second < low || top < second) = true
    · simp [pieceAfter, out] at read
    have first : 0x0D < high * 64 + (second.toNat - 0x80) := by
      have within : ¬ second < low := fun below => out (by rw [decide_eq_true below, Bool.true_or])
      have bound : low.toNat ≤ second.toNat := Nat.not_lt.mp within
      omega
    simp only [pieceAfter, if_neg out] at read
    split at read
    · exact ⟨_, (Piece.scalar.inj read).1.symm, first⟩
    · cases read
    · split at read
      · cases read
      split at read
      · exact ⟨_, (Piece.scalar.inj read).1.symm, by omega⟩
      · cases read
      · split at read
        · cases read
        · exact ⟨_, (Piece.scalar.inj read).1.symm, by omega⟩

/-- The character that the lossy reader puts for a piece. -/
def Piece.char : Piece → Char
  | .scalar c _ => c
  | .flawed _ _ => replacement

theorem decodeLossy_cons_piece (lead : UInt8) (rest : Bytes) :
    decodeLossy (lead :: rest) = (pieceAt lead rest).char ::
      decodeLossy (rest.drop (pieceAt lead rest).further) := by
  rw [decodeLossy_cons]
  cases pieceAt lead rest <;> rfl

/-- A byte of ASCII is a character of its own. -/
theorem decodeLossy_ascii {lead : UInt8} (ascii : lead < 0x80) (rest : Bytes) :
    decodeLossy (lead :: rest) = Char.ofNat lead.toNat :: decodeLossy rest := by
  have alone : pieceAt lead rest = .scalar (Char.ofNat lead.toNat) 0 := if_pos ascii
  rw [decodeLossy_cons_piece, alone]
  rfl

/-- Beyond ASCII nothing is read as a line feed or a carriage return. -/
theorem Piece.char_visible {lead : UInt8} (wide : ¬ lead < 0x80) (rest : Bytes) :
    (pieceAt lead rest).char ≠ '\n' ∧ (pieceAt lead rest).char ≠ '\r' := by
  have visible {code : Nat} (large : 0x0D < code) : Char.ofNat code ≠ '\n' ∧ Char.ofNat code ≠ '\r' :=
    ⟨ofNat_ne_of_lt (by decide) (Nat.lt_trans (by decide) large), ofNat_ne_of_lt (by decide) large⟩
  have replaced : replacement ≠ '\n' ∧ replacement ≠ '\r' := by decide
  rcases pieceAt_cases wide with bad | ⟨high, low, top, more, _, large, after⟩
  · rw [bad]
    exact replaced
  · rw [after]
    cases read : pieceAfter high low top more rest with
    | scalar c further =>
      obtain ⟨code, rfl, beyond⟩ := pieceAfter_code large read
      exact visible beyond
    | flawed flaw further => exact replaced

theorem pieceAt_precede {lead : UInt8} (wide : ¬ lead < 0x80) (rest : Bytes) :
    pieceAt lead (precede carriageReturn lineFeed rest) = pieceAt lead rest ∧
      (precede carriageReturn lineFeed rest).drop (pieceAt lead rest).further =
        precede carriageReturn lineFeed (rest.drop (pieceAt lead rest).further) := by
  rcases pieceAt_cases wide with bad | ⟨high, low, top, more, lowWide, _, after⟩
  · rw [bad, bad]
    exact ⟨rfl, rfl⟩
  · rw [after, after]
    exact pieceAfter_precede lowWide high top more rest

/-- Reading goes on somewhere in the rest of the bytes. -/
@[elab_as_elim]
theorem decodeLossy_induction {motive : Bytes → Prop} (bytes : Bytes) (nil : motive [])
    (cons : ∀ lead rest, (∀ further, motive (rest.drop further)) → motive (lead :: rest)) :
    motive bytes := by
  induction length : bytes.length using Nat.strongRecOn generalizing bytes with
  | _ n ih =>
    cases bytes with
    | nil => exact nil
    | cons lead rest =>
      refine cons lead rest fun further => ih _ ?_ _ rfl
      rw [← length, List.length_drop, List.length_cons]
      omega

/-- Carriage returns may be put in before the bytes are read as text, or after. -/
theorem decodeLossy_precede (bytes : Bytes) :
    decodeLossy (precede carriageReturn lineFeed bytes) =
      precede '\r' '\n' (decodeLossy bytes) := by
  induction bytes using decodeLossy_induction with
  | nil => rw [precede_nil, decodeLossy_nil, precede_nil]
  | cons lead rest ih =>
    have later : decodeLossy (precede carriageReturn lineFeed rest) =
      precede '\r' '\n' (decodeLossy rest) := ih 0
    by_cases broken : lead = lineFeed
    · have feed : Char.ofNat lineFeed.toNat = '\n' := rfl
      have mark : Char.ofNat carriageReturn.toNat = '\r' := rfl
      rw [broken, precede_cons_stop, decodeLossy_ascii (by decide), decodeLossy_ascii (by decide),
        decodeLossy_ascii (by decide), feed, mark, precede_cons_stop, later]
    rw [precede_cons_other broken]
    by_cases ascii : lead < 0x80
    · have other : Char.ofNat lead.toNat ≠ '\n' := fun feed =>
        broken (UInt8.toNat_inj.mp ((ofNat_toNat_eq_iff ascii).mp feed))
      rw [decodeLossy_ascii ascii, decodeLossy_ascii ascii, precede_cons_other other, later]
    · obtain ⟨same, dropped⟩ := pieceAt_precede ascii rest
      have other := (Piece.char_visible ascii rest).1
      rw [decodeLossy_cons_piece, decodeLossy_cons_piece, same, dropped, precede_cons_other other, ih]

/-- A text has a carriage return only where its bytes do. -/
theorem return_mem_of_mem_decodeLossy {bytes : Bytes} (member : '\r' ∈ decodeLossy bytes) :
    carriageReturn ∈ bytes := by
  induction bytes using decodeLossy_induction with
  | nil => rw [decodeLossy_nil] at member; cases member
  | cons lead rest ih =>
    rw [decodeLossy_cons_piece, List.mem_cons] at member
    rcases member with here | later
    · by_cases ascii : lead < 0x80
      · have alone : pieceAt lead rest = .scalar (Char.ofNat lead.toNat) 0 := if_pos ascii
        rw [alone] at here
        have same : lead = carriageReturn :=
          UInt8.toNat_inj.mp ((ofNat_toNat_eq_iff ascii).mp here.symm)
        exact List.mem_cons.mpr (Or.inl same.symm)
      · exact absurd here.symm (Piece.char_visible ascii rest).2
    · exact List.mem_cons_of_mem _ (List.mem_of_mem_drop (ih _ later))

/-- The lines of a text are the same with carriage returns put in before its line feeds, if it has no
others. -/
theorem splitLines_decodeLossy_precede {bytes : Bytes} (noReturn : carriageReturn ∉ bytes) :
    splitLines (decodeLossy (precede carriageReturn lineFeed bytes)) =
      splitLines (decodeLossy bytes) := by
  rw [decodeLossy_precede]
  exact splitLines_precede fun member => noReturn (return_mem_of_mem_decodeLossy member)

end ShellSurvey
