import ShellSurvey.Lexicon.Standard
import ShellSurvey.Script.Shebang

namespace ShellSurvey

/-- How the words of a line stand apart: blanks around them, and after each word but the last so many
spaces more than the one that is needed. -/
structure Spacing where
  before : List Char := []
  extra : Nat → Nat := fun _ => 0
  after : List Char := []
  blankBefore : before.all isBlank = true := by decide
  blankAfter : after.all isBlank = true := by decide

/-- Words one after the other, with spaces between them. -/
def spacedWords (extra : Nat → Nat) : List String → List Char
  | [] => []
  | [word] => word.toList
  | word :: next :: words =>
    word.toList ++
      (List.replicate (extra 0 + 1) ' ' ++ spacedWords (fun i => extra (i + 1)) (next :: words))

/-- The shebang of some words. -/
def Spacing.shebang (spacing : Spacing) (words : List String) : String :=
  .ofList ('#' :: '!' :: (spacing.before ++ (spacedWords spacing.extra words ++ spacing.after)))

def beginsBlank (word : String) : Bool := word.toList.head?.any isBlank

def endsBlank (word : String) : Bool := word.toList.getLast?.any isBlank

/-- Words that a line can give back: none is empty or holds a space, and no blank is at the ends of
the line. -/
structure LineWords (words : List String) : Prop where
  nonempty : ∀ word ∈ words, word ≠ ""
  spaceless : ∀ word ∈ words, ' ' ∉ word.toList
  firstVisible : ∀ word ∈ words.head?, beginsBlank word = false
  lastVisible : ∀ word ∈ words.getLast?, endsBlank word = false

/-- What stands behind the last slash of a word, the whole word if it has none. -/
def LastPart (word base : String) : Prop :=
  '/' ∉ base.toList ∧ (word = base ∨ ∃ folder, word = folder ++ "/" ++ base)

theorem commandWords_space (line : List Char) : commandWords (' ' :: line) = commandWords line := by
  rw [commandWords, splitAt_cons, if_pos rfl]
  rfl

theorem commandWords_spaces (count : Nat) (line : List Char) :
    commandWords (List.replicate count ' ' ++ line) = commandWords line := by
  induction count with
  | zero => rfl
  | succ count ih => rw [List.replicate_succ, List.cons_append, commandWords_space, ih]

section

variable {word : String} (nonempty : word ≠ "") (spaceless : ' ' ∉ word.toList)
include nonempty spaceless

theorem commandWords_word : commandWords word.toList = [word] := by
  rw [commandWords, splitAt_of_not_mem spaceless]
  simp [nonempty]

theorem commandWords_word_space (line : List Char) :
    commandWords (word.toList ++ ' ' :: line) = word :: commandWords line := by
  rw [commandWords, splitAt_append_cons spaceless]
  simp [commandWords, nonempty]

end

/-- Words are found again whatever the number of spaces between them. -/
theorem commandWords_spacedWords {extra : Nat → Nat} {words : List String}
    (nonempty : ∀ word ∈ words, word ≠ "") (spaceless : ∀ word ∈ words, ' ' ∉ word.toList) :
    commandWords (spacedWords extra words) = words := by
  induction extra, words using spacedWords.induct with
  | case1 => rfl
  | case2 extra word =>
    exact commandWords_word (nonempty word List.mem_cons_self) (spaceless word List.mem_cons_self)
  | case3 extra word next words ih =>
    obtain ⟨letters, nonempty⟩ := List.forall_mem_cons.mp nonempty
    obtain ⟨solid, spaceless⟩ := List.forall_mem_cons.mp spaceless
    rw [spacedWords, List.replicate_succ, List.cons_append, commandWords_word_space letters solid,
      commandWords_spaces, ih nonempty spaceless]

theorem head?_spacedWords (extra : Nat → Nat) {words : List String}
    (nonempty : ∀ word ∈ words, word ≠ "") :
    (spacedWords extra words).head? = words.head?.bind (·.toList.head?) := by
  cases words with
  | nil => rfl
  | cons word words =>
    cases words with
    | nil => rfl
    | cons next words =>
      cases letters : word.toList with
      | nil => exact absurd (by simpa using letters) (nonempty word List.mem_cons_self)
      | cons c rest => simp [spacedWords, letters]

theorem getLast?_spacedWords (extra : Nat → Nat) {words : List String}
    (nonempty : ∀ word ∈ words, word ≠ "") :
    (spacedWords extra words).getLast? = words.getLast?.bind (·.toList.getLast?) := by
  induction extra, words using spacedWords.induct with
  | case1 => rfl
  | case2 => rfl
  | case3 extra word next words ih =>
    obtain ⟨final, known⟩ : ∃ final, (next :: words).getLast? = some final :=
      Option.ne_none_iff_exists'.mp (by simp)
    have letters : final.toList ≠ [] := by
      simpa using nonempty final (List.mem_cons_of_mem _ (List.mem_of_getLast? known))
    obtain ⟨c, last⟩ : ∃ c, final.toList.getLast? = some c :=
      Option.ne_none_iff_exists'.mp (by simpa using letters)
    have later := ih (List.forall_mem_cons.mp nonempty).2
    rw [known, Option.bind_some, last] at later
    rw [spacedWords, List.getLast?_append, List.getLast?_append, later, Option.some_or,
      Option.some_or, List.getLast?_cons_cons, known, Option.bind_some, last]

/-- Trimming takes away the blanks around a text that neither begins nor ends with one. -/
theorem trim_surrounded {before after text : List Char} (blankBefore : before.all isBlank = true)
    (blankAfter : after.all isBlank = true) (begins : text.head?.any isBlank = false)
    (ends : text.getLast?.any isBlank = false) :
    trim (before ++ (text ++ after)) = text := by
  have kept {cs : List Char} (visible : cs.head?.any isBlank = false) :
      cs.dropWhile isBlank = cs := by
    cases cs with
    | nil => rfl
    | cons c rest => exact List.dropWhile_cons_of_neg (by simpa using visible)
  have blank : ∀ c ∈ after, isBlank c = true := List.all_eq_true.mp blankAfter
  rw [trim, trimStart, List.dropWhile_append_of_pos (List.all_eq_true.mp blankBefore)]
  cases text with
  | nil =>
    have gone : (after ++ []).dropWhile isBlank = [] := List.dropWhile_append_of_pos blank
    rw [List.append_nil] at gone
    rw [List.nil_append, gone]
    rfl
  | cons c rest =>
    have front : ((c :: rest) ++ after).dropWhile isBlank = (c :: rest) ++ after := kept begins
    have back : (c :: rest).reverse.dropWhile isBlank = (c :: rest).reverse :=
      kept (by rw [List.head?_reverse]; exact ends)
    rw [front, trimEnd, dropWhileEnd, List.reverse_append,
      List.dropWhile_append_of_pos (by simpa using blank), back, List.reverse_reverse]

/-- The command of a spelt shebang has the words that it was spelt with. -/
theorem Spacing.shebangCommand? (spacing : Spacing) {words : List String} (spelt : LineWords words) :
    ShellSurvey.shebangCommand? (spacing.shebang words) = some (dropLauncher words) := by
  have begins : (spacedWords spacing.extra words).head?.any isBlank = false := by
    rw [head?_spacedWords _ spelt.nonempty]
    cases first : words.head? with
    | none => rfl
    | some word => exact spelt.firstVisible word first
  have ends : (spacedWords spacing.extra words).getLast?.any isBlank = false := by
    rw [getLast?_spacedWords _ spelt.nonempty]
    cases last : words.getLast? with
    | none => rfl
    | some word => exact spelt.lastVisible word last
  have command : ShellSurvey.shebangCommand? (spacing.shebang words) =
      some (dropLauncher (commandWords (trim (spacing.before ++
        (spacedWords spacing.extra words ++ spacing.after))))) := by
    rw [ShellSurvey.shebangCommand?, shebang, String.toList_ofList]
    rfl
  rw [command, trim_surrounded spacing.blankBefore spacing.blankAfter begins ends,
    commandWords_spacedWords spelt.nonempty spelt.spaceless]

theorem LastPart.baseName {word base : String} (last : LastPart word base) :
    ShellSurvey.baseName word = base := by
  obtain ⟨noSlash, rfl | ⟨folder, rfl⟩⟩ := last
  · rw [ShellSurvey.baseName, splitAt_of_not_mem noSlash]
    simp
  · have letters : (folder ++ "/" ++ base).toList = folder.toList ++ '/' :: base.toList := by simp
    rw [ShellSurvey.baseName, letters, splitAt_append_separator, splitAt_of_not_mem noSlash]
    simp

/-- One launcher is taken away from the front, and no word that is none. -/
theorem dropLauncher_append {launcher : Option String} (known : ∀ name ∈ launcher, name ∈ launchers)
    {words : List String} (alone : launcher = none → ∀ word ∈ words.head?, word ∉ launchers) :
    dropLauncher (launcher.toList ++ words) = words := by
  cases launcher with
  | some name => exact if_pos (known name rfl)
  | none =>
    cases words with
    | nil => rfl
    | cons word words => exact if_neg (alone rfl word rfl)

theorem Interpreter.ofFallback_eq (fallback : Option String) :
    ofFallback fallback = ((fallback.filter (· ≠ "")).map known).getD genericPosix := by
  cases fallback with
  | none => rfl
  | some name => by_cases empty : name = "" <;> simp [ofFallback, Option.filter, empty]

theorem Interpreter.ofProgram_eq (lexicon : Lexicon) (program : String) :
    ofProgram lexicon program =
      ofName (((lexicon.filenameInterpreter program).filter (· ≠ "")).getD program) := by
  rw [ofProgram]
  cases lexicon.filenameInterpreter program with
  | none => rfl
  | some name => by_cases empty : name = "" <;> simp [Option.filter, empty]

/-- Reading undoes spelling. Behind at most one launcher stand a program and its flags, which are given
back whatever the fallback is; without a program the fallback counts and there are no flags. -/
theorem shebang_reads_back (lexicon : Lexicon) (fallback : Option String) (spacing : Spacing)
    (launcher : Option String) (words : List String) (known : ∀ name ∈ launcher, name ∈ launchers)
    (alone : launcher = none → ∀ word ∈ words.head?, word ∉ launchers)
    (spelt : LineWords (launcher.toList ++ words)) :
    (∀ word flags base, words = word :: flags → LastPart word base → base ≠ "" →
      Shebang.parse? lexicon fallback (spacing.shebang (launcher.toList ++ words)) =
        some ⟨spacing.shebang (launcher.toList ++ words),
          .ofName (((lexicon.filenameInterpreter base).filter (· ≠ "")).getD base), flags⟩) ∧
    ((words = [] ∨ ∃ word flags, words = word :: flags ∧ LastPart word "") →
      Shebang.parse? lexicon fallback (spacing.shebang (launcher.toList ++ words)) =
        some ⟨spacing.shebang (launcher.toList ++ words),
          ((fallback.filter (· ≠ "")).map .known).getD .genericPosix, []⟩) := by
  have command : shebangCommand? (spacing.shebang (launcher.toList ++ words)) = some words := by
    rw [spacing.shebangCommand? spelt, dropLauncher_append known alone]
  rw [Shebang.parse?, command, ← Interpreter.ofFallback_eq]
  constructor
  · rintro word flags base rfl last nonempty
    simp only [Option.map_some, last.baseName, if_neg nonempty, Interpreter.ofProgram_eq]
  · rintro (rfl | ⟨word, flags, rfl, last⟩)
    · rfl
    · simp only [Option.map_some, last.baseName, if_true]

/-- A launcher behind the first one is a program like any other. -/
theorem shebang_reads_back_busybox :
    LineWords ["/usr/bin/env", "/bin/busybox", "sh", "\t-e"] ∧ LastPart "/bin/busybox" "busybox" ∧
      Shebang.parse? Lexicon.standard (some "ksh")
          "#!\t/usr/bin/env /bin/busybox  sh   \t-e  " =
        some ⟨"#!\t/usr/bin/env /bin/busybox  sh   \t-e  ", .known "busybox", ["sh", "\t-e"]⟩ := by
  have spelt : LineWords ["/usr/bin/env", "/bin/busybox", "sh", "\t-e"] := by
    constructor <;> decide
  have last : LastPart "/bin/busybox" "busybox" := ⟨by decide, Or.inr ⟨"/bin", by decide⟩⟩
  have read := (shebang_reads_back Lexicon.standard (some "ksh")
    { before := ['\t'], extra := id, after := [' ', ' '] } (some "/usr/bin/env")
    ["/bin/busybox", "sh", "\t-e"] (by decide) (by decide) spelt).1 "/bin/busybox" ["sh", "\t-e"]
    "busybox" rfl last (by decide)
  exact ⟨spelt, last, read⟩

/-- A program is known under the name that its file name stands for. -/
example : Shebang.parse? Lexicon.standard none "#! /opt/.zshrc" =
    some ⟨"#! /opt/.zshrc", .known "zsh", []⟩ := by decide

end ShellSurvey
