import ShellSurvey.Proofs.Classify.Course
import ShellSurvey.Proofs.Text.CarriageReturns
import ShellSurvey.Rule.Content

namespace ShellSurvey

/-- What the rules on content read at a path. -/
def World.ReadsAs (world : World) (path : String) (content : Bytes) : Prop :=
  world.read .content path (Path.ofText path).text = .ok content

/-- The lines of a script. -/
def scriptLines (content : Bytes) : List Line := splitLines (decodeLossy content)

theorem ContentRule.check_readsAs {world : World} {record : Record} {content : Bytes}
    {rule : ContentRule} (applies : rule.applies record = true)
    (read : world.ReadsAs record.path content) :
    rule.check world record = .ok (rule.inspect record (scriptLines content)) := by
  have given : readLines world record.path = .ok (scriptLines content) := by
    unfold readLines
    rw [read]
    rfl
  rw [check, if_pos applies, given]
  rfl

theorem ContentRule.check_spared {world : World} {record : Record} {rule : ContentRule}
    (spared : rule.applies record = false) : rule.check world record = .ok [] := by
  rw [check, if_neg (Bool.eq_false_iff.mp spared)]

/-- The bytes of a text that needs no others than those of ASCII. -/
def asciiBytes (text : List Char) : Bytes := text.map fun c => c.toNat.toUInt8

theorem decodeLossy_asciiBytes {text : List Char} (ascii : text.all (·.toNat < 0x80) = true) :
    decodeLossy (asciiBytes text) = text := by
  induction text with
  | nil => exact decodeLossy_nil
  | cons c text ih =>
    rw [List.all_cons, Bool.and_eq_true, decide_eq_true_eq] at ascii
    obtain ⟨here, later⟩ := ascii
    have code : c.toNat.toUInt8.toNat = c.toNat :=
      UInt8.toNat_ofNat_of_lt' (Nat.lt_trans here (by decide))
    have small : c.toNat.toUInt8 < 0x80 := by
      rw [UInt8.lt_iff_toNat_lt, code]
      exact here
    rw [asciiBytes, List.map_cons, decodeLossy_ascii small, code, Char.ofNat_toNat]
    exact congrArg (c :: ·) (ih later)

theorem scriptLines_asciiBytes {text : List Char} (ascii : text.all (·.toNat < 0x80) = true) :
    scriptLines (asciiBytes text) = splitLines text := by
  rw [scriptLines, decodeLossy_asciiBytes ascii]

/-- A disk with nothing but one script. -/
def Disk.ofScript (content : Bytes) : Disk where
  entries := [("deploy", .file content 0o755)]
  ordered := ⟨fun _ member => absurd member List.not_mem_nil, trivial, trivial⟩

theorem Disk.lookup_ofScript (content : Bytes) :
    (Disk.ofScript content).lookup false "deploy" = .ok (.file content 0o755) := by
  refine Disk.lookup_name rfl ?_ ?_ ?_ ?_ ?_ ?_ <;> decide

theorem World.readsAs_ofScript (content : Bytes) :
    (World.ofDisk (.ofScript content)).ReadsAs "deploy" content :=
  Disk.content_normalForm (Disk.lookup_ofScript content)

end ShellSurvey
