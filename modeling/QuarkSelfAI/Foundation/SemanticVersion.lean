import Mathlib.Data.Char
import Mathlib.Data.List.Lex
import Mathlib.Data.List.TakeDrop
import Mathlib.Data.List.TakeWhile
import Mathlib.Data.Prod.Lex
import Mathlib.Data.Sum.Order
import Mathlib.Order.WithBot

/-!
# Semantic versions

Three numbers and a pre-release, in the order of precedence: number by number, a release after its pre-releases, and
pre-releases identifier by identifier, numbers before texts. A caret range takes the versions from its bound on that
keep everything up to the bound's left-most number that is not zero.
-/

namespace QuarkSelfAI.Foundation

/-- An identifier of a pre-release; numbers come before texts. -/
abbrev Identifier := ℕ ⊕ₗ List Char

structure SemanticVersion where
  major : Nat
  minor : Nat
  patch : Nat
  prerelease : List Identifier

namespace SemanticVersion

variable {version bound : SemanticVersion}

/-- A release comes after its pre-releases. -/
def stage (version : SemanticVersion) : WithTop (List Identifier) :=
  if version.prerelease = [] then ⊤ else version.prerelease

/-- What orders the versions of one major number. -/
def rest (version : SemanticVersion) : ℕ ×ₗ ℕ ×ₗ WithTop (List Identifier) :=
  toLex (version.minor, toLex (version.patch, version.stage))

def precedence (version : SemanticVersion) : ℕ ×ₗ ℕ ×ₗ ℕ ×ₗ WithTop (List Identifier) :=
  toLex (version.major, version.rest)

instance : Preorder SemanticVersion := .lift precedence

instance : DecidableLE SemanticVersion := fun left right => inferInstanceAs (Decidable (left.precedence ≤ right.precedence))

theorem le_iff : bound ≤ version ↔
    bound.major < version.major ∨ bound.major = version.major ∧ bound.rest ≤ version.rest :=
  Prod.Lex.le_iff

theorem le_iff_of_major (same : version.major = bound.major) : bound ≤ version ↔ bound.rest ≤ version.rest := by
  rw [le_iff, same]
  simp

/-! ## Caret ranges -/

/-- Everything up to the left-most number of the bound that is not zero is kept; of `0.0.0` all three are. -/
def Keeps (version bound : SemanticVersion) : Prop :=
  version.major = bound.major ∧ (bound.major = 0 →
    version.minor = bound.minor ∧ (bound.minor = 0 → version.patch = bound.patch))

/-- The versions of a caret range. -/
def Compatible (version bound : SemanticVersion) : Prop := bound ≤ version ∧ version.Keeps bound

instance : Decidable (version.Keeps bound) := inferInstanceAs (Decidable (_ ∧ _))

instance : Decidable (version.Compatible bound) := inferInstanceAs (Decidable (_ ∧ _))

/-- Within one major number, only what comes after it decides. -/
theorem compatible_iff_of_major (same : version.major = bound.major) :
    version.Compatible bound ↔ bound.rest ≤ version.rest ∧
      (bound.major = 0 → version.minor = bound.minor ∧ (bound.minor = 0 → version.patch = bound.patch)) := by
  rw [Compatible, Keeps, le_iff_of_major same, and_iff_right same]

/-! ## Reading -/

/-- The number at the head of a text, and what follows it. -/
def takeNumber (chars : List Char) : Option (List Char × List Char) :=
  match chars.span Char.isDigit with
  | ([], _) => none
  | (digits, rest) => some (digits, rest)

theorem takeNumber_eq_some_iff {chars digits after : List Char} : takeNumber chars = some (digits, after) ↔
    digits ≠ [] ∧ chars.takeWhile Char.isDigit = digits ∧ chars.dropWhile Char.isDigit = after := by
  rw [takeNumber, List.span_eq_takeWhile_dropWhile]
  cases taken : chars.takeWhile Char.isDigit with
  | nil =>
    simp only [reduceCtorEq, false_iff, not_and]
    intro some none
    exact absurd none.symm some
  | cons first rest =>
    simp only [Option.some.injEq, Prod.mk.injEq]
    constructor
    · rintro ⟨rfl, rfl⟩
      exact ⟨by simp, rfl, rfl⟩
    · rintro ⟨-, rfl, rfl⟩
      exact ⟨rfl, rfl⟩

def valueOf (digits : List Char) : Nat := Nat.ofDigitChars 10 digits 0

def readIdentifier (chars : List Char) : Identifier :=
  if chars ≠ [] ∧ chars.all Char.isDigit = true then toLex (.inl (valueOf chars)) else toLex (.inr chars)

/-- The parts of a text such as `1.2.3-rc.1`, whatever the characters of its pre-release. -/
def read (text : String) : Option SemanticVersion :=
  match takeNumber text.toList with
  | some (major, '.' :: text) =>
    match takeNumber text with
    | some (minor, '.' :: text) =>
      match takeNumber text with
      | some (patch, []) => some ⟨valueOf major, valueOf minor, valueOf patch, []⟩
      | some (patch, '-' :: prerelease) =>
        some ⟨valueOf major, valueOf minor, valueOf patch, (prerelease.splitOn '.').map readIdentifier⟩
      | _ => none
    | _ => none
  | _ => none

/-- The text before the first full stop. -/
def leading (text : String) : List Char := text.toList.takeWhile (· ≠ '.')

/-- The text before the first full stop writes the major number. -/
theorem valueOf_leading {text : String} (found : read text = some version) :
    valueOf (leading text) = version.major := by
  rw [read] at found
  split at found
  case h_2 => cases found
  rename_i major afterMajor taken
  obtain ⟨-, digits, rest⟩ := takeNumber_eq_some_iff.mp taken
  have written : leading text = major := by
    have parts : text.toList = major ++ '.' :: afterMajor := by
      rw [← digits, ← rest, List.takeWhile_append_dropWhile]
    have plain : ∀ char ∈ major, (char ≠ '.') := by
      rintro char listed rfl
      have digit := List.mem_takeWhile_imp (digits ▸ listed)
      exact absurd digit (by decide)
    rw [leading, parts, List.takeWhile_append_of_pos (by simpa using plain)]
    simp
  rw [written]
  repeat' split at found
  all_goals first | cases found; rfl | cases found

example : (read "1.2.3-rc.9").bind (fun left => (read "1.2.3-rc.10").map fun right => decide (left < right)) =
    some true := by
  decide

end SemanticVersion

end QuarkSelfAI.Foundation
