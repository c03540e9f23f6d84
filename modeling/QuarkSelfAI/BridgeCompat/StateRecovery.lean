import QuarkSelfAI.Foundation.JsonParse

/-!
# Recovery of the state file

A state file that `JSON.parse` refuses is cut at the end of its first object. The scanner only counts braces outside
of strings; that this finds the object is shown against the grammar of JSON texts.
-/

namespace QuarkSelfAI.BridgeCompat.StateRecovery

open Foundation

/-! ## The scanner -/

structure Scan where
  depth : Nat := 0
  inString : Bool := false
  escaped : Bool := false
  started : Bool := false
deriving DecidableEq

/-- What one character leads to. -/
inductive Turn where
  | goesOn (next : Scan)
  | complete
  | throws (message : String)
deriving DecidableEq

def Scan.turn (scan : Scan) (character : Char) : Turn :=
  if scan.started = false then
    if isSpace character then .goesOn scan
    else if character ≠ openBrace then .throws "状态文件不是 JSON 对象"
    else .goesOn { scan with started := true, depth := 1 }
  else if scan.inString then
    if scan.escaped then .goesOn { scan with escaped := false }
    else if character = reverseSolidus then .goesOn { scan with escaped := true }
    else if character = quotationMark then .goesOn { scan with inString := false }
    else .goesOn scan
  else if character = quotationMark then .goesOn { scan with inString := true }
  else if character = openBrace then .goesOn { scan with depth := scan.depth + 1 }
  else if character = closeBrace then
    if scan.depth - 1 = 0 then .complete else .goesOn { scan with depth := scan.depth - 1 }
  else .goesOn scan

/-- The characters up to the one that completes the object. -/
def Scan.run (scan : Scan) : List Char → Except String (List Char)
  | [] => .error "状态文件没有完整的 JSON 对象"
  | character :: rest =>
    match scan.turn character with
    | .throws message => .error message
    | .complete => .ok [character]
    | .goesOn next => (next.run rest).map (character :: ·)

def firstCompleteJsonObject (text : String) : Except String String := (Scan.run {} text.toList).map String.ofList

/-! ## JSON texts -/

def IsDigits (text : List Char) : Prop := text ≠ [] ∧ ∀ char ∈ text, char.isDigit = true

inductive IsFraction : List Char → Prop where
  | none : IsFraction []
  | some {digits : List Char} (some : IsDigits digits) : IsFraction ('.' :: digits)

inductive IsExponent : List Char → Prop where
  | none : IsExponent []
  | some {mark : Char} {sign digits : List Char} (marked : mark ∈ ['e', 'E']) (signed : sign ∈ [[], ['+'], ['-']])
      (some : IsDigits digits) : IsExponent (mark :: (sign ++ digits))

inductive IsNumber : List Char → Prop where
  | mk {sign whole fraction exponent : List Char} (signed : sign ∈ [[], ['-']]) (digits : IsDigits whole)
      (plain : whole = ['0'] ∨ whole.head? ≠ some '0') (fractional : IsFraction fraction)
      (exponential : IsExponent exponent) : IsNumber (sign ++ (whole ++ (fraction ++ exponent)))

/-- What may stand between the quotation marks of a string. -/
inductive IsChars : List Char → Prop where
  | nil : IsChars []
  | plain {char : Char} {rest : List Char} (unmarked : char ≠ quotationMark ∧ char ≠ reverseSolidus)
      (printed : 0x20 ≤ char.toNat) (chars : IsChars rest) : IsChars (char :: rest)
  | escape {letter : Char} {rest : List Char}
      (listed : letter ∈ [quotationMark, reverseSolidus, '/', 'b', 'f', 'n', 'r', 't']) (chars : IsChars rest) :
      IsChars (reverseSolidus :: letter :: rest)
  | unicode {digits rest : List Char} (four : digits.length = 4) (hex : ∀ digit ∈ digits, (hexValue digit).isSome)
      (chars : IsChars rest) : IsChars (reverseSolidus :: 'u' :: (digits ++ rest))

inductive IsString : List Char → Prop where
  | mk {chars : List Char} (inside : IsChars chars) : IsString (quotationMark :: (chars ++ [quotationMark]))

def IsSpace (text : List Char) : Prop := ∀ char ∈ text, isJsonSpace char = true

inductive Part where
  | value
  /-- A value with the white space around it. -/
  | element
  | elements
  | member
  | members
  | object

/-- The grammar of JSON texts. -/
inductive Derives : Part → List Char → Prop where
  | word {word : String} (known : word ∈ ["null", "true", "false"]) : Derives .value word.toList
  | number {text : List Char} (number : IsNumber text) : Derives .value text
  | string {text : List Char} (string : IsString text) : Derives .value text
  | emptyArray {space : List Char} (blank : IsSpace space) : Derives .value ('[' :: (space ++ [']']))
  | array {elements : List Char} (some : Derives .elements elements) : Derives .value ('[' :: (elements ++ [']']))
  | object {text : List Char} (object : Derives .object text) : Derives .value text
  | element {before text after : List Char} (front : IsSpace before) (value : Derives .value text)
      (behind : IsSpace after) : Derives .element (before ++ (text ++ after))
  | lastElement {text : List Char} (element : Derives .element text) : Derives .elements text
  | moreElements {text rest : List Char} (element : Derives .element text) (others : Derives .elements rest) :
      Derives .elements (text ++ ',' :: rest)
  | member {before name after text : List Char} (front : IsSpace before) (named : IsString name)
      (behind : IsSpace after) (value : Derives .element text) :
      Derives .member (before ++ (name ++ (after ++ ':' :: text)))
  | lastMember {text : List Char} (member : Derives .member text) : Derives .members text
  | moreMembers {text rest : List Char} (member : Derives .member text) (others : Derives .members rest) :
      Derives .members (text ++ ',' :: rest)
  | emptyObject {space : List Char} (blank : IsSpace space) :
      Derives .object (openBrace :: (space ++ [closeBrace]))
  | someMembers {members : List Char} (some : Derives .members members) :
      Derives .object (openBrace :: (members ++ [closeBrace]))

/-! ## What the scanner passes over -/

/-- In the object at some depth, and in no string. -/
def inside (depth : Nat) : Scan := ⟨depth + 1, false, false, true⟩

def inText (depth : Nat) : Scan := ⟨depth + 1, true, false, true⟩

def inEscape (depth : Nat) : Scan := ⟨depth + 1, true, true, true⟩

/-- The scanner stands behind the text as it stood before it. -/
def Passes (text : List Char) : Prop :=
  ∀ depth rest, (inside depth).run (text ++ rest) = ((inside depth).run rest).map (text ++ ·)

theorem map_map (outcome : Except String (List Char)) (front behind : List Char) :
    (outcome.map (behind ++ ·)).map (front ++ ·) = outcome.map (front ++ behind ++ ·) := by
  cases outcome with
  | error message => rfl
  | ok text => exact congrArg Except.ok (List.append_assoc front behind text).symm

theorem run_goesOn {scan next : Scan} {character : Char} (turn : scan.turn character = .goesOn next) (rest : List Char) :
    scan.run (character :: rest) = (next.run rest).map ([character] ++ ·) := by
  rw [Scan.run, turn]
  rfl

variable {text : List Char}

/-- Characters that do not change what the scanner knows. -/
theorem run_steady {scan : Scan} (steady : ∀ char ∈ text, scan.turn char = .goesOn scan)
    (rest : List Char) : scan.run (text ++ rest) = (scan.run rest).map (text ++ ·) := by
  induction text with
  | nil =>
    rw [List.nil_append]
    cases scan.run rest <;> rfl
  | cons char text ih =>
    obtain ⟨here, later⟩ := List.forall_mem_cons.mp steady
    rw [List.cons_append, run_goesOn here, ih later, map_map]
    rfl

theorem Passes.append {first second : List Char} (one : Passes first) (other : Passes second) :
    Passes (first ++ second) := by
  intro depth rest
  rw [List.append_assoc, one, other, map_map]

/-- Neither a quotation mark nor a brace. -/
def IsPlain (char : Char) : Prop := char ≠ quotationMark ∧ char ≠ openBrace ∧ char ≠ closeBrace

instance (char : Char) : Decidable (IsPlain char) := inferInstanceAs (Decidable (_ ∧ _))

theorem Passes.plain (plain : ∀ char ∈ text, IsPlain char) : Passes text := by
  intro depth
  refine run_steady fun char listed => ?_
  obtain ⟨unquoted, unopened, unclosed⟩ := plain char listed
  simp [Scan.turn, inside, unquoted, unopened, unclosed]

theorem Passes.all (plain : text.all (fun char => decide (IsPlain char)) = true) : Passes text :=
  .plain fun char listed => of_decide_eq_true (List.all_eq_true.mp plain char listed)

theorem passes_mark {char : Char} (plain : IsPlain char) (passes : Passes text) : Passes (char :: text) := by
  have single : Passes [char] := .plain (by simpa using plain)
  exact single.append passes

/-- The scanner leaves a string at its closing mark. -/
theorem run_chars {chars : List Char} (inner : IsChars chars) (depth : Nat) (rest : List Char) :
    (inText depth).run (chars ++ rest) = ((inText depth).run rest).map (chars ++ ·) := by
  have escaping : (inText depth).turn reverseSolidus = .goesOn (inEscape depth) := by
    simp [Scan.turn, inText, inEscape]
  have escaped : ∀ letter, (inEscape depth).turn letter = .goesOn (inText depth) := by
    simp [Scan.turn, inText, inEscape]
  have steady : ∀ char, char ≠ quotationMark ∧ char ≠ reverseSolidus →
      (inText depth).turn char = .goesOn (inText depth) := by
    rintro char ⟨unquoted, unescaped⟩
    simp [Scan.turn, inText, unquoted, unescaped]
  induction inner with
  | nil => exact run_steady (by simp) rest
  | plain unmarked _ _ ih =>
    rw [List.cons_append, run_goesOn (steady _ unmarked), ih, map_map]
    rfl
  | escape _ _ ih =>
    rw [List.cons_append, List.cons_append, run_goesOn escaping, run_goesOn (escaped _), ih, map_map, map_map]
    rfl
  | unicode _ hex _ ih =>
    rw [List.cons_append, List.cons_append, List.append_assoc, run_goesOn escaping, run_goesOn (escaped _), run_steady,
      ih, map_map, map_map, map_map]
    · simp
    · intro digit listed
      have some := hex digit listed
      refine steady digit ⟨?_, ?_⟩ <;> rintro rfl <;> exact absurd some (by decide)

theorem IsString.passes (string : IsString text) : Passes text := by
  intro depth rest
  obtain ⟨inner⟩ := string
  have opens : (inside depth).turn quotationMark = .goesOn (inText depth) := by
    simp [Scan.turn, inside, inText]
  have closes : (inText depth).turn quotationMark = .goesOn (inside depth) := by
    have different : quotationMark ≠ reverseSolidus := by decide
    simp [Scan.turn, inside, inText, different]
  rw [List.cons_append, List.append_assoc, run_goesOn opens, run_chars inner, List.singleton_append, run_goesOn closes,
    map_map, map_map]
  simp

/-- The braces of an inner object open and close one level. -/
theorem Passes.braces (passes : Passes text) : Passes (openBrace :: (text ++ [closeBrace])) := by
  intro depth rest
  have opens : (inside depth).turn openBrace = .goesOn (inside (depth + 1)) := by
    have different : openBrace ≠ quotationMark := by decide
    simp [Scan.turn, inside, different]
  have closes : (inside (depth + 1)).turn closeBrace = .goesOn (inside depth) := by
    have different : closeBrace ≠ quotationMark ∧ closeBrace ≠ openBrace := by decide
    simp [Scan.turn, inside, different]
  rw [List.cons_append, List.append_assoc, run_goesOn opens, passes, List.singleton_append, run_goesOn closes,
    map_map, map_map]
  simp

theorem IsSpace.passes (blank : IsSpace text) : Passes text := by
  refine .plain fun char listed => ?_
  have space := blank char listed
  refine ⟨?_, ?_, ?_⟩ <;> rintro rfl <;> exact absurd space (by decide)

theorem isDigit_plain {char : Char} (digit : char.isDigit = true) : IsPlain char := by
  refine ⟨?_, ?_, ?_⟩ <;> rintro rfl <;> exact absurd digit (by decide)

theorem IsNumber.passes (number : IsNumber text) : Passes text := by
  obtain ⟨signed, digits, -, fractional, exponential⟩ := number
  refine .append (.all ?_) (.append (.plain fun _ listed => isDigit_plain (digits.2 _ listed)) (.append ?_ ?_))
  · revert signed
    simp only [List.mem_cons, List.not_mem_nil, or_false]
    rintro (rfl | rfl) <;> decide
  · cases fractional with
    | none => exact .plain (by simp)
    | some digits => exact passes_mark (by decide) (.plain fun _ listed => isDigit_plain (digits.2 _ listed))
  · cases exponential with
    | none => exact .plain (by simp)
    | some marked signed digits =>
      simp only [List.mem_cons, List.not_mem_nil, or_false] at marked signed
      refine passes_mark ?_ (.append (.all ?_) (.plain fun _ listed => isDigit_plain (digits.2 _ listed)))
      · rcases marked with rfl | rfl <;> decide
      · rcases signed with rfl | rfl | rfl <;> decide

/-- No part of a JSON text leaves the depth that it begins at, and an object is closed by its last brace. -/
theorem Derives.passes {part : Part} (derives : Derives part text) :
    Passes text ∧ (part = .object → ∃ inner, text = openBrace :: (inner ++ [closeBrace]) ∧ Passes inner) := by
  have bracket : Passes [']'] := .all (by decide)
  induction derives with
  | @word word known =>
    refine ⟨.all ?_, nofun⟩
    simp only [List.mem_cons, List.not_mem_nil, or_false] at known
    rcases known with rfl | rfl | rfl <;> decide
  | number number => exact ⟨number.passes, nofun⟩
  | string string => exact ⟨string.passes, nofun⟩
  | emptyArray blank => exact ⟨passes_mark (by decide) (.append blank.passes bracket), nofun⟩
  | array _ ih => exact ⟨passes_mark (by decide) (.append ih.1 bracket), nofun⟩
  | object _ ih | lastElement _ ih | lastMember _ ih => exact ⟨ih.1, nofun⟩
  | element front _ behind ih => exact ⟨.append front.passes (.append ih.1 behind.passes), nofun⟩
  | moreElements _ _ first others | moreMembers _ _ first others =>
    exact ⟨.append first.1 (passes_mark (by decide) others.1), nofun⟩
  | member front named behind _ ih =>
    exact ⟨.append front.passes (.append named.passes (.append behind.passes (passes_mark (by decide) ih.1))), nofun⟩
  | emptyObject blank => exact ⟨blank.passes.braces, fun _ => ⟨_, rfl, blank.passes⟩⟩
  | someMembers _ ih => exact ⟨ih.1.braces, fun _ => ⟨_, rfl, ih.1⟩⟩

/-! ## The object that is found -/

theorem run_object {space text : List Char} (blank : ∀ char ∈ space, isSpace char = true) (object : Derives .object text)
    (garbage : List Char) : Scan.run {} (space ++ (text ++ garbage)) = .ok (space ++ text) := by
  obtain ⟨inner, rfl, passes⟩ := object.passes.2 rfl
  induction space with
  | nil =>
    have starts : ({} : Scan).turn openBrace = .goesOn (inside 0) := by decide
    have closes : (inside 0).run (closeBrace :: garbage) = .ok [closeBrace] := by
      have complete : (inside 0).turn closeBrace = .complete := by decide
      rw [Scan.run, complete]
    rw [List.nil_append, List.cons_append, List.append_assoc, run_goesOn starts, passes, List.singleton_append, closes]
    rfl
  | cons char space ih =>
    obtain ⟨here, later⟩ := List.forall_mem_cons.mp blank
    have waits : ({} : Scan).turn char = .goesOn {} := by simp [Scan.turn, here]
    rw [List.cons_append, run_goesOn waits, ih later]
    rfl

/-- What was found is found again when more follows, and it stands at the front of the text. -/
theorem run_append {scan : Scan} {text found : List Char} (rest : List Char) (ran : scan.run text = .ok found) :
    scan.run (text ++ rest) = .ok found ∧ found.length ≤ text.length := by
  induction text generalizing scan found with
  | nil => cases ran
  | cons char text ih =>
    rw [Scan.run] at ran
    rw [List.cons_append, Scan.run]
    cases turn : scan.turn char with
    | throws message => simp [turn] at ran
    | complete =>
      rw [turn] at ran
      cases ran
      exact ⟨rfl, by simp⟩
    | goesOn next =>
      rw [turn] at ran
      cases later : next.run text with
      | error message => simp [later, Except.map] at ran
      | ok others =>
        simp only [later, Except.map, Except.ok.injEq] at ran
        subst ran
        obtain ⟨again, bound⟩ := ih later
        exact ⟨by simp [again, Except.map], by simpa using bound⟩

/-- An object with one member, whose value is the text of a closing brace. -/
def sampleObject : String :=
  String.ofList [openBrace, quotationMark, 'a', quotationMark, ':', quotationMark, closeBrace, quotationMark, closeBrace]

theorem sampleObject_derives : Derives .object sampleObject.toList := by
  have quoted : ∀ char : Char, char ≠ quotationMark ∧ char ≠ reverseSolidus → 0x20 ≤ char.toNat →
      IsString [quotationMark, char, quotationMark] := fun char unmarked printed => .mk (.plain unmarked printed .nil)
  have blank : IsSpace [] := by simp [IsSpace]
  have value : Derives .element [quotationMark, closeBrace, quotationMark] :=
    .element blank (.string (quoted closeBrace (by decide) (by decide))) blank
  rw [sampleObject, String.toList_ofList]
  exact .someMembers (.lastMember (.member blank (quoted 'a' (by decide) (by decide)) blank value))

/-- The recovery finds exactly the object behind white space whatever follows, and throws at a text that ends within it. -/
theorem firstCompleteJsonObject_exact {space text : String} (blank : ∀ char ∈ space.toList, isSpace char = true)
    (object : Derives .object text.toList) :
    (∀ garbage : String, firstCompleteJsonObject (space ++ text ++ garbage) = .ok (space ++ text)) ∧
      ∀ begun rest : String, begun ++ rest = text → rest ≠ "" →
        ∃ message, firstCompleteJsonObject begun = .error message := by
  constructor
  · intro garbage
    rw [firstCompleteJsonObject, String.toList_append, String.toList_append, List.append_assoc,
      run_object blank object garbage.toList, ← String.toList_append]
    exact congrArg Except.ok String.ofList_toList
  · intro begun rest whole more
    rw [firstCompleteJsonObject]
    cases ran : Scan.run {} begun.toList with
    | error message => exact ⟨message, rfl⟩
    | ok found =>
      have complete : Scan.run {} text.toList = .ok text.toList := by
        have blank : ∀ char ∈ ([] : List Char), isSpace char = true := by simp
        simpa using run_object blank object []
      obtain ⟨again, bound⟩ := run_append rest.toList ran
      rw [← String.toList_append, whole, complete] at again
      have longer : text.toList.length = begun.toList.length + rest.toList.length := by
        rw [← whole, String.toList_append, List.length_append]
      have some : rest.toList.length ≠ 0 := fun none => more (String.toList_inj.mp (List.eq_nil_of_length_eq_zero none))
      cases again
      omega

/-- An object with a brace in a string is found behind a line feed and before a second object. -/
theorem quotedBrace_exact : firstCompleteJsonObject
    ("\n" ++ sampleObject ++ sampleObject) = .ok ("\n" ++ sampleObject) ∧
      ∃ message, firstCompleteJsonObject (String.ofList (sampleObject.toList.dropLast)) = .error message := by
  have blank : ∀ char ∈ "\n".toList, isSpace char = true := List.all_eq_true.mp (by decide)
  obtain ⟨found, throws⟩ := firstCompleteJsonObject_exact blank sampleObject_derives
  exact ⟨found sampleObject, throws _ (String.ofList [closeBrace]) (by decide) (by decide)⟩

end QuarkSelfAI.BridgeCompat.StateRecovery
