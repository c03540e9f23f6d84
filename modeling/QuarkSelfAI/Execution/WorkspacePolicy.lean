import QuarkSelfAI.Foundation.Checking
import QuarkSelfAI.Foundation.Text

/-!
# Workspace roots

A path is allowed if it lies below one of the configured roots. What lies below is read off the text of
`path.relative`, and a file that is still to be created is allowed when its directory is: the last name is not looked up.
-/

namespace QuarkSelfAI.Execution

open Foundation

/-! ## Paths -/

/-- A name that a directory can list. -/
def IsName (text : String) : Prop := text ≠ "" ∧ text ≠ "." ∧ text ≠ ".." ∧ '/' ∉ text.toList

instance (text : String) : Decidable (IsName text) := inferInstanceAs (Decidable (_ ∧ _))

abbrev Name := {text : String // IsName text}

/-- An absolute path without links and dots, from the root of the file system. -/
abbrev CanonicalPath := List Name

/-- A part of a path text. -/
inductive Component where
  | skip
  | up
  | name (name : Name)

def componentOf (text : String) : Component :=
  if proper : IsName text then .name ⟨text, proper⟩ else if text = ".." then .up else .skip

def components (path : String) : List Component :=
  (path.toList.splitOn '/').map fun part => componentOf (String.ofList part)

def isAbsolute (path : String) : Bool := startsWith path "/"

/-- The parts of a path, one after the other. -/
def CanonicalPath.push (here : CanonicalPath) : Component → CanonicalPath
  | .skip => here
  | .up => here.dropLast
  | .name name => here ++ [name]

/-- `path.resolve`, in a working directory. -/
def resolve (directory : CanonicalPath) (path : String) : CanonicalPath :=
  (components path).foldl CanonicalPath.push (if isAbsolute path then [] else directory)

def joinNames (names : List String) : List Char := ['/'].intercalate (names.map String.toList)

def CanonicalPath.text (path : CanonicalPath) : String := String.ofList ('/' :: joinNames (path.map Subtype.val))

/-- The way up to the common directory and down from there. -/
def relativeNames : CanonicalPath → CanonicalPath → List String
  | [], target => target.map Subtype.val
  | root, [] => root.map fun _ => ".."
  | first :: root, other :: target =>
    if first = other then relativeNames root target
    else (first :: root).map (fun _ => "..") ++ (other :: target).map Subtype.val

/-- `path.relative` of two absolute paths. -/
def relative (root target : CanonicalPath) : String := String.ofList (joinNames (relativeNames root target))

def contains (root target : CanonicalPath) : Bool :=
  let path := relative root target
  path = "" || (! startsWith path ".." && ! isAbsolute path)

/-- A root of a policy is not the root of the file system. -/
abbrev Root := {path : CanonicalPath // path ≠ []}

/-! ## Texts of paths -/

theorem joinNames_cons (name : String) (names : List String) :
    ∃ rest, joinNames (name :: names) = name.toList ++ rest ∧ (rest = [] ∨ ∃ more, rest = '/' :: more) := by
  cases names with
  | nil => exact ⟨[], by simp [joinNames], .inl rfl⟩
  | cons other names =>
    exact ⟨'/' :: joinNames (other :: names), by simp [joinNames, List.intercalate, List.intersperse], .inr ⟨_, rfl⟩⟩

/-- A separator ends what a name can begin with. -/
theorem prefix_name {start name rest : List Char} (free : '/' ∉ start) (separated : rest = [] ∨ ∃ more, rest = '/' :: more) :
    start <+: name ++ rest ↔ start <+: name := by
  refine ⟨fun starts => ?_, fun starts => starts.trans (List.prefix_append _ _)⟩
  rcases separated with rfl | ⟨more, rfl⟩
  · rwa [List.append_nil] at starts
  · rcases List.prefix_or_prefix_of_prefix starts (List.prefix_append name _) with shorter | ⟨behind, rfl⟩
    · exact shorter
    · rw [List.prefix_append_right_inj] at starts
      cases behind with
      | nil => simp
      | cons char behind =>
        rw [List.cons_prefix_cons] at starts
        exact absurd (by simp [starts.1]) free

theorem CanonicalPath.text_toList {path : CanonicalPath} (some : path ≠ []) :
    path.text.toList = path.flatMap fun name => '/' :: name.val.toList := by
  rw [CanonicalPath.text, String.toList_ofList]
  induction path with
  | nil => exact absurd rfl some
  | cons name rest ih =>
    cases rest with
    | nil => simp [joinNames]
    | cons other rest =>
      have later := ih (by simp)
      rw [List.flatMap_cons, ← later]
      simp [joinNames, List.intercalate, List.intersperse]

theorem componentOf_name (name : Name) : componentOf name.val = .name name := by
  rw [componentOf, dif_pos name.property]

theorem components_name (name : Name) : components name.val = [.name name] := by
  rw [components, List.splitOn_eq_singleton name.property.2.2.2]
  simp [componentOf_name]

theorem foldl_push (here path : CanonicalPath) : (path.map Component.name).foldl CanonicalPath.push here = here ++ path := by
  induction path generalizing here with
  | nil => simp
  | cons name path ih => simp [ih, CanonicalPath.push]

/-- The text of a path is read back. -/
theorem resolve_text {path : CanonicalPath} (some : path ≠ []) : resolve [] path.text = path := by
  have joined : path.text.toList = ['/'].intercalate ([] :: path.map fun name => name.val.toList) := by
    cases path with
    | nil => exact absurd rfl some
    | cons name rest => simp [CanonicalPath.text, joinNames, List.intercalate]
  have free : ∀ part ∈ [] :: path.map fun name => name.val.toList, '/' ∉ part := by
    intro part listed
    rcases List.mem_cons.mp listed with rfl | later
    · exact List.not_mem_nil
    · obtain ⟨name, -, rfl⟩ := List.mem_map.mp later
      exact name.property.2.2.2
  have named : ((path.map fun name => name.val.toList).map fun part => componentOf (String.ofList part)) =
      path.map Component.name := by
    rw [List.map_map]
    refine List.map_congr_left fun name _ => ?_
    rw [Function.comp_apply, String.ofList_toList, componentOf_name]
  have start : (if isAbsolute path.text then [] else []) = ([] : CanonicalPath) := by split <;> rfl
  rw [resolve, start, components, joined, List.splitOn_intercalate _ free (by simp), List.map_cons, named,
    List.foldl_cons]
  exact foldl_push [] path

/-- What stands behind a path and a separator begins the name of a child. -/
theorem below_iff {root target : CanonicalPath} {start : List Char} (free : '/' ∉ start) :
    (root.flatMap fun name => '/' :: name.val.toList) ++ '/' :: start <+:
        (target.flatMap fun name => '/' :: name.val.toList) ↔
      ∃ child rest, target = root ++ child :: rest ∧ start <+: child.val.toList := by
  have separated : ∀ path : CanonicalPath, (path.flatMap fun name => '/' :: name.val.toList) = [] ∨
      ∃ more, (path.flatMap fun name => '/' :: name.val.toList) = '/' :: more := by
    intro path
    cases path with
    | nil => exact .inl rfl
    | cons name rest => exact .inr ⟨_, rfl⟩
  induction root generalizing target with
  | nil =>
    cases target with
    | nil => simp
    | cons child rest =>
      rw [List.flatMap_nil, List.nil_append, List.flatMap_cons, List.cons_append, List.cons_prefix_cons,
        prefix_name free (separated rest)]
      constructor
      · rintro ⟨-, starts⟩
        exact ⟨child, rest, rfl, starts⟩
      · rintro ⟨_, _, same, starts⟩
        cases same
        exact ⟨rfl, starts⟩
  | cons name root ih =>
    cases target with
    | nil => simp
    | cons other target =>
      rw [List.flatMap_cons, List.flatMap_cons, List.cons_append, List.cons_append, List.cons_append,
        List.cons_prefix_cons, List.append_assoc]
      constructor
      · rintro ⟨-, behind, whole⟩
        have own := name.property.2.2.2
        have others := other.property.2.2.2
        obtain ⟨more, next⟩ : ∃ more, (root.flatMap fun name => '/' :: name.val.toList) ++ '/' :: start = '/' :: more := by
          cases root with
          | nil | cons => exact ⟨_, rfl⟩
        rw [next, List.append_assoc] at whole
        rcases separated target with none | ⟨rest, some⟩
        · rw [none, List.append_nil] at whole
          exact absurd (by rw [← whole]; simp) others
        · rw [some, List.cons_append, append_cons_inj own others] at whole
          obtain ⟨child, children, below, starts⟩ := ih.mp ⟨behind, by rw [next, some, List.cons_append, whole.2]⟩
          have same : name = other := Subtype.ext (String.toList_inj.mp whole.1)
          exact ⟨child, children, by rw [same, below]; rfl, starts⟩
      · rintro ⟨child, rest, same, starts⟩
        cases same
        refine ⟨rfl, ?_⟩
        rw [List.prefix_append_right_inj]
        exact ih.mpr ⟨child, rest, rfl, starts⟩

/-- `target` begins with the root, a separator and some text. -/
theorem startsWith_below (root : Root) (target : CanonicalPath) (start : String) (free : '/' ∉ start.toList) :
    startsWith target.text (root.val.text ++ "/" ++ start) = true ↔
      ∃ child rest, target = root.val ++ child :: rest ∧ start.toList <+: child.val.toList := by
  have front : (root.val.text ++ "/" ++ start).toList =
      (root.val.flatMap fun name => '/' :: name.val.toList) ++ '/' :: start.toList := by
    rw [String.toList_append, String.toList_append, CanonicalPath.text_toList root.property, List.append_assoc]
    rfl
  rw [startsWith, List.isPrefixOf_iff_prefix, front]
  cases target with
  | cons name rest => rw [CanonicalPath.text_toList (by simp), below_iff free]
  | nil =>
    constructor
    · intro starts
      have bound := starts.length_le
      obtain ⟨path, some⟩ := root
      cases path with
      | nil => exact absurd rfl some
      | cons name path => simp [CanonicalPath.text, joinNames] at bound
    · rintro ⟨child, rest, same, -⟩
      simp at same

/-! ## What contains accepts -/

theorem relativeNames_below (root rest : CanonicalPath) : relativeNames root (root ++ rest) = rest.map Subtype.val := by
  induction root with
  | nil => cases rest <;> rfl
  | cons name root ih => rw [List.cons_append, relativeNames, if_pos rfl, ih]

theorem relativeNames_beside {root target : CanonicalPath} (beside : ¬ root <+: target) :
    ∃ others, relativeNames root target = ".." :: others := by
  induction root generalizing target with
  | nil => exact absurd List.nil_prefix beside
  | cons name root ih =>
    cases target with
    | nil => exact ⟨_, rfl⟩
    | cons other target =>
      by_cases same : name = other
      · subst same
        rw [relativeNames, if_pos rfl]
        exact ih fun below => beside ((List.prefix_cons_inj name).mpr below)
      · rw [relativeNames, if_neg same]
        exact ⟨_, rfl⟩

theorem startsWith_joinNames (name : String) (names : List String) :
    startsWith (String.ofList (joinNames (name :: names))) ".." = true ↔ "..".toList <+: name.toList := by
  obtain ⟨rest, joined, separated⟩ := joinNames_cons name names
  have whole : (String.ofList (joinNames (name :: names))).toList = name.toList ++ rest := String.toList_ofList.trans joined
  rw [startsWith, List.isPrefixOf_iff_prefix, whole, prefix_name (by decide) separated]

/-- A path is contained exactly if it is the root, or below it in a child whose name does not begin with two dots. -/
theorem contains_iff (root target : CanonicalPath) : contains root target = true ↔
    target = root ∨ ∃ child rest, target = root ++ child :: rest ∧ ¬ "..".toList <+: child.val.toList := by
  rw [contains]
  by_cases below : root <+: target
  · obtain ⟨rest, rfl⟩ := below
    rw [relative, relativeNames_below]
    cases rest with
    | nil => simp [joinNames]
    | cons child rest =>
      have dots := startsWith_joinNames child.val (rest.map Subtype.val)
      obtain ⟨tail, joined, -⟩ := joinNames_cons child.val (rest.map Subtype.val)
      have proper := child.property
      have relative' : isAbsolute (String.ofList (joinNames (child.val :: rest.map Subtype.val))) = false ∧
          String.ofList (joinNames (child.val :: rest.map Subtype.val)) ≠ "" := by
        rw [isAbsolute, startsWith, ← String.toList_inj.ne, String.toList_ofList, joined]
        cases letters : child.val.toList with
        | nil => exact absurd (String.toList_inj.mp letters) proper.1
        | cons char letters' =>
          have slash : char ≠ '/' := by
            rintro rfl
            exact proper.2.2.2 (by simp [letters])
          simp [List.isPrefixOf, Ne.symm slash]
      rw [List.map_cons, Bool.or_eq_true, decide_eq_true_eq, Bool.and_eq_true, relative'.1, Bool.not_eq_true',
        ← Bool.not_eq_true, dots]
      simp only [relative'.2, false_or, Bool.not_false, and_true, List.append_cancel_left_eq, List.cons.injEq]
      constructor
      · intro plain
        exact .inr ⟨child, rest, ⟨rfl, rfl⟩, plain⟩
      · rintro (same | ⟨_, _, ⟨rfl, rfl⟩, plain⟩)
        · simp at same
        · exact plain
  · obtain ⟨others, beside⟩ := relativeNames_beside below
    have dots := (startsWith_joinNames ".." others).mpr (List.prefix_refl _)
    have visible : String.ofList (joinNames (".." :: others)) ≠ "" := by
      intro none
      rw [none] at dots
      exact absurd dots (by decide)
    rw [relative, beside]
    simp only [visible, dots, decide_false, Bool.not_true, Bool.false_and, Bool.or_self, Bool.false_eq_true, false_iff]
    rintro (rfl | ⟨child, rest, rfl, -⟩)
    · exact below (List.prefix_refl _)
    · exact below (List.prefix_append _ _)

theorem text_inj (root : Root) (target : CanonicalPath) : target.text = root.val.text ↔ target = root.val := by
  refine ⟨fun same => ?_, congrArg _⟩
  cases target with
  | nil =>
    have below := congrArg (resolve []) same
    rw [resolve_text root.property] at below
    rw [← below]
    decide
  | cons name rest => rw [← resolve_text (List.cons_ne_nil name rest), same, resolve_text root.property]

/-- Containment is the textual test exactly if the target is not below a child of the root that begins with two dots. -/
theorem contains_exact_iff (root : Root) (target : CanonicalPath) : (contains root.val target = true ↔
        target.text = root.val.text ∨ startsWith target.text (root.val.text ++ "/") = true) ↔
      startsWith target.text (root.val.text ++ "/..") = false := by
  have below := startsWith_below root target "" (by decide)
  have dotted := startsWith_below root target ".." (by decide)
  have dots : root.val.text ++ "/" ++ ".." = root.val.text ++ "/.." := String.append_assoc
  rw [String.append_empty] at below
  rw [dots] at dotted
  rw [← Bool.not_eq_true, dotted, contains_iff, text_inj, below]
  constructor
  · rintro exact ⟨child, rest, rfl, dots⟩
    rcases exact.mpr (.inr ⟨child, rest, rfl, List.nil_prefix⟩) with same | ⟨_, _, same, plain⟩
    · simp at same
    · rw [List.append_cancel_left_eq] at same
      cases same
      exact plain dots
  · intro plain
    constructor
    · rintro (same | ⟨child, rest, same, -⟩)
      · exact .inl same
      · exact .inr ⟨child, rest, same, List.nil_prefix⟩
    · rintro (same | ⟨child, rest, same, -⟩)
      · exact .inl same
      · exact .inr ⟨child, rest, same, fun dots => plain ⟨child, rest, same, dots⟩⟩

/-- A child directory whose name begins with two dots is refused. -/
theorem dottedChild_refused : ¬ (contains [⟨"w", by decide⟩] [⟨"w", by decide⟩, ⟨"..a", by decide⟩] = true ↔
    CanonicalPath.text [⟨"w", by decide⟩, ⟨"..a", by decide⟩] = CanonicalPath.text [⟨"w", by decide⟩] ∨
      startsWith (CanonicalPath.text [⟨"w", by decide⟩, ⟨"..a", by decide⟩])
        (CanonicalPath.text [⟨"w", by decide⟩] ++ "/") = true) := by
  decide

/-! ## Links -/

inductive Entry where
  | directory
  | file
  | link (target : String)

/-- What stands at each path; something stands below directories only. -/
structure FileSystem where
  entry : CanonicalPath → Option Entry
  below : ∀ path name, entry (path ++ [name]) ≠ none → path = [] ∨ entry path = some .directory

namespace FileSystem

variable (files : FileSystem)

/-- Follow a path up to the first link. When a file is created, nothing need stand at the end. -/
def walkWith (creating : Bool) (follow : CanonicalPath → List Component → Except String CanonicalPath) :
    CanonicalPath → List Component → Except String CanonicalPath
  | here, [] => .ok here
  | here, .skip :: rest => walkWith creating follow here rest
  | here, .up :: rest => walkWith creating follow here.dropLast rest
  | here, .name name :: rest =>
    match files.entry (here ++ [name]) with
    | none => if creating && rest.isEmpty then .ok (here ++ [name]) else .error "ENOENT"
    | some .directory => walkWith creating follow (here ++ [name]) rest
    | some .file => if rest.isEmpty then .ok (here ++ [name]) else .error "ENOTDIR"
    | some (.link target) => follow (if isAbsolute target then [] else here) (components target ++ rest)

/-- Follow a path, with at most so many links. -/
def walk (creating : Bool) : Nat → CanonicalPath → List Component → Except String CanonicalPath
  | 0 => files.walkWith creating fun _ _ => .error "ELOOP"
  | links + 1 => files.walkWith creating (walk creating links)

def realpath (links : Nat) (path : CanonicalPath) : Except String CanonicalPath :=
  files.walk false links [] (path.map .name)

/-- Where a file is when it is opened or created at the path. -/
def location (links : Nat) (path : CanonicalPath) : Except String CanonicalPath :=
  files.walk true links [] (path.map .name)

/-- What follows a link when at most so many are followed. -/
def following (creating : Bool) : Nat → CanonicalPath → List Component → Except String CanonicalPath
  | 0 => fun _ _ => .error "ELOOP"
  | links + 1 => files.walk creating links

/-- Where a link in a directory leads. -/
def linkLocation (links : Nat) (directory : CanonicalPath) (target : String) : Except String CanonicalPath :=
  files.following true links (if isAbsolute target then [] else directory) (components target)

/-- There is such a directory. -/
def IsDirectory (path : CanonicalPath) : Prop := path = [] ∨ files.entry path = some .directory

end FileSystem

/-! ## The policy -/

structure WorkspacePolicy where
  roots : List Root

namespace WorkspacePolicy

def create (files : FileSystem) (links : Nat) (directory : CanonicalPath) (configuredRoots : List String) :
    Except String WorkspacePolicy := do
  throwIf (configuredRoots = []) "at least one local workspace root is required"
  let roots ← each (fun root _ => do
    let canonical ← files.realpath links (resolve directory root)
    if some : canonical ≠ [] then .ok (⟨canonical, some⟩ : Root)
    else .error "the filesystem root cannot be used as a workspace root") configuredRoots
  return ⟨distinct roots⟩

variable (policy : WorkspacePolicy) (files : FileSystem) (links : Nat) (directory : CanonicalPath) (target : String)

def authorize (canonical : CanonicalPath) : Except String Unit :=
  throwIf (¬ policy.roots.any fun root => contains root.val canonical)
    s!"local path is outside the configured workspace roots: {target}"

def authorizeExisting : Except String CanonicalPath := do
  let canonical ← files.realpath links (resolve directory target)
  policy.authorize target canonical
  return canonical

def basename (path : CanonicalPath) : String := (path.getLast?.map Subtype.val).getD ""

def authorizeCreation : Except String CanonicalPath := do
  let absolute := resolve directory target
  let parent ← files.realpath links absolute.dropLast
  policy.authorize target parent
  return resolve parent (basename absolute)

/-- The path is a root or below one. -/
def Inside (path : CanonicalPath) : Prop := ∃ root ∈ policy.roots, root.val <+: path

end WorkspacePolicy

/-! ## Canonical directories -/

namespace FileSystem

variable {files : FileSystem} {creating : Bool}
  {follow : CanonicalPath → List Component → Except String CanonicalPath}

theorem IsDirectory.dropLast {path : CanonicalPath} (real : files.IsDirectory path) : files.IsDirectory path.dropLast := by
  rcases List.eq_nil_or_concat' path with rfl | ⟨front, name, rfl⟩
  · exact real
  · rw [List.dropLast_concat]
    refine files.below front name fun none => ?_
    rcases real with empty | some
    · simp at empty
    · rw [none] at some
      cases some

/-- The path is a directory, or a file in one. -/
def Exists (files : FileSystem) (path : CanonicalPath) : Prop := files.IsDirectory path ∨ files.entry path = some .file

theorem walkWith_exists {place : CanonicalPath}
    (followed : ∀ here rest, files.IsDirectory here → follow here rest = .ok place → files.Exists place)
    {rest : List Component} {here : CanonicalPath} (real : files.IsDirectory here)
    (walked : files.walkWith false follow here rest = .ok place) : files.Exists place := by
  induction rest generalizing here with
  | nil =>
    cases walked
    exact .inl real
  | cons part rest ih =>
    cases part with
    | skip => exact ih real walked
    | up => exact ih real.dropLast walked
    | name name =>
      rw [walkWith] at walked
      rcases found : files.entry (here ++ [name]) with _ | _ | _ | link <;> simp only [found] at walked
      · cases walked
      · exact ih (.inr found) walked
      · split at walked
        · cases walked
          exact .inr found
        · cases walked
      · refine followed _ _ ?_ walked
        split
        · exact .inl rfl
        · exact real

/-- What a path resolves to exists. -/
theorem walk_exists {links : Nat} {here place : CanonicalPath} {rest : List Component} (real : files.IsDirectory here)
    (walked : files.walk false links here rest = .ok place) : files.Exists place := by
  induction links generalizing here rest with
  | zero => exact walkWith_exists (fun _ _ _ followed => by cases followed) real walked
  | succ links ih => exact walkWith_exists (fun _ _ real followed => ih real followed) real walked

/-- A path through directories leads through them. -/
theorem walkWith_through {path : CanonicalPath} (real : files.IsDirectory path) (rest : List Component) :
    files.walkWith creating follow [] (path.map .name ++ rest) = files.walkWith creating follow path rest := by
  induction path using List.reverseRecOn generalizing rest with
  | nil => rfl
  | append_singleton front name ih =>
    have front_real := real.dropLast
    rw [List.dropLast_concat] at front_real
    have found : files.entry (front ++ [name]) = some .directory := real.resolve_left (by simp)
    rw [List.map_append, List.append_assoc, ih front_real, List.map_singleton, List.singleton_append, walkWith, found]

theorem walk_eq (links : Nat) : files.walk creating links = files.walkWith creating (files.following creating links) := by
  cases links <;> rfl

/-- A name in a directory is where it is, unless it is a link. -/
theorem location_name {parent : CanonicalPath} (real : files.IsDirectory parent) (links : Nat) (name : Name) :
    files.location links (parent ++ [name]) = match files.entry (parent ++ [name]) with
      | some (.link target) => files.linkLocation links parent target
      | _ => .ok (parent ++ [name]) := by
  rw [location, walk_eq, List.map_append, walkWith_through real, List.map_singleton, walkWith]
  rcases found : files.entry (parent ++ [name]) with _ | _ | _ | target
  · rfl
  · rfl
  · rfl
  · simp only [List.append_nil]
    rfl

/-- Nothing is created below a file. -/
theorem location_file {parent : CanonicalPath} (file : files.entry parent = some .file) (links : Nat) (name : Name) :
    files.location links (parent ++ [name]) = .error "ENOTDIR" ∨ parent = [] := by
  rcases List.eq_nil_or_concat' parent with rfl | ⟨front, last, rfl⟩
  · exact .inr rfl
  · have real : files.IsDirectory front := files.below front last (by simp [file])
    rw [location, walk_eq, List.map_append, List.map_append, List.append_assoc, walkWith_through real, List.map_singleton,
      List.singleton_append, walkWith, file]
    exact .inl rfl

end FileSystem

namespace WorkspacePolicy

variable {policy : WorkspacePolicy} {files : FileSystem} {links limit : Nat} {directory path : CanonicalPath}
  {target : String}

theorem authorize_inside {canonical : CanonicalPath} {done : Unit}
    (authorized : policy.authorize target canonical = .ok done) : policy.Inside canonical := by
  have accepted := not_not.mp (throwIf_ok.mp authorized)
  obtain ⟨root, listed, contained⟩ := List.any_eq_true.mp accepted
  refine ⟨root, listed, ?_⟩
  rcases (contains_iff root.val canonical).mp contained with rfl | ⟨child, rest, rfl, -⟩
  · exact List.prefix_refl _
  · exact List.prefix_append _ _

theorem resolve_name (here : CanonicalPath) (name : Name) : resolve here name.val = here ++ [name] := by
  have plain : isAbsolute name.val = false := by
    rw [isAbsolute, startsWith, ← Bool.not_eq_true, List.isPrefixOf_iff_prefix]
    rintro ⟨rest, whole⟩
    exact name.property.2.2.2 (by rw [← whole]; simp)
  rw [resolve, plain, components_name]
  rfl

theorem not_inside_nil : ¬ policy.Inside [] := by
  rintro ⟨root, -, below⟩
  exact root.property (List.prefix_nil.mp below)

/-- What is authorized is a name in a directory or a file inside. -/
theorem authorizeCreation_ok (authorized : policy.authorizeCreation files links directory target = .ok path) :
    ∃ parent name, path = parent ++ [name] ∧ policy.Inside parent ∧ files.Exists parent := by
  rw [authorizeCreation] at authorized
  obtain ⟨parent, found, authorized⟩ := bind_ok.mp authorized
  obtain ⟨_, inside, returned⟩ := bind_ok.mp authorized
  have inside := authorize_inside inside
  cases returned
  rcases List.eq_nil_or_concat' (resolve directory target) with none | ⟨front, name, some⟩
  · rw [none, List.dropLast_nil, FileSystem.realpath, FileSystem.walk_eq] at found
    cases found
    exact absurd inside not_inside_nil
  · refine ⟨parent, name, ?_, inside, FileSystem.walk_exists (.inl rfl) found⟩
    rw [some, basename, List.getLast?_concat]
    exact resolve_name parent name

/-- An authorized file is created inside exactly if no link at its path leads outside. -/
theorem authorizeCreation_inside_iff (authorized : policy.authorizeCreation files links directory target = .ok path) :
    (∀ place, files.location limit path = .ok place → policy.Inside place) ↔
      ∀ link, files.entry path = some (.link link) →
        ∀ place, files.linkLocation limit path.dropLast link = .ok place → policy.Inside place := by
  obtain ⟨parent, name, rfl, inside, real | file⟩ := authorizeCreation_ok authorized
  · have own : policy.Inside (parent ++ [name]) := by
      obtain ⟨root, listed, below⟩ := inside
      exact ⟨root, listed, below.trans (List.prefix_append _ _)⟩
    rw [FileSystem.location_name real, List.dropLast_concat]
    rcases files.entry (parent ++ [name]) with _ | _ | _ | link <;> simp [own]
  · have nothing : files.entry (parent ++ [name]) = none := by
      by_contra some
      rcases files.below parent name some with rfl | real
      · exact not_inside_nil inside
      · rw [file] at real
        cases real
    rcases FileSystem.location_file file limit name with refused | rfl
    · simp [refused, nothing]
    · exact absurd inside not_inside_nil

/-! ## A link in the workspace -/

def workspace : Name := ⟨"w", by decide⟩

def elsewhere : Name := ⟨"e", by decide⟩

def linked : Name := ⟨"l", by decide⟩

/-- Two directories, and a link from one to the other. -/
def sampleFiles : FileSystem where
  entry path :=
    if path = [workspace] ∨ path = [elsewhere] then some .directory
    else if path = [workspace, linked] then some (.link "/e") else none
  below path name some := by
    rcases path with _ | ⟨first, _ | ⟨second, rest⟩⟩
    · exact .inl rfl
    · by_cases here : first = workspace
      · exact .inr (by simp [here])
      · simp [here] at some
    · simp at some

def samplePolicy : WorkspacePolicy := ⟨[⟨[workspace], by decide⟩]⟩

theorem sampleFile_authorized : samplePolicy.authorizeCreation sampleFiles 40 [] "/w/e" = .ok [workspace, elsewhere] ∧
    ((∀ place, sampleFiles.location 40 [workspace, elsewhere] = .ok place → samplePolicy.Inside place) ↔
      ∀ link, sampleFiles.entry [workspace, elsewhere] = some (.link link) →
        ∀ place, sampleFiles.linkLocation 40 [workspace] link = .ok place → samplePolicy.Inside place) := by
  have authorized : samplePolicy.authorizeCreation sampleFiles 40 [] "/w/e" = .ok [workspace, elsewhere] := by
    decide
  exact ⟨authorized, authorizeCreation_inside_iff authorized⟩

/-- What is written through the link is written outside. -/
theorem linkedFile_outside : samplePolicy.authorizeCreation sampleFiles 40 [] "/w/l" = .ok [workspace, linked] ∧
    sampleFiles.location 40 [workspace, linked] = .ok [elsewhere] ∧ ¬ samplePolicy.Inside [elsewhere] := by
  refine ⟨by decide, by decide, ?_⟩
  rintro ⟨root, listed, below⟩
  rw [List.mem_singleton.mp listed] at below
  exact absurd below (by decide)

end WorkspacePolicy

end QuarkSelfAI.Execution
