import Mathlib.Data.List.DropRight
import Mathlib.Data.List.Infix
import Mathlib.Logic.Function.Basic
import XpuManager.Lib.Numerals
import XpuManager.Lib.Prog

/-! # Reading and writing files

The library part of the program talks to the kernel through files (`hal/core/file_io.cpp`). A run
keeps what the files contain and what was done with them; how each single access ends is up to the
file system. An exception that nobody catches ends a run in `fault`. -/

namespace XpuManager

/-- Whether there is a file, or why that cannot be told. -/
inductive ExistsOutcome where
  | present
  | absent
  | denied
  | failed
  deriving DecidableEq

/-- A file cannot be opened, gives nothing, or is read to its end. -/
inductive ReadOutcome where
  | notOpened
  | broken
  | complete
  deriving DecidableEq

/-- A file cannot be opened, does not take what is written to it, or takes it. -/
inductive WriteOutcome where
  | notOpened
  | refused
  | taken
  deriving DecidableEq

/-- How the accesses to files end, where symbolic links lead, and where `findResourceFile` finds the
files that come with the program. -/
structure FileIo where
  onExists : String → ExistsOutcome
  onRead : String → ReadOutcome
  onWrite : String → String → WriteOutcome
  target : String → String
  findResourceFile : String → String

/-- What is done with a file. -/
inductive FileEvent where
  | looked (path : String)
  | read (path : String)
  | written (path content : String) (outcome : WriteOutcome)
  deriving DecidableEq

def FileEvent.path : FileEvent → String
  | .looked path | .read path | .written path _ _ => path

/-- What the files contain, by where their links lead, and what was done with them. -/
structure FileState where
  contents : String → String
  trace : List FileEvent

namespace FileState

/-- An event is noted. -/
def log (event : FileEvent) (s : FileState) : FileState := { s with trace := s.trace ++ [event] }

/-- One file written. -/
def write (io : FileIo) (s : FileState) (file : String × String) : FileState where
  contents := if io.onWrite file.1 file.2 = .taken then
      Function.update s.contents (io.target file.1) file.2
    else s.contents
  trace := s.trace ++ [.written file.1 file.2 (io.onWrite file.1 file.2)]

end FileState

section Access

variable (io : FileIo)

/-- Whether there is a file of the name, which may be denied. -/
def pathExists (path : String) : Prog FileState ExistsOutcome := do
  Prog.modify (FileState.log (.looked path))
  pure (io.onExists path)

/-- Whether there is a file of the name. -/
def fileExists (path : String) : Prog FileState Bool := do
  let outcome ← pathExists io path
  match outcome with
  | .present => pure true
  | .absent => pure false
  | .denied | .failed => Prog.fault

/-- What an input stream gives, if it can be opened. -/
def streamContent (contents : String → String) (path : String) : Option String :=
  match io.onRead path with
  | .notOpened => none
  | .broken => some ""
  | .complete => some (contents (io.target path))

/-- The contents of a file, if it can be opened. -/
def readStream (path : String) : Prog FileState (Option String) := do
  Prog.modify (FileState.log (.read path))
  let s ← Prog.get
  pure (streamContent io s.contents path)

/-- Without the white space at the end. -/
def trimEnd (s : String) : String := String.ofList (s.toList.rdropWhile Numerals.isSpace)

/-- `none` is the result -1. -/
def readFile (path : String) : Prog FileState (Option String) := do
  let content ← readStream io path
  pure (content.map trimEnd)

/-- A file that does not take what is written to it goes unnoticed. -/
def writeFile (path content : String) : Prog FileState Int := do
  Prog.modify fun s => s.write io (path, content)
  pure (if io.onWrite path content = .notOpened then -1 else 0)

/-- `if (writeFile(path, content) != 0) return -1;` for some files. -/
def writeFiles : List (String × String) → Prog FileState Int
  | [] => pure 0
  | file :: files => Prog.chain 0 (writeFile io file.1 file.2) (writeFiles files)

end Access

/-- The parts of a text between delimiters, without empty ones. -/
def split (s : String) (delim : Char) : List String :=
  ((s.toList.splitOn delim).filter fun part => part ≠ []).map String.ofList

/-- The lines that `std::getline` gives. -/
def fileLines (content : String) : List (List Char) :=
  let lines := content.toList.splitOn '\n'
  if lines.getLast? = some [] then lines.dropLast else lines

/-- `strstr`, without the place. -/
def hasInfix (part cs : List Char) : Bool := cs.tails.any part.isPrefixOf

theorem hasInfix_iff {part cs : List Char} : hasInfix part cs ↔ part <:+: cs := by
  rw [hasInfix, List.any_eq_true, List.infix_iff_prefix_suffix]
  refine exists_congr fun tail => ?_
  rw [List.mem_tails, List.isPrefixOf_iff_prefix, and_comm]

/-! ## What the accesses do -/

section Runs

variable {io : FileIo} {path content : String} {files files' : List (String × String)}
  {s t : FileState}

theorem readStream_apply : readStream io path s =
    (.ret (streamContent io s.contents path), s.log (.read path)) := rfl

theorem readFile_apply : readFile io path s =
    (.ret ((streamContent io s.contents path).map trimEnd), s.log (.read path)) := rfl

/-- A run that writes nothing. -/
structure Observes (s t : FileState) : Prop where
  contents_eq : t.contents = s.contents
  trace_eq : ∃ events : List FileEvent, t.trace = s.trace ++ events ∧
    ∀ event ∈ events, ∀ path content outcome, event ≠ .written path content outcome

instance : Std.Refl Observes where
  refl _ := ⟨rfl, [], (List.append_nil _).symm, nofun⟩

instance : IsTrans FileState Observes where
  trans _ _ _ h h' := by
    obtain ⟨events, htrace, hevents⟩ := h.trace_eq
    obtain ⟨events', htrace', hevents'⟩ := h'.trace_eq
    refine ⟨h'.contents_eq.trans h.contents_eq, events ++ events', ?_, fun event hmem => ?_⟩
    · rw [htrace', htrace, List.append_assoc]
    · rcases List.mem_append.mp hmem with hmem | hmem
      · exact hevents event hmem
      · exact hevents' event hmem

theorem observes_log {event : FileEvent}
    (h : ∀ path content outcome, event ≠ .written path content outcome) (s : FileState) :
    Observes s (s.log event) :=
  ⟨rfl, [event], rfl, fun e he => by rw [List.mem_singleton.mp he]; exact h⟩

theorem observes_readStream (io : FileIo) (path : String) :
    Prog.Within Observes (readStream io path) := observes_log nofun

theorem observes_readFile (io : FileIo) (path : String) :
    Prog.Within Observes (readFile io path) := observes_log nofun

theorem observes_pathExists (io : FileIo) (path : String) :
    Prog.Within Observes (pathExists io path) := observes_log nofun

theorem observes_fileExists (io : FileIo) (path : String) :
    Prog.Within Observes (fileExists io path) := by
  refine Prog.Within.bind (observes_pathExists io path) fun outcome => ?_
  cases outcome with
  | present => exact Prog.Within.pure true
  | absent => exact Prog.Within.pure false
  | denied => exact Prog.Within.fault
  | failed => exact Prog.Within.fault

/-- A run that has to do with some paths only. -/
def Touches (ok : String → Prop) (s t : FileState) : Prop :=
  ∃ events : List FileEvent, t.trace = s.trace ++ events ∧ ∀ event ∈ events, ok event.path

instance (ok : String → Prop) : Std.Refl (Touches ok) where
  refl _ := ⟨[], (List.append_nil _).symm, nofun⟩

instance (ok : String → Prop) : IsTrans FileState (Touches ok) where
  trans _ _ _ := by
    rintro ⟨events, htrace, hevents⟩ ⟨events', htrace', hevents'⟩
    refine ⟨events ++ events', by rw [htrace', htrace, List.append_assoc], fun event hmem => ?_⟩
    rcases List.mem_append.mp hmem with hmem | hmem
    · exact hevents event hmem
    · exact hevents' event hmem

section Touches

variable {ok : String → Prop}

theorem touches_one (event : FileEvent) (h : ok event.path) (ht : t.trace = s.trace ++ [event]) :
    Touches ok s t :=
  ⟨[event], ht, fun e he => by rw [List.mem_singleton.mp he]; exact h⟩

theorem touches_readStream (h : ok path) : Prog.Within (Touches ok) (readStream io path) :=
  fun _ => touches_one (.read path) h rfl

theorem touches_readFile (h : ok path) : Prog.Within (Touches ok) (readFile io path) :=
  fun _ => touches_one (.read path) h rfl

theorem touches_pathExists (h : ok path) : Prog.Within (Touches ok) (pathExists io path) :=
  fun _ => touches_one (.looked path) h rfl

theorem touches_fileExists (h : ok path) : Prog.Within (Touches ok) (fileExists io path) := by
  refine Prog.Within.bind (touches_pathExists h) fun outcome => ?_
  cases outcome with
  | present => exact Prog.Within.pure true
  | absent => exact Prog.Within.pure false
  | denied => exact Prog.Within.fault
  | failed => exact Prog.Within.fault

theorem touches_writeFile (h : ok path) : Prog.Within (Touches ok) (writeFile io path content) :=
  fun _ => touches_one (.written path content (io.onWrite path content)) h rfl

theorem touches_chain {m k : Prog FileState Int} (hm : Prog.Within (Touches ok) m)
    (hk : Prog.Within (Touches ok) k) : Prog.Within (Touches ok) (Prog.chain 0 m k) :=
  Prog.Within.bind hm fun _ => Prog.Within.ite hk (Prog.Within.pure _)

theorem touches_writeFiles (h : ∀ file ∈ files, ok file.1) :
    Prog.Within (Touches ok) (writeFiles io files) := by
  induction files with
  | nil => exact Prog.Within.pure 0
  | cons file files ih =>
    exact touches_chain (touches_writeFile (h file List.mem_cons_self))
      (ih fun file' hmem => h file' (List.mem_cons_of_mem file hmem))

theorem touches_ofOption {α : Type} (a : Option α) :
    Prog.Within (Touches ok) (Prog.ofOption a : Prog FileState α) := by
  cases a with
  | none => exact Prog.Within.fault
  | some a => exact Prog.Within.pure a

end Touches

/-- The file can be opened. -/
def Opens (io : FileIo) (file : String × String) : Bool :=
  io.onWrite file.1 file.2 ≠ .notOpened

/-- The files that are opened, up to the first that cannot be. -/
def attempted (io : FileIo) : List (String × String) → List (String × String)
  | [] => []
  | file :: files => file :: if Opens io file then attempted io files else []

theorem attempted_of_opens (h : ∀ file ∈ files, Opens io file) : attempted io files = files := by
  induction files with
  | nil => rfl
  | cons file files ih =>
    rw [attempted, if_pos (h file List.mem_cons_self),
      ih fun file' hmem => h file' (List.mem_cons_of_mem file hmem)]

/-- **Files written one after the other** until one cannot be opened. -/
theorem writeFiles_apply (files : List (String × String)) (s : FileState) : writeFiles io files s =
    (.ret (if ∀ file ∈ files, Opens io file then 0 else -1),
      (attempted io files).foldl (FileState.write io) s) := by
  induction files generalizing s with
  | nil => rfl
  | cons file files ih =>
    have hfile : writeFile io file.1 file.2 s =
        (.ret (if io.onWrite file.1 file.2 = .notOpened then -1 else 0), s.write io file) := rfl
    rw [writeFiles, Prog.chain, Prog.bind_of_ret hfile, Prog.ite_apply, attempted]
    by_cases hopen : Opens io file
    · have hne : io.onWrite file.1 file.2 ≠ .notOpened := of_decide_eq_true hopen
      rw [if_neg hne, if_pos rfl, ih, if_pos hopen, List.foldl_cons]
      simp only [List.forall_mem_cons, hopen, true_and]
    · have heq : io.onWrite file.1 file.2 = .notOpened := by
        by_contra hne
        exact hopen (decide_eq_true hne)
      rw [if_pos heq, if_neg (by decide), if_neg hopen,
        if_neg fun hall => hopen (hall file List.mem_cons_self)]
      rfl

/-- Two lists of files, the second written after the first. -/
theorem writeFiles_append (files files' : List (String × String)) :
    writeFiles io (files ++ files') = Prog.chain 0 (writeFiles io files) (writeFiles io files') := by
  induction files with
  | nil => rfl
  | cons file files ih =>
    rw [List.cons_append, writeFiles, writeFiles, ih]
    simp only [Prog.chain, Prog.bind_assoc]
    congr 1
    funext r
    by_cases hr : r = 0
    · rw [if_pos hr, if_pos hr]
    · rw [if_neg hr, if_neg hr, Prog.pure_bind, if_neg hr]

/-- What writing files leaves in the trace. -/
theorem trace_foldl_write (files : List (String × String)) (s : FileState) :
    (files.foldl (FileState.write io) s).trace =
      s.trace ++ files.map fun file => .written file.1 file.2 (io.onWrite file.1 file.2) := by
  induction files generalizing s with
  | nil => rw [List.map_nil, List.append_nil]; rfl
  | cons file files ih =>
    rw [List.foldl_cons, ih, List.map_cons, FileState.write, List.append_assoc]
    rfl

end Runs

/-! ## Names of files -/

/-- A leaf of a path: a slash and a name without one. -/
def IsLeaf (leaf : String) : Bool :=
  match leaf.toList with
  | '/' :: name => !name.contains '/'
  | _ => false

theorem toList_of_isLeaf {leaf : String} (h : IsLeaf leaf) :
    ∃ name, leaf.toList = '/' :: name ∧ '/' ∉ name := by
  unfold IsLeaf at h
  split at h
  case h_1 name heq =>
    rw [Bool.not_eq_true', ← Bool.not_eq_true, List.contains_iff_mem] at h
    exact ⟨name, heq, h⟩
  case h_2 => cases h

/-- What comes behind the last slash begins where the other does. -/
theorem append_slash_le {xs ys as bs : List Char} (has : '/' ∉ as)
    (h : xs ++ '/' :: as = ys ++ '/' :: bs) : ys.length ≤ xs.length := by
  rcases List.append_eq_append_iff.mp h with ⟨zs, hys, hzs⟩ | ⟨zs, hxs, -⟩
  · cases zs with
    | nil => rw [hys, List.append_nil]
    | cons z zs =>
      obtain ⟨-, hzs⟩ := List.cons.inj hzs
      refine absurd ?_ has
      rw [hzs]
      exact List.mem_append_right _ List.mem_cons_self
  · rw [hxs, List.length_append]
    exact Nat.le_add_right _ _

/-- **A directory and a leaf** make up a path in one way. -/
theorem path_inj {dir dir' leaf leaf' : String} (hleaf : IsLeaf leaf) (hleaf' : IsLeaf leaf')
    (h : dir ++ leaf = dir' ++ leaf') : dir = dir' ∧ leaf = leaf' := by
  obtain ⟨name, hlist, hname⟩ := toList_of_isLeaf hleaf
  obtain ⟨name', hlist', hname'⟩ := toList_of_isLeaf hleaf'
  have happ : dir.toList ++ '/' :: name = dir'.toList ++ '/' :: name' := by
    rw [← hlist, ← hlist', ← String.toList_append, ← String.toList_append, h]
  have hlength : dir.toList.length = dir'.toList.length :=
    Nat.le_antisymm (append_slash_le hname' happ.symm) (append_slash_le hname happ)
  obtain ⟨hdir, htail⟩ := List.append_inj happ hlength
  refine ⟨String.toList_inj.mp hdir, String.toList_inj.mp ?_⟩
  rw [hlist, hlist', htail]

end XpuManager
