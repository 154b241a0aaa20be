import Mathlib.Logic.Function.Basic
import XpuManager.Amc.Frame
import XpuManager.Xpumd.Pdata

/-! # The crash log receiver

The receiver (`receiver/intelcrashlog/receiver.go`) watches a directory. It first looks at the files
that it reads off the directory, then at those for which a `Create` event comes in; a file that it
has read is marked by its path until a `Remove` or `Rename` event comes in for the path.

The system is the receiver, the directory and the queue of events between them. Files are put in
place by an atomic rename and removed at any time, also between the receiver's `Lstat` and its
`ReadFile`. -/

namespace XpuManager

/-! ## The directory -/

/-- What `Lstat` and `ReadFile` say of a file. The `version` tells apart the files that are put in
place one after the other; the receiver does not see it. -/
structure CrashFile where
  version : Nat
  regular : Bool
  modTime : Int
  data : Option Bytes
  deriving DecidableEq

/-- The operations of `fsnotify` that the receiver tells apart. -/
inductive FsOp where
  | create
  | remove
  | rename
  deriving DecidableEq

/-- An event for a path in the directory, with the version of the file that came or went. -/
structure FsEvent where
  name : String
  op : FsOp
  version : Nat
  deriving DecidableEq

/-! ## The receiver -/

/-- The configuration; `glob` says which names match the pattern, which is valid since startup, and
`ignoreOlderThan` is the time computed from it at startup. -/
structure CrashlogConfig where
  glob : String → Bool
  ignoreOlderThan : Int
  addAttributes : List (String × String)

/-- A log record, less the time of observation. -/
structure CrashlogRecord where
  timestamp : Int
  body : Bytes
  attributes : AttrMap
  deriving DecidableEq

/-- Where the receiver stands: it has yet to read the directory, it looks at the entries it has
read, or it waits for events. -/
inductive CrashlogPhase where
  | starting
  | scanning (entries : List String)
  | watching
  deriving DecidableEq

/-- A file between `Lstat` and `ReadFile`; `origin` is the version of the `Create` event. -/
structure Inspection where
  name : String
  info : CrashFile
  origin : Option Nat

/-- The directory, the queue and the receiver. Two fields are there for the statements only:
`emitted` has the version of each record, and `due` the versions that were in place, to be emitted,
at the end of the handling of their `Create` event. -/
structure CrashlogState where
  files : String → Option CrashFile
  nextVersion : Nat
  events : List FsEvent
  phase : CrashlogPhase
  inspecting : Option Inspection
  processedFiles : String → Bool
  emitted : List (Nat × CrashlogRecord)
  due : List Nat

/-- A regular file with a matching name that is recent enough. -/
def CrashlogConfig.wants (cfg : CrashlogConfig) (name : String) (file : CrashFile) : Bool :=
  cfg.glob name && file.regular && !decide (file.modTime < cfg.ignoreOlderThan)

section BDF

def isHexDigit (c : Char) : Bool :=
  c.isDigit || decide ('a' ≤ c ∧ c ≤ 'f') || decide ('A' ≤ c ∧ c ≤ 'F')

/-- The PCI address at the front of some text, unless a letter or digit follows it. -/
def bdfPrefix : List Char → Option (List Char)
  | d₁ :: d₂ :: d₃ :: d₄ :: ':' :: b₁ :: b₂ :: ':' :: v₁ :: v₂ :: '.' :: f :: rest =>
    let last := match rest with
      | [] => true
      | c :: _ => !c.isAlphanum
    if [d₁, d₂, d₃, d₄, b₁, b₂, v₁, v₂, f].all isHexDigit && last then
      some [d₁, d₂, d₃, d₄, ':', b₁, b₂, ':', v₁, v₂, '.', f]
    else none
  | _ => none

/-- The first PCI address behind a character that is no letter or digit. -/
def bdfInside : List Char → Option (List Char)
  | [] => none
  | c :: rest =>
    if c.isAlphanum then bdfInside rest
    else match bdfPrefix rest with
      | some bdf => some bdf
      | none => bdfInside rest

/-- The PCI address in a name, or the empty string. -/
def parseBDF (s : String) : String :=
  String.ofList (((bdfPrefix s.toList).or (bdfInside s.toList)).getD [])

end BDF

/-- The record of a file. -/
def crashlogRecord (cfg : CrashlogConfig) (name : String) (info : CrashFile) (data : Bytes) :
    CrashlogRecord where
  timestamp := info.modTime
  body := data
  attributes :=
    let attrs := AttrMap.putStr [] "file.name" name
    let attrs := if parseBDF name = "" then attrs else attrs.putStr "pci.bdf" (parseBDF name)
    cfg.addAttributes.foldl (fun attrs kv => attrs.putStr kv.1 kv.2) attrs

namespace CrashlogState

/-- The handling of a path ends; its file is due if it is the one the `Create` event was for. -/
def handled (cfg : CrashlogConfig) (name : String) (origin : Option Nat) (s : CrashlogState) :
    CrashlogState :=
  match s.files name with
  | none => s
  | some file =>
    if origin = some file.version ∧ cfg.wants name file then
      { s with due := file.version :: s.due }
    else s

/-- `handlePath` up to the call of `emitFile`. -/
def handlePath (cfg : CrashlogConfig) (name : String) (origin : Option Nat) (s : CrashlogState) :
    CrashlogState :=
  if !cfg.glob name then s.handled cfg name origin
  else match s.files name with
    | none => s.handled cfg name origin
    | some info =>
      if !info.regular then s.handled cfg name origin
      else if info.modTime < cfg.ignoreOlderThan then s.handled cfg name origin
      else if s.processedFiles name then s.handled cfg name origin
      else { s with inspecting := some ⟨name, info, origin⟩ }

/-- `emitFile`, which ends the handling of the path. -/
def emitFile (cfg : CrashlogConfig) (i : Inspection) (s : CrashlogState) : CrashlogState :=
  let s := { s with inspecting := none }
  match s.files i.name with
  | none => s.handled cfg i.name i.origin
  | some file =>
    match file.data with
    | none => s.handled cfg i.name i.origin
    | some data =>
      let processed := Function.update s.processedFiles i.name true
      let record := (file.version, crashlogRecord cfg i.name i.info data)
      let t := { s with processedFiles := processed, emitted := s.emitted ++ [record] }
      t.handled cfg i.name i.origin

end CrashlogState

/-! ## The system -/

/-- What can happen: a file is put in place, it is removed or moved away, `ReadDir` returns some
entries (none if it fails; the directory may change while it reads), and the receiver takes the next
entry, finds that there is none, takes the next event, or reads the file it has looked at. -/
inductive CrashlogAction where
  | place (name : String) (regular : Bool) (modTime : Int) (data : Option Bytes)
  | remove (name : String) (moved : Bool)
  | readDir (entries : List String)
  | scanEntry
  | scanDone
  | nextEvent
  | readFile

namespace CrashlogState

/-- A step of the directory or of the receiver; none where it cannot be taken. -/
def step (cfg : CrashlogConfig) (s : CrashlogState) : CrashlogAction → Option CrashlogState
  | .place name regular modTime data =>
    let file := ⟨s.nextVersion, regular, modTime, data⟩
    some { s with
      files := Function.update s.files name (some file)
      nextVersion := s.nextVersion + 1
      events := s.events ++ [⟨name, .create, s.nextVersion⟩] }
  | .remove name moved =>
    match s.files name with
    | none => none
    | some file =>
      let op := if moved then .rename else .remove
      some { s with
        files := Function.update s.files name none
        events := s.events ++ [⟨name, op, file.version⟩] }
  | .readDir entries =>
    if s.phase = .starting then some { s with phase := .scanning entries } else none
  | .scanEntry =>
    match s.phase, s.inspecting with
    | .scanning (name :: entries), none =>
      some (handlePath cfg name none { s with phase := .scanning entries })
    | _, _ => none
  | .scanDone =>
    match s.phase, s.inspecting with
    | .scanning [], none => some { s with phase := .watching }
    | _, _ => none
  | .nextEvent =>
    match s.phase, s.inspecting, s.events with
    | .watching, none, event :: events =>
      let t := { s with events := events }
      match event.op with
      | .create => some (handlePath cfg event.name (some event.version) t)
      | .remove | .rename =>
        let processed := Function.update t.processedFiles event.name false
        some { t with processedFiles := processed }
    | _, _, _ => none
  | .readFile =>
    match s.inspecting with
    | none => none
    | some i => some (emitFile cfg i s)

/-- The watch has just been added: the files that are there came without events. -/
structure Started (s : CrashlogState) : Prop where
  version_lt : ∀ name file, s.files name = some file → file.version < s.nextVersion
  version_inj : ∀ name name' file file', s.files name = some file → s.files name' = some file' →
    file.version = file'.version → name = name'
  events : s.events = []
  phase : s.phase = .starting
  inspecting : s.inspecting = none
  processedFiles : s.processedFiles = fun _ => false
  emitted : s.emitted = []
  due : s.due = []

/-- The versions of the records. -/
def emittedVersions (s : CrashlogState) : List Nat := s.emitted.map Prod.fst

/-- No version was emitted twice, and every version that was due was emitted. -/
structure EmitsOnce (s : CrashlogState) : Prop where
  nodup : s.emittedVersions.Nodup
  due : ∀ version ∈ s.due, version ∈ s.emittedVersions

end CrashlogState

end XpuManager
