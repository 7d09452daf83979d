import ListenerPorts.Files.Basic

set_option autoImplicit false

/-! # A folder in memory

A folder with everything under it, as the lists of the folders and of the files that it holds. Each
is known by the names that lead to it from the top. Only what lies under the top can be reached, and
the operating system bounds the lengths of names and paths.
-/

namespace ListenerPorts

/-- The content of a folder, at any depth. -/
structure Folder where
  folders : List (List String) := []
  files : List (List String × ByteArray) := []

namespace Folder

def maxNameBytes : Nat := 255

def maxPathBytes : Nat := 4095

def hasFolder (d : Folder) (place : List String) : Bool := place.isEmpty || d.folders.contains place

/-- Follows names from a folder on, one after the other, or tells what is seen where they lead no
further. Every name but the last must lead to a folder, and `..` leads to the folder above, unless
that is the top. -/
def follow (d : Folder) : List String → List String → Except Sight (List String)
  | place, [] => .ok place
  | place, name :: names =>
    if !d.hasFolder place then .error .nothing
    else if maxNameBytes < name.utf8ByteSize then .error .refused
    else if name = ".." then
      if place.isEmpty then .error .nothing else d.follow place.dropLast names
    else d.follow (place ++ [name]) names

/-- What a path leads to. A path with a null character leads nowhere, however long it is. -/
def resolve (d : Folder) (p : Path) : Except Sight (List String) :=
  if p.names.any fun name => name.toList.contains '\x00' then .error .nothing
  else if maxPathBytes < p.text.utf8ByteSize then .error .refused
  else
    match p.start with
    | .here => d.follow [] p.names
    | _ => .error .nothing

def read (d : Folder) : Files := fun p =>
  match d.resolve p with
  | .ok names =>
    match d.files.lookup names with
    | some bytes => .file bytes
    | none => .nothing
  | .error sight => sight

/-- Where names lead no further there is no file. -/
theorem eq_of_follow_error {d : Folder} {place names : List String} {sight : Sight}
    (h : d.follow place names = .error sight) : sight = .nothing ∨ sight = .refused := by
  induction names generalizing place with
  | nil => cases h
  | cons name names ih =>
      unfold follow at h
      split at h
      · cases h
        exact Or.inl rfl
      · split at h
        · cases h
          exact Or.inr rfl
        · split at h
          · split at h
            · cases h
              exact Or.inl rfl
            · exact ih h
          · exact ih h

theorem eq_of_resolve_error {d : Folder} {p : Path} {sight : Sight}
    (h : d.resolve p = .error sight) : sight = .nothing ∨ sight = .refused := by
  unfold resolve at h
  split at h
  · cases h
    exact Or.inl rfl
  · split at h
    · cases h
      exact Or.inr rfl
    · split at h
      · exact eq_of_follow_error h
      · cases h
        exact Or.inl rfl

theorem has_read_of_no_files {d : Folder} (h : d.files = []) (p : Path) :
    d.read.has p ≠ .ok true := by
  unfold Files.has read
  rw [h]
  cases hsight : d.resolve p with
  | ok names => nofun
  | error sight => rcases eq_of_resolve_error hsight with rfl | rfl <;> nofun

/-- A name with too many bytes is refused, whatever the folder holds. -/
theorem has_read_overlong (d : Folder) {name : String} (hnull : '\x00' ∉ name.toList)
    (hlong : maxNameBytes < name.utf8ByteSize) :
    d.read.has ⟨.here, [name]⟩ = .error .fileRefused := by
  have hrefused : d.resolve ⟨.here, [name]⟩ = .error .refused := by
    unfold resolve
    rw [if_neg (by simpa using hnull)]
    split
    · rfl
    · simp [follow, hasFolder, hlong]
  unfold Files.has read
  rw [hrefused]

/-- The folder with one more folder in it, if there is a place for it. -/
def addStep (d : Folder) (p : Path) : Folder :=
  match d.resolve p with
  | .ok names => { d with folders := names :: d.folders }
  | .error _ => d

/-- The folder with all folders in it that a path leads through. -/
def addFolder (d : Folder) (p : Path) : Folder :=
  (List.range p.names.length).foldl (fun d n => d.addStep ⟨p.start, p.names.take (n + 1)⟩) d

/-- The folder with a file put at a path, and all folders that lead there. -/
def write (d : Folder) (p : Path) (bytes : ByteArray) : Folder :=
  let d := d.addFolder ⟨p.start, p.names.dropLast⟩
  match d.resolve p with
  | .ok names => { d with files := (names, bytes) :: d.files }
  | .error _ => d

/-- The folder without the file at a path. -/
def remove (d : Folder) (p : Path) : Folder :=
  match d.resolve p with
  | .ok names => { d with files := d.files.filter (·.1 ≠ names) }
  | .error _ => d

end Folder

end ListenerPorts
